import Mathlib.Data.Nat.Digits

/-!
# `strconv`: decimal integers

The conversions the destination server and its helpers make between decimal text and integers,
for base 10 on a 64-bit platform:

* `parseUint`, `parseInt`, `atoi` — `strconv.ParseUint`, `strconv.ParseInt` and `strconv.Atoi`,
  with their syntax and range errors (`NumError`);
* `itoa` — `strconv.Itoa` on a non-negative value, which is also what `fmt`'s `%d` prints.

Go measures `len(s)` in bytes and the model counts characters.  The two agree on every string of
ASCII characters; a string with any other character is a syntax error on either path of `atoi`
before any range check could tell them apart.

The main results are `atoi_eq_ok_iff` (exactly which strings `Atoi` accepts, and their value) and
`atoi_itoa` (the decimal text of a 64-bit value reads back as that value).
-/

namespace Linkerd
namespace Go

/-- The two ways a `strconv` conversion fails: `ErrSyntax` and `ErrRange`. -/
inductive NumError
  | errSyntax
  | errRange
  deriving DecidableEq, Repr

/-- The value of an ASCII decimal digit. -/
def digitValue (c : Char) : Nat := c.toNat - '0'.toNat

/-- The positional value of the digits `ds` read after a value `n`, one digit at a time. -/
def decimalFrom (n : Nat) (ds : List Char) : Nat := ds.foldl (fun v c => 10 * v + digitValue c) n

/-- The positional value of a digit string. -/
def decimalValue (ds : List Char) : Nat := decimalFrom 0 ds

@[simp] theorem decimalFrom_nil (n : Nat) : decimalFrom n [] = n := rfl

@[simp] theorem decimalFrom_cons (n : Nat) (c : Char) (ds : List Char) :
    decimalFrom n (c :: ds) = decimalFrom (10 * n + digitValue c) ds := rfl

theorem isDigit_iff {c : Char} : c.isDigit ↔ 48 ≤ c.toNat ∧ c.toNat ≤ 57 := by
  simp only [Char.isDigit, Bool.and_eq_true, decide_eq_true_eq, UInt32.le_def, BitVec.le_def]
  simp [Char.toNat, UInt32.toNat]

theorem digitValue_lt_ten {c : Char} (hc : c.isDigit) : digitValue c < 10 := by
  have := isDigit_iff.mp hc
  simp only [digitValue, show '0'.toNat = 48 from rfl]
  omega

/-- Reading more digits never lowers the value. -/
theorem le_decimalFrom (n : Nat) (ds : List Char) : n ≤ decimalFrom n ds := by
  induction ds generalizing n with
  | nil => rfl
  | cons c ds ih => exact (by omega : n ≤ 10 * n + digitValue c).trans (ih _)

/-- `k` digits read after `n` stay below `(n + 1) * 10 ^ k`. -/
theorem decimalFrom_lt {n : Nat} {ds : List Char} (hds : ∀ c ∈ ds, c.isDigit) :
    decimalFrom n ds < (n + 1) * 10 ^ ds.length := by
  induction ds generalizing n with
  | nil => simp
  | cons c ds ih =>
    have hc := digitValue_lt_ten (hds c (.head _))
    have ih' := ih (n := 10 * n + digitValue c) (fun x hx => hds x (.tail _ hx))
    calc decimalFrom n (c :: ds) < (10 * n + digitValue c + 1) * 10 ^ ds.length := ih'
      _ ≤ 10 * (n + 1) * 10 ^ ds.length := Nat.mul_le_mul_right _ (by omega)
      _ = (n + 1) * 10 ^ (c :: ds).length := by rw [List.length_cons, pow_succ]; ring

/-- The smallest value whose product with 10 overflows a `uint64`. -/
def uint64Cutoff : Nat := (2 ^ 64 - 1) / 10 + 1

/-- The digit loop of `strconv.ParseUint` in base 10, from the value `n` read so far.  A non-digit
is a syntax error; a value past `maxVal` is a range error at the digit that overflows.  Go tests
`n >= cutoff` before multiplying and `n1 < n || n1 > maxVal` after adding, in `uint64`; for
`maxVal < 2 ^ 64` the second test on `Nat` is `maxVal < 10 * n + d`. -/
def parseUintLoop (maxVal : Nat) : Nat → List Char → Except NumError Nat
  | n, [] => .ok n
  | n, c :: cs =>
    if c.isDigit then
      if uint64Cutoff ≤ n then .error .errRange
      else if maxVal < 10 * n + digitValue c then .error .errRange
      else parseUintLoop maxVal (10 * n + digitValue c) cs
    else .error .errSyntax

/-- `strconv.ParseUint(s, 10, bitSize)` for a bit size in `1..64` (callers pass `0` as `64`). -/
def parseUint (s : List Char) (bitSize : Nat) : Except NumError Nat :=
  if s = [] then .error .errSyntax else parseUintLoop (2 ^ bitSize - 1) 0 s

/-- A leading `+` or `-` is taken off a number: whether it was `-`, and the text after it. -/
def splitSign : List Char → Bool × List Char
  | [] => (false, [])
  | c :: t => if c = '+' then (false, t) else if c = '-' then (true, t) else (false, c :: t)

/-- The value of digits after a sign. -/
def signedValue (neg : Bool) (digits : List Char) : Int :=
  if neg then -(decimalValue digits : Int) else decimalValue digits

/-- `strconv.ParseInt(s, 10, 0)` on a 64-bit platform: a range error outside `[-2^63, 2^63)`. -/
def parseInt (s : List Char) : Except NumError Int :=
  if s = [] then .error .errSyntax else
    match parseUint (splitSign s).2 64 with
    | .error e => .error e
    | .ok un =>
      if (splitSign s).1 then
        if 2 ^ 63 < un then .error .errRange else .ok (-(un : Int))
      else
        if 2 ^ 63 ≤ un then .error .errRange else .ok un

/-- `strconv.Atoi` on a 64-bit platform.  Strings of 1 to 18 characters, which always fit an
`int`, take the fast path: an optional sign, then a loop that stops at the first non-digit.
Longer (and empty) strings go through `parseInt`. -/
def atoi (s : List Char) : Except NumError Int :=
  if 0 < s.length ∧ s.length < 19 then
    if (splitSign s).2 = [] then .error .errSyntax
    else if (splitSign s).2.all Char.isDigit then .ok (signedValue (splitSign s).1 (splitSign s).2)
    else .error .errSyntax
  else parseInt s

/-- `strconv.Itoa` on a non-negative value: its decimal digits, most significant first, and `"0"`
for zero. -/
def itoa (n : Nat) : List Char :=
  if n = 0 then ['0'] else (Nat.digits 10 n).reverse.map Nat.digitChar

/-! ### What the loops compute -/

/-- The `ParseUint` loop succeeds exactly on digits whose value stays within `maxVal`. -/
theorem parseUintLoop_eq_ok_iff {maxVal n m : Nat} {cs : List Char} (hmax : maxVal < 2 ^ 64)
    (hn : n ≤ maxVal) :
    parseUintLoop maxVal n cs = .ok m ↔
      (∀ c ∈ cs, c.isDigit) ∧ decimalFrom n cs ≤ maxVal ∧ m = decimalFrom n cs := by
  induction cs generalizing n with
  | nil =>
    simp only [parseUintLoop, decimalFrom_nil, Except.ok.injEq, List.not_mem_nil, false_implies,
      implies_true, hn, true_and]
    exact eq_comm
  | cons c cs ih =>
    have hmono := le_decimalFrom (10 * n + digitValue c) cs
    by_cases hc : c.isDigit
    · simp only [parseUintLoop, hc, if_true, decimalFrom_cons, List.mem_cons, forall_eq_or_imp,
        true_and]
      by_cases hcut : uint64Cutoff ≤ n
      · simp only [hcut, if_true, reduceCtorEq, false_iff, not_and]
        intro _ h; simp only [uint64Cutoff] at hcut; omega
      · by_cases hover : maxVal < 10 * n + digitValue c
        · simp only [hcut, hover, if_false, if_true, reduceCtorEq, false_iff, not_and]
          intro _ h; omega
        · simp only [hcut, hover, if_false]
          exact ih (by omega)
    · simp [parseUintLoop, hc]

/-- `ParseUint` succeeds exactly on non-empty digit strings whose value fits the bit size. -/
theorem parseUint_eq_ok_iff {s : List Char} {bitSize m : Nat} (hbits : bitSize ≤ 64) :
    parseUint s bitSize = .ok m ↔
      s ≠ [] ∧ (∀ c ∈ s, c.isDigit) ∧ decimalValue s < 2 ^ bitSize ∧ m = decimalValue s := by
  have hpow : 2 ^ bitSize ≤ 2 ^ 64 := Nat.pow_le_pow_right (by omega) hbits
  have hpos : 0 < 2 ^ bitSize := Nat.pos_pow_of_pos _ (by omega)
  unfold parseUint
  split
  · simp_all
  · rw [parseUintLoop_eq_ok_iff (by omega) (Nat.zero_le _), decimalValue]
    constructor
    · rintro ⟨h1, h2, h3⟩; exact ⟨‹_›, h1, by omega, h3⟩
    · rintro ⟨-, h1, h2, h3⟩; exact ⟨h1, by omega, h3⟩

/-- The text `strconv` reads as a signed decimal `v`: an optional `+` or `-`, then one or more
ASCII digits. -/
def SignedDecimal (s : List Char) (v : Int) : Prop :=
  ∃ sign digits, (sign = [] ∨ sign = ['+'] ∨ sign = ['-']) ∧ s = sign ++ digits ∧ digits ≠ [] ∧
    (∀ c ∈ digits, c.isDigit) ∧ v = signedValue (sign = ['-']) digits

theorem isDigit_ne_sign {c : Char} (hc : c.isDigit) : c ≠ '+' ∧ c ≠ '-' := by
  constructor <;> rintro rfl <;> simp [Char.isDigit] at hc

/-- What `splitSign` splits off is a sign, `+`, `-` or none, and it reports whether it was `-`. -/
theorem splitSign_spec (s : List Char) : ∃ sign, (sign = [] ∨ sign = ['+'] ∨ sign = ['-']) ∧
    s = sign ++ (splitSign s).2 ∧ (splitSign s).1 = decide (sign = ['-']) := by
  match s with
  | [] => exact ⟨[], .inl rfl, rfl, rfl⟩
  | c :: t =>
    simp only [splitSign]
    split_ifs with hp hm
    · exact ⟨['+'], .inr (.inl rfl), by rw [hp]; rfl, rfl⟩
    · exact ⟨['-'], .inr (.inr rfl), by rw [hm]; rfl, rfl⟩
    · exact ⟨[], .inl rfl, rfl, rfl⟩

/-- A signed decimal is what `splitSign` separates: its sign, then digits only. -/
theorem signedDecimal_iff (s : List Char) (v : Int) :
    SignedDecimal s v ↔ (splitSign s).2 ≠ [] ∧ (∀ c ∈ (splitSign s).2, c.isDigit) ∧
      v = signedValue (splitSign s).1 (splitSign s).2 := by
  constructor
  · rintro ⟨sign, digits, hsign, rfl, hne, hdig, rfl⟩
    obtain ⟨d, ds, rfl⟩ := List.exists_cons_of_ne_nil hne
    obtain ⟨hp, hm⟩ := isDigit_ne_sign (hdig d (.head _))
    rcases hsign with rfl | rfl | rfl <;>
      simp only [splitSign, List.nil_append, List.singleton_append, hp, hm, if_false, if_true,
        reduceIte] <;>
      exact ⟨List.cons_ne_nil _ _, hdig, rfl⟩
  · rintro ⟨hne, hdig, hv⟩
    obtain ⟨sign, hsign, hs, hneg⟩ := splitSign_spec s
    exact ⟨sign, _, hsign, hs, hne, hdig, hneg ▸ hv⟩

/-- The strings `strconv.Atoi` accepts with value `v`: a signed decimal that fits a 64-bit `int`. -/
def IntText (s : List Char) (v : Int) : Prop :=
  SignedDecimal s v ∧ -2 ^ 63 ≤ v ∧ v < 2 ^ 63

theorem signedValue_bounds {neg : Bool} {digits : List Char} :
    (-2 ^ 63 ≤ signedValue neg digits ∧ signedValue neg digits < 2 ^ 63) ↔
      (if neg then decimalValue digits ≤ 2 ^ 63 else decimalValue digits < 2 ^ 63) := by
  cases neg <;> simp only [signedValue, Bool.false_eq_true, if_false, if_true] <;> omega

theorem splitSign_length_le (s : List Char) : (splitSign s).2.length ≤ s.length := by
  obtain ⟨sign, -, hs, -⟩ := splitSign_spec s
  have hlen := congrArg List.length hs
  rw [List.length_append] at hlen
  omega

/-- An `int` text is a sign and digits whose value is within the sign's bound. -/
theorem intText_iff {s : List Char} {v : Int} :
    IntText s v ↔ (splitSign s).2 ≠ [] ∧ (∀ c ∈ (splitSign s).2, c.isDigit) ∧
      v = signedValue (splitSign s).1 (splitSign s).2 ∧
      (if (splitSign s).1 then decimalValue (splitSign s).2 ≤ 2 ^ 63
        else decimalValue (splitSign s).2 < 2 ^ 63) := by
  rw [IntText, signedDecimal_iff]
  constructor
  · rintro ⟨⟨h1, h2, rfl⟩, hb⟩; exact ⟨h1, h2, rfl, signedValue_bounds.mp hb⟩
  · rintro ⟨h1, h2, rfl, hb⟩; exact ⟨⟨h1, h2, rfl⟩, signedValue_bounds.mpr hb⟩

/-- `ParseInt` accepts exactly the signed decimals that fit an `int64`, with their value. -/
theorem parseInt_eq_ok_iff (s : List Char) (v : Int) : parseInt s = .ok v ↔ IntText s v := by
  rw [intText_iff]
  unfold parseInt
  split
  · subst s; simp [splitSign]
  · cases hp : parseUint (splitSign s).2 64 with
    | error e =>
      simp only [reduceCtorEq, false_iff, not_and]
      intro hne hdig hv hb
      have := (parseUint_eq_ok_iff (le_refl 64)).mpr ⟨hne, hdig, ?_, rfl⟩
      · rw [hp] at this; cases this
      · split at hb <;> omega
    | ok un =>
      obtain ⟨hne, hdig, -, rfl⟩ := (parseUint_eq_ok_iff (le_refl 64)).mp hp
      simp only [signedValue, hne, iff_true_intro hdig, ne_eq, not_false_eq_true, true_and]
      generalize decimalValue (splitSign s).2 = dv
      cases (splitSign s).1 <;> simp only [if_true, if_false, Bool.false_eq_true] <;> split_ifs <;>
        simp only [reduceCtorEq, Except.ok.injEq, false_iff, not_and] <;> omega

/-- **`Atoi` accepts exactly the signed decimals that fit an `int`**, with their value: the fast
path for short strings and `ParseInt` for the others agree. -/
theorem atoi_eq_ok_iff (s : List Char) (v : Int) : atoi s = .ok v ↔ IntText s v := by
  unfold atoi
  split
  · rename_i hlen
    rw [intText_iff]
    by_cases hne : (splitSign s).2 = []
    · simp [hne]
    by_cases hdig : ∀ c ∈ (splitSign s).2, c.isDigit
    · have hsmall : decimalValue (splitSign s).2 < 10 ^ 18 := by
        have := decimalFrom_lt (n := 0) hdig
        have := Nat.pow_le_pow_right (by omega : 0 < 10)
          ((splitSign_length_le s).trans (by omega : s.length ≤ 18))
        simp only [decimalValue] at *
        omega
      have hall : (splitSign s).2.all Char.isDigit = true := List.all_eq_true.mpr hdig
      simp only [hne, hall, if_false, if_true, Except.ok.injEq, ne_eq, not_false_eq_true, true_and]
      constructor
      · rintro rfl; exact ⟨hdig, rfl, by split <;> omega⟩
      · rintro ⟨-, rfl, -⟩; rfl
    · have hall : (splitSign s).2.all Char.isDigit = false := by
        simpa [List.all_eq_true] using hdig
      simp [hne, hall, hdig]
  · exact parseInt_eq_ok_iff s v

/-! ### Decimal text -/

theorem digitChar_digit {d : Nat} (hd : d < 10) :
    (Nat.digitChar d).isDigit ∧ digitValue (Nat.digitChar d) = d := by
  interval_cases d <;> decide

/-- Reading digits written most significant first gives `Nat.ofDigits` of the digits. -/
theorem decimalValue_digitChars {ds : List Nat} (hds : ∀ d ∈ ds, d < 10) :
    decimalValue (ds.reverse.map Nat.digitChar) = Nat.ofDigits 10 ds := by
  rw [decimalValue, decimalFrom, List.foldl_map, List.foldl_reverse]
  induction ds with
  | nil => rfl
  | cons d ds ih =>
    rw [List.foldr_cons, ih (fun x hx => hds x (.tail _ hx)), Nat.ofDigits_cons,
      (digitChar_digit (hds d (.head _))).2]
    omega

theorem itoa_isDigit (n : Nat) : ∀ c ∈ itoa n, c.isDigit := by
  unfold itoa
  split
  · simp [Char.isDigit]
  · simp only [List.mem_map, List.mem_reverse]
    rintro c ⟨d, hd, rfl⟩
    exact (digitChar_digit (Nat.digits_lt_base (by omega) hd)).1

theorem itoa_ne_nil (n : Nat) : itoa n ≠ [] := by
  unfold itoa
  split
  · simp
  · simpa using Nat.digits_ne_nil_iff_ne_zero.mpr ‹_›

/-- The decimal text of `n` has the value `n`. -/
theorem decimalValue_itoa (n : Nat) : decimalValue (itoa n) = n := by
  unfold itoa
  split
  · subst n; rfl
  · rw [decimalValue_digitChars (fun d hd => Nat.digits_lt_base (by omega) hd), Nat.ofDigits_digits]

/-- **`Atoi` reads back what `Itoa` writes**, for every value that fits an `int`. -/
theorem atoi_itoa {n : Nat} (hn : n < 2 ^ 63) : atoi (itoa n) = .ok n := by
  have hd := itoa_isDigit n
  obtain ⟨c, cs, hc⟩ := List.exists_cons_of_ne_nil (itoa_ne_nil n)
  have hsign := isDigit_ne_sign (hd c (by simp [hc]))
  rw [atoi_eq_ok_iff, intText_iff]
  simp only [hc, splitSign, hsign, if_false, ne_eq, reduceCtorEq, not_false_eq_true, true_and,
    signedValue, Bool.false_eq_true]
  rw [← hc, decimalValue_itoa]
  exact ⟨hd, rfl, hn⟩

end Go
end Linkerd
