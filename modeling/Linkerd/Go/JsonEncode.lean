import Linkerd.Go.Json

/-!
# `json.Marshal` of a struct of strings, read back by `json.Unmarshal`

`json.Marshal` writes a struct as an object with one member per field, in the struct's order,
skipping an `omitempty` field whose value is empty (`structEncoder.encode`).  A string value goes
between quotes (`appendString`): a quote or a backslash after a backslash, a control character as
a short escape or as `\u00XX`, and, since `Marshal` always escapes HTML, `<`, `>`, `&` and the line
and paragraph separators U+2028 and U+2029 as `\u` escapes.

What `Marshal` writes, the scanner and the decoder of `Json` read back as it was written:

* `foldl_step_appendChars` — the scanner reads an escaped string without leaving its string state;
* `scanString_appendChars` / `unquote_appendChars` — the decoder finds the string's closing quote
  where the encoder put it, and unescapes the body to the string that was encoded;
* `checkValid_encodeObject` — an object `Marshal` writes is one valid JSON value;
* `decodeStruct_encodeObject` — decoding it sets the field each member names, member by member;
* `unmarshal_encodeStruct` — so `Unmarshal` of what `Marshal` wrote returns no error and the
  fields its members set.
-/

namespace Linkerd
namespace Go
namespace Json

/-! ### The encoder -/

/-- `hex`: the digits of a `\u` escape. -/
def hex : List Char := "0123456789abcdef".toList

/-- `hex[n]`. -/
def hexDigit (n : Nat) : Char := hex.getD n '0'

/-- `htmlSafeSet[c]` for an ASCII character: printable, and none of `"`, `\`, `<`, `>`, `&`. -/
def htmlSafe (c : Char) : Bool := 0x20 ≤ c.toNat ∧ c ∉ ['"', '\\', '<', '>', '&']

/-- What the loop of `appendString` writes for one character, escaping HTML as `Marshal` asks: an
HTML-safe ASCII character as it is; a quote or a backslash after a backslash; `\b`, `\f`, `\n`,
`\r` and `\t` as short escapes; any other ASCII character as `\u00XX`; U+2028 and U+2029 as
`\u2028` and `\u2029`; any other character as it is.  A character here is a Unicode scalar value,
so the loop's branch for invalid UTF-8 never runs. -/
def appendChar (c : Char) : List Char :=
  if c.toNat < 0x80 then
    if htmlSafe c then [c]
    else if c = '\\' ∨ c = '"' then ['\\', c]
    else if c = '\x08' then ['\\', 'b']
    else if c = '\x0c' then ['\\', 'f']
    else if c = '\n' then ['\\', 'n']
    else if c = '\r' then ['\\', 'r']
    else if c = '\t' then ['\\', 't']
    else ['\\', 'u', '0', '0', hexDigit (c.toNat / 16), hexDigit (c.toNat % 16)]
  else if c.toNat = 0x2028 ∨ c.toNat = 0x2029 then
    ['\\', 'u', '2', '0', '2', hexDigit (c.toNat % 16)]
  else [c]

/-- `appendString(dst, src, true)` after `dst`: the string between quotes.  Go copies each run of
characters it need not escape at once; the characters it writes are those of `appendChar`. -/
def appendString (src : List Char) : List Char := '"' :: src.flatMap appendChar ++ ['"']

/-- A string field of a struct as `encoding/json` sees it: its JSON name, its value in a struct
value, and whether its tag says `omitempty`. -/
structure FieldEncoder (σ : Type) where
  name : List Char
  get : σ → List Char
  omitEmpty : Bool

/-- One iteration of the loop of `structEncoder.encode`, with the byte `next` to write before a
member and the output so far: an empty `omitempty` field is skipped, any other is written as `next`,
its name as `nameEscHTML` holds it (`"name":`, for a name with nothing to escape) and its value. -/
def encodeField {σ : Type} (v : σ) (acc : Char × List Char) (f : FieldEncoder σ) :
    Char × List Char :=
  if f.omitEmpty ∧ f.get v = [] then acc
  else (',', acc.2 ++ acc.1 :: '"' :: f.name ++ '"' :: ':' :: appendString (f.get v))

/-- `structEncoder.encode`: the loop over the fields from `next = '{'`, then `}`, or `{}` when it
wrote no member. -/
def encodeStruct {σ : Type} (fields : List (FieldEncoder σ)) (v : σ) : List Char :=
  let (next, out) := fields.foldl (encodeField v) ('{', [])
  if next = '{' then out ++ ['{', '}'] else out ++ ['}']

/-! ### What it writes -/

/-- A member `"name":` and its value, as the encoder writes it. -/
def encodeMember (m : List Char × List Char) : List Char :=
  '"' :: (m.1 ++ '"' :: ':' :: appendString m.2)

/-- The members in order, the first after `next` and each later one after a comma. -/
def encodeMembers (next : Char) : List (List Char × List Char) → List Char
  | [] => []
  | m :: ms => next :: encodeMember m ++ encodeMembers ',' ms

/-- An object of the members, in order. -/
def encodeObject : List (List Char × List Char) → List Char
  | [] => ['{', '}']
  | m :: ms => encodeMembers '{' (m :: ms) ++ ['}']

/-- The members `structEncoder.encode` writes, by name and value: its fields less the skipped. -/
def writtenMembers {σ : Type} (fields : List (FieldEncoder σ)) (v : σ) :
    List (List Char × List Char) :=
  (fields.filter fun f => !(f.omitEmpty ∧ f.get v = [])).map fun f => (f.name, f.get v)

/-- The loop of `structEncoder.encode` from any `next` and output writes the members not skipped,
the first after `next`. -/
theorem foldl_encodeField {σ : Type} (v : σ) (fields : List (FieldEncoder σ)) (next : Char)
    (out : List Char) :
    fields.foldl (encodeField v) (next, out) =
      (if writtenMembers fields v = [] then next else ',',
        out ++ encodeMembers next (writtenMembers fields v)) := by
  induction fields generalizing next out with
  | nil => simp [writtenMembers, encodeMembers]
  | cons f fields ih =>
    by_cases hskip : f.omitEmpty ∧ f.get v = []
    · have hw : writtenMembers (f :: fields) v = writtenMembers fields v := by
        simp [writtenMembers, hskip]
      rw [List.foldl_cons, encodeField, if_pos hskip, ih, hw]
    · have hw : writtenMembers (f :: fields) v = (f.name, f.get v) :: writtenMembers fields v := by
        simp only [writtenMembers, List.filter_cons, hskip, decide_False, Bool.not_false, if_true,
          List.map_cons]
      rw [List.foldl_cons, encodeField, if_neg hskip, ih, hw]
      simp [encodeMembers, encodeMember]

/-- `structEncoder.encode` writes the object of the members it does not skip. -/
theorem encodeStruct_eq {σ : Type} (fields : List (FieldEncoder σ)) (v : σ) :
    encodeStruct fields v = encodeObject (writtenMembers fields v) := by
  rw [encodeStruct, foldl_encodeField]
  cases writtenMembers fields v <;> simp [encodeObject, encodeMembers]

/-! ### The characters it writes -/

/-- A character a string literal holds as it is: not a quote, a backslash or a control
character. -/
def isUnescaped (c : Char) : Bool := c ≠ '"' ∧ c ≠ '\\' ∧ 0x20 ≤ c.toNat

theorem isUnescaped_iff {c : Char} :
    isUnescaped c = true ↔ c ≠ '"' ∧ c ≠ '\\' ∧ ¬c.toNat < 0x20 := by
  simp [isUnescaped]

/-- The sixteen digits of `hex` are hex digits of their own value, each held as it is. -/
theorem hexDigit_spec : ∀ n : Fin 16,
    isHex (hexDigit n) = true ∧ isUnescaped (hexDigit n) = true ∧ hexValue (hexDigit n) = n := by
  decide

/-- What `appendChar` writes, by kind: the character itself, unescaped; a backslash and an escape
letter that `unescape` maps back to the character; or a `\u` escape of four hex digits whose value
is the character's code, which is no surrogate. -/
theorem appendChar_cases (c : Char) :
    (appendChar c = [c] ∧ isUnescaped c = true) ∨
    (∃ e, appendChar c = ['\\', e] ∧ e ≠ 'u' ∧ unescape e = c ∧
      e ∈ ['b', 'f', 'n', 'r', 't', '\\', '/', '"']) ∨
    (∃ a b d f, appendChar c = ['\\', 'u', a, b, d, f] ∧ getu4 a b d f = c.toNat ∧
      isSurrogate c.toNat = false ∧ ∀ x ∈ [a, b, d, f], isHex x = true ∧ isUnescaped x = true) := by
  have h0 : isHex '0' = true ∧ isUnescaped '0' = true ∧ hexValue '0' = 0 := by decide
  have h2 : isHex '2' = true ∧ isUnescaped '2' = true ∧ hexValue '2' = 2 := by decide
  have hdigit : ∀ {n}, n < 16 → isHex (hexDigit n) = true ∧ isUnescaped (hexDigit n) = true ∧
      hexValue (hexDigit n) = n := fun h => hexDigit_spec ⟨_, h⟩
  unfold appendChar
  by_cases hesc : c ∈ ['\\', '"', '\x08', '\x0c', '\n', '\r', '\t']
  · simp only [List.mem_cons, List.mem_singleton, List.not_mem_nil, or_false] at hesc
    rcases hesc with rfl | rfl | rfl | rfl | rfl | rfl | rfl <;>
      exact .inr (.inl ⟨_, rfl, by decide⟩)
  simp only [List.mem_cons, List.mem_singleton, List.not_mem_nil, or_false, not_or] at hesc
  obtain ⟨hbs, hq, hb, hf, hn, hr, ht⟩ := hesc
  by_cases hascii : c.toNat < 0x80
  · rw [if_pos hascii]
    by_cases hsafe : htmlSafe c
    · rw [if_pos hsafe]
      refine .inl ⟨rfl, ?_⟩
      simp only [htmlSafe, List.mem_cons, List.mem_singleton, not_or, decide_eq_true_eq] at hsafe
      simp [isUnescaped, hsafe]
    rw [if_neg hsafe, if_neg (not_or.mpr ⟨hbs, hq⟩), if_neg hb, if_neg hf, if_neg hn, if_neg hr,
      if_neg ht]
    have hhi : c.toNat / 16 < 16 := by omega
    have hlo : c.toNat % 16 < 16 := Nat.mod_lt _ (by decide)
    refine .inr (.inr ⟨_, _, _, _, rfl, ?_, by simp [isSurrogate]; omega, ?_⟩)
    · simp only [getu4, h0.2.2, (hdigit hhi).2.2, (hdigit hlo).2.2]
      omega
    · simp [h0, hdigit hhi, hdigit hlo]
  rw [if_neg hascii]
  by_cases hsep : c.toNat = 0x2028 ∨ c.toNat = 0x2029
  · rw [if_pos hsep]
    have hlo : c.toNat % 16 < 16 := Nat.mod_lt _ (by decide)
    refine .inr (.inr ⟨_, _, _, _, rfl, ?_, by simp [isSurrogate]; omega, ?_⟩)
    · simp only [getu4, h0.2.2, h2.2.2, (hdigit hlo).2.2]
      omega
    · simp [h0, h2, hdigit hlo]
  rw [if_neg hsep]
  refine .inl ⟨rfl, ?_⟩
  simp [isUnescaped, hq, hbs]
  omega

theorem step_inString {c : Char} (hc : isUnescaped c = true) (e : Bool) (ps : List ParseState)
    (err : Option JsonError) : Scanner.step ⟨.inString, e, ps, err⟩ c = ⟨.inString, e, ps, err⟩ := by
  obtain ⟨h1, h2, h3⟩ := isUnescaped_iff.mp hc
  simp [Scanner.step, h1, h2, h3]

theorem foldl_step_appendChar (c : Char) (e : Bool) (ps : List ParseState)
    (err : Option JsonError) :
    (appendChar c).foldl Scanner.step ⟨.inString, e, ps, err⟩ = ⟨.inString, e, ps, err⟩ := by
  rcases appendChar_cases c with ⟨h, hu⟩ | ⟨x, h, -, -, hx⟩ | ⟨a, b, d, f, h, -, -, hx⟩ <;>
    rw [h]
  · simp [step_inString hu]
  · simp [Scanner.step, hx]
  · simp only [List.mem_cons, List.mem_singleton, List.not_mem_nil, or_false, forall_eq_or_imp, forall_eq] at hx
    simp [Scanner.step, hx]

theorem scanString_unescaped {c : Char} (hc : isUnescaped c = true) (rest : List Char) :
    scanString (c :: rest) = (c :: (scanString rest).1, (scanString rest).2) := by
  obtain ⟨h1, h2, -⟩ := isUnescaped_iff.mp hc
  simp [scanString, h1, h2]

theorem unquoteFrom_unescaped {c : Char} (hc : isUnescaped c = true) (rest : List Char) :
    unquoteFrom none (c :: rest) = c :: unquoteFrom none rest := by
  obtain ⟨-, h2, -⟩ := isUnescaped_iff.mp hc
  simp [unquoteFrom, h2, flushSurrogate]

theorem scanString_appendChar (c : Char) (rest : List Char) :
    scanString (appendChar c ++ rest) =
      (appendChar c ++ (scanString rest).1, (scanString rest).2) := by
  rcases appendChar_cases c with ⟨h, hu⟩ | ⟨x, h, -, -, -⟩ | ⟨a, b, d, f, h, -, -, hx⟩ <;>
    rw [h]
  · exact scanString_unescaped hu rest
  · simp [scanString]
  · simp only [List.mem_cons, List.mem_singleton, List.not_mem_nil, or_false, forall_eq_or_imp,
      forall_eq] at hx
    simp [scanString, scanString_unescaped, hx]

theorem unquoteFrom_appendChar (c : Char) (rest : List Char) :
    unquoteFrom none (appendChar c ++ rest) = c :: unquoteFrom none rest := by
  rcases appendChar_cases c with ⟨h, hu⟩ | ⟨x, h, hxu, hx, -⟩ | ⟨a, b, d, f, h, hv, hs, -⟩ <;>
    rw [h]
  · exact unquoteFrom_unescaped hu rest
  · simp [unquoteFrom, hxu, hx, flushSurrogate]
  · simp [unquoteFrom, hv, hs]

/-! ### Strings -/

section Strings

variable (e : Bool) (ps : List ParseState) (err : Option JsonError)

theorem foldl_step_unescaped {name : List Char} (h : ∀ c ∈ name, isUnescaped c = true) :
    name.foldl Scanner.step ⟨.inString, e, ps, err⟩ = ⟨.inString, e, ps, err⟩ := by
  induction name with
  | nil => rfl
  | cons c name ih =>
    rw [List.foldl_cons, step_inString (h c (List.mem_cons_self c name)),
      ih fun x hx => h x (List.mem_cons_of_mem c hx)]

theorem foldl_step_appendChars (s : List Char) :
    (s.flatMap appendChar).foldl Scanner.step ⟨.inString, e, ps, err⟩ = ⟨.inString, e, ps, err⟩ := by
  induction s with
  | nil => rfl
  | cons c s ih => rw [List.flatMap_cons, List.foldl_append, foldl_step_appendChar, ih]

end Strings

theorem scanString_unescapeds {name : List Char} (h : ∀ c ∈ name, isUnescaped c = true)
    (rest : List Char) : scanString (name ++ '"' :: rest) = (name, rest) := by
  induction name with
  | nil => simp [scanString]
  | cons c name ih =>
    rw [List.cons_append, scanString_unescaped (h c (List.mem_cons_self c name)),
      ih fun x hx => h x (List.mem_cons_of_mem c hx)]

theorem scanString_appendChars (s rest : List Char) :
    scanString (s.flatMap appendChar ++ '"' :: rest) = (s.flatMap appendChar, rest) := by
  induction s with
  | nil => simp [scanString]
  | cons c s ih => rw [List.flatMap_cons, List.append_assoc, scanString_appendChar, ih]

theorem unquote_unescaped {name : List Char} (h : ∀ c ∈ name, isUnescaped c = true) :
    unquote name = name := by
  induction name with
  | nil => rfl
  | cons c name ih =>
    rw [unquote, unquoteFrom_unescaped (h c (List.mem_cons_self c name)), ← unquote,
      ih fun x hx => h x (List.mem_cons_of_mem c hx)]

theorem unquote_appendChars (s : List Char) : unquote (s.flatMap appendChar) = s := by
  induction s with
  | nil => rfl
  | cons c s ih => rw [unquote, List.flatMap_cons, unquoteFrom_appendChar, ← unquote, ih]

/-! ### Objects -/

theorem skipSpace_cons {c : Char} (h : isSpace c = false) (rest : List Char) :
    skipSpace (c :: rest) = c :: rest := by
  simp [skipSpace, h]

/-- The scanner reads a member from after its opening quote: the name, the colon and the value. -/
theorem foldl_step_member {m : List Char × List Char} (hname : ∀ c ∈ m.1, isUnescaped c = true)
    (e : Bool) (rest : List ParseState) (err : Option JsonError) :
    (m.1 ++ '"' :: ':' :: appendString m.2).foldl Scanner.step ⟨.inString, e, .objectKey :: rest, err⟩ =
      ⟨.endValue, e, .objectValue :: rest, err⟩ := by
  simp [appendString, List.foldl_append, foldl_step_unescaped _ _ _ hname, Scanner.step,
    Scanner.stateEndValue, Scanner.stateBeginValue, isSpace, foldl_step_appendChars]

section Transitions

variable (e : Bool) (ps : List ParseState) (err : Option JsonError)

theorem step_reset_brace :
    Scanner.reset.step '{' = ⟨.beginStringOrEmpty, false, [.objectKey], none⟩ := rfl

theorem step_beginStringOrEmpty_quote :
    Scanner.step ⟨.beginStringOrEmpty, e, ps, err⟩ '"' = ⟨.inString, e, ps, err⟩ := rfl

theorem step_beginString_quote :
    Scanner.step ⟨.beginString, e, ps, err⟩ '"' = ⟨.inString, e, ps, err⟩ := rfl

theorem step_endValue_comma :
    Scanner.step ⟨.endValue, e, .objectValue :: ps, err⟩ ',' =
      ⟨.beginString, e, .objectKey :: ps, err⟩ := rfl

end Transitions

/-- The scanner reads the members after the first, each after its comma, back to the end of a
member. -/
theorem foldl_step_encodeMembers {ms : List (List Char × List Char)}
    (hnames : ∀ m ∈ ms, ∀ c ∈ m.1, isUnescaped c = true) (e : Bool) (rest : List ParseState)
    (err : Option JsonError) :
    (encodeMembers ',' ms).foldl Scanner.step ⟨.endValue, e, .objectValue :: rest, err⟩ =
      ⟨.endValue, e, .objectValue :: rest, err⟩ := by
  induction ms with
  | nil => rfl
  | cons m ms ih =>
    rw [encodeMembers, List.foldl_append, List.foldl_cons, step_endValue_comma, encodeMember,
      List.foldl_cons, step_beginString_quote, foldl_step_member (hnames m (List.mem_cons_self m ms)),
      ih fun m' hm' => hnames m' (List.mem_cons_of_mem m hm')]

/-- The scanner reads the members of an object from its start to the end of the last. -/
theorem foldl_step_encodeMembers_brace {m : List Char × List Char} {ms : List (List Char × List Char)}
    (hnames : ∀ m' ∈ m :: ms, ∀ c ∈ m'.1, isUnescaped c = true) :
    (encodeMembers '{' (m :: ms)).foldl Scanner.step Scanner.reset =
      ⟨.endValue, false, [.objectValue], none⟩ := by
  rw [encodeMembers, List.foldl_append, List.foldl_cons, step_reset_brace, encodeMember,
    List.foldl_cons, step_beginStringOrEmpty_quote,
    foldl_step_member (hnames m (List.mem_cons_self m ms)),
    foldl_step_encodeMembers fun m' hm' => hnames m' (List.mem_cons_of_mem m hm')]

/-- An object `Marshal` writes is one valid JSON value. -/
theorem checkValid_encodeObject {ms : List (List Char × List Char)}
    (hnames : ∀ m ∈ ms, ∀ c ∈ m.1, isUnescaped c = true) : checkValid (encodeObject ms) = none := by
  cases ms with
  | nil => rfl
  | cons m ms => rw [checkValid, encodeObject, List.foldl_append, foldl_step_encodeMembers_brace hnames]; rfl

theorem skipSpace_appendString (s t : List Char) : skipSpace (appendString s ++ t) = appendString s ++ t :=
  skipSpace_cons (by decide) _

section Decode

variable {σ : Type} (fields : List (List Char × (List Char → σ → σ)))

/-- What decoding a member with a string value does to the struct: the field its name selects, if
any, is set to the value. -/
def setMember (v : σ) (m : List Char × List Char) : σ :=
  match findField fields m.1 with
  | some set => set m.2 v
  | none => v

theorem storeMember_appendString (key value after : List Char) (v : σ) (saved : Option JsonError) :
    storeMember fields key (appendString value ++ after) v saved =
      (setMember fields v (key, value), saved, after) := by
  have hcs : appendString value ++ after = '"' :: (value.flatMap appendChar ++ '"' :: after) := by
    simp [appendString]
  rw [hcs, storeMember, setMember]
  cases findField fields key with
  | none => dsimp only; rw [skipValue, scanString_appendChars]
  | some set =>
    show (set (unquote (scanString _).1) v, saved, (scanString _).2) = _
    rw [scanString_appendChars, unquote_appendChars]

/-- The decoder's member loop over the members the encoder wrote sets their fields in order: each
iteration reads a member's name and sets the field it selects, and goes on after a comma. -/
theorem objectMembers_encodeMembers {m : List Char × List Char} {ms : List (List Char × List Char)}
    (hnames : ∀ m' ∈ m :: ms, ∀ c ∈ m'.1, isUnescaped c = true) {fuel : Nat}
    (hfuel : ms.length < fuel) (v : σ) :
    objectMembers fields fuel (encodeMember m ++ (encodeMembers ',' ms ++ ['\x7d'])) v none =
      ((m :: ms).foldl (setMember fields) v, none) := by
  obtain ⟨f, rfl⟩ : ∃ f, fuel = f + 1 := ⟨fuel - 1, by omega⟩
  have hname := hnames m (List.mem_cons_self _ _)
  induction ms generalizing m v f <;>
    rw [objectMembers, encodeMember, List.cons_append, skipSpace_cons (by decide)] <;>
    simp only [List.append_assoc, List.cons_append, scanString_unescapeds hname,
      unquote_unescaped hname, skipSpace_cons (by decide : isSpace ':' = false), List.tail_cons,
      skipSpace_appendString, storeMember_appendString, Prod.mk.eta]
  case nil => rfl
  case cons m' ms ih =>
    obtain ⟨f, rfl⟩ : ∃ f', f = f' + 1 := ⟨f - 1, by simp at hfuel; omega⟩
    simp only [encodeMembers, List.append_assoc, List.cons_append,
      skipSpace_cons (by decide : isSpace ',' = false)]
    exact ih (fun m'' hm'' => hnames m'' (List.mem_cons_of_mem m hm'')) _ _ (by simpa using hfuel)
      (hnames m' (List.mem_cons_of_mem _ (List.mem_cons_self _ _)))

theorem length_le_length_encodeMembers (next : Char) (ms : List (List Char × List Char)) :
    ms.length ≤ (encodeMembers next ms).length := by
  induction ms generalizing next with
  | nil => rfl
  | cons m ms ih => simp only [encodeMembers, List.length_cons, List.length_append]; have := ih ','; omega

/-- Decoding an object the encoder wrote sets the field each member names, member by member. -/
theorem decodeStruct_encodeObject {ms : List (List Char × List Char)}
    (hnames : ∀ m ∈ ms, ∀ c ∈ m.1, isUnescaped c = true) (v : σ) :
    decodeStruct fields (encodeObject ms) v = (ms.foldl (setMember fields) v, none) := by
  cases ms with
  | nil => rfl
  | cons m ms =>
    have hfuel : ms.length < (encodeObject (m :: ms)).length := by
      have := length_le_length_encodeMembers ',' ms
      simp only [encodeObject, encodeMembers, List.length_append, List.length_cons]
      omega
    have hskip : skipSpace (encodeObject (m :: ms)) =
        '{' :: (encodeMember m ++ (encodeMembers ',' ms ++ ['}'])) := by
      simp only [encodeObject, encodeMembers, List.cons_append, List.append_assoc]
      exact skipSpace_cons (by decide) _
    rw [decodeStruct, hskip]
    exact objectMembers_encodeMembers fields hnames hfuel v

/-- `Unmarshal` of what `Marshal` wrote: no error, and each field that a written member names is
set to that member's value, member by member. -/
theorem unmarshal_encodeStruct {τ : Type} {encoders : List (FieldEncoder τ)}
    (hnames : ∀ f ∈ encoders, ∀ c ∈ f.name, isUnescaped c = true) (w : τ) (v : σ) :
    unmarshal fields (encodeStruct encoders w) v =
      (none, (writtenMembers encoders w).foldl (setMember fields) v) := by
  have hwritten : ∀ m ∈ writtenMembers encoders w, ∀ c ∈ m.1, isUnescaped c = true := by
    simp only [writtenMembers, List.mem_map, List.mem_filter]
    rintro _ ⟨f, ⟨hf, -⟩, rfl⟩
    exact hnames f hf
  rw [encodeStruct_eq, unmarshal, checkValid_encodeObject hwritten,
    decodeStruct_encodeObject fields hwritten]

end Decode

end Json
end Go
end Linkerd
