import Linkerd.Go.Basic

/-!
# `json.Unmarshal` into a struct of strings

The destination server decodes context tokens with `json.Unmarshal` into a struct of two string
fields.  `Unmarshal` works in two passes over its input, and the model follows them.

First `checkValid` runs the scanner of `encoding/json` over the whole input: a state machine that
reads one character at a time (`Scanner.step`) with a stack of the objects and arrays it is in,
nested at most 10000 deep.  Any syntax error makes `Unmarshal` return at once, leaving its target
untouched.

Then the decoder walks the input, which it now knows to be valid.  For a struct target it takes the
members of a top-level object in order; a member whose key names a field (exactly, or else up to
case folding) sets the field when its value is a string, leaves it alone when it is `null`, and
otherwise records an `*UnmarshalTypeError` (only the first is kept) and moves on.  Members of other
names are skipped.  `Unmarshal` returns the first recorded error, if any, after the whole input is
decoded, so a value of the wrong type does not stop the fields after it, or before it, from being
set.

Go's scanner reads bytes; a token here is a string of characters.  A character outside ASCII is a
syntax error outside a string literal and an ordinary character inside one, whether read as a
character or as its UTF-8 bytes, so the two readings accept the same inputs.

* `step_error` / `foldl_step_error` — once the scanner has hit an error it keeps it to the end.
* `checkValid_append_of_step_error` — an input whose first characters already send the scanner to
  its error state is not valid JSON, whatever follows.
-/

namespace Linkerd
namespace Go
namespace Json

/-- The errors `json.Unmarshal` returns, by kind: a `*SyntaxError`, or an `*UnmarshalTypeError`
naming the JSON kind of the value that did not fit its field. -/
inductive JsonError
  | syntaxError
  | unmarshalTypeError (value : List Char)
  deriving DecidableEq, Repr

/-- The step functions of the scanner.  `inStringEscU n` has read `n` hex digits of a `\u` escape
(`stateInStringEscU`, `...U1`, `...U12`, `...U123`); `literal rest` still expects the characters
`rest` of `true`, `false` or `null` (`stateT`, `stateTr`, ..., `stateNul`). -/
inductive ScanStep
  | beginValueOrEmpty
  | beginValue
  | beginStringOrEmpty
  | beginString
  | endValue
  | endTop
  | inString
  | inStringEsc
  | inStringEscU (n : Nat)
  | neg
  | one
  | zero
  | dot
  | dot0
  | e
  | eSign
  | e0
  | literal (rest : List Char)
  | error
  deriving DecidableEq, Repr

/-- `parseObjectKey`, `parseObjectValue` and `parseArrayValue`: where the scanner is in the object or
array it is inside. -/
inductive ParseState
  | objectKey
  | objectValue
  | arrayValue
  deriving DecidableEq, Repr

/-- `maxNestingDepth`. -/
def maxNestingDepth : Nat := 10000

/-- The scanner: the state its next step reads (Go keeps the step function itself), whether the
top-level value has ended, the stack of objects and arrays it is in (innermost first), and the error
it hit, if any. -/
structure Scanner where
  state : ScanStep
  endTop : Bool
  parseState : List ParseState
  err : Option JsonError
  deriving DecidableEq, Repr

/-- `isSpace`. -/
def isSpace (c : Char) : Bool := c = ' ' ∨ c = '\t' ∨ c = '\r' ∨ c = '\n'

/-- `isDigit` of the scanner. -/
def isDigit (c : Char) : Bool := '0' ≤ c ∧ c ≤ '9'

/-- `isHex` of the scanner's `\u` states. -/
def isHex (c : Char) : Bool := isDigit c ∨ ('a' ≤ c ∧ c ≤ 'f') ∨ ('A' ≤ c ∧ c ≤ 'F')

namespace Scanner

/-- `s.error`: the error state, which it never leaves. -/
def error (s : Scanner) : Scanner := { s with state := .error, err := some .syntaxError }

/-- `s.pushParseState`: entering an object or array, failing beyond `maxNestingDepth`. -/
def pushParseState (s : Scanner) (newParseState : ParseState) (next : ScanStep) : Scanner :=
  if s.parseState.length + 1 ≤ maxNestingDepth then
    { s with parseState := newParseState :: s.parseState, state := next }
  else { s with parseState := newParseState :: s.parseState }.error

/-- `s.popParseState`: leaving an object or array, which ends the top-level value when it is the
outermost. -/
def popParseState (s : Scanner) : Scanner :=
  match s.parseState with
  | [_] => { s with parseState := [], state := .endTop, endTop := true }
  | _ => { s with parseState := s.parseState.tail, state := .endValue }

/-- `stateEndTop`: only spaces may follow the top-level value. -/
def stateEndTop (s : Scanner) (c : Char) : Scanner := if isSpace c then s else s.error

/-- `stateEndValue`: after a value, the separator or the close its object or array expects. -/
def stateEndValue (s : Scanner) (c : Char) : Scanner :=
  match s.parseState with
  | [] => stateEndTop { s with state := .endTop, endTop := true } c
  | ps :: rest =>
    if isSpace c then { s with state := .endValue }
    else match ps with
      | .objectKey =>
        if c = ':' then { s with parseState := .objectValue :: rest, state := .beginValue }
        else s.error
      | .objectValue =>
        if c = ',' then { s with parseState := .objectKey :: rest, state := .beginString }
        else if c = '}' then s.popParseState
        else s.error
      | .arrayValue =>
        if c = ',' then { s with state := .beginValue }
        else if c = ']' then s.popParseState
        else s.error

/-- `stateBeginValue`: the first character of a value. -/
def stateBeginValue (s : Scanner) (c : Char) : Scanner :=
  if isSpace c then s
  else if c = '{' then s.pushParseState .objectKey .beginStringOrEmpty
  else if c = '[' then s.pushParseState .arrayValue .beginValueOrEmpty
  else if c = '"' then { s with state := .inString }
  else if c = '-' then { s with state := .neg }
  else if c = '0' then { s with state := .zero }
  else if c = 't' then { s with state := .literal "rue".toList }
  else if c = 'f' then { s with state := .literal "alse".toList }
  else if c = 'n' then { s with state := .literal "ull".toList }
  else if '1' ≤ c ∧ c ≤ '9' then { s with state := .one }
  else s.error

/-- `stateBeginValueOrEmpty`: after `[`, a value or the `]` of an empty array. -/
def stateBeginValueOrEmpty (s : Scanner) (c : Char) : Scanner :=
  if isSpace c then s else if c = ']' then s.stateEndValue c else s.stateBeginValue c

/-- `stateBeginString`: the opening quote of an object key. -/
def stateBeginString (s : Scanner) (c : Char) : Scanner :=
  if isSpace c then s else if c = '"' then { s with state := .inString } else s.error

/-- `stateBeginStringOrEmpty`: after `{`, a key or the `}` of an empty object. -/
def stateBeginStringOrEmpty (s : Scanner) (c : Char) : Scanner :=
  if isSpace c then s
  else if c = '}' then { s with parseState := .objectValue :: s.parseState.tail }.stateEndValue c
  else s.stateBeginString c

/-- `state0`: after the integer part of a number. -/
def state0 (s : Scanner) (c : Char) : Scanner :=
  if c = '.' then { s with state := .dot }
  else if c = 'e' ∨ c = 'E' then { s with state := .e }
  else s.stateEndValue c

/-- `stateESign`: the first digit of an exponent. -/
def stateESign (s : Scanner) (c : Char) : Scanner :=
  if isDigit c then { s with state := .e0 } else s.error

/-- `s.step(s, c)`: one character. -/
def step (s : Scanner) (c : Char) : Scanner :=
  match s.state with
  | .beginValueOrEmpty => s.stateBeginValueOrEmpty c
  | .beginValue => s.stateBeginValue c
  | .beginStringOrEmpty => s.stateBeginStringOrEmpty c
  | .beginString => s.stateBeginString c
  | .endValue => s.stateEndValue c
  | .endTop => s.stateEndTop c
  | .inString =>
    if c = '"' then { s with state := .endValue }
    else if c = '\\' then { s with state := .inStringEsc }
    else if c.toNat < 0x20 then s.error
    else s
  | .inStringEsc =>
    if c ∈ ['b', 'f', 'n', 'r', 't', '\\', '/', '"'] then { s with state := .inString }
    else if c = 'u' then { s with state := .inStringEscU 0 }
    else s.error
  | .inStringEscU n =>
    if isHex c then { s with state := if n = 3 then .inString else .inStringEscU (n + 1) }
    else s.error
  | .neg =>
    if c = '0' then { s with state := .zero }
    else if '1' ≤ c ∧ c ≤ '9' then { s with state := .one }
    else s.error
  | .one => if isDigit c then s else s.state0 c
  | .zero => s.state0 c
  | .dot => if isDigit c then { s with state := .dot0 } else s.error
  | .dot0 =>
    if isDigit c then s
    else if c = 'e' ∨ c = 'E' then { s with state := .e }
    else s.stateEndValue c
  | .e => if c = '+' ∨ c = '-' then { s with state := .eSign } else s.stateESign c
  | .eSign => s.stateESign c
  | .e0 => if isDigit c then s else s.stateEndValue c
  | .literal [] => s.error
  | .literal (l :: ls) =>
    if c = l then { s with state := if ls = [] then .endValue else .literal ls } else s.error
  | .error => s

/-- `s.reset()`: before the first character. -/
def reset : Scanner := ⟨.beginValue, false, [], none⟩

/-- `s.eof()`: the end of the input, which may end a number the last character left open. -/
def eof (s : Scanner) : Option JsonError :=
  if s.err.isSome then s.err
  else if s.endTop then none
  else
    let s := s.step ' '
    if s.endTop then none else some (s.err.getD .syntaxError)

end Scanner

/-- `checkValid`: the scanner over the whole input; `none` when it is one JSON value. -/
def checkValid (data : List Char) : Option JsonError :=
  (data.foldl Scanner.step Scanner.reset).eof

@[simp] theorem step_error (s : Scanner) (h : s.state = .error) (c : Char) : s.step c = s := by
  simp [Scanner.step, h]

theorem foldl_step_error (s : Scanner) (h : s.state = .error) (cs : List Char) :
    cs.foldl Scanner.step s = s := by
  induction cs with
  | nil => rfl
  | cons c cs ih => rw [List.foldl_cons, step_error s h, ih]

/-- An input whose first characters already send the scanner to its error state is not valid JSON,
whatever follows. -/
theorem checkValid_append_of_step_error (pre rest : List Char)
    (h : (pre.foldl Scanner.step Scanner.reset).state = .error)
    (herr : (pre.foldl Scanner.step Scanner.reset).err = some .syntaxError) :
    checkValid (pre ++ rest) = some .syntaxError := by
  rw [checkValid, List.foldl_append, foldl_step_error _ h, Scanner.eof, herr]
  rfl

/-! ### The decoder -/

/-- The body and the rest of a string literal whose opening quote has been read. -/
def scanString : List Char → List Char × List Char
  | [] => ([], [])
  | '"' :: rest => ([], rest)
  | '\\' :: c :: rest => let (body, rest) := scanString rest; ('\\' :: c :: body, rest)
  | c :: rest => let (body, rest) := scanString rest; (c :: body, rest)

/-- A hex digit's value. -/
def hexValue (c : Char) : Nat :=
  if isDigit c then c.toNat - '0'.toNat
  else if 'a' ≤ c ∧ c ≤ 'f' then c.toNat - 'a'.toNat + 10
  else c.toNat - 'A'.toNat + 10

/-- `getu4`: the value of the four hex digits of a `\u` escape. -/
def getu4 (a b c d : Char) : Nat :=
  ((hexValue a * 16 + hexValue b) * 16 + hexValue c) * 16 + hexValue d

/-- The character of a one-letter escape. -/
def unescape (c : Char) : Char :=
  if c = 'b' then '\x08'
  else if c = 'f' then '\x0c'
  else if c = 'n' then '\n'
  else if c = 'r' then '\r'
  else if c = 't' then '\t'
  else c

/-- Whether a `\u` escape's value is a UTF-16 surrogate (`utf16.IsSurrogate`). -/
def isSurrogate (r : Nat) : Bool := 0xD800 ≤ r ∧ r < 0xE000

/-- What a surrogate still waiting for its partner leaves if none comes: U+FFFD. -/
def flushSurrogate : Option Nat → List Char
  | some _ => ['�']
  | none => []

/-- `unquote` of a validated string body, with the surrogate it has just read and not yet written:
escapes are decoded, a `\u` surrogate followed by a `\u` escape completing the pair gives the
character of the pair (`utf16.DecodeRune`), and any other surrogate gives U+FFFD. -/
def unquoteFrom : Option Nat → List Char → List Char
  | pending, [] => flushSurrogate pending
  | pending, '\\' :: 'u' :: a :: b :: c :: d :: rest =>
    let r := getu4 a b c d
    match pending with
    | some hi =>
      if hi < 0xDC00 ∧ 0xDC00 ≤ r ∧ r < 0xE000 then
        Char.ofNat (0x10000 + (hi - 0xD800) * 0x400 + (r - 0xDC00)) :: unquoteFrom none rest
      else if isSurrogate r then '�' :: unquoteFrom (some r) rest
      else '�' :: Char.ofNat r :: unquoteFrom none rest
    | none => if isSurrogate r then unquoteFrom (some r) rest else Char.ofNat r :: unquoteFrom none rest
  | pending, '\\' :: c :: rest => flushSurrogate pending ++ unescape c :: unquoteFrom none rest
  | pending, c :: rest => flushSurrogate pending ++ c :: unquoteFrom none rest

/-- `unquote` of a validated string body. -/
def unquote (body : List Char) : List Char := unquoteFrom none body

/-- The rest of the input after the inside of a validated object or array, `depth` levels deep. -/
def skipNested : Nat → Bool → List Char → List Char
  | _, _, [] => []
  | depth, true, '\\' :: _ :: rest => skipNested depth true rest
  | depth, true, '"' :: rest => skipNested depth false rest
  | depth, true, _ :: rest => skipNested depth true rest
  | depth, false, '"' :: rest => skipNested depth true rest
  | depth, false, c :: rest =>
    if c = '{' ∨ c = '[' then skipNested (depth + 1) false rest
    else if c = '}' ∨ c = ']' then (if depth ≤ 1 then rest else skipNested (depth - 1) false rest)
    else skipNested depth false rest

/-- `d.skip()`: the rest of a validated input after the value it starts with. -/
def skipValue : List Char → List Char
  | '"' :: rest => (scanString rest).2
  | '{' :: rest => skipNested 1 false rest
  | '[' :: rest => skipNested 1 false rest
  | cs => cs.dropWhile fun c => !(isSpace c ∨ c = ',' ∨ c = '}' ∨ c = ']')

/-- The input after its leading spaces. -/
def skipSpace (cs : List Char) : List Char := cs.dropWhile isSpace

/-- `d.saveError`: only the first error is kept. -/
def saveError (saved : Option JsonError) (err : JsonError) : Option JsonError :=
  saved.orElse fun _ => some err

/-- `foldRune`, on the characters that fold to ASCII letters: lower-case ASCII letters to upper case,
`ſ` (U+017F) to `S` and the Kelvin sign (U+212A) to `K`.  Every other character is kept: its fold set
holds no ASCII letter, so against ASCII field names it matches exactly when Go's fold does. -/
def foldRune (c : Char) : Char :=
  if 'a' ≤ c ∧ c ≤ 'z' then Char.ofNat (c.toNat - 32)
  else if c = 'ſ' then 'S'
  else if c = 'K' then 'K'
  else c

/-- `foldName`. -/
def foldName (name : List Char) : List Char := name.map foldRune

section Decode

variable {σ : Type}
  -- The string fields of the struct, by their JSON names, each with how it is set.
  (fields : List (List Char × (List Char → σ → σ)))

/-- The field a key selects: the one of that exact name, else the first whose name folds to the
same. -/
def findField (key : List Char) : Option (List Char → σ → σ) :=
  match fields.find? (·.1 = key) with
  | some field => some field.2
  | none => (fields.find? fun field => foldName field.1 = foldName key).map (·.2)

/-- `d.value` of one member's value into its field, if any: a string sets the field, `null` leaves
it, any other value is a type error. -/
def storeMember (key : List Char) (cs : List Char) (v : σ) (saved : Option JsonError) :
    σ × Option JsonError × List Char :=
  match findField fields key with
  | none => (v, saved, skipValue cs)
  | some set =>
    match cs with
    | '"' :: rest => let (body, rest) := scanString rest; (set (unquote body) v, saved, rest)
    | 'n' :: _ => (v, saved, skipValue cs)
    | 't' :: _ => (v, saveError saved (.unmarshalTypeError "bool".toList), skipValue cs)
    | 'f' :: _ => (v, saveError saved (.unmarshalTypeError "bool".toList), skipValue cs)
    | '{' :: _ => (v, saveError saved (.unmarshalTypeError "object".toList), skipValue cs)
    | '[' :: _ => (v, saveError saved (.unmarshalTypeError "array".toList), skipValue cs)
    | _ => (v, saveError saved (.unmarshalTypeError "number".toList), skipValue cs)

/-- `d.object` into the struct: the members in order, after the opening brace.  Each member takes
at least one character, so the input's length bounds the members. -/
def objectMembers : Nat → List Char → σ → Option JsonError → σ × Option JsonError
  | 0, _, v, saved => (v, saved)
  | fuel + 1, cs, v, saved =>
    match skipSpace cs with
    | '"' :: rest =>
      let (key, rest) := scanString rest
      let (v, saved, rest) :=
        storeMember fields (unquote key) (skipSpace (skipSpace rest).tail) v saved
      match skipSpace rest with
      | ',' :: rest => objectMembers fuel rest v saved
      | _ => (v, saved)
    | _ => (v, saved)

/-- `d.value` of the top-level value into the struct: the members of an object, nothing for
`null`, and a type error for anything else. -/
def decodeStruct (data : List Char) (v : σ) : σ × Option JsonError :=
  match skipSpace data with
  | '{' :: rest => objectMembers fields data.length rest v none
  | 'n' :: _ => (v, none)
  | '"' :: _ => (v, some (.unmarshalTypeError "string".toList))
  | 't' :: _ => (v, some (.unmarshalTypeError "bool".toList))
  | 'f' :: _ => (v, some (.unmarshalTypeError "bool".toList))
  | '[' :: _ => (v, some (.unmarshalTypeError "array".toList))
  | _ => (v, some (.unmarshalTypeError "number".toList))

/-- `json.Unmarshal(data, &v)`: the error it returns, and `v` after it. -/
def unmarshal (data : List Char) (v : σ) : Option JsonError × σ :=
  match checkValid data with
  | some err => (some err, v)
  | none => let (v, saved) := decodeStruct fields data v; (saved, v)

/-- A syntax error leaves the target untouched. -/
theorem unmarshal_of_checkValid {data : List Char} {err : JsonError}
    (h : checkValid data = some err) (v : σ) : unmarshal fields data v = (some err, v) := by
  simp [unmarshal, h]

end Decode

end Json
end Go
end Linkerd
