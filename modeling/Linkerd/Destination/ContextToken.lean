import Linkerd.Destination.Authority
import Linkerd.Go.JsonEncode

/-!
# Context tokens: `parseContextToken`

A proxy sends a context token with each request: JSON `{"ns": ..., "nodeName": ...}`, or the older
form `ns:<namespace>`.  `parseContextToken` decodes the token with `json.Unmarshal` into an empty
`contextToken`; only when `Unmarshal` reports an error does it try the older form, and otherwise
keeps the token as `Unmarshal` left it.

`Unmarshal` leaves the token untouched on a syntax error, but on a type error it has already set
every field it could.  So the two kinds of error part ways:

* `parseContextToken_eq` — a token that is valid JSON gives what the decoder fills in, whether or
  not `Unmarshal` reports a type error; any other token gives the namespace of the older form, or
  the empty token.
* `parseContextToken_legacy` — `ns:<namespace>` gives that namespace.
* `parseContextToken_typeError` — `{"ns":"a","nodeName":1}` makes `Unmarshal` fail, and still
  yields the namespace `a`.
* `parseContextToken_marshalContextToken` — a token a client writes with `json.Marshal` comes back
  as it was written, whatever its namespace and node name, and never through the older form.
* `parseContextToken_encodeObject` — on any JSON object of strings, `Unmarshal` reports no error
  and each field is the value of the last member whose key matches its name up to case; members of
  other keys are ignored.
-/

namespace Linkerd
namespace Destination

open Go Json

/-- The fields of `contextToken` as `encoding/json` sees them, by their tags `ns` and
`nodeName`. -/
def contextTokenFields : List (List Char × (List Char → ContextToken → ContextToken)) :=
  [("ns".toList, fun v ctxToken => { ctxToken with ns := v }),
   ("nodeName".toList, fun v ctxToken => { ctxToken with nodeName := v })]

/-- `parseContextToken`. -/
def parseContextToken (token : List Char) : ContextToken :=
  let (err, ctxToken) := unmarshal contextTokenFields token {}
  match err with
  | none => ctxToken
  | some _ =>
    match token.splitOn ':' with
    | [p0, p1] => if p0 = "ns".toList then { ns := p1 } else ctxToken
    | _ => ctxToken

/-- The older form is never valid JSON: after an `n` the scanner expects `null`. -/
theorem checkValid_ns (rest : List Char) : checkValid ('n' :: 's' :: rest) = some .syntaxError :=
  checkValid_append_of_step_error ['n', 's'] rest (by decide) (by decide)

/-- What a token that is not JSON falls back to: the namespace of the older form, or nothing. -/
def legacyContextToken (token : List Char) : ContextToken :=
  match token.splitOn ':' with
  | [p0, p1] => if p0 = "ns".toList then { ns := p1 } else {}
  | _ => {}

/-- A token that is valid JSON gives what the decoder fills in, type error or not; any other token
gives the namespace of the older form, or the empty token. -/
theorem parseContextToken_eq (token : List Char) :
    parseContextToken token =
      if checkValid token = none then (decodeStruct contextTokenFields token {}).1
      else legacyContextToken token := by
  cases hvalid : checkValid token with
  | some err =>
    simp only [parseContextToken, unmarshal_of_checkValid contextTokenFields hvalid,
      legacyContextToken, reduceCtorEq, if_false]
  | none =>
    simp only [parseContextToken, unmarshal, hvalid, if_true]
    cases (decodeStruct contextTokenFields token {}).2 with
    | none => rfl
    | some err =>
      simp only
      split
      · rename_i p0 p1 hsplit
        split
        · rename_i hns
          obtain ⟨rfl, -, -⟩ := splitOn_eq_pair_iff.mp hsplit
          subst hns
          simp [checkValid_ns] at hvalid
        · rfl
      · rfl

/-- The older form `ns:<namespace>` gives that namespace. -/
theorem parseContextToken_legacy (ns : List Char) (hns : ':' ∉ ns) :
    parseContextToken ("ns:".toList ++ ns) = { ns := ns } := by
  have hsplit : ("ns:".toList ++ ns).splitOn ':' = ["ns".toList, ns] :=
    splitOn_eq_pair_iff.mpr ⟨rfl, by decide, hns⟩
  rw [parseContextToken_eq, if_neg (by simp [checkValid_ns]), legacyContextToken, hsplit]
  rfl

/-- `ns:emojivoto` gives the namespace `emojivoto`. -/
theorem parseContextToken_legacy_emojivoto :
    parseContextToken ("ns:".toList ++ "emojivoto".toList) = { ns := "emojivoto".toList } :=
  parseContextToken_legacy _ (by decide)

/-- `{"ns":"a","nodeName":1}`: `Unmarshal` reports the number where a string belongs, and
`parseContextToken` still returns the namespace it set before. -/
theorem parseContextToken_typeError :
    (unmarshal contextTokenFields "\x7b\"ns\":\"a\",\"nodeName\":1\x7d".toList {}).1 =
      some (.unmarshalTypeError "number".toList) ∧
    parseContextToken "\x7b\"ns\":\"a\",\"nodeName\":1\x7d".toList = { ns := "a".toList } := by
  decide

/-- The fields of `contextToken` as `json.Marshal` writes them: `ns` and `nodeName`, both
`omitempty`. -/
def contextTokenEncoders : List (FieldEncoder ContextToken) :=
  [⟨"ns".toList, ContextToken.ns, true⟩, ⟨"nodeName".toList, ContextToken.nodeName, true⟩]

/-- `json.Marshal(ctxToken)`: the token as a client that writes it with `encoding/json` sends it. -/
def marshalContextToken (ctxToken : ContextToken) : List Char :=
  encodeStruct contextTokenEncoders ctxToken

/-- Decoding the members `Marshal` writes for a token, into an empty token, gives the token. -/
theorem foldl_setMember_writtenMembers (ctxToken : ContextToken) :
    (writtenMembers contextTokenEncoders ctxToken).foldl (setMember contextTokenFields) {} =
      ctxToken := by
  obtain ⟨ns, nodeName⟩ := ctxToken
  by_cases hns : ns = [] <;> by_cases hnode : nodeName = [] <;>
    simp [writtenMembers, contextTokenEncoders, setMember, findField, contextTokenFields, hns, hnode]

/-- **Context tokens round-trip through JSON.**  Whatever its namespace and node name, a token
written by `json.Marshal` is decoded by `Unmarshal` with no error, so the older form is never tried,
and `parseContextToken` returns the token as it was written. -/
theorem parseContextToken_marshalContextToken (ctxToken : ContextToken) :
    unmarshal contextTokenFields (marshalContextToken ctxToken) {} = (none, ctxToken) ∧
      parseContextToken (marshalContextToken ctxToken) = ctxToken := by
  have hnames : ∀ f ∈ contextTokenEncoders, ∀ c ∈ f.name, isUnescaped c = true := by decide
  have h : unmarshal contextTokenFields (marshalContextToken ctxToken) {} = (none, ctxToken) := by
    rw [marshalContextToken, unmarshal_encodeStruct contextTokenFields hnames,
      foldl_setMember_writtenMembers]
  exact ⟨h, by simp [parseContextToken, h]⟩

/-- The value of the last member whose key folds to the same as `name`, if any. -/
def lastMember (name : List Char) (ms : List (List Char × List Char)) : Option (List Char) :=
  ((ms.filter fun m => foldName m.1 = foldName name).getLast?).map Prod.snd

theorem lastMember_cons (name : List Char) (m : List Char × List Char)
    (ms : List (List Char × List Char)) :
    lastMember name (m :: ms) =
      (lastMember name ms).or (if foldName m.1 = foldName name then some m.2 else none) := by
  unfold lastMember
  by_cases h : foldName m.1 = foldName name
  · simp only [List.filter_cons, h, decide_True, if_true, List.getLast?_cons]
    cases (ms.filter fun m => foldName m.1 = foldName name).getLast? <;> rfl
  · simp only [List.filter_cons, h, decide_False, Bool.false_eq_true, if_false]
    cases (ms.filter fun m => foldName m.1 = foldName name).getLast? <;> rfl

theorem foldName_nodeName_ne_ns : foldName "nodeName".toList ≠ foldName "ns".toList := by decide

/-- What a string member does to a token: a key that folds to `ns` sets the namespace, one that
folds to `nodeName` sets the node name, and any other key is skipped. -/
theorem setMember_contextTokenFields (v : ContextToken) (m : List Char × List Char) :
    setMember contextTokenFields v m =
      if foldName m.1 = foldName "ns".toList then { v with ns := m.2 }
      else if foldName m.1 = foldName "nodeName".toList then { v with nodeName := m.2 }
      else v := by
  obtain ⟨key, value⟩ := m
  by_cases hns : key = "ns".toList
  · subst hns; rfl
  by_cases hnode : key = "nodeName".toList
  · subst hnode; simp only [if_neg foldName_nodeName_ne_ns]; rfl
  have h1 : decide ("ns".toList = key) = false := decide_eq_false (Ne.symm hns)
  have h2 : decide ("nodeName".toList = key) = false := decide_eq_false (Ne.symm hnode)
  simp only [setMember, findField, contextTokenFields, List.find?_cons, List.find?_nil, h1, h2]
  by_cases hf1 : foldName key = foldName "ns".toList
  · rw [hf1]; rfl
  by_cases hf2 : foldName key = foldName "nodeName".toList
  · rw [hf2]; rfl
  rw [decide_eq_false (Ne.symm hf1), decide_eq_false (Ne.symm hf2), if_neg hf1, if_neg hf2]
  rfl

/-- Decoding string members into a token: each field is the value of the last member whose key
folds to its name, or what it was when no member names it. -/
theorem foldl_setMember_contextTokenFields (ms : List (List Char × List Char)) (v : ContextToken) :
    ms.foldl (setMember contextTokenFields) v =
      { ns := (lastMember "ns".toList ms).getD v.ns,
        nodeName := (lastMember "nodeName".toList ms).getD v.nodeName } := by
  induction ms generalizing v with
  | nil => rfl
  | cons m ms ih =>
    rw [List.foldl_cons, ih, lastMember_cons, lastMember_cons, setMember_contextTokenFields]
    have := foldName_nodeName_ne_ns
    cases lastMember "ns".toList ms <;> cases lastMember "nodeName".toList ms <;>
      split_ifs <;> simp_all

/-- **`parseContextToken` on JSON objects of strings.**  For an object of string members, in any
number and order and with any keys free of escapes: each field of the token is the value of the
last member whose key matches the field's JSON name up to case, and is empty when no member
matches; members of other keys are ignored. -/
theorem parseContextToken_encodeObject {ms : List (List Char × List Char)}
    (hnames : ∀ m ∈ ms, ∀ c ∈ m.1, isUnescaped c = true) :
    unmarshal contextTokenFields (encodeObject ms) {} =
        (none,
          { ns := (lastMember "ns".toList ms).getD [],
            nodeName := (lastMember "nodeName".toList ms).getD [] }) ∧
      parseContextToken (encodeObject ms) =
        { ns := (lastMember "ns".toList ms).getD [],
          nodeName := (lastMember "nodeName".toList ms).getD [] } := by
  have hunmarshal : unmarshal contextTokenFields (encodeObject ms) {} =
      (none,
        { ns := (lastMember "ns".toList ms).getD [],
          nodeName := (lastMember "nodeName".toList ms).getD [] }) := by
    simp only [unmarshal, checkValid_encodeObject hnames,
      decodeStruct_encodeObject contextTokenFields hnames, foldl_setMember_contextTokenFields]
  exact ⟨hunmarshal, by simp only [parseContextToken, hunmarshal]⟩

/-- `{"NS":"a","pod":"web-0","ns":"b","nodeName":"node-1"}`: the key `NS` matches `ns` up to case,
the later `ns` wins, and `pod` is ignored. -/
theorem parseContextToken_encodeObject_pod :
    let ms := [("NS".toList, "a".toList), ("pod".toList, "web-0".toList), ("ns".toList, "b".toList),
      ("nodeName".toList, "node-1".toList)]
    (∀ m ∈ ms, ∀ c ∈ m.1, isUnescaped c = true) ∧
      unmarshal contextTokenFields (encodeObject ms) {} =
        (none, { ns := "b".toList, nodeName := "node-1".toList }) ∧
      parseContextToken (encodeObject ms) = { ns := "b".toList, nodeName := "node-1".toList } := by
  intro ms
  have hnames : ∀ m ∈ ms, ∀ c ∈ m.1, isUnescaped c = true := by decide
  obtain ⟨hunmarshal, hparse⟩ := parseContextToken_encodeObject hnames
  exact ⟨hnames, hunmarshal.trans (by decide), hparse.trans (by decide)⟩

example : marshalContextToken { ns := "a<b".toList } = "\x7b\"ns\":\"a\\u003cb\"\x7d".toList ∧
    parseContextToken "\x7b\"ns\":\"a\\u003cb\"\x7d".toList = { ns := "a<b".toList } := by
  decide

end Destination
end Linkerd
