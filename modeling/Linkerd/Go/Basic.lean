import Mathlib.Data.List.Basic
import Mathlib.Algebra.Group.Nat.Basic

/-!
# Go values: strings, `strings.Split` and errors

A Go `string` is modelled by its characters, `List Char`.  Every separator the destination server
splits on (`.` and `:`) is one ASCII byte, and for a one-byte separator `strings.Split(s, sep)`
returns exactly the maximal separator-free runs of `s`, empty ones included (`Split("", ".")` is
`[""]`).  That is `List.splitOn`, so the model uses it directly and this file collects the facts
about it that the authority parser needs:

* `splitOn_of_not_mem` / `splitOn_append_cons` — how a split starts;
* `not_mem_of_mem_splitOn` — no piece contains the separator;
* `splitOn_eq_pair_iff` — when a split has exactly two pieces;
* `intercalate_splitOn_eq` — joining the pieces back gives the string.

A Go `error` is `GoError`: a plain `fmt.Errorf` value, a gRPC status, or the destination
watchers' `InvalidService`.  A slice whose length the code counts in a fixed-width integer is a
`GoSlice`, which carries Go's bound on the length of a slice.
-/

namespace Linkerd
namespace Go

variable {c : Char} {s h t : List Char}

/-- A string without the separator splits into itself. -/
theorem splitOn_of_not_mem (hs : c ∉ s) : s.splitOn c = [s] :=
  List.splitOnP_eq_single _ s (fun x hx hxc => hs (by simpa using (beq_iff_eq.mp hxc) ▸ hx))

/-- The first piece of a split ends at the first separator. -/
theorem splitOn_append_cons (hh : c ∉ h) : (h ++ c :: t).splitOn c = h :: t.splitOn c :=
  List.splitOnP_first (· == c) h (fun x hx hxc => hh (by simpa using (beq_iff_eq.mp hxc) ▸ hx)) c
    (beq_self_eq_true c) t

/-- No piece of a split contains the separator. -/
theorem not_mem_of_mem_splitOn : ∀ {s p : List Char}, p ∈ s.splitOn c → c ∉ p
  | [], p, hp => by simp_all [List.splitOn_nil]
  | x :: s, p, hp => by
    have ih := @not_mem_of_mem_splitOn s
    simp only [List.splitOn, List.splitOnP_cons] at hp ih
    split at hp
    · rcases List.mem_cons.mp hp with rfl | hp
      · exact List.not_mem_nil c
      · exact ih hp
    · rename_i hx
      cases hL : List.splitOnP (· == c) s with
      | nil => exact absurd hL (List.splitOnP_ne_nil _ s)
      | cons q qs =>
        rw [hL] at hp ih
        simp only [List.modifyHead, List.mem_cons] at hp ih
        rcases hp with rfl | hp
        · exact List.not_mem_cons_of_ne_of_not_mem (fun h => hx (by simp [h])) (ih (.inl rfl))
        · exact ih (.inr hp)

/-- Joining the pieces of a split with the separator gives the string back. -/
theorem intercalate_splitOn_eq (s : List Char) (c : Char) : [c].intercalate (s.splitOn c) = s :=
  List.intercalate_splitOn s c

/-- Strings with the same pieces are equal. -/
theorem eq_of_splitOn_eq {x y : List Char} (hxy : x.splitOn c = y.splitOn c) : x = y := by
  rw [← intercalate_splitOn_eq x c, hxy, intercalate_splitOn_eq]

/-- A split into one piece is a string without the separator. -/
theorem splitOn_eq_singleton_iff : s.splitOn c = [h] ↔ c ∉ s ∧ h = s := by
  constructor
  · intro hs
    have hh : c ∉ h := not_mem_of_mem_splitOn (s := s) (by simp [hs])
    have : s = h := by rw [← intercalate_splitOn_eq s c, hs]; simp [List.intercalate]
    exact ⟨this ▸ hh, this.symm⟩
  · rintro ⟨hs, rfl⟩
    exact splitOn_of_not_mem hs

/-- A split into exactly two pieces is a string with exactly one separator. -/
theorem splitOn_eq_pair_iff : s.splitOn c = [h, t] ↔ s = h ++ c :: t ∧ c ∉ h ∧ c ∉ t := by
  constructor
  · intro hs
    have hh : c ∉ h := not_mem_of_mem_splitOn (s := s) (by simp [hs])
    have ht : c ∉ t := not_mem_of_mem_splitOn (s := s) (by simp [hs])
    refine ⟨?_, hh, ht⟩
    rw [← intercalate_splitOn_eq s c, hs]
    simp [List.intercalate]
  · rintro ⟨rfl, hh, ht⟩
    rw [splitOn_append_cons hh, splitOn_of_not_mem ht]

/-- The gRPC status codes the destination server returns. -/
inductive Code
  | invalidArgument
  | failedPrecondition
  | unknown
  deriving DecidableEq, Repr

/-- The text `codes.Code.String()` prints for a status code. -/
def Code.text : Code → List Char
  | .invalidArgument => "InvalidArgument".toList
  | .failedPrecondition => "FailedPrecondition".toList
  | .unknown => "Unknown".toList

/-- A Go `error` value, with the text `Error()` returns. -/
inductive GoError
  /-- `fmt.Errorf` and the errors of the Kubernetes client. -/
  | plain (message : List Char)
  /-- `status.Error` and `status.Errorf`: a gRPC status. -/
  | status (code : Code) (message : List Char)
  /-- `watcher.InvalidService`, which a watcher's `Subscribe` returns for a key it cannot serve. -/
  | invalidService (message : List Char)
  deriving DecidableEq, Repr

/-- `err.Error()`; a status prints as `rpc error: code = <code> desc = <message>`. -/
def GoError.text : GoError → List Char
  | .plain message => message
  | .status code message => "rpc error: code = ".toList ++ code.text ++ " desc = ".toList ++ message
  | .invalidService message => message

/-- A Go slice `[]T`.  Its length is an `int`, so it holds fewer than `2 ^ 63` elements. -/
structure GoSlice (α : Type) where
  toList : List α
  length_lt : toList.length < 2 ^ 63

end Go
end Linkerd
