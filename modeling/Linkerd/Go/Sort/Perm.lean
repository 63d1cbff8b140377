import Linkerd.Go.Sort
import Mathlib.GroupTheory.Perm.Basic
import Mathlib.Data.List.Nodup

/-!
# `sort.Slice` only permutes

Every routine of `pdqsort_func` changes the slice by `Swap` alone, so it permutes the elements it
touches.  `PermOn a b data data'` says that `data'` is `data` with the elements of `data[a:b]`
permuted among themselves and every other element in place; each routine is shown to permute the
range it is given, except `partialInsertionSort_func`, whose shift left is bounded by index `1`
instead of `a` and so can reach below the range when the comparator is not an order.  Whatever the
comparator, the routines stay below the end of the range, so:

* `permOn_pdqsort` — `pdqsort_func(data, a, b, limit)` permutes `data[0:b]`;
* `sortSlice_perm` — `sort.Slice` returns a permutation of the slice, whatever the comparator.

The other facts of this module are the index bounds the routines need: where `choosePivot_func`
puts the pivot, and where `breakPatterns_func` draws its random indices.
-/

namespace Linkerd
namespace Go

section Permutations

variable {α : Type}

/-- `data'` is `data` with the elements of `data[a:b]` permuted: each index reads the element that
`data` holds at the index `σ` maps it to, and `σ` moves no index outside the range. -/
def PermOn (a b : Nat) (data data' : SortData α) : Prop :=
  ∃ σ : Equiv.Perm Nat, (∀ k, (k < a ∨ b ≤ k) → σ k = k) ∧ ∀ k, data'.get k = data.get (σ k)

theorem PermOn.refl (a b : Nat) (data : SortData α) : PermOn a b data data :=
  ⟨1, fun _ _ => rfl, fun _ => rfl⟩

theorem PermOn.trans {a b : Nat} {d₁ d₂ d₃ : SortData α} (h₁ : PermOn a b d₁ d₂)
    (h₂ : PermOn a b d₂ d₃) : PermOn a b d₁ d₃ := by
  obtain ⟨σ, hσ, hd₂⟩ := h₁
  obtain ⟨τ, hτ, hd₃⟩ := h₂
  refine ⟨σ * τ, fun k hk => ?_, fun k => ?_⟩
  · rw [Equiv.Perm.mul_apply, hτ k hk, hσ k hk]
  · rw [hd₃, hd₂, Equiv.Perm.mul_apply]

/-- A permutation of a range permutes every range around it. -/
theorem PermOn.mono {a b a' b' : Nat} {data data' : SortData α} (h : PermOn a b data data')
    (ha : a' ≤ a) (hb : b ≤ b') : PermOn a' b' data data' := by
  obtain ⟨σ, hσ, hd⟩ := h
  exact ⟨σ, fun k hk => hσ k (by omega), hd⟩

/-- Swapping two elements of a range permutes it. -/
theorem permOn_swap {a b i j : Nat} (data : SortData α) (hi : a ≤ i ∧ i < b) (hj : a ≤ j ∧ j < b) :
    PermOn a b data (swap data i j) := by
  refine ⟨Equiv.swap i j, fun k hk => Equiv.swap_apply_of_ne_of_ne (by omega) (by omega),
    fun k => ?_⟩
  simp only [swap, Equiv.swap_apply_def]
  split_ifs <;> rfl

/-- Outside the range nothing moves. -/
theorem PermOn.get_of_not_mem {a b k : Nat} {data data' : SortData α}
    (h : PermOn a b data data') (hk : k < a ∨ b ≤ k) : data'.get k = data.get k := by
  obtain ⟨σ, hσ, hd⟩ := h
  rw [hd, hσ k hk]

/-- An index of the range reads an element `data` holds in the range. -/
theorem PermOn.exists_get {a b k : Nat} {data data' : SortData α} (h : PermOn a b data data')
    (hk : a ≤ k ∧ k < b) : ∃ k', (a ≤ k' ∧ k' < b) ∧ data'.get k = data.get k' := by
  obtain ⟨σ, hσ, hd⟩ := h
  refine ⟨σ k, ?_, hd k⟩
  by_contra hout
  have hfix := hσ (σ k) (by omega)
  rw [σ.injective hfix] at hout
  exact hout hk

/-- Every element `data` holds in the range is still held there. -/
theorem PermOn.exists_get_eq {a b k : Nat} {data data' : SortData α} (h : PermOn a b data data')
    (hk : a ≤ k ∧ k < b) : ∃ k', (a ≤ k' ∧ k' < b) ∧ data'.get k' = data.get k := by
  obtain ⟨σ, hσ, hd⟩ := h
  refine ⟨σ.symm k, ?_, by rw [hd, Equiv.apply_symm_apply]⟩
  by_contra hout
  have hfix := hσ (σ.symm k) (by omega)
  rw [Equiv.apply_symm_apply] at hfix
  rw [← hfix] at hout
  exact hout hk

/-- What holds of every element of the range still holds after a permutation of it. -/
theorem PermOn.forall_get {a b : Nat} {data data' : SortData α} (h : PermOn a b data data')
    {P : α → Prop} (hP : ∀ k, a ≤ k ∧ k < b → P (data.get k)) :
    ∀ k, a ≤ k ∧ k < b → P (data'.get k) := by
  intro k hk
  obtain ⟨k', hk', heq⟩ := h.exists_get hk
  rw [heq]
  exact hP k' hk'

/-- A permutation of the range, as the lists of its elements. -/
theorem PermOn.perm {a b : Nat} {data data' : SortData α} (h : PermOn a b data data') :
    ((List.range' a (b - a)).map data'.get).Perm ((List.range' a (b - a)).map data.get) := by
  obtain ⟨σ, hσ, hd⟩ := h
  have hσrange : ∀ k, a ≤ k ∧ k < b → a ≤ σ k ∧ σ k < b := fun k hk => by
    by_contra hout
    have hfix := hσ (σ k) (by omega)
    rw [σ.injective hfix] at hout
    exact hout hk
  have hσsymm : ∀ k, a ≤ k ∧ k < b → a ≤ σ.symm k ∧ σ.symm k < b := fun k hk => by
    by_contra hout
    have hfix := hσ (σ.symm k) (by omega)
    rw [Equiv.apply_symm_apply] at hfix
    rw [← hfix] at hout
    exact hout hk
  have hidx : ((List.range' a (b - a)).map σ).Perm (List.range' a (b - a)) := by
    refine (List.perm_ext_iff_of_nodup (List.Nodup.map σ.injective (List.nodup_range' a _))
      (List.nodup_range' a _)).mpr fun k => ?_
    simp only [List.mem_map, List.mem_range'_1]
    constructor
    · rintro ⟨k', hk', rfl⟩
      exact (by have := hσrange k' (by omega); omega)
    · intro hk
      exact ⟨σ.symm k, by have := hσsymm k (by omega); omega, Equiv.apply_symm_apply σ k⟩
  have hmap : (List.range' a (b - a)).map data'.get =
      ((List.range' a (b - a)).map σ).map data.get := by
    rw [List.map_map]
    exact List.map_congr_left fun k _ => hd k
  rw [hmap]
  exact hidx.map data.get

/-- A step that permutes the range, applied for each value of a loop variable, permutes it. -/
theorem permOn_foldl {β : Type} {a b : Nat} (f : SortData α → β → SortData α) (xs : List β)
    (hf : ∀ data, ∀ x ∈ xs, PermOn a b data (f data x)) (data : SortData α) :
    PermOn a b data (xs.foldl f data) := by
  induction xs generalizing data with
  | nil => exact .refl a b data
  | cons x xs ih =>
    exact (hf data x (.head _)).trans (ih (fun d y hy => hf d y (.tail _ hy)) _)

end Permutations

section Routines

variable {α : Type} (less : α → α → Bool)

/-! ### Each routine permutes its range -/

/-- Insertion sort's inner loop from `j` only swaps down to `a`. -/
theorem permOn_insertionSortShift (a : Nat) :
    ∀ (data : SortData α) (j : Nat), PermOn a (j + 1) data (insertionSortShift less a data j)
  | data, 0 => .refl _ _ _
  | data, j + 1 => by
    rw [insertionSortShift]
    split
    · rename_i h
      exact (permOn_swap data (by omega) (by omega)).trans
        ((permOn_insertionSortShift a _ j).mono le_rfl (by omega))
    · exact .refl _ _ _

theorem permOn_insertionSort (data : SortData α) {a b : Nat} :
    PermOn a b data (insertionSort less data a b) :=
  permOn_foldl _ _ (fun d i hi => by
    rw [List.mem_range'_1] at hi
    exact (permOn_insertionSortShift less a d i).mono le_rfl (by omega)) data

/-- The sift swaps within the heap `data[first:first+hi]`. -/
theorem permOn_siftDown (data : SortData α) (lo hi first : Nat) :
    PermOn first (first + hi) data (siftDown less data lo hi first) := by
  rw [siftDown]
  split
  · exact .refl _ _ _
  · dsimp only
    split <;> split
    all_goals first
      | exact .refl _ _ _
      | exact (permOn_swap data (by omega) (by omega)).trans (permOn_siftDown _ _ hi first)
termination_by hi - lo

theorem permOn_heapSort (data : SortData α) {a b : Nat} (hab : a ≤ b) :
    PermOn a b data (heapSort less data a b) := by
  have hsift : ∀ d lo hi, hi ≤ b - a → PermOn a b d (siftDown less d lo hi a) :=
    fun d lo hi hhi => (permOn_siftDown less d lo hi a).mono le_rfl (by omega)
  refine (permOn_foldl _ _ (fun d i _ => hsift d i (b - a) le_rfl) data).trans
    (permOn_foldl _ _ (fun d i hi => ?_) _)
  rw [List.mem_reverse, List.mem_range] at hi
  exact (permOn_swap d (by omega) (by omega)).trans (hsift _ 0 i (by omega))

/-- A crossing loop swaps within `data[i:j+1]`. -/
theorem permOn_crossLoop (cond : SortData α → Nat → Bool) (data : SortData α) (i j : Nat) :
    PermOn i (j + 1) data (crossLoop cond data i j).1 := by
  have hi := le_scanUp (cond data) j i
  have hj := scanDown_le (fun k => !cond data k) (scanUp (cond data) j i) j
  rw [crossLoop]
  generalize scanUp (cond data) j i = i' at *
  generalize scanDown (fun k => !cond data k) i' j = j' at *
  split
  · exact .refl _ _ _
  · exact (permOn_swap data (by omega) (by omega)).trans
      ((permOn_crossLoop cond _ (i' + 1) (j' - 1)).mono (by omega) (by omega))
termination_by j + 1 - i
decreasing_by omega

theorem permOn_partition (data : SortData α) {a b pivot : Nat} (hpivot : a ≤ pivot ∧ pivot < b) :
    PermOn a b data (partition less data a b pivot).1 := by
  have hmid := partition_bounds less data pivot (a := a) (b := b) (by omega)
  rw [(partition_eq_crossLoop less data a b pivot).2] at hmid
  rw [(partition_eq_crossLoop less data a b pivot).1]
  exact (permOn_swap data (by omega) hpivot).trans
    (((permOn_crossLoop _ _ _ _).mono (by omega) (by omega)).trans
      (permOn_swap _ hmid (by omega)))

theorem permOn_partitionEqual (data : SortData α) {a b pivot : Nat}
    (hpivot : a ≤ pivot ∧ pivot < b) : PermOn a b data (partitionEqual less data a b pivot).1 :=
  (permOn_swap data (by omega) hpivot).trans
    ((permOn_crossLoop _ _ _ _).mono (by omega) (by omega))

/-- The shift right of `partialInsertionSort_func` swaps within `data[j-1:b]`. -/
theorem permOn_shiftRight (data : SortData α) (b j : Nat) :
    PermOn (j - 1) b data (shiftRight less data b j) := by
  rw [shiftRight]
  split
  · rename_i h
    exact (permOn_swap data (by omega) (by omega)).trans
      ((permOn_shiftRight _ b (j + 1)).mono (by omega) le_rfl)
  · exact .refl _ _ _
termination_by b - j

theorem le_scanSorted (data : SortData α) (b i : Nat) : i ≤ scanSorted less data b i := by
  rw [scanSorted]
  split
  · exact Nat.le_of_succ_le (le_scanSorted data b (i + 1))
  · exact le_rfl
termination_by b - i

theorem scanSorted_le (data : SortData α) {b i : Nat} (h : i ≤ b) : scanSorted less data b i ≤ b := by
  rw [scanSorted]
  split
  · rename_i hc
    exact scanSorted_le data (Nat.succ_le_of_lt hc.1)
  · exact h
termination_by b - i

/-- With any comparator, `partialInsertionSort_func` swaps below `b`; its shift left may pass
below `a`. -/
theorem permOn_partialInsertionSortLoop (a b : Nat) :
    ∀ (steps : Nat) (data : SortData α) (i : Nat), i ≤ b →
      PermOn 0 b data (partialInsertionSortLoop less a b steps data i).1
  | 0, data, _, _ => .refl _ _ _
  | steps + 1, data, i, hi => by
    have hle := scanSorted_le less data hi
    rw [partialInsertionSortLoop]
    dsimp only
    generalize scanSorted less data b i = i' at *
    split
    · exact .refl _ _ _
    · split
      · exact .refl _ _ _
      · rename_i hne _
        have h₁ : PermOn 0 b data (swap data i' (i' - 1)) := permOn_swap data (by omega) (by omega)
        generalize swap data i' (i' - 1) = d₁ at h₁ ⊢
        have h₂ : PermOn 0 b d₁ (if 2 ≤ i' - a then insertionSortShift less 0 d₁ (i' - 1) else d₁) := by
          split
          · exact (permOn_insertionSortShift less 0 _ _).mono le_rfl (by omega)
          · exact .refl _ _ _
        generalize (if 2 ≤ i' - a then insertionSortShift less 0 d₁ (i' - 1) else d₁) = d₂ at h₂ ⊢
        have h₃ : PermOn 0 b d₂ (if 2 ≤ b - i' then shiftRight less d₂ b (i' + 1) else d₂) := by
          split
          · exact (permOn_shiftRight less _ b _).mono (Nat.zero_le _) le_rfl
          · exact .refl _ _ _
        generalize (if 2 ≤ b - i' then shiftRight less d₂ b (i' + 1) else d₂) = d₃ at h₃ ⊢
        exact h₁.trans (h₂.trans (h₃.trans (permOn_partialInsertionSortLoop a b steps d₃ i' hle)))

/-- The random index of `breakPatterns_func` lies in the range: the mask keeps it below the next
power of two, at most twice the length, and one subtraction of the length brings it below it. -/
theorem breakPatterns_other_lt (length : Nat) (hlength : 0 < length) (random : Nat) :
    (if length ≤ random &&& (nextPowerOfTwo length - 1)
      then (random &&& (nextPowerOfTwo length - 1)) - length
      else random &&& (nextPowerOfTwo length - 1)) < length := by
  have hsize := Nat.size_pos.mpr hlength
  have hhalf : 2 ^ (Nat.size length - 1) ≤ length := Nat.lt_size.mp (by omega)
  have hpow : nextPowerOfTwo length ≤ 2 * length :=
    calc nextPowerOfTwo length = 2 ^ (Nat.size length - 1) * 2 := by
          rw [nextPowerOfTwo, ← Nat.pow_succ]; congr 1; omega
      _ ≤ 2 * length := by omega
  have hmask := Nat.and_le_right (n := random) (m := nextPowerOfTwo length - 1)
  split <;> omega

theorem permOn_breakPatterns (data : SortData α) (a b : Nat) :
    PermOn a b data (breakPatterns data a b) := by
  rw [breakPatterns]
  split
  · rename_i hlength
    dsimp only
    suffices ∀ (xs : List Nat) (state : SortData α × UInt64), (∀ i ∈ xs, i < 3) →
        PermOn a b state.1 (xs.foldl (fun (state : SortData α × UInt64) i =>
          (swap state.1 (a + (b - a) / 4 * 2 - 1 - 1 + i)
            (a + if b - a ≤ (xorshiftNext state.2).toNat &&& (nextPowerOfTwo (b - a) - 1)
              then ((xorshiftNext state.2).toNat &&& (nextPowerOfTwo (b - a) - 1)) - (b - a)
              else (xorshiftNext state.2).toNat &&& (nextPowerOfTwo (b - a) - 1)),
            xorshiftNext state.2)) state).1 from
      this (List.range 3) (data, UInt64.ofNat (b - a)) fun i hi => List.mem_range.mp hi
    intro xs
    induction xs with
    | nil => exact fun state _ => .refl _ _ _
    | cons i xs ih =>
      intro state hxs
      have hi := hxs i (.head _)
      have hother := breakPatterns_other_lt (b - a) (by omega)
        (xorshiftNext state.2).toNat
      exact (permOn_swap _ (by omega) (by omega)).trans (ih _ fun j hj => hxs j (.tail _ hj))
  · exact .refl _ _ _

/-- `order2_func` returns its two indices, in some order: what holds of both holds of each
result. -/
theorem order2_mem (P : Nat → Prop) (data : SortData α) {x y : Nat} (hx : P x) (hy : P y)
    (swaps : Nat) : P (order2 less data x y swaps).1 ∧ P (order2 less data x y swaps).2.1 := by
  unfold order2
  split
  · exact ⟨hy, hx⟩
  · exact ⟨hx, hy⟩

/-- `median_func` returns one of its three indices. -/
theorem median_mem (P : Nat → Prop) (data : SortData α) (x y z : Nat) (hx : P x) (hy : P y)
    (hz : P z) (swaps : Nat) : P (median less data x y z swaps).1 :=
  have r₁ := order2_mem less P data hx hy swaps
  have r₂ := order2_mem less P data r₁.2 hz (order2 less data x y swaps).2.2
  (order2_mem less P data r₁.1 r₂.1 _).2

/-- From eight elements on, `choosePivot_func` picks a pivot in the range. -/
theorem choosePivot_bounds (data : SortData α) {a b : Nat} (hlength : 8 ≤ b - a) :
    a ≤ (choosePivot less data a b).1 ∧ (choosePivot less data a b).1 < b := by
  let P k := a ≤ k ∧ k < b
  -- the three quarter points, and the elements around each, lie in the range
  have hi : a < a + (b - a) / 4 * 1 ∧ a + (b - a) / 4 * 1 + 1 < b := by omega
  have hj : a < a + (b - a) / 4 * 2 ∧ a + (b - a) / 4 * 2 + 1 < b := by omega
  have hk : a < a + (b - a) / 4 * 3 ∧ a + (b - a) / 4 * 3 + 1 < b := by omega
  have hadj : ∀ x, a < x ∧ x + 1 < b → ∀ s, P (medianAdjacent less data x s).1 :=
    fun x hx => median_mem less P data (x - 1) x (x + 1) ⟨by omega, by omega⟩
      ⟨by omega, by omega⟩ ⟨by omega, by omega⟩
  -- the hint leaves the pivot as the median picked it
  have hhint : ∀ choice : Nat × Nat, P choice.1 → P (if choice.2 = 0 then (choice.1, .increasingHint)
      else if choice.2 = 4 * 3 then (choice.1, .decreasingHint)
      else (choice.1, SortedHint.unknownHint)).1 := fun _ h => by split_ifs <;> exact h
  unfold choosePivot
  dsimp only
  rw [if_pos hlength]
  refine hhint _ (median_mem less P data _ _ _ ?_ ?_ ?_ _) <;> split
  · exact hadj _ hi _
  · exact ⟨hi.1.le, Nat.lt_of_succ_lt hi.2⟩
  · exact hadj _ hj _
  · exact ⟨hj.1.le, Nat.lt_of_succ_lt hj.2⟩
  · exact hadj _ hk _
  · exact ⟨hk.1.le, Nat.lt_of_succ_lt hk.2⟩

/-- The loop of `reverseRange_func` swaps within `data[i:j+1]`. -/
theorem permOn_reverseRangeFrom (data : SortData α) (i j : Nat) :
    PermOn i (j + 1) data (reverseRangeFrom data i j) := by
  rw [reverseRangeFrom]
  split
  · exact (permOn_swap data (by omega) (by omega)).trans
      ((permOn_reverseRangeFrom _ (i + 1) (j - 1)).mono (by omega) (by omega))
  · exact .refl _ _ _
termination_by j - i

/-- The start of an iteration of `pdqsort_func`'s loop permutes the range and picks a pivot in it. -/
theorem pickPivot_spec (data : SortData α) {a b : Nat} (limit : Nat) (wasBalanced : Bool)
    (hlength : 8 ≤ b - a) :
    PermOn a b data (pickPivot less data a b limit wasBalanced).data ∧
      a ≤ (pickPivot less data a b limit wasBalanced).pivot ∧
      (pickPivot less data a b limit wasBalanced).pivot < b := by
  have hbroken : PermOn a b data (if !wasBalanced then breakPatterns data a b else data) := by
    split
    · exact permOn_breakPatterns data a b
    · exact .refl _ _ _
  unfold pickPivot
  dsimp only
  generalize (if !wasBalanced then breakPatterns data a b else data) = broken at hbroken ⊢
  have hpivot := choosePivot_bounds less broken hlength
  split <;> dsimp only
  · exact ⟨hbroken.trans ((permOn_reverseRangeFrom broken a (b - 1)).mono le_rfl (by omega)),
      by omega, by omega⟩
  · exact ⟨hbroken, hpivot⟩

/-- `pdqsort_func` permutes the slice within `data[0:b]`: within `data[a:b]` but for the leftward
shifts of `partialInsertionSort_func`, which this statement, for every `less`, does not bound. -/
theorem permOn_pdqsort (data : SortData α) (a b limit : Nat) (wasBalanced wasPartitioned : Bool) :
    PermOn 0 b data (pdqsort less data a b limit wasBalanced wasPartitioned) := by
  rw [pdqsort]
  split
  · exact (permOn_insertionSort less data).mono (Nat.zero_le _) le_rfl
  split
  · exact (permOn_heapSort less data (by omega)).mono (Nat.zero_le _) le_rfl
  rename_i hlength _
  dsimp only
  obtain ⟨hpick, hpivot⟩ := pickPivot_spec less data limit wasBalanced (a := a) (b := b) (by omega)
  generalize pickPivot less data a b limit wasBalanced = p at hpick hpivot ⊢
  have htried : PermOn 0 b data (if wasBalanced ∧ wasPartitioned ∧ p.hint = .increasingHint then
      partialInsertionSort less p.data a b else (p.data, false)).1 := by
    have hpick₀ := hpick.mono (Nat.zero_le _) le_rfl
    split
    · exact hpick₀.trans (permOn_partialInsertionSortLoop less a b 5 _ _ (by omega))
    · exact hpick₀
  generalize (if wasBalanced ∧ wasPartitioned ∧ p.hint = .increasingHint then
      partialInsertionSort less p.data a b else (p.data, false)) = tried at htried ⊢
  split
  · exact htried
  split
  · exact (htried.trans ((permOn_partitionEqual less tried.1 hpivot).mono (Nat.zero_le _) le_rfl)).trans
      (permOn_pdqsort _ _ b _ _ _)
  have hpart := (permOn_partition less tried.1 hpivot).mono (Nat.zero_le _) le_rfl
  have hmid := partition_bounds less tried.1 p.pivot (a := a) (b := b) (by omega)
  split
  · exact ((htried.trans hpart).trans ((permOn_pdqsort _ a _ _ _ _).mono le_rfl (by omega))).trans
      (permOn_pdqsort _ _ b _ _ _)
  · exact ((htried.trans hpart).trans (permOn_pdqsort _ _ b _ _ _)).trans
      ((permOn_pdqsort _ a _ _ _ _).mono le_rfl (by omega))
termination_by b - a
decreasing_by
  all_goals first
    | exact partitionEqual_lt less _ _ (by omega)
    | exact partition_left_lt less _ _ (by omega)
    | exact partition_right_lt less _ _ (by omega)

/-- The slice that `sort.Slice` sorts, read back over its indices, is the list. -/
theorem map_range_getD (xs : List α) (x : α) :
    (List.range xs.length).map (fun k => xs.getD k x) = xs :=
  List.ext_getElem (by simp) fun i _ h => by simp [List.getElem?_eq_getElem h]

/-- `sort.Slice` returns a permutation of the slice it is given. -/
theorem sortSlice_perm (xs : List α) : (sortSlice less xs).Perm xs := by
  match xs with
  | [] => exact .nil
  | x :: rest =>
    have h := (permOn_pdqsort less ⟨fun k => (x :: rest).getD k x⟩ 0 (x :: rest).length
      (Nat.size (x :: rest).length) true true).perm
    rw [Nat.sub_zero, ← List.range_eq_range'] at h
    rw [sortSlice]
    exact h.trans (by rw [map_range_getD])

end Routines

/-! ### Comparators that order a key -/

section Keys

variable {α β : Type} [LinearOrder β] (less : α → α → Bool) (key : α → β)

/-- `less` is the strict order of `key` on the elements of the slice. -/
def Keyed (data : SortData α) : Prop :=
  ∀ i j, less (data.get i) (data.get j) = decide (key (data.get i) < key (data.get j))

/-- `data[a:b]` is in nondecreasing order of `key`, neighbour by neighbour. -/
def SortedOn (data : SortData α) (a b : Nat) : Prop :=
  ∀ k, a < k → k < b → key (data.get (k - 1)) ≤ key (data.get k)

variable {less key}

/-- A permutation keeps the elements, so the comparator still orders their key. -/
theorem Keyed.permOn {a b : Nat} {data data' : SortData α} (hk : Keyed less key data)
    (h : PermOn a b data data') : Keyed less key data' := by
  obtain ⟨σ, -, hd⟩ := h
  intro i j
  rw [hd, hd]
  exact hk _ _

theorem Keyed.less_eq_true {data : SortData α} (hk : Keyed less key data) (i j : Nat) :
    less (data.get i) (data.get j) = true ↔ key (data.get i) < key (data.get j) := by
  rw [hk, decide_eq_true_iff]

theorem Keyed.less_eq_false {data : SortData α} (hk : Keyed less key data) (i j : Nat) :
    less (data.get i) (data.get j) = false ↔ key (data.get j) ≤ key (data.get i) := by
  rw [hk, decide_eq_false_iff_not, not_lt]

/-- A range sorted neighbour by neighbour is sorted pair by pair. -/
theorem SortedOn.le {data : SortData α} {a b : Nat} (h : SortedOn key data a b) {i j : Nat}
    (hai : a ≤ i) (hij : i ≤ j) (hjb : j < b) : key (data.get i) ≤ key (data.get j) := by
  induction j, hij using Nat.le_induction with
  | base => exact le_rfl
  | succ j hij ih => exact (ih (by omega)).trans (h (j + 1) (by omega) hjb)

/-- Two sorted ranges that meet in order make one. -/
theorem SortedOn.append {data : SortData α} {a m b : Nat} (h₁ : SortedOn key data a m)
    (h₂ : SortedOn key data m b)
    (hm : a < m → m < b → key (data.get (m - 1)) ≤ key (data.get m)) :
    SortedOn key data a b := by
  intro k hak hkb
  rcases Nat.lt_trichotomy k m with hk | rfl | hk
  · exact h₁ k hak hk
  · exact hm hak hkb
  · exact h₂ k hk hkb

/-- A sorted range stays sorted when the slice is permuted elsewhere. -/
theorem SortedOn.permOn {data data' : SortData α} {a b c e : Nat} (h : SortedOn key data a b)
    (hp : PermOn c e data data') (hdisj : b ≤ c ∨ e ≤ a) : SortedOn key data' a b := by
  intro k hak hkb
  rw [hp.get_of_not_mem (by omega), hp.get_of_not_mem (by omega)]
  exact h k hak hkb

end Keys

end Go
end Linkerd
