import Linkerd.Go.Sort.Heap
import Mathlib.Data.List.Sort
import Mathlib.Data.List.GetD

/-!
# `sort.Slice` sorts by a key

When the comparator is the strict order of a key on the elements of the slice, `pdqsort_func`
sorts the slice by that key.  Each routine is specified on its own: insertion sort sorts its
range; the crossing loops split theirs in two sides, from which `partition_func` puts the pivot
between the elements less than it and the others, and `partitionEqual_func` puts the elements not
greater than the pivot first; `partialInsertionSort_func` permutes its range and, when it reports
success, has sorted it.  `pdqsort_func` reads the element before its range, which is why every
call is made on a range whose preceding element, if any, is at most all of it (`Bounded`); under
that condition the shift left of `partialInsertionSort_func` stops at the range as insertion sort's
does, and the branch for many equal elements only starts on a range of elements equal to that one.

* `pdqsort_spec` — `pdqsort_func(data, a, b, limit)` permutes and sorts `data[a:b]`;
* `sortSlice_sorted` — `sort.Slice` returns the slice sorted by the key.
-/

namespace Linkerd
namespace Go

section Sorted

variable {α β : Type} [LinearOrder β] (key : α → β)

/-- Every element of `data[a:b]` is at least the element just before the range, when there is
one. -/
def Bounded (data : SortData α) (a b : Nat) : Prop :=
  0 < a → ∀ k, a ≤ k → k < b → key (data.get (a - 1)) ≤ key (data.get k)

/-- `data[mid]` is at least every element of `data[a:mid]` and at most every element of
`data[mid+1:b]`. -/
def Partitioned (data : SortData α) (a mid b : Nat) : Prop :=
  (∀ k, a ≤ k → k < mid → key (data.get k) ≤ key (data.get mid)) ∧
    ∀ k, mid < k → k < b → key (data.get mid) ≤ key (data.get k)

variable {key} {less : α → α → Bool}

theorem Bounded.permOn {data data' : SortData α} {a b : Nat} (h : Bounded key data a b)
    (hp : PermOn a b data data') : Bounded key data' a b := by
  intro ha k hak hkb
  rw [hp.get_of_not_mem (.inl (by omega))]
  exact hp.forall_get (P := fun x => key (data.get (a - 1)) ≤ key x)
    (fun j hj => h ha j hj.1 hj.2) k ⟨hak, hkb⟩

theorem Bounded.mono {data : SortData α} {a b b' : Nat} (h : Bounded key data a b) (hb : b' ≤ b) :
    Bounded key data a b' :=
  fun ha k hak hkb => h ha k hak (by omega)

theorem SortedOn.mono {data : SortData α} {a b b' : Nat} (h : SortedOn key data a b)
    (hb : b' ≤ b) : SortedOn key data a b' :=
  fun k hak hkb => h k hak (by omega)

/-- Sorting the left side of a partition keeps it partitioned. -/
theorem Partitioned.permOn_left {data data' : SortData α} {a mid b : Nat}
    (h : Partitioned key data a mid b) (hp : PermOn a mid data data') :
    Partitioned key data' a mid b := by
  have hmid := hp.get_of_not_mem (.inr (Nat.le_refl mid))
  refine ⟨fun k hak hk => ?_, fun k hk hkb => ?_⟩
  · rw [hmid]
    exact hp.forall_get (P := fun x => key x ≤ key (data.get mid)) (fun j hj => h.1 j hj.1 hj.2)
      k ⟨hak, hk⟩
  · rw [hmid, hp.get_of_not_mem (.inr hk.le)]
    exact h.2 k hk hkb

/-- Sorting the right side of a partition keeps it partitioned. -/
theorem Partitioned.permOn_right {data data' : SortData α} {a mid b : Nat}
    (h : Partitioned key data a mid b) (hp : PermOn (mid + 1) b data data') :
    Partitioned key data' a mid b := by
  have hmid := hp.get_of_not_mem (.inl (Nat.lt_succ_self mid))
  refine ⟨fun k hak hk => ?_, fun k hk hkb => ?_⟩
  · rw [hmid, hp.get_of_not_mem (.inl (by omega))]
    exact h.1 k hak hk
  · rw [hmid]
    exact hp.forall_get (P := fun x => key (data.get mid) ≤ key x) (fun j hj => h.2 j hj.1 hj.2)
      k ⟨hk, hkb⟩

/-- A partition with both sides sorted is sorted. -/
theorem Partitioned.sortedOn {data : SortData α} {a mid b : Nat} (h : Partitioned key data a mid b)
    (hl : SortedOn key data a mid) (hr : SortedOn key data (mid + 1) b) : SortedOn key data a b :=
  hl.append (SortedOn.append (m := mid + 1) (fun k h₁ h₂ => absurd h₂ (by omega)) hr
      fun _ hb => h.2 _ (Nat.lt_succ_self mid) hb)
    fun ha _ => h.1 _ (by omega) (by omega)

/-! ### Insertion sort -/

/-- The inner loop of insertion sort from `j`, with `data[a:j]` sorted, leaves `data[a:j+1]`
sorted. -/
theorem sortedOn_insertionSortShift (a : Nat) :
    ∀ (data : SortData α) (j : Nat), Keyed less key data → SortedOn key data a j →
      SortedOn key (insertionSortShift less a data j) a (j + 1)
  | _, 0, _, _ => fun k h₁ h₂ => absurd h₂ (by omega)
  | data, j + 1, hk, h => by
    rw [insertionSortShift]
    split
    · rename_i hlt
      rw [hk.less_eq_true] at hlt
      have hswap : PermOn j (j + 2) data (swap data (j + 1) j) :=
        permOn_swap data (by omega) (by omega)
      have hrest := permOn_insertionSortShift less a (swap data (j + 1) j) j
      refine (sortedOn_insertionSortShift a _ j (hk.permOn hswap)
        ((h.mono (Nat.le_succ j)).permOn hswap (.inl le_rfl))).append
        (fun k h₁ h₂ => absurd h₂ (by omega)) fun _ _ => ?_
      -- the element that stopped the shift is at most the one it passed
      rw [Nat.add_sub_cancel, hrest.get_of_not_mem (.inr le_rfl), swap_get_left]
      obtain ⟨k, hk', heq⟩ := hrest.exists_get (k := j) ⟨by omega, Nat.lt_succ_self j⟩
      rw [heq]
      rcases Nat.eq_or_lt_of_le (Nat.le_of_lt_succ hk'.2) with rfl | hkj
      · rw [swap_get_right]
        exact hlt.2.le
      · rw [swap_get_of_ne (k := k) _ (by omega) (by omega)]
        exact h.le hk'.1 hkj.le (Nat.lt_succ_self j)
    · rename_i hge
      rw [not_and, hk.less_eq_true, not_lt] at hge
      exact h.append (fun k h₁ h₂ => absurd h₂ (by omega)) fun ha _ => hge ha

/-- `insertionSort_func(data, a, b)` sorts `data[a:b]`. -/
theorem sortedOn_insertionSort {data : SortData α} (hk : Keyed less key data) (a b : Nat) :
    SortedOn key (insertionSort less data a b) a b := by
  suffices ∀ n (data : SortData α) i, Keyed less key data → a < i → SortedOn key data a i →
      SortedOn key ((List.range' i n).foldl (insertionSortShift less a) data) a (i + n) by
    rcases Nat.lt_or_ge (a + 1) b with h | h
    · have := this (b - (a + 1)) data (a + 1) hk (Nat.lt_succ_self a)
        fun k h₁ h₂ => absurd h₂ (by omega)
      rwa [Nat.add_sub_cancel' h.le] at this
    · exact fun k h₁ h₂ => absurd h₂ (by omega)
  intro n
  induction n with
  | zero => exact fun data i _ _ h => h
  | succ n ih =>
    intro data i hk hai h
    rw [List.range'_succ, List.foldl_cons, show i + (n + 1) = i + 1 + n by omega]
    exact ih _ (i + 1) (hk.permOn (permOn_insertionSortShift less a data i)) (by omega)
      (sortedOn_insertionSortShift a data i hk h)

/-! ### The partitions -/

/-- The two sides a crossing loop leaves when its condition reads, through `c`, only the element
it tests: from `i` to where `i` stopped the elements meet `c`, from there to `j` they do not. -/
theorem crossLoop_sides (cond : SortData α → Nat → Bool) (c : α → Bool) (data : SortData α)
    {i j : Nat} (hcond : ∀ d, PermOn i (j + 1) data d → ∀ k, cond d k = c (d.get k))
    (hi : 1 ≤ i) (h : i ≤ j + 1) :
    (∀ k, i ≤ k → k < (crossLoop cond data i j).2.1 →
      c ((crossLoop cond data i j).1.get k) = true) ∧
      ∀ k, (crossLoop cond data i j).2.1 ≤ k → k ≤ j →
        c ((crossLoop cond data i j).1.get k) = false := by
  rw [crossLoop]
  have hc := hcond data (.refl _ _ _)
  have hup := scanUp_meets (cond data) j i
  have hup_stop := scanUp_stop (cond data) j i
  obtain ⟨h₁, h₂, h₃, h₄, hne⟩ := scans_bounds (cond data) hi h
  have hdown := scanDown_meets (fun k => !cond data k) (scanUp (cond data) j i) j
  have hdown_stop := scanDown_stop (fun k => !cond data k) (i := scanUp (cond data) j i)
    (by omega) j
  generalize scanUp (cond data) j i = i' at *
  generalize scanDown (fun k => !cond data k) i' j = j' at *
  simp only [hc, Bool.not_eq_true', Bool.not_eq_false'] at hup hup_stop hdown hdown_stop
  split
  · -- the scans crossed
    dsimp only
    exact ⟨hup, fun k hik hk => hdown k (by omega) hk⟩
  · -- the elements the scans stopped at change sides, and the loop goes on between them
    have hswap : PermOn i (j + 1) data (swap data i' j') := permOn_swap data (by omega) (by omega)
    obtain ⟨hl, hr⟩ := crossLoop_sides cond c (swap data i' j') (i := i' + 1) (j := j' - 1)
      (fun d hd => hcond d (hswap.trans (hd.mono (by omega) (by omega)))) (by omega) (by omega)
    have hb := crossLoop_bounds cond (swap data i' j') (i := i' + 1) (j := j' - 1)
      (by omega) (by omega)
    have hperm := permOn_crossLoop cond (swap data i' j') (i' + 1) (j' - 1)
    generalize crossLoop cond (swap data i' j') (i' + 1) (j' - 1) = r at *
    have hout : ∀ k, (k < i' + 1 ∨ j' ≤ k) → r.1.get k = (swap data i' j').get k :=
      fun k hk => hperm.get_of_not_mem (by omega)
    refine ⟨fun k hik hk => ?_, fun k hik hk => ?_⟩
    · rcases Nat.lt_or_ge k i' with hk' | hk'
      · rw [hout k (by omega), swap_get_of_ne (k := k) _ (by omega) (by omega)]
        exact hup k hik hk'
      rcases Nat.eq_or_lt_of_le hk' with rfl | hk'
      · rw [hout _ (by omega), swap_get_left]
        exact hdown_stop (by omega)
      · exact hl k hk' hk
    · rcases Nat.lt_or_ge k j' with hk' | hk'
      · exact hr k hik (by omega)
      rcases Nat.eq_or_lt_of_le hk' with rfl | hk'
      · rw [hout _ (by omega), swap_get_right]
        exact hup_stop (by omega)
      · rw [hout k (by omega), swap_get_of_ne (k := k) _ (by omega) (by omega)]
        exact hdown k hk' hk
termination_by j + 1 - i

variable (less) in
/-- `partition_func` around the pivot it is given: the pivot lands at the index it returns, the
elements before that index are less than the pivot, and those after it are not. -/
theorem partition_spec (data : SortData α) {a b pivot : Nat} (hpivot : a ≤ pivot ∧ pivot < b) :
    (partition less data a b pivot).1.get (partition less data a b pivot).2.1 = data.get pivot ∧
      (∀ k, a ≤ k → k < (partition less data a b pivot).2.1 →
        less ((partition less data a b pivot).1.get k) (data.get pivot) = true) ∧
      ∀ k, (partition less data a b pivot).2.1 < k → k < b →
        less ((partition less data a b pivot).1.get k) (data.get pivot) = false := by
  obtain ⟨h₁, h₂⟩ := partition_eq_crossLoop less data a b pivot
  rw [h₁, h₂]
  have hsides := crossLoop_sides (fun (d : SortData α) k => less (d.get k) (d.get a))
    (fun x => less x (data.get pivot)) (swap data a pivot) (i := a + 1) (j := b - 1)
    (fun d hd k => by dsimp only; rw [hd.get_of_not_mem (.inl (Nat.lt_succ_self a)), swap_get_left])
    (by omega) (by omega)
  have hb := crossLoop_bounds (fun (d : SortData α) k => less (d.get k) (d.get a))
    (swap data a pivot) (i := a + 1) (j := b - 1) (by omega) (by omega)
  have hperm := permOn_crossLoop (fun (d : SortData α) k => less (d.get k) (d.get a))
    (swap data a pivot) (a + 1) (b - 1)
  generalize crossLoop _ (swap data a pivot) (a + 1) (b - 1) = loop at *
  obtain ⟨hl, hr⟩ := hsides
  refine ⟨?_, fun k hak hk => ?_, fun k hk hkb => ?_⟩
  · rw [swap_get_left, hperm.get_of_not_mem (.inl (Nat.lt_succ_self a)), swap_get_left]
  · rcases Nat.eq_or_lt_of_le hak with rfl | hak
    · rw [swap_get_right]
      exact hl _ (by omega) (by omega)
    · rw [swap_get_of_ne (k := k) _ (by omega) (by omega)]
      exact hl k hak (by omega)
  · rw [swap_get_of_ne (k := k) _ (by omega) (by omega)]
    exact hr k (by omega) (by omega)

variable (less) in
/-- `partitionEqual_func` around the pivot it is given: the pivot lands at `a`, the elements after
it and before the index it returns are not greater than the pivot, and those from that index on
are greater. -/
theorem partitionEqual_spec (data : SortData α) {a b pivot : Nat}
    (hpivot : a ≤ pivot ∧ pivot < b) :
    (partitionEqual less data a b pivot).1.get a = data.get pivot ∧
      (∀ k, a < k → k < (partitionEqual less data a b pivot).2 →
        less (data.get pivot) ((partitionEqual less data a b pivot).1.get k) = false) ∧
      ∀ k, (partitionEqual less data a b pivot).2 ≤ k → k < b →
        less (data.get pivot) ((partitionEqual less data a b pivot).1.get k) = true := by
  have hsides := crossLoop_sides (fun (d : SortData α) k => !less (d.get a) (d.get k))
    (fun x => !less (data.get pivot) x) (swap data a pivot) (i := a + 1) (j := b - 1)
    (fun d hd k => by dsimp only; rw [hd.get_of_not_mem (.inl (Nat.lt_succ_self a)), swap_get_left])
    (by omega) (by omega)
  have hperm := permOn_crossLoop (fun (d : SortData α) k => !less (d.get a) (d.get k))
    (swap data a pivot) (a + 1) (b - 1)
  simp only [partitionEqual]
  generalize crossLoop _ (swap data a pivot) (a + 1) (b - 1) = loop at *
  obtain ⟨hl, hr⟩ := hsides
  refine ⟨by rw [hperm.get_of_not_mem (.inl (Nat.lt_succ_self a)), swap_get_left],
    fun k hak hk => ?_, fun k hk hkb => ?_⟩
  · simpa using hl k hak hk
  · simpa using hr k hk (by omega)

/-! ### `partialInsertionSort_func` -/

/-- The scan of `partialInsertionSort_func` passes only elements in order. -/
theorem sortedOn_scanSorted {data : SortData α} (hk : Keyed less key data) {a b : Nat} (i : Nat)
    (hai : a < i) (h : SortedOn key data a i) : SortedOn key data a (scanSorted less data b i) := by
  rw [scanSorted]
  split
  · rename_i hc
    rw [Bool.not_eq_true', hk.less_eq_false] at hc
    exact sortedOn_scanSorted hk (i + 1) (by omega)
      (h.append (fun k h₁ h₂ => absurd h₂ (by omega)) fun _ _ => hc.2)
  · exact h
termination_by b - i

/-- Over a range whose preceding element is at most all of it, the shift left of
`partialInsertionSort_func`, bounded by index `1`, stops at `a` as insertion sort's does. -/
theorem insertionSortShift_zero {a : Nat} :
    ∀ (data : SortData α) (j : Nat), Keyed less key data → a ≤ j → Bounded key data a (j + 1) →
      insertionSortShift less 0 data j = insertionSortShift less a data j
  | _, 0, _, _, _ => rfl
  | data, j + 1, hk, haj, hb => by
    rw [insertionSortShift, insertionSortShift]
    rcases Nat.eq_or_lt_of_le haj with rfl | hlt
    · have hstop : less (data.get (j + 1)) (data.get j) = false :=
        (hk.less_eq_false _ _).mpr (hb (Nat.succ_pos j) (j + 1) le_rfl (Nat.lt_succ_self _))
      rw [if_neg fun h => Bool.false_ne_true (hstop ▸ h.2), if_neg fun h => Nat.lt_irrefl _ h.1]
    · have hswap : PermOn a (j + 1 + 1) data (swap data (j + 1) j) :=
        permOn_swap data (by omega) (by omega)
      by_cases hc : less (data.get (j + 1)) (data.get j) = true
      · rw [if_pos ⟨Nat.succ_pos j, hc⟩, if_pos ⟨hlt, hc⟩]
        exact insertionSortShift_zero _ j (hk.permOn hswap) (by omega)
          ((hb.permOn hswap).mono (Nat.le_succ _))
      · rw [if_neg fun h => hc h.2, if_neg fun h => hc h.2]

/-- The loop of `partialInsertionSort_func` from `i`, with `data[a:i]` sorted, over a range whose
preceding element is at most all of it: it permutes the range, and when it reports success it has
sorted it. -/
theorem partialInsertionSortLoop_spec {a b : Nat} :
    ∀ (steps : Nat) (data : SortData α) (i : Nat), Keyed less key data → Bounded key data a b →
      a < i → i ≤ b → SortedOn key data a i →
      PermOn a b data (partialInsertionSortLoop less a b steps data i).1 ∧
        ((partialInsertionSortLoop less a b steps data i).2 = true →
          SortedOn key (partialInsertionSortLoop less a b steps data i).1 a b)
  | 0, _, _, _, _, _, _, _ => ⟨.refl _ _ _, fun h => absurd h Bool.false_ne_true⟩
  | steps + 1, data, i, hk, hb, hai, hib, hs => by
    have hscan := sortedOn_scanSorted hk (b := b) i hai hs
    have hi₁ := le_scanSorted less data b i
    have hi₂ := scanSorted_le less data hib
    rw [partialInsertionSortLoop]
    dsimp only
    generalize scanSorted less data b i = i' at *
    split
    · rename_i hend
      subst hend
      exact ⟨.refl _ _ _, fun _ => hscan⟩
    split
    · exact ⟨.refl _ _ _, fun h => absurd h Bool.false_ne_true⟩
    -- the pair out of order swapped
    have h₁ : PermOn a b data (swap data i' (i' - 1)) := permOn_swap data (by omega) (by omega)
    have hs₁ : SortedOn key (swap data i' (i' - 1)) a (i' - 1) :=
      (hscan.mono (Nat.sub_le i' 1)).permOn
        (permOn_swap (a := i' - 1) (b := i' + 1) data (by omega) (by omega)) (.inl le_rfl)
    have hb₁ := hb.permOn h₁
    have hk₁ := hk.permOn h₁
    generalize swap data i' (i' - 1) = d₁ at h₁ hs₁ hb₁ hk₁ ⊢
    -- the smaller one moved left into the sorted prefix
    have h₂ : PermOn a b d₁ (if 2 ≤ i' - a then insertionSortShift less 0 d₁ (i' - 1) else d₁) ∧
        SortedOn key (if 2 ≤ i' - a then insertionSortShift less 0 d₁ (i' - 1) else d₁) a i' := by
      split
      · rw [insertionSortShift_zero d₁ (i' - 1) hk₁ (by omega) (hb₁.mono (by omega))]
        have := sortedOn_insertionSortShift a d₁ (i' - 1) hk₁ hs₁
        rw [Nat.sub_add_cancel (by omega)] at this
        exact ⟨(permOn_insertionSortShift less a d₁ (i' - 1)).mono le_rfl (by omega), this⟩
      · exact ⟨.refl _ _ _, fun k h₁ h₂ => absurd h₂ (by omega)⟩
    generalize (if 2 ≤ i' - a then insertionSortShift less 0 d₁ (i' - 1) else d₁) = d₂ at h₂ ⊢
    -- the greater one moved right, after the sorted prefix
    have h₃ : PermOn i' b d₂ (if 2 ≤ b - i' then shiftRight less d₂ b (i' + 1) else d₂) := by
      split
      · exact permOn_shiftRight less d₂ b (i' + 1)
      · exact .refl _ _ _
    generalize (if 2 ≤ b - i' then shiftRight less d₂ b (i' + 1) else d₂) = d₃ at h₃ ⊢
    have h₂₃ : PermOn a b d₁ d₃ := h₂.1.trans (h₃.mono (by omega) le_rfl)
    have := partialInsertionSortLoop_spec steps d₃ i' (hk₁.permOn h₂₃) (hb₁.permOn h₂₃)
      (by omega) hi₂ (h₂.2.permOn h₃ (.inl le_rfl))
    exact ⟨h₁.trans (h₂₃.trans this.1), this.2⟩

/-! ### `pdqsort_func` -/

/-- `pdqsort_func` permutes and sorts `data[a:b]` when the comparator orders a key and the element
before the range, if any, is at most all of it, as on every call. -/
theorem pdqsort_spec (data : SortData α) (hk : Keyed less key data) (a b limit : Nat)
    (wasBalanced wasPartitioned : Bool) (hb : Bounded key data a b) :
    PermOn a b data (pdqsort less data a b limit wasBalanced wasPartitioned) ∧
      SortedOn key (pdqsort less data a b limit wasBalanced wasPartitioned) a b := by
  rw [pdqsort]
  split
  · exact ⟨permOn_insertionSort less data, sortedOn_insertionSort hk a b⟩
  split
  · exact ⟨permOn_heapSort less data (by omega), sortedOn_heapSort hk (by omega)⟩
  rename_i hlength _
  dsimp only
  obtain ⟨hpick, hpivot⟩ := pickPivot_spec less data limit wasBalanced (a := a) (b := b) (by omega)
  generalize pickPivot less data a b limit wasBalanced = p at hpick hpivot ⊢
  have htried : PermOn a b data (if wasBalanced ∧ wasPartitioned ∧ p.hint = .increasingHint then
        partialInsertionSort less p.data a b else (p.data, false)).1 ∧
      ((if wasBalanced ∧ wasPartitioned ∧ p.hint = .increasingHint then
        partialInsertionSort less p.data a b else (p.data, false)).2 = true →
      SortedOn key (if wasBalanced ∧ wasPartitioned ∧ p.hint = .increasingHint then
        partialInsertionSort less p.data a b else (p.data, false)).1 a b) := by
    split
    · have := partialInsertionSortLoop_spec 5 p.data (a + 1) (hk.permOn hpick) (hb.permOn hpick)
        (Nat.lt_succ_self a) (by omega) fun k h₁ h₂ => absurd h₂ (by omega)
      exact ⟨hpick.trans this.1, this.2⟩
    · exact ⟨hpick, fun h => absurd h Bool.false_ne_true⟩
  generalize (if wasBalanced ∧ wasPartitioned ∧ p.hint = .increasingHint then
      partialInsertionSort less p.data a b else (p.data, false)) = tried at htried ⊢
  obtain ⟨htried, hdone⟩ := htried
  have hk₁ := hk.permOn htried
  have hb₁ := hb.permOn htried
  split
  · exact ⟨htried, hdone ‹_›⟩
  split
  · -- the pivot is not greater than the element before the range, so it is equal to the least
    rename_i heq
    rw [Bool.not_eq_true', hk₁.less_eq_false] at heq
    have hpe := permOn_partitionEqual less tried.1 hpivot
    have hbounds := partitionEqual_bounds less tried.1 p.pivot (a := a) (b := b) (by omega)
    obtain ⟨hat, hsmall, -⟩ := partitionEqual_spec less tried.1 hpivot
    rw [← hat] at hsmall heq
    generalize partitionEqual less tried.1 a b p.pivot = eq at *
    have hk₂ := hk₁.permOn hpe
    have hb₂ := hb₁.permOn hpe
    have hbefore := hpe.get_of_not_mem (k := a - 1) (.inl (by omega))
    -- the elements before `eq.2` are all equal to the one before the range
    have hlow : ∀ k, a ≤ k → k < eq.2 → key (eq.1.get k) ≤ key (eq.1.get (a - 1)) := by
      intro k hak hk
      rw [hbefore]
      refine le_trans ?_ heq.2
      rcases Nat.eq_or_lt_of_le hak with rfl | hak
      · exact le_rfl
      · exact (hk₂.less_eq_false _ _).mp (hsmall k hak hk)
    have hb₃ : Bounded key eq.1 eq.2 b := fun _ k h₁ h₂ =>
      (hlow _ (by omega) (by omega)).trans (hb₂ heq.1 k (by omega) h₂)
    have hequal : SortedOn key eq.1 a eq.2 := fun k h₁ h₂ =>
      (hlow _ (by omega) (by omega)).trans (hb₂ heq.1 k (by omega) (by omega))
    obtain ⟨hp, hs⟩ := pdqsort_spec eq.1 hk₂ eq.2 b p.limit wasBalanced wasPartitioned hb₃
    exact ⟨htried.trans (hpe.trans (hp.mono (by omega) le_rfl)),
      (hequal.permOn hp (.inl le_rfl)).append hs fun _ h => (hb₃.permOn hp) (by omega) _ le_rfl h⟩
  · -- the pivot between the elements less than it and the others, and each side sorted
    have hpp := permOn_partition less tried.1 hpivot
    have hmid := partition_bounds less tried.1 p.pivot (a := a) (b := b) (by omega)
    obtain ⟨hat, hlt, hge⟩ := partition_spec less tried.1 hpivot
    rw [← hat] at hlt hge
    generalize partition less tried.1 a b p.pivot = part at *
    have hk₂ := hk₁.permOn hpp
    have hb₂ := hb₁.permOn hpp
    have hpart : Partitioned key part.1 a part.2.1 b :=
      ⟨fun k h₁ h₂ => ((hk₂.less_eq_true _ _).mp (hlt k h₁ h₂)).le,
        fun k h₁ h₂ => (hk₂.less_eq_false _ _).mp (hge k h₁ h₂)⟩
    split
    · obtain ⟨hp₁, hs₁⟩ := pdqsort_spec part.1 hk₂ a part.2.1 p.limit true true
        (hb₂.mono hmid.2.le)
      have hpart₁ := hpart.permOn_left hp₁
      obtain ⟨hp₂, hs₂⟩ := pdqsort_spec _ (hk₂.permOn hp₁) (part.2.1 + 1) b p.limit _ part.2.2
        fun _ k h₁ h₂ => hpart₁.2 k (by omega) h₂
      exact ⟨htried.trans (hpp.trans ((hp₁.mono le_rfl hmid.2.le).trans
          (hp₂.mono (by omega) le_rfl))),
        (hpart₁.permOn_right hp₂).sortedOn (hs₁.permOn hp₂ (.inl (Nat.le_succ _))) hs₂⟩
    · obtain ⟨hp₁, hs₁⟩ := pdqsort_spec part.1 hk₂ (part.2.1 + 1) b p.limit true true
        fun _ k h₁ h₂ => hpart.2 k (by omega) h₂
      have hpart₁ := hpart.permOn_right hp₁
      obtain ⟨hp₂, hs₂⟩ := pdqsort_spec _ (hk₂.permOn hp₁) a part.2.1 p.limit _ part.2.2
        ((hb₂.permOn (hp₁.mono (by omega) le_rfl)).mono hmid.2.le)
      exact ⟨htried.trans (hpp.trans ((hp₁.mono (by omega) le_rfl).trans
          (hp₂.mono le_rfl hmid.2.le))),
        (hpart₁.permOn_left hp₂).sortedOn hs₂ (hs₁.permOn hp₂ (.inr (Nat.le_succ _)))⟩
termination_by b - a
decreasing_by
  all_goals first
    | exact partitionEqual_lt less _ _ (by omega)
    | exact partition_left_lt less _ _ (by omega)
    | exact partition_right_lt less _ _ (by omega)

/-- `sort.Slice` returns the slice sorted by a key when its comparator is the strict order of
that key on the slice's elements. -/
theorem sortSlice_sorted (xs : List α)
    (hless : ∀ x ∈ xs, ∀ y ∈ xs, less x y = decide (key x < key y)) :
    (sortSlice less xs).Sorted (fun x y => key x ≤ key y) := by
  match xs with
  | [] => exact List.sorted_nil
  | x :: rest =>
    have hmem : ∀ k, (x :: rest).getD k x ∈ x :: rest := fun k => by
      rcases Nat.lt_or_ge k (x :: rest).length with h | h
      · rw [List.getD_eq_getElem?_getD, List.getElem?_eq_getElem h]
        exact List.getElem_mem h
      · rw [List.getD_eq_default _ _ h]
        exact .head _
    have h := (pdqsort_spec ⟨fun k => (x :: rest).getD k x⟩
      (fun i j => hless _ (hmem i) _ (hmem j)) 0 (x :: rest).length
      (Nat.size (x :: rest).length) true true fun h => absurd h (Nat.lt_irrefl 0)).2
    rw [sortSlice]
    exact List.pairwise_map.mpr ((List.pairwise_lt_range _).imp_of_mem
      fun _ hj hij => h.le (Nat.zero_le _) hij.le (List.mem_range.mp hj))

end Sorted

end Go
end Linkerd
