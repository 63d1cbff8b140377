import Linkerd.Go.Sort.Perm

/-!
# `heapSort_func` sorts

`pdqsort_func` falls back to heapsort after too many unbalanced partitions.  The range
`data[first:first+hi]` is read as a binary heap whose node `c` has its parent at `(c - 1) / 2`.
`siftDown_func` moves the element at its root down, swapping it with its greater child while that
child is greater; `HeapFrom` is the heap order below a node, and `SiftOrder` is what holds while
the sift runs: every pair off the moving element is in order, and the moving element's children
are at most its parent.

* `heapFrom_siftDown` — a sift from a node whose subtrees are heaps makes a heap from that node;
* `heapFrom_heapify` — the first loop of `heapSort_func` makes the range one heap;
* `sortedOn_heapSort` — the second loop pops the greatest element to the end, one at a time, and
  leaves the range sorted, when the comparator orders a key.
-/

namespace Linkerd
namespace Go

section Heaps

variable {α β : Type} [LinearOrder β] (key : α → β)

/-- `data[first:first+n]` is in heap order from node `lo` on: a child whose parent is `lo` or
later is at most its parent. -/
def HeapFrom (data : SortData α) (first lo n : Nat) : Prop :=
  ∀ c, 0 < c → c < n → lo ≤ (c - 1) / 2 →
    key (data.get (first + c)) ≤ key (data.get (first + (c - 1) / 2))

/-- The order while `siftDown_func` moves an element down from `lo` and has reached `root`: the
pairs whose parent is `lo` or later and not `root` are in order, and below `lo` the children of
`root` are at most its parent. -/
structure SiftOrder (data : SortData α) (first lo root n : Nat) : Prop where
  except : ∀ c, 0 < c → c < n → lo ≤ (c - 1) / 2 → (c - 1) / 2 ≠ root →
    key (data.get (first + c)) ≤ key (data.get (first + (c - 1) / 2))
  grand : lo < root → ∀ c, 0 < c → c < n → (c - 1) / 2 = root →
    key (data.get (first + c)) ≤ key (data.get (first + (root - 1) / 2))

variable {key}

/-- A heap from `lo + 1` on with `lo` about to be sifted. -/
theorem HeapFrom.siftOrder {data : SortData α} {first lo n : Nat}
    (h : HeapFrom key data first (lo + 1) n) : SiftOrder key data first lo lo n :=
  ⟨fun c hc hcn hlo hne => h c hc hcn (by omega), fun hlt => absurd hlt (Nat.lt_irrefl lo)⟩

/-- The sift stops once the children of `root` are at most it. -/
theorem SiftOrder.finish {data : SortData α} {first lo root n : Nat}
    (h : SiftOrder key data first lo root n)
    (hstop : ∀ c, 0 < c → c < n → (c - 1) / 2 = root →
      key (data.get (first + c)) ≤ key (data.get (first + root))) :
    HeapFrom key data first lo n := by
  intro c hc hcn hlo'
  by_cases hroot : (c - 1) / 2 = root
  · rw [hroot]
    exact hstop c hc hcn hroot
  · exact h.except c hc hcn hlo' hroot

/-- One step of the sift: `root` swapped with its greatest child `child`, greater than it, moves
the sift to `child`. -/
theorem SiftOrder.swap {data : SortData α} {first lo root n child : Nat}
    (h : SiftOrder key data first lo root n) (hlo : lo ≤ root) (hchild : (child - 1) / 2 = root)
    (hchild₀ : 0 < child) (hchildn : child < n) (hmax : ∀ c, 0 < c → c < n → (c - 1) / 2 = root →
      key (data.get (first + c)) ≤ key (data.get (first + child)))
    (hlt : key (data.get (first + root)) < key (data.get (first + child))) :
    SiftOrder key (swap data (first + root) (first + child)) first lo child n := by
  constructor
  · intro c hc hcn hlo' hne
    by_cases hcc : c = child
    · rw [hcc, hchild, swap_get_right, swap_get_left]
      exact hlt.le
    by_cases hcr : c = root
    · rw [hcr, swap_get_left, swap_get_of_ne (k := first + (root - 1) / 2) _ (by omega) (by omega)]
      exact h.grand (by omega) child hchild₀ hchildn hchild
    rw [swap_get_of_ne (k := first + c) _ (by omega) (by omega)]
    by_cases hpr : (c - 1) / 2 = root
    · rw [hpr, swap_get_left]
      exact hmax c hc hcn hpr
    · rw [swap_get_of_ne (k := first + (c - 1) / 2) _ (by omega) (by omega)]
      exact h.except c hc hcn hlo' hpr
  · intro _ c hc hcn hpar
    rw [hchild, swap_get_left, swap_get_of_ne (k := first + c) _ (by omega) (by omega)]
    have := h.except c hc hcn (by omega) (by omega)
    rwa [hpar] at this

/-- `siftDown_func` from `root`, in the sift order from `lo`, leaves a heap from `lo` on. -/
theorem heapFrom_siftDown {less : α → α → Bool} {data : SortData α} (hk : Keyed less key data)
    {first lo root n : Nat} (hlo : lo ≤ root) (h : SiftOrder key data first lo root n) :
    HeapFrom key (siftDown less data root n first) first lo n := by
  rw [siftDown]
  split
  · exact h.finish fun c hc hcn hpar => absurd hcn (by omega)
  dsimp only
  -- the sift goes on from `child` when its root is less than it, and stops otherwise
  have hstep : ∀ child, (child - 1) / 2 = root → 0 < child → child < n →
      (∀ c, 0 < c → c < n → (c - 1) / 2 = root →
        key (data.get (first + c)) ≤ key (data.get (first + child))) →
      HeapFrom key (if !less (data.get (first + root)) (data.get (first + child)) then data
        else siftDown less (swap data (first + root) (first + child)) child n first) first lo n := by
    intro child hchild hchild₀ hchildn hmax
    split
    · rename_i hstop
      rw [Bool.not_eq_true', hk.less_eq_false] at hstop
      exact h.finish fun c hc hcn hpar => (hmax c hc hcn hpar).trans hstop
    · rename_i hswap
      rw [Bool.not_eq_true', Bool.not_eq_false, hk.less_eq_true] at hswap
      exact heapFrom_siftDown (hk.permOn (permOn_swap (a := first) (b := first + n) data
        (by omega) (by omega))) (by omega) (h.swap hlo hchild hchild₀ hchildn hmax hswap)
  split
  · rename_i hright
    rw [hk.less_eq_true, Nat.add_assoc] at hright
    refine hstep _ (by omega) (by omega) hright.1 fun c hc hcn hpar => ?_
    obtain rfl | rfl : c = 2 * root + 1 ∨ c = 2 * root + 1 + 1 := by omega
    exacts [hright.2.le, le_rfl]
  · rename_i hleft
    refine hstep _ (by omega) (by omega) (by omega) fun c hc hcn hpar => ?_
    obtain rfl | rfl : c = 2 * root + 1 ∨ c = 2 * root + 1 + 1 := by omega
    · exact le_rfl
    · rw [hk.less_eq_true, Nat.add_assoc, not_and, not_lt] at hleft
      exact hleft hcn
termination_by n - root

/-- In a heap from node `0` on every element is at most the root. -/
theorem HeapFrom.le_root {data : SortData α} {first n : Nat} (h : HeapFrom key data first 0 n) :
    ∀ c, c < n → key (data.get (first + c)) ≤ key (data.get first) := by
  intro c
  induction c using Nat.strong_induction_on with
  | _ c ih =>
    intro hcn
    rcases Nat.eq_zero_or_pos c with rfl | hc
    · exact le_rfl
    · exact (h c hc hcn (Nat.zero_le _)).trans (ih _ (by omega) (by omega))

/-- The first loop of `heapSort_func`, `for i := (hi - 1) / 2; i >= 0; i--`, sifts every node
with a child, the last first: the range becomes a heap. -/
theorem heapFrom_heapify {less : α → α → Bool} {data : SortData α} (hk : Keyed less key data)
    (first n : Nat) :
    HeapFrom key ((List.range ((n - 1) / 2 + 1)).reverse.foldl
      (fun data i => siftDown less data i n first) data) first 0 n := by
  suffices ∀ m (data : SortData α), Keyed less key data → HeapFrom key data first m n →
      HeapFrom key ((List.range m).reverse.foldl
        (fun data i => siftDown less data i n first) data) first 0 n from
    this _ data hk fun c _ hcn hlo => absurd hlo (by omega)
  intro m
  induction m with
  | zero => exact fun _ _ h => h
  | succ m ih =>
    intro data hk h
    rw [List.range_succ, List.reverse_append, List.reverse_singleton, List.singleton_append,
      List.foldl_cons]
    exact ih _ (hk.permOn (permOn_siftDown less data m n first))
      (heapFrom_siftDown hk le_rfl h.siftOrder)

/-- One iteration of the second loop of `heapSort_func` on a heap `data[first:first+m+1]`: the
root, greatest, swapped to the end of the heap, and the heap, one shorter, sifted from its new
root. -/
theorem popHeap_spec {less : α → α → Bool} {data : SortData α} (hk : Keyed less key data)
    {first m : Nat} (hheap : HeapFrom key data first 0 (m + 1)) :
    let sifted := siftDown less (swap data first (first + m)) 0 m first
    PermOn first (first + m + 1) data sifted ∧ HeapFrom key sifted first 0 m ∧
      sifted.get (first + m) = data.get first ∧
      ∀ k, k < m → key (sifted.get (first + k)) ≤ key (sifted.get (first + m)) := by
  intro sifted
  have hswap : PermOn first (first + m + 1) data (swap data first (first + m)) :=
    permOn_swap data (by omega) (by omega)
  have hsift := permOn_siftDown less (swap data first (first + m)) 0 m first
  have hend : sifted.get (first + m) = data.get first := by
    rw [hsift.get_of_not_mem (by omega), swap_get_right]
  have hroot := hheap.le_root
  refine ⟨hswap.trans (hsift.mono le_rfl (by omega)), heapFrom_siftDown (hk.permOn hswap) le_rfl
    ⟨fun c hc hcn _ hne => ?_, fun h => absurd h (Nat.lt_irrefl 0)⟩, hend, fun k hk' => ?_⟩
  · rw [swap_get_of_ne (k := first + c) _ (by omega) (by omega),
      swap_get_of_ne (k := first + (c - 1) / 2) _ (by omega) (by omega)]
    exact hheap c hc (by omega) (Nat.zero_le _)
  · rw [hend]
    refine hsift.forall_get (P := fun x => key x ≤ key (data.get first)) (fun j hj => ?_)
      (first + k) ⟨by omega, by omega⟩
    by_cases hj₀ : j = first
    · rw [hj₀, swap_get_left]
      exact hroot m (by omega)
    · rw [swap_get_of_ne (k := j) _ hj₀ (by omega)]
      have := hroot (j - first) (by omega)
      rwa [Nat.add_sub_cancel' hj.1] at this

/-- The second loop of `heapSort_func`, `for i := hi - 1; i >= 0; i--`, from `i = m - 1` on: with
`data[first:first+m]` a heap of elements at most the one after it, and the elements from there on
sorted, it leaves `data[first:first+n]` sorted. -/
theorem sortedOn_popHeap {less : α → α → Bool} (first n : Nat) :
    ∀ (m : Nat) (data : SortData α), Keyed less key data → m ≤ n → HeapFrom key data first 0 m →
      (m < n → ∀ k, k < m → key (data.get (first + k)) ≤ key (data.get (first + m))) →
      SortedOn key data (first + m) (first + n) →
      SortedOn key ((List.range m).reverse.foldl
        (fun data i => siftDown less (swap data first (first + i)) 0 i first) data) first (first + n)
  | 0, _, _, _, _, _, hsorted => hsorted
  | m + 1, data, hk, hmn, hheap, hbelow, hsorted => by
    rw [List.range_succ, List.reverse_append, List.reverse_singleton, List.singleton_append,
      List.foldl_cons]
    obtain ⟨hperm, hheap', hend, hbelow'⟩ := popHeap_spec hk hheap
    refine sortedOn_popHeap first n m _ (hk.permOn hperm) (by omega) hheap' (fun _ => hbelow')
      (SortedOn.append (m := first + m + 1) (fun k h₁ h₂ => absurd h₂ (by omega))
        (hsorted.permOn hperm (.inr le_rfl)) fun _ _ => ?_)
    rw [Nat.add_sub_cancel, hend, hperm.get_of_not_mem (.inr le_rfl)]
    exact hbelow (by omega) 0 (by omega)

/-- `heapSort_func(data, a, b)` sorts `data[a:b]` when the comparator orders a key. -/
theorem sortedOn_heapSort {less : α → α → Bool} {data : SortData α} (hk : Keyed less key data)
    {a b : Nat} (hab : a ≤ b) : SortedOn key (heapSort less data a b) a b := by
  have hperm := permOn_foldl (fun data i => siftDown less data i (b - a) a)
    (List.range ((b - a - 1) / 2 + 1)).reverse (fun d i _ => permOn_siftDown less d i (b - a) a) data
  have h := sortedOn_popHeap a (b - a) (b - a) _ (hk.permOn hperm) le_rfl (heapFrom_heapify hk a _)
    (fun h => absurd h (Nat.lt_irrefl _)) fun k h₁ h₂ => absurd h₂ (by omega)
  rw [Nat.add_sub_cancel' hab] at h
  exact h

end Heaps

end Go
end Linkerd
