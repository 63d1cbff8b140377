import Mathlib.Data.Nat.Size

/-!
# `sort.Slice`: the pattern-defeating quicksort of the `sort` package

`sort.Slice(x, less)` sorts the slice `x` in place with `pdqsort_func`, handing it the caller's
`less(i, j)` and a `Swap(i, j)` that exchanges two elements; the depth limit is
`bits.Len(uint(length))`.  `pdqsort_func` sorts `data[a:b]`:

* at most twelve elements by insertion sort;
* once `limit` unbalanced partitions have been made, by heapsort;
* otherwise it scatters three elements if the last partition was unbalanced, picks a pivot (the
  median of three elements, from fifty elements on the median of three such medians), reverses a
  range that looks decreasing, finishes by a bounded insertion sort a range that looks sorted,
  partitions off the elements equal to the previous pivot when the pivot is no greater than it,
  and otherwise partitions around the pivot, sorts the smaller side by a recursive call and the
  larger side in the next iteration of its loop.

The slice is a function from indices to elements: `Swap` exchanges two of its values, and
`Less(i, j)` is the comparator `less` on the elements at `i` and `j`, as the closure that
`sortTrafficSplitRows` passes reads them from the slice being sorted.  Go's `int` indices are
natural numbers here.  Each loop is a function recursive in the loop's variables, or a fold over
the values a counted loop takes.

This is the `sort` package of Go 1.19 and later (`zsortfunc.go`, `sort.go`, `slice.go`).
-/

namespace Linkerd
namespace Go

/-- `sortedHint`: what `choosePivot_func` saw of the order of the range. -/
inductive SortedHint
  | unknownHint
  | increasingHint
  | decreasingHint
  deriving DecidableEq, Repr

/-- The slice being sorted, read by index. -/
structure SortData (α : Type) where
  get : Nat → α

/-- `data.Swap(i, j)`: the slice with the elements at `i` and `j` exchanged. -/
def swap {α : Type} (data : SortData α) (i j : Nat) : SortData α :=
  ⟨fun k => if k = i then data.get j else if k = j then data.get i else data.get k⟩

@[simp] theorem swap_get_left {α : Type} (data : SortData α) (i j : Nat) :
    (swap data i j).get i = data.get j := if_pos rfl

@[simp] theorem swap_get_right {α : Type} (data : SortData α) (i j : Nat) :
    (swap data i j).get j = data.get i := by
  simp only [swap]
  split <;> simp_all

theorem swap_get_of_ne {α : Type} (data : SortData α) {i j k : Nat} (hi : k ≠ i) (hj : k ≠ j) :
    (swap data i j).get k = data.get k := by
  simp only [swap, if_neg hi, if_neg hj]

section Sorting

variable {α : Type} (less : α → α → Bool)

/-! ### Insertion sort and heapsort -/

/-- The inner loop of `insertionSort_func` from `j`: `for ; j > a && data.Less(j, j-1); j--`,
swapping the element left past each element it is less than. -/
def insertionSortShift (a : Nat) : SortData α → Nat → SortData α
  | data, 0 => data
  | data, j + 1 =>
    if a < j + 1 ∧ less (data.get (j + 1)) (data.get j) then
      insertionSortShift a (swap data (j + 1) j) j
    else data

/-- `insertionSort_func(data, a, b)`: `for i := a + 1; i < b; i++`, each element in turn moved left
past the elements before it that it is less than. -/
def insertionSort (data : SortData α) (a b : Nat) : SortData α :=
  (List.range' (a + 1) (b - (a + 1))).foldl (insertionSortShift less a) data

/-- `siftDown_func(data, lo, hi, first)`: the element at `lo` of the heap `data[first:first+hi]`
moves down, swapped each time with its greater child while it is less than that child. -/
def siftDown (data : SortData α) (lo hi first : Nat) : SortData α :=
  let root := lo
  if hi ≤ 2 * root + 1 then data
  else
    let child := if 2 * root + 1 + 1 < hi ∧
        less (data.get (first + (2 * root + 1))) (data.get (first + (2 * root + 1) + 1))
      then 2 * root + 1 + 1 else 2 * root + 1
    if !less (data.get (first + root)) (data.get (first + child)) then data
    else siftDown (swap data (first + root) (first + child)) child hi first
termination_by hi - lo
decreasing_by split <;> omega

/-- `heapSort_func(data, a, b)`: the range made a heap with its greatest element first
(`for i := (hi - 1) / 2; i >= 0; i--`), then its greatest element swapped to its end, one at a
time (`for i := hi - 1; i >= 0; i--`). -/
def heapSort (data : SortData α) (a b : Nat) : SortData α :=
  let first := a
  let lo := 0
  let hi := b - a
  let heap := (List.range ((hi - 1) / 2 + 1)).reverse.foldl
    (fun data i => siftDown less data i hi first) data
  (List.range hi).reverse.foldl
    (fun data i => siftDown less (swap data first (first + i)) lo i first) heap

/-! ### Partitions -/

/-- The loops `for i <= j && cond(i) { i++ }` of the partitions. -/
def scanUp (cond : Nat → Bool) (j i : Nat) : Nat :=
  if i ≤ j ∧ cond i then scanUp cond j (i + 1) else i
termination_by j + 1 - i

/-- The loops `for i <= j && cond(j) { j-- }` of the partitions.  They run with `i` at least `1`,
so index `0` never passes the test `i <= j`. -/
def scanDown (cond : Nat → Bool) (i : Nat) : Nat → Nat
  | 0 => 0
  | j + 1 => if i ≤ j + 1 ∧ cond (j + 1) then scanDown cond i j else j + 1

theorem le_scanUp (cond : Nat → Bool) (j i : Nat) : i ≤ scanUp cond j i := by
  rw [scanUp]
  split
  · exact Nat.le_of_succ_le (le_scanUp cond j (i + 1))
  · exact le_rfl
termination_by j + 1 - i

theorem scanDown_le (cond : Nat → Bool) (i : Nat) : ∀ j, scanDown cond i j ≤ j
  | 0 => le_rfl
  | j + 1 => by
    rw [scanDown]
    split
    · exact Nat.le_trans (scanDown_le cond i j) (Nat.le_succ j)
    · exact le_rfl

theorem scanUp_le (cond : Nat → Bool) {j i : Nat} (h : i ≤ j + 1) : scanUp cond j i ≤ j + 1 := by
  rw [scanUp]
  split
  · rename_i hc
    exact scanUp_le cond (Nat.succ_le_succ hc.1)
  · exact h
termination_by j + 1 - i

/-- Short of `j`, the upward scan stops at an element that fails its condition. -/
theorem scanUp_stop (cond : Nat → Bool) (j i : Nat) (h : scanUp cond j i ≤ j) :
    cond (scanUp cond j i) = false := by
  rw [scanUp] at h ⊢
  split at h
  · rw [if_pos ‹_›]
    exact scanUp_stop cond j (i + 1) h
  · rw [if_neg ‹_›]
    simpa [h] using ‹¬(i ≤ j ∧ cond i = true)›
termination_by j + 1 - i

/-- The upward scan passes only elements that meet its condition. -/
theorem scanUp_meets (cond : Nat → Bool) (j i : Nat) :
    ∀ k, i ≤ k → k < scanUp cond j i → cond k = true := by
  rw [scanUp]
  split
  · rename_i hc
    intro k hik hk
    rcases Nat.eq_or_lt_of_le hik with rfl | hik
    · exact hc.2
    · exact scanUp_meets cond j (i + 1) k hik hk
  · intro k hik hk
    omega
termination_by j + 1 - i

/-- The downward scan passes only elements that meet its condition. -/
theorem scanDown_meets (cond : Nat → Bool) (i : Nat) :
    ∀ j k, scanDown cond i j < k → k ≤ j → cond k = true
  | 0, k, h₁, h₂ => by rw [scanDown] at h₁; omega
  | j + 1, k, h₁, h₂ => by
    rw [scanDown] at h₁
    split at h₁
    · rename_i hc
      rcases Nat.eq_or_lt_of_le h₂ with rfl | h₂
      · exact hc.2
      · exact scanDown_meets cond i j k h₁ (by omega)
    · omega

theorem le_scanDown (cond : Nat → Bool) {i : Nat} : ∀ {j}, i ≤ j + 1 → i - 1 ≤ scanDown cond i j
  | 0, h => by rw [scanDown]; omega
  | j + 1, h => by
    rw [scanDown]
    split
    · rename_i hc
      exact le_scanDown cond hc.1
    · omega

/-- Not below `i`, the downward scan stops at an element that fails its condition. -/
theorem scanDown_stop (cond : Nat → Bool) {i : Nat} (hi : 1 ≤ i) :
    ∀ j, i ≤ scanDown cond i j → cond (scanDown cond i j) = false
  | 0, h => by rw [scanDown] at h; omega
  | j + 1, h => by
    rw [scanDown] at h ⊢
    split at h
    · rw [if_pos ‹_›]
      exact scanDown_stop cond hi j h
    · rw [if_neg ‹_›]
      simpa [h] using ‹¬(i ≤ j + 1 ∧ cond (j + 1) = true)›

/-- One round of the scans of a crossing loop, from `i` at least `1`: `i` moves up and `j` down,
`j` stays at least just below `i`, and the two never stop on the same element, which would have to
both meet and fail the condition. -/
theorem scans_bounds (cond : Nat → Bool) {i j : Nat} (hi : 1 ≤ i) (h : i ≤ j + 1) :
    i ≤ scanUp cond j i ∧ scanUp cond j i ≤ j + 1 ∧
      scanDown (fun k => !cond k) (scanUp cond j i) j ≤ j ∧
      scanUp cond j i - 1 ≤ scanDown (fun k => !cond k) (scanUp cond j i) j ∧
      scanUp cond j i ≠ scanDown (fun k => !cond k) (scanUp cond j i) j := by
  have hi₁ := le_scanUp cond j i
  have hi₂ := scanUp_le cond h
  have hup := scanUp_stop cond j i
  generalize scanUp cond j i = i' at *
  have hj := scanDown_le (fun k => !cond k) i' j
  have hdown := scanDown_stop (fun k => !cond k) (i := i') (by omega) j
  refine ⟨hi₁, hi₂, hj, le_scanDown _ hi₂, fun heq => ?_⟩
  have hstop := hdown (Nat.le_of_eq heq)
  rw [← heq] at hstop
  simp [hup (by omega)] at hstop

/-- The loops `for { scan i up; scan j down; if i > j { break }; data.Swap(i, j); i++; j-- }` of
`partition_func` and `partitionEqual_func`: `i` moves up past the elements that meet `cond`, read
from the slice as it is, and `j` down past those that do not.  It returns the slice, and `i` and `j`
where they crossed. -/
def crossLoop (cond : SortData α → Nat → Bool) (data : SortData α) (i j : Nat) :
    SortData α × Nat × Nat :=
  let i' := scanUp (cond data) j i
  let j' := scanDown (fun k => !cond data k) i' j
  if j' < i' then (data, i', j')
  else crossLoop cond (swap data i' j') (i' + 1) (j' - 1)
termination_by j + 1 - i
decreasing_by
  have := le_scanUp (cond data) j i
  have := scanDown_le (fun k => !cond data k) i' j
  simp only [j', i'] at *
  omega

/-- Where the crossing loops stop, from `i` at least `1`: `i` has moved up and `j` down, and they
crossed, `j` just below `i`. -/
theorem crossLoop_bounds (cond : SortData α → Nat → Bool) (data : SortData α) {i j : Nat}
    (hi : 1 ≤ i) (h : i ≤ j + 1) :
    i ≤ (crossLoop cond data i j).2.1 ∧ (crossLoop cond data i j).2.1 ≤ j + 1 ∧
      (crossLoop cond data i j).2.2 ≤ j ∧
      (crossLoop cond data i j).2.2 + 1 = (crossLoop cond data i j).2.1 := by
  rw [crossLoop]
  obtain ⟨h₁, h₂, h₃, h₄, hne⟩ := scans_bounds (cond data) hi h
  generalize scanUp (cond data) j i = i' at *
  generalize scanDown (fun k => !cond data k) i' j = j' at *
  split
  · dsimp only
    omega
  · have := crossLoop_bounds cond (swap data i' j') (i := i' + 1) (j := j' - 1) (by omega) (by omega)
    omega
termination_by j + 1 - i

/-- `partition_func(data, a, b, pivot)`: the pivot swapped to `a`; the elements less than it
gathered before the others; the pivot swapped between them.  It returns the slice, the pivot's
index, and whether no two elements had to be exchanged. -/
def partition (data : SortData α) (a b pivot : Nat) : SortData α × Nat × Bool :=
  let lessPivot := fun (data : SortData α) k => less (data.get k) (data.get a)
  let data := swap data a pivot
  let i := scanUp (lessPivot data) (b - 1) (a + 1)
  let j := scanDown (fun k => !lessPivot data k) i (b - 1)
  if j < i then (swap data j a, j, true)
  else
    let loop := crossLoop lessPivot (swap data i j) (i + 1) (j - 1)
    (swap loop.1 loop.2.2 a, loop.2.2, false)

/-- `partitionEqual_func(data, a, b, pivot)`: the pivot swapped to `a`, then the elements not
greater than it gathered before the greater ones; it returns the slice and the index of the first
greater element. -/
def partitionEqual (data : SortData α) (a b pivot : Nat) : SortData α × Nat :=
  let loop := crossLoop (fun data k => !less (data.get a) (data.get k)) (swap data a pivot) (a + 1) (b - 1)
  (loop.1, loop.2.1)

/-- `partition_func` is a crossing loop from `a + 1` and `b - 1` around the pivot swapped to `a`,
followed by the swap of the pivot to where the loop stopped; its first round, written out in the
source, only decides the flag. -/
theorem partition_eq_crossLoop (data : SortData α) (a b pivot : Nat) :
    (partition less data a b pivot).1 =
      swap (crossLoop (fun (data : SortData α) k => less (data.get k) (data.get a)) (swap data a pivot)
        (a + 1) (b - 1)).1
        (crossLoop (fun (data : SortData α) k => less (data.get k) (data.get a)) (swap data a pivot)
          (a + 1) (b - 1)).2.2 a ∧
    (partition less data a b pivot).2.1 =
      (crossLoop (fun (data : SortData α) k => less (data.get k) (data.get a)) (swap data a pivot)
        (a + 1) (b - 1)).2.2 := by
  rw [crossLoop.eq_1 _ (swap data a pivot) (a + 1) (b - 1), partition]
  split <;> exact ⟨rfl, rfl⟩

/-- The pivot's index that `partition_func` returns lies in the range. -/
theorem partition_bounds (data : SortData α) {a b : Nat} (pivot : Nat) (hab : a < b) :
    a ≤ (partition less data a b pivot).2.1 ∧ (partition less data a b pivot).2.1 < b := by
  have := crossLoop_bounds (fun (data : SortData α) k => less (data.get k) (data.get a))
    (swap data a pivot) (i := a + 1) (j := b - 1) (by omega) (by omega)
  rw [(partition_eq_crossLoop less data a b pivot).2]
  generalize crossLoop _ (swap data a pivot) (a + 1) (b - 1) = loop at this ⊢
  omega

/-- The index that `partitionEqual_func` returns is past the pivot, and at most the range's end. -/
theorem partitionEqual_bounds (data : SortData α) {a b : Nat} (pivot : Nat) (hab : a < b) :
    a < (partitionEqual less data a b pivot).2 ∧ (partitionEqual less data a b pivot).2 ≤ b := by
  have := crossLoop_bounds (fun (data : SortData α) k => !less (data.get a) (data.get k))
    (swap data a pivot) (i := a + 1) (j := b - 1) (by omega) (by omega)
  simp only [partitionEqual]
  generalize crossLoop _ (swap data a pivot) (a + 1) (b - 1) = loop at this ⊢
  omega

/-! ### The helpers of the loop -/

/-- `for i < b && !data.Less(i, i-1) { i++ }` of `partialInsertionSort_func`: past the elements in
order. -/
def scanSorted (data : SortData α) (b i : Nat) : Nat :=
  if i < b ∧ !less (data.get i) (data.get (i - 1)) then scanSorted data b (i + 1) else i
termination_by b - i

/-- `for j := i + 1; j < b; j++ { if !data.Less(j, j-1) { break }; data.Swap(j, j-1) }` of
`partialInsertionSort_func`: the greater element moved right. -/
def shiftRight (data : SortData α) (b j : Nat) : SortData α :=
  if j < b ∧ less (data.get j) (data.get (j - 1)) then shiftRight (swap data j (j - 1)) b (j + 1) else data
termination_by b - j

/-- The loop of `partialInsertionSort_func` with `steps` of its `maxSteps = 5` iterations left:
`i` past the elements in order; done if it reached `b`; otherwise, from `shortestShifting = 50`
elements on, the pair out of order swapped, the smaller element moved left
(`for j := i - 1; j >= 1; j--`, the inner loop of insertion sort stopped at `0`) and the greater
one moved right. -/
def partialInsertionSortLoop (a b : Nat) : Nat → SortData α → Nat → SortData α × Bool
  | 0, data, _ => (data, false)
  | steps + 1, data, i =>
    let i := scanSorted less data b i
    if i = b then (data, true)
    else if b - a < 50 then (data, false)
    else
      let data := swap data i (i - 1)
      let data := if 2 ≤ i - a then insertionSortShift less 0 data (i - 1) else data
      let data := if 2 ≤ b - i then shiftRight less data b (i + 1) else data
      partialInsertionSortLoop a b steps data i

/-- `partialInsertionSort_func(data, a, b)`: the slice, and whether the range is sorted. -/
def partialInsertionSort (data : SortData α) (a b : Nat) : SortData α × Bool :=
  partialInsertionSortLoop less a b 5 data (a + 1)

/-- `xorshift.Next`: the generator's next state, which it also returns. -/
def xorshiftNext (r : UInt64) : UInt64 :=
  let r := r ^^^ (r <<< 13)
  let r := r ^^^ (r >>> 7)
  r ^^^ (r <<< 17)

/-- `nextPowerOfTwo(length)`: `1 << bits.Len(uint(length))`. -/
def nextPowerOfTwo (length : Nat) : Nat := 2 ^ Nat.size length

/-- `breakPatterns_func(data, a, b)`: from eight elements on, the three elements around the middle
each swapped with an element at a pseudo-random place of the range, drawn from a generator
seeded with the length. -/
def breakPatterns (data : SortData α) (a b : Nat) : SortData α :=
  let length := b - a
  if 8 ≤ length then
    let modulus := nextPowerOfTwo length
    let idx := a + (length / 4) * 2 - 1
    ((List.range 3).foldl (fun (state : SortData α × UInt64) i =>
      let random := xorshiftNext state.2
      let other := random.toNat &&& (modulus - 1)
      let other := if length ≤ other then other - length else other
      (swap state.1 (idx - 1 + i) (a + other), random)) (data, UInt64.ofNat length)).1
  else data

/-- `order2_func(data, a, b, swaps)`: the two indices, the one of the element not greater first,
and the count of swaps. -/
def order2 (data : SortData α) (a b swaps : Nat) : Nat × Nat × Nat :=
  if less (data.get b) (data.get a) then (b, a, swaps + 1) else (a, b, swaps)

/-- `median_func(data, a, b, c, swaps)`: the index of the median of three elements. -/
def median (data : SortData α) (a b c swaps : Nat) : Nat × Nat :=
  let r₁ := order2 less data a b swaps
  let r₂ := order2 less data r₁.2.1 c r₁.2.2
  let r₃ := order2 less data r₁.1 r₂.1 r₂.2.2
  (r₃.2.1, r₃.2.2)

/-- `medianAdjacent_func(data, a, swaps)`: the median of the elements at `a - 1`, `a` and
`a + 1`. -/
def medianAdjacent (data : SortData α) (a swaps : Nat) : Nat × Nat :=
  median less data (a - 1) a (a + 1) swaps

/-- `choosePivot_func(data, a, b)`: the pivot, the median of the elements at a quarter, half and
three quarters of the range (from `shortestNinther = 50` elements on, of the medians around them),
and a hint from the number of swaps the medians made: none, increasing; all `maxSwaps = 12`,
decreasing. -/
def choosePivot (data : SortData α) (a b : Nat) : Nat × SortedHint :=
  let l := b - a
  let i := a + l / 4 * 1
  let j := a + l / 4 * 2
  let k := a + l / 4 * 3
  let ninther :=
    if 50 ≤ l then
      let mi := medianAdjacent less data i 0
      let mj := medianAdjacent less data j mi.2
      let mk := medianAdjacent less data k mj.2
      (mi.1, mj.1, mk.1, mk.2)
    else (i, j, k, 0)
  let choice := if 8 ≤ l then median less data ninther.1 ninther.2.1 ninther.2.2.1 ninther.2.2.2
    else (j, 0)
  if choice.2 = 0 then (choice.1, .increasingHint)
  else if choice.2 = 4 * 3 then (choice.1, .decreasingHint)
  else (choice.1, .unknownHint)

/-- The loop of `reverseRange_func`: `for i < j { data.Swap(i, j); i++; j-- }`. -/
def reverseRangeFrom (data : SortData α) (i j : Nat) : SortData α :=
  if h : i < j then reverseRangeFrom (swap data i j) (i + 1) (j - 1) else data
termination_by j - i

/-- `reverseRange_func(data, a, b)`. -/
def reverseRange (data : SortData α) (a b : Nat) : SortData α :=
  reverseRangeFrom data a (b - 1)

/-! ### `pdqsort_func` -/

/-- What the start of an iteration of `pdqsort_func`'s loop leaves: the slice, the limit, the pivot
and the hint. -/
structure Pick (α : Type) where
  data : SortData α
  limit : Nat
  pivot : Nat
  hint : SortedHint

/-- The start of an iteration of `pdqsort_func`'s loop: `breakPatterns_func` and `limit--` after an
unbalanced partition; the pivot and hint of `choosePivot_func`; on a decreasing hint, the range
reversed, the pivot moved with it, and the hint made increasing. -/
def pickPivot (data : SortData α) (a b limit : Nat) (wasBalanced : Bool) : Pick α :=
  let data := if !wasBalanced then breakPatterns data a b else data
  let limit := if !wasBalanced then limit - 1 else limit
  let choice := choosePivot less data a b
  if choice.2 = .decreasingHint then
    ⟨reverseRange data a b, limit, (b - 1) - (choice.1 - a), .increasingHint⟩
  else ⟨data, limit, choice.1, choice.2⟩

/-- The smaller side of the partition that `partition_func` returns is smaller than the range. -/
theorem partition_left_lt (data : SortData α) {a b : Nat} (pivot : Nat) (hab : a < b) :
    (partition less data a b pivot).2.1 - a < b - a := by
  have := partition_bounds less data pivot hab
  omega

theorem partition_right_lt (data : SortData α) {a b : Nat} (pivot : Nat) (hab : a < b) :
    b - ((partition less data a b pivot).2.1 + 1) < b - a := by
  have := partition_bounds less data pivot hab
  omega

theorem partitionEqual_lt (data : SortData α) {a b : Nat} (pivot : Nat) (hab : a < b) :
    b - (partitionEqual less data a b pivot).2 < b - a := by
  have := partitionEqual_bounds less data pivot hab
  omega

/-- `pdqsort_func(data, a, b, limit)` from an iteration of its loop on, with the loop's
`wasBalanced` and `wasPartitioned` (both `true` when `pdqsort_func` is called).  Its call on the
smaller side of a partition is a fresh `pdqsort_func`; `a = mid; continue`, and `a = mid + 1` or
`b = mid`, start the next iteration. -/
def pdqsort (data : SortData α) (a b limit : Nat) (wasBalanced wasPartitioned : Bool) :
    SortData α :=
  if hlength : b - a ≤ 12 then insertionSort less data a b
  else if limit = 0 then heapSort less data a b
  else
    let p := pickPivot less data a b limit wasBalanced
    let tried := if wasBalanced ∧ wasPartitioned ∧ p.hint = .increasingHint then
        partialInsertionSort less p.data a b
      else (p.data, false)
    if tried.2 then tried.1
    else if 0 < a ∧ !less (tried.1.get (a - 1)) (tried.1.get p.pivot) then
      let eq := partitionEqual less tried.1 a b p.pivot
      pdqsort eq.1 eq.2 b p.limit wasBalanced wasPartitioned
    else
      let part := partition less tried.1 a b p.pivot
      let mid := part.2.1
      if mid - a < b - mid then
        pdqsort (pdqsort part.1 a mid p.limit true true) (mid + 1) b p.limit
          ((b - a) / 8 ≤ mid - a) part.2.2
      else
        pdqsort (pdqsort part.1 (mid + 1) b p.limit true true) a mid p.limit
          ((b - a) / 8 ≤ b - mid) part.2.2
termination_by b - a
decreasing_by
  all_goals first
    | exact partitionEqual_lt less _ _ (by omega)
    | exact partition_left_lt less _ _ (by omega)
    | exact partition_right_lt less _ _ (by omega)

/-- `sort.Slice(x, less)`: the slice sorted in place by `pdqsort_func` from `0` to its length, with
`bits.Len(uint(length))` unbalanced partitions allowed.  The slice is read as a function of the
index; past its end that function gives the first element, which no call reads. -/
def sortSlice (xs : List α) : List α :=
  match xs with
  | [] => []
  | x :: _ =>
    let length := xs.length
    (List.range length).map
      (pdqsort less ⟨fun k => xs.getD k x⟩ 0 length (Nat.size length) true true).get

end Sorting

end Go
end Linkerd
