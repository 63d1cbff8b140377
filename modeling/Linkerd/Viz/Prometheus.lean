import Linkerd.Go.Loop
import Linkerd.Viz.Api

/-!
# Prometheus samples to stats: `processPrometheusMetrics`

The stat queries come back as one Prometheus result per query, each a vector of samples labelled
by the `groupBy` labels.  `processPrometheusMetrics` walks every sample of every result, keys it
with `metricToKey`, and adds it to one of three maps: request counts and latencies
(`BasicStats`), TCP counters (`TcpStats`), authorization counts (`ServerStats`).  Request samples
are added up by their `classification` label; every other field is overwritten by each sample.

The loop is a fold over the samples, `samplesOf`.  Each field of each key is either added to or
overwritten by a sample, or left alone (`updateBasic_eq` and its companions), so the loop lemmas of
`Linkerd.Go.Loop` say what the whole loop does to it; `processPrometheusMetrics_spec` puts the
fields together.
-/

namespace Linkerd
namespace Viz

open Go

/-- `promType`: which query a Prometheus result answers. -/
inductive PromType
  | promRequests
  | promLatencyP50
  | promLatencyP95
  | promLatencyP99
  | promTCPConnections
  | promTCPReadBytes
  | promTCPWriteBytes
  | promAllowedRequests
  | promDeniedRequests
  /-- A query of another kind, which `processPrometheusMetrics` ignores. -/
  | other (name : List Char)
  deriving DecidableEq, Repr

/-- `model.Sample`: its labels (a missing label reads as `""`) and its value. -/
structure Sample where
  metric : List Char → List Char
  value : Float

/-- `promResult`: the samples one query returned. -/
structure PromResult where
  prom : PromType
  vec : List Sample

/-- The classification label values, `success` and `failure`. -/
def success : List Char := "success".toList

/-- See `success`. -/
def failure : List Char := "failure".toList

/-- `metricToKey`: the key of a sample, named by its last `groupBy` label and, when there are two
`groupBy` labels, namespaced by the first (the code assumes `groupBy` ends `namespace, name`). -/
def metricToKey (req : StatSummaryRequest) (metric : List Char → List Char)
    (groupBy : List (List Char)) (h : groupBy ≠ []) : RKey :=
  { type := req.selectorType,
    name := metric (groupBy.getLast h),
    ns := if groupBy.length = 2 then metric (groupBy.getD 0 []) else [] }

/-- The three maps `processPrometheusMetrics` fills; `none` is a key the map does not have. -/
structure PromStats where
  basicStats : RKey → Option BasicStats
  tcpStats : RKey → Option TcpStats
  authzStats : RKey → Option ServerStats

/-- Three empty maps. -/
def PromStats.empty : PromStats := ⟨fun _ => none, fun _ => none, fun _ => none⟩

/-- The samples of the results, each with the query it answers, in the order the loops visit. -/
def samplesOf (results : List PromResult) : List (PromType × Sample) :=
  results.flatMap fun result => result.vec.map (result.prom, ·)

section Process

-- `extractSampleValue`, a helper of the package outside this file: the sample's value as a
-- `uint64` (rounded, and 0 for `NaN`).
variable (extractSampleValue : Sample → UInt64)

/-- How one sample changes the request stats of its key (`addBasicStats()` supplies `{}` for a new
key): a request sample adds its value to the success or failure count of its classification, a
latency sample overwrites its quantile. -/
def updateBasic (prom : PromType) (sample : Sample) (stats : BasicStats) : BasicStats :=
  let value := extractSampleValue sample
  match prom with
  | .promRequests =>
    if sample.metric "classification".toList = success then
      { stats with successCount := stats.successCount + value }
    else if sample.metric "classification".toList = failure then
      { stats with failureCount := stats.failureCount + value }
    else stats
  | .promLatencyP50 => { stats with latencyMsP50 := value }
  | .promLatencyP95 => { stats with latencyMsP95 := value }
  | .promLatencyP99 => { stats with latencyMsP99 := value }
  | _ => stats

/-- How one sample changes the TCP stats of its key: it overwrites its counter. -/
def updateTcp (prom : PromType) (sample : Sample) (stats : TcpStats) : TcpStats :=
  let value := extractSampleValue sample
  match prom with
  | .promTCPConnections => { stats with openConnections := value }
  | .promTCPReadBytes => { stats with readBytesTotal := value }
  | .promTCPWriteBytes => { stats with writeBytesTotal := value }
  | _ => stats

/-- How one sample changes the authorization stats of its key: it overwrites its count. -/
def updateAuthz (prom : PromType) (sample : Sample) (stats : ServerStats) : ServerStats :=
  let value := extractSampleValue sample
  match prom with
  | .promAllowedRequests => { stats with allowedCount := value }
  | .promDeniedRequests => { stats with deniedCount := value }
  | _ => stats

/-- The queries whose samples go to `basicStats`, `tcpStats` and `authzStats`. -/
def PromType.isBasic : PromType → Bool
  | .promRequests | .promLatencyP50 | .promLatencyP95 | .promLatencyP99 => true
  | _ => false

/-- See `PromType.isBasic`. -/
def PromType.isTcp : PromType → Bool
  | .promTCPConnections | .promTCPReadBytes | .promTCPWriteBytes => true
  | _ => false

/-- See `PromType.isBasic`. -/
def PromType.isAuthz : PromType → Bool
  | .promAllowedRequests | .promDeniedRequests => true
  | _ => false

/-- The three kinds of query are disjoint. -/
theorem PromType.isTcp_eq_false_of_isBasic {prom : PromType} (h : prom.isBasic = true) :
    prom.isTcp = false := by
  cases prom <;> first | rfl | cases h

theorem PromType.isAuthz_eq_false_of_isBasic {prom : PromType} (h : prom.isBasic = true) :
    prom.isAuthz = false := by
  cases prom <;> first | rfl | cases h

theorem PromType.isAuthz_eq_false_of_isTcp {prom : PromType} (h : prom.isTcp = true) :
    prom.isAuthz = false := by
  cases prom <;> first | rfl | cases h

variable (req : StatSummaryRequest) (groupBy : List (List Char)) (h : groupBy ≠ [])

/-- The body of the sample loop of `processPrometheusMetrics`: the sample's key gets a map entry
for its query's kind of stats (`{}` if it had none), updated by the sample. -/
def addSample (stats : PromStats) (prom : PromType) (sample : Sample) : PromStats :=
  let resource := metricToKey req sample.metric groupBy h
  if prom.isBasic then
    { stats with basicStats := (mapSet stats.basicStats resource
        (updateBasic extractSampleValue prom sample ((stats.basicStats resource).getD {}))) }
  else if prom.isTcp then
    { stats with tcpStats := (mapSet stats.tcpStats resource
        (updateTcp extractSampleValue prom sample ((stats.tcpStats resource).getD {}))) }
  else if prom.isAuthz then
    { stats with authzStats := (mapSet stats.authzStats resource
        (updateAuthz extractSampleValue prom sample ((stats.authzStats resource).getD {}))) }
  else stats

/-- `processPrometheusMetrics`: every sample of every result, in order, added to the maps. -/
def processPrometheusMetrics (results : List PromResult) : PromStats :=
  results.foldl (fun stats result =>
    result.vec.foldl
      (fun stats sample => addSample extractSampleValue req groupBy h stats result.prom sample)
      stats) PromStats.empty

/-- The samples of query `prom` that key to `k`. -/
def samplesFor (results : List PromResult) (prom : PromType) (k : RKey) : List Sample :=
  ((samplesOf results).filter fun x => x.1 = prom ∧ metricToKey req x.2.metric groupBy h = k).map
    Prod.snd

/-- A field holds the value of one of the samples, or 0 when there are none. -/
def ValueOf (v : UInt64) (samples : List Sample) : Prop :=
  (∃ s ∈ samples, extractSampleValue s = v) ∨ (samples = [] ∧ v = 0)

end Process

/-! ### One sample -/

section Process

variable (extractSampleValue : Sample → UInt64) (req : StatSummaryRequest)
  (groupBy : List (List Char)) (h : groupBy ≠ [])

theorem processPrometheusMetrics_eq_foldl (results : List PromResult) :
    processPrometheusMetrics extractSampleValue req groupBy h results =
      (samplesOf results).foldl
        (fun stats x => addSample extractSampleValue req groupBy h stats x.1 x.2)
        PromStats.empty := by
  unfold processPrometheusMetrics samplesOf
  generalize PromStats.empty = init
  induction results generalizing init with
  | nil => rfl
  | cons r rs ih => simp [List.flatMap_cons, List.foldl_append, List.foldl_map, ih]

theorem addSample_basicStats (stats : PromStats) (prom : PromType) (sample : Sample) (k : RKey) :
    (addSample extractSampleValue req groupBy h stats prom sample).basicStats k =
      if prom.isBasic ∧ metricToKey req sample.metric groupBy h = k then
        some (updateBasic extractSampleValue prom sample ((stats.basicStats k).getD {}))
      else stats.basicStats k := by
  unfold addSample
  cases prom.isBasic
  · simp only [Bool.false_eq_true, if_false, false_and]
    split_ifs <;> rfl
  · by_cases hk : metricToKey req sample.metric groupBy h = k
    · subst hk; simp only [if_true, and_self, mapSet_self]
    · simp only [if_true, hk, and_false, if_false, mapSet_of_ne _ _ (Ne.symm hk)]

theorem addSample_tcpStats (stats : PromStats) (prom : PromType) (sample : Sample) (k : RKey) :
    (addSample extractSampleValue req groupBy h stats prom sample).tcpStats k =
      if prom.isTcp ∧ metricToKey req sample.metric groupBy h = k then
        some (updateTcp extractSampleValue prom sample ((stats.tcpStats k).getD {}))
      else stats.tcpStats k := by
  unfold addSample
  cases hb : prom.isBasic
  · simp only [Bool.false_eq_true, if_false]
    cases prom.isTcp
    · simp only [Bool.false_eq_true, if_false, false_and]
      split_ifs <;> rfl
    · by_cases hk : metricToKey req sample.metric groupBy h = k
      · subst hk; simp only [if_true, and_self, mapSet_self]
      · simp only [if_true, hk, and_false, if_false, mapSet_of_ne _ _ (Ne.symm hk)]
  · simp only [if_true, PromType.isTcp_eq_false_of_isBasic hb, Bool.false_eq_true, false_and,
      if_false]

theorem addSample_authzStats (stats : PromStats) (prom : PromType) (sample : Sample) (k : RKey) :
    (addSample extractSampleValue req groupBy h stats prom sample).authzStats k =
      if prom.isAuthz ∧ metricToKey req sample.metric groupBy h = k then
        some (updateAuthz extractSampleValue prom sample ((stats.authzStats k).getD {}))
      else stats.authzStats k := by
  unfold addSample
  cases hb : prom.isBasic
  · cases ht : prom.isTcp
    · simp only [Bool.false_eq_true, if_false]
      cases prom.isAuthz
      · simp only [Bool.false_eq_true, if_false, false_and]
      · by_cases hk : metricToKey req sample.metric groupBy h = k
        · subst hk; simp only [if_true, and_self, mapSet_self]
        · simp only [if_true, hk, and_false, if_false, mapSet_of_ne _ _ (Ne.symm hk)]
    · simp only [Bool.false_eq_true, if_false, if_true, PromType.isAuthz_eq_false_of_isTcp ht,
        false_and]
  · simp only [if_true, PromType.isAuthz_eq_false_of_isBasic hb, Bool.false_eq_true, false_and,
      if_false]

theorem success_ne_failure : success ≠ failure := by decide

/-- `updateBasic` field by field: a request sample adds to the count of its classification, a
latency sample sets its quantile, and any other sample changes nothing. -/
theorem updateBasic_eq (prom : PromType) (sample : Sample) (stats : BasicStats) :
    updateBasic extractSampleValue prom sample stats =
      { successCount := if prom = .promRequests ∧ sample.metric "classification".toList = success
          then stats.successCount + extractSampleValue sample else stats.successCount,
        failureCount := if prom = .promRequests ∧ sample.metric "classification".toList = failure
          then stats.failureCount + extractSampleValue sample else stats.failureCount,
        latencyMsP50 := if prom = .promLatencyP50 then extractSampleValue sample else stats.latencyMsP50,
        latencyMsP95 := if prom = .promLatencyP95 then extractSampleValue sample else stats.latencyMsP95,
        latencyMsP99 := if prom = .promLatencyP99 then extractSampleValue sample else stats.latencyMsP99 } := by
  cases prom <;>
    simp only [updateBasic, reduceCtorEq, false_and, if_false, and_true, if_true, true_and]
  split_ifs with hs hf <;> simp_all [success_ne_failure]

/-- `updateTcp` field by field. -/
theorem updateTcp_eq (prom : PromType) (sample : Sample) (stats : TcpStats) :
    updateTcp extractSampleValue prom sample stats =
      { openConnections := if prom = .promTCPConnections then extractSampleValue sample
          else stats.openConnections,
        readBytesTotal := if prom = .promTCPReadBytes then extractSampleValue sample
          else stats.readBytesTotal,
        writeBytesTotal := if prom = .promTCPWriteBytes then extractSampleValue sample
          else stats.writeBytesTotal } := by
  cases prom <;> rfl

/-- `updateAuthz` field by field. -/
theorem updateAuthz_eq (prom : PromType) (sample : Sample) (stats : ServerStats) :
    updateAuthz extractSampleValue prom sample stats =
      { allowedCount := if prom = .promAllowedRequests then extractSampleValue sample
          else stats.allowedCount,
        deniedCount := if prom = .promDeniedRequests then extractSampleValue sample
          else stats.deniedCount } := by
  cases prom <;> rfl

/-- The request stats of `k` after one sample (`{}` standing for a key with none): the sample's
update if it keys to `k`, unchanged otherwise. -/
theorem basicStats_getD_addSample (stats : PromStats) (prom : PromType) (sample : Sample)
    (k : RKey) :
    ((addSample extractSampleValue req groupBy h stats prom sample).basicStats k).getD {} =
      if metricToKey req sample.metric groupBy h = k then
        updateBasic extractSampleValue prom sample ((stats.basicStats k).getD {})
      else (stats.basicStats k).getD {} := by
  rw [addSample_basicStats]
  by_cases hk : metricToKey req sample.metric groupBy h = k <;>
    cases prom <;> simp [hk, PromType.isBasic, updateBasic]

/-- See `basicStats_getD_addSample`. -/
theorem tcpStats_getD_addSample (stats : PromStats) (prom : PromType) (sample : Sample)
    (k : RKey) :
    ((addSample extractSampleValue req groupBy h stats prom sample).tcpStats k).getD {} =
      if metricToKey req sample.metric groupBy h = k then
        updateTcp extractSampleValue prom sample ((stats.tcpStats k).getD {})
      else (stats.tcpStats k).getD {} := by
  rw [addSample_tcpStats]
  by_cases hk : metricToKey req sample.metric groupBy h = k <;>
    cases prom <;> simp [hk, PromType.isTcp, updateTcp]

/-- See `basicStats_getD_addSample`. -/
theorem authzStats_getD_addSample (stats : PromStats) (prom : PromType) (sample : Sample)
    (k : RKey) :
    ((addSample extractSampleValue req groupBy h stats prom sample).authzStats k).getD {} =
      if metricToKey req sample.metric groupBy h = k then
        updateAuthz extractSampleValue prom sample ((stats.authzStats k).getD {})
      else (stats.authzStats k).getD {} := by
  rw [addSample_authzStats]
  by_cases hk : metricToKey req sample.metric groupBy h = k <;>
    cases prom <;> simp [hk, PromType.isAuthz, updateAuthz]

end Process

/-! ### The whole loop -/

section Process

variable (extractSampleValue : Sample → UInt64) (req : StatSummaryRequest)
  (groupBy : List (List Char)) (h : groupBy ≠ [])

theorem samplesFor_ne_nil_iff (results : List PromResult) (prom : PromType) (k : RKey) :
    samplesFor req groupBy h results prom k ≠ [] ↔
      ∃ x ∈ samplesOf results, x.1 = prom ∧ metricToKey req x.2.metric groupBy h = k := by
  simp only [samplesFor, Bool.decide_and, ne_eq, List.map_eq_nil_iff, List.filter_eq_nil_iff,
    Bool.and_eq_true, decide_eq_true_eq, not_and, Prod.forall, not_forall, Classical.not_imp,
    Decidable.not_not, Prod.exists, exists_prop]

/-- A map entry that the samples of some queries keyed to `k` create, and no other sample touches,
is there after the loop exactly when there is such a sample. -/
theorem isSome_processPrometheusMetrics {β : Type} (get : PromStats → Option β)
    (kind : PromType → Bool) (k : RKey)
    (htouch : ∀ stats prom sample, kind prom → metricToKey req sample.metric groupBy h = k →
      (get (addSample extractSampleValue req groupBy h stats prom sample)).isSome)
    (hkeep : ∀ stats prom sample, ¬(kind prom ∧ metricToKey req sample.metric groupBy h = k) →
      get (addSample extractSampleValue req groupBy h stats prom sample) = get stats)
    (hempty : get PromStats.empty = none) (results : List PromResult) :
    (get (processPrometheusMetrics extractSampleValue req groupBy h results)).isSome ↔
      ∃ prom, kind prom ∧ samplesFor req groupBy h results prom k ≠ [] := by
  rw [processPrometheusMetrics_eq_foldl,
    foldl_isSome _ get (fun x => kind x.1 ∧ metricToKey req x.2.metric groupBy h = k)
      (fun stats x hx => htouch stats x.1 x.2 (of_decide_eq_true hx).1 (of_decide_eq_true hx).2)
      (fun stats x hx => hkeep stats x.1 x.2 fun h => hx (decide_eq_true h))]
  simp only [hempty, samplesFor_ne_nil_iff]
  simp only [Option.isSome_none, Bool.false_eq_true, false_or, decide_eq_true_eq]
  exact ⟨fun ⟨x, hx, hk, hkey⟩ => ⟨x.1, hk, x, hx, rfl, hkey⟩,
    fun ⟨_, hk, x, hx, hprom, hkey⟩ => ⟨x, hx, hprom ▸ hk, hkey⟩⟩

/-- A field that a sample of query `prom` keyed to `k` overwrites, and every other sample leaves
alone, holds after the loop the value of one such sample, or 0 when there is none. -/
theorem valueOf_processPrometheusMetrics (get : PromStats → UInt64) (prom : PromType) (k : RKey)
    (hstep : ∀ stats (x : PromType × Sample),
      get (addSample extractSampleValue req groupBy h stats x.1 x.2) =
        if x.1 = prom ∧ metricToKey req x.2.metric groupBy h = k then extractSampleValue x.2
        else get stats)
    (hempty : get PromStats.empty = 0) (results : List PromResult) :
    ValueOf extractSampleValue (get (processPrometheusMetrics extractSampleValue req groupBy h results))
      (samplesFor req groupBy h results prom k) := by
  rw [processPrometheusMetrics_eq_foldl,
    foldl_set _ get (fun x => decide (x.1 = prom ∧ metricToKey req x.2.metric groupBy h = k))
      (fun x => extractSampleValue x.2) (by simpa only [decide_eq_true_eq] using hstep), hempty]
  unfold ValueOf samplesFor
  cases hl : ((samplesOf results).filter _).getLast? with
  | none => exact .inr ⟨List.map_eq_nil_iff.mpr (List.getLast?_eq_none_iff.mp hl), rfl⟩
  | some x => exact .inl ⟨x.2, List.mem_map_of_mem _ (List.mem_of_getLast?_eq_some hl), rfl⟩

/-- A field that a sample of query `prom` keyed to `k` and meeting `cond` adds its value to, and
every other sample leaves alone, is after the loop the sum of the values of those samples. -/
theorem sum_processPrometheusMetrics (get : PromStats → UInt64) (prom : PromType) (k : RKey)
    (cond : Sample → Prop) [DecidablePred cond]
    (hstep : ∀ stats (x : PromType × Sample),
      get (addSample extractSampleValue req groupBy h stats x.1 x.2) =
        if (x.1 = prom ∧ metricToKey req x.2.metric groupBy h = k) ∧ cond x.2
        then get stats + extractSampleValue x.2 else get stats)
    (hempty : get PromStats.empty = 0) (results : List PromResult) :
    get (processPrometheusMetrics extractSampleValue req groupBy h results) =
      (((samplesFor req groupBy h results prom k).filter cond).map extractSampleValue).sum := by
  rw [processPrometheusMetrics_eq_foldl,
    foldl_add _ get (fun x => decide ((x.1 = prom ∧ metricToKey req x.2.metric groupBy h = k) ∧
      cond x.2)) (fun x => extractSampleValue x.2) (by simpa only [decide_eq_true_eq] using hstep), hempty, zero_add]
  simp only [Bool.decide_and, Bool.and_comm, samplesFor, List.filter_map, Function.comp_def,
    List.filter_filter, List.map_map]

/-- A key has request stats exactly when a sample of a request or latency query keys to it. -/
theorem isSome_basicStats_iff_samplesFor (results : List PromResult) (k : RKey) :
    ((processPrometheusMetrics extractSampleValue req groupBy h results).basicStats k).isSome ↔
      ∃ prom, prom.isBasic ∧ samplesFor req groupBy h results prom k ≠ [] :=
  isSome_processPrometheusMetrics extractSampleValue req groupBy h (·.basicStats k) PromType.isBasic k
    (fun _ _ _ hkind hk => by simp [addSample_basicStats, hkind, hk])
    (fun _ _ _ hn => by simp only [addSample_basicStats, if_neg hn]) rfl results

/-- See `isSome_basicStats_iff_samplesFor`. -/
theorem isSome_tcpStats_iff_samplesFor (results : List PromResult) (k : RKey) :
    ((processPrometheusMetrics extractSampleValue req groupBy h results).tcpStats k).isSome ↔
      ∃ prom, prom.isTcp ∧ samplesFor req groupBy h results prom k ≠ [] :=
  isSome_processPrometheusMetrics extractSampleValue req groupBy h (·.tcpStats k) PromType.isTcp k
    (fun _ _ _ hkind hk => by simp [addSample_tcpStats, hkind, hk])
    (fun _ _ _ hn => by simp only [addSample_tcpStats, if_neg hn]) rfl results

/-- See `isSome_basicStats_iff_samplesFor`. -/
theorem isSome_authzStats_iff_samplesFor (results : List PromResult) (k : RKey) :
    ((processPrometheusMetrics extractSampleValue req groupBy h results).authzStats k).isSome ↔
      ∃ prom, prom.isAuthz ∧ samplesFor req groupBy h results prom k ≠ [] :=
  isSome_processPrometheusMetrics extractSampleValue req groupBy h (·.authzStats k) PromType.isAuthz k
    (fun _ _ _ hkind hk => by simp [addSample_authzStats, hkind, hk])
    (fun _ _ _ hn => by simp only [addSample_authzStats, if_neg hn]) rfl results

/-- The request stats of a key: its success and failure counts are the sums of its request samples
of that classification, and each latency is the value of one of its samples of that quantile. -/
theorem basicStats_fields (results : List PromResult) (k : RKey) (b : BasicStats)
    (hb : (processPrometheusMetrics extractSampleValue req groupBy h results).basicStats k = some b) :
    let samples := fun prom => samplesFor req groupBy h results prom k
    b.successCount = (((samples .promRequests).filter
        fun s => s.metric "classification".toList = success).map extractSampleValue).sum ∧
      b.failureCount = (((samples .promRequests).filter
        fun s => s.metric "classification".toList = failure).map extractSampleValue).sum ∧
      ValueOf extractSampleValue b.latencyMsP50 (samples .promLatencyP50) ∧
      ValueOf extractSampleValue b.latencyMsP95 (samples .promLatencyP95) ∧
      ValueOf extractSampleValue b.latencyMsP99 (samples .promLatencyP99) := by
  obtain rfl : ((processPrometheusMetrics extractSampleValue req groupBy h results).basicStats
      k).getD {} = b := by rw [hb]; rfl
  have step := basicStats_getD_addSample extractSampleValue req groupBy h
  have valueOf := valueOf_processPrometheusMetrics extractSampleValue req groupBy h
  refine ⟨sum_processPrometheusMetrics extractSampleValue req groupBy h
      (fun st => ((st.basicStats k).getD {}).successCount) .promRequests k _ ?_ rfl results,
    sum_processPrometheusMetrics extractSampleValue req groupBy h
      (fun st => ((st.basicStats k).getD {}).failureCount) .promRequests k _ ?_ rfl results,
    valueOf (fun st => ((st.basicStats k).getD {}).latencyMsP50) .promLatencyP50 k ?_ rfl results,
    valueOf (fun st => ((st.basicStats k).getD {}).latencyMsP95) .promLatencyP95 k ?_ rfl results,
    valueOf (fun st => ((st.basicStats k).getD {}).latencyMsP99) .promLatencyP99 k ?_ rfl
      results⟩ <;>
  · intro st x
    by_cases hk : metricToKey req x.2.metric groupBy h = k <;>
      simp [step, updateBasic_eq, hk, and_comm]

/-- The TCP stats of a key: each counter is the value of one of its samples of that query. -/
theorem tcpStats_fields (results : List PromResult) (k : RKey) (t : TcpStats)
    (ht : (processPrometheusMetrics extractSampleValue req groupBy h results).tcpStats k = some t) :
    let samples := fun prom => samplesFor req groupBy h results prom k
    ValueOf extractSampleValue t.openConnections (samples .promTCPConnections) ∧
      ValueOf extractSampleValue t.readBytesTotal (samples .promTCPReadBytes) ∧
      ValueOf extractSampleValue t.writeBytesTotal (samples .promTCPWriteBytes) := by
  obtain rfl : ((processPrometheusMetrics extractSampleValue req groupBy h results).tcpStats
      k).getD {} = t := by rw [ht]; rfl
  have step := tcpStats_getD_addSample extractSampleValue req groupBy h
  have valueOf := valueOf_processPrometheusMetrics extractSampleValue req groupBy h
  refine ⟨valueOf (fun st => ((st.tcpStats k).getD {}).openConnections) .promTCPConnections k ?_
      rfl results,
    valueOf (fun st => ((st.tcpStats k).getD {}).readBytesTotal) .promTCPReadBytes k ?_ rfl results,
    valueOf (fun st => ((st.tcpStats k).getD {}).writeBytesTotal) .promTCPWriteBytes k ?_ rfl
      results⟩ <;>
  · intro st x
    by_cases hk : metricToKey req x.2.metric groupBy h = k <;> simp [step, updateTcp_eq, hk]

/-- The authorization stats of a key: each count is the value of one of its samples of that
query. -/
theorem authzStats_fields (results : List PromResult) (k : RKey) (a : ServerStats)
    (ha : (processPrometheusMetrics extractSampleValue req groupBy h results).authzStats k = some a) :
    let samples := fun prom => samplesFor req groupBy h results prom k
    ValueOf extractSampleValue a.allowedCount (samples .promAllowedRequests) ∧
      ValueOf extractSampleValue a.deniedCount (samples .promDeniedRequests) := by
  obtain rfl : ((processPrometheusMetrics extractSampleValue req groupBy h results).authzStats
      k).getD {} = a := by rw [ha]; rfl
  have step := authzStats_getD_addSample extractSampleValue req groupBy h
  have valueOf := valueOf_processPrometheusMetrics extractSampleValue req groupBy h
  refine ⟨valueOf (fun st => ((st.authzStats k).getD {}).allowedCount) .promAllowedRequests k ?_
      rfl results,
    valueOf (fun st => ((st.authzStats k).getD {}).deniedCount) .promDeniedRequests k ?_ rfl
      results⟩ <;>
  · intro st x
    by_cases hk : metricToKey req x.2.metric groupBy h = k <;> simp [step, updateAuthz_eq, hk]

/-- `processPrometheusMetrics` loses no sample: a key has request (TCP, authorization) stats
exactly when some sample of those queries keys to it; its success and failure counts are the sums
of the values of its request samples of that classification, so they do not depend on the order of
the results or of their samples; and every other field holds the value of one of its samples of
that query, or 0 when there is none. -/
theorem processPrometheusMetrics_spec (results : List PromResult) (k : RKey) :
    let stats := processPrometheusMetrics extractSampleValue req groupBy h results
    let samples := fun prom => samplesFor req groupBy h results prom k
    ((stats.basicStats k).isSome ↔ ∃ prom, prom.isBasic ∧ samples prom ≠ []) ∧
    ((stats.tcpStats k).isSome ↔ ∃ prom, prom.isTcp ∧ samples prom ≠ []) ∧
    ((stats.authzStats k).isSome ↔ ∃ prom, prom.isAuthz ∧ samples prom ≠ []) ∧
    (∀ b, stats.basicStats k = some b →
      b.successCount = (((samples .promRequests).filter
        fun s => s.metric "classification".toList = success).map extractSampleValue).sum ∧
      b.failureCount = (((samples .promRequests).filter
        fun s => s.metric "classification".toList = failure).map extractSampleValue).sum ∧
      ValueOf extractSampleValue b.latencyMsP50 (samples .promLatencyP50) ∧
      ValueOf extractSampleValue b.latencyMsP95 (samples .promLatencyP95) ∧
      ValueOf extractSampleValue b.latencyMsP99 (samples .promLatencyP99)) ∧
    (∀ t, stats.tcpStats k = some t →
      ValueOf extractSampleValue t.openConnections (samples .promTCPConnections) ∧
      ValueOf extractSampleValue t.readBytesTotal (samples .promTCPReadBytes) ∧
      ValueOf extractSampleValue t.writeBytesTotal (samples .promTCPWriteBytes)) ∧
    (∀ a, stats.authzStats k = some a →
      ValueOf extractSampleValue a.allowedCount (samples .promAllowedRequests) ∧
      ValueOf extractSampleValue a.deniedCount (samples .promDeniedRequests)) :=
  ⟨isSome_basicStats_iff_samplesFor extractSampleValue req groupBy h results k,
    isSome_tcpStats_iff_samplesFor extractSampleValue req groupBy h results k,
    isSome_authzStats_iff_samplesFor extractSampleValue req groupBy h results k,
    basicStats_fields extractSampleValue req groupBy h results k,
    tcpStats_fields extractSampleValue req groupBy h results k,
    authzStats_fields extractSampleValue req groupBy h results k⟩

end Process

/-! ### The request-stats map, ranged over -/

section Keys

variable (extractSampleValue : Sample → UInt64) (req : StatSummaryRequest)
  (groupBy : List (List Char)) (h : groupBy ≠ [])

/-- A key has request stats exactly when a sample of a request or latency query keys to it. -/
theorem isSome_basicStats_iff (results : List PromResult) (k : RKey) :
    ((processPrometheusMetrics extractSampleValue req groupBy h results).basicStats k).isSome ↔
      ∃ x ∈ samplesOf results, x.1.isBasic ∧ metricToKey req x.2.metric groupBy h = k := by
  rw [isSome_basicStats_iff_samplesFor]
  simp only [samplesFor_ne_nil_iff]
  exact ⟨fun ⟨_, hk, x, hx, hprom, hkey⟩ => ⟨x, hx, hprom ▸ hk, hkey⟩,
    fun ⟨x, hx, hk, hkey⟩ => ⟨x.1, hk, x, hx, rfl, hkey⟩⟩

/-- A key of another type than the selected one gets no stats of any kind. -/
theorem stats_eq_none_of_type_ne (results : List PromResult) {k : RKey}
    (hk : k.type ≠ req.selectorType) :
    let stats := processPrometheusMetrics extractSampleValue req groupBy h results
    stats.basicStats k = none ∧ stats.tcpStats k = none ∧ stats.authzStats k = none := by
  have hkey : ∀ metric, metricToKey req metric groupBy h ≠ k := fun metric he => hk (he ▸ rfl)
  simp only [processPrometheusMetrics_eq_foldl]
  generalize samplesOf results = xs
  suffices ∀ init : PromStats, init.basicStats k = none → init.tcpStats k = none →
      init.authzStats k = none →
      let stats := xs.foldl (fun stats x => addSample extractSampleValue req groupBy h stats x.1 x.2)
        init
      stats.basicStats k = none ∧ stats.tcpStats k = none ∧ stats.authzStats k = none from
    this _ rfl rfl rfl
  induction xs with
  | nil => exact fun _ h₁ h₂ h₃ => ⟨h₁, h₂, h₃⟩
  | cons x xs ih =>
    intro init h₁ h₂ h₃
    exact ih _ (by simp [addSample_basicStats, hkey, h₁]) (by simp [addSample_tcpStats, hkey, h₂])
      (by simp [addSample_authzStats, hkey, h₃])

/-- A key has TCP stats exactly when a sample of a TCP query keys to it. -/
theorem isSome_tcpStats_iff (results : List PromResult) (k : RKey) :
    ((processPrometheusMetrics extractSampleValue req groupBy h results).tcpStats k).isSome ↔
      ∃ x ∈ samplesOf results, x.1.isTcp ∧ metricToKey req x.2.metric groupBy h = k := by
  rw [isSome_tcpStats_iff_samplesFor]
  simp only [samplesFor_ne_nil_iff]
  exact ⟨fun ⟨_, hk, x, hx, hprom, hkey⟩ => ⟨x, hx, hprom ▸ hk, hkey⟩,
    fun ⟨x, hx, hk, hkey⟩ => ⟨x.1, hk, x, hx, rfl, hkey⟩⟩

/-- The keys of the samples of the queries `kind` picks, each once: the keys
`processPrometheusMetrics` gives those queries' stats. -/
def statsKeys (kind : PromType → Bool) (results : List PromResult) : List RKey :=
  (((samplesOf results).filter (kind ·.1)).map fun x => metricToKey req x.2.metric groupBy h).dedup

theorem mem_statsKeys (kind : PromType → Bool) (results : List PromResult) (k : RKey) :
    k ∈ statsKeys req groupBy h kind results ↔
      ∃ x ∈ samplesOf results, kind x.1 ∧ metricToKey req x.2.metric groupBy h = k := by
  simp [statsKeys, List.mem_dedup, and_assoc]

/-- Every such key is of the selected type: `metricToKey` keys every sample so. -/
theorem type_of_mem_statsKeys (kind : PromType → Bool) (results : List PromResult) {k : RKey}
    (hk : k ∈ statsKeys req groupBy h kind results) : k.type = req.selectorType := by
  obtain ⟨x, -, -, rfl⟩ := (mem_statsKeys req groupBy h kind results k).mp hk
  rfl

/-- The request-stats map of `processPrometheusMetrics` with its keys, for the loops that range
over it. -/
def basicStatsMap (results : List PromResult) : GoMap RKey BasicStats :=
  ⟨(processPrometheusMetrics extractSampleValue req groupBy h results).basicStats,
    statsKeys req groupBy h PromType.isBasic results, List.nodup_dedup _, fun k =>
      (mem_statsKeys req groupBy h _ results k).trans
        (isSome_basicStats_iff extractSampleValue req groupBy h results k).symm⟩

/-- The TCP-stats map of `processPrometheusMetrics` with its keys. -/
def tcpStatsMap (results : List PromResult) : GoMap RKey TcpStats :=
  ⟨(processPrometheusMetrics extractSampleValue req groupBy h results).tcpStats,
    statsKeys req groupBy h PromType.isTcp results, List.nodup_dedup _, fun k =>
      (mem_statsKeys req groupBy h _ results k).trans
        (isSome_tcpStats_iff extractSampleValue req groupBy h results k).symm⟩

end Keys

/-- The law for deployments keyed by namespace and name, on one successful request sample. -/
theorem processPrometheusMetrics_spec_deployment :
    ["namespace".toList, "deployment".toList] ≠ [] ∧
      let req : StatSummaryRequest := ⟨none, .none, "1m".toList, false, false⟩
      let results := [⟨.promRequests, [⟨fun _ => success, 1⟩]⟩]
      let k : RKey := ⟨success, [], success⟩
      (((processPrometheusMetrics (fun _ => 1) req ["namespace".toList, "deployment".toList]
        (List.cons_ne_nil _ _) results).basicStats k).isSome ↔
        ∃ prom, prom.isBasic ∧ samplesFor req ["namespace".toList, "deployment".toList]
          (List.cons_ne_nil _ _) results prom k ≠ []) :=
  ⟨List.cons_ne_nil _ _, (processPrometheusMetrics_spec (fun _ => 1)
    ⟨none, .none, "1m".toList, false, false⟩
    ["namespace".toList, "deployment".toList] (List.cons_ne_nil _ _)
    [⟨.promRequests, [⟨fun _ => success, 1⟩]⟩] ⟨success, [], success⟩).1⟩

end Viz
end Linkerd
