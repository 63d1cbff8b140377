import Linkerd.Viz.ResourceQuery
import Linkerd.Viz.TrafficSplit

/-!
# The service query, and the query each goroutine runs

For a service, `StatSummary` reports the traffic the service sends to each destination.
`getServiceMetrics` asks Prometheus for the outbound stats grouped by `dst_namespace` and
`dst_service`, and files them under destination keys; in the `all` case, where no service is named,
each destination counts as its own service.  `serviceResourceQuery` gives every destination with
stats the weight `""`, then gives each destination override of the service's `ServiceProfile` its
weight, makes one row per weighted destination, with traffic-split stats when the weight is set,
and sorts the rows with `sortTrafficSplitRows`.

* `getServiceMetrics_get` — a destination key has the service's stats to that destination, and no
  other key has stats.
* `serviceWeights_get` — a destination's weight is the last override's that names it, `""` for a
  destination with stats and no override, and there is none for any other key.
* `serviceResourceQuery_rows` — in any order of the loops, the rows are one per weighted
  destination, sorted by `sortTrafficSplitRows`; `serviceResourceQuery_tsStats` — a row carries
  traffic-split stats only for an override's destination, with the requested service as its apex.

Last, `queryResource` is the body of a query goroutine of `StatSummary`: the query for the resource
type it was spawned for, on a copy of the request with that type; `statSummaryRun` is `StatSummary`
with those goroutines.

* `statSummaryRun_oneType` — for one resource type, in every interleaving `StatSummary` returns
  exactly what that type's query gives, and leaves no goroutine blocked.
* `queryResource_rows_type` — every row of a query's table is of the type the query was run for;
  `statSummaryRun_tables` — so the tables `StatSummary` returns, for one type or for `all`, are
  the queries' tables, one per type, each holding rows of its own type only.
-/

namespace Linkerd
namespace Viz

open Go

/-- `regexAny`: the service pattern of a query for every service. -/
def regexAny : List Char := ".+".toList

/-- `dstFromAuthority`: the service name of a `name.namespace.svc.<suffix>` authority, otherwise the
authority itself. -/
def dstFromAuthority (authority : List Char) : List Char :=
  match authority.splitOn '.' with
  | name :: _ :: label :: _ => if label = "svc".toList then name else authority
  | _ => authority

/-- The label names `buildServiceRequestLabels` groups by: `dst_namespace`, then `dst_service`. -/
def buildServiceRequestLabelNames : LabelNames :=
  ⟨["dst_namespace".toList, "dst_service".toList], List.cons_ne_nil _ _⟩

/-- The destination key `getServiceMetrics` files a key's stats under: in the `all` case the
destination is its own service. -/
def dstKeyOf (service : List Char) (rKey : RKey) : DstKey :=
  { ns := rKey.ns, service := if service = regexAny then rKey.name else service, dst := rKey.name }

/-- The re-keying loops of `getServiceMetrics`: each value filed under its destination key, the
keys visited in the order given. -/
def rekeyStats {β : Type} (service : List Char) (keys : List RKey) (stats : GoMap RKey β) :
    GoMap DstKey β :=
  keys.foldl (fun dstStats rKey => match stats.get rKey with
    | some v => dstStats.set (dstKeyOf service rKey) v
    | none => dstStats) GoMap.empty

section Service

variable {Object Selector : Type} (api : MetricsAPI Object Selector)
  (rangeRKeys : List RKey → List RKey) (rangeDstKeys : List DstKey → List DstKey)

/-- The service `getServiceMetrics` asks about: the one named, or every one. -/
def serviceOf (req : StatSummaryRequest) : List Char :=
  if req.resource.name = [] then regexAny else req.resource.name

/-- `getServiceMetrics`: the service's outbound request and TCP stats, by destination. -/
def getServiceMetrics (req : StatSummaryRequest) :
    Except GoError (GoMap DstKey BasicStats × GoMap DstKey TcpStats) := do
  let groupBy := buildServiceRequestLabelNames
  let service := serviceOf req
  let results ← api.serviceMetricsResults req
  let basicStats := basicStatsMap api.extractSampleValue req groupBy.names groupBy.ne_nil results
  let tcpStats := tcpStatsMap api.extractSampleValue req groupBy.names groupBy.ne_nil results
  pure (rekeyStats service (rangeRKeys basicStats.keys) basicStats,
    rekeyStats service (rangeRKeys tcpStats.keys) tcpStats)

/-- The weights `serviceResourceQuery` gives the destinations: `""` to each with stats, then to
each destination override of the service's `ServiceProfile` its weight. -/
def serviceWeights (req : StatSummaryRequest) (dstBasicStats : GoMap DstKey BasicStats) :
    GoMap DstKey (List Char) :=
  let weights := (rangeDstKeys dstBasicStats.keys).foldl (fun weights k => weights.set k [])
    GoMap.empty
  let name := req.resource.name
  let ns := req.resource.ns
  -- `fmt.Sprintf("%s.%s.svc.%s", name, namespace, s.clusterDomain)`
  let spName := name ++ ".".toList ++ ns ++ ".svc.".toList ++ api.clusterDomain
  match api.getServiceProfile ns spName with
  | .ok sp => sp.dstOverrides.foldl (fun weights weightedDst =>
      weights.set ⟨ns, name, dstFromAuthority weightedDst.authority⟩ weightedDst.weight)
      weights
  | .error _ => weights

/-- The row `serviceResourceQuery` makes for a destination and its weight: the service's stats to
it, and traffic-split stats when the weight is set. -/
def serviceRow (req : StatSummaryRequest) (dstBasicStats : DstKey → Option BasicStats)
    (dstTCPStats : DstKey → Option TcpStats) (k : DstKey) (weight : List Char) : Row :=
  { resource := { name := k.service, ns := k.ns, type := req.selectorType },
    timeWindow := req.timeWindow,
    stats := dstBasicStats k,
    tcpStats := dstTCPStats k,
    tsStats := if weight ≠ [] then some ⟨k.service, k.dst, weight⟩ else none }

/-- `serviceResourceQuery`. -/
def serviceResourceQuery (req : StatSummaryRequest) : ResourceResult (Option StatTable) :=
  match (if req.skipStats then .ok (GoMap.empty, GoMap.empty)
      else getServiceMetrics api rangeRKeys req) with
  | .error err => ⟨none, some err⟩
  | .ok (dstBasicStats, dstTCPStats) =>
    let weights := serviceWeights api rangeDstKeys req dstBasicStats
    let rows := (rangeDstKeys weights.keys).filterMap fun k =>
      (weights.get k).map (serviceRow req dstBasicStats.get dstTCPStats.get k)
    ⟨some ⟨sortTrafficSplitRows rows⟩, none⟩

/-- The destination overrides of the service's `ServiceProfile`, none when it cannot be read. -/
def profileOverrides (req : StatSummaryRequest) : List WeightedDst :=
  match api.getServiceProfile req.resource.ns
      (req.resource.name ++ ".".toList ++ req.resource.ns ++ ".svc.".toList ++ api.clusterDomain) with
  | .ok sp => sp.dstOverrides
  | .error _ => []

/-- The destination key of an override. -/
def overrideKey (req : StatSummaryRequest) (weightedDst : WeightedDst) : DstKey :=
  ⟨req.resource.ns, req.resource.name, dstFromAuthority weightedDst.authority⟩

end Service

/-! ### Destination stats and weights -/

/-- In a list without repeats, where only `a` can meet `p`, the last element meeting `p` is `a` if
it is there and meets `p`. -/
theorem getLast?_filter_of_nodup {α : Type} [DecidableEq α] {l : List α} (hl : l.Nodup)
    (p : α → Bool) (a : α) (hp : ∀ x ∈ l, p x → x = a) :
    (l.filter p).getLast? = if a ∈ l ∧ p a then some a else none := by
  have hall : ∀ x ∈ l.filter p, x = a := fun x hx =>
    hp x (List.mem_of_mem_filter hx) (List.mem_filter.mp hx).2
  have hrep : l.filter p = List.replicate (l.filter p).length a :=
    List.eq_replicate_iff.mpr ⟨rfl, hall⟩
  have hlen : (l.filter p).length ≤ 1 := List.nodup_replicate.mp (hrep ▸ hl.filter p)
  split_ifs with ha
  · have hpos : 0 < (l.filter p).length := List.length_pos_of_mem (List.mem_filter.mpr ha)
    rw [hrep, show (l.filter p).length = 1 by omega]
    rfl
  · rw [List.filter_eq_nil_iff.mpr fun x hx hpx => ha (hp x hx hpx ▸ ⟨hx, hpx⟩)]
    rfl

/-- The re-keying loop files each key's value under its destination key, and nothing else: when
every key is of type `t`, a destination key holds the value of the key of its namespace and
destination, provided its service is the one that key's stats are filed under. -/
theorem rekeyStats_get {β : Type} (service : List Char) (stats : GoMap RKey β) {keys : List RKey}
    (horder : keys.Perm stats.keys) {t : List Char} (htype : ∀ k ∈ stats.keys, k.type = t)
    (k : DstKey) :
    (rekeyStats service keys stats).get k =
      if k.service = (if service = regexAny then k.dst else service) then stats.get ⟨k.ns, t, k.dst⟩
      else none := by
  let rk : RKey := ⟨k.ns, t, k.dst⟩
  have hset := foldl_set (fun (dstStats : GoMap DstKey β) rKey => match stats.get rKey with
      | some v => dstStats.set (dstKeyOf service rKey) v
      | none => dstStats) (·.get k)
    (fun rKey => (stats.get rKey).isSome ∧ dstKeyOf service rKey = k) stats.get
    (fun dstStats rKey => by
      cases hv : stats.get rKey <;> simp [hv, eq_comm (a := k)])
    keys GoMap.empty
  rw [rekeyStats, hset, getLast?_filter_of_nodup (horder.nodup_iff.mpr stats.nodup) _ rk]
  · have hmem : rk ∈ keys ↔ (stats.get rk).isSome := horder.mem_iff.trans (stats.mem_keys rk)
    by_cases hsvc : k.service = (if service = regexAny then k.dst else service)
    · have hkey : dstKeyOf service rk = k := by
        obtain ⟨ns, svc, dst⟩ := k
        simp only [dstKeyOf, rk] at hsvc ⊢
        rw [hsvc]
      cases hv : stats.get rk <;> simp [hmem, hv, hkey, hsvc, rk]
    · have hkey : dstKeyOf service rk ≠ k := fun h => hsvc (by rw [← h]; rfl)
      simp [hkey, hsvc]
  · intro x hx hsets
    simp only [decide_eq_true_eq] at hsets
    have htx := htype x (horder.subset hx)
    obtain ⟨ns, ty, name⟩ := x
    obtain ⟨-, rfl⟩ := hsets
    simp only [dstKeyOf, rk] at htx ⊢
    rw [htx]

/-- `getServiceMetrics` files the service's stats by destination: a destination key has the stats
of the key of its namespace and destination, when its service is the requested one (in the `all`
case, the destination itself), and no other key has stats. -/
theorem getServiceMetrics_get {Object Selector : Type} (api : MetricsAPI Object Selector)
    (rangeRKeys : List RKey → List RKey) (hrange : ∀ keys, (rangeRKeys keys).Perm keys)
    (req : StatSummaryRequest) {dstBasicStats : GoMap DstKey BasicStats}
    {dstTCPStats : GoMap DstKey TcpStats}
    (h : getServiceMetrics api rangeRKeys req = .ok (dstBasicStats, dstTCPStats)) :
    ∃ results, api.serviceMetricsResults req = .ok results ∧
      let stats := processPrometheusMetrics api.extractSampleValue req
        buildServiceRequestLabelNames.names buildServiceRequestLabelNames.ne_nil results
      let filed := fun k : DstKey =>
        k.service = if serviceOf req = regexAny then k.dst else serviceOf req
      (∀ k, dstBasicStats.get k =
        if filed k then stats.basicStats ⟨k.ns, req.selectorType, k.dst⟩ else none) ∧
      ∀ k, dstTCPStats.get k =
        if filed k then stats.tcpStats ⟨k.ns, req.selectorType, k.dst⟩ else none := by
  obtain ⟨results, hresults, h⟩ := bind_eq_ok.mp h
  cases h
  exact ⟨results, hresults,
    rekeyStats_get _ _ (hrange _) (fun k hk => type_of_mem_statsKeys req _ _ _ _ hk),
    rekeyStats_get _ _ (hrange _) (fun k hk => type_of_mem_statsKeys req _ _ _ _ hk)⟩

/-- The example's traffic from `web-svc` to `web-svc-b` is filed under `web-svc`, not under another
service. -/
theorem getServiceMetrics_get_webSvc :
    ∃ dstBasicStats dstTCPStats, getServiceMetrics emojivotoCluster id
        (emojivotoRequest "service".toList "web-svc".toList) = .ok (dstBasicStats, dstTCPStats) ∧
      dstBasicStats.get ⟨"emojivoto".toList, "web".toList, "web-svc-b".toList⟩ = none := by
  obtain ⟨_, -, hbasic, -⟩ := getServiceMetrics_get emojivotoCluster id (fun _ => .refl _)
    (emojivotoRequest "service".toList "web-svc".toList) rfl
  exact ⟨_, _, rfl, (hbasic _).trans (if_neg (by decide))⟩

/-- A destination's weight is that of the last override naming it; a destination with stats and
no override has weight `""`; no other key has a weight. -/
theorem serviceWeights_get {Object Selector : Type} (api : MetricsAPI Object Selector)
    (rangeDstKeys : List DstKey → List DstKey) (hrange : ∀ keys, (rangeDstKeys keys).Perm keys)
    (req : StatSummaryRequest) (dstBasicStats : GoMap DstKey BasicStats) (k : DstKey) :
    (serviceWeights api rangeDstKeys req dstBasicStats).get k =
      match ((profileOverrides api req).filter (overrideKey req · = k)).getLast? with
      | some weightedDst => some weightedDst.weight
      | none => if (dstBasicStats.get k).isSome then some [] else none := by
  have hstats : ((rangeDstKeys dstBasicStats.keys).foldl (fun weights k => weights.set k [])
      (GoMap.empty : GoMap DstKey (List Char))).get k =
        if (dstBasicStats.get k).isSome then some [] else none := by
    have hset := foldl_set (fun (weights : GoMap DstKey (List Char)) k' => weights.set k' [])
      (·.get k) (· = k) (fun _ => some []) (fun weights k' => by simp [eq_comm])
      (rangeDstKeys dstBasicStats.keys) GoMap.empty
    rw [hset]
    by_cases hk : (dstBasicStats.get k).isSome
    · have hmem : k ∈ rangeDstKeys dstBasicStats.keys :=
        (hrange _).mem_iff.mpr ((dstBasicStats.mem_keys k).mpr hk)
      rw [getLast?_filter_of_nodup ((hrange _).nodup_iff.mpr dstBasicStats.nodup) _ k
        (fun x _ hx => of_decide_eq_true hx)]
      simp [hmem, hk]
    · rw [List.filter_eq_nil_iff.mpr fun x hx hxk => hk (by
        rw [of_decide_eq_true hxk] at hx
        exact (dstBasicStats.mem_keys k).mp ((hrange _).mem_iff.mp hx))]
      simp [hk]
  unfold serviceWeights profileOverrides overrideKey
  dsimp only
  cases api.getServiceProfile req.resource.ns
      (req.resource.name ++ ".".toList ++ req.resource.ns ++ ".svc.".toList ++ api.clusterDomain) with
  | ok sp =>
    have hset := foldl_set (fun (weights : GoMap DstKey (List Char)) (weightedDst : WeightedDst) =>
        weights.set ⟨req.resource.ns, req.resource.name, dstFromAuthority weightedDst.authority⟩
          weightedDst.weight)
      (·.get k) (fun weightedDst => (⟨req.resource.ns, req.resource.name,
        dstFromAuthority weightedDst.authority⟩ : DstKey) = k)
      (fun weightedDst => some weightedDst.weight)
      (fun weights weightedDst => by simp [eq_comm]) sp.dstOverrides
      ((rangeDstKeys dstBasicStats.keys).foldl (fun weights k => weights.set k []) GoMap.empty)
    rw [hset, hstats]
    cases (List.filter _ _).getLast? <;> rfl
  | error err => exact hstats

/-- **The rows of a service query.**  Whatever order the loops visit the maps in, when the stats
are read without error the query returns the rows of the weighted destinations, one each, in some
order; when every row carries traffic-split stats, in nondecreasing order of apex then leaf. -/
theorem serviceResourceQuery_rows {Object Selector : Type} (api : MetricsAPI Object Selector)
    (rangeRKeys : List RKey → List RKey) (rangeDstKeys : List DstKey → List DstKey)
    (hrange : ∀ keys, (rangeDstKeys keys).Perm keys) (req : StatSummaryRequest)
    {dstBasicStats : GoMap DstKey BasicStats} {dstTCPStats : GoMap DstKey TcpStats}
    (hmetrics : (if req.skipStats then .ok (GoMap.empty, GoMap.empty)
      else getServiceMetrics api rangeRKeys req) = .ok (dstBasicStats, dstTCPStats)) :
    ∃ rows, serviceResourceQuery api rangeRKeys rangeDstKeys req = ⟨some ⟨rows⟩, none⟩ ∧
      rows.Perm ((serviceWeights api rangeDstKeys req dstBasicStats).keys.filterMap fun k =>
        ((serviceWeights api rangeDstKeys req dstBasicStats).get k).map
          (serviceRow req dstBasicStats.get dstTCPStats.get k)) ∧
      ((∀ row ∈ rows, row.tsStats.isSome) → rows.Sorted (fun a b => tsKey a ≤ tsKey b)) := by
  refine ⟨_, ?_, (sortTrafficSplitRows_perm _).trans ((hrange _).filterMap _), fun h =>
    Go.sortSlice_sorted _ fun x hx y hy => tsLess_eq_decide ?_ ?_⟩
  · unfold serviceResourceQuery
    rw [hmetrics]
  · exact h x ((sortTrafficSplitRows_perm _).symm.subset hx)
  · exact h y ((sortTrafficSplitRows_perm _).symm.subset hy)

/-- The example's `web-svc` service: one row, for `web-svc-b`. -/
theorem serviceResourceQuery_rows_webSvc :
    ∃ rows, serviceResourceQuery emojivotoCluster id id
        (emojivotoRequest "service".toList "web-svc".toList) = ⟨some ⟨rows⟩, none⟩ ∧
      rows.length = 1 := by
  obtain ⟨rows, hquery, hperm, -⟩ := serviceResourceQuery_rows emojivotoCluster id id
    (fun _ => .refl _) (emojivotoRequest "service".toList "web-svc".toList) rfl
  exact ⟨rows, hquery, hperm.length_eq.trans rfl⟩

/-- A row of the service query carries traffic-split stats only for the destination of an override
of the service's profile with a non-empty weight: its apex is then the requested service, its leaf
that override's destination, and its weight the last such override's. -/
theorem serviceResourceQuery_tsStats {Object Selector : Type} (api : MetricsAPI Object Selector)
    (rangeDstKeys : List DstKey → List DstKey) (hrange : ∀ keys, (rangeDstKeys keys).Perm keys)
    (req : StatSummaryRequest) (dstBasicStats : GoMap DstKey BasicStats)
    (dstTCPStats : GoMap DstKey TcpStats) {k : DstKey} {weight : List Char}
    (hweight : (serviceWeights api rangeDstKeys req dstBasicStats).get k = some weight)
    {ts : TrafficSplitStats}
    (hts : (serviceRow req dstBasicStats.get dstTCPStats.get k weight).tsStats = some ts) :
    ts.apex = req.resource.name ∧ ts.weight ≠ [] ∧
      ∃ weightedDst ∈ profileOverrides api req, overrideKey req weightedDst = k ∧
        dstFromAuthority weightedDst.authority = ts.leaf ∧ weightedDst.weight = ts.weight := by
  simp only [serviceRow] at hts
  split_ifs at hts with hne
  cases hts
  rw [serviceWeights_get api rangeDstKeys hrange] at hweight
  split at hweight
  · rename_i weightedDst hlast
    cases hweight
    have hmem := List.mem_of_getLast?_eq_some hlast
    have hkey : overrideKey req weightedDst = k := of_decide_eq_true (List.mem_filter.mp hmem).2
    subst hkey
    exact ⟨rfl, hne, weightedDst, List.mem_of_mem_filter hmem, rfl, rfl, rfl⟩
  · split_ifs at hweight
    · cases hweight; exact absurd rfl hne

/-- The example's `web-svc` row for `web-svc-b` splits traffic with the weight of the profile's
override. -/
theorem serviceResourceQuery_tsStats_webSvc :
    ∃ weightedDst ∈ profileOverrides emojivotoCluster
        (emojivotoRequest "service".toList "web-svc".toList),
      dstFromAuthority weightedDst.authority = "web-svc-b".toList ∧
        weightedDst.weight = "500m".toList := by
  let req := emojivotoRequest "service".toList "web-svc".toList
  let k : DstKey := ⟨"emojivoto".toList, "web-svc".toList, "web-svc-b".toList⟩
  obtain ⟨-, -, weightedDst, hmem, -, hleaf, hweight⟩ := serviceResourceQuery_tsStats
    emojivotoCluster id (fun _ => .refl _) req GoMap.empty GoMap.empty
    (rfl : (serviceWeights emojivotoCluster id req GoMap.empty).get k = some "500m".toList)
    (rfl : (serviceRow req GoMap.empty.get GoMap.empty.get k "500m".toList).tsStats =
      some ⟨"web-svc".toList, "web-svc-b".toList, "500m".toList⟩)
  exact ⟨weightedDst, hmem, hleaf, hweight⟩

/-! ### The goroutines' queries -/

/-- `statReq` of a goroutine: a copy of the request, with the selected resource's type set to
`resource`. -/
def StatSummaryRequest.withType (req : StatSummaryRequest) (resource : List Char) :
    StatSummaryRequest :=
  { req with selector := req.selector.map fun selector =>
      { selector with resource := selector.resource.map fun r => { r with type := resource } } }

/-- A copy of the request with its own type is the request. -/
@[simp] theorem StatSummaryRequest.withType_selectorType (req : StatSummaryRequest) :
    req.withType req.selectorType = req := by
  rcases req with ⟨_ | ⟨_ | r, _⟩, _, _, _, _⟩ <;> rfl

section Goroutines

variable {Object Selector : Type} (api : MetricsAPI Object Selector)
  (rangeRKeys : List RKey → List RKey) (rangeDstKeys : List DstKey → List DstKey)

/-- The body of a query goroutine of `StatSummary`: the query for the request's resource type. -/
def queryResource (statReq : StatSummaryRequest) : ResourceResult (Option StatTable) :=
  if isNonK8sResourceQuery api statReq.selectorType then nonK8sResourceQuery api rangeRKeys statReq
  else if statReq.selectorType = api.types.service then
    serviceResourceQuery api rangeRKeys rangeDstKeys statReq
  else if isPolicyResource api.types statReq.selectorResource then policyResourceQuery api statReq
  else k8sResourceQuery api rangeRKeys statReq

/-- `StatSummary` with the goroutines it spawns: the response to a request that fails a check, or
the run of one goroutine per resource type, each querying a copy of the request for its type. -/
def statSummaryRun (req : StatSummaryRequest) :
    StatSummaryResponse (Option StatTable) ⊕ Run (Option StatTable) :=
  statSummary api.types req fun resource =>
    queryResource api rangeRKeys rangeDstKeys (req.withType resource)

/-- **`StatSummary` on one resource type, end to end.**  For a request that passes the checks and
selects one type, not `all`, `StatSummary` spawns one goroutine, which runs the query of that type
on the request as it is (`queryResource`).  In every interleaving the handler returns exactly what
that query gives, its table or its error through `grpcError`, with no goroutine left blocked on its
send; and it never blocks before it returns. -/
theorem statSummaryRun_oneType (grpcError : GoError → GoError) (req : StatSummaryRequest)
    {run : Run (Option StatTable)} (hrun : statSummaryRun api rangeRKeys rangeDstKeys req = .inr run)
    (hall : req.selectorType ≠ api.types.all) :
    (∀ s r, Reachable grpcError run s → s.returned = some r →
      s.pending = [] ∧
        r = match (queryResource api rangeRKeys rangeDstKeys req).err with
          | some err => .error (grpcError err)
          | none => .ok [(queryResource api rangeRKeys rangeDstKeys req).res]) ∧
    ∀ s, Reachable grpcError run s → s.returned = none → ∃ s', Step grpcError s s' := by
  have hstart : run = start [req.selectorType]
      fun resource => queryResource api rangeRKeys rangeDstKeys (req.withType resource) := by
    unfold statSummaryRun statSummary at hrun
    split at hrun
    · cases hrun
    · cases hrun
      simp only [resourcesToQuery, hall, if_false]
  subst hstart
  refine ⟨fun s r h hret => ?_, fun s h hlive => exists_step_of_reachable grpcError _ _ h hlive⟩
  rcases reachable_returned grpcError _ _ h hret with ⟨rfl, hpending, -⟩ | ⟨e, rfl, hlen⟩
  · obtain ⟨hok, hperm⟩ := tables_of_returned_ok grpcError _ _ h hret
    have herr := hok _ (List.mem_singleton_self _)
    simp only [StatSummaryRequest.withType_selectorType] at herr
    simp only [List.map_singleton, StatSummaryRequest.withType_selectorType, herr] at hperm ⊢
    exact ⟨hpending, by rw [List.perm_singleton.mp hperm]⟩
  · obtain ⟨t, ht, err, herr, rfl⟩ := error_of_returned grpcError _ _ h hret
    rw [List.mem_singleton.mp ht, StatSummaryRequest.withType_selectorType] at herr
    have hnil : s.pending.length = 0 := by simp only [List.length_singleton] at hlen; omega
    exact ⟨List.eq_nil_of_length_eq_zero hnil, by rw [herr]⟩

/-- `StatSummary` for the deployment `web`: the handler returns the table of the deployment query. -/
theorem statSummaryRun_oneType_web :
    ∃ run, statSummaryRun emojivotoCluster id id
        (emojivotoRequest "deployment".toList "web".toList) = .inr run ∧
      ∀ s r, Reachable id run s → s.returned = some r →
        s.pending = [] ∧ r = .ok [(queryResource emojivotoCluster id id
          (emojivotoRequest "deployment".toList "web".toList)).res] :=
  ⟨_, rfl, (statSummaryRun_oneType emojivotoCluster id id id
    (emojivotoRequest "deployment".toList "web".toList) rfl (by decide)).1⟩

/-- A copy of a request that selects a resource has the type it was given. -/
theorem StatSummaryRequest.withType_selectorType_of_isSome {req : StatSummaryRequest}
    (h : req.selectorResource.isSome) (t : List Char) : (req.withType t).selectorType = t := by
  rcases req with ⟨_ | ⟨_ | r, _⟩, _, _, _, _⟩
  · cases h
  · cases h
  · rfl

/-- A request that passes the checks selects a resource. -/
theorem selectorResource_isSome_of_checkRequest {req : StatSummaryRequest}
    (h : checkRequest api.types req = none) : req.selectorResource.isSome := by
  rw [checkRequest] at h
  split_ifs at h with hnone
  all_goals simpa [Option.isSome_iff_ne_none] using hnone

/-- Every row of a query's table is of the type the query was run for. -/
theorem queryResource_rows_type (statReq : StatSummaryRequest) {tab : StatTable}
    (h : (queryResource api rangeRKeys rangeDstKeys statReq).res = some tab) :
    ∀ row ∈ tab.rows, row.resource.type = statReq.selectorType := by
  unfold queryResource at h
  split_ifs at h
  · unfold nonK8sResourceQuery at h
    split at h
    · cases h
    · cases h
      simp only [List.mem_filterMap, Option.map_eq_some']
      rintro _ ⟨_, _, _, -, rfl⟩
      rfl
  · unfold serviceResourceQuery at h
    split at h
    · cases h
    · cases h
      intro row hrow
      obtain ⟨_, -, hk⟩ := List.mem_filterMap.mp ((sortTrafficSplitRows_perm _).subset hrow)
      obtain ⟨_, -, rfl⟩ := Option.map_eq_some'.mp hk
      rfl
  · unfold policyResourceQuery at h
    split at h
    · cases h
    · split at h
      · cases h
      · cases h
        simp only [List.mem_map]
        rintro _ ⟨_, -, rfl⟩
        rfl
  · unfold k8sResourceQuery at h
    split at h
    · cases h
    · split at h
      · cases h
      · cases h
        simp only [List.mem_filterMap, Option.map_eq_some']
        rintro _ ⟨_, _, _, -, rfl⟩
        rfl

/-- **What `StatSummary` returns, end to end.**  For every request that passes the checks, in every
interleaving of its goroutines: when the handler returns tables, they are the tables of the queries
for the types to query (every type of `StatAllResourceTypes` for `all`), each once, in some order,
and every row of a returned table is of the type its query was run for. -/
theorem statSummaryRun_tables (grpcError : GoError → GoError) (req : StatSummaryRequest)
    {run : Run (Option StatTable)} (hrun : statSummaryRun api rangeRKeys rangeDstKeys req = .inr run)
    {s : Run (Option StatTable)} (hreach : Reachable grpcError run s) {statTables : List (Option StatTable)}
    (hret : s.returned = some (.ok statTables)) :
    statTables.Perm ((resourcesToQuery api.types req).map fun t =>
        (queryResource api rangeRKeys rangeDstKeys (req.withType t)).res) ∧
      ∀ table ∈ statTables, ∀ tab, table = some tab →
        ∃ t ∈ resourcesToQuery api.types req, ∀ row ∈ tab.rows, row.resource.type = t := by
  unfold statSummaryRun statSummary at hrun
  split at hrun
  · cases hrun
  · rename_i hcheck
    cases hrun
    have hperm := (tables_of_returned_ok grpcError _ _ hreach hret).2
    refine ⟨hperm, fun table htable tab htab => ?_⟩
    obtain ⟨t, ht, hres⟩ := List.mem_map.mp (hperm.subset htable)
    refine ⟨t, ht, fun row hrow => ?_⟩
    rw [queryResource_rows_type api rangeRKeys rangeDstKeys _ (hres.trans htab) row hrow,
      StatSummaryRequest.withType_selectorType_of_isSome
        (selectorResource_isSome_of_checkRequest api hcheck)]

/-- A request for every resource type in `emojivoto`: when the handler returns tables, every row of
each is of the type of its own query. -/
theorem statSummaryRun_tables_all :
    let req := emojivotoRequest "all".toList []
    let tables := ["deployment".toList, "service".toList].map fun t =>
      (queryResource emojivotoCluster id id (req.withType t)).res
    ∀ table ∈ tables, ∀ tab, table = some tab →
      ∃ t ∈ resourcesToQuery emojivotoCluster.types req, ∀ row ∈ tab.rows, row.resource.type = t :=
  (statSummaryRun_tables emojivotoCluster id id id (emojivotoRequest "all".toList []) rfl
    (reachable_returned_ok id _ _ (by decide)) rfl).2

end Goroutines

end Viz
end Linkerd
