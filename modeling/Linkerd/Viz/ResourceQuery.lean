import Linkerd.Viz.Prometheus
import Linkerd.Viz.PodStats
import Linkerd.Viz.StatSummary

/-!
# The resource queries: Kubernetes objects, policy resources and authorities

Each goroutine of `StatSummary` answers for one resource type with a stat table.  For a Kubernetes
object type, `k8sResourceQuery` lists the objects the selector names (`getKubernetesObjectStats`,
which also counts each object's pods), takes the request stats from Prometheus, and makes one row
per result key; `getResultKeys` takes those keys from the objects, or under an outbound filter from
the request stats.  For servers and server authorizations, `policyResourceQuery` makes one row per
resource the dynamic client lists; for authorities, `nonK8sResourceQuery` makes one row per key of
the request stats.

The queries range over Go maps, whose order Go leaves unspecified: `rangeRKeys` is the order a
`range` loop visits a map's keys in, and the theorems hold for every order that visits each key
once.  What the code reads from the cluster and from Prometheus, and the helpers of packages outside
this repository's sources, are the fields of `MetricsAPI`.

* `getKubernetesObjectStats_key` — every object is filed under its own name and namespace and the
  selected type.
* `k8sResourceQuery_rows` — in any order, the rows are one per object (under an outbound filter,
  per object that also has request stats), and no two are for the same resource.
* `policyRow_stats_isSome` — a policy row has stats only when the listed kind, lowercased, is the
  selected type.
* `nonK8sResourceQuery_rows` — one row per key of the request stats.
-/

namespace Linkerd
namespace Viz

open Go K8s

/-- `metav1.Object`, as `meta.Accessor` gives it: the object's name and namespace. -/
structure ObjectMeta where
  name : List Char
  ns : List Char
  deriving DecidableEq, Repr

/-- `k8sStat`: an object and the stats of its pods. -/
structure K8sStat where
  object : ObjectMeta
  podStats : PodStats

/-- `unstructured.Unstructured`: a policy resource as the dynamic client returns it. -/
structure Unstructured where
  ns : List Char
  kind : List Char
  name : List Char
  deriving DecidableEq, Repr

/-- The `schema.GroupVersionResource` `getPolicyResourceKeys` lists: `k8s.ServerGVR`, `k8s.SazGVR`,
or the zero value for another type. -/
inductive PolicyGVR
  | serverGVR
  | sazGVR
  | zero
  deriving DecidableEq, Repr

/-- `model.LabelNames`, as a query groups by: never empty, since `metricToKey` reads its last
label. -/
structure LabelNames where
  names : List (List Char)
  ne_nil : names ≠ []

/-- `dstKey`: a destination of a service's traffic.  Its `Weight` field, which the code never
sets, is left out. -/
structure DstKey where
  ns : List Char
  service : List Char
  dst : List Char
  deriving DecidableEq, Repr

/-- `sp.Spec.DstOverrides[i]`: an authority, and its weight as `Weight.String()` prints it. -/
structure WeightedDst where
  authority : List Char
  weight : List Char
  deriving DecidableEq, Repr

/-- A `ServiceProfile`'s spec, its destination overrides. -/
structure ServiceProfile where
  dstOverrides : List WeightedDst
  deriving DecidableEq, Repr

/-- What the queries read from the cluster and from Prometheus, and the helpers of packages outside
this repository's sources that they call.  `Object` is `runtime.Object` and `Selector` is
`labels.Selector`. -/
structure MetricsAPI (Object Selector : Type) where
  /-- The resource type names of the `k8s` package. -/
  types : ResourceTypes
  /-- `k8s.Authority`. -/
  authority : List Char
  /-- `s.clusterDomain`. -/
  clusterDomain : List Char
  /-- `labels.Everything()`. -/
  labelsEverything : Selector
  /-- `labels.Parse(s)`. -/
  labelsParse : List Char → Except GoError Selector
  /-- `labelSelector.String()`. -/
  selectorString : Selector → List Char
  /-- `s.k8sAPI.GetObjects(namespace, type, name, labelSelector)`. -/
  getObjects : List Char → List Char → List Char → Selector → Except GoError (List Object)
  /-- `meta.Accessor(object)`. -/
  accessor : Object → Except GoError ObjectMeta
  /-- `s.k8sAPI.GetPodsFor(obj, true)`. -/
  getPodsFor : Object → Except GoError (GoSlice Pod)
  /-- `obj.(*corev1.Pod)`. -/
  asPod : Object → Option Pod
  /-- `k8s.GetPodStatus(pod)`. -/
  getPodStatus : Pod → List Char
  /-- `k8s.IsMeshed(pod, s.controllerNamespace)`. -/
  isMeshed : Pod → Bool
  /-- `s.k8sAPI.DynamicClient.Resource(gvr).Namespace(ns).List(...)`, with the selector's text. -/
  listPolicyResources : PolicyGVR → List Char → List Char → Except GoError (List Unstructured)
  /-- `s.k8sAPI.DynamicClient.Resource(gvr).Namespace(ns).Get(ctx, name, ...)`. -/
  getPolicyResource : PolicyGVR → List Char → List Char → Except GoError Unstructured
  /-- `s.k8sAPI.SP().Lister().ServiceProfiles(ns).Get(name)`. -/
  getServiceProfile : List Char → List Char → Except GoError ServiceProfile
  /-- `promGroupByLabelNames(resource)`. -/
  promGroupByLabelNames : Resource → LabelNames
  /-- `promDstGroupByLabelNames(resource)`. -/
  promDstGroupByLabelNames : Resource → LabelNames
  /-- `namespaceLabel`. -/
  namespaceLabel : List Char
  /-- `serverLabel`. -/
  serverLabel : List Char
  /-- `serverAuthorizationLabel`. -/
  serverAuthorizationLabel : List Char
  /-- `s.getPrometheusMetrics(ctx, promQueries, quantileQueries)` on the queries `getStatMetrics`
  builds for the request. -/
  statMetricsResults : StatSummaryRequest → Except GoError (List PromResult)
  /-- The same, on the queries of `getPolicyMetrics`. -/
  policyMetricsResults : StatSummaryRequest → Except GoError (List PromResult)
  /-- The same, on the queries of `getServiceMetrics`. -/
  serviceMetricsResults : StatSummaryRequest → Except GoError (List PromResult)
  /-- `extractSampleValue(sample)`. -/
  extractSampleValue : Sample → UInt64

/-- `req.Selector.Resource`, which `StatSummary` has checked is set before any query runs. -/
def StatSummaryRequest.resource (req : StatSummaryRequest) : Resource :=
  req.selectorResource.getD ⟨[], [], []⟩

section Queries

variable {Object Selector : Type} (api : MetricsAPI Object Selector)
  -- The order a `range` loop visits a map's keys in, given them in the order they were first set.
  (rangeRKeys : List RKey → List RKey)

/-- `getLabelSelector`: every object, or those the request's label selector selects. -/
def getLabelSelector (req : StatSummaryRequest) : Except GoError Selector :=
  let s := (req.selector.map ResourceSelection.labelSelector).getD []
  if s = [] then .ok api.labelsEverything
  else match api.labelsParse s with
    | .ok labelSelector => .ok labelSelector
    | .error err =>
      .error (.plain ("invalid label selector \"".toList ++ s ++ "\": ".toList ++ err.text))

/-- The body of the object loop of `getKubernetesObjectStats`: the object, with its pods' stats,
filed under its name, its namespace and the selected type. -/
def addObjectStats (type : List Char) (objectMap : GoMap RKey K8sStat) (object : Object) :
    Except GoError (GoMap RKey K8sStat) := do
  let metaObj ← api.accessor object
  let key : RKey := { name := metaObj.name, ns := metaObj.ns, type := type }
  let podStats ← getPodStats api.getPodsFor api.asPod api.getPodStatus api.isMeshed object
  pure (objectMap.set key ⟨metaObj, podStats⟩)

/-- `getKubernetesObjectStats`. -/
def getKubernetesObjectStats (req : StatSummaryRequest) : Except GoError (GoMap RKey K8sStat) := do
  let requestedResource := req.resource
  let labelSelector ← getLabelSelector api req
  let objects ← api.getObjects requestedResource.ns requestedResource.type requestedResource.name
    labelSelector
  objects.foldlM (addObjectStats api req.selectorType) GoMap.empty

/-- `getResultKeys`: the keys of the objects, or under an outbound filter the keys of the request
stats, in the order a `range` loop visits them. -/
def getResultKeys (req : StatSummaryRequest) (k8sObjects : GoMap RKey K8sStat)
    (metricResults : GoMap RKey BasicStats) : List RKey :=
  match req.outbound with
  | .none => rangeRKeys k8sObjects.keys
  | _ => rangeRKeys metricResults.keys

/-- The label names `buildRequestLabels` groups by (the label set it builds is left out). -/
def buildRequestLabelNames (req : StatSummaryRequest) : LabelNames :=
  match req.outbound with
  | .fromResource _ => api.promDstGroupByLabelNames req.resource
  | _ => api.promGroupByLabelNames req.resource

/-- `getStatMetrics`: the request stats and the TCP stats of the Prometheus results, by key. -/
def getStatMetrics (req : StatSummaryRequest) :
    Except GoError (GoMap RKey BasicStats × (RKey → Option TcpStats)) := do
  let groupBy := buildRequestLabelNames api req
  let results ← api.statMetricsResults req
  pure (basicStatsMap api.extractSampleValue req groupBy.names groupBy.ne_nil results,
    (processPrometheusMetrics api.extractSampleValue req groupBy.names groupBy.ne_nil
      results).tcpStats)

/-- The stats a Kubernetes or authority query works from: none when the request skips them. -/
def queryStatMetrics (req : StatSummaryRequest) :
    Except GoError (GoMap RKey BasicStats × (RKey → Option TcpStats)) :=
  if req.skipStats then .ok (GoMap.empty, fun _ => none) else getStatMetrics api req

/-- The row `k8sResourceQuery` makes for an object: the request stats of its key (none when they
are all zero), its TCP stats when the request asks for them, and its pods' counts. -/
def k8sRow (req : StatSummaryRequest) (requestMetrics : RKey → Option BasicStats)
    (tcpMetrics : RKey → Option TcpStats) (key : RKey) (objInfo : K8sStat) : Row :=
  { resource := { name := objInfo.object.name, ns := objInfo.object.ns, type := req.selectorType },
    timeWindow := req.timeWindow,
    stats := if requestMetrics key = some {} then none else requestMetrics key,
    tcpStats := if req.tcpStats then tcpMetrics key else none,
    status := objInfo.podStats.status,
    meshedPodCount := objInfo.podStats.inMesh,
    runningPodCount := objInfo.podStats.total,
    failedPodCount := objInfo.podStats.failed,
    errorsByPod := objInfo.podStats.errors }

/-- `k8sResourceQuery`: a row for each result key that names an object. -/
def k8sResourceQuery (req : StatSummaryRequest) : ResourceResult (Option StatTable) :=
  match getKubernetesObjectStats api req with
  | .error err => ⟨none, some err⟩
  | .ok k8sObjects =>
    match queryStatMetrics api req with
    | .error err => ⟨none, some err⟩
    | .ok (requestMetrics, tcpMetrics) =>
      let keys := getResultKeys rangeRKeys req k8sObjects requestMetrics
      ⟨some ⟨keys.filterMap fun key =>
        (k8sObjects.get key).map (k8sRow req requestMetrics.get tcpMetrics key)⟩, none⟩

/-- The label names `buildServerRequestLabels` groups by: the namespace, then the server or server
authorization label (empty for another type). -/
def buildServerRequestLabelNames (req : StatSummaryRequest) : LabelNames :=
  let resourceLabel :=
    if req.selectorType = api.types.server then api.serverLabel
    else if req.selectorType = api.types.serverAuthorization then api.serverAuthorizationLabel
    else []
  ⟨[api.namespaceLabel, resourceLabel], List.cons_ne_nil _ _⟩

/-- `getPolicyMetrics`: the request, TCP and authorization stats of the Prometheus results, by
key. -/
def getPolicyMetrics (req : StatSummaryRequest) : Except GoError PromStats := do
  let groupBy := buildServerRequestLabelNames api req
  let results ← api.policyMetricsResults req
  pure (processPrometheusMetrics api.extractSampleValue req groupBy.names groupBy.ne_nil results)

/-- `getPolicyResourceKeys`: the servers or server authorizations of every namespace, of the
selected namespace, or the one named; each keyed by its namespace, kind in lower case, and name. -/
def getPolicyResourceKeys (req : StatSummaryRequest) : Except GoError (List RKey) := do
  let gvr : PolicyGVR :=
    if req.selectorType = api.types.server then .serverGVR
    else if req.selectorType = api.types.serverAuthorization then .sazGVR
    else .zero
  let res := req.resource
  let labelSelector ← getLabelSelector api req
  let resources ←
    (if res.ns = [] then api.listPolicyResources gvr [] (api.selectorString labelSelector)
    else if res.name = [] then api.listPolicyResources gvr res.ns (api.selectorString labelSelector)
    else (fun ts => [ts]) <$> api.getPolicyResource gvr res.ns res.name)
  pure (resources.map fun resource =>
    { ns := resource.ns, type := resource.kind.map Char.toLower, name := resource.name })

/-- The row `policyResourceQuery` makes for a policy resource: the stats of its key. -/
def policyRow (req : StatSummaryRequest) (stats : PromStats) (key : RKey) : Row :=
  { resource := { name := key.name, ns := key.ns, type := req.selectorType },
    timeWindow := req.timeWindow,
    stats := stats.basicStats key,
    tcpStats := stats.tcpStats key,
    srvStats := stats.authzStats key }

/-- `policyResourceQuery`: a row for each policy resource, in the order they were listed. -/
def policyResourceQuery (req : StatSummaryRequest) : ResourceResult (Option StatTable) :=
  match getPolicyResourceKeys api req with
  | .error err => ⟨none, some err⟩
  | .ok policyResources =>
    match (if req.skipStats then .ok PromStats.empty else getPolicyMetrics api req) with
    | .error err => ⟨none, some err⟩
    | .ok stats => ⟨some ⟨policyResources.map (policyRow req stats)⟩, none⟩

/-- `isNonK8sResourceQuery`. -/
def isNonK8sResourceQuery (resourceType : List Char) : Bool :=
  resourceType = api.authority

/-- The row `nonK8sResourceQuery` makes for a key of the request stats. -/
def nonK8sRow (req : StatSummaryRequest) (rkey : RKey) (metrics : BasicStats) : Row :=
  { resource := { type := req.selectorType, ns := rkey.ns, name := rkey.name },
    timeWindow := req.timeWindow,
    stats := some metrics }

/-- `nonK8sResourceQuery`: a row for each key of the request stats. -/
def nonK8sResourceQuery (req : StatSummaryRequest) : ResourceResult (Option StatTable) :=
  match queryStatMetrics api req with
  | .error err => ⟨none, some err⟩
  | .ok (requestMetrics, _) =>
    ⟨some ⟨(rangeRKeys requestMetrics.keys).filterMap fun rkey =>
      (requestMetrics.get rkey).map (nonK8sRow req rkey)⟩, none⟩

end Queries

/-! ### An example cluster

The `emojivoto` namespace with two deployments, `web` and `voting`, whose pods are not listed, and a
server `web-http`; the `web-svc` service's profile sends traffic to `web-svc-b` with weight `500m`.
Every Prometheus query answers one request sample, of 7 successes, labelled so that it keys to
`web` under any of the groupings. -/

/-- The labels of the one Prometheus sample. -/
def webSample : Sample where
  metric label :=
    if label = "namespace".toList ∨ label = "dst_namespace".toList then "emojivoto".toList
    else if label = "deployment".toList then "web".toList
    else if label = "srv_name".toList then "web-http".toList
    else if label = "authority".toList then "web-svc.emojivoto.svc.cluster.local:80".toList
    else if label = "dst_service".toList then "web-svc-b".toList
    else if label = "classification".toList then success
    else []
  value := 7

/-- The example cluster, its objects read as their metadata and its label selectors as `()`. -/
def emojivotoCluster : MetricsAPI ObjectMeta Unit where
  types := ⟨"all".toList, "service".toList, "server".toList, "serverauthorization".toList,
    ["deployment".toList, "service".toList]⟩
  authority := "authority".toList
  clusterDomain := "cluster.local".toList
  labelsEverything := ()
  labelsParse _ := .ok ()
  selectorString _ := []
  getObjects _ _ _ _ := .ok [⟨"web".toList, "emojivoto".toList⟩, ⟨"voting".toList, "emojivoto".toList⟩]
  accessor := .ok
  getPodsFor _ := .ok ⟨[], by decide⟩
  asPod _ := none
  getPodStatus _ := []
  isMeshed _ := true
  listPolicyResources _ _ _ := .ok [⟨"emojivoto".toList, "Server".toList, "web-http".toList⟩]
  getPolicyResource _ ns name := .ok ⟨ns, "Server".toList, name⟩
  getServiceProfile _ _ :=
    .ok ⟨[⟨"web-svc-b.emojivoto.svc.cluster.local".toList, "500m".toList⟩]⟩
  promGroupByLabelNames resource := ⟨["namespace".toList, resource.type], List.cons_ne_nil _ _⟩
  promDstGroupByLabelNames resource :=
    ⟨["dst_namespace".toList, "dst_".toList ++ resource.type], List.cons_ne_nil _ _⟩
  namespaceLabel := "namespace".toList
  serverLabel := "srv_name".toList
  serverAuthorizationLabel := "saz_name".toList
  statMetricsResults _ := .ok [⟨.promRequests, [webSample]⟩]
  policyMetricsResults _ := .ok [⟨.promRequests, [webSample]⟩]
  serviceMetricsResults _ := .ok [⟨.promRequests, [webSample]⟩]
  extractSampleValue _ := 7

/-- A request for the example namespace's resources of one type, all of them or the one named. -/
def emojivotoRequest (type name : List Char) : StatSummaryRequest :=
  ⟨some ⟨some ⟨"emojivoto".toList, type, name⟩, []⟩, .none, "1m".toList, false, false⟩

/-! ### Kubernetes objects -/

/-- Rows made one per key, each for the resource its key names, are for distinct resources when
the keys are distinct. -/
theorem nodup_resource_filterMap {keys : List RKey} (hkeys : keys.Nodup) (row : RKey → Option Row)
    (hrow : ∀ key, ∀ r ∈ row key, r.resource = ⟨key.ns, key.type, key.name⟩) :
    ((keys.filterMap row).map Row.resource).Nodup := by
  rw [List.map_filterMap]
  refine List.Nodup.filterMap (fun key key' _ hr hr' => ?_) hkeys
  obtain ⟨r₁, hr₁, rfl⟩ := Option.mem_map.mp hr
  obtain ⟨r₂, hr₂, hr₁₂⟩ := Option.mem_map.mp hr'
  have h := (hrow key' r₂ hr₂).symm.trans (hr₁₂.trans (hrow key r₁ hr₁))
  cases key; cases key'; cases h; rfl

section K8sRows

variable {Object Selector : Type} (api : MetricsAPI Object Selector)
  (rangeRKeys : List RKey → List RKey)

/-- Every object is filed under its own name and namespace and the selected type. -/
theorem getKubernetesObjectStats_key (req : StatSummaryRequest)
    {k8sObjects : GoMap RKey K8sStat} (h : getKubernetesObjectStats api req = .ok k8sObjects)
    {key : RKey} {objInfo : K8sStat} (hget : k8sObjects.get key = some objInfo) :
    key = ⟨objInfo.object.ns, req.selectorType, objInfo.object.name⟩ := by
  let P : GoMap RKey K8sStat → Prop := fun m =>
    ∀ key objInfo, m.get key = some objInfo →
      key = ⟨objInfo.object.ns, req.selectorType, objInfo.object.name⟩
  have hstep : ∀ m object m', P m →
      addObjectStats api req.selectorType m object = .ok m' → P m' := by
    intro m object m' hm hadd key objInfo hget
    obtain ⟨metaObj, -, hadd⟩ := bind_eq_ok.mp hadd
    obtain ⟨podStats, -, hadd⟩ := bind_eq_ok.mp hadd
    cases hadd
    rw [GoMap.get_set] at hget
    split_ifs at hget with hkey
    · cases hget; exact hkey
    · exact hm key objInfo hget
  obtain ⟨_, -, h⟩ := bind_eq_ok.mp h
  obtain ⟨_, -, h⟩ := bind_eq_ok.mp h
  exact foldlM_except_inv _ P hstep _ _ _ (fun _ _ h => by simp at h) h key objInfo hget

/-- Under an outbound filter the rows come from the keys with request stats, and only those that
name an object make a row: the same rows as the objects with request stats, in another order. -/
theorem filterMap_perm_of_keys {β : Type} (k8sObjects : GoMap RKey K8sStat)
    (requestMetrics : GoMap RKey BasicStats) (row : RKey → K8sStat → β) :
    (requestMetrics.keys.filterMap fun key => (k8sObjects.get key).map (row key)).Perm
      ((k8sObjects.keys.filter fun key => (requestMetrics.get key).isSome).filterMap
        fun key => (k8sObjects.get key).map (row key)) := by
  have hkeys : (requestMetrics.keys.filter fun key => (k8sObjects.get key).isSome).Perm
      (k8sObjects.keys.filter fun key => (requestMetrics.get key).isSome) :=
    (List.perm_ext_iff_of_nodup (requestMetrics.nodup.filter _) (k8sObjects.nodup.filter _)).mpr
      fun key => by simp [requestMetrics.mem_keys, k8sObjects.mem_keys, and_comm]
  have hdrop : ∀ keys : List RKey, keys.filterMap (fun key => (k8sObjects.get key).map (row key)) =
      (keys.filter fun key => (k8sObjects.get key).isSome).filterMap
        fun key => (k8sObjects.get key).map (row key) := by
    intro keys
    induction keys with
    | nil => rfl
    | cons key keys ih =>
      cases hget : k8sObjects.get key <;> simp [hget, ih]
  rw [hdrop]
  exact hkeys.filterMap _

/-- **The rows of a Kubernetes object query.**  Whatever order the loops visit the maps in, when
the objects and the stats are read without error the query returns one row for each object found
(under an outbound filter, for each that also has request stats) and no other: the rows are, up to
order, the objects' rows, and no two are for the same resource. -/
theorem k8sResourceQuery_rows (hrange : ∀ keys, (rangeRKeys keys).Perm keys)
    (req : StatSummaryRequest) {k8sObjects : GoMap RKey K8sStat}
    (hobjects : getKubernetesObjectStats api req = .ok k8sObjects)
    {requestMetrics : GoMap RKey BasicStats} {tcpMetrics : RKey → Option TcpStats}
    (hmetrics : queryStatMetrics api req = .ok (requestMetrics, tcpMetrics)) :
    ∃ rows, k8sResourceQuery api rangeRKeys req = ⟨some ⟨rows⟩, none⟩ ∧
      rows.Perm ((k8sObjects.keys.filter fun key =>
          req.outbound = .none ∨ (requestMetrics.get key).isSome).filterMap
        fun key => (k8sObjects.get key).map (k8sRow req requestMetrics.get tcpMetrics key)) ∧
      (rows.map Row.resource).Nodup := by
  let row := fun key => (k8sObjects.get key).map (k8sRow req requestMetrics.get tcpMetrics key)
  have hperm : ((getResultKeys rangeRKeys req k8sObjects requestMetrics).filterMap row).Perm
      ((k8sObjects.keys.filter fun key =>
        req.outbound = .none ∨ (requestMetrics.get key).isSome).filterMap row) := by
    by_cases hnone : req.outbound = .none
    · simpa [getResultKeys, hnone] using (hrange k8sObjects.keys).filterMap row
    · simpa [getResultKeys, hnone] using ((hrange requestMetrics.keys).filterMap row).trans
        (filterMap_perm_of_keys k8sObjects requestMetrics (k8sRow req requestMetrics.get tcpMetrics))
  refine ⟨_, by simp only [k8sResourceQuery, hobjects, hmetrics], hperm, ?_⟩
  -- A row's resource is its key, so distinct keys give distinct resources.
  have hresource : ∀ key, ∀ r ∈ row key, r.resource = ⟨key.ns, key.type, key.name⟩ := by
    intro key r hr
    obtain ⟨objInfo, hget, rfl⟩ := Option.mem_map.mp hr
    rw [getKubernetesObjectStats_key api req hobjects hget]
    rfl
  exact (hperm.map Row.resource).nodup_iff.mpr
    (nodup_resource_filterMap (k8sObjects.nodup.filter _) row hresource)

/-- The example cluster's deployments: a row each. -/
theorem k8sResourceQuery_rows_emojivoto :
    ∃ rows, k8sResourceQuery emojivotoCluster id (emojivotoRequest "deployment".toList []) =
        ⟨some ⟨rows⟩, none⟩ ∧ rows.length = 2 ∧ (rows.map Row.resource).Nodup := by
  obtain ⟨rows, hquery, hperm, hnodup⟩ := k8sResourceQuery_rows emojivotoCluster id
    (fun _ => List.Perm.refl _) (emojivotoRequest "deployment".toList []) rfl rfl
  exact ⟨rows, hquery, hperm.length_eq.trans rfl, hnodup⟩

end K8sRows

/-! ### Policy resources and authorities -/

section PolicyRows

variable {Object Selector : Type} (api : MetricsAPI Object Selector)
  (rangeRKeys : List RKey → List RKey)

/-- Every policy key is a listed resource's namespace, kind in lower case, and name. -/
theorem getPolicyResourceKeys_key (req : StatSummaryRequest) {keys : List RKey}
    (h : getPolicyResourceKeys api req = .ok keys) {key : RKey} (hkey : key ∈ keys) :
    ∃ resource : Unstructured, key = ⟨resource.ns, resource.kind.map Char.toLower, resource.name⟩ := by
  obtain ⟨_, -, h⟩ := bind_eq_ok.mp h
  obtain ⟨_, -, h⟩ := bind_eq_ok.mp h
  cases h
  obtain ⟨resource, -, rfl⟩ := List.mem_map.mp hkey
  exact ⟨resource, rfl⟩

/-- A policy row has stats of any kind only when its key is of the selected type: `metricToKey`
gives every stats key the selected type. -/
theorem policyRow_stats_isSome (req : StatSummaryRequest) {stats : PromStats}
    (hstats : (if req.skipStats then .ok PromStats.empty else getPolicyMetrics api req) = .ok stats)
    (key : RKey) (hsome : (policyRow req stats key).stats.isSome ∨
      (policyRow req stats key).tcpStats.isSome ∨ (policyRow req stats key).srvStats.isSome) :
    key.type = req.selectorType := by
  by_contra hne
  split at hstats
  · cases hstats
    simp [policyRow, PromStats.empty] at hsome
  · obtain ⟨results, -, hstats⟩ := bind_eq_ok.mp hstats
    cases hstats
    obtain ⟨h₁, h₂, h₃⟩ := stats_eq_none_of_type_ne api.extractSampleValue req
      (buildServerRequestLabelNames api req).names (buildServerRequestLabelNames api req).ne_nil
      results hne
    simp [policyRow, h₁, h₂, h₃] at hsome

/-- **The rows of a policy query.**  When the resources and the stats are read without error, the
query returns one row per listed resource, in the order listed, with the stats of its key; a row
has stats only when its resource's kind, lowercased, is the selected type. -/
theorem policyResourceQuery_rows (req : StatSummaryRequest) {keys : List RKey}
    (hkeys : getPolicyResourceKeys api req = .ok keys) {stats : PromStats}
    (hstats : (if req.skipStats then .ok PromStats.empty else getPolicyMetrics api req) = .ok stats) :
    policyResourceQuery api req = ⟨some ⟨keys.map (policyRow req stats)⟩, none⟩ ∧
      ∀ key ∈ keys, ((policyRow req stats key).stats.isSome ∨
          (policyRow req stats key).tcpStats.isSome ∨ (policyRow req stats key).srvStats.isSome) →
        ∃ resource : Unstructured,
          key = ⟨resource.ns, resource.kind.map Char.toLower, resource.name⟩ ∧
            resource.kind.map Char.toLower = req.selectorType := by
  refine ⟨by simp only [policyResourceQuery, hkeys, hstats], fun key hkey hsome => ?_⟩
  obtain ⟨resource, rfl⟩ := getPolicyResourceKeys_key api req hkeys hkey
  exact ⟨resource, rfl, policyRow_stats_isSome api req hstats _ hsome⟩

/-- The example cluster's servers: a row for `web-http`. -/
theorem policyResourceQuery_rows_emojivoto :
    ∃ rows, policyResourceQuery emojivotoCluster (emojivotoRequest "server".toList []) =
        ⟨some ⟨rows⟩, none⟩ ∧ rows.map (·.resource.name) = ["web-http".toList] :=
  ⟨_, (policyResourceQuery_rows emojivotoCluster (emojivotoRequest "server".toList []) rfl rfl).1,
    rfl⟩

/-- Every key of the request stats a query works from is of the selected type. -/
theorem queryStatMetrics_type (req : StatSummaryRequest) {requestMetrics : GoMap RKey BasicStats}
    {tcpMetrics : RKey → Option TcpStats}
    (h : queryStatMetrics api req = .ok (requestMetrics, tcpMetrics)) {key : RKey}
    (hkey : key ∈ requestMetrics.keys) : key.type = req.selectorType := by
  unfold queryStatMetrics at h
  split at h
  · cases h; cases hkey
  · obtain ⟨_, -, h⟩ := bind_eq_ok.mp h
    cases h
    exact type_of_mem_statsKeys req _ _ _ _ hkey

/-- **The rows of an authority query.**  Whatever order the loop visits the request stats in, the
query returns one row for each key of the request stats, with its stats, and no two rows are for
the same resource. -/
theorem nonK8sResourceQuery_rows (hrange : ∀ keys, (rangeRKeys keys).Perm keys)
    (req : StatSummaryRequest) {requestMetrics : GoMap RKey BasicStats}
    {tcpMetrics : RKey → Option TcpStats}
    (hmetrics : queryStatMetrics api req = .ok (requestMetrics, tcpMetrics)) :
    ∃ rows, nonK8sResourceQuery api rangeRKeys req = ⟨some ⟨rows⟩, none⟩ ∧
      rows.Perm (requestMetrics.keys.filterMap fun rkey =>
        (requestMetrics.get rkey).map (nonK8sRow req rkey)) ∧
      (rows.map Row.resource).Nodup := by
  have hperm := (hrange requestMetrics.keys).filterMap fun rkey =>
    (requestMetrics.get rkey).map (nonK8sRow req rkey)
  refine ⟨_, by simp only [nonK8sResourceQuery, hmetrics], hperm, ?_⟩
  -- A row's resource is its key, which is of the selected type.
  have hresource : ∀ key, ∀ r ∈ (requestMetrics.get key).map (nonK8sRow req key),
      r.resource = ⟨key.ns, key.type, key.name⟩ := by
    intro key r hr
    obtain ⟨metrics, hget, rfl⟩ := Option.mem_map.mp hr
    rw [queryStatMetrics_type api req hmetrics (requestMetrics.mem_keys_iff.mpr ⟨metrics, hget⟩)]
    rfl
  exact (hperm.map Row.resource).nodup_iff.mpr
    (nodup_resource_filterMap requestMetrics.nodup _ hresource)

/-- The example cluster's authorities: a row for the one the sample names. -/
theorem nonK8sResourceQuery_rows_emojivoto :
    ∃ rows, nonK8sResourceQuery emojivotoCluster id (emojivotoRequest "authority".toList []) =
        ⟨some ⟨rows⟩, none⟩ ∧ rows.length = 1 := by
  obtain ⟨rows, hquery, hperm, -⟩ := nonK8sResourceQuery_rows emojivotoCluster id
    (fun _ => List.Perm.refl _) (emojivotoRequest "authority".toList []) rfl
  exact ⟨rows, hquery, hperm.length_eq.trans rfl⟩

end PolicyRows

end Viz
end Linkerd
