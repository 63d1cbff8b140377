import Linkerd.K8s.Core
import Linkerd.Destination.Authority

/-!
# IP lookups: `getSvcID`, `getIndexedPods` and `getPodByIP`

`GetProfile` resolves a literal IP through the informers' indices: the service whose cluster IP it
is (`getSvcID`), or else the pod behind it, first on the host network under `ip:port` and then on
the pod network under `ip` (`getPodByIP`).  Pods that are terminating or terminated are dropped
when read (`getIndexedPods`, `podReceivingTraffic`).  Each lookup decides on one index's
candidates the same way, `pickUnique`: the only candidate, a `FailedPrecondition` naming how many
there are, or, with none, what comes next.

* `getPodByIP_eq_of_sameBuckets`, `getSvcID_eq_of_sameBuckets` — the results, errors included, do
  not depend on the order in which an index returns its objects;
* `podReceivingTraffic_of_getPodByIP` — a pod found is neither terminating nor terminated;
* `ipResolution_unique` — the whole decision, as the spec states it.
-/

namespace Linkerd
namespace Destination

open Go K8s

/-- How the IP lookups decide on one index's candidates: the only one is the answer (as `found`
reports it), two or more are a conflict (`conflict` of their number), and none lead to `next`. -/
def pickUnique {α β : Type} (conflict : Nat → GoError) (found : α → β) (candidates : List α)
    (next : Except GoError (Option β)) : Except GoError (Option β) :=
  match candidates with
  | [] => next
  | [a] => .ok (some (found a))
  | _ :: _ :: _ => .error (conflict candidates.length)

/-- `podReceivingTraffic`: neither terminated (phase `Succeeded` or `Failed`) nor terminating
(a deletion timestamp is set). -/
def podReceivingTraffic (pod : Pod) : Bool :=
  let podTerminated := pod.phase == .succeeded || pod.phase == .failed
  let podTerminating := pod.deletionTimestamp.isSome
  !podTerminating && !podTerminated

section Lookups

-- The names of the indices the watcher package registers on the informers,
-- `watcher.PodIPIndex` and `watcher.HostIPIndex`.
variable (podIPIndex hostIPIndex : List Char)

/-- `getIndexedPods`: the pods filed under `podIP` in the named index that receive traffic. -/
def getIndexedPods (pods : Indexer Pod) (indexName podIP : List Char) :
    Except GoError (List Pod) :=
  match pods.byIndex indexName podIP with
  | .error err =>
    .error (.plain ("failed getting ".toList ++ indexName ++ " indexed pods: ".toList ++ err.text))
  | .ok objs => .ok (objs.filter podReceivingTraffic)

/-- `getSvcID`: the service whose cluster IP is `clusterIP`, if there is exactly one. -/
def getSvcID (services : Indexer Service) (clusterIP : List Char) :
    Except GoError (Option ServiceID) :=
  match services.byIndex podIPIndex clusterIP with
  | .error err => .error (.status .unknown err.text)
  | .ok services =>
    pickUnique
      (fun n => .status .failedPrecondition ("found ".toList ++ itoa n ++
        " services with conflicting cluster IP ".toList ++ clusterIP))
      (fun service => { ns := service.ns, name := service.name }) services (.ok none)

/-- `getPodByIP`: the pod behind `podIP:port` on the host network, or else behind `podIP` on the
pod network, if there is exactly one on the first network that has any. -/
def getPodByIP (pods : Indexer Pod) (podIP : List Char) (port : Port) :
    Except GoError (Option Pod) :=
  let addr := podIP ++ ':' :: itoa port.toNat
  match getIndexedPods pods hostIPIndex addr with
  | .error err => .error (.status .unknown err.text)
  | .ok hostIPPods =>
    pickUnique
      (fun n => .status .failedPrecondition ("found ".toList ++ itoa n ++
        " pods with a conflicting host network endpoint ".toList ++ addr))
      id hostIPPods
      (match getIndexedPods pods podIPIndex podIP with
        | .error err => .error (.status .unknown err.text)
        | .ok podIPPods =>
          pickUnique
            (fun n => .status .failedPrecondition ("found ".toList ++ itoa n ++
              " pods with a conflicting pod network IP ".toList ++ podIP))
            id podIPPods (.ok none))

end Lookups

/-! ### Deciding on candidates -/

section PickUnique

variable {α β : Type} {conflict : Nat → GoError} {found : α → β}
  {next : Except GoError (Option β)}

@[simp] theorem pickUnique_nil : pickUnique conflict found [] next = next := rfl

@[simp] theorem pickUnique_singleton (a : α) :
    pickUnique conflict found [a] next = .ok (some (found a)) := rfl

theorem pickUnique_of_one_lt {candidates : List α} (h : 1 < candidates.length) :
    pickUnique conflict found candidates next = .error (conflict candidates.length) := by
  match candidates, h with
  | _ :: _ :: _, _ => rfl

/-- The decision sees only the candidates, not their order. -/
theorem pickUnique_perm {l l' : List α} (h : l.Perm l') :
    pickUnique conflict found l next = pickUnique conflict found l' next := by
  match l, l', h with
  | [], l', h => rw [List.Perm.nil_eq h]
  | [a], l', h => rw [List.perm_singleton.mp h.symm]
  | a :: b :: t, l', h =>
    rw [pickUnique_of_one_lt (by simp), pickUnique_of_one_lt (by simp [← h.length_eq]),
      h.length_eq]

/-- An answer is one of the candidates. -/
theorem mem_of_pickUnique {candidates : List α} {b : β}
    (h : pickUnique conflict found candidates next = .ok (some b)) :
    (∃ a ∈ candidates, found a = b) ∨ next = .ok (some b) := by
  match candidates, h with
  | [], h => exact .inr h
  | [a], h => exact .inl ⟨a, .head _, by simpa using h⟩

end PickUnique

/-! ### Order independence -/

variable {podIPIndex hostIPIndex : List Char}

theorem getIndexedPods_sameResult {a b : Indexer Pod} (h : a.SameBuckets b)
    (indexName key : List Char) :
    (∃ e, getIndexedPods a indexName key = .error e ∧ getIndexedPods b indexName key = .error e) ∨
      ∃ l l', getIndexedPods a indexName key = .ok l ∧ getIndexedPods b indexName key = .ok l' ∧
        l.Perm l' := by
  rcases h indexName key with ⟨e, ha, hb⟩ | ⟨l, l', ha, hb, hl⟩
  · left; simp only [getIndexedPods, ha, hb]; exact ⟨_, rfl, rfl⟩
  · right; simp only [getIndexedPods, ha, hb]; exact ⟨_, _, rfl, rfl, hl.filter _⟩

/-- **`getSvcID` does not depend on the order of the index's services.** -/
theorem getSvcID_eq_of_sameBuckets {a b : Indexer Service} (h : a.SameBuckets b)
    (clusterIP : List Char) : getSvcID podIPIndex a clusterIP = getSvcID podIPIndex b clusterIP := by
  unfold getSvcID
  rcases h podIPIndex clusterIP with ⟨e, ha, hb⟩ | ⟨l, l', ha, hb, hl⟩
  · rw [ha, hb]
  · rw [ha, hb]
    exact pickUnique_perm hl

/-- **`getPodByIP` does not depend on the order of the indices' pods**, errors included. -/
theorem getPodByIP_eq_of_sameBuckets {a b : Indexer Pod} (h : a.SameBuckets b)
    (podIP : List Char) (port : Port) :
    getPodByIP podIPIndex hostIPIndex a podIP port =
      getPodByIP podIPIndex hostIPIndex b podIP port := by
  unfold getPodByIP
  have hpod := getIndexedPods_sameResult h podIPIndex podIP
  rcases getIndexedPods_sameResult h hostIPIndex (podIP ++ ':' :: itoa port.toNat) with
    ⟨e, ha, hb⟩ | ⟨l, l', ha, hb, hl⟩
  · simp only [ha, hb]
  · simp only [ha, hb]
    rw [pickUnique_perm hl]
    rcases hpod with ⟨e, ha', hb'⟩ | ⟨m, m', ha', hb', hm⟩
    · simp only [ha', hb']
    · simp only [ha', hb', pickUnique_perm hm]

/-! ### What a lookup returns -/

theorem podReceivingTraffic_iff (pod : Pod) :
    podReceivingTraffic pod = true ↔
      pod.phase ≠ .succeeded ∧ pod.phase ≠ .failed ∧ pod.deletionTimestamp = none := by
  rcases pod with ⟨_, _, _, _, _ | _, _, phase, _, _, _⟩ <;> cases phase <;>
    simp [podReceivingTraffic]

theorem receiving_of_getIndexedPods {pods : Indexer Pod} {indexName key : List Char}
    {l : List Pod} (h : getIndexedPods pods indexName key = .ok l) :
    ∀ pod ∈ l, podReceivingTraffic pod = true := by
  unfold getIndexedPods at h
  split at h
  · cases h
  · cases h
    exact fun pod hpod => (List.mem_filter.mp hpod).2

/-- **A pod `getPodByIP` finds is neither terminating nor terminated**, in every indexer state. -/
theorem podReceivingTraffic_of_getPodByIP {pods : Indexer Pod} {podIP : List Char} {port : Port}
    {pod : Pod} (h : getPodByIP podIPIndex hostIPIndex pods podIP port = .ok (some pod)) :
    podReceivingTraffic pod = true := by
  cases hhost : getIndexedPods pods hostIPIndex (podIP ++ ':' :: itoa port.toNat) with
  | error e => simp [getPodByIP, hhost] at h
  | ok hostIPPods =>
    simp only [getPodByIP, hhost] at h
    rcases mem_of_pickUnique h with ⟨p, hp, rfl⟩ | h
    · exact receiving_of_getIndexedPods hhost p hp
    cases hpods : getIndexedPods pods podIPIndex podIP with
    | error e => simp [hpods] at h
    | ok podIPPods =>
      simp only [hpods] at h
      rcases mem_of_pickUnique h with ⟨p, hp, rfl⟩ | h
      · exact receiving_of_getIndexedPods hpods p hp
      · cases h

/-- The services `getSvcID` decides on are the index's bucket for the cluster IP. -/
theorem getSvcID_of_byIndex {services : Indexer Service} {clusterIP : List Char}
    {svcs : List Service} (h : services.byIndex podIPIndex clusterIP = .ok svcs) :
    ∃ conflict : Nat → GoError, (∀ n, ∃ msg, conflict n = .status .failedPrecondition msg) ∧
      getSvcID podIPIndex services clusterIP =
        pickUnique conflict (fun service => { ns := service.ns, name := service.name }) svcs
          (.ok none) :=
  ⟨_, fun _ => ⟨_, rfl⟩, by simp only [getSvcID, h]; rfl⟩

/-- The pods `getPodByIP` decides on first are the host-network bucket for `ip:port`, filtered;
with none, it decides on the pod-network bucket for `ip`, filtered. -/
theorem getPodByIP_of_byIndex {pods : Indexer Pod} {podIP : List Char} {port : Port}
    {hs : List Pod}
    (hH : pods.byIndex hostIPIndex (podIP ++ ':' :: itoa port.toNat) = .ok hs) :
    ∃ (conflict : Nat → GoError) (next : Except GoError (Option Pod)),
      (∀ n, ∃ msg, conflict n = .status .failedPrecondition msg) ∧
      getPodByIP podIPIndex hostIPIndex pods podIP port =
        pickUnique conflict id (hs.filter podReceivingTraffic) next ∧
      ∀ ps, pods.byIndex podIPIndex podIP = .ok ps →
        ∃ conflict' : Nat → GoError, (∀ n, ∃ msg, conflict' n = .status .failedPrecondition msg) ∧
          next = pickUnique conflict' id (ps.filter podReceivingTraffic) (.ok none) :=
  ⟨_, _, fun _ => ⟨_, rfl⟩, by simp only [getPodByIP, getIndexedPods, hH]; rfl,
    fun ps hP => ⟨_, fun _ => ⟨_, rfl⟩, by simp only [getIndexedPods, hP]; rfl⟩⟩

/-- The three outcomes of deciding on a bucket with `FailedPrecondition` conflicts. -/
theorem pickUnique_cases {α β : Type} {conflict : Nat → GoError} {found : α → β}
    {next : Except GoError (Option β)} (hc : ∀ n, ∃ msg, conflict n = .status .failedPrecondition msg)
    (l : List α) :
    (∀ a, l = [a] → pickUnique conflict found l next = .ok (some (found a))) ∧
      (1 < l.length →
        ∃ msg, pickUnique conflict found l next = .error (.status .failedPrecondition msg)) ∧
      (l = [] → pickUnique conflict found l next = next) := by
  refine ⟨fun a ha => by rw [ha]; rfl, fun h => ?_, fun h => by rw [h]; rfl⟩
  obtain ⟨msg, hmsg⟩ := hc l.length
  exact ⟨msg, by rw [pickUnique_of_one_lt h, hmsg]⟩

/-- **IP resolution never picks arbitrarily.**  With `H` the host-network pods filed under
`ip:port` and `P` the pod-network pods filed under `ip`, both without terminating or terminated
pods: `getPodByIP` returns the pod of `H` when `H` has one, fails with `FailedPrecondition` when it
has more, and otherwise does the same with `P`, returning no pod when `P` is empty too.  `getSvcID`
returns the service filed under the cluster IP when there is one, fails with `FailedPrecondition`
when there are more, and returns none when there are none.  Both results, errors included, stay
the same whatever order the indices return their objects in, and a pod returned is neither
terminating nor terminated. -/
theorem ipResolution_unique (pods : Indexer Pod) (services : Indexer Service) (ip : List Char)
    (port : Port) :
    (∀ hs, pods.byIndex hostIPIndex (ip ++ ':' :: itoa port.toNat) = .ok hs →
      let H := hs.filter podReceivingTraffic
      (∀ pod, H = [pod] → getPodByIP podIPIndex hostIPIndex pods ip port = .ok (some pod)) ∧
      (1 < H.length → ∃ msg,
        getPodByIP podIPIndex hostIPIndex pods ip port = .error (.status .failedPrecondition msg)) ∧
      (H = [] → ∀ ps, pods.byIndex podIPIndex ip = .ok ps →
        let P := ps.filter podReceivingTraffic
        (∀ pod, P = [pod] → getPodByIP podIPIndex hostIPIndex pods ip port = .ok (some pod)) ∧
        (1 < P.length → ∃ msg, getPodByIP podIPIndex hostIPIndex pods ip port =
          .error (.status .failedPrecondition msg)) ∧
        (P = [] → getPodByIP podIPIndex hostIPIndex pods ip port = .ok none))) ∧
    (∀ svcs, services.byIndex podIPIndex ip = .ok svcs →
      (∀ svc, svcs = [svc] →
        getSvcID podIPIndex services ip = .ok (some { ns := svc.ns, name := svc.name })) ∧
      (1 < svcs.length →
        ∃ msg, getSvcID podIPIndex services ip = .error (.status .failedPrecondition msg)) ∧
      (svcs = [] → getSvcID podIPIndex services ip = .ok none)) ∧
    (∀ (pods' : Indexer Pod) (services' : Indexer Service), pods.SameBuckets pods' →
      services.SameBuckets services' →
      getPodByIP podIPIndex hostIPIndex pods' ip port =
          getPodByIP podIPIndex hostIPIndex pods ip port ∧
        getSvcID podIPIndex services' ip = getSvcID podIPIndex services ip) ∧
    (∀ pod, getPodByIP podIPIndex hostIPIndex pods ip port = .ok (some pod) →
      pod.phase ≠ .succeeded ∧ pod.phase ≠ .failed ∧ pod.deletionTimestamp = none) := by
  refine ⟨fun hs hH => ?_, fun svcs hS => ?_, fun pods' services' hp hs =>
    ⟨(getPodByIP_eq_of_sameBuckets hp ip port).symm, (getSvcID_eq_of_sameBuckets hs ip).symm⟩,
    fun pod h => (podReceivingTraffic_iff pod).mp (podReceivingTraffic_of_getPodByIP h)⟩
  · obtain ⟨conflict, next, hc, heq, hnext⟩ := getPodByIP_of_byIndex hH
    obtain ⟨h1, h2, h3⟩ := @pickUnique_cases _ _ _ id next hc
      (hs.filter podReceivingTraffic)
    refine ⟨fun pod hpod => heq ▸ h1 pod hpod, fun h => heq ▸ h2 h, fun hnil ps hP => ?_⟩
    obtain ⟨conflict', hc', hn⟩ := hnext ps hP
    obtain ⟨g1, g2, g3⟩ := @pickUnique_cases _ _ _ id (.ok none) hc'
      (ps.filter podReceivingTraffic)
    rw [heq, h3 hnil, hn]
    exact ⟨g1, g2, g3⟩
  · obtain ⟨conflict, hc, heq⟩ := getSvcID_of_byIndex hS
    rw [heq]
    exact pickUnique_cases hc svcs

end Destination
end Linkerd
