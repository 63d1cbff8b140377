import Linkerd.Go.Loop
import Linkerd.K8s.Core
import Linkerd.Viz.Api

/-!
# Pod counts: `getPodStats` and `checkContainerErrors`

For every Kubernetes object a stat table row stands for, `getPodStats` walks the pods
`GetPodsFor` returns once: a pod in phase `Failed` is counted as failed, any other pod as
running and, if it is meshed, as meshed; and a pod whose containers or init containers report
errors gets an entry under its name in the errors map.  `checkContainerErrors` reports, for each
container that is not ready, its waiting state, its terminated state if it exited with an error,
and its last state.

The counters are `uint64`s, and a Go slice is shorter than `2^63`, so no counter wraps around:
`getPodStats_counts` gives every count exactly, by the loop lemmas of `Linkerd.Go.Loop`, and
`checkContainerErrors_eq_nil_iff` says which container statuses report nothing.
-/

namespace Linkerd
namespace Viz

open Go K8s

/-- `toPodError`. -/
def toPodError (container image reason message : List Char) : PodError :=
  { message := message, container := container, image := image, reason := reason }

/-- The body of the loop of `checkContainerErrors`: the errors of one container status, appended
to those found so far. -/
def appendContainerErrors (errors : List PodError) (st : ContainerStatus) : List PodError :=
  if !st.ready then
    let errors := match st.state.waiting with
      | some w => errors ++ [toPodError st.name st.image w.reason w.message]
      | none => errors
    let errors := match st.state.terminated with
      | some t =>
        if t.exitCode ≠ 0 ∨ t.signal ≠ 0 then
          errors ++ [toPodError st.name st.image t.reason t.message]
        else errors
      | none => errors
    let errors := match st.lastTerminationState.waiting with
      | some w => errors ++ [toPodError st.name st.image w.reason w.message]
      | none => errors
    match st.lastTerminationState.terminated with
      | some t => errors ++ [toPodError st.name st.image t.reason t.message]
      | none => errors
  else errors

/-- `checkContainerErrors`. -/
def checkContainerErrors (containerStatuses : List ContainerStatus) : List PodError :=
  containerStatuses.foldl appendContainerErrors []

/-- A container status reports an error: it is not ready, and it is waiting, has terminated with
a non-zero exit code or signal, or has a last state. -/
def ReportsError (st : ContainerStatus) : Prop :=
  st.ready = false ∧ (st.state.waiting ≠ none ∨
    (∃ t, st.state.terminated = some t ∧ (t.exitCode ≠ 0 ∨ t.signal ≠ 0)) ∨
    st.lastTerminationState.waiting ≠ none ∨ st.lastTerminationState.terminated ≠ none)

/-- The body appends to the errors found before those of the one status: when it is not ready, its
waiting state, its terminated state if it exited with an error, and its last waiting and
terminated states, each when set. -/
theorem appendContainerErrors_eq_append (errors : List PodError) (st : ContainerStatus) :
    appendContainerErrors errors st = errors ++ if st.ready then [] else
      (st.state.waiting.map fun w => toPodError st.name st.image w.reason w.message).toList ++
      ((st.state.terminated.filter fun t => t.exitCode ≠ 0 ∨ t.signal ≠ 0).map
        fun t => toPodError st.name st.image t.reason t.message).toList ++
      (st.lastTerminationState.waiting.map
        fun w => toPodError st.name st.image w.reason w.message).toList ++
      (st.lastTerminationState.terminated.map
        fun t => toPodError st.name st.image t.reason t.message).toList := by
  rcases st with ⟨name, image, ready, ⟨w, t⟩, ⟨lw, lt⟩⟩
  cases ready
  · rcases w with _ | w <;> rcases t with _ | t <;> rcases lw with _ | lw <;>
      rcases lt with _ | lt <;> simp [appendContainerErrors, Option.filter] <;> split_ifs <;> simp
  · simp [appendContainerErrors]

/-- The body appends the errors of the one status to those found before, whatever they were. -/
theorem appendContainerErrors_eq (errors : List PodError) (st : ContainerStatus) :
    appendContainerErrors errors st = errors ++ appendContainerErrors [] st := by
  rw [appendContainerErrors_eq_append, appendContainerErrors_eq_append []]
  rfl

/-- `checkContainerErrors` lists the errors of each status in turn. -/
theorem checkContainerErrors_eq_flatMap (containerStatuses : List ContainerStatus) :
    checkContainerErrors containerStatuses =
      containerStatuses.flatMap (appendContainerErrors []) := by
  suffices ∀ errors, containerStatuses.foldl appendContainerErrors errors =
      errors ++ containerStatuses.flatMap (appendContainerErrors []) from this []
  induction containerStatuses with
  | nil => simp
  | cons st sts ih => intro errors; rw [List.foldl_cons, ih, appendContainerErrors_eq]; simp

/-- The list of a value that may be unset is empty exactly when the value is unset. -/
theorem toList_eq_nil_iff {α : Type} (o : Option α) : o.toList = [] ↔ o = none := by
  cases o <;> simp

theorem appendContainerErrors_nil_eq_nil_iff (st : ContainerStatus) :
    appendContainerErrors [] st = [] ↔ ¬ReportsError st := by
  rw [appendContainerErrors_eq_append]
  rcases st with ⟨name, image, ready, ⟨w, t⟩, ⟨lw, lt⟩⟩
  cases ready
  · cases t <;> simp [ReportsError, Option.filter, toList_eq_nil_iff]
  · simp [ReportsError]

/-- No container status of the list reports an error exactly when `checkContainerErrors` finds
none. -/
theorem checkContainerErrors_eq_nil_iff (containerStatuses : List ContainerStatus) :
    checkContainerErrors containerStatuses = [] ↔ ∀ st ∈ containerStatuses, ¬ReportsError st := by
  simp [checkContainerErrors_eq_flatMap, ← appendContainerErrors_nil_eq_nil_iff]

/-- `podStats`: the pod counts of an object, and the container errors of its pods by pod name. -/
structure PodStats where
  status : List Char
  inMesh : UInt64
  total : UInt64
  failed : UInt64
  errors : List Char → Option (List PodError)

section GetPodStats

variable {Object : Type}
  -- `s.k8sAPI.GetPodsFor(obj, true)`: the pods of an object, read from the informer caches.
  (getPodsFor : Object → Except GoError (GoSlice Pod))
  -- `obj.(*corev1.Pod)`: the object as a pod, when it is one.
  (asPod : Object → Option Pod)
  -- `k8s.GetPodStatus(pod)` and `k8s.IsMeshed(pod, s.controllerNamespace)`.
  (getPodStatus : Pod → List Char) (isMeshed : Pod → Bool)

/-- The body of the pod loop of `getPodStats`. -/
def countPod (meshCount : PodStats) (pod : Pod) : PodStats :=
  let meshCount := if pod.phase = .failed then { meshCount with failed := meshCount.failed + 1 }
    else { meshCount with
      total := meshCount.total + 1,
      inMesh := if isMeshed pod then meshCount.inMesh + 1 else meshCount.inMesh }
  let errors := checkContainerErrors pod.containerStatuses ++
    checkContainerErrors pod.initContainerStatuses
  if 0 < errors.length then { meshCount with errors := mapSet meshCount.errors pod.name errors }
  else meshCount

/-- `getPodStats`: the pods of the object counted, starting from the object's own status when it is
a pod. -/
def getPodStats (obj : Object) : Except GoError PodStats :=
  match getPodsFor obj with
  | .error err => .error err
  | .ok pods =>
    let meshCount : PodStats :=
      { status := ((asPod obj).map getPodStatus).getD [], inMesh := 0, total := 0, failed := 0,
        errors := fun _ => none }
    .ok (pods.toList.foldl (countPod isMeshed) meshCount)

@[simp] theorem countPod_failed (meshCount : PodStats) (pod : Pod) :
    (countPod isMeshed meshCount pod).failed =
      if pod.phase = .failed then meshCount.failed + 1 else meshCount.failed := by
  simp only [countPod, apply_ite PodStats.failed]
  split_ifs <;> rfl

@[simp] theorem countPod_total (meshCount : PodStats) (pod : Pod) :
    (countPod isMeshed meshCount pod).total =
      if pod.phase ≠ .failed then meshCount.total + 1 else meshCount.total := by
  simp only [countPod, apply_ite PodStats.total]
  by_cases hp : pod.phase = .failed <;> simp [hp]

@[simp] theorem countPod_inMesh (meshCount : PodStats) (pod : Pod) :
    (countPod isMeshed meshCount pod).inMesh =
      if pod.phase ≠ .failed ∧ isMeshed pod then meshCount.inMesh + 1 else meshCount.inMesh := by
  simp only [countPod, apply_ite PodStats.inMesh]
  by_cases hp : pod.phase = .failed <;> simp [hp]

@[simp] theorem countPod_errors (meshCount : PodStats) (pod : Pod) (name : List Char) :
    (countPod isMeshed meshCount pod).errors name =
      let errors := checkContainerErrors pod.containerStatuses ++
        checkContainerErrors pod.initContainerStatuses
      if pod.name = name ∧ errors ≠ [] then some errors else meshCount.errors name := by
  simp only [countPod, apply_ite PodStats.errors, ite_self, List.length_pos, ne_eq]
  by_cases hn : pod.name = name
  · subst hn; split_ifs <;> simp_all [mapSet]
  · simp only [hn, false_and, if_false]
    split_ifs <;> simp [mapSet, Ne.symm hn]

/-- In a list of pods with distinct names, the pods of one pod's name that satisfy `q` are that
pod if it does, and none otherwise. -/
theorem filter_name_and_eq {pods : List Pod} (hnames : (pods.map Pod.name).Nodup) {pod : Pod}
    (hpod : pod ∈ pods) (q : Pod → Prop) [DecidablePred q] :
    pods.filter (fun p => p.name = pod.name ∧ q p) = if q pod then [pod] else [] := by
  induction pods with
  | nil => cases hpod
  | cons p ps ih =>
    rw [List.map_cons, List.nodup_cons] at hnames
    rcases List.mem_cons.mp hpod with rfl | hmem
    · have hrest : ps.filter (fun p' => p'.name = pod.name ∧ q p') = [] :=
        List.filter_eq_nil_iff.mpr fun p' hp' h =>
          hnames.1 (List.mem_map.mpr ⟨p', hp', (of_decide_eq_true h).1⟩)
      rw [List.filter_cons, hrest]
      by_cases hq : q pod <;> simp [hq]
    · have hne : p.name ≠ pod.name := fun he => hnames.1 (he ▸ List.mem_map_of_mem _ hmem)
      rw [List.filter_cons_of_neg (by simp [hne]), ih hnames.2 hmem]

/-- `getPodStats` counts exactly: the failed pods, the others, and the meshed ones among those;
and when the pods have distinct names, the errors map holds, under the name of each pod whose
containers or init containers report errors, those errors (the containers' first), and nothing
else. -/
theorem getPodStats_counts (obj : Object) (pods : GoSlice Pod) (hpods : getPodsFor obj = .ok pods)
    (hnames : (pods.toList.map Pod.name).Nodup) :
    ∃ stats, getPodStats getPodsFor asPod getPodStatus isMeshed obj = .ok stats ∧
      stats.failed.toNat = pods.toList.countP (·.phase = .failed) ∧
      stats.total.toNat = pods.toList.countP (·.phase ≠ .failed) ∧
      stats.inMesh.toNat = pods.toList.countP (fun pod => pod.phase ≠ .failed ∧ isMeshed pod) ∧
      stats.inMesh ≤ stats.total ∧
      stats.failed.toNat + stats.total.toNat = pods.toList.length ∧
      (∀ pod ∈ pods.toList,
        let errors := checkContainerErrors pod.containerStatuses ++
          checkContainerErrors pod.initContainerStatuses
        stats.errors pod.name = if errors = [] then none else some errors) ∧
      ∀ name, name ∉ pods.toList.map Pod.name → stats.errors name = none := by
  obtain ⟨init, hinit, hfailed, htotal, hinMesh, herrors⟩ : ∃ init,
      getPodStats getPodsFor asPod getPodStatus isMeshed obj =
        .ok (pods.toList.foldl (countPod isMeshed) init) ∧
      init.failed = 0 ∧ init.total = 0 ∧ init.inMesh = 0 ∧ init.errors = fun _ => none :=
    ⟨⟨((asPod obj).map getPodStatus).getD [], 0, 0, 0, fun _ => none⟩,
      by simp only [getPodStats, hpods], rfl, rfl, rfl, rfl⟩
  refine ⟨_, hinit, ?_⟩
  have hlen : pods.toList.length < 2 ^ 64 := pods.length_lt.trans (by decide)
  have failed := foldl_count (countPod isMeshed) PodStats.failed (fun pod => pod.phase = .failed)
    (by simp) pods.toList init (by simpa [hfailed] using hlen)
  have total := foldl_count (countPod isMeshed) PodStats.total (fun pod => pod.phase ≠ .failed)
    (by simp) pods.toList init (by simpa [htotal] using hlen)
  have inMesh := foldl_count (countPod isMeshed) PodStats.inMesh
    (fun pod => pod.phase ≠ .failed ∧ isMeshed pod) (by simp) pods.toList init
    (by simpa [hinMesh] using hlen)
  simp only [hfailed, htotal, hinMesh, UInt64.toNat_zero, zero_add] at failed total inMesh
  have errorsOf := fun name => foldl_set (countPod isMeshed) (·.errors name)
    (fun pod => pod.name = name ∧ checkContainerErrors pod.containerStatuses ++
      checkContainerErrors pod.initContainerStatuses ≠ [])
    (fun pod => some (checkContainerErrors pod.containerStatuses ++
      checkContainerErrors pod.initContainerStatuses))
    (fun st pod => by simp only [countPod_errors, decide_eq_true_eq])
    pods.toList init
  simp only [herrors] at errorsOf
  refine ⟨failed, total, inMesh, ?_, ?_, ?_, ?_⟩
  · rw [UInt64.le_def, BitVec.le_def]
    exact (inMesh.trans_le (List.countP_mono_left fun pod _ h => by simp_all)).trans_eq total.symm
  · rw [failed, total, List.length_eq_countP_add_countP (fun pod : Pod => pod.phase = .failed)]
    simp
  · intro pod hpod
    rw [errorsOf, filter_name_and_eq hnames hpod]
    split_ifs <;> simp_all
  · intro name hname
    rw [errorsOf, List.filter_eq_nil_iff.mpr]
    · rfl
    · intro pod hpod h
      exact hname (List.mem_map.mpr ⟨pod, hpod, by simpa using (of_decide_eq_true h).1⟩)

end GetPodStats

/-- Two pods, one failed and one running in the mesh, with no container errors. -/
theorem getPodStats_counts_twoPods :
    let pods : GoSlice Pod := ⟨[{ name := "web-0".toList, phase := .failed },
      { name := "web-1".toList, phase := .running }], by decide⟩
    (pods.toList.map Pod.name).Nodup ∧
      ∃ stats, getPodStats (fun _ : Unit => .ok pods) (fun _ => none) (fun _ => []) (fun _ => true)
          () = .ok stats ∧
        stats.failed.toNat = 1 ∧ stats.total.toNat = 1 ∧ stats.inMesh.toNat = 1 := by
  intro pods
  obtain ⟨stats, hok, hfailed, htotal, hinMesh, -⟩ := getPodStats_counts (fun _ : Unit => .ok pods)
    (fun _ => none) (fun _ => []) (fun _ => true) () pods rfl (by decide)
  exact ⟨by decide, stats, hok, hfailed.trans (by decide), htotal.trans (by decide),
    hinMesh.trans (by decide)⟩

end Viz
end Linkerd
