import Linkerd.Destination.Server

/-!
# What a request for a service subscribes to

A proxy asks for a service by its name, `name.namespace.svc.<cluster domain>` with a port, or, for
`GetProfile`, by a cluster IP the service owns.  This module says which watcher keys the handlers
then subscribe to, with the parsing and the dispatch in front of the subscriptions worked out:

* `exec_subscribeOrReturn` — one `Subscribe` that returns on refusal, from any frame;
* `get_service` — `Get` on a service's name subscribes the endpoint translator to the service's
  endpoints at the port, and returns `nil` exactly when that registration succeeds, having removed
  it;
* `getProfileForService_eq` — the end of `GetProfile` for a service's own name is
  `serviceProfileSubscriptions`: the opaque-ports adaptor on the service, the primary listener on
  the profile in the context token's namespace, the secondary on the service's profile, so the
  `invalid profile ID` returns are never taken;
* `getProfile_service`, `getProfile_serviceIP` — `GetProfile` by the service's name, and by a
  cluster IP that the service owns, comes down to those subscriptions.
-/

namespace Linkerd
namespace Destination

open Go K8s

section Subscriptions

variable (subscribeResult : Nat → Registration → Option GoError)

/-- A `Subscribe` that returns on refusal records the call and counts it; when the watcher
registered the listener its `Unsubscribe` is deferred, otherwise the handler returns the error. -/
theorem exec_subscribeOrReturn (r : Registration) (handle : GoError → GoError) (frame : Frame) :
    (subscribeOrReturn subscribeResult r handle).exec frame =
      match subscribeResult frame.calls r with
      | some err => (.error (handle err),
          ⟨frame.events ++ [.subscribe r false], frame.deferred, frame.calls + 1⟩)
      | none =>
        (.ok (), ⟨frame.events ++ [.subscribe r true], r :: frame.deferred, frame.calls + 1⟩) := by
  rw [subscribeOrReturn, exec_bind, exec_subscribe]
  cases subscribeResult frame.calls r <;> rfl

/-- The subscriptions `GetProfile` makes for the service `service` named `fqn`, with the profile IDs
`profileID` gives a service's own name: the opaque-ports adaptor on the service; when there is a
context token, the primary listener on the profile in the token's namespace (the service's when
the token names none); and the secondary listener on the service's profile. -/
def serviceProfileSubscriptions (dest : GetDestination) (service : ServiceID) (fqn : List Char)
    (port : Port) (stream : ServerStream) : Handler Unit := do
  subscribeOrReturn subscribeResult (.opaquePorts service (.opaquePortsAdaptor fqn port stream)) id
  if dest.contextToken ≠ [] then
    let ctxToken := parseContextToken dest.contextToken
    subscribeOrReturn subscribeResult
      (.profiles { name := fqn, ns := if ctxToken.ns ≠ [] then ctxToken.ns else service.ns }
        (.primary fqn port stream)) id
  subscribeOrReturn subscribeResult
    (.profiles { name := fqn, ns := service.ns } (.secondary fqn port stream)) id

/-- A running pod of `web`, at `10.0.0.2`, whose annotation makes port 3306 opaque. -/
def webPod : Pod :=
  { name := "web-0".toList, ns := "emojivoto".toList, phase := .running, podIP := "10.0.0.2".toList,
    annotations := [("config.linkerd.io/opaque-ports".toList, "3306".toList)] }

/-- A cluster with one service, `web` in `emojivoto`, owning the cluster IP `10.0.0.1`, and one pod,
`webPod`; a host is an IP when it is made of digits and dots. -/
def webCluster : Cluster Unit where
  clusterDomain := "cluster.local".toList
  defaultOpaquePorts := ∅
  pods := ⟨fun _ key => .ok (if key = "10.0.0.2".toList then [webPod] else [])⟩
  services := ⟨fun _ key =>
    .ok (if key = "10.0.0.1".toList then [⟨"web".toList, "emojivoto".toList⟩] else [])⟩
  parseIP host := if host.all fun c => c.isDigit ∨ c = '.' then some host else none
  proxyOpaquePortsAnnotation := "config.linkerd.io/opaque-ports".toList
  parseContainerOpaquePorts annotation _ := annotation.splitOn ','
  getOwnerKindAndName _ := ([], [])
  setToServerProtocol address _ := .ok address
  createWeightedAddr _ _ := .ok ()
  getEndpoints _ _ := .ok ⟨[]⟩
  getPod _ _ := .error (.plain "not found".toList)

variable {W : Type} (cluster : Cluster W) (podIPIndex hostIPIndex : List Char)

/-- **`Get` on a service's name.**  For labels without `.` or `:`, a cluster domain without `:`, a
port in `[1, 65535]` and a host that is not an IP: `Get` makes one `Subscribe`, of the endpoint
translator for the context token's node name to the service's endpoints at that port with no
instance ID; it returns `nil` exactly when the watcher registered it, and then it has unsubscribed
it. -/
theorem get_service {s n : List Char} {p : Nat} (tok : List Char) (stream : ServerStream)
    (hs : '.' ∉ s ∧ ':' ∉ s) (hn : '.' ∉ n ∧ ':' ∉ n) (hcd : ':' ∉ cluster.clusterDomain)
    (hp : 1 ≤ p ∧ p ≤ 65535) (hip : cluster.parseIP (serviceFqdn s n cluster.clusterDomain) = none) :
    let r := Registration.endpoints { name := s, ns := n } (UInt32.ofNat p) []
      (.endpointTranslator (if tok ≠ [] then parseContextToken tok else {}).nodeName stream)
    let dest : GetDestination := ⟨serviceFqdn s n cluster.clusterDomain ++ ':' :: itoa p, tok⟩
    (get subscribeResult cluster dest stream).runToReturn.2 =
        (if subscribeResult 0 r = none then [.subscribe r true, .unsubscribe r]
          else [.subscribe r false]) ∧
      ((get subscribeResult cluster dest stream).runToReturn.1 = .ok () ↔
        subscribeResult 0 r = none) := by
  intro r dest
  have hget : get subscribeResult cluster dest stream =
      subscribeOrReturn subscribeResult r (getSubscribeError dest) := by
    simp only [get, dest, (getHostAndPort_serviceFqdn hs.2 hn.2 hcd hp).1, hip, Option.isSome_none,
      Bool.false_eq_true, if_false,
      parseK8sServiceName_of_splitOn (splitOn_serviceFqdn cluster.clusterDomain hs.1 hn.1)]
  simp only [Handler.runToReturn, hget, exec_subscribeOrReturn]
  cases subscribeResult 0 r <;> simp

/-- `Get` on `web.emojivoto.svc.cluster.local:8080`, when the watcher registers: it returns `nil`. -/
theorem get_service_web :
    (get (fun _ _ => none) webCluster
      ⟨serviceFqdn "web".toList "emojivoto".toList "cluster.local".toList ++ ':' :: itoa 8080,
        []⟩ ⟨0⟩).runToReturn.1 = .ok () :=
  (get_service (fun _ _ => none) webCluster (s := "web".toList) (n := "emojivoto".toList) (p := 8080)
    [] ⟨0⟩ (by decide) (by decide) (by decide) (by decide) rfl).2.mpr rfl

/-- The end of `GetProfile` for a service's own name makes the subscriptions
`serviceProfileSubscriptions` says: both profile IDs are found. -/
theorem getProfileForService_eq (dest : GetDestination) (service : ServiceID)
    (hs : '.' ∉ service.name ∧ ':' ∉ service.name) (hn : '.' ∉ service.ns ∧ ':' ∉ service.ns)
    (hcd : ':' ∉ cluster.clusterDomain) (port : Port) (stream : ServerStream) :
    getProfileForService subscribeResult cluster dest service
        (serviceFqdn service.name service.ns cluster.clusterDomain) port stream =
      serviceProfileSubscriptions subscribeResult dest service
        (serviceFqdn service.name service.ns cluster.clusterDomain) port stream := by
  simp only [getProfileForService, serviceProfileSubscriptions, subscribeProfile,
    profileID_serviceFqdn _ hs hn hcd]
  rfl

/-- **`GetProfile` on a service's name.**  For labels without `.` or `:`, a cluster domain without
`:`, a port in `[1, 65535]` and a host that is not an IP, `GetProfile` makes the subscriptions of
`serviceProfileSubscriptions` for the service. -/
theorem getProfile_service {s n : List Char} {p : Nat} (tok : List Char) (stream : ServerStream)
    (hs : '.' ∉ s ∧ ':' ∉ s) (hn : '.' ∉ n ∧ ':' ∉ n) (hcd : ':' ∉ cluster.clusterDomain)
    (hp : 1 ≤ p ∧ p ≤ 65535) (hip : cluster.parseIP (serviceFqdn s n cluster.clusterDomain) = none) :
    getProfile subscribeResult cluster podIPIndex hostIPIndex
        ⟨serviceFqdn s n cluster.clusterDomain ++ ':' :: itoa p, tok⟩ stream =
      serviceProfileSubscriptions subscribeResult
        ⟨serviceFqdn s n cluster.clusterDomain ++ ':' :: itoa p, tok⟩ { name := s, ns := n }
        (serviceFqdn s n cluster.clusterDomain) (UInt32.ofNat p) stream := by
  simp only [getProfile, (getHostAndPort_serviceFqdn hs.2 hn.2 hcd hp).1, hip,
    parseK8sServiceName_of_splitOn (splitOn_serviceFqdn cluster.clusterDomain hs.1 hn.1),
    ne_eq, not_true_eq_false, if_false]
  exact getProfileForService_eq subscribeResult cluster _ { name := s, ns := n } hs hn hcd _ _

/-- `GetProfile` on `web.emojivoto.svc.cluster.local:8080` without a context token, with watchers
that register every listener. -/
theorem getProfile_service_web :
    getProfile (fun _ _ => none) webCluster [] []
        ⟨serviceFqdn "web".toList "emojivoto".toList "cluster.local".toList ++ ':' :: itoa 8080, []⟩
        ⟨0⟩ =
      serviceProfileSubscriptions (fun _ _ => none)
        ⟨serviceFqdn "web".toList "emojivoto".toList "cluster.local".toList ++ ':' :: itoa 8080, []⟩
        { name := "web".toList, ns := "emojivoto".toList }
        (serviceFqdn "web".toList "emojivoto".toList "cluster.local".toList) (UInt32.ofNat 8080)
        ⟨0⟩ :=
  getProfile_service (fun _ _ => none) webCluster [] [] [] ⟨0⟩ (by decide) (by decide) (by decide)
    (by decide) rfl

/-- **`GetProfile` by a cluster IP.**  When the authority's host is an IP that one service owns,
and the service's name and namespace have no `.` or `:`, `GetProfile` makes the subscriptions of
`serviceProfileSubscriptions` for that service, under its own name. -/
theorem getProfile_serviceIP (dest : GetDestination) (stream : ServerStream) {host ip : List Char}
    {port : Port} {service : ServiceID} (hpath : getHostAndPort dest.path = .ok (host, port))
    (hip : cluster.parseIP host = some ip)
    (hsvc : getSvcID podIPIndex cluster.services ip = .ok (some service))
    (hs : '.' ∉ service.name ∧ ':' ∉ service.name) (hn : '.' ∉ service.ns ∧ ':' ∉ service.ns)
    (hcd : ':' ∉ cluster.clusterDomain) :
    getProfile subscribeResult cluster podIPIndex hostIPIndex dest stream =
      serviceProfileSubscriptions subscribeResult dest service
        (serviceFqdn service.name service.ns cluster.clusterDomain) port stream := by
  simp only [getProfile, hpath, hip, hsvc, liftExcept, pure_bind]
  exact getProfileForService_eq subscribeResult cluster dest service hs hn hcd port stream

/-- `GetProfile` on `10.0.0.1:8080`, the cluster IP of `web`, without a context token, with watchers
that register every listener. -/
theorem getProfile_serviceIP_web :
    getProfile (fun _ _ => none) webCluster [] [] ⟨"10.0.0.1:8080".toList, []⟩ ⟨0⟩ =
      serviceProfileSubscriptions (fun _ _ => none) ⟨"10.0.0.1:8080".toList, []⟩
        { name := "web".toList, ns := "emojivoto".toList }
        (serviceFqdn "web".toList "emojivoto".toList "cluster.local".toList) 8080 ⟨0⟩ :=
  getProfile_serviceIP (fun _ _ => none) webCluster [] [] _ ⟨0⟩ rfl rfl rfl (by decide) (by decide)
    (by decide)

end Subscriptions

end Destination
end Linkerd
