import Linkerd.Destination.ContextToken
import Linkerd.Destination.Indexers
import Mathlib.Data.Finset.Basic

/-!
# The destination handlers: `Get` and `GetProfile`

A proxy opens a `Get` stream for the endpoints of an authority and a `GetProfile` stream for its
profile.  Each handler resolves the authority, subscribes listeners to the watchers (endpoints,
opaque ports, profiles, servers), waits until the stream ends (the client cancels or the server
shuts down), and returns.  Each subscription that succeeds is followed by a deferred
`Unsubscribe`, which Go runs when the handler returns, by any path.

A handler is modelled as a computation that records its watcher calls (`Event`) in a `Frame`,
with the stack of deferred `Unsubscribe` calls; `Handler.runToReturn` appends the deferred calls,
most recent first, as Go does on return.  Which `Subscribe` calls succeed is not up to the handler:
`subscribeResult` says, for the `n`-th call, whether the watcher registered the listener (`nil`) or
registered nothing and returned an error.  Both ways of ending the stream return `nil`.

* `Preserves` — a handler keeps a property of frames, with one rule per way of composing handlers
  (`preserves_bind`, `preserves_liftExcept_bind`).
* `Frame.Balanced` — the registrations the calls so far still hold are exactly the deferred
  `Unsubscribe` calls; `Keeps` — a handler keeps frames balanced.
* `keeps_subscribeOrReturn`, `keeps_subscribeServers` — what each watcher call of a handler does to
  a balanced frame.
* `preserves_get` / `preserves_getProfile` — every path of a handler serving a stream keeps what its
  `Subscribe` calls, of that stream's listeners, keep (`SubscribesKeep`, `ServersKeep`).
* `handlers_release` — when `Get` or `GetProfile` returns, by any path and whatever the watchers
  answered, every registration it made has been removed by an `Unsubscribe` of the same key and
  listener, and it has unsubscribed nothing it did not register.

Each handler serves a stream, which the listeners it creates write to; the watchers remove a
listener by pointer, so a listener carries the stream it was created for (`ServerStream`).
-/

namespace Linkerd
namespace Destination

open Go K8s

/-- `pb.GetDestination`: the authority and the context token. -/
structure GetDestination where
  path : List Char
  contextToken : List Char
  deriving DecidableEq, Repr

/-- `watcher.Address`: the fields the handlers set and read. -/
structure Address where
  ip : List Char := []
  port : Port := 0
  pod : Option Pod := none
  ownerName : List Char := []
  ownerKind : List Char := []
  opaqueProtocol : Bool := false
  deriving DecidableEq, Repr

/-- `corev1.ObjectReference`: the target of an endpoint address. -/
structure ObjectReference where
  kind : List Char
  ns : List Char
  name : List Char
  deriving DecidableEq, Repr

/-- `corev1.EndpointAddress`. -/
structure EndpointAddress where
  ip : List Char
  hostname : List Char
  targetRef : Option ObjectReference
  deriving DecidableEq, Repr

/-- `corev1.Endpoints`: the addresses of its subsets. -/
structure Endpoints where
  subsets : List (List EndpointAddress)
  deriving DecidableEq, Repr

/-- What the handlers read from the cluster, and the helpers of packages outside this repository's
sources that they call.  `W` is `pb.WeightedAddr`, which the handlers pass on without reading. -/
structure Cluster (W : Type) where
  clusterDomain : List Char
  defaultOpaquePorts : Finset Port
  pods : Indexer Pod
  services : Indexer Service
  /-- `net.ParseIP(host)`, as `ip.String()` when `host` is an IP. -/
  parseIP : List Char → Option (List Char)
  /-- `labels.ProxyOpaquePortsAnnotation`. -/
  proxyOpaquePortsAnnotation : List Char
  /-- `util.ParseContainerOpaquePorts`. -/
  parseContainerOpaquePorts : List Char → List Container → List (List Char)
  /-- `k8sAPI.GetOwnerKindAndName(ctx, pod, true)`. -/
  getOwnerKindAndName : Pod → List Char × List Char
  /-- `watcher.SetToServerProtocol(k8sAPI, &address, port)`. -/
  setToServerProtocol : Address → Port → Except GoError Address
  /-- `createWeightedAddr(address, opaquePorts, ...)`. -/
  createWeightedAddr : Address → Finset Port → Except GoError W
  /-- `k8sAPI.Endpoint().Lister().Endpoints(ns).Get(name)`. -/
  getEndpoints : List Char → List Char → Except GoError Endpoints
  /-- `k8sAPI.Pod().Lister().Pods(ns).Get(name)`. -/
  getPod : List Char → List Char → Except GoError Pod

/-- `strconv.NumError.Error()`: `strconv.<fn>: parsing "<num>": <reason>`. -/
def NumError.text (fn num : List Char) : NumError → List Char
  | .errSyntax => "strconv.".toList ++ fn ++ ": parsing \"".toList ++ num ++
      "\": invalid syntax".toList
  | .errRange => "strconv.".toList ++ fn ++ ": parsing \"".toList ++ num ++
      "\": value out of range".toList

section Helpers

variable {W : Type} (cluster : Cluster W)

/-- The body of the loop of `getAnnotatedOpaquePorts`: a port text read as a 32-bit value. -/
def parseOpaquePort (portStr : List Char) : Except GoError Port :=
  match parseUint portStr 32 with
  | .ok port => .ok (UInt32.ofNat port)
  | .error err => .error (.plain (NumError.text "ParseUint".toList portStr err))

/-- `getAnnotatedOpaquePorts`: the set of ports a pod's opaque-ports annotation names, or the
default ports when there is no pod or no annotation.  The loop adds each port text's value to the
set, and returns the error of the first text that does not read. -/
def getAnnotatedOpaquePorts (pod : Option Pod) (defaultPorts : Finset Port) :
    Except GoError (Finset Port) :=
  match pod with
  | none => .ok defaultPorts
  | some pod =>
    match pod.annotations.lookup cluster.proxyOpaquePortsAnnotation with
    | none => .ok defaultPorts
    | some annotation =>
      if annotation = [] then .ok ∅
      else (cluster.parseContainerOpaquePorts annotation pod.containers).foldlM
        (fun opaquePorts portStr => do
          let port ← parseOpaquePort portStr
          pure (insert port opaquePorts)) ∅

/-- `s.createAddress`: the pod's address, its owner, and whether its port is opaque by a
`Server`. -/
def createAddress (pod : Pod) (port : Port) : Except GoError Address :=
  let (ownerKind, ownerName) := cluster.getOwnerKindAndName pod
  let address : Address :=
    { ip := pod.podIP, port := port, pod := some pod, ownerName := ownerName, ownerKind := ownerKind }
  match cluster.setToServerProtocol address port with
  | .error err => .error (.plain ("failed to set address OpaqueProtocol: ".toList ++ err.text))
  | .ok address => .ok address

/-- `s.createEndpoint`. -/
def createEndpoint (address : Address) (opaquePorts : Finset Port) : Except GoError W :=
  cluster.createWeightedAddr address opaquePorts

/-- `s.getEndpointByHostname`: the address of the service's endpoint of that hostname, the pod's
address when the endpoint names a pod. -/
def getEndpointByHostname (hostname : List Char) (svcID : ServiceID) (port : Port) :
    Except GoError Address := do
  let ep ← cluster.getEndpoints svcID.ns svcID.name
  match (ep.subsets.flatMap id).find? (·.hostname = hostname) with
  | some addr =>
    match addr.targetRef with
    | some ref =>
      if ref.kind = "Pod".toList then do
        let pod ← cluster.getPod ref.ns ref.name
        createAddress cluster pod port
      else .ok { ip := addr.ip, port := port }
    | none => .ok { ip := addr.ip, port := port }
  | none =>
    .error (.plain ("no pod found in Endpoints ".toList ++ svcID.ns ++ "/".toList ++ svcID.name ++
      " for hostname ".toList ++ hostname))

end Helpers

/-! ### Watcher calls -/

/-- The stream a handler serves, `pb.Destination_GetServer` or `pb.Destination_GetProfileServer`:
each call of a handler has its own, and the listeners it creates write to it.  A stream is told
apart from the others by `id`. -/
structure ServerStream where
  id : Nat
  deriving DecidableEq, Repr

/-- The listeners the handlers subscribe, each with what it is built from and the stream it writes
to.  The watchers remove a listener by pointer, and a handler creates each of its listeners anew,
one of each kind, so a listener is the same as another exactly when it is of the same kind, built
from the same values, for the same stream. -/
inductive Listener
  /-- `newEndpointTranslator`, for the node name of the context token. -/
  | endpointTranslator (nodeName : List Char) (stream : ServerStream)
  /-- `newEndpointProfileTranslator`. -/
  | endpointProfileTranslator (pod : Option Pod) (port : Port) (stream : ServerStream)
  /-- `newOpaquePortsAdaptor(newProfileTranslator(stream, log, fqn, port))`. -/
  | opaquePortsAdaptor (fqn : List Char) (port : Port) (stream : ServerStream)
  /-- The two listeners of `newFallbackProfileListener`. -/
  | primary (fqn : List Char) (port : Port) (stream : ServerStream)
  | secondary (fqn : List Char) (port : Port) (stream : ServerStream)
  deriving DecidableEq, Repr

/-- The stream a listener writes to. -/
def Listener.stream : Listener → ServerStream
  | .endpointTranslator _ stream | .endpointProfileTranslator _ _ stream
  | .opaquePortsAdaptor _ _ stream | .primary _ _ stream | .secondary _ _ stream => stream

/-- A registration on a watcher: the watcher, the key and the listener. -/
inductive Registration
  | endpoints (service : ServiceID) (port : Port) (instanceID : List Char) (listener : Listener)
  | opaquePorts (service : ServiceID) (listener : Listener)
  | profiles (profile : ProfileID) (listener : Listener)
  | servers (pod : Pod) (port : Port) (listener : Listener)
  deriving DecidableEq, Repr

/-- The listener of a registration. -/
def Registration.listener : Registration → Listener
  | .endpoints _ _ _ listener | .opaquePorts _ listener | .profiles _ listener
  | .servers _ _ listener => listener

/-- A watcher call: a `Subscribe` and whether it registered, or an `Unsubscribe`. -/
inductive Event
  | subscribe (registration : Registration) (registered : Bool)
  | unsubscribe (registration : Registration)
  deriving DecidableEq, Repr

/-- The registration a watcher call is about. -/
def Event.registration : Event → Registration
  | .subscribe r _ | .unsubscribe r => r

/-- The registrations a call still holds after its watcher calls, or `none` once it has
unsubscribed a registration it does not hold. -/
def release : List Registration → List Event → Option (List Registration)
  | held, [] => some held
  | held, .subscribe r true :: events => release (r :: held) events
  | held, .subscribe _ false :: events => release held events
  | held, .unsubscribe r :: events => if r ∈ held then release (held.erase r) events else none

/-- The watcher calls a handler has made, its deferred `Unsubscribe` calls (the next to run first),
and how many `Subscribe` calls it has made. -/
structure Frame where
  events : List Event
  deferred : List Registration
  calls : Nat

/-- A handler: a computation over its frame that may return an error. -/
abbrev Handler (α : Type) := ExceptT GoError (StateM Frame) α

/-- A handler run from a frame: its result and the frame after. -/
def Handler.exec {α : Type} (h : Handler α) (frame : Frame) : Except GoError α × Frame :=
  (h.run).run frame

/-- A handler run to its return from a fresh frame: its result, and its watcher calls followed by
its deferred calls, most recent first, which Go runs on every return. -/
def Handler.runToReturn {α : Type} (h : Handler α) : Except GoError α × List Event :=
  let (result, frame) := h.exec ⟨[], [], 0⟩
  (result, frame.events ++ frame.deferred.map .unsubscribe)

/-- A pure computation that may fail, in a handler. -/
def liftExcept {α : Type} (x : Except GoError α) : Handler α :=
  match x with
  | .ok a => pure a
  | .error err => throw err

section Calls

variable (subscribeResult : Nat → Registration → Option GoError)

/-- `w.Subscribe(key, listener)` on the endpoints, opaque-ports or profile watcher, which may
refuse: the `n`-th call's result is `subscribeResult n`. -/
def subscribe (r : Registration) : Handler (Option GoError) := do
  let frame ← get
  let err := subscribeResult frame.calls r
  set ({ frame with
    events := frame.events ++ [Event.subscribe r err.isNone], calls := frame.calls + 1 } : Frame)
  pure err

/-- `defer w.Unsubscribe(key, listener)`. -/
def deferUnsubscribe (r : Registration) : Handler Unit :=
  modify fun (frame : Frame) => { frame with deferred := r :: frame.deferred }

/-- How the handlers subscribe to a watcher that may refuse:
`err = w.Subscribe(...); if err != nil { return handle(err) }; defer w.Unsubscribe(...)`. -/
def subscribeOrReturn (r : Registration) (handle : GoError → GoError) : Handler Unit := do
  let err ← subscribe subscribeResult r
  match err with
  | some err => throw (handle err)
  | none => deferUnsubscribe r

/-- `s.servers.Subscribe(pod, port, listener); defer s.servers.Unsubscribe(pod, port, listener)`:
the server watcher's `Subscribe` returns nothing and always registers. -/
def subscribeServers (r : Registration) : Handler Unit := do
  modify fun (frame : Frame) => { frame with events := frame.events ++ [Event.subscribe r true] }
  deferUnsubscribe r

end Calls

/-! ### The handlers -/

section Handlers

variable (subscribeResult : Nat → Registration → Option GoError) {W : Type} (cluster : Cluster W)
  -- `watcher.PodIPIndex` and `watcher.HostIPIndex`.
  (podIPIndex hostIPIndex : List Char)

/-- The end both endpoint paths of `GetProfile` share: the translator gets the protocol, and
subscribes to the server watcher when the port is not opaque by annotation and there is a pod;
then the stream runs until it ends. -/
def endpointProfile (pod : Option Pod) (port : Port) (opaquePorts : Finset Port)
    (stream : ServerStream) : Handler Unit :=
  if port ∈ opaquePorts then pure ()
  else match pod with
    | none => pure ()
    | some pod =>
      subscribeServers (.servers pod port (.endpointProfileTranslator (some pod) port stream))

/-- What `Get` returns when the endpoints watcher refuses its subscription: `InvalidArgument` for
an invalid service, the watcher's error otherwise. -/
def getSubscribeError (dest : GetDestination) : GoError → GoError
  | .invalidService _ => .status .invalidArgument ("Invalid authority: ".toList ++ dest.path)
  | err => err

/-- `Get`, serving `stream`. -/
def get (dest : GetDestination) (stream : ServerStream) : Handler Unit := do
  let token : ContextToken :=
    if dest.contextToken ≠ [] then parseContextToken dest.contextToken else {}
  match getHostAndPort dest.path with
  | .error _ => throw (.status .invalidArgument ("Invalid authority: ".toList ++ dest.path))
  | .ok (host, port) =>
    if (cluster.parseIP host).isSome then
      throw (.status .invalidArgument ("IP queries not supported by Get API: host=".toList ++ host))
    else match parseK8sServiceName host cluster.clusterDomain with
      | .error _ => throw (.status .invalidArgument ("Invalid authority: ".toList ++ dest.path))
      | .ok (service, instanceID) =>
        subscribeOrReturn subscribeResult
          (.endpoints service port instanceID (.endpointTranslator token.nodeName stream))
          (getSubscribeError dest)

/-- The part of `GetProfile` for an IP that maps to no service: the pod behind it, if any, and its
endpoint. -/
def getProfileForPod (ip : List Char) (port : Port) (stream : ServerStream) : Handler Unit := do
  let pod ← liftExcept (getPodByIP podIPIndex hostIPIndex cluster.pods ip port)
  let opaquePorts ← liftExcept (match
      getAnnotatedOpaquePorts cluster pod cluster.defaultOpaquePorts with
    | .error err => .error (.plain ("failed to get opaque ports for pod: ".toList ++ err.text))
    | .ok ports => .ok ports)
  match pod with
  | some pod => do
    let address ← liftExcept (match createAddress cluster pod port with
      | .error err => .error (.plain ("failed to create address: ".toList ++ err.text))
      | .ok address => .ok address)
    let _ ← liftExcept (match createEndpoint cluster address opaquePorts with
      | .error err => .error (.plain ("failed to create endpoint: ".toList ++ err.text))
      | .ok endpoint => .ok endpoint)
    endpointProfile (some pod) port opaquePorts stream
  | none => endpointProfile none port opaquePorts stream

/-- The part of `GetProfile` for an instance hostname: the endpoint of that hostname. -/
def getProfileForHostname (hostname : List Char) (service : ServiceID) (port : Port)
    (stream : ServerStream) : Handler Unit := do
  let address ← liftExcept (match getEndpointByHostname cluster hostname service port with
    | .error err =>
      .error (.plain ("failed to get pod for hostname ".toList ++ hostname ++ ": ".toList ++ err.text))
    | .ok address => .ok address)
  let opaquePorts ← liftExcept (match getAnnotatedOpaquePorts cluster address.pod
      cluster.defaultOpaquePorts with
    | .error err => .error (.plain ("failed to get opaque ports for pod: ".toList ++ err.text))
    | .ok ports => .ok ports)
  let _ ← liftExcept (match createEndpoint cluster address opaquePorts with
    | .error err => .error (.plain ("failed to create endpoint: ".toList ++ err.text))
    | .ok endpoint => .ok endpoint)
  endpointProfile address.pod port opaquePorts stream

/-- The block `GetProfile` runs for each of its two profile subscriptions: the profile ID of `fqn`
for the context token, then `s.profiles.Subscribe(profile, listener)`. -/
def subscribeProfile (fqn : List Char) (ctxToken : ContextToken) (listener : Listener) :
    Handler Unit :=
  match profileID fqn ctxToken cluster.clusterDomain with
  | .error err => throw (.status .invalidArgument ("invalid profile ID: ".toList ++ err.text))
  | .ok profile => subscribeOrReturn subscribeResult (.profiles profile listener) id

/-- The end of `GetProfile` for a service: the opaque-ports adaptor, then the profile of the
context token's namespace when there is a token, and the service's own profile. -/
def getProfileForService (dest : GetDestination) (service : ServiceID) (fqn : List Char)
    (port : Port) (stream : ServerStream) : Handler Unit := do
  subscribeOrReturn subscribeResult (.opaquePorts service (.opaquePortsAdaptor fqn port stream)) id
  if dest.contextToken ≠ [] then
    subscribeProfile subscribeResult cluster fqn (parseContextToken dest.contextToken)
      (.primary fqn port stream)
  subscribeProfile subscribeResult cluster fqn {} (.secondary fqn port stream)

/-- `GetProfile`, serving `stream`. -/
def getProfile (dest : GetDestination) (stream : ServerStream) : Handler Unit :=
  match getHostAndPort dest.path with
  | .error err => throw (.status .invalidArgument ("invalid authority: ".toList ++ err.text))
  | .ok (host, port) =>
    match cluster.parseIP host with
    | some ip => do
      match ← liftExcept (getSvcID podIPIndex cluster.services ip) with
      | some service =>
        getProfileForService subscribeResult cluster dest service
          (serviceFqdn service.name service.ns cluster.clusterDomain) port stream
      | none => getProfileForPod cluster podIPIndex hostIPIndex ip port stream
    | none =>
      match parseK8sServiceName host cluster.clusterDomain with
      | .error err => throw (.status .invalidArgument ("invalid service: ".toList ++ err.text))
      | .ok (service, hostname) =>
        if hostname ≠ [] then getProfileForHostname cluster hostname service port stream
        else getProfileForService subscribeResult cluster dest service host port stream

end Handlers

/-! ### Every registration is released -/

/-- The registrations the calls so far still hold are exactly the deferred `Unsubscribe` calls. -/
def Frame.Balanced (frame : Frame) : Prop :=
  ∃ held, release [] frame.events = some held ∧ held.Perm frame.deferred

/-- A handler keeps a property of frames: run from a frame that has it, it leaves a frame that has
it, whichever way it returns. -/
def Preserves {α : Type} (I : Frame → Prop) (h : Handler α) : Prop :=
  ∀ frame, I frame → I (h.exec frame).2

/-- A handler keeps every balanced frame balanced, whichever way it returns. -/
def Keeps {α : Type} (h : Handler α) : Prop :=
  Preserves Frame.Balanced h

/-- Replaying two runs of watcher calls is replaying the first, then the second from what it left. -/
theorem release_append (held : List Registration) (events events' : List Event) :
    release held (events ++ events') =
      (release held events).bind fun held => release held events' := by
  induction events generalizing held with
  | nil => rfl
  | cons e events ih =>
    rcases e with ⟨r, _ | _⟩ | r
    · exact ih held
    · exact ih (r :: held)
    · simp only [List.cons_append, release]
      split
      · exact ih _
      · rfl

/-- Unsubscribing, in any order, exactly the registrations held releases them all. -/
theorem release_unsubscribe (held deferred : List Registration) (h : held.Perm deferred) :
    release held (deferred.map .unsubscribe) = some [] := by
  induction deferred generalizing held with
  | nil => simp [release, h.eq_nil]
  | cons d deferred ih =>
    have hd : d ∈ held := h.symm.subset (.head _)
    simp only [List.map_cons, release, if_pos hd]
    exact ih _ (by simpa using h.erase d)

/-- A handler that keeps frames balanced releases, on return, all it registered and nothing
else. -/
theorem release_runToReturn {α : Type} (h : Handler α) (hkeeps : Keeps h) :
    release [] h.runToReturn.2 = some [] := by
  obtain ⟨held, hrel, hperm⟩ := hkeeps ⟨[], [], 0⟩ ⟨[], rfl, .nil⟩
  simp only [Handler.runToReturn, release_append, hrel, Option.some_bind]
  exact release_unsubscribe held _ hperm

/-- A bound handler runs the first part, and the second only when the first returned normally. -/
theorem exec_bind {α β : Type} (h : Handler α) (f : α → Handler β) (frame : Frame) :
    (h >>= f).exec frame = match h.exec frame with
      | (.ok a, frame) => (f a).exec frame
      | (.error err, frame) => (.error err, frame) := by
  unfold Handler.exec
  rw [ExceptT.run_bind]
  simp only [StateT.run_bind]
  rcases h.run.run frame with ⟨_ | _, _⟩ <;> rfl

section Preserves

variable {I : Frame → Prop}

theorem preserves_pure {α : Type} (a : α) : Preserves I (pure a : Handler α) := fun _ h => h

theorem preserves_throw {α : Type} (err : GoError) : Preserves I (throw err : Handler α) :=
  fun _ h => h

/-- Handlers that keep a property compose. -/
theorem preserves_bind {α β : Type} {h : Handler α} {f : α → Handler β} (hh : Preserves I h)
    (hf : ∀ a, Preserves I (f a)) : Preserves I (h >>= f) := by
  intro frame hframe
  have hbal := hh frame hframe
  rw [exec_bind]
  revert hbal
  rcases h.exec frame with ⟨_ | a, frame'⟩
  · exact id
  · exact hf a frame'

/-- After a computation that may fail, the rest runs only on its value. -/
theorem preserves_liftExcept_bind {α β : Type} {x : Except GoError α} {f : α → Handler β}
    (hf : ∀ a, x = .ok a → Preserves I (f a)) : Preserves I (liftExcept x >>= f) := by
  cases x with
  | error err => exact fun _ hframe => hframe
  | ok a =>
    simp only [liftExcept, pure_bind]
    exact hf a rfl

end Preserves

/-- A registration that succeeds is held, and its `Unsubscribe` deferred. -/
theorem Frame.Balanced.registered {frame : Frame} (hframe : frame.Balanced) (r : Registration)
    (calls : Nat) :
    Frame.Balanced ⟨frame.events ++ [.subscribe r true], r :: frame.deferred, calls⟩ := by
  obtain ⟨held, hrel, hperm⟩ := hframe
  exact ⟨r :: held, by simp [release_append, hrel, release], hperm.cons r⟩

/-- A refused registration is not held, and nothing is deferred. -/
theorem Frame.Balanced.refused {frame : Frame} (hframe : frame.Balanced) (r : Registration)
    (calls : Nat) : Frame.Balanced ⟨frame.events ++ [.subscribe r false], frame.deferred, calls⟩ := by
  obtain ⟨held, hrel, hperm⟩ := hframe
  exact ⟨held, by simp [release_append, hrel, release], hperm⟩

/-- A `Subscribe` call records itself, registered or not, and counts itself. -/
theorem exec_subscribe (subscribeResult : Nat → Registration → Option GoError) (r : Registration)
    (frame : Frame) :
    (subscribe subscribeResult r).exec frame =
      (.ok (subscribeResult frame.calls r), ⟨frame.events ++
        [.subscribe r (subscribeResult frame.calls r).isNone], frame.deferred, frame.calls + 1⟩) :=
  rfl

/-- The server watcher's `Subscribe` records itself, and its `Unsubscribe` is deferred. -/
theorem exec_subscribeServers (r : Registration) (frame : Frame) :
    (subscribeServers r).exec frame =
      (.ok (), ⟨frame.events ++ [.subscribe r true], r :: frame.deferred, frame.calls⟩) :=
  rfl

/-- A refused `Subscribe` returns with nothing held and nothing deferred; an accepted one is held
and its `Unsubscribe` deferred. -/
theorem keeps_subscribeOrReturn (subscribeResult : Nat → Registration → Option GoError)
    (r : Registration) (handle : GoError → GoError) :
    Keeps (subscribeOrReturn subscribeResult r handle) := by
  intro frame hframe
  rw [subscribeOrReturn, exec_bind, exec_subscribe]
  cases subscribeResult frame.calls r
  · exact hframe.registered r _
  · exact hframe.refused r _

theorem keeps_subscribeServers (r : Registration) : Keeps (subscribeServers r) :=
  fun _ hframe => hframe.registered r _

/-! ### Every path of the handlers -/

/-- Every `Subscribe` on a watcher that may refuse, of a listener of `stream`, keeps `I`. -/
def SubscribesKeep (I : Frame → Prop) (subscribeResult : Nat → Registration → Option GoError)
    (stream : ServerStream) : Prop :=
  ∀ r handle, r.listener.stream = stream → Preserves I (subscribeOrReturn subscribeResult r handle)

/-- Every `Subscribe` on the server watcher, of a listener of `stream`, keeps `I`. -/
def ServersKeep (I : Frame → Prop) (stream : ServerStream) : Prop :=
  ∀ r, r.listener.stream = stream → Preserves I (subscribeServers r)

section Handlers

variable (subscribeResult : Nat → Registration → Option GoError) {W : Type} (cluster : Cluster W)
  (podIPIndex hostIPIndex : List Char) {I : Frame → Prop} {stream : ServerStream}

theorem preserves_endpointProfile (hservers : ServersKeep I stream) (pod : Option Pod) (port : Port)
    (opaquePorts : Finset Port) : Preserves I (endpointProfile pod port opaquePorts stream) := by
  unfold endpointProfile
  split
  · exact preserves_pure _
  · split
    · exact preserves_pure _
    · exact hservers _ rfl

/-- Every path of `Get` keeps what its `Subscribe` keeps. -/
theorem preserves_get (hsub : SubscribesKeep I subscribeResult stream) (dest : GetDestination) :
    Preserves I (get subscribeResult cluster dest stream) := by
  unfold get
  dsimp only
  split
  · exact preserves_throw _
  · split
    · exact preserves_throw _
    · split
      · exact preserves_throw _
      · exact hsub _ _ rfl

theorem preserves_getProfileForPod (hservers : ServersKeep I stream) (ip : List Char)
    (port : Port) : Preserves I (getProfileForPod cluster podIPIndex hostIPIndex ip port stream) := by
  unfold getProfileForPod
  refine preserves_liftExcept_bind fun pod _ => preserves_liftExcept_bind fun ports _ => ?_
  split
  · exact preserves_liftExcept_bind fun _ _ => preserves_liftExcept_bind fun _ _ =>
      preserves_endpointProfile hservers _ _ _
  · exact preserves_endpointProfile hservers _ _ _

theorem preserves_getProfileForHostname (hservers : ServersKeep I stream) (hostname : List Char)
    (service : ServiceID) (port : Port) :
    Preserves I (getProfileForHostname cluster hostname service port stream) := by
  unfold getProfileForHostname
  exact preserves_liftExcept_bind fun _ _ => preserves_liftExcept_bind fun _ _ =>
    preserves_liftExcept_bind fun _ _ => preserves_endpointProfile hservers _ _ _

theorem preserves_subscribeProfile (hsub : SubscribesKeep I subscribeResult stream)
    (fqn : List Char) (ctxToken : ContextToken) {listener : Listener}
    (hlistener : listener.stream = stream) :
    Preserves I (subscribeProfile subscribeResult cluster fqn ctxToken listener) := by
  unfold subscribeProfile
  split
  · exact preserves_throw _
  · exact hsub _ _ hlistener

theorem preserves_getProfileForService (hsub : SubscribesKeep I subscribeResult stream)
    (dest : GetDestination) (service : ServiceID) (fqn : List Char) (port : Port) :
    Preserves I (getProfileForService subscribeResult cluster dest service fqn port stream) := by
  unfold getProfileForService
  refine preserves_bind (hsub _ _ rfl) fun _ => ?_
  dsimp only
  split
  · exact preserves_bind (preserves_subscribeProfile _ _ hsub _ _ rfl) fun _ =>
      preserves_subscribeProfile _ _ hsub _ _ rfl
  · exact preserves_subscribeProfile _ _ hsub _ _ rfl

/-- Every path of `GetProfile` keeps what its `Subscribe` calls keep: IP to service, IP to pod or to
nothing, instance hostname, and service name with or without a context token. -/
theorem preserves_getProfile (hsub : SubscribesKeep I subscribeResult stream)
    (hservers : ServersKeep I stream) (dest : GetDestination) :
    Preserves I (getProfile subscribeResult cluster podIPIndex hostIPIndex dest stream) := by
  unfold getProfile
  split
  · exact preserves_throw _
  · split
    · refine preserves_liftExcept_bind fun svcID _ => ?_
      split
      · exact preserves_getProfileForService _ _ hsub _ _ _ _
      · exact preserves_getProfileForPod _ _ _ hservers _ _
    · split
      · exact preserves_throw _
      · split
        · exact preserves_getProfileForHostname _ hservers _ _ _
        · exact preserves_getProfileForService _ _ hsub _ _ _ _

theorem subscribesKeep_balanced : SubscribesKeep Frame.Balanced subscribeResult stream :=
  fun r handle _ => keeps_subscribeOrReturn subscribeResult r handle

theorem serversKeep_balanced : ServersKeep Frame.Balanced stream :=
  fun r _ => keeps_subscribeServers r

/-- **Every subscription is released.**  Whatever the request, the stream, the caches and the
watchers' answers, when `Get` or `GetProfile` returns, normally or with an error, the `Unsubscribe`
calls it has made remove exactly the registrations its `Subscribe` calls made. -/
theorem handlers_release (dest : GetDestination) (stream : ServerStream) :
    release [] (get subscribeResult cluster dest stream).runToReturn.2 = some [] ∧
      release [] (getProfile subscribeResult cluster podIPIndex hostIPIndex dest stream).runToReturn.2 =
        some [] :=
  ⟨release_runToReturn _ (preserves_get subscribeResult cluster
      (subscribesKeep_balanced subscribeResult) dest),
    release_runToReturn _ (preserves_getProfile subscribeResult cluster podIPIndex hostIPIndex
      (subscribesKeep_balanced subscribeResult) serversKeep_balanced dest)⟩

end Handlers

end Destination
end Linkerd
