import Linkerd.Destination.Requests

/-!
# Many streams on shared watchers

The server serves many `Get` and `GetProfile` streams at once, each in its own goroutine, and they
all subscribe to the same watchers.  The watchers see the streams' calls interleaved in any order;
each stream's calls, its deferred `Unsubscribe` calls included, keep their own order.  A listener is
registered once per `Subscribe` that succeeded, so the watchers' registrations are counted, and a
watcher removes a listener by pointer: each listener carries the stream it writes to, so one
stream's `Unsubscribe` can only remove a registration of that stream's own listener.

* `Interleave` / `Interleaving` — the calls of two runs, or of any number of runs, interleaved in
  some order; `Interleaving.filter_tag` — the calls of one run, picked out of an interleaving by a
  tag that only that run's calls carry, are that run.
* `release_cons_of_perm` — one call of a run replayed on registrations that include the run's own:
  the run and the shared registrations move alike; `release_interleave` — so two interleaved runs
  find what they registered, and leave the union of what each leaves.
* `release_interleaving` — runs that each release all they register leave any registrations as
  they found them, however they interleave.
* `release_filter` — the calls on some listeners, replayed alone, leave what the full replay leaves
  of those listeners' registrations.
* `streams_release` — whatever the streams, their requests, the caches each of them read, the
  watchers' answers and the order the calls interleave in: no stream ever unsubscribes a
  registration that is not held; at every point the registrations of each stream's listeners are
  exactly those its own calls so far have left, so no stream removes another's; and once every
  stream has returned the watchers hold exactly the registrations they held before.
-/

namespace Linkerd
namespace Destination

open Go

/-- `Interleave xs ys zs`: `zs` is the calls of `xs` and of `ys`, interleaved, each in its own
order. -/
inductive Interleave {α : Type} : List α → List α → List α → Prop
  | nil : Interleave [] [] []
  | left {x : α} {xs ys zs : List α} : Interleave xs ys zs → Interleave (x :: xs) ys (x :: zs)
  | right {y : α} {xs ys zs : List α} : Interleave xs ys zs → Interleave xs (y :: ys) (y :: zs)

/-- `Interleaving runs calls`: `calls` is the calls of all the runs, interleaved, each run's in its
own order. -/
inductive Interleaving {α : Type} : List (List α) → List α → Prop
  | nil : Interleaving [] []
  | cons {run : List α} {runs : List (List α)} {rest calls : List α} :
    Interleaving runs rest → Interleave run rest calls → Interleaving (run :: runs) calls

/-- Running one run to its end, then the other, is an interleaving. -/
theorem interleave_append {α : Type} (xs ys : List α) : Interleave xs ys (xs ++ ys) := by
  induction xs with
  | nil =>
    induction ys with
    | nil => exact .nil
    | cons y ys ih => exact .right ih
  | cons x xs ih => exact .left ih

theorem Interleave.filter {α : Type} (p : α → Bool) {xs ys zs : List α} (h : Interleave xs ys zs) :
    Interleave (xs.filter p) (ys.filter p) (zs.filter p) := by
  induction h with
  | nil => exact .nil
  | left _ ih =>
    rw [List.filter_cons, List.filter_cons]
    split
    · exact .left ih
    · exact ih
  | right _ ih =>
    rw [List.filter_cons, List.filter_cons]
    split
    · exact .right ih
    · exact ih

theorem Interleave.eq_left {α : Type} {xs ys zs : List α} (h : Interleave xs ys zs) (hys : ys = []) :
    zs = xs := by
  induction h with
  | nil => rfl
  | left _ ih => rw [ih hys]
  | right _ _ => cases hys

theorem Interleave.eq_right {α : Type} {xs ys zs : List α} (h : Interleave xs ys zs) (hxs : xs = []) :
    zs = ys := by
  induction h with
  | nil => rfl
  | left _ _ => cases hxs
  | right _ ih => rw [ih hxs]

theorem Interleave.mem {α : Type} {xs ys zs : List α} (h : Interleave xs ys zs) :
    ∀ e ∈ zs, e ∈ xs ∨ e ∈ ys := by
  induction h with
  | nil => exact fun e he => absurd he (List.not_mem_nil e)
  | left _ ih =>
    intro e he
    rcases List.mem_cons.mp he with rfl | he
    · exact .inl (.head _)
    · exact (ih e he).imp (.tail _) id
  | right _ ih =>
    intro e he
    rcases List.mem_cons.mp he with rfl | he
    · exact .inr (.head _)
    · exact (ih e he).imp id (.tail _)

/-- Every call of an interleaving is a call of one of the runs. -/
theorem Interleaving.mem {α : Type} {runs : List (List α)} {calls : List α}
    (h : Interleaving runs calls) : ∀ e ∈ calls, ∃ run ∈ runs, e ∈ run := by
  induction h with
  | nil => exact fun e he => absurd he (List.not_mem_nil e)
  | cons _ hi ih =>
    intro e he
    rcases hi.mem e he with he | he
    · exact ⟨_, .head _, he⟩
    · obtain ⟨run, hrun, he⟩ := ih e he
      exact ⟨run, .tail _ hrun, he⟩

/-- In an interleaving of the runs of some `xs`, where the calls of `x`'s run carry the tag
`key x` and no two `xs` have the same, the calls of one tag are that run, in its order. -/
theorem Interleaving.filter_tag {α γ β : Type} [DecidableEq β] (tag : α → β) (f : γ → List α)
    (key : γ → β) :
    ∀ {xs : List γ} {calls : List α}, Interleaving (xs.map f) calls → (xs.map key).Nodup →
      (∀ x ∈ xs, ∀ e ∈ f x, tag e = key x) →
      ∀ x ∈ xs, calls.filter (fun e => tag e = key x) = f x
  | [], _, _, _, _, x, hx => absurd hx (List.not_mem_nil x)
  | x₀ :: xs, calls, h, hnodup, htag, x, hx => by
    rw [List.map_cons] at h
    cases h with
    | cons hrest hi =>
      rw [List.map_cons, List.nodup_cons] at hnodup
      have hi' := hi.filter (fun e => tag e = key x)
      rcases List.mem_cons.mp hx with rfl | hx
      · -- the first run is the one of that tag, and the others have none of it
        refine hi'.eq_left (List.filter_eq_nil_iff.mpr fun e he => ?_) |>.trans
          (List.filter_eq_self.mpr fun e he => by simpa using htag x (.head _) e he)
        obtain ⟨run, hrun, he⟩ := hrest.mem e he
        obtain ⟨y, hy, rfl⟩ := List.mem_map.mp hrun
        have hne : key y ≠ key x := fun heq => hnodup.1 (heq ▸ List.mem_map_of_mem key hy)
        simpa [htag y (.tail _ hy) e he] using hne
      · -- the first run has none of that tag
        have hne : key x₀ ≠ key x := fun heq => hnodup.1 (heq ▸ List.mem_map_of_mem key hx)
        rw [hi'.eq_right (List.filter_eq_nil_iff.mpr fun e he => by
          simpa [htag x₀ (.head _) e he] using hne)]
        exact Interleaving.filter_tag tag f key hrest hnodup.2
          (fun y hy => htag y (.tail _ hy)) x hx

/-! ### Replaying interleaved runs -/

/-- One call of a run, replayed on registrations that are the run's and others' `b`: the run moves
on from what the call leaves it, and the shared registrations change the same way. -/
theorem release_cons_of_perm {e : Event} {xs zs : List Event} {a a' b held : List Registration}
    (ha : release a (e :: xs) = some a') (hheld : held.Perm (a ++ b)) :
    ∃ a₁ held₁, release a₁ xs = some a' ∧ held₁.Perm (a₁ ++ b) ∧
      release held (e :: zs) = release held₁ zs := by
  rcases e with ⟨r, _ | _⟩ | r
  · exact ⟨a, held, ha, hheld, rfl⟩
  · exact ⟨r :: a, r :: held, ha, hheld.cons r, rfl⟩
  · rw [release] at ha
    split at ha
    · rename_i hr
      refine ⟨a.erase r, held.erase r, ha, ?_, ?_⟩
      · rw [← List.erase_append_left b hr]
        exact hheld.erase r
      · rw [release, if_pos (hheld.mem_iff.mpr (List.mem_append_left b hr))]
    · cases ha

/-- Two interleaved runs, replayed on registrations that are the union of what each holds: each
finds what it registered, and they leave the union of what each leaves. -/
theorem release_interleave {xs ys zs : List Event} (h : Interleave xs ys zs)
    {a a' b b' held : List Registration} (ha : release a xs = some a')
    (hb : release b ys = some b') (hheld : held.Perm (a ++ b)) :
    ∃ held', release held zs = some held' ∧ held'.Perm (a' ++ b') := by
  induction h generalizing a b held with
  | nil =>
    cases ha
    cases hb
    exact ⟨held, rfl, hheld⟩
  | left _ ih =>
    obtain ⟨a₁, held₁, ha₁, hheld₁, hrel⟩ := release_cons_of_perm ha hheld
    rw [hrel]
    exact ih ha₁ hb hheld₁
  | right _ ih =>
    obtain ⟨b₁, held₁, hb₁, hheld₁, hrel⟩ :=
      release_cons_of_perm hb (hheld.trans List.perm_append_comm)
    rw [hrel]
    exact ih ha hb₁ (hheld₁.trans List.perm_append_comm)

/-- Runs that each release all they register, interleaved in any order and replayed on any
registrations, never unsubscribe what is not held, and leave the registrations as they found
them. -/
theorem release_interleaving {runs : List (List Event)} {calls : List Event}
    (h : Interleaving runs calls) (hruns : ∀ run ∈ runs, release [] run = some [])
    (held : List Registration) :
    ∃ held', release held calls = some held' ∧ held'.Perm held := by
  induction h generalizing held with
  | nil => exact ⟨held, rfl, .refl held⟩
  | cons _ hrest ih =>
    obtain ⟨held₁, hrel₁, hperm₁⟩ := ih (fun run hrun => hruns run (.tail _ hrun)) held
    obtain ⟨held', hrel, hperm⟩ := release_interleave hrest (hruns _ (.head _)) hrel₁ (.refl held)
    exact ⟨held', hrel, hperm.trans hperm₁⟩

/-- The calls on some listeners, replayed alone from the registrations of those listeners, leave
what the full replay leaves of them: `release` erases a registration equal to the one unsubscribed,
listener included, so a call on another listener neither adds nor removes one of them. -/
theorem release_filter (p : Registration → Bool) {events : List Event} :
    ∀ {held held' : List Registration}, release held events = some held' →
      release (held.filter p) (events.filter fun e => p e.registration) = some (held'.filter p) := by
  induction events with
  | nil => intro held held' h; cases h; rfl
  | cons e events ih =>
    intro held held' h
    rw [List.filter_cons]
    rcases e with ⟨r, _ | _⟩ | r
    · -- a refused `Subscribe` holds nothing
      rw [release] at h
      split <;> exact ih h
    · -- a registered one is held
      have ih := ih h
      rw [List.filter_cons] at ih
      by_cases hp : p r = true
      · rw [if_pos hp] at ih; rw [if_pos (by exact hp), release]; exact ih
      · rw [if_neg hp] at ih; rw [if_neg (by exact hp)]; exact ih
    · -- an `Unsubscribe` of a held registration; of one of those listeners only if it is theirs
      rw [release] at h
      split at h
      · rename_i hr
        have ih := ih h
        rw [← List.erase_filter] at ih
        by_cases hp : p r = true
        · rw [if_pos (by exact hp), release, if_pos (List.mem_filter.mpr ⟨hr, hp⟩)]; exact ih
        · rw [if_neg (by exact hp)]
          rwa [List.erase_of_not_mem fun hm => hp (List.mem_filter.mp hm).2] at ih
      · cases h

/-! ### The streams -/

section Streams

variable {W : Type} (podIPIndex hostIPIndex : List Char)

/-- Every watcher call a frame records, and every `Unsubscribe` it defers, is on a listener of
`stream`. -/
def Frame.OwnedBy (stream : ServerStream) (frame : Frame) : Prop :=
  (∀ e ∈ frame.events, e.registration.listener.stream = stream) ∧
    ∀ r ∈ frame.deferred, r.listener.stream = stream

theorem subscribesKeep_ownedBy (subscribeResult : Nat → Registration → Option GoError)
    (stream : ServerStream) : SubscribesKeep (Frame.OwnedBy stream) subscribeResult stream := by
  intro r handle hr frame hframe
  rw [exec_subscribeOrReturn]
  have hevents : ∀ registered, ∀ e ∈ frame.events ++ [.subscribe r registered],
      e.registration.listener.stream = stream := fun _ =>
    List.forall_mem_append.mpr ⟨hframe.1, List.forall_mem_singleton.mpr hr⟩
  split
  · exact ⟨hevents false, hframe.2⟩
  · exact ⟨hevents true, List.forall_mem_cons.mpr ⟨hr, hframe.2⟩⟩

theorem serversKeep_ownedBy (stream : ServerStream) : ServersKeep (Frame.OwnedBy stream) stream :=
  fun _ hr _ hframe =>
    ⟨List.forall_mem_append.mpr ⟨hframe.1, List.forall_mem_singleton.mpr hr⟩,
      List.forall_mem_cons.mpr ⟨hr, hframe.2⟩⟩

/-- A handler that only calls on `stream`'s listeners makes, to its return, only such calls. -/
theorem runToReturn_ownedBy {α : Type} {stream : ServerStream} {h : Handler α}
    (hh : Preserves (Frame.OwnedBy stream) h) :
    ∀ e ∈ h.runToReturn.2, e.registration.listener.stream = stream := by
  obtain ⟨hevents, hdeferred⟩ := hh ⟨[], [], 0⟩
    ⟨fun e he => absurd he (List.not_mem_nil e), fun r hr => absurd hr (List.not_mem_nil r)⟩
  intro e he
  rcases List.mem_append.mp he with he | he
  · exact hevents e he
  · obtain ⟨r, hr, rfl⟩ := List.mem_map.mp he
    exact hdeferred r hr

/-- A stream the server serves: a `Get` or a `GetProfile` call on the stream `server`, with the
caches it reads, the answers the watchers give its `Subscribe` calls, and its request. -/
inductive Stream (W : Type)
  | get (subscribeResult : Nat → Registration → Option GoError) (cluster : Cluster W)
    (dest : GetDestination) (server : ServerStream)
  | getProfile (subscribeResult : Nat → Registration → Option GoError) (cluster : Cluster W)
    (dest : GetDestination) (server : ServerStream)

/-- The stream the call serves. -/
def Stream.server : Stream W → ServerStream
  | .get _ _ _ server | .getProfile _ _ _ server => server

/-- The watcher calls a stream makes, from its start to its return. -/
def Stream.calls : Stream W → List Event
  | .get subscribeResult cluster dest server =>
    (Destination.get subscribeResult cluster dest server).runToReturn.2
  | .getProfile subscribeResult cluster dest server =>
    (Destination.getProfile subscribeResult cluster podIPIndex hostIPIndex dest server).runToReturn.2

/-- A stream releases, on return, all it registered. -/
theorem release_calls (stream : Stream W) :
    release [] (stream.calls podIPIndex hostIPIndex) = some [] := by
  cases stream with
  | get subscribeResult cluster dest server =>
    exact release_runToReturn _ (preserves_get subscribeResult cluster
      (subscribesKeep_balanced subscribeResult) dest)
  | getProfile subscribeResult cluster dest server =>
    exact release_runToReturn _ (preserves_getProfile subscribeResult cluster podIPIndex
      hostIPIndex (subscribesKeep_balanced subscribeResult) serversKeep_balanced dest)

/-- Every call a stream makes is on one of its own listeners. -/
theorem calls_ownedBy (stream : Stream W) :
    ∀ e ∈ stream.calls podIPIndex hostIPIndex, e.registration.listener.stream = stream.server := by
  cases stream with
  | get subscribeResult cluster dest server =>
    exact runToReturn_ownedBy (preserves_get subscribeResult cluster
      (subscribesKeep_ownedBy subscribeResult server) dest)
  | getProfile subscribeResult cluster dest server =>
    exact runToReturn_ownedBy (preserves_getProfile subscribeResult cluster podIPIndex hostIPIndex
      (subscribesKeep_ownedBy subscribeResult server) (serversKeep_ownedBy server) dest)

/-- **Streams on shared watchers lose, duplicate and take no registration.**  Whatever the streams,
their requests, the caches each read, the watchers' answers and the order their calls interleave
in, from registrations of no listener of theirs: no stream ever unsubscribes a registration that is
not held, and once every stream has returned the watchers hold exactly the registrations they held
before; and at every point of the interleaving, the calls made so far on each stream's listeners
are the start of that stream's own calls, and the registrations of its listeners the watchers hold
are exactly what those calls, replayed alone, leave. -/
theorem streams_release (streams : List (Stream W)) (hdistinct : (streams.map Stream.server).Nodup)
    {calls : List Event} (h : Interleaving (streams.map (Stream.calls podIPIndex hostIPIndex)) calls)
    (held : List Registration)
    (hheld : ∀ r ∈ held, r.listener.stream ∉ streams.map Stream.server) :
    (∃ held', release held calls = some held' ∧ held'.Perm held) ∧
      ∀ pre, pre <+: calls → ∃ now, release held pre = some now ∧ ∀ stream ∈ streams,
        pre.filter (·.registration.listener.stream = stream.server) <+:
          stream.calls podIPIndex hostIPIndex ∧
        release [] (pre.filter (·.registration.listener.stream = stream.server)) =
          some (now.filter (·.listener.stream = stream.server)) := by
  obtain ⟨held', hrel, hperm⟩ := release_interleaving h
    (by simpa using fun stream _ => release_calls podIPIndex hostIPIndex stream) held
  refine ⟨⟨held', hrel, hperm⟩, fun pre ⟨suf, hsuf⟩ => ?_⟩
  subst hsuf
  rw [release_append] at hrel
  obtain ⟨now, hnow, -⟩ := Option.bind_eq_some.mp hrel
  refine ⟨now, hnow, fun stream hstream => ⟨?_, ?_⟩⟩
  · -- the calls on the stream's listeners are its own calls
    rw [← Interleaving.filter_tag (fun e => e.registration.listener.stream)
      (Stream.calls podIPIndex hostIPIndex) Stream.server h hdistinct
      (fun s _ => calls_ownedBy podIPIndex hostIPIndex s) stream hstream]
    exact (List.prefix_append pre suf).filter _
  · -- the registrations held before are of no listener of the stream
    have hnone : held.filter (·.listener.stream = stream.server) = [] :=
      List.filter_eq_nil_iff.mpr fun r hr heq => hheld r hr <| by
        rw [of_decide_eq_true heq]; exact List.mem_map_of_mem Stream.server hstream
    have := release_filter (fun r => decide (r.listener.stream = stream.server)) hnow
    rwa [hnone] at this

/-- Two `Get` streams for `web.emojivoto.svc.cluster.local:8080`, whose calls interleave: both
subscribe their translators to the same key, then both unsubscribe; each unsubscribes its own, and
the watchers end as they began. -/
theorem streams_release_webTwice :
    let dest : GetDestination := ⟨"web.emojivoto.svc.cluster.local:8080".toList, []⟩
    let streams : List (Stream Unit) :=
      [.get (fun _ _ => none) webCluster dest ⟨0⟩, .get (fun _ _ => none) webCluster dest ⟨1⟩]
    let r : ServerStream → Registration := fun server =>
      .endpoints { name := "web".toList, ns := "emojivoto".toList } 8080 [] (.endpointTranslator [] server)
    let calls := [Event.subscribe (r ⟨0⟩) true, .subscribe (r ⟨1⟩) true, .unsubscribe (r ⟨0⟩),
      .unsubscribe (r ⟨1⟩)]
    Interleaving (streams.map (Stream.calls [] [])) calls ∧
      (∃ held', release [] calls = some held' ∧ held'.Perm []) ∧
      ∀ pre, pre <+: calls → ∃ now, release [] pre = some now ∧ ∀ stream ∈ streams,
        pre.filter (·.registration.listener.stream = stream.server) <+: stream.calls [] [] ∧
        release [] (pre.filter (·.registration.listener.stream = stream.server)) =
          some (now.filter (·.listener.stream = stream.server)) := by
  intro dest streams r calls
  have hcalls : ∀ server, (Stream.get (fun _ _ => none) webCluster dest server).calls [] [] =
      [.subscribe (r server) true, .unsubscribe (r server)] := fun server => by
    cases server
    rfl
  have h : Interleaving (streams.map (Stream.calls [] [])) calls := by
    simp only [streams, List.map_cons, List.map_nil, hcalls]
    exact .cons (.cons .nil (interleave_append _ [])) (.left (.right (.left (.right .nil))))
  exact ⟨h, streams_release [] [] streams (by decide) h [] fun _ hr => absurd hr (List.not_mem_nil _)⟩

end Streams

end Destination
end Linkerd
