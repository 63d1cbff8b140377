import Linkerd.Viz.Api
import Mathlib.Logic.Relation

/-!
# `StatSummary`: the query goroutines and the result channel

`StatSummary` first checks the request; a request that fails a check is answered at once with an
error response naming the selected resource.  Otherwise it spawns one goroutine per resource type
to query (every type of `k8s.StatAllResourceTypes` for type `all`, else the selected type), each of
which sends its result on the unbuffered channel `resultChan`, and then receives as many results as
it spawned goroutines, returning on the first error.

The goroutines are modelled by the results they will send, and the handler and its goroutines by a
step relation `Step` on `Run`: on an unbuffered channel a send completes only together with the
receive that takes it, so a step is the handler taking the result of any goroutine still blocked on
its send, in any order, or the handler leaving its loop.  Every interleaving of the sends is a path
of `Step`.

* `Inv` / `inv_start` / `inv_step` / `inv_reachable` — at every reachable state the tables received,
  the goroutines still blocked and the error received, if any, account for every goroutine spawned.
* `eq_of_reachable_of_returned` — once the handler has returned nothing moves: no one receives on
  `resultChan` again, so a goroutine blocked then stays blocked forever.
* `reachable_returned` — the handler returns either every table with no goroutine left, or an error
  with `count - 1 - |tables|` goroutines left blocked; `exists_step_of_reachable` — it never blocks
  before it returns.
* `tables_of_returned_ok`, `returned_ne_error`, `reachable_returned_ok` — what the handler returns:
  tables only when every query succeeded, each query's table once; and when every query succeeds,
  never an error, and some interleaving returns; `statSummary_returns` puts them together.
* `ErrorsFrom` / `errorsFrom_reachable` / `error_of_returned` — an error the handler returns is the
  error of one of the queries, through `GRPCError`.
* `statSummary_strandsGoroutine` — for type `all`, when the query received first fails, the handler
  returns with the other goroutines blocked on their sends forever.
-/

namespace Linkerd
namespace Viz

open Go

/-- The resource type names of the `k8s` package that `StatSummary` compares against, and
`k8s.StatAllResourceTypes`; that package is outside this repository's sources, so they are
parameters. -/
structure ResourceTypes where
  all : List Char
  service : List Char
  server : List Char
  serverAuthorization : List Char
  statAllResourceTypes : List (List Char)

/-- `resourceResult`: the stat table a query goroutine sends, or its error. -/
structure ResourceResult (τ : Type) where
  res : τ
  err : Option GoError

/-- `pb.StatSummaryResponse`: an error about the selected resource, or the stat tables. -/
inductive StatSummaryResponse (τ : Type)
  | error (resource : Option Resource) (message : List Char)
  | ok (statTables : List τ)

/-- `req.GetFromResource()`: the `--from` resource, when the request has one. -/
def StatSummaryRequest.fromResource (req : StatSummaryRequest) : Option Resource :=
  match req.outbound with
  | .fromResource resource => some resource
  | _ => none

section Handler

variable (types : ResourceTypes)

/-- `isPolicyResource`. -/
def isPolicyResource (resource : Option Resource) : Bool :=
  match resource with
  | some resource => resource.type = types.server ∨ resource.type = types.serverAuthorization
  | none => false

/-- The checks `StatSummary` makes before it queries anything, in order: the message of the first
that fails. -/
def checkRequest (req : StatSummaryRequest) : Option (List Char) :=
  if req.selectorResource = none then
    some "StatSummary request missing Selector Resource".toList
  else if req.fromResource.map Resource.type = some types.service then
    some ("service is not supported as a target on 'from' queries, or as a target with " ++
      "'to' queries").toList
  else if req.fromResource.isSome ∧ isPolicyResource types req.selectorResource then
    some ("'from' queries are not supported with policy resources, as they have inbound " ++
      "metrics only").toList
  else match req.outbound with
    | .toResource resource =>
      if resource.type = types.all then some "resource type 'all' is not supported as a filter".toList
      else none
    | .fromResource resource =>
      if resource.type = types.all then some "resource type 'all' is not supported as a filter".toList
      else none
    | .none => none

/-- `resourcesToQuery`: every type for type `all`, else the selected type. -/
def resourcesToQuery (req : StatSummaryRequest) : List (List Char) :=
  if req.selectorType = types.all then types.statAllResourceTypes else [req.selectorType]

end Handler

/-- A `StatSummary` call once its goroutines are spawned: how many it spawned, the results of those
still blocked on their send, the tables received so far (the loop counter is their number), and what
the handler returned, once it has. -/
structure Run (τ : Type) where
  count : Nat
  pending : List (ResourceResult τ)
  statTables : List τ
  returned : Option (Except GoError (List τ))

section Channel

variable {τ : Type}
  -- `vizutil.GRPCError`, outside this repository's sources: how an error is returned over gRPC.
  (grpcError : GoError → GoError)

/-- The handler receives the result of the `i`-th blocked goroutine: it returns the error, or
appends the table. -/
def Run.receive (s : Run τ) (i : Fin s.pending.length) : Run τ :=
  let result := s.pending.get i
  let s := { s with pending := s.pending.eraseIdx i }
  match result.err with
  | some err => { s with returned := some (.error (grpcError err)) }
  | none => { s with statTables := s.statTables ++ [result.res] }

/-- One step of the handler and its goroutines: a send and its receive while the handler is in its
loop, or the handler leaving the loop with every table. -/
inductive Step : Run τ → Run τ → Prop
  | receive (s : Run τ) (i : Fin s.pending.length) (hloop : s.statTables.length < s.count)
      (hlive : s.returned = none) : Step s (s.receive grpcError i)
  | exit (s : Run τ) (hdone : s.statTables.length = s.count) (hlive : s.returned = none) :
      Step s { s with returned := some (.ok s.statTables) }

/-- The states a run can reach. -/
def Reachable (s s' : Run τ) : Prop := Relation.ReflTransGen (Step grpcError) s s'

/-- The goroutines spawned for the resource types, each to send the result `result` assigns it. -/
def start (resources : List (List Char)) (result : List Char → ResourceResult τ) : Run τ :=
  { count := resources.length, pending := resources.map result, statTables := [], returned := none }

/-- Every goroutine is accounted for: while the handler is in its loop, by a table received or a
blocked send; once it returned an error, also by that error; once it returned the tables, by them
alone. -/
def Inv (s : Run τ) : Prop :=
  (s.returned = none ∧ s.statTables.length + s.pending.length = s.count) ∨
  (∃ err, s.returned = some (.error err) ∧ s.statTables.length + s.pending.length + 1 = s.count) ∨
  (s.returned = some (.ok s.statTables) ∧ s.pending = [] ∧ s.statTables.length = s.count)

theorem step_returned_eq_none {s s' : Run τ} (h : Step grpcError s s') : s.returned = none := by
  cases h <;> assumption

/-- Once the handler has returned nothing moves. -/
theorem eq_of_reachable_of_returned {s s' : Run τ} (h : Reachable grpcError s s')
    (hret : s.returned ≠ none) : s' = s := by
  induction h using Relation.ReflTransGen.head_induction_on with
  | refl => rfl
  | head hstep _ _ => exact absurd (step_returned_eq_none grpcError hstep) hret

theorem receive_of_err (s : Run τ) (i : Fin s.pending.length) {err : GoError}
    (h : (s.pending.get i).err = some err) :
    s.receive grpcError i =
      { s with pending := s.pending.eraseIdx i, returned := some (.error (grpcError err)) } := by
  simp only [Run.receive, h]

theorem receive_of_ok (s : Run τ) (i : Fin s.pending.length) (h : (s.pending.get i).err = none) :
    s.receive grpcError i =
      { s with pending := s.pending.eraseIdx i, statTables := s.statTables ++ [(s.pending.get i).res] } := by
  simp only [Run.receive, h]

theorem length_eraseIdx_add_one (s : Run τ) (i : Fin s.pending.length) :
    (s.pending.eraseIdx i).length + 1 = s.pending.length := by
  rw [List.length_eraseIdx, if_pos i.isLt]; have := i.isLt; omega

theorem step_count {s s' : Run τ} (h : Step grpcError s s') : s'.count = s.count := by
  cases h with
  | receive i =>
    cases hr : (s.pending.get i).err
    · rw [receive_of_ok grpcError s i hr]
    · rw [receive_of_err grpcError s i hr]
  | exit => rfl

theorem count_reachable {s s' : Run τ} (h : Reachable grpcError s s') : s'.count = s.count := by
  induction h with
  | refl => rfl
  | tail _ hstep ih => rw [step_count grpcError hstep, ih]

theorem inv_start (resources : List (List Char)) (result : List Char → ResourceResult τ) :
    Inv (start resources result) :=
  .inl ⟨rfl, by simp [start]⟩

theorem inv_step {s s' : Run τ} (hinv : Inv s) (h : Step grpcError s s') : Inv s' := by
  cases h with
  | receive i hloop hlive =>
    have hlen := length_eraseIdx_add_one s i
    have hcount : s.statTables.length + s.pending.length = s.count := by
      rcases hinv with ⟨-, h⟩ | ⟨_, h, -⟩ | ⟨h, -⟩ <;> simp_all
    cases hr : (s.pending.get i).err with
    | none =>
      rw [receive_of_ok grpcError s i hr]
      exact .inl ⟨hlive, by simp only [List.length_append, List.length_singleton]; omega⟩
    | some err =>
      rw [receive_of_err grpcError s i hr]
      exact .inr (.inl ⟨_, rfl, by simp only; omega⟩)
  | exit hdone hlive =>
    have hcount : s.statTables.length + s.pending.length = s.count := by
      rcases hinv with ⟨-, h⟩ | ⟨_, h, -⟩ | ⟨h, -⟩ <;> simp_all
    exact .inr (.inr ⟨rfl, List.eq_nil_of_length_eq_zero (by simp only; omega), hdone⟩)

theorem inv_reachable {s s' : Run τ} (hinv : Inv s) (h : Reachable grpcError s s') : Inv s' := by
  induction h with
  | refl => exact hinv
  | tail _ hstep ih => exact inv_step grpcError ih hstep

/-- The handler returns every table with no goroutine left, or an error with `count - 1 - |tables|`
goroutines left blocked. -/
theorem reachable_returned (resources : List (List Char)) (result : List Char → ResourceResult τ)
    {s : Run τ} (h : Reachable grpcError (start resources result) s)
    {r : Except GoError (List τ)} (hret : s.returned = some r) :
    (r = .ok s.statTables ∧ s.pending = [] ∧ s.statTables.length = resources.length) ∨
    (∃ err, r = .error err ∧ s.statTables.length + s.pending.length + 1 = resources.length) := by
  have hcount : s.count = resources.length := count_reachable grpcError h
  rcases inv_reachable grpcError (inv_start resources result) h with ⟨h0, -⟩ | ⟨err, h1, h2⟩ | h3
  · simp_all
  · exact .inr ⟨err, by simp_all, hcount ▸ h2⟩
  · exact .inl (by simp_all)

/-- The handler never blocks before it returns: at every reachable state where it has not returned,
some goroutine can send to it, or it can leave its loop. -/
theorem exists_step_of_reachable (resources : List (List Char))
    (result : List Char → ResourceResult τ) {s : Run τ}
    (h : Reachable grpcError (start resources result) s) (hlive : s.returned = none) :
    ∃ s', Step grpcError s s' := by
  have hcount : s.statTables.length + s.pending.length = s.count := by
    rcases inv_reachable grpcError (inv_start resources result) h with ⟨-, h⟩ | ⟨_, h, -⟩ | ⟨h, -⟩ <;>
      simp_all
  by_cases hdone : s.statTables.length = s.count
  · exact ⟨_, .exit s hdone hlive⟩
  · exact ⟨_, .receive s ⟨0, by omega⟩ (by omega) hlive⟩

/-- When the result the handler takes first is an error, it returns that error and leaves every other
goroutine blocked on its send for good. -/
theorem start_strands (t : List Char) (ts : List (List Char))
    (result : List Char → ResourceResult τ) {err : GoError} (herr : (result t).err = some err) :
    ∃ s, Reachable grpcError (start (t :: ts) result) s ∧
      s.returned = some (.error (grpcError err)) ∧ s.pending = ts.map result ∧
      ∀ s', Reachable grpcError s s' → s' = s := by
  let i : Fin (start (t :: ts) result).pending.length := ⟨0, by simp [start]⟩
  have hstep := @Step.receive τ grpcError (start (t :: ts) result) i (by simp [start]) rfl
  rw [receive_of_err grpcError _ i herr] at hstep
  exact ⟨_, .single hstep, rfl, rfl,
    fun s' h => eq_of_reachable_of_returned grpcError h (by simp)⟩

/-! ### The tables the handler returns -/

theorem perm_get_cons_eraseIdx {α : Type} (l : List α) (i : Fin l.length) :
    l.Perm (l.get i :: l.eraseIdx i) := by
  have h := @List.perm_middle _ (l.get i) (l.take i) (l.drop (i + 1))
  rwa [← List.eraseIdx_eq_take_drop_succ, List.get_eq_getElem, List.getElem_cons_drop,
    List.take_append_drop] at h

/-- The results the handler has taken are tables, the `statTables` it holds, and with those still
pending they are the results of all goroutines. -/
def Taken (all : List (ResourceResult τ)) (statTables : List τ) (pending : List (ResourceResult τ)) :
    Prop :=
  ∃ taken : List (ResourceResult τ), (taken ++ pending).Perm all ∧ (∀ r ∈ taken, r.err = none) ∧
    statTables = taken.map ResourceResult.res

/-- While the handler is in its loop it has taken tables from `all`; once it returned tables they
are all of them. -/
def TablesInv (all : List (ResourceResult τ)) (s : Run τ) : Prop :=
  match s.returned with
  | none => Taken all s.statTables s.pending
  | some (.ok tables) => Taken all tables []
  | some (.error _) => True

theorem pending_eq_nil_of_inv {s : Run τ} (hinv : Inv s) (hlive : s.returned = none)
    (hdone : s.statTables.length = s.count) : s.pending = [] := by
  have hcount : s.statTables.length + s.pending.length = s.count := by
    rcases hinv with ⟨-, h⟩ | ⟨_, h, -⟩ | ⟨h, -⟩ <;> simp_all
  exact List.eq_nil_of_length_eq_zero (by omega)

theorem tablesInv_step {all : List (ResourceResult τ)} {s s' : Run τ} (hinv : Inv s)
    (htables : TablesInv all s) (h : Step grpcError s s') : TablesInv all s' := by
  cases h with
  | receive i hloop hlive =>
    simp only [TablesInv, hlive] at htables
    obtain ⟨taken, hperm, hok, hstat⟩ := htables
    cases hr : (s.pending.get i).err with
    | none =>
      rw [receive_of_ok grpcError s i hr]
      simp only [TablesInv, hlive]
      refine ⟨taken ++ [s.pending.get i], ?_, fun r hmem => ?_, by simp [hstat]⟩
      · refine List.Perm.trans ?_ hperm
        simpa using ((perm_get_cons_eraseIdx s.pending i).append_left taken).symm
      · rcases List.mem_append.mp hmem with hmem | hmem
        · exact hok r hmem
        · rw [List.mem_singleton.mp hmem, hr]
    | some err =>
      rw [receive_of_err grpcError s i hr]
      trivial
  | exit hdone hlive =>
    simp only [TablesInv, hlive] at htables
    simp only [TablesInv]
    rwa [pending_eq_nil_of_inv hinv hlive hdone] at htables

theorem tablesInv_reachable (resources : List (List Char)) (result : List Char → ResourceResult τ)
    {s : Run τ} (h : Reachable grpcError (start resources result) s) :
    TablesInv (resources.map result) s := by
  induction h with
  | refl => exact ⟨[], by simp [start], by simp, rfl⟩
  | tail hreach hstep ih =>
    exact tablesInv_step grpcError (inv_reachable grpcError (inv_start resources result) hreach) ih
      hstep

/-- When the handler returns tables, every goroutine's query succeeded and the tables are their
tables, each once, in some order. -/
theorem tables_of_returned_ok (resources : List (List Char)) (result : List Char → ResourceResult τ)
    {s : Run τ} (h : Reachable grpcError (start resources result) s) {tables : List τ}
    (hret : s.returned = some (.ok tables)) :
    (∀ t ∈ resources, (result t).err = none) ∧
      tables.Perm (resources.map fun t => (result t).res) := by
  have htables := tablesInv_reachable grpcError resources result h
  simp only [TablesInv, hret] at htables
  obtain ⟨taken, hperm, hok, rfl⟩ := htables
  rw [List.append_nil] at hperm
  refine ⟨fun t ht => hok _ (hperm.symm.subset (List.mem_map_of_mem result ht)), ?_⟩
  simpa [List.map_map] using hperm.map ResourceResult.res

/-- When every query succeeds the handler never returns an error, whatever the interleaving. -/
theorem returned_ne_error (resources : List (List Char)) (result : List Char → ResourceResult τ)
    (hok : ∀ t ∈ resources, (result t).err = none) {s : Run τ}
    (h : Reachable grpcError (start resources result) s) (err : GoError) :
    s.returned ≠ some (.error err) := by
  induction h generalizing err with
  | refl => simp [start]
  | tail hreach hstep ih =>
    cases hstep with
    | receive i hloop hlive =>
      have htables := tablesInv_reachable grpcError resources result hreach
      simp only [TablesInv, hlive] at htables
      obtain ⟨taken, hperm, -, -⟩ := htables
      have hmem : _ ∈ resources.map result :=
        hperm.subset (List.mem_append_right taken (List.get_mem _ i.1 i.2))
      obtain ⟨t, ht, hti⟩ := List.mem_map.mp hmem
      rw [receive_of_ok grpcError _ i (hti ▸ hok t ht)]
      simp [hlive]
    | exit => simp

/-- Taking the blocked goroutines' results in order reaches the end of the loop with all their
tables. -/
theorem reachable_drain (s : Run τ) (hlive : s.returned = none)
    (hcount : s.statTables.length + s.pending.length = s.count)
    (hok : ∀ r ∈ s.pending, r.err = none) :
    Reachable grpcError s
      { s with pending := [], statTables := s.statTables ++ s.pending.map ResourceResult.res } := by
  obtain ⟨count, pending, statTables, returned⟩ := s
  simp only at hlive hcount hok ⊢
  subst hlive
  induction pending generalizing statTables with
  | nil => simpa using Relation.ReflTransGen.refl
  | cons r rest ih =>
    have hstep := @Step.receive τ grpcError ⟨count, r :: rest, statTables, none⟩
      ⟨0, by simp⟩ (by simp at hcount ⊢; omega) rfl
    rw [receive_of_ok grpcError ⟨count, r :: rest, statTables, none⟩ ⟨0, by simp⟩
      (hok r (.head _))] at hstep
    have hrest := ih (statTables ++ [r.res]) (by simp at hcount ⊢; omega)
      (fun r' hr' => hok r' (.tail _ hr'))
    simp only [List.map_cons, List.append_assoc, List.singleton_append] at hrest ⊢
    exact .head hstep hrest

/-- When every query succeeds the handler can always finish: taking the goroutines in order, it
returns all their tables. -/
theorem reachable_returned_ok (resources : List (List Char)) (result : List Char → ResourceResult τ)
    (hok : ∀ t ∈ resources, (result t).err = none) :
    Reachable grpcError (start resources result)
      { count := resources.length, pending := [],
        statTables := resources.map (fun t => (result t).res),
        returned := some (.ok (resources.map fun t => (result t).res)) } := by
  have hdrain : Reachable grpcError (start resources result)
      ⟨resources.length, [], resources.map fun t => (result t).res, none⟩ := by
    simpa [start, List.map_map, Function.comp_def] using
      reachable_drain grpcError (start resources result) rfl (by simp [start])
        (by simpa [start] using hok)
  exact hdrain.tail (@Step.exit τ grpcError _ (by simp) rfl)

/-! ### The error the handler returns -/

/-- The results still blocked are among `all`, and an error the handler returned is one of theirs,
through `grpcError`. -/
def ErrorsFrom (all : List (ResourceResult τ)) (s : Run τ) : Prop :=
  (∀ r ∈ s.pending, r ∈ all) ∧
    ∀ e, s.returned = some (.error e) → ∃ r ∈ all, ∃ err, r.err = some err ∧ e = grpcError err

theorem errorsFrom_step {all : List (ResourceResult τ)} {s s' : Run τ}
    (hfrom : ErrorsFrom grpcError all s) (h : Step grpcError s s') :
    ErrorsFrom grpcError all s' := by
  obtain ⟨hpending, herror⟩ := hfrom
  cases h with
  | receive i hloop hlive =>
    have hsub : ∀ r ∈ s.pending.eraseIdx i, r ∈ all :=
      fun r hr => hpending r ((List.eraseIdx_sublist _ _).subset hr)
    cases hr : (s.pending.get i).err with
    | none =>
      rw [receive_of_ok grpcError s i hr]
      exact ⟨hsub, fun e he => by simp [hlive] at he⟩
    | some err =>
      rw [receive_of_err grpcError s i hr]
      exact ⟨hsub, fun e he => ⟨_, hpending _ (List.get_mem _ _ _), err, hr, by simpa using he.symm⟩⟩
  | exit hdone hlive => exact ⟨hpending, fun e he => by simp at he⟩

theorem errorsFrom_reachable (resources : List (List Char)) (result : List Char → ResourceResult τ)
    {s : Run τ} (h : Reachable grpcError (start resources result) s) :
    ErrorsFrom grpcError (resources.map result) s := by
  induction h with
  | refl => exact ⟨fun r hr => by simpa [start] using hr, fun e he => by simp [start] at he⟩
  | tail _ hstep ih => exact errorsFrom_step grpcError ih hstep

/-- An error the handler returns is the error of one of the goroutines' queries. -/
theorem error_of_returned (resources : List (List Char)) (result : List Char → ResourceResult τ)
    {s : Run τ} (h : Reachable grpcError (start resources result) s) {e : GoError}
    (hret : s.returned = some (.error e)) :
    ∃ t ∈ resources, ∃ err, (result t).err = some err ∧ e = grpcError err := by
  obtain ⟨r, hr, err, herr, rfl⟩ := (errorsFrom_reachable grpcError resources result h).2 e hret
  obtain ⟨t, ht, rfl⟩ := List.mem_map.mp hr
  exact ⟨t, ht, err, herr, rfl⟩

end Channel

section Handler

variable (types : ResourceTypes) {τ : Type}

/-- `StatSummary` up to its goroutines: the error response of a failed check, or the run of the
goroutines it spawns. -/
def statSummary (req : StatSummaryRequest) (result : List Char → ResourceResult τ) :
    StatSummaryResponse τ ⊕ Run τ :=
  match checkRequest types req with
  | some message => .inl (.error req.selectorResource message)
  | none => .inr (start (resourcesToQuery types req) result)

/-- **What `StatSummary` returns, over every interleaving.**  For a request that passes its checks:
when the handler returns tables, every resource type's query succeeded and the tables are those
queries' tables, each once, in some order; when every query succeeds, it never returns an error,
and taking the goroutines' sends in order it returns their tables. -/
theorem statSummary_returns (grpcError : GoError → GoError) (req : StatSummaryRequest)
    (result : List Char → ResourceResult τ) {run : Run τ}
    (hrun : statSummary types req result = .inr run) :
    (∀ s statTables, Reachable grpcError run s → s.returned = some (.ok statTables) →
      (∀ t ∈ resourcesToQuery types req, (result t).err = none) ∧
        statTables.Perm ((resourcesToQuery types req).map fun t => (result t).res)) ∧
    ((∀ t ∈ resourcesToQuery types req, (result t).err = none) →
      (∀ s err, Reachable grpcError run s → s.returned ≠ some (.error err)) ∧
      Reachable grpcError run ⟨(resourcesToQuery types req).length, [],
        (resourcesToQuery types req).map (fun t => (result t).res),
        some (.ok ((resourcesToQuery types req).map fun t => (result t).res))⟩) := by
  unfold statSummary at hrun
  split at hrun
  · cases hrun
  · cases hrun
    exact ⟨fun s _ h hret => tables_of_returned_ok grpcError _ result h hret,
      fun hok => ⟨fun s err h => returned_ne_error grpcError _ result hok h err,
        reachable_returned_ok grpcError _ result hok⟩⟩

end Handler

/-- A request for pods whose query succeeds: `StatSummary` returns the pods' table. -/
theorem statSummary_returns_pods :
    ∃ run, statSummary ⟨"all".toList, "service".toList, "server".toList,
        "serverauthorization".toList, ["deployment".toList, "pod".toList]⟩
        ⟨some ⟨some ⟨"emojivoto".toList, "pod".toList, []⟩, []⟩, .none, "1m".toList, false, false⟩
        (fun _ => (⟨(), none⟩ : ResourceResult Unit)) = .inr run ∧
      Reachable id run ⟨1, [], [()], some (.ok [()])⟩ :=
  ⟨_, rfl, ((statSummary_returns ⟨"all".toList, "service".toList, "server".toList,
    "serverauthorization".toList, ["deployment".toList, "pod".toList]⟩ id
    ⟨some ⟨some ⟨"emojivoto".toList, "pod".toList, []⟩, []⟩, .none, "1m".toList, false, false⟩
    (fun _ => (⟨(), none⟩ : ResourceResult Unit)) rfl).2 (by simp)).2⟩

/-- A request for every resource type, where the query for the first type fails and is the first
to send: `StatSummary` returns the error while the goroutine of the other type stays blocked on its
send forever. -/
theorem statSummary_strandsGoroutine (grpcError : GoError → GoError) :
    let types : ResourceTypes := ⟨"all".toList, "service".toList, "server".toList,
      "serverauthorization".toList, ["deployment".toList, "pod".toList]⟩
    let req : StatSummaryRequest :=
      ⟨some ⟨some ⟨"emojivoto".toList, "all".toList, []⟩, []⟩, .none, "1m".toList, false, false⟩
    let err : GoError := .plain "query failed".toList
    let result : List Char → ResourceResult Unit :=
      fun type => ⟨(), if type = "deployment".toList then some err else none⟩
    ∃ run, statSummary types req result = .inr run ∧
      ∃ s, Reachable grpcError run s ∧ s.returned = some (.error (grpcError err)) ∧
        s.pending.length = 1 ∧ ∀ s', Reachable grpcError s s' → s' = s := by
  intro types req err result
  obtain ⟨s, hreach, hret, hpending, hstuck⟩ := start_strands grpcError "deployment".toList
    ["pod".toList] result (by simp [result] : (result "deployment".toList).err = some err)
  exact ⟨_, rfl, s, hreach, hret, by simp [hpending], hstuck⟩

end Viz
end Linkerd
