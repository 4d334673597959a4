import Reconciler.Db.Builder
import Reconciler.Cluster.StatusChanges

/-!
# The filters of the reconciliation repositories

Every filter of `pkg/scheduler/reconciliation/filter.go` and of `operation/filter.go` is
written twice: `FilterByQuery` adds conditions to the select of the persistent repository,
and `FilterByInstance` tests one entity for the in-memory repository.  A `Limit` counts the
entities it has let through, so a filter has a state that carries from one entity to the
next; the class `Filter` is the Go interface with that state made explicit.  A `FilterMixer`
runs its filters in order, on the select and on each entity, where it stops at the first
filter that drops the entity.

The in-memory repository ranges over Go maps, in an order the runtime chooses: its loops take
the entities in the order they are visited, and every result holds for every order.

What holds: in any mixer of reconciliation filters the select numbers its placeholders
`$1 … $n` in order, bound to the values of the filters in order
(`FilterMixer.reconciliation_placeholders_bound`), and in memory a mixer that ends in a limit
keeps the first `Count` of what its other filters let through, in the order the map is visited
(`ReconciliationFilter.getReconciliations_tests_limit`).  What does not: `WithStatuses` and
`WithRuntimeIDs` with no values add no condition to the select, which then returns every row,
while their `FilterByInstance` drops every entity.
-/

namespace Reconciler

open Builder

/-- The values the filters bind to placeholders: Go's `string`, `bool` and `int64`, and a
time as `Format("2006-01-02 15:04:05.000")` prints it, here by its milliseconds. -/
inductive SqlArg
  | string (s : String)
  | bool (b : Bool)
  | int (n : Int)
  | timestamp (t : Nat)
  deriving DecidableEq, Repr

/-- The `Filter` interface of the packages `reconciliation` and `operation`, over entities
`ε`: `FilterByQuery` writes conditions on a select or fails; `FilterByInstance` returns the
entity or nil, with the filter as the call leaves it. -/
class Filter (φ : Type) (ε : outParam Type) where
  filterByQuery : φ → Stmt SqlArg → Except String (Stmt SqlArg)
  filterByInstance : φ → ε → Option ε × φ

/-- `if test { return re }; return nil` -/
def keepIf {ε : Type} (test : Bool) (re : ε) : Option ε :=
  if test then some re else none

/-- `Limit.FilterByInstance`: an entity passes while fewer than `count` have passed. -/
def limitStep {ε : Type} (count actualCount : Int) (re : ε) : Option ε × Int :=
  if actualCount < count then (some re, actualCount + 1) else (none, actualCount)

/-! ## Mixers and the in-memory loop -/

/-- `FilterMixer`. -/
structure FilterMixer (φ : Type) where
  filters : List φ

namespace FilterMixer

variable {φ ε : Type} [Filter φ ε]

/-- `FilterMixer.FilterByQuery`: the filters in order, up to the first error. -/
def filterByQuery (fm : FilterMixer φ) (q : Stmt SqlArg) : Except String (Stmt SqlArg) :=
  fm.filters.foldlM (fun q f => Filter.filterByQuery f q) q

/-- The loop of `FilterMixer.FilterByInstance` over the filters: it breaks at the first filter
that returns nil, and the filters after that one keep their state. -/
def instanceLoop : List φ → ε → Option ε × List φ
  | [], entity => (some entity, [])
  | f :: fs, entity =>
    match Filter.filterByInstance f entity with
    | (none, f') => (none, f' :: fs)
    | (some entity, f') =>
      let r := instanceLoop fs entity
      (r.1, f' :: r.2)

/-- `FilterMixer.FilterByInstance`. -/
def filterByInstance (fm : FilterMixer φ) (re : ε) : Option ε × FilterMixer φ :=
  let r := instanceLoop fm.filters re
  (r.1, ⟨r.2⟩)

instance : Filter (FilterMixer φ) ε where
  filterByQuery := filterByQuery
  filterByInstance := filterByInstance

end FilterMixer

/-- The loop of the in-memory `getReconciliations` and `GetOperations` over the entities in
the order they are visited: `filter != nil && filter.FilterByInstance(e) == nil` skips an
entity, and the filter keeps the state each call leaves. -/
def keepByInstance {φ ε : Type} [Filter φ ε] : Option φ → List ε → List ε
  | none, es => es
  | some _, [] => []
  | some f, e :: es =>
    match Filter.filterByInstance f e with
    | (none, f') => keepByInstance (some f') es
    | (some _, f') => e :: keepByInstance (some f') es

/-! ## The reconciliation filters -/

namespace ReconciliationEntity

/-- The column handler of `model.ReconciliationEntity{}`: each column is `strcase.ToSnake` of
its field, in the field order. -/
def columnHandler : ColumnHandler where
  entity := "ReconciliationEntity [Cluster=,ClusterConfigVersion=0,SchedulingID=]"
  columns := [("Lock", "lock"), ("RuntimeID", "runtime_id"), ("ClusterConfig", "cluster_config"),
    ("ClusterConfigStatus", "cluster_config_status"), ("Finished", "finished"),
    ("SchedulingID", "scheduling_id"), ("Created", "created"), ("Updated", "updated"),
    ("Status", "status")]

/-- `db.NewQuery` of a reconciliation: its columns and `tblReconciliation`. -/
def query : Query :=
  ⟨columnHandler, "scheduler_reconciliations"⟩

/-- `string(re.Status)`: a reconciliation without a status has the empty string. -/
def statusText (re : ReconciliationEntity) : String :=
  (re.status.map Status.toString).getD ""

end ReconciliationEntity

/-- The filters of `reconciliation/filter.go`.  A `Limit` holds its `Count` and
`actualCount`, the entities it has let through so far. -/
inductive ReconciliationFilter
  | limit (count actualCount : Int)
  | withStatuses (statuses : List String)
  | withCreationDateAfter (time : Nat)
  | withCreationDateBefore (time : Nat)
  | withSchedulingID (schedulingID : String)
  | withNotSchedulingID (schedulingID : String)
  | withRuntimeIDs (runtimeIDs : List String)
  | withRuntimeID (runtimeID : String)
  | currentlyReconciling
  | currentlyReconcilingWithRuntimeID (runtimeID : String)
  | withClusterConfigStatus (clusterConfigStatus : Int)
  deriving DecidableEq, Repr

/-- The condition of `WithStatuses` rendered from placeholder `argsOffset`:
`column=$argsOffset OR column=$argsOffset+1 …`, one comparison for each status. -/
def statusesCondition (column : String) (n argsOffset : Nat) : List SqlPiece :=
  (List.range n).flatMap fun i =>
    [.text ((if i > 0 then " OR " else "") ++ column ++ "="), .param (argsOffset + i)]

/-- The values of `WithRuntimeIDs` rendered from placeholder `argsOffset`: `$argsOffset,…`, with
no comma after the last. -/
def runtimeIDValues (n argsOffset : Nat) : List SqlPiece :=
  (List.range n).flatMap fun i => .param (i + argsOffset) :: if i = n - 1 then [] else [.text ","]

/-- A raw condition `column<op>$k` of one placeholder. -/
def comparison (column op : String) (k : Nat) : List SqlPiece :=
  [.text (column ++ op), .param k]

namespace ReconciliationFilter

/-- `columnName`: the column of a field, from a column handler made afresh for
`model.ReconciliationEntity{}`. -/
def columnName (name : String) : Except String String :=
  ReconciliationEntity.columnHandler.columnName name

/-- The calls `FilterByQuery` makes on the select, or the error of `columnName`. -/
def queryCalls : ReconciliationFilter → Except String (List (SelectCall SqlArg))
  | .limit count _ => .ok [.orderBy [("Created", "DESC")], .limit count]
  | .withStatuses statuses =>
    if statuses.length < 1 then .ok []
    else do
      let column ← columnName "Status"
      .ok [.whereRaw (statusesCondition column statuses.length) (statuses.map .string)]
  | .withCreationDateAfter time => do
    let column ← columnName "Created"
    .ok [.whereRaw (comparison column ">") [.timestamp time]]
  | .withCreationDateBefore time => do
    let column ← columnName "Created"
    .ok [.whereRaw (comparison column "<") [.timestamp time]]
  | .withSchedulingID schedulingID => .ok [.where_ [("SchedulingID", .string schedulingID)]]
  | .withNotSchedulingID schedulingID => do
    let column ← columnName "SchedulingID"
    .ok [.whereRaw (comparison column "<>") [.string schedulingID]]
  | .withRuntimeIDs runtimeIDs =>
    if runtimeIDs.length < 1 then .ok []
    else .ok [.whereIn "RuntimeID" (runtimeIDValues runtimeIDs.length) (runtimeIDs.map .string)]
  | .withRuntimeID runtimeID => .ok [.where_ [("RuntimeID", .string runtimeID)]]
  | .currentlyReconciling => .ok [.where_ [("Finished", .bool false)]]
  | .currentlyReconcilingWithRuntimeID runtimeID =>
    .ok [.where_ [("Finished", .bool false), ("RuntimeID", .string runtimeID)]]
  | .withClusterConfigStatus clusterConfigStatus =>
    .ok [.where_ [("ClusterConfigStatus", .int clusterConfigStatus)]]

/-- `FilterByQuery`. -/
def filterByQuery (f : ReconciliationFilter) (q : Stmt SqlArg) : Except String (Stmt SqlArg) :=
  f.queryCalls.map (Select.run q)

/-- `FilterByInstance`. -/
def filterByInstance :
    ReconciliationFilter → ReconciliationEntity → Option ReconciliationEntity × ReconciliationFilter
  | .limit count actualCount, re =>
    let r := limitStep count actualCount re
    (r.1, .limit count r.2)
  | f@(.withStatuses statuses), re =>
    (if statuses.length < 1 then none else keepIf (statuses.contains re.statusText) re, f)
  | f@(.withCreationDateAfter time), i => (keepIf (decide (time < i.created)) i, f)
  | f@(.withCreationDateBefore time), i => (keepIf (decide (i.created < time)) i, f)
  | f@(.withSchedulingID schedulingID), i => (keepIf (i.schedulingID == schedulingID) i, f)
  | f@(.withNotSchedulingID schedulingID), i => (keepIf (i.schedulingID != schedulingID) i, f)
  | f@(.withRuntimeIDs runtimeIDs), i =>
    (if runtimeIDs.length < 1 then none else keepIf (runtimeIDs.contains i.runtimeID) i, f)
  | f@(.withRuntimeID runtimeID), i => (keepIf (i.runtimeID == runtimeID) i, f)
  | f@.currentlyReconciling, i => (keepIf (!i.finished) i, f)
  | f@(.currentlyReconcilingWithRuntimeID runtimeID), i =>
    (keepIf (!i.finished && i.runtimeID == runtimeID) i, f)
  | f@(.withClusterConfigStatus clusterConfigStatus), i =>
    (keepIf (i.clusterConfigStatus == clusterConfigStatus) i, f)

instance : Filter ReconciliationFilter ReconciliationEntity where
  filterByQuery := filterByQuery
  filterByInstance := filterByInstance

/-- The values `FilterByQuery` binds, in the order of its placeholders. -/
def args : ReconciliationFilter → List SqlArg
  | .limit _ _ => []
  | .withStatuses statuses => statuses.map .string
  | .withCreationDateAfter time | .withCreationDateBefore time => [.timestamp time]
  | .withSchedulingID schedulingID | .withNotSchedulingID schedulingID => [.string schedulingID]
  | .withRuntimeIDs runtimeIDs => runtimeIDs.map .string
  | .withRuntimeID runtimeID => [.string runtimeID]
  | .currentlyReconciling => [.bool false]
  | .currentlyReconcilingWithRuntimeID runtimeID => [.bool false, .string runtimeID]
  | .withClusterConfigStatus clusterConfigStatus => [.int clusterConfigStatus]

end ReconciliationFilter

/-! ## The operation filters -/

/-- `model.OperationState` as it is stored. -/
def OperationState.toString : OperationState → String
  | .new => "new"
  | .inProgress => "in_progress"
  | .done => "done"
  | .clientError => "client_error"
  | .error => "error"
  | .failed => "failed"
  | .orphan => "orphan"

namespace OperationEntity

/-- The column handler of `model.OperationEntity{}`. -/
def columnHandler : ColumnHandler where
  entity := "OperationEntity [SchedulingID=,CorrelationID=,RuntimeID=,ClusterConfig=0," ++
    "Component=,Prio=0,State=,Type=]"
  columns := [("Priority", "priority"), ("SchedulingID", "scheduling_id"),
    ("CorrelationID", "correlation_id"), ("RuntimeID", "runtime_id"),
    ("ClusterConfig", "cluster_config"), ("Component", "component"), ("Type", "type"),
    ("State", "state"), ("Reason", "reason"), ("Created", "created"), ("Updated", "updated"),
    ("PickedUp", "picked_up"), ("ProcessingDuration", "processing_duration"),
    ("Retries", "retries"), ("RetryID", "retry_id"), ("Debug", "debug")]

/-- `db.NewQuery` of an operation: its columns and `tblOperation`. -/
def query : Query :=
  ⟨columnHandler, "scheduler_operations"⟩

end OperationEntity

/-- The filters of `operation/filter.go`. -/
inductive OperationFilter
  | withSchedulingID (schedulingID : String)
  | withStates (states : List OperationState)
  | withCorrelationID (correlationID : String)
  | withComponentName (component : String)
  | limit (count actualCount : Int)
  | limitByLastUpdate (count actualCount : Int)
  deriving DecidableEq, Repr

/-- The values of `WithStates` rendered from placeholder `argsOffset`: a comma before each
placeholder but the first. -/
def stateValues (n argsOffset : Nat) : List SqlPiece :=
  (List.range n).flatMap fun i =>
    (if i > 0 then [.text ","] else []) ++ [.param (argsOffset + i)]

namespace OperationFilter

/-- The calls `FilterByQuery` makes on the select; none of them fails. -/
def queryCalls : OperationFilter → List (SelectCall SqlArg)
  | .withSchedulingID schedulingID => [.where_ [("SchedulingID", .string schedulingID)]]
  | .withStates states =>
    [.whereIn "State" (stateValues states.length) (states.map fun s => .string s.toString)]
  | .withCorrelationID correlationID => [.where_ [("CorrelationID", .string correlationID)]]
  | .withComponentName component => [.where_ [("Component", .string component)]]
  | .limit count _ => [.orderBy [("Created", "DESC")], .limit count]
  | .limitByLastUpdate count _ => [.orderBy [("Updated", "DESC")], .limit count]

/-- `FilterByQuery`. -/
def filterByQuery (f : OperationFilter) (q : Stmt SqlArg) : Except String (Stmt SqlArg) :=
  .ok (Select.run q f.queryCalls)

/-- `FilterByInstance`. -/
def filterByInstance : OperationFilter → OperationEntity → Option OperationEntity × OperationFilter
  | f@(.withSchedulingID schedulingID), i => (keepIf (i.schedulingID == schedulingID) i, f)
  | f@(.withStates states), re =>
    (if states.length < 1 then none else keepIf (states.contains re.state) re, f)
  | f@(.withCorrelationID correlationID), i => (keepIf (i.correlationID == correlationID) i, f)
  | f@(.withComponentName component), i => (keepIf (i.component == component) i, f)
  | .limit count actualCount, re =>
    let r := limitStep count actualCount re
    (r.1, .limit count r.2)
  | .limitByLastUpdate count actualCount, re =>
    let r := limitStep count actualCount re
    (r.1, .limitByLastUpdate count r.2)

instance : Filter OperationFilter OperationEntity where
  filterByQuery := filterByQuery
  filterByInstance := filterByInstance

/-- The values `FilterByQuery` binds, in the order of its placeholders. -/
def args : OperationFilter → List SqlArg
  | .withSchedulingID schedulingID => [.string schedulingID]
  | .withStates states => states.map fun s => .string s.toString
  | .withCorrelationID correlationID => [.string correlationID]
  | .withComponentName component => [.string component]
  | .limit _ _ | .limitByLastUpdate _ _ => []

end OperationFilter

/-! ## The repositories -/

namespace InMemoryReconciliationRepository

/-- `getReconciliations`, over the reconciliations in the order the map is visited. -/
def getReconciliations {φ : Type} [Filter φ ReconciliationEntity]
    (reconciliations : List ReconciliationEntity) (filter : Option φ) :
    List ReconciliationEntity :=
  keepByInstance filter reconciliations

/-- `GetOperations`, over the operations in the order the nested maps are visited. -/
def getOperations {φ : Type} [Filter φ OperationEntity] (operations : List OperationEntity)
    (filter : Option φ) : List OperationEntity :=
  keepByInstance filter operations

end InMemoryReconciliationRepository

namespace PersistentReconciliationRepository

/-- The statement of a fresh select after the filter, or the error of the filter wrapped as
`GetReconciliations` and `GetOperations` return it. -/
def filteredSelect {φ ε : Type} [Filter φ ε] (q : Query) (filter : Option φ) :
    Except String (Stmt SqlArg) :=
  match filter with
  | none => .ok (select q)
  | some f => (Filter.filterByQuery f (select q)).mapError fun err =>
      "failed to apply sql filter: " ++ err

/-- The statement `GetReconciliations` runs, with its arguments: `ORDER BY created DESC` is
added when the filter wrote no `ORDER BY`. -/
def getReconciliationsStatement {φ : Type} [Filter φ ReconciliationEntity] (filter : Option φ) :
    Except String (String × List SqlArg) := do
  let selectQ ← filteredSelect ReconciliationEntity.query filter
  let selectQ := if "ORDER BY".toList <:+: (render selectQ.query.buffer).toList then selectQ
    else Builder.Select.orderBy selectQ [("Created", "DESC")]
  Builder.Select.getMany selectQ

/-- The statement `GetOperations` runs, with its arguments. -/
def getOperationsStatement {φ : Type} [Filter φ OperationEntity] (filter : Option φ) :
    Except String (String × List SqlArg) :=
  filteredSelect OperationEntity.query filter >>= Builder.Select.getMany

end PersistentReconciliationRepository

/-- The value of a column of a reconciliation row; times are the model's milliseconds. -/
def reconciliationColumn (re : ReconciliationEntity) : String → Option Sql.Value
  | "lock" => some (.str re.lock)
  | "runtime_id" => some (.str re.runtimeID)
  | "cluster_config" => some (.int re.clusterConfig)
  | "cluster_config_status" => some (.int re.clusterConfigStatus)
  | "finished" => some (.bool re.finished)
  | "scheduling_id" => some (.str re.schedulingID)
  | "created" => some (.int re.created)
  | "updated" => some (.int re.updated)
  | "status" => some (.str re.statusText)
  | _ => none

/-- The reconciliations table as the server sees it at time `now`. -/
def reconciliationCatalog (rows : List ReconciliationEntity) (now : Int) :
    Sql.Catalog ReconciliationEntity where
  rows table := if table = ReconciliationEntity.query.table then some rows else none
  columns table := if table = ReconciliationEntity.query.table then
    some (ReconciliationEntity.columnHandler.columns.map Prod.snd) else none
  column := reconciliationColumn
  now := now

/-- What the server returns for a statement without placeholders. -/
def serverRows {ρ : Type} (catalog : Sql.Catalog ρ) (statement : String) :
    Except String (List ρ) :=
  Sql.lex statement >>= Sql.parseStatement >>= Sql.evalSelect catalog

/-! ## The mixer and the in-memory loop -/

/-- Running calls one list after another. -/
theorem Builder.Select.run_append {α : Type} (s : Stmt α) (calls calls' : List (SelectCall α)) :
    Select.run s (calls ++ calls') = Select.run (Select.run s calls) calls' :=
  List.foldl_append

section Loops

variable {φ ε : Type} [Filter φ ε]

/-- **Invariant rule of the in-memory loop**: a property of the filter that every call keeps,
and under which every call drops the entity, leaves no entity. -/
theorem keepByInstance_eq_nil (P : φ → Prop)
    (hdrop : ∀ f e, P f → (Filter.filterByInstance f e).1 = none)
    (hstep : ∀ f e, P f → P (Filter.filterByInstance f e).2) (f : φ) (hf : P f)
    (es : List ε) : keepByInstance (some f) es = [] := by
  induction es generalizing f with
  | nil => rfl
  | cons e es ih =>
    have hnone := hdrop f e hf
    have hnext := hstep f e hf
    rcases hcall : Filter.filterByInstance f e with ⟨_ | _, f'⟩
    · rw [hcall] at hnext
      simp only [keepByInstance, hcall]
      exact ih f' hnext
    · rw [hcall] at hnone
      cases hnone

/-- A `Limit` after `actualCount` entities keeps the next `Count - actualCount` in the order
they are visited, whatever filter type holds it. -/
theorem keepByInstance_limit {mk : Int → φ} {count : Int}
    (hmk : ∀ a e, Filter.filterByInstance (mk a) e =
      ((limitStep count a e).1, mk (limitStep count a e).2)) (a : Int) (es : List ε) :
    keepByInstance (some (mk a)) es = es.take (count - a).toNat := by
  induction es generalizing a with
  | nil => simp [keepByInstance]
  | cons e es ih =>
    by_cases ha : a < count
    · -- the entity passes and the count goes up by one
      have hstep : Filter.filterByInstance (mk a) e = (some e, mk (a + 1)) := by
        simp [hmk, limitStep, ha]
      have hcount : (count - a).toNat = (count - (a + 1)).toNat + 1 := by omega
      simp only [keepByInstance, hstep, ih, hcount, List.take_succ_cons]
    · have hstep : Filter.filterByInstance (mk a) e = (none, mk a) := by
        simp [hmk, limitStep, ha]
      have hcount : (count - a).toNat = 0 := by omega
      simp only [keepByInstance, hstep, ih, hcount, List.take_zero]

/-- A filter that keeps the entities passing a test, and stays as it is, keeps in memory exactly
those entities, in the order they are visited. -/
theorem keepByInstance_keepIf {g : φ} {test : ε → Bool}
    (hg : ∀ e, Filter.filterByInstance g e = (keepIf (test e) e, g)) (es : List ε) :
    keepByInstance (some g) es = es.filter test := by
  induction es with
  | nil => rfl
  | cons e es ih =>
    cases htest : test e with
    | false =>
      simp only [keepByInstance, hg, keepIf, htest, ih, List.filter_cons, Bool.false_eq_true,
        if_false]
    | true => simp only [keepByInstance, hg, keepIf, htest, ih, List.filter_cons, if_true]

/-- **A filter behind a test**: when `wrap f` drops the entities failing `t` and stays as it
is, and lets the others through to `f`, the in-memory loop with `wrap f` keeps what `f` keeps of
the entities passing `t`. -/
theorem keepByInstance_filter {ψ : Type} [Filter ψ ε] {wrap : φ → ψ} {t : ε → Bool}
    (h : ∀ f e, Filter.filterByInstance (wrap f) e =
      if t e then ((Filter.filterByInstance f e).1, wrap (Filter.filterByInstance f e).2)
      else (none, wrap f))
    (f : φ) (es : List ε) :
    keepByInstance (some (wrap f)) es = keepByInstance (some f) (es.filter t) := by
  induction es generalizing f with
  | nil => rfl
  | cons e es ih =>
    cases ht : t e with
    | false =>
      have hstep : Filter.filterByInstance (wrap f) e = (none, wrap f) := by simp [h, ht]
      simp only [keepByInstance, hstep, ih, List.filter_cons, ht, Bool.false_eq_true, if_false]
    | true =>
      -- both loops take the step of `f`
      have hstep : Filter.filterByInstance (wrap f) e =
          ((Filter.filterByInstance f e).1, wrap (Filter.filterByInstance f e).2) := by
        simp [h, ht]
      rcases hcall : Filter.filterByInstance f e with ⟨_ | _, f'⟩ <;>
        simp only [keepByInstance, hstep, hcall, ih, List.filter_cons, ht, if_true]

namespace FilterMixer

/-- The loop of a mixer whose first filters test each entity and keep no state: the entity
reaches the last filter exactly when it passes every test. -/
theorem instanceLoop_tests_append {test : φ → ε → Bool} {fs : List φ}
    (hfs : ∀ g ∈ fs, ∀ e, Filter.filterByInstance g e = (keepIf (test g e) e, g)) (last : φ)
    (e : ε) :
    instanceLoop (fs ++ [last]) e =
      if fs.all fun g => test g e then
        ((Filter.filterByInstance last e).1, fs ++ [(Filter.filterByInstance last e).2])
      else (none, fs ++ [last]) := by
  induction fs with
  | nil =>
    rcases hcall : Filter.filterByInstance last e with ⟨_ | _, f'⟩ <;>
      simp [instanceLoop, hcall]
  | cons g fs ih =>
    have hg := hfs g List.mem_cons_self e
    have hrest := ih fun g' hg' => hfs g' (List.mem_cons_of_mem g hg')
    cases htest : test g e with
    | false => simp [instanceLoop, hg, htest, keepIf]
    | true =>
      simp only [List.cons_append, instanceLoop, hg, htest, keepIf, if_true, hrest,
        List.all_cons, Bool.true_and]
      split <;> rfl

/-- **Test filters, then a `Limit`**: in memory, a mixer of filters that test each entity and
keep no state, followed by a limit after `a` entities, keeps the next `Count - a` of the entities
that pass every test, in the order they are visited. -/
theorem keepByInstance_tests_limit {test : φ → ε → Bool} {mk : Int → φ} {count : Int}
    {fs : List φ} (hfs : ∀ g ∈ fs, ∀ e, Filter.filterByInstance g e = (keepIf (test g e) e, g))
    (hmk : ∀ a e, Filter.filterByInstance (mk a) e =
      ((limitStep count a e).1, mk (limitStep count a e).2)) (a : Int) (es : List ε) :
    keepByInstance (some (⟨fs ++ [mk a]⟩ : FilterMixer φ)) es =
      (es.filter fun e => fs.all fun g => test g e).take (count - a).toNat := by
  have hwrap : ∀ (f : φ) (e : ε), Filter.filterByInstance (⟨fs ++ [f]⟩ : FilterMixer φ) e =
      if fs.all (fun g => test g e) then
        ((Filter.filterByInstance f e).1, ⟨fs ++ [(Filter.filterByInstance f e).2]⟩)
      else (none, ⟨fs ++ [f]⟩) := by
    intro f e
    show ((instanceLoop (fs ++ [f]) e).1, (⟨(instanceLoop (fs ++ [f]) e).2⟩ : FilterMixer φ)) = _
    rw [instanceLoop_tests_append hfs f e]
    split <;> rfl
  rw [keepByInstance_filter hwrap, keepByInstance_limit hmk]

/-- The same for a fresh limit, which has let nothing through yet. -/
theorem keepByInstance_tests_freshLimit {test : φ → ε → Bool} {mk : Int → φ} {count : Int}
    {fs : List φ} (hfs : ∀ g ∈ fs, ∀ e, Filter.filterByInstance g e = (keepIf (test g e) e, g))
    (hmk : ∀ a e, Filter.filterByInstance (mk a) e =
      ((limitStep count a e).1, mk (limitStep count a e).2)) (es : List ε) :
    keepByInstance (some (⟨fs ++ [mk 0]⟩ : FilterMixer φ)) es =
      (es.filter fun e => fs.all fun g => test g e).take count.toNat := by
  rw [keepByInstance_tests_limit hfs hmk 0 es, Int.sub_zero]

/-- A filter that drops every entity and stays as it is drops it inside a mixer, and stays in
the mixer. -/
theorem instanceLoop_of_mem {g : φ} (hg : ∀ e, Filter.filterByInstance g e = (none, g)) :
    ∀ (fs : List φ) (e : ε), g ∈ fs → (instanceLoop fs e).1 = none ∧ g ∈ (instanceLoop fs e).2
  | f :: fs, e, hmem => by
    rcases hcall : Filter.filterByInstance f e with ⟨_ | e', f'⟩
    · -- the loop breaks at `f`, and the filters after it are as they were
      simp only [instanceLoop, hcall, List.mem_cons, true_and]
      rcases List.mem_cons.1 hmem with rfl | hfs
      · rw [hg] at hcall
        exact .inl (Prod.mk.inj hcall).2
      · exact .inr hfs
    · rcases List.mem_cons.1 hmem with rfl | hfs
      · rw [hg] at hcall
        cases hcall
      · obtain ⟨hnone, hrest⟩ := instanceLoop_of_mem hg fs e' hfs
        simp only [instanceLoop, hcall, hnone, List.mem_cons, hrest, or_true, and_self]

/-- **A mixer that holds a filter dropping every entity keeps none in memory.** -/
theorem keepByInstance_of_mem {g : φ} (hg : ∀ e, Filter.filterByInstance g e = (none, g))
    (fm : FilterMixer φ) (hmem : g ∈ fm.filters) (es : List ε) :
    keepByInstance (some fm) es = [] :=
  keepByInstance_eq_nil (fun fm : FilterMixer φ => g ∈ fm.filters)
    (fun fm e h => (instanceLoop_of_mem hg fm.filters e h).1)
    (fun fm e h => (instanceLoop_of_mem hg fm.filters e h).2) fm hmem es

/-- **A filter that leaves every select as it is can be left out of a mixer.** -/
theorem filterByQuery_skip {g : φ} (hg : ∀ q, Filter.filterByQuery g q = .ok q)
    (fs₁ fs₂ : List φ) (q : Stmt SqlArg) :
    filterByQuery ⟨fs₁ ++ g :: fs₂⟩ q = filterByQuery ⟨fs₁ ++ fs₂⟩ q := by
  simp only [filterByQuery, List.foldlM_append, List.foldlM_cons, hg, Sql.ok_bind]

/-- The run lemma of `FilterMixer.FilterByQuery`: filters that each run calls of some kind
run, together, the calls of all of them in order. -/
theorem filterByQuery_run {Good : SelectCall SqlArg → Prop} {argsOf : φ → List SqlArg}
    (h : ∀ f q, ∃ calls, Filter.filterByQuery f q = .ok (Select.run q calls) ∧
      (∀ c ∈ calls, Good c) ∧ calls.flatMap SelectCall.args = argsOf f) :
    ∀ (fs : List φ) (q : Stmt SqlArg), ∃ calls, filterByQuery ⟨fs⟩ q = .ok (Select.run q calls) ∧
      (∀ c ∈ calls, Good c) ∧ calls.flatMap SelectCall.args = fs.flatMap argsOf
  | [], q => ⟨[], rfl, by simp, rfl⟩
  | f :: fs, q => by
    obtain ⟨calls, hf, hgood, hargs⟩ := h f q
    obtain ⟨rest, hfs, hgood', hargs'⟩ := filterByQuery_run h fs (Select.run q calls)
    refine ⟨calls ++ rest, ?_, ?_, by simp [hargs, hargs']⟩
    · have hcons : filterByQuery ⟨f :: fs⟩ q = Filter.filterByQuery f q >>= filterByQuery ⟨fs⟩ :=
        rfl
      rw [hcons, hf, Sql.ok_bind, hfs, Select.run_append]
    · intro c hc
      rcases List.mem_append.1 hc with hc | hc
      exacts [hgood c hc, hgood' c hc]

/-- **Placeholders of a mixer**: when each filter runs calls that resolve and are numbered,
`GetMany` runs the statement with the values of the filters in order, and its placeholders are
`$1 … $n`, each once and in increasing order, for those `n` values. -/
theorem placeholders_bound {Q : Query} {argsOf : φ → List SqlArg}
    (h : ∀ f q, ∃ calls, Filter.filterByQuery f q = .ok (Select.run q calls) ∧
      (∀ c ∈ calls, c.Resolves Q.columnHandler ∧ c.Numbered) ∧
      calls.flatMap SelectCall.args = argsOf f) (fm : FilterMixer φ) :
    ∃ s, fm.filterByQuery (select Q) = .ok s ∧
      Builder.Select.getMany s = .ok (render s.query.buffer, fm.filters.flatMap argsOf) ∧
      params s.query.buffer = List.range' 1 (fm.filters.flatMap argsOf).length := by
  obtain ⟨calls, hrun, hgood, hargs⟩ := filterByQuery_run h fm.filters (select Q)
  obtain ⟨hget, hparams, -⟩ :=
    Select.run_bound Q calls (fun c hc => (hgood c hc).1) (fun c hc => (hgood c hc).2)
  exact ⟨_, hrun, by rwa [hargs] at hget, by rwa [hargs] at hparams⟩

end FilterMixer

end Loops

/-! ## What each filter writes -/

/-- Blocks that each hold one placeholder, the `i`-th numbered `k + i`, number them from `k`
on. -/
theorem params_range_flatMap {block : Nat → List SqlPiece} {k : Nat}
    (h : ∀ i, params (block i) = [k + i]) (n : Nat) :
    params ((List.range n).flatMap block) = List.range' k n := by
  have hflat : params ((List.range n).flatMap block) =
      (List.range n).flatMap fun i => params (block i) :=
    List.filterMap_flatMap
  rw [hflat, List.range'_eq_map_range, List.map_eq_flatMap]
  simp only [h]

@[simp] theorem params_statusesCondition (column : String) (n k : Nat) :
    params (statusesCondition column n k) = List.range' k n :=
  params_range_flatMap (fun _ => rfl) n

@[simp] theorem params_runtimeIDValues (n k : Nat) :
    params (runtimeIDValues n k) = List.range' k n :=
  params_range_flatMap (fun i => by split_ifs <;> simp [Nat.add_comm]) n

@[simp] theorem params_stateValues (n k : Nat) : params (stateValues n k) = List.range' k n :=
  params_range_flatMap (fun i => by split_ifs <;> simp) n

@[simp] theorem params_comparison (column op : String) (k : Nat) :
    params (comparison column op k) = List.range' k 1 :=
  rfl

/-- Fields whose columns the handler finds all resolve. -/
theorem resolves_of_all_isOk {ch : ColumnHandler} {fields : List String}
    (h : (fields.all fun f => (ch.columnName f).isOk) = true) : Builder.Resolves ch fields := by
  intro f hf
  have hok := List.all_eq_true.1 h f hf
  cases hcol : ch.columnName f with
  | ok col => exact ⟨col, rfl⟩
  | error e => simp [hcol, Except.isOk, Except.toBool] at hok

/-- Conditions already in the order of their fields are written in that order. -/
theorem sortFields_of_pairwise {α : Type} {conds : List (String × α)}
    (h : conds.Pairwise fun a b => a.1 ≤ b.1) : sortFields conds = conds :=
  List.mergeSort_of_pairwise (by simpa using h)

namespace ReconciliationFilter

/-- **Spec of `FilterByQuery`**: every filter runs calls on the select whose fields have
columns and whose placeholders are numbered, with the filter's values in order. -/
theorem filterByQuery_spec (f : ReconciliationFilter) (q : Stmt SqlArg) :
    ∃ calls, f.filterByQuery q = .ok (Select.run q calls) ∧
      (∀ c ∈ calls, c.Resolves ReconciliationEntity.columnHandler ∧ c.Numbered) ∧
      calls.flatMap SelectCall.args = f.args := by
  cases f with
  | limit count actualCount =>
    refine ⟨_, rfl, ?_, rfl⟩
    simp only [List.mem_cons, List.not_mem_nil, or_false]
    rintro c (rfl | rfl)
    exacts [⟨resolves_of_all_isOk rfl, trivial⟩, ⟨trivial, trivial⟩]
  | withStatuses statuses =>
    cases statuses with
    | nil => exact ⟨[], rfl, by simp, rfl⟩
    | cons status statuses =>
      refine ⟨_, rfl, ?_, by simp [args, SelectCall.args]⟩
      simp only [List.mem_singleton]
      rintro c rfl
      exact ⟨trivial, fun k => by simp⟩
  | withCreationDateAfter time | withCreationDateBefore time | withNotSchedulingID time =>
    refine ⟨_, rfl, ?_, rfl⟩
    simp only [List.mem_singleton]
    rintro c rfl
    exact ⟨trivial, fun k => rfl⟩
  | withRuntimeIDs runtimeIDs =>
    cases runtimeIDs with
    | nil => exact ⟨[], rfl, by simp, rfl⟩
    | cons runtimeID runtimeIDs =>
      refine ⟨_, rfl, ?_, by simp [args, SelectCall.args]⟩
      simp only [List.mem_singleton]
      rintro c rfl
      exact ⟨⟨_, rfl⟩, fun k => by simp⟩
  | withSchedulingID _ | withRuntimeID _ | currentlyReconciling
  | currentlyReconcilingWithRuntimeID _ | withClusterConfigStatus _ =>
    -- the fields of each condition are already sorted by name
    refine ⟨_, rfl, ?_, by simp [args, SelectCall.args, sortFields_of_pairwise]⟩
    simp only [List.mem_singleton]
    rintro c rfl
    exact ⟨resolves_of_all_isOk rfl, trivial⟩

end ReconciliationFilter

namespace OperationFilter

/-- **Spec of `FilterByQuery`** of the operation filters. -/
theorem filterByQuery_spec (f : OperationFilter) (q : Stmt SqlArg) :
    ∃ calls, f.filterByQuery q = .ok (Select.run q calls) ∧
      (∀ c ∈ calls, c.Resolves OperationEntity.columnHandler ∧ c.Numbered) ∧
      calls.flatMap SelectCall.args = f.args := by
  refine ⟨f.queryCalls, rfl, ?_,
    by cases f <;> simp [queryCalls, args, SelectCall.args, sortFields_of_pairwise]⟩
  cases f with
  | withStates states =>
    simp only [queryCalls, List.mem_singleton]
    rintro c rfl
    exact ⟨⟨_, rfl⟩, fun k => by simp⟩
  | limit count _ | limitByLastUpdate count _ =>
    simp only [queryCalls, List.mem_cons, List.not_mem_nil, or_false]
    rintro c (rfl | rfl)
    exacts [⟨resolves_of_all_isOk rfl, trivial⟩, ⟨trivial, trivial⟩]
  | withSchedulingID _ | withCorrelationID _ | withComponentName _ =>
    simp only [queryCalls, List.mem_singleton]
    rintro c rfl
    exact ⟨resolves_of_all_isOk rfl, trivial⟩

end OperationFilter

/-- **The placeholders of every mixer of reconciliation filters** are `$1 … $n` in order, bound
to the values of its filters in order. -/
theorem FilterMixer.reconciliation_placeholders_bound (fm : FilterMixer ReconciliationFilter) :
    ∃ s, fm.filterByQuery (select ReconciliationEntity.query) = .ok s ∧
      Builder.Select.getMany s =
        .ok (render s.query.buffer, fm.filters.flatMap ReconciliationFilter.args) ∧
      params s.query.buffer =
        List.range' 1 (fm.filters.flatMap ReconciliationFilter.args).length :=
  FilterMixer.placeholders_bound ReconciliationFilter.filterByQuery_spec fm

/-- **The placeholders of every mixer of operation filters** are `$1 … $n` in order, bound to
the values of its filters in order. -/
theorem FilterMixer.operation_placeholders_bound (fm : FilterMixer OperationFilter) :
    ∃ s, fm.filterByQuery (select OperationEntity.query) = .ok s ∧
      Builder.Select.getMany s = .ok (render s.query.buffer, fm.filters.flatMap OperationFilter.args) ∧
      params s.query.buffer = List.range' 1 (fm.filters.flatMap OperationFilter.args).length :=
  FilterMixer.placeholders_bound OperationFilter.filterByQuery_spec fm

/-! ## A fresh select on the server -/

section Server

open Sql

/-- The tokens of a fresh select of the reconciliations. -/
theorem lex_select_reconciliation :
    lex (render (select ReconciliationEntity.query : Stmt SqlArg).query.buffer) =
      .ok [.word "select", .word "lock", .symbol ",", .word "runtime_id", .symbol ",",
        .word "cluster_config", .symbol ",", .word "cluster_config_status", .symbol ",",
        .word "finished", .symbol ",", .word "scheduling_id", .symbol ",", .word "created",
        .symbol ",", .word "updated", .symbol ",", .word "status", .word "from",
        .word "scheduler_reconciliations"] := by
  -- the text is read in pieces that end between tokens, each small enough to evaluate
  have htext : (render (select ReconciliationEntity.query : Stmt SqlArg).query.buffer).toList =
      "SELECT lock, runtime_id, ".toList ++ ("cluster_config, cluster_config_status, ".toList ++
        ("finished, scheduling_id, created, ".toList ++ ("updated, status FROM ".toList ++
          "scheduler_reconciliations".toList))) := by
    rw [show render (select ReconciliationEntity.query : Stmt SqlArg).query.buffer =
      "SELECT lock, runtime_id, " ++ "cluster_config, cluster_config_status, " ++
        "finished, scheduling_id, created, " ++ "updated, status FROM " ++
        "scheduler_reconciliations" from rfl]
    simp only [String.toList_append, List.append_assoc]
  have hselect : run ⟨[], .start⟩ "SELECT lock, runtime_id, ".toList =
      .ok ⟨[.word "select", .word "lock", .symbol ",", .word "runtime_id", .symbol ","],
        .start⟩ := rfl
  have hconfig : run ⟨[], .start⟩ "cluster_config, cluster_config_status, ".toList =
      .ok ⟨[.word "cluster_config", .symbol ",", .word "cluster_config_status", .symbol ","],
        .start⟩ := rfl
  have hfinished : run ⟨[], .start⟩ "finished, scheduling_id, created, ".toList =
      .ok ⟨[.word "finished", .symbol ",", .word "scheduling_id", .symbol ",", .word "created",
        .symbol ","], .start⟩ := rfl
  have hfrom : run ⟨[], .start⟩ "updated, status FROM ".toList =
      .ok ⟨[.word "updated", .symbol ",", .word "status", .word "from"], .start⟩ := rfl
  have htable : run ⟨[], .start⟩ "scheduler_reconciliations".toList =
      .ok ⟨[], .word "scheduler_reconciliations".toList⟩ := rfl
  rw [lex, htext, run_append_of_run hselect, run_append_of_run hconfig,
    run_append_of_run hfinished, run_append_of_run hfrom, run_tokens, htable]
  rfl

/-- **A fresh select of the reconciliations returns every row, in table order.** -/
theorem serverRows_select_reconciliation (rows : List ReconciliationEntity) (now : Int) :
    serverRows (reconciliationCatalog rows now)
      (render (select ReconciliationEntity.query : Stmt SqlArg).query.buffer) = .ok rows := by
  let stmt : Sql.Select := ⟨ReconciliationEntity.columnHandler.columns.map Prod.snd,
    ReconciliationEntity.query.table, .bool true, []⟩
  have hparse : (lex (render (select ReconciliationEntity.query : Stmt SqlArg).query.buffer) >>=
      parseStatement) = .ok stmt := by
    rw [lex_select_reconciliation]
    rfl
  -- no condition and no sort key: every row is kept, in the order of the table
  have heval : evalSelect (reconciliationCatalog rows now) stmt =
      .ok ((rows.filter fun _ => true).mergeSort (keysLe (reconciliationCatalog rows now) [])) :=
    evalSelect_ok (by simp [stmt, reconciliationCatalog]) (by simp [stmt, reconciliationCatalog])
      (fun _ hc => hc) fun _ _ => rfl
  have hsorted : rows.Pairwise fun a b => keysLe (reconciliationCatalog rows now) [] a b :=
    List.Pairwise.imp (fun _ => rfl) (List.pairwise_of_forall fun _ _ => trivial)
  rw [serverRows, hparse, ok_bind, heval, List.filter_true, List.mergeSort_of_pairwise hsorted]

end Server

/-! ## Where the two implementations part -/

namespace ReconciliationFilter

/-- An empty list of statuses or runtime IDs adds nothing to the select. -/
theorem filterByQuery_of_empty {g : ReconciliationFilter}
    (hg : g = .withStatuses [] ∨ g = .withRuntimeIDs []) (q : Stmt SqlArg) :
    g.filterByQuery q = .ok q := by
  rcases hg with rfl | rfl <;> rfl

/-- An empty list of statuses or runtime IDs drops every entity. -/
theorem filterByInstance_of_empty {g : ReconciliationFilter}
    (hg : g = .withStatuses [] ∨ g = .withRuntimeIDs []) (re : ReconciliationEntity) :
    g.filterByInstance re = (none, g) := by
  rcases hg with rfl | rfl <;> rfl

/-- Every reconciliation filter but a `Limit` tests the entity and keeps no state. -/
theorem filterByInstance_of_ne_limit {g : ReconciliationFilter} (hg : ∀ c a, g ≠ .limit c a)
    (re : ReconciliationEntity) :
    g.filterByInstance re = (keepIf (g.filterByInstance re).1.isSome re, g) := by
  cases g with
  | limit count actualCount => exact absurd rfl (hg count actualCount)
  | _ => simp only [filterByInstance, keepIf]; split_ifs <;> simp_all

/-- In memory, a mixer of reconciliation filters ending in a fresh `Limit` keeps the first
`Count` of the reconciliations that every other filter lets through, in the order the map is
visited. -/
theorem getReconciliations_tests_limit {fs : List ReconciliationFilter}
    (hfs : ∀ g ∈ fs, ∀ c a, g ≠ .limit c a) (count : Int)
    (reconciliations : List ReconciliationEntity) :
    InMemoryReconciliationRepository.getReconciliations reconciliations
        (some (⟨fs ++ [.limit count 0]⟩ : FilterMixer ReconciliationFilter)) =
      (reconciliations.filter fun re => fs.all fun g => (g.filterByInstance re).1.isSome).take
        count.toNat := by
  have htests : ∀ g ∈ fs, ∀ re, Filter.filterByInstance g re =
      (keepIf (filterByInstance g re).1.isSome re, g) :=
    fun g hg re => filterByInstance_of_ne_limit (hfs g hg) re
  have hlimit : ∀ a re, Filter.filterByInstance (limit count a) re =
      ((limitStep count a re).1, limit count (limitStep count a re).2) := fun _ _ => rfl
  exact FilterMixer.keepByInstance_tests_freshLimit htests hlimit reconciliations

end ReconciliationFilter

namespace OperationFilter

/-- Every operation filter but the two limits tests the entity and keeps no state. -/
theorem filterByInstance_of_ne_limit {g : OperationFilter}
    (hg : ∀ c a, g ≠ .limit c a ∧ g ≠ .limitByLastUpdate c a) (op : OperationEntity) :
    g.filterByInstance op = (keepIf (g.filterByInstance op).1.isSome op, g) := by
  cases g with
  | limit count actualCount => exact absurd rfl (hg count actualCount).1
  | limitByLastUpdate count actualCount => exact absurd rfl (hg count actualCount).2
  | _ => simp only [filterByInstance, keepIf]; split_ifs <;> simp_all

/-- In memory, a mixer of operation filters ending in a fresh `Limit` or `LimitByLastUpdate`
keeps the first `Count` of the operations that every other filter lets through, in the order the
maps are visited: neither limit looks at `Created` or `Updated`. -/
theorem getOperations_tests_limit {fs : List OperationFilter}
    (hfs : ∀ g ∈ fs, ∀ c a, g ≠ .limit c a ∧ g ≠ .limitByLastUpdate c a) (count : Int)
    (operations : List OperationEntity) :
    InMemoryReconciliationRepository.getOperations operations
        (some (⟨fs ++ [.limit count 0]⟩ : FilterMixer OperationFilter)) =
      (operations.filter fun op => fs.all fun g => (g.filterByInstance op).1.isSome).take
        count.toNat ∧
    InMemoryReconciliationRepository.getOperations operations
        (some (⟨fs ++ [.limitByLastUpdate count 0]⟩ : FilterMixer OperationFilter)) =
      (operations.filter fun op => fs.all fun g => (g.filterByInstance op).1.isSome).take
        count.toNat := by
  have htests : ∀ g ∈ fs, ∀ op, Filter.filterByInstance g op =
      (keepIf (g.filterByInstance op).1.isSome op, g) :=
    fun g hg op => filterByInstance_of_ne_limit (hfs g hg) op
  have hstepLimit : ∀ a op, Filter.filterByInstance (limit count a) op =
      ((limitStep count a op).1, limit count (limitStep count a op).2) := fun _ _ => rfl
  have hstepLast : ∀ a op, Filter.filterByInstance (limitByLastUpdate count a) op =
      ((limitStep count a op).1, limitByLastUpdate count (limitStep count a op).2) :=
    fun _ _ => rfl
  exact ⟨FilterMixer.keepByInstance_tests_freshLimit htests hstepLimit operations,
    FilterMixer.keepByInstance_tests_freshLimit htests hstepLast operations⟩

end OperationFilter

/-- **An empty list filter selects every row and keeps no entity.**  `WithStatuses` and
`WithRuntimeIDs` with no values write nothing on a fresh select, whose statement, without
arguments, returns every row of the table; the in-memory repository keeps none of the
reconciliations, in whichever order it visits them. -/
theorem emptyList_filter_selects_every_row (g : ReconciliationFilter)
    (hg : g = .withStatuses [] ∨ g = .withRuntimeIDs [])
    (rows visited : List ReconciliationEntity) (now : Int) :
    (∃ statement, ((⟨[g]⟩ : FilterMixer ReconciliationFilter).filterByQuery
          (select ReconciliationEntity.query) >>= Builder.Select.getMany) = .ok (statement, []) ∧
        serverRows (reconciliationCatalog rows now) statement = .ok rows) ∧
      InMemoryReconciliationRepository.getReconciliations visited
        (some (⟨[g]⟩ : FilterMixer ReconciliationFilter)) = [] := by
  have hmixer : (⟨[g]⟩ : FilterMixer ReconciliationFilter).filterByQuery
      (select ReconciliationEntity.query) = .ok (select ReconciliationEntity.query) :=
    FilterMixer.filterByQuery_skip (ReconciliationFilter.filterByQuery_of_empty hg) [] [] _
  refine ⟨⟨_, ?_, serverRows_select_reconciliation rows now⟩,
    FilterMixer.keepByInstance_of_mem (ReconciliationFilter.filterByInstance_of_empty hg) ⟨[g]⟩
      (List.mem_singleton_self g) visited⟩
  rw [hmixer]
  rfl

theorem emptyRuntimeIDs_selects_the_stored_reconciliation :
    (ReconciliationFilter.withRuntimeIDs [] = .withStatuses [] ∨
        ReconciliationFilter.withRuntimeIDs [] = .withRuntimeIDs []) ∧
      ((∃ statement, ((⟨[.withRuntimeIDs []]⟩ : FilterMixer ReconciliationFilter).filterByQuery
            (select ReconciliationEntity.query) >>= Builder.Select.getMany) = .ok (statement, []) ∧
          serverRows (reconciliationCatalog [{}] 0) statement = .ok [{}]) ∧
        InMemoryReconciliationRepository.getReconciliations [{}]
          (some (⟨[.withRuntimeIDs []]⟩ : FilterMixer ReconciliationFilter)) = []) :=
  ⟨.inr rfl, emptyList_filter_selects_every_row _ (.inr rfl) [{}] [{}] 0⟩

/-- **The filters of both repositories.**  Every mixer of reconciliation filters and every
mixer of operation filters numbers the placeholders of its select `$1 … $n` in order, bound to
the values of its filters in order; and in memory, a mixer whose last filter is a fresh limit
keeps the first `Count` of the entities that its other filters let through, in the order the
maps are visited, where the persistent repository sorts by `Created` or `Updated` first. -/
theorem filterMixers_bind_placeholders_and_limit :
    (∀ fm : FilterMixer ReconciliationFilter,
      ∃ s, fm.filterByQuery (select ReconciliationEntity.query) = .ok s ∧
        Builder.Select.getMany s =
          .ok (render s.query.buffer, fm.filters.flatMap ReconciliationFilter.args) ∧
        params s.query.buffer =
          List.range' 1 (fm.filters.flatMap ReconciliationFilter.args).length) ∧
    (∀ fm : FilterMixer OperationFilter,
      ∃ s, fm.filterByQuery (select OperationEntity.query) = .ok s ∧
        Builder.Select.getMany s =
          .ok (render s.query.buffer, fm.filters.flatMap OperationFilter.args) ∧
        params s.query.buffer = List.range' 1 (fm.filters.flatMap OperationFilter.args).length) ∧
    (∀ (fs : List ReconciliationFilter) (count : Int) (reconciliations : List ReconciliationEntity),
      (∀ g ∈ fs, ∀ c a, g ≠ .limit c a) →
      InMemoryReconciliationRepository.getReconciliations reconciliations
          (some (⟨fs ++ [.limit count 0]⟩ : FilterMixer ReconciliationFilter)) =
        (reconciliations.filter fun re => fs.all fun g => (g.filterByInstance re).1.isSome).take
          count.toNat) ∧
    (∀ (fs : List OperationFilter) (count : Int) (operations : List OperationEntity),
      (∀ g ∈ fs, ∀ c a, g ≠ .limit c a ∧ g ≠ .limitByLastUpdate c a) →
      InMemoryReconciliationRepository.getOperations operations
          (some (⟨fs ++ [.limit count 0]⟩ : FilterMixer OperationFilter)) =
        (operations.filter fun op => fs.all fun g => (g.filterByInstance op).1.isSome).take
          count.toNat ∧
      InMemoryReconciliationRepository.getOperations operations
          (some (⟨fs ++ [.limitByLastUpdate count 0]⟩ : FilterMixer OperationFilter)) =
        (operations.filter fun op => fs.all fun g => (g.filterByInstance op).1.isSome).take
          count.toNat) :=
  ⟨FilterMixer.reconciliation_placeholders_bound, FilterMixer.operation_placeholders_bound,
    fun _ count reconciliations hfs =>
      ReconciliationFilter.getReconciliations_tests_limit hfs count reconciliations,
    fun _ count operations hfs => OperationFilter.getOperations_tests_limit hfs count operations⟩

/-- The mixer of the cleaner's `getMostRecentReconciliation`, in memory: the first
reconciliation of the runtime in the order the map is visited, here the older one. -/
theorem filterMixers_bind_placeholders_and_limit_mostRecent :
    InMemoryReconciliationRepository.getReconciliations
        [{ runtimeID := "other", created := 3 }, { runtimeID := "runtime", created := 1 },
          { runtimeID := "runtime", created := 2 }]
        (some (⟨[.withRuntimeID "runtime", .limit 1 0]⟩ : FilterMixer ReconciliationFilter)) =
      [{ runtimeID := "runtime", created := 1 }] := by
  have hmixer := filterMixers_bind_placeholders_and_limit.2.2.1 [.withRuntimeID "runtime"] 1
    [{ runtimeID := "other", created := 3 }, { runtimeID := "runtime", created := 1 },
      { runtimeID := "runtime", created := 2 }] (by simp)
  rw [List.singleton_append] at hmixer
  rw [hmixer]
  decide

end Reconciler
