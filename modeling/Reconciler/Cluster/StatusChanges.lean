import Reconciler.Cluster.Inventory
import Reconciler.Db.Query
import Reconciler.Lib.Duration

/-!
# The status history of a cluster

`DefaultInventory.StatusChanges` (`pkg/cluster/inventory.go`) reads the statuses of a cluster
created within an offset before now, newest first, and pairs each with how long it lasted.
It selects them by a sub-query whose condition `createdIntervalFilter.Filter`
(`pkg/cluster/clusterfilter.go`) writes, with the runtime ID between quotes as it is given;
the `statusChanges` handler of the mothership passes the runtime ID of the request path.

The statuses table is the server's catalog: its rows are the status entities of the
inventory, and `NOW()` is the time the statement runs, which is also the time the durations
are measured against.  The offset is a `time.Duration`, and the statement holds the seconds
`%.0f` prints of it.
-/

namespace Reconciler

open GoTime (Duration)

/-- The status of a cluster as it is stored. -/
def Status.toString : Status → String
  | .deletePending => "delete_pending"
  | .deleting => "deleting"
  | .deleteError => "delete_error"
  | .deleteErrorRetryable => "delete_error_retryable"
  | .deleted => "deleted"
  | .reconcilePending => "reconcile_pending"
  | .reconcileDisabled => "reconcile_disabled"
  | .reconciling => "reconciling"
  | .reconcileError => "error"
  | .reconcileErrorRetryable => "reconcile_error_retryable"
  | .ready => "ready"

/-- `tblStatuses` -/
def tblStatuses : String := "inventory_cluster_config_statuses"

/-- The column handler of `model.ClusterStatusEntity`: each column is the snake case of its
field, and the entity prints as `ClusterStatusEntity [ConfigVersion=0,Status=]` when empty. -/
def statusColumnHandler : ColumnHandler where
  entity := "ClusterStatusEntity [ConfigVersion=0,Status=]"
  columns := [("ID", "id"), ("RuntimeID", "runtime_id"), ("ClusterVersion", "cluster_version"),
    ("ConfigVersion", "config_version"), ("Status", "status"), ("Deleted", "deleted"),
    ("Created", "created")]

/-- The value of a column of a status row. -/
def statusColumn (s : ClusterStatusEntity) : String → Option Sql.Value
  | "id" => some (.int s.id)
  | "runtime_id" => some (.str s.runtimeID)
  | "cluster_version" => some (.int s.clusterVersion)
  | "config_version" => some (.int s.configVersion)
  | "status" => some (.str s.status.toString)
  | "deleted" => some (.bool s.deleted)
  | "created" => some (.int s.created)
  | _ => none

namespace DefaultInventory

/-- The statuses table of the inventory as the server sees it at time `now`. -/
def catalog (inv : DefaultInventory) (now : Nat) : Sql.Catalog ClusterStatusEntity where
  rows table := if table = tblStatuses then some inv.statuses else none
  columns table := if table = tblStatuses then some (statusColumnHandler.columns.map Prod.snd)
    else none
  column := statusColumn
  now := now

end DefaultInventory

/-- `db.Type` -/
inductive DbType
  | postgres
  | sqlite
  deriving DecidableEq, Repr

/-- `createdIntervalFilter` -/
structure CreatedIntervalFilter where
  runtimeID : String
  interval : Duration
  deriving DecidableEq, Repr

/-- `createdIntervalFilter.Filter`: `%.0f` prints the seconds of the interval. -/
def CreatedIntervalFilter.filter (rif : CreatedIntervalFilter) (dbType : DbType)
    (statusColHdr : ColumnHandler) : Except String String := do
  let runtimeIDColName ← statusColHdr.columnName "RuntimeID"
  let createdColName ← statusColHdr.columnName "Created"
  match dbType with
  | .postgres =>
    .ok (runtimeIDColName ++ " = '" ++ rif.runtimeID ++ "' AND " ++ createdColName ++
      " >= NOW() - INTERVAL '" ++ rif.interval.formatSeconds ++ " SECOND'")
  | .sqlite =>
    .ok (runtimeIDColName ++ " = '" ++ rif.runtimeID ++ "' AND " ++ createdColName ++
      " >= DATETIME('now', '-" ++ rif.interval.formatSeconds ++ " SECONDS')")

/-- `cluster.StatusChange`: a status and how long it lasted, in seconds. -/
structure StatusChange where
  status : ClusterStatusEntity
  duration : Int
  deriving DecidableEq, Repr

/-- The errors of `StatusChanges`. -/
inductive StatusChangesError
  /-- an error of the column handler, of the filter or of the statement -/
  | query (msg : String)
  /-- `NewNotFoundError`: no status found for the cluster -/
  | notFound (runtimeID : String)
  deriving DecidableEq, Repr

/-- The loop of `StatusChanges` over the statuses, newest first: the newest lasts until now,
each other one until the status after it was created.  `createdPrevStatus` starts as the zero
time, `none` here. -/
def statusChangeList (now : Nat) : List ClusterStatusEntity → Option Nat → List StatusChange
  | [], _ => []
  | status :: rest, createdPrevStatus =>
    let duration : Int := match createdPrevStatus with
      | none => (now : Int) - status.created
      | some prev => (prev : Int) - status.created
    ⟨status, duration⟩ :: statusChangeList now rest (some status.created)

namespace DefaultInventory

/-- `DefaultInventory.StatusChanges` on a connection with `validator`, at time `now`. -/
def statusChanges (inv : DefaultInventory) (validator : Validator) (now : Nat)
    (runtimeID : String) (offset : Duration) : Except StatusChangesError (List StatusChange) := do
  let conn : PostgresConnection ClusterStatusEntity := ⟨validator, inv.catalog now⟩
  let statusColHandler := statusColumnHandler
  let idColName ← (statusColHandler.columnName "ID").mapError .query
  let filter : CreatedIntervalFilter := { interval := offset, runtimeID := runtimeID }
  let sqlCond ← (filter.filter .postgres statusColHandler).mapError .query
  let q : Query := ⟨statusColHandler, tblStatuses⟩
  let select := (q.select.whereIn "ID"
    ("SELECT " ++ idColName ++ " FROM " ++ tblStatuses ++ " WHERE " ++ sqlCond)).orderBy
      [("ID", "DESC")]
  let clusterStatuses ← (select.getMany conn).mapError .query
  if clusterStatuses.isEmpty then .error (.notFound runtimeID)
  else .ok (statusChangeList now clusterStatuses none)

end DefaultInventory

/-! ## The statement -/

/-- The text of the statement before the runtime ID. -/
def statusQueryHead : String :=
  "SELECT id, runtime_id, cluster_version, config_version, status, deleted, created FROM " ++
    "inventory_cluster_config_statuses WHERE id IN (SELECT id FROM " ++
    "inventory_cluster_config_statuses WHERE runtime_id = '"

/-- The text of the statement between the runtime ID and the offset. -/
def statusQueryMiddle : String := "' AND created >= NOW() - INTERVAL '"

/-- The text of the statement after the offset. -/
def statusQueryTail : String := " SECOND') ORDER BY id DESC"

/-- The statement `StatusChanges` runs: the runtime ID and the offset are spliced into it. -/
def statusChangesQuery (runtimeID : String) (offset : Duration) : String :=
  statusQueryHead ++ runtimeID ++ statusQueryMiddle ++ offset.formatSeconds ++ statusQueryTail

theorem filter_postgres (runtimeID : String) (offset : Duration) :
    ({ runtimeID := runtimeID, interval := offset } : CreatedIntervalFilter).filter .postgres
        statusColumnHandler =
      .ok ("runtime_id" ++ " = '" ++ runtimeID ++ "' AND " ++ "created" ++
        " >= NOW() - INTERVAL '" ++ offset.formatSeconds ++ " SECOND'") :=
  rfl

namespace DefaultInventory

/-- `StatusChanges` runs `statusChangesQuery` on the connection and reads the durations off
the rows it returns. -/
theorem statusChanges_eq (inv : DefaultInventory) (validator : Validator) (now : Nat)
    (runtimeID : String) (offset : Duration) :
    inv.statusChanges validator now runtimeID offset =
      (do
        let rows ← ((⟨validator, inv.catalog now⟩ : PostgresConnection ClusterStatusEntity).query
          (statusChangesQuery runtimeID offset)).mapError .query
        if rows.isEmpty then .error (.notFound runtimeID)
        else .ok (statusChangeList now rows none)) := by
  have hid : statusColumnHandler.columnName "ID" = .ok "id" := rfl
  -- the fixed pieces the builders write are the text around the runtime ID and the offset
  have hhead : "SELECT " ++ statusColumnHandler.columnNamesCsv ++ " FROM " ++ tblStatuses ++
      " WHERE" ++ " " ++ "id" ++ " IN (" ++ "SELECT " ++ "id" ++ " FROM " ++ tblStatuses ++
      " WHERE " ++ "runtime_id" ++ " = '" = statusQueryHead := by
    rfl
  have hmiddle : "' AND " ++ "created" ++ " >= NOW() - INTERVAL '" = statusQueryMiddle := by
    rfl
  have htail : " SECOND'" ++ ")" ++ " ORDER BY" ++ (" " ++ "id" ++ " " ++ "DESC") =
      statusQueryTail := by
    rfl
  simp only [statusChanges, hid, filter_postgres, Except.mapError, ok_bind]
  rw [Select.whereIn_of_columnName (by exact hid), Select.orderBy_single (by exact hid)]
  simp only [Select.getMany, select_buffer, select_whereClause, statusChangesQuery,
    ← hhead, ← hmiddle, ← htail, String.append_assoc]
  rfl

end DefaultInventory

/-! ## What the server reads

The statement opens a string constant for the runtime ID and closes it with the quote that
follows.  Whatever text the runtime ID holds is read from inside that constant, so a quote in
it ends the constant early and what follows is read as part of the condition.
-/

open Sql

/-- The tokens of the statement up to the runtime ID's constant. -/
def statusHeadTokens : List Token :=
  [.word "select", .word "id", .symbol ",", .word "runtime_id", .symbol ",",
    .word "cluster_version", .symbol ",", .word "config_version", .symbol ",", .word "status",
    .symbol ",", .word "deleted", .symbol ",", .word "created", .word "from",
    .word "inventory_cluster_config_statuses", .word "where", .word "id", .word "in",
    .symbol "(", .word "select", .word "id", .word "from",
    .word "inventory_cluster_config_statuses", .word "where", .word "runtime_id", .symbol "="]

/-- The tokens between the runtime ID's constant and the interval's. -/
def statusIntervalTokens : List Token :=
  [.word "and", .word "created", .symbol ">=", .word "now", .symbol "(", .symbol ")",
    .symbol "-", .word "interval"]

/-- The tokens after the interval's constant. -/
def statusOrderTokens : List Token :=
  [.symbol ")", .word "order", .word "by", .word "id", .word "desc"]

/-- The tokens of the statement when the runtime ID's constant reads as `ts` and then a
constant `acc` that the middle's quote closes. -/
def statusTokens (ts : List Token) (acc : List Char) (offset : Duration) : List Token :=
  statusHeadTokens ++ ts ++ .str (String.ofList acc) :: statusIntervalTokens ++
    .str (offset.formatSeconds ++ " SECOND") :: statusOrderTokens

/-- The statement `StatusChanges` means to run: the statuses whose id a status with `cond`
has, newest first. -/
def statusSelect (cond : Expr) : Sql.Select where
  columns := statusColumnHandler.columns.map Prod.snd
  table := tblStatuses
  cond := .inSelect (.column "id") "id" tblStatuses cond
  orderBy := [("id", true)]

/-- `created >= NOW() - INTERVAL 'offset SECOND'` -/
def createdWithin (offset : Duration) : Expr :=
  .binary .ge (.column "created")
    (.binary .sub .now (.interval (offset.formatSeconds ++ " SECOND")))

/-- The condition of the sub-query for a runtime ID that stays inside its constant. -/
def statusCondition (runtimeID : String) (offset : Duration) : Expr :=
  .binary .and (.binary .eq (.column "runtime_id") (.str runtimeID)) (createdWithin offset)

/-- The rows of the statuses table whose id is the id of a row where `p` holds, newest first. -/
def statusesIn (statuses : List ClusterStatusEntity) (p : ClusterStatusEntity → Bool) :
    List ClusterStatusEntity :=
  (statuses.filter fun s => ((statuses.filter p).map (·.id)).contains s.id).mergeSort
    fun a b => decide (b.id ≤ a.id)

/-- What `StatusChanges` returns for the rows of its statement. -/
def statusChangesOfRows (now : Nat) (runtimeID : String) (rows : List ClusterStatusEntity) :
    Except StatusChangesError (List StatusChange) :=
  if rows.isEmpty then .error (.notFound runtimeID) else .ok (statusChangeList now rows none)

section Lexing

theorem quote_not_mem_formatSeconds (d : Duration) : '\'' ∉ d.formatSeconds.toList := by
  intro h
  rw [Duration.toList_formatSeconds] at h
  rcases List.mem_append.1 h with h | h
  · split_ifs at h <;> simp at h
  · have hdigit := Nat.isDigit_of_mem_toDigits (by decide) (by decide) h
    simp at hdigit

theorem run_statusQueryHead :
    run ⟨[], .start⟩ statusQueryHead.toList = .ok ⟨statusHeadTokens, .string []⟩ := by
  -- the head is read in pieces that end between tokens, each small enough to evaluate
  have hhead : statusQueryHead.toList = "SELECT id, runtime_id, ".toList ++
      ("cluster_version, config_version, ".toList ++ ("status, deleted, created FROM ".toList ++
        ("inventory_cluster_config_statuses ".toList ++ ("WHERE id IN (SELECT id FROM ".toList ++
          ("inventory_cluster_config_statuses ".toList ++ "WHERE runtime_id = '".toList))))) := by
    rw [show statusQueryHead = "SELECT id, runtime_id, " ++ "cluster_version, config_version, " ++
      "status, deleted, created FROM " ++ "inventory_cluster_config_statuses " ++
      "WHERE id IN (SELECT id FROM " ++ "inventory_cluster_config_statuses " ++
      "WHERE runtime_id = '" from rfl]
    simp only [String.toList_append, List.append_assoc]
  have hselect : run ⟨[], .start⟩ "SELECT id, runtime_id, ".toList =
      .ok ⟨statusHeadTokens.take 5, .start⟩ := rfl
  have hversions : run ⟨[], .start⟩ "cluster_version, config_version, ".toList =
      .ok ⟨(statusHeadTokens.drop 5).take 4, .start⟩ := rfl
  have hfrom : run ⟨[], .start⟩ "status, deleted, created FROM ".toList =
      .ok ⟨(statusHeadTokens.drop 9).take 6, .start⟩ := rfl
  have htable : run ⟨[], .start⟩ "inventory_cluster_config_statuses ".toList =
      .ok ⟨[.word tblStatuses], .start⟩ := rfl
  have hin : run ⟨[], .start⟩ "WHERE id IN (SELECT id FROM ".toList =
      .ok ⟨(statusHeadTokens.drop 16).take 7, .start⟩ := rfl
  have hwhere : run ⟨[], .start⟩ "WHERE runtime_id = '".toList =
      .ok ⟨statusHeadTokens.drop 24, .string []⟩ := rfl
  rw [hhead, run_append_of_run hselect, run_append_of_run hversions, run_append_of_run hfrom,
    run_append_of_run htable, run_append_of_run hin, run_append_of_run htable, run_tokens, hwhere]
  rfl

/-- From inside a constant, the rest of the statement closes it and reads the interval and the
sort key. -/
theorem run_statusQueryRest (tokens : List Token) (acc : List Char) (offset : Duration) :
    run ⟨tokens, .string acc⟩
        (statusQueryMiddle.toList ++ offset.formatSeconds.toList ++ statusQueryTail.toList) =
      .ok ⟨tokens ++ .str (String.ofList acc) :: statusIntervalTokens ++
        [.str (offset.formatSeconds ++ " SECOND")] ++ statusOrderTokens.dropLast,
        .word "DESC".toList⟩ := by
  have hmiddle : statusQueryMiddle.toList =
      '\'' :: ' ' :: "AND created >= NOW() - INTERVAL '".toList := rfl
  have htail : statusQueryTail.toList =
      " SECOND".toList ++ '\'' :: ')' :: " ORDER BY id DESC".toList := rfl
  have hcondition : run ⟨[], .start⟩ (' ' :: "AND created >= NOW() - INTERVAL '".toList) =
      .ok ⟨statusIntervalTokens, .string []⟩ := rfl
  have horder : run ⟨[], .start⟩ (')' :: " ORDER BY id DESC".toList) =
      .ok ⟨statusOrderTokens.dropLast, .word "DESC".toList⟩ := rfl
  have hinterval : '\'' ∉ offset.formatSeconds.toList ++ " SECOND".toList := by
    intro h
    rcases List.mem_append.1 h with h | h
    · exact quote_not_mem_formatSeconds offset h
    · revert h; decide
  -- the runtime ID's constant ends at the first quote of the middle, the interval's at the
  -- quote of the tail
  calc run ⟨tokens, .string acc⟩
        (statusQueryMiddle.toList ++ offset.formatSeconds.toList ++ statusQueryTail.toList)
      = run ⟨tokens, .string acc⟩ ('\'' :: ' ' :: ("AND created >= NOW() - INTERVAL '".toList ++
          ((offset.formatSeconds.toList ++ " SECOND".toList) ++
            '\'' :: ')' :: " ORDER BY id DESC".toList))) := by
        simp only [hmiddle, htail, List.cons_append, List.append_assoc]
    _ = (run ⟨[], .start⟩ ((' ' :: "AND created >= NOW() - INTERVAL '".toList) ++
          ((offset.formatSeconds.toList ++ " SECOND".toList) ++
            '\'' :: ')' :: " ORDER BY id DESC".toList))).map
          (LexState.prepend (tokens ++ [.str (String.ofList acc)])) := by
        rw [run_close _ _ (by decide), run_tokens]
        rfl
    _ = (run ⟨statusIntervalTokens ++ [.str (offset.formatSeconds ++ " SECOND")], .start⟩
          (')' :: " ORDER BY id DESC".toList)).map
          (LexState.prepend (tokens ++ [.str (String.ofList acc)])) := by
        rw [run_append_of_ok hcondition, run_append_of_ok (run_string _ _ hinterval),
          run_close _ _ (by decide)]
        simp [String.ofList_append]
    _ = _ := by
        rw [run_tokens, horder]
        simp [Except.map, LexState.prepend]

/-- **The runtime ID is read from inside the constant the statement opens for it**: if it
reads as tokens `ts` and leaves a constant `acc` open, the statement is those tokens between
the fixed ones. -/
theorem lex_statusChangesQuery {runtimeID : String} {ts : List Token} {acc : List Char}
    (h : run ⟨[], .string []⟩ runtimeID.toList = .ok ⟨ts, .string acc⟩)
    (offset : Duration) :
    lex (statusChangesQuery runtimeID offset) = .ok (statusTokens ts acc offset) := by
  have hrun : run ⟨statusHeadTokens, .string []⟩ runtimeID.toList =
      .ok ⟨statusHeadTokens ++ ts, .string acc⟩ := by
    rw [run_tokens, h]
    rfl
  have hquery : (statusChangesQuery runtimeID offset).toList = statusQueryHead.toList ++
      (runtimeID.toList ++ (statusQueryMiddle.toList ++ offset.formatSeconds.toList ++
        statusQueryTail.toList)) := by
    simp [statusChangesQuery, List.append_assoc]
  have hdesc : wordToken "DESC".toList = .word "desc" := by decide
  simp only [lex, hquery, run_append_of_ok run_statusQueryHead, run_append_of_ok hrun,
    run_statusQueryRest, ok_bind, finish, hdesc]
  simp [statusTokens, statusOrderTokens]

/-- A runtime ID without quotes is one constant. -/
theorem run_runtimeID_of_quote_free {runtimeID : String} (h : '\'' ∉ runtimeID.toList) :
    run ⟨[], .string []⟩ runtimeID.toList = .ok ⟨[], .string runtimeID.toList⟩ := by
  simpa using run_string [] [] h

end Lexing

section Parsing

theorem parseStatement_statusTokens (acc : List Char) (offset : Duration) :
    parseStatement (statusTokens [] acc offset) =
      .ok (statusSelect (statusCondition (String.ofList acc) offset)) := by
  rfl

end Parsing

section Evaluation

variable (inv : DefaultInventory) (now : Nat)

theorem keysLe_id_desc (a b : ClusterStatusEntity) :
    keysLe (inv.catalog now) [("id", true)] a b = decide (b.id ≤ a.id) := by
  simp only [keysLe, DefaultInventory.catalog, statusColumn, compareValues_int, ite_true]
  cases hc : compare b.id a.id with
  | lt => simpa [compare_lt_iff_lt] using (compare_lt_iff_lt.1 hc).le
  | eq => simpa using (compare_eq_iff_eq.1 hc).le
  | gt => simpa [compare_gt_iff_gt] using compare_gt_iff_gt.1 hc

/-- The interval constant of the statement reads back the seconds `%.0f` rounded the offset
to: the minus sign it prints stands before a magnitude that rounds to zero or below. -/
theorem parseInterval_formatSeconds (d : Duration) :
    parseInterval (d.formatSeconds ++ " SECOND") = some d.roundSeconds := by
  have hsigned := parseInterval_signed (decide (d.nanoseconds < 0)) d.roundSeconds.natAbs
  simp only [decide_eq_true_eq] at hsigned
  rw [← Duration.toList_formatSeconds, String.ofList_toList] at hsigned
  rw [hsigned, Option.some_inj]
  split_ifs with hneg
  · have := Duration.roundSeconds_nonpos hneg
    omega
  · have := Duration.roundSeconds_nonneg (Int.not_lt.1 hneg)
    omega

theorem evalExpr_createdWithin (s : ClusterStatusEntity) (offset : Duration) :
    evalExpr (inv.catalog now) s (createdWithin offset) =
      .ok (.bool (decide ((now : Int) - offset.roundSeconds ≤ s.created))) := by
  simp only [createdWithin, evalExpr, parseInterval_formatSeconds]
  simp [columnValue, DefaultInventory.catalog, statusColumn]

theorem evalExpr_statusCondition (s : ClusterStatusEntity) (runtimeID : String)
    (offset : Duration) :
    evalExpr (inv.catalog now) s (statusCondition runtimeID offset) =
      .ok (.bool (decide (s.runtimeID = runtimeID) &&
        decide ((now : Int) - offset.roundSeconds ≤ s.created))) := by
  simp only [statusCondition, evalExpr, evalExpr_createdWithin]
  simp [columnValue, DefaultInventory.catalog, statusColumn]

/-- The statement of a sub-query condition that is a truth value on every status returns the
statuses it selects. -/
theorem evalSelect_statusSelect {cond : Expr} {p : ClusterStatusEntity → Bool}
    (hcond : ∀ s ∈ inv.statuses, evalExpr (inv.catalog now) s cond = .ok (.bool (p s))) :
    evalSelect (inv.catalog now) (statusSelect cond) = .ok (statusesIn inv.statuses p) := by
  have htable : (inv.catalog now).rows tblStatuses = some inv.statuses := by
    simp [DefaultInventory.catalog]
  have hin : ∀ s ∈ inv.statuses, evalExpr (inv.catalog now) s (statusSelect cond).cond =
      .ok (.bool (((inv.statuses.filter p).map fun t => Value.int t.id).contains (.int s.id))) :=
    fun s _ => evalExpr_inSelect rfl htable hcond fun _ _ => rfl
  have hcontains : ∀ s : ClusterStatusEntity,
      ((inv.statuses.filter p).map fun t => Value.int t.id).contains (.int s.id) =
        ((inv.statuses.filter p).map (·.id)).contains s.id := by
    intro s
    simp
  have hkeys : keysLe (inv.catalog now) (statusSelect cond).orderBy =
      fun a b => decide (b.id ≤ a.id) :=
    funext fun a => funext fun b => keysLe_id_desc inv now a b
  rw [evalSelect_ok htable (by simp [DefaultInventory.catalog, statusSelect]) (fun _ h => h) hin,
    hkeys]
  simp only [hcontains, statusesIn]

end Evaluation

section Validation

set_option maxRecDepth 4000 in
theorem statusQueryHead_toList : statusQueryHead.toList = "SELECT".toList ++
    (" id, runtime_id, cluster_version, config_version, status, deleted, created FROM " ++
      "inventory_cluster_config_statuses WHERE id IN (SELECT id ").toList ++
    "FROM ".toList ++ tblStatuses.toList ++ " WHERE ".toList ++ "runtime_id".toList ++
    [' ', '=', ' ', '\''] := by
  rw [show statusQueryHead = "SELECT" ++
    " id, runtime_id, cluster_version, config_version, status, deleted, created FROM " ++
    "inventory_cluster_config_statuses WHERE id IN (SELECT id " ++ "FROM " ++
    "inventory_cluster_config_statuses" ++ " WHERE " ++ "runtime_id" ++ " = '" from rfl]
  simp only [String.toList_append, List.append_assoc]
  rfl

/-- **The validator lets the statement through for every runtime ID on one line**: the select
expression reads the runtime ID's condition as the where part, with the offset as its number. -/
theorem validate_statusChangesQuery (v : Validator) {runtimeID : String}
    (h : '\n' ∉ runtimeID.toList) (offset : Duration) :
    v.validate (statusChangesQuery runtimeID offset) = .ok () := by
  have hquery : (statusChangesQuery runtimeID offset).toList = "SELECT".toList ++
      (" id, runtime_id, cluster_version, config_version, status, deleted, created FROM " ++
        "inventory_cluster_config_statuses WHERE id IN (SELECT id ").toList ++
      "FROM ".toList ++ tblStatuses.toList ++ " WHERE ".toList ++ "runtime_id".toList ++
      ' ' :: '=' :: (' ' :: '\'' :: runtimeID.toList ++ statusQueryMiddle.toList ++
        (if offset.nanoseconds < 0 then ['-'] else [])) ++
        Nat.toDigits 10 offset.roundSeconds.natAbs ++
      statusQueryTail.toList := by
    simp only [statusChangesQuery, String.toList_append, statusQueryHead_toList,
      Duration.toList_formatSeconds, List.append_assoc, List.cons_append, List.nil_append]
  have hbefore : '\n' ∉ ' ' :: '\'' :: runtimeID.toList ++ statusQueryMiddle.toList ++
      (if offset.nanoseconds < 0 then ['-'] else []) := by
    have hmiddle : '\n' ∉ statusQueryMiddle.toList := by simp [statusQueryMiddle]
    split_ifs <;> simp [h, hmiddle]
  have hcolumns : '\n' ∉ (" id, runtime_id, cluster_version, config_version, status, deleted, " ++
      "created FROM inventory_cluster_config_statuses WHERE id IN (SELECT id ").toList := by
    simp
  -- the table and the column are checked character by character through List.all
  exact Validator.validate_select v hquery hcolumns (List.all_eq_true.1 (by rfl)) (by decide)
    (List.all_eq_true.1 (by rfl)) (Or.inl rfl) hbefore
    (fun c hc => Nat.isDigit_of_mem_toDigits (by decide) (by decide) hc) Nat.toDigits_ne_nil
    (by simp [statusQueryTail])

end Validation

namespace DefaultInventory

variable (inv : DefaultInventory) (validator : Validator) (now : Nat)

/-- `StatusChanges` returns the statuses of the statement the runtime ID's tokens make. -/
theorem statusChanges_of_run {runtimeID : String} (hline : '\n' ∉ runtimeID.toList)
    {ts : List Token} {acc : List Char}
    (hrun : run ⟨[], .string []⟩ runtimeID.toList = .ok ⟨ts, .string acc⟩)
    (offset : Duration)
    {cond : Expr} (hparse : parseStatement (statusTokens ts acc offset) = .ok (statusSelect cond))
    {p : ClusterStatusEntity → Bool}
    (hcond : ∀ s ∈ inv.statuses, evalExpr (inv.catalog now) s cond = .ok (.bool (p s))) :
    inv.statusChanges validator now runtimeID offset =
      statusChangesOfRows now runtimeID (statusesIn inv.statuses p) := by
  rw [statusChanges_eq]
  simp only [PostgresConnection.query, validate_statusChangesQuery validator hline,
    lex_statusChangesQuery hrun, hparse, evalSelect_statusSelect inv now hcond, ok_bind,
    Except.mapError]
  rfl

/-- **For a runtime ID without quotes or line breaks, `StatusChanges` returns the statuses of
that cluster created within the offset, newest first.** -/
theorem statusChanges_of_quote_free {runtimeID : String} (hquote : '\'' ∉ runtimeID.toList)
    (hline : '\n' ∉ runtimeID.toList) (offset : Duration) :
    inv.statusChanges validator now runtimeID offset =
      statusChangesOfRows now runtimeID (statusesIn inv.statuses fun s =>
        decide (s.runtimeID = runtimeID) &&
          decide ((now : Int) - offset.roundSeconds ≤ s.created)) := by
  have hparse := parseStatement_statusTokens runtimeID.toList offset
  rw [String.ofList_toList] at hparse
  exact statusChanges_of_run inv validator now hline (run_runtimeID_of_quote_free hquote) offset
    hparse fun s _ => evalExpr_statusCondition inv now s runtimeID offset

/-- Where ids are keys, the statuses whose id a status with `p` has are those with `p`. -/
theorem statusesIn_of_nodup {statuses : List ClusterStatusEntity}
    (h : (statuses.map (·.id)).Nodup) (p : ClusterStatusEntity → Bool) :
    statusesIn statuses p = (statuses.filter p).mergeSort fun a b => decide (b.id ≤ a.id) := by
  simp only [statusesIn]
  congr 1
  apply List.filter_congr
  intro s hs
  -- the one status with the id of `s` is `s`
  have hsame : ∀ t ∈ statuses, t.id = s.id → t = s :=
    fun t ht hid => List.inj_on_of_nodup_map h ht hs hid
  cases hp : p s with
  | false =>
    simp only [List.elem_eq_mem, decide_eq_false_iff_not, List.mem_map, List.mem_filter]
    rintro ⟨t, ⟨ht, hpt⟩, hid⟩
    rw [hsame t ht hid, hp] at hpt
    exact Bool.false_ne_true hpt
  | true => simpa using ⟨s, ⟨hs, hp⟩, rfl⟩

/-- **Two inventories that agree on the statuses of a cluster give it the same status history**,
for a runtime ID without quotes or line breaks. -/
theorem statusChanges_congr_of_quote_free {inv₁ inv₂ : DefaultInventory} {runtimeID : String}
    (hquote : '\'' ∉ runtimeID.toList) (hline : '\n' ∉ runtimeID.toList)
    (hids₁ : (inv₁.statuses.map (·.id)).Nodup) (hids₂ : (inv₂.statuses.map (·.id)).Nodup)
    (hagree : inv₁.statuses.filter (fun s => s.runtimeID = runtimeID) =
      inv₂.statuses.filter (fun s => s.runtimeID = runtimeID))
    (offset : Duration) :
    inv₁.statusChanges validator now runtimeID offset =
      inv₂.statusChanges validator now runtimeID offset := by
  -- the condition is the cluster's filter followed by the offset's
  have hsplit : ∀ statuses : List ClusterStatusEntity,
      statuses.filter (fun s => decide (s.runtimeID = runtimeID) &&
        decide ((now : Int) - offset.roundSeconds ≤ s.created)) =
      (statuses.filter fun s => s.runtimeID = runtimeID).filter
        fun s => decide ((now : Int) - offset.roundSeconds ≤ s.created) := by
    intro statuses
    rw [List.filter_filter]
    simp only [Bool.and_comm]
  rw [statusChanges_of_quote_free inv₁ validator now hquote hline,
    statusChanges_of_quote_free inv₂ validator now hquote hline, statusesIn_of_nodup hids₁,
    statusesIn_of_nodup hids₂, hsplit, hsplit, hagree]

/-- A runtime ID that ends its constant with a quote reads as that constant, `OR`, and the
comparison of two constants, the second left open for the middle to close. -/
theorem run_injected_runtimeID {x : String} (h : '\'' ∉ x.toList) :
    run ⟨[], .string []⟩ (x ++ "' OR '1'='1").toList =
      .ok ⟨[.str x, .word "or", .str "1", .symbol "="], .string ['1']⟩ := by
  have hrest : run ⟨[], .start⟩ (' ' :: "OR '1'='1".toList) =
      .ok ⟨[.word "or", .str "1", .symbol "="], .string ['1']⟩ := rfl
  have hinjected : "' OR '1'='1".toList = '\'' :: ' ' :: "OR '1'='1".toList := rfl
  rw [String.toList_append, run_append_of_ok (by simpa using run_string [] [] h), hinjected,
    run_close _ _ (by decide), run_tokens, hrest]
  simp [Except.map, LexState.prepend]

theorem parseStatement_injected (x : String) (offset : Duration) :
    parseStatement (statusTokens [.str x, .word "or", .str "1", .symbol "="] ['1'] offset) =
      .ok (statusSelect (.binary .or (.binary .eq (.column "runtime_id") (.str x))
        (.binary .and (.binary .eq (.str "1") (.str "1")) (createdWithin offset)))) := by
  rfl

theorem statusChanges_injected (inv : DefaultInventory) (validator : Validator) (now : Nat)
    {x : String} (hquote : '\'' ∉ x.toList) (hline : '\n' ∉ x.toList) (offset : Duration) :
    inv.statusChanges validator now (x ++ "' OR '1'='1") offset =
      statusChangesOfRows now (x ++ "' OR '1'='1") (statusesIn inv.statuses fun s =>
        decide (s.runtimeID = x) || decide ((now : Int) - offset.roundSeconds ≤ s.created)) := by
  have hline' : '\n' ∉ (x ++ "' OR '1'='1").toList := by
    simpa [String.toList_append] using hline
  refine statusChanges_of_run inv validator now hline' (run_injected_runtimeID hquote) offset
    (parseStatement_injected x offset) fun s _ => ?_
  simp only [evalExpr, evalExpr_createdWithin]
  simp [columnValue, DefaultInventory.catalog, statusColumn]

end DefaultInventory

/-- A status of another cluster, created at the time the query runs. -/
def otherClusterStatus : ClusterStatusEntity :=
  { id := 1, runtimeID := "other", status := .ready, created := 100 }

theorem statusChanges_injected_reads_other_cluster :
    ([] : List ClusterStatusEntity).filter (fun s => s.runtimeID = "runtime" ++ "' OR '1'='1") =
        [otherClusterStatus].filter (fun s => s.runtimeID = "runtime" ++ "' OR '1'='1") ∧
      ({} : DefaultInventory).statusChanges ⟨true⟩ 100 ("runtime" ++ "' OR '1'='1")
          (.ofSeconds 60) =
        .error (.notFound ("runtime" ++ "' OR '1'='1")) ∧
      ({ statuses := [otherClusterStatus], statusIDSeq := 2 } : DefaultInventory).statusChanges
        ⟨true⟩ 100 ("runtime" ++ "' OR '1'='1") (.ofSeconds 60) =
          .ok [⟨otherClusterStatus, 0⟩] := by
  refine ⟨by decide, ?_, ?_⟩
  · rw [DefaultInventory.statusChanges_injected _ _ _ (by decide) (by decide)]
    simp [statusesIn, statusChangesOfRows]
  · rw [DefaultInventory.statusChanges_injected _ _ _ (by decide) (by decide)]
    simp [statusesIn, statusChangesOfRows, statusChangeList, otherClusterStatus]

end Reconciler
