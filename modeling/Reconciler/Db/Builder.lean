import Reconciler.Db.Query

/-!
# Statement builders and their placeholders

The builders of `pkg/db/query.go` write a statement into the buffer of a `db.Query` and collect
the arguments its placeholders `$1, $2, …` are bound to. Placeholder numbers are computed in
several places: `addWhereCondition` adds an offset (the arguments so far for `Select` and
`Delete`, the running `placeholderOffset` for `Update`), the column renderer numbers the
`SET` entries of an `Update` from 1, and the caller numbers the placeholders of a raw condition
or a sub-query from `NextPlaceholderCount()`.

The buffer is kept as pieces, text and placeholders, which `render` turns into the text that is
executed; the placeholders of a statement are read off its pieces. `Reconciler.Select` (in
`Db.Query`) is the select builder without its arguments: `Builder.Stmt.toSelect` forgets them.
-/

namespace Reconciler

namespace Builder

/-- A piece of the text of a statement: text, or a placeholder `$k`. -/
inductive SqlPiece
  | text (s : String)
  | param (k : Nat)
  deriving DecidableEq, Repr

/-- The text of a piece: a placeholder is written `$%d`. -/
def SqlPiece.render : SqlPiece → String
  | .text s => s
  | .param k => "$" ++ toString k

/-- The text of a statement. -/
def render (ps : List SqlPiece) : String :=
  String.join (ps.map SqlPiece.render)

def SqlPiece.param? : SqlPiece → Option Nat
  | .param k => some k
  | .text _ => none

/-- The placeholders of a statement, in the order of its text. -/
def params (ps : List SqlPiece) : List Nat :=
  ps.filterMap SqlPiece.param?

@[simp] theorem params_nil : params [] = [] := rfl

@[simp] theorem params_append (ps qs : List SqlPiece) :
    params (ps ++ qs) = params ps ++ params qs := by
  simp [params, List.filterMap_append]

@[simp] theorem params_cons_text (s : String) (ps : List SqlPiece) :
    params (.text s :: ps) = params ps := rfl

@[simp] theorem params_cons_param (k : Nat) (ps : List SqlPiece) :
    params (.param k :: ps) = k :: params ps := rfl

@[simp] theorem render_nil : render [] = "" := rfl

@[simp] theorem render_append (ps qs : List SqlPiece) :
    render (ps ++ qs) = render ps ++ render qs := by
  simp [render, String.join_append]

@[simp] theorem render_cons (p : SqlPiece) (ps : List SqlPiece) :
    render (p :: ps) = p.render ++ render ps := by
  simp [render, String.join_cons]

/-- The buffer of a `db.Query`, whether a where clause is open, and its column handler. -/
structure QueryBuffer where
  columnHandler : ColumnHandler
  buffer : List SqlPiece
  whereClause : Bool
  deriving DecidableEq, Repr

namespace QueryBuffer

def write (q : QueryBuffer) (ps : List SqlPiece) : QueryBuffer :=
  { q with buffer := q.buffer ++ ps }

/-- `Query.addWhere`. -/
def addWhere (q : QueryBuffer) : QueryBuffer :=
  if q.whereClause then q.write [.text " AND"]
  else { q.write [.text " WHERE"] with whereClause := true }

end QueryBuffer

variable {α : Type}

/-- The fields of a condition sorted by name (`sort.Strings`); a Go map has distinct keys. -/
def sortFields (whereCond : List (String × α)) : List (String × α) :=
  whereCond.mergeSort fun a b => decide (a.1 ≤ b.1)

/-- The loop of `Query.addWhereCondition` and `Update.addWhereCondition` from index
`plcHdrIdx` on: each field is written ` col=$k` (`op` is `!=` for a negated condition) with
`k = plcHdrIdx + 1 + plcHdrOffset`, and its value is the argument. The loop stops at the first
field without a column; what it wrote before stays written. -/
def conditionLoop (ch : ColumnHandler) (op : String) (plcHdrOffset : Nat) :
    Nat → List (String × α) → List SqlPiece × List α × Option String
  | _, [] => ([], [], none)
  | plcHdrIdx, (field, value) :: fields =>
    match ch.columnName field with
    | .error err => ([], [], some err)
    | .ok col =>
      let r := conditionLoop ch op plcHdrOffset (plcHdrIdx + 1) fields
      ((if plcHdrIdx > 0 then [.text " AND"] else []) ++
          [.text (" " ++ col ++ op), .param (plcHdrIdx + 1 + plcHdrOffset)] ++ r.1,
        value :: r.2.1, r.2.2)

namespace QueryBuffer

/-- `Query.addWhereCondition`: the conditions and the arguments written, and the error of a
field without a column. -/
def addWhereCondition (q : QueryBuffer) (whereCond : List (String × α)) (plcHdrOffset : Nat) :
    QueryBuffer × List α × Option String :=
  if whereCond.isEmpty then (q, [], none)
  else
    let r := conditionLoop q.columnHandler "=" plcHdrOffset 0 (sortFields whereCond)
    (q.addWhere.write r.1, r.2.1, r.2.2)

/-- `Query.addWhereInCondition`: the sub-query is written as the caller rendered it. -/
def addWhereInCondition (q : QueryBuffer) (field : String) (subQuery : List SqlPiece) :
    Except String QueryBuffer := do
  let colName ← q.columnHandler.columnName field
  .ok (q.addWhere.write ([.text (" " ++ colName ++ " IN (")] ++ subQuery ++ [.text ")"]))

end QueryBuffer

/-- A `db.Select` or a `db.Delete`: the `Query` it writes, its arguments, and the error of the
call that set it last. -/
structure Stmt (α : Type) where
  query : QueryBuffer
  args : List α
  err : Option String
  deriving DecidableEq, Repr

/-- `Query.Select`: every column of the entity. -/
def select (q : Query) : Stmt α :=
  ⟨⟨q.columnHandler, [.text ("SELECT " ++ q.columnHandler.columnNamesCsv ++ " FROM " ++ q.table)],
    false⟩, [], none⟩

/-- `Query.Delete`. -/
def delete (q : Query) : Stmt α :=
  ⟨⟨q.columnHandler, [.text ("DELETE FROM " ++ q.table)], false⟩, [], none⟩

namespace Stmt

/-- `Select.Where` and `Delete.Where`: the conditions are numbered after the arguments so far,
and the error of the call, or nil, replaces the error before. -/
def where_ (s : Stmt α) (conds : List (String × α)) : Stmt α :=
  let r := s.query.addWhereCondition conds s.args.length
  ⟨r.1, s.args ++ r.2.1, r.2.2⟩

/-- `Select.WhereRaw` and `Delete.WhereRaw`. -/
def whereRaw (s : Stmt α) (stmt : List SqlPiece) (args : List α) : Stmt α :=
  { s with query := s.query.addWhere.write ([.text " ("] ++ stmt ++ [.text ")"]),
           args := s.args ++ args }

/-- `Select.NextPlaceholderCount` and `Delete.NextPlaceholderCount`. -/
def nextPlaceholderCount (s : Stmt α) : Nat :=
  s.args.length + 1

end Stmt

namespace Select

/-- `Select.Where`. -/
def where_ (s : Stmt α) (conds : List (String × α)) : Stmt α :=
  s.where_ conds

/-- `Select.WhereRaw`. -/
def whereRaw (s : Stmt α) (stmt : List SqlPiece) (args : List α) : Stmt α :=
  s.whereRaw stmt args

/-- `Select.WhereIn`: the arguments are appended; the error of the call replaces the one
before. -/
def whereIn (s : Stmt α) (field : String) (subQuery : List SqlPiece) (args : List α) :
    Stmt α :=
  match s.query.addWhereInCondition field subQuery with
  | .ok q => ⟨q, s.args ++ args, none⟩
  | .error e => ⟨s.query, s.args ++ args, some e⟩

/-- `Select.GroupBy`: a field without a column leaves the statement as it is, with the
error. -/
def groupBy (s : Stmt α) (args : List String) : Stmt α :=
  if args.isEmpty then s
  else
    match args.mapM fun field => (fun col => " " ++ col) <$> s.query.columnHandler.columnName field with
    | .error e => { s with err := some e }
    | .ok grouping =>
      { s with query := s.query.write [.text " GROUP BY", .text (", ".intercalate grouping)] }

/-- `Select.OrderBy`: the fields sorted by name, each with its direction. -/
def orderBy (s : Stmt α) (args : List (String × String)) : Stmt α :=
  if args.isEmpty then s
  else
    let fields := (args.map Prod.fst).mergeSort fun a b => decide (a ≤ b)
    let ordering := fields.mapM fun field => do
      let col ← s.query.columnHandler.columnName field
      .ok (" " ++ col ++ " " ++ (args.lookup field).getD "")
    match ordering with
    | .error e => { s with err := some e }
    | .ok ordering =>
      { s with query := s.query.write [.text " ORDER BY", .text (", ".intercalate ordering)] }

/-- `Select.Limit`. -/
def limit (s : Stmt α) (limit : Int) : Stmt α :=
  { s with query := s.query.write [.text (" LIMIT " ++ toString limit)] }

/-- `Select.NextPlaceholderCount`. -/
def nextPlaceholderCount (s : Stmt α) : Nat :=
  s.nextPlaceholderCount

/-- `Select.GetOne` and `Select.GetMany`: the error of the last call that set one, or the
statement and the arguments handed to the connection. -/
def getMany (s : Stmt α) : Except String (String × List α) :=
  match s.err with
  | some e => .error e
  | none => .ok (render s.query.buffer, s.args)

end Select

namespace Delete

/-- `Delete.Where`. -/
def where_ (s : Stmt α) (conds : List (String × α)) : Stmt α :=
  s.where_ conds

/-- `Delete.WhereRaw`. -/
def whereRaw (s : Stmt α) (stmt : List SqlPiece) (args : List α) : Stmt α :=
  s.whereRaw stmt args

/-- `Delete.WhereIn`: unlike `Select.WhereIn`, the arguments replace those before. -/
def whereIn (s : Stmt α) (field : String) (subQuery : List SqlPiece) (args : List α) :
    Stmt α :=
  match s.query.addWhereInCondition field subQuery with
  | .ok q => ⟨q, args, none⟩
  | .error e => ⟨s.query, args, some e⟩

/-- `Delete.NextPlaceholderCount`. -/
def nextPlaceholderCount (s : Stmt α) : Nat :=
  s.nextPlaceholderCount

/-- `Delete.Exec`: the error of the last call that set one, or the statement and the
arguments handed to the connection. -/
def exec (s : Stmt α) : Except String (String × List α) :=
  match s.err with
  | some e => .error e
  | none => .ok (render s.query.buffer, s.args)

end Delete

/-! ## Update -/

/-- A column of the entity of an `Update`, as the `ColumnHandler` keeps it: its name, whether
it is read-only, and the value of its field. -/
structure Column (α : Type) where
  name : String
  readOnly : Bool
  value : α
  deriving DecidableEq, Repr

/-- The loop of `columnEntriesCsvRenderer(true, true)` from placeholder `placeholderIdx` on:
`name=$k` for each column, separated by commas. -/
def columnEntries : Nat → List String → List SqlPiece
  | _, [] => []
  | placeholderIdx, name :: names =>
    (if placeholderIdx > 0 then [.text ", "] else []) ++
      [.text (name ++ "="), .param (placeholderIdx + 1)] ++ columnEntries (placeholderIdx + 1) names

/-- The columns an `Update` sets: those that are not read-only. -/
def writeable (cols : List (Column α)) : List (Column α) :=
  cols.filter fun col => !col.readOnly

/-- `ColumnHandler.ColumnValues(true)`; the encryption of values is left out. -/
def columnValues (cols : List (Column α)) : List α :=
  (writeable cols).map Column.value

/-- A `db.Update`: the `Query` it writes, the columns of its entity, the arguments of its
conditions, the number of placeholders written so far, and the error of its last call. -/
structure Update (α : Type) where
  query : QueryBuffer
  columns : List (Column α)
  args : List α
  placeholderOffset : Nat
  err : Option String
  deriving DecidableEq, Repr

/-- `Query.Update`: `SET` with a placeholder for each writeable column, numbered from 1. -/
def update (q : Query) (cols : List (Column α)) : Update α :=
  ⟨⟨q.columnHandler, [.text ("UPDATE " ++ q.table ++ " SET ")] ++
      columnEntries 0 ((writeable cols).map Column.name), false⟩,
    cols, [], (writeable cols).length, none⟩

namespace Update

/-- `Update.addWhereCondition`: the conditions are numbered after `placeholderOffset`, which
counts them only when every field has a column, as the arguments do. -/
def addWhereCondition (u : Update α) (whereCond : List (String × α)) (negate : Bool) :
    Update α × Option String :=
  if whereCond.isEmpty then (u, none)
  else
    let r := conditionLoop u.query.columnHandler (if negate then "!=" else "=")
      u.placeholderOffset 0 (sortFields whereCond)
    let u' := { u with query := u.query.addWhere.write r.1 }
    match r.2.2 with
    | some err => (u', some err)
    | none =>
      ({ u' with placeholderOffset := u.placeholderOffset + r.2.1.length,
                 args := u.args ++ r.2.1 }, none)

/-- `Update.Where`. -/
def where_ (u : Update α) (args : List (String × α)) : Update α :=
  let r := u.addWhereCondition args false
  { r.1 with err := r.2 }

/-- `Update.WhereNot`. -/
def whereNot (u : Update α) (args : List (String × α)) : Update α :=
  let r := u.addWhereCondition args true
  { r.1 with err := r.2 }

/-- `Update.colVals`: the values of the `SET` columns, then the arguments of the conditions;
`Validate` is left out. -/
def colVals (u : Update α) : List α :=
  columnValues u.columns ++ u.args

/-- `Update.ExecCount`: the statement and the arguments handed to the connection. It does not
look at the error of the calls before. -/
def execCount (u : Update α) : String × List α :=
  (render u.query.buffer, u.colVals)

end Update

/-! ## What the builders write when every field has a column -/

/-- Every field has a column. -/
def Resolves (ch : ColumnHandler) (fields : List String) : Prop :=
  ∀ f ∈ fields, ∃ col, ch.columnName f = .ok col

theorem exists_mapM_eq_ok {β γ ε : Type} {f : β → Except ε γ} {l : List β}
    (h : ∀ a ∈ l, ∃ b, f a = .ok b) : ∃ bs, l.mapM f = .ok bs := by
  induction l with
  | nil => exact ⟨[], rfl⟩
  | cons a l ih =>
    obtain ⟨b, hb⟩ := h a List.mem_cons_self
    obtain ⟨bs, hbs⟩ := ih fun a' ha' => h a' (List.mem_cons_of_mem a ha')
    exact ⟨b :: bs, by simp [hb, hbs, bind, Except.bind, pure, Except.pure]⟩

theorem mapM_ne_ok {β γ ε : Type} {f : β → Except ε γ} {l : List β} {a : β} (ha : a ∈ l)
    (h : ∀ b, f a ≠ .ok b) (bs : List γ) : l.mapM f ≠ .ok bs := by
  induction l generalizing bs with
  | nil => simp at ha
  | cons x l ih =>
    rw [List.mapM_cons]
    cases hx : f x with
    | error e => simp [bind, Except.bind]
    | ok b =>
      -- the first value is fine, so the field without a value is further on
      have hal : a ∈ l := by
        rcases List.mem_cons.1 ha with rfl | hal
        · exact absurd hx (h b)
        · exact hal
      cases hl : l.mapM f with
      | error e => simp [bind, Except.bind]
      | ok bs' => exact absurd hl (ih hal bs')

theorem sortFields_perm (whereCond : List (String × α)) : (sortFields whereCond).Perm whereCond :=
  List.mergeSort_perm _ _

theorem Resolves.sortFields {ch : ColumnHandler} {whereCond : List (String × α)}
    (h : Resolves ch (whereCond.map Prod.fst)) : Resolves ch ((sortFields whereCond).map Prod.fst) :=
  fun f hf => h f (((sortFields_perm whereCond).map Prod.fst).subset hf)

/-- When every field has a column, the loop writes one placeholder for each field, numbered
on from `plcHdrIdx + 1 + plcHdrOffset`, and the values of the fields are the arguments. -/
theorem conditionLoop_of_resolves (ch : ColumnHandler) (op : String) (plcHdrOffset : Nat)
    (fields : List (String × α)) (plcHdrIdx : Nat) (h : Resolves ch (fields.map Prod.fst)) :
    (conditionLoop ch op plcHdrOffset plcHdrIdx fields).2.2 = none ∧
      (conditionLoop ch op plcHdrOffset plcHdrIdx fields).2.1 = fields.map Prod.snd ∧
      params (conditionLoop ch op plcHdrOffset plcHdrIdx fields).1 =
        List.range' (plcHdrIdx + 1 + plcHdrOffset) fields.length := by
  induction fields generalizing plcHdrIdx with
  | nil => simp [conditionLoop]
  | cons p fields ih =>
    obtain ⟨field, value⟩ := p
    obtain ⟨col, hcol⟩ := h field (by simp)
    obtain ⟨herr, hargs, hparams⟩ := ih (plcHdrIdx + 1) fun f hf => h f (by simp [hf])
    simp only [conditionLoop, hcol]
    refine ⟨herr, by simp [hargs], ?_⟩
    rw [params_append, hparams, List.length_cons, List.range'_succ]
    split_ifs <;> simp <;> omega

namespace QueryBuffer

@[simp] theorem columnHandler_write (q : QueryBuffer) (ps : List SqlPiece) :
    (q.write ps).columnHandler = q.columnHandler := rfl

@[simp] theorem buffer_write (q : QueryBuffer) (ps : List SqlPiece) :
    (q.write ps).buffer = q.buffer ++ ps := rfl

@[simp] theorem whereClause_write (q : QueryBuffer) (ps : List SqlPiece) :
    (q.write ps).whereClause = q.whereClause := rfl

@[simp] theorem whereClause_addWhere (q : QueryBuffer) : q.addWhere.whereClause = true := by
  unfold addWhere
  split <;> simp_all [write]

@[simp] theorem columnHandler_addWhere (q : QueryBuffer) :
    q.addWhere.columnHandler = q.columnHandler := by
  unfold addWhere
  split <;> rfl

/-- `addWhere` writes one piece of text, which has no placeholder. -/
theorem buffer_addWhere (q : QueryBuffer) :
    q.addWhere.buffer = q.buffer ++ [.text (if q.whereClause then " AND" else " WHERE")] := by
  unfold addWhere
  split <;> simp_all

end QueryBuffer

/-- `s'` is `s` with text appended whose placeholders are numbered on from
`NextPlaceholderCount()`, one for each of `args`, which are appended to the arguments; and `s'`
has no error. -/
structure Extends (s s' : Stmt α) (args : List α) : Prop where
  columnHandler_eq : s'.query.columnHandler = s.query.columnHandler
  buffer_eq : ∃ b, s'.query.buffer = s.query.buffer ++ b ∧
    params b = List.range' s.nextPlaceholderCount args.length
  args_eq : s'.args = s.args ++ args
  err_eq : s'.err = none

/-- Text without placeholders extends a statement without an error. -/
theorem Extends.of_text {s s' : Stmt α} (ps : List SqlPiece) (hs : s.err = none)
    (hq : s'.query.columnHandler = s.query.columnHandler)
    (hb : s'.query.buffer = s.query.buffer ++ ps) (hps : params ps = [])
    (hargs : s'.args = s.args) (herr : s'.err = s.err) : Extends s s' [] :=
  ⟨hq, ⟨ps, hb, by simp [hps]⟩, by simp [hargs], herr.trans hs⟩

namespace Stmt

/-- `Where` with fields that all have a column: the conditions are numbered on from
`NextPlaceholderCount()` and the error before is dropped. -/
theorem extends_where_ (s : Stmt α) {conds : List (String × α)}
    (h : Resolves s.query.columnHandler (conds.map Prod.fst)) :
    Extends s (s.where_ conds) ((sortFields conds).map Prod.snd) := by
  by_cases hc : conds.isEmpty
  · have hnil : conds = [] := List.isEmpty_iff.1 hc
    subst hnil
    exact ⟨rfl, ⟨[], by simp [where_, QueryBuffer.addWhereCondition], by simp [sortFields]⟩,
      by simp [where_, QueryBuffer.addWhereCondition, sortFields], rfl⟩
  · obtain ⟨herr, hargs, hparams⟩ := conditionLoop_of_resolves s.query.columnHandler "="
      s.args.length (sortFields conds) 0 h.sortFields
    refine ⟨by simp [where_, QueryBuffer.addWhereCondition, hc],
      ⟨[.text (if s.query.whereClause then " AND" else " WHERE")] ++
        (conditionLoop s.query.columnHandler "=" s.args.length 0 (sortFields conds)).1, ?_, ?_⟩,
      ?_, ?_⟩
    · simp [where_, QueryBuffer.addWhereCondition, hc, QueryBuffer.buffer_addWhere]
    · rw [params_append, hparams]
      simp [nextPlaceholderCount, Nat.add_comm]
    · simp [where_, QueryBuffer.addWhereCondition, hc, hargs]
    · simp [where_, QueryBuffer.addWhereCondition, hc, herr]

/-- A raw condition numbered on from `NextPlaceholderCount()`, one placeholder for each of its
arguments. -/
theorem extends_whereRaw (s : Stmt α) (hs : s.err = none) {stmt : List SqlPiece}
    {args : List α} (h : params stmt = List.range' s.nextPlaceholderCount args.length) :
    Extends s (s.whereRaw stmt args) args :=
  ⟨by simp [whereRaw], ⟨_, by simp [whereRaw, QueryBuffer.buffer_addWhere]; rfl,
    by simp [h]⟩, rfl, hs⟩

end Stmt

theorem QueryBuffer.addWhereInCondition_of_columnName {q : QueryBuffer} {field col : String}
    (hcol : q.columnHandler.columnName field = .ok col) (subQuery : List SqlPiece) :
    q.addWhereInCondition field subQuery =
      .ok (q.addWhere.write ([.text (" " ++ col ++ " IN (")] ++ subQuery ++ [.text ")"])) := by
  simp [QueryBuffer.addWhereInCondition, hcol, bind, Except.bind]

namespace Select

theorem extends_whereIn (s : Stmt α) {field col : String}
    (hcol : s.query.columnHandler.columnName field = .ok col) {subQuery : List SqlPiece}
    {args : List α} (h : params subQuery = List.range' s.nextPlaceholderCount args.length) :
    Extends s (whereIn s field subQuery args) args := by
  have hq := QueryBuffer.addWhereInCondition_of_columnName hcol subQuery
  refine ⟨by simp [whereIn, hq], ⟨_, by simp [whereIn, hq, QueryBuffer.buffer_addWhere]; rfl,
    by simp [h]⟩, by simp [whereIn, hq], by simp [whereIn, hq]⟩

theorem extends_groupBy (s : Stmt α) (hs : s.err = none) {fields : List String}
    (h : Resolves s.query.columnHandler fields) : Extends s (groupBy s fields) [] := by
  unfold groupBy
  split_ifs with hempty
  · exact Extends.of_text [] hs rfl (by simp) rfl rfl rfl
  · obtain ⟨grouping, hg⟩ := exists_mapM_eq_ok (l := fields)
      (f := fun field => (fun col => " " ++ col) <$> s.query.columnHandler.columnName field)
      fun f hf => by
        obtain ⟨col, hcol⟩ := h f hf
        exact ⟨" " ++ col, by simp [hcol, Functor.map, Except.map]⟩
    simp only [hg]
    exact Extends.of_text _ hs rfl rfl (by simp) rfl rfl

theorem extends_orderBy (s : Stmt α) (hs : s.err = none) {args : List (String × String)}
    (h : Resolves s.query.columnHandler (args.map Prod.fst)) : Extends s (orderBy s args) [] := by
  unfold orderBy
  split_ifs with hempty
  · exact Extends.of_text [] hs rfl (by simp) rfl rfl rfl
  · have hsorted : Resolves s.query.columnHandler
        ((args.map Prod.fst).mergeSort fun a b => decide (a ≤ b)) :=
      fun f hf => h f ((List.mergeSort_perm _ _).subset hf)
    obtain ⟨ordering, ho⟩ := exists_mapM_eq_ok
      (l := (args.map Prod.fst).mergeSort fun a b => decide (a ≤ b))
      (f := fun field => do
        let col ← s.query.columnHandler.columnName field
        .ok (" " ++ col ++ " " ++ (args.lookup field).getD ""))
      fun f hf => by
        obtain ⟨col, hcol⟩ := hsorted f hf
        exact ⟨" " ++ col ++ " " ++ (args.lookup f).getD "", by simp [hcol, bind, Except.bind]⟩
    simp only [ho]
    exact Extends.of_text _ hs rfl rfl (by simp) rfl rfl

theorem extends_limit (s : Stmt α) (hs : s.err = none) (n : Int) : Extends s (limit s n) [] :=
  Extends.of_text _ hs rfl rfl (by simp) rfl rfl

end Select

/-- `GroupBy` with a field without a column sets the error, and a later `Where` whose fields
all have a column drops it: `GetMany` executes the statement, without the grouping. -/
theorem Select.getMany_after_failed_groupBy (q : Query) {fields : List String} {f e : String}
    (hf : f ∈ fields) (hbad : q.columnHandler.columnName f = .error e)
    {conds : List (String × α)} (hres : Resolves q.columnHandler (conds.map Prod.fst)) :
    (Select.groupBy (select q : Stmt α) fields).err.isSome ∧
      Select.getMany (Select.where_ (Select.groupBy (select q) fields) conds) =
        .ok (render (Select.where_ (Select.groupBy (select q) fields) conds).query.buffer,
          (sortFields conds).map Prod.snd) := by
  have hne : fields.isEmpty = false := by
    cases fields with
    | nil => simp at hf
    | cons _ _ => rfl
  have hmap : ∃ e', fields.mapM (fun field => (fun col => " " ++ col) <$>
      q.columnHandler.columnName field) = .error e' := by
    cases hm : fields.mapM (fun field => (fun col => " " ++ col) <$>
        q.columnHandler.columnName field) with
    | error e' => exact ⟨e', rfl⟩
    | ok bs => exact absurd hm (mapM_ne_ok hf (by simp [hbad, Functor.map, Except.map]) bs)
  obtain ⟨e', he'⟩ := hmap
  -- the failed grouping writes nothing and keeps the column handler
  have hgroup : Select.groupBy (select q : Stmt α) fields = { select q with err := some e' } := by
    simp only [Select.groupBy, hne, Bool.false_eq_true, if_false]
    rw [show (select q : Stmt α).query.columnHandler = q.columnHandler from rfl, he']
  have hwhere := (Select.groupBy (select q : Stmt α) fields).extends_where_
    (by rw [hgroup]; exact hres)
  refine ⟨by rw [hgroup]; rfl, ?_⟩
  simp only [Select.getMany, Select.where_, hwhere.err_eq, hwhere.args_eq]
  rw [hgroup]
  rfl

/-- The select builder without its arguments, as `Db.Query` models it. -/
def Stmt.toSelect (s : Stmt α) : Reconciler.Select :=
  ⟨s.query.columnHandler, render s.query.buffer, s.query.whereClause, s.err⟩

theorem Stmt.toSelect_select (q : Query) : (select q : Stmt α).toSelect = q.select := by
  simp [toSelect, select, Query.select, SqlPiece.render]

/-- `WhereIn` without its arguments is the `WhereIn` of `Db.Query`. -/
theorem Select.toSelect_whereIn (s : Stmt α) (field : String) (subQuery : List SqlPiece)
    (args : List α) :
    (Select.whereIn s field subQuery args).toSelect = s.toSelect.whereIn field (render subQuery) := by
  cases hcol : s.query.columnHandler.columnName field with
  | error e =>
    have hq : s.query.addWhereInCondition field subQuery = .error e := by
      simp [QueryBuffer.addWhereInCondition, hcol, bind, Except.bind]
    simp [Select.whereIn, hq, Stmt.toSelect, Reconciler.Select.whereIn,
      Reconciler.Select.addWhereInCondition, hcol, bind, Except.bind]
  | ok col =>
    rw [Reconciler.Select.whereIn_of_columnName hcol]
    simp [Select.whereIn, QueryBuffer.addWhereInCondition_of_columnName hcol, Stmt.toSelect,
      QueryBuffer.buffer_addWhere, SqlPiece.render, String.append_assoc]
    -- the two sides decide the same flag with different instances
    by_cases hw : s.query.whereClause = true <;> simp [hw]

/-- `OrderBy` is the `OrderBy` of `Db.Query`. -/
theorem Select.toSelect_orderBy (s : Stmt α) (args : List (String × String)) :
    (Select.orderBy s args).toSelect = s.toSelect.orderBy args := by
  unfold Select.orderBy Reconciler.Select.orderBy
  split_ifs
  · rfl
  · dsimp only
    simp only [show s.toSelect.columnHandler = s.query.columnHandler from rfl]
    split <;> simp_all [Stmt.toSelect, SqlPiece.render, String.append_assoc]

/-! ## Sequences of calls on a `Select` -/

/-- A call on a `Select`. A raw condition and a sub-query are given as the caller renders them
from the number of their first placeholder. -/
inductive SelectCall (α : Type)
  | where_ (conds : List (String × α))
  | whereIn (field : String) (subQuery : Nat → List SqlPiece) (args : List α)
  | whereRaw (stmt : Nat → List SqlPiece) (args : List α)
  | groupBy (fields : List String)
  | orderBy (args : List (String × String))
  | limit (limit : Int)

namespace SelectCall

/-- Running a call; the caller renders a raw condition or a sub-query from
`NextPlaceholderCount()`. -/
def apply : SelectCall α → Stmt α → Stmt α
  | .where_ conds, s => Select.where_ s conds
  | .whereIn field subQuery args, s =>
    Select.whereIn s field (subQuery (Select.nextPlaceholderCount s)) args
  | .whereRaw stmt args, s => Select.whereRaw s (stmt (Select.nextPlaceholderCount s)) args
  | .groupBy fields, s => Select.groupBy s fields
  | .orderBy args, s => Select.orderBy s args
  | .limit n, s => Select.limit s n

/-- The arguments a call supplies, in the order of its placeholders. -/
def args : SelectCall α → List α
  | .where_ conds => (sortFields conds).map Prod.snd
  | .whereIn _ _ args => args
  | .whereRaw _ args => args
  | .groupBy _ | .orderBy _ | .limit _ => []

/-- Every field the call names has a column. -/
def Resolves (ch : ColumnHandler) : SelectCall α → Prop
  | .where_ conds => Builder.Resolves ch (conds.map Prod.fst)
  | .whereIn field _ _ => ∃ col, ch.columnName field = .ok col
  | .groupBy fields => Builder.Resolves ch fields
  | .orderBy args => Builder.Resolves ch (args.map Prod.fst)
  | .whereRaw _ _ | .limit _ => True

/-- A raw condition or a sub-query numbers its placeholders consecutively from the number it
is rendered from, one for each argument it supplies. -/
def Numbered : SelectCall α → Prop
  | .whereIn _ subQuery args => ∀ k, params (subQuery k) = List.range' k args.length
  | .whereRaw stmt args => ∀ k, params (stmt k) = List.range' k args.length
  | .where_ _ | .groupBy _ | .orderBy _ | .limit _ => True

/-- One call that resolves and is numbered, on a statement without an error. -/
theorem extends_apply (c : SelectCall α) (s : Stmt α) (hs : s.err = none)
    (hres : c.Resolves s.query.columnHandler) (hnum : c.Numbered) : Extends s (c.apply s) c.args := by
  cases c with
  | where_ conds => exact s.extends_where_ hres
  | whereIn field subQuery args =>
    obtain ⟨col, hcol⟩ := hres
    exact Select.extends_whereIn s hcol (hnum _)
  | whereRaw stmt args => exact s.extends_whereRaw hs (hnum _)
  | groupBy fields => exact Select.extends_groupBy s hs hres
  | orderBy args => exact Select.extends_orderBy s hs hres
  | limit n => exact Select.extends_limit s hs n

end SelectCall

/-- A `Select` that runs calls in order. -/
def Select.run (s : Stmt α) (calls : List (SelectCall α)) : Stmt α :=
  calls.foldl (fun s c => c.apply s) s

/-- The argument each placeholder of `b` is bound to, in the order of its text. -/
def bindings (args : List α) (b : List SqlPiece) : List (Option α) :=
  (params b).map fun k => args[k - 1]?

/-- Placeholders numbered on from the arguments before are bound to the arguments after them. -/
theorem map_range'_getElem? (l m r : List α) :
    (List.range' (l.length + 1) m.length).map (fun k => (l ++ m ++ r)[k - 1]?) = m.map some := by
  induction m generalizing l with
  | nil => rfl
  | cons x m ih =>
    have hrest := ih (l ++ [x])
    simp only [List.length_append, List.length_singleton, List.append_assoc, List.cons_append,
      List.nil_append] at hrest
    rw [List.length_cons, List.range'_succ, List.map_cons]
    simp only [List.append_assoc, List.cons_append] at hrest ⊢
    rw [hrest]
    simp

theorem bindings_of_params {l m r : List α} {b : List SqlPiece}
    (h : params b = List.range' (l.length + 1) m.length) : bindings (l ++ m ++ r) b = m.map some := by
  rw [bindings, h, map_range'_getElem?]

/-- The run lemma: from a statement without an error, calls that resolve and are numbered
write, call by call, text whose placeholders are bound to the arguments of that call. -/
theorem Select.run_extends (calls : List (SelectCall α)) (s : Stmt α) (hs : s.err = none)
    (hres : ∀ c ∈ calls, c.Resolves s.query.columnHandler) (hnum : ∀ c ∈ calls, c.Numbered) :
    (Select.run s calls).err = none ∧
      (Select.run s calls).args = s.args ++ calls.flatMap SelectCall.args ∧
      ∃ blocks : List (List SqlPiece),
        (Select.run s calls).query.buffer = s.query.buffer ++ blocks.flatten ∧
        params blocks.flatten =
          List.range' s.nextPlaceholderCount (calls.flatMap SelectCall.args).length ∧
        List.Forall₂ (fun b c => bindings (Select.run s calls).args b = c.args.map some)
          blocks calls := by
  induction calls generalizing s with
  | nil => exact ⟨hs, by simp [Select.run], [], by simp [Select.run], by simp, .nil⟩
  | cons c cs ih =>
    have hstep := c.extends_apply s hs (hres c List.mem_cons_self) (hnum c List.mem_cons_self)
    obtain ⟨b, hb, hpb⟩ := hstep.buffer_eq
    have hres' : ∀ c' ∈ cs, c'.Resolves (c.apply s).query.columnHandler := fun c' hc' => by
      rw [hstep.columnHandler_eq]
      exact hres c' (List.mem_cons_of_mem c hc')
    obtain ⟨herr, hargs, blocks, hbuf, hparams, hbind⟩ :=
      ih (c.apply s) hstep.err_eq hres' fun c' hc' => hnum c' (List.mem_cons_of_mem c hc')
    have hrun : Select.run s (c :: cs) = Select.run (c.apply s) cs := rfl
    have hnext : (c.apply s).nextPlaceholderCount = s.nextPlaceholderCount + c.args.length := by
      simp [Stmt.nextPlaceholderCount, hstep.args_eq]
      omega
    rw [hrun]
    refine ⟨herr, by rw [hargs, hstep.args_eq]; simp, b :: blocks, by rw [hbuf, hb]; simp, ?_, ?_⟩
    · rw [List.flatten_cons, params_append, hpb, hparams, hnext, List.range'_append_1]
      simp
    · refine .cons ?_ hbind
      rw [hargs, hstep.args_eq]
      exact bindings_of_params hpb

/-- Calls on a new `Select` that all resolve and are numbered: `GetMany` executes the statement
with the arguments the calls supplied, in order; its placeholders are `$1 … $n`, each once and
in increasing order, for the `n` arguments; and the placeholders each call wrote are bound to
the arguments that call supplied. -/
theorem Select.run_bound (q : Query) (calls : List (SelectCall α))
    (hres : ∀ c ∈ calls, c.Resolves q.columnHandler) (hnum : ∀ c ∈ calls, c.Numbered) :
    Select.getMany (Select.run (select q) calls) =
        .ok (render (Select.run (select q) calls).query.buffer, calls.flatMap SelectCall.args) ∧
      params (Select.run (select q) calls).query.buffer =
        List.range' 1 (calls.flatMap SelectCall.args).length ∧
      ∃ blocks : List (List SqlPiece),
        (Select.run (select q) calls).query.buffer = (select q : Stmt α).query.buffer ++ blocks.flatten ∧
        List.Forall₂ (fun b c => bindings (calls.flatMap SelectCall.args) b = c.args.map some)
          blocks calls := by
  obtain ⟨herr, hargs, blocks, hbuf, hparams, hbind⟩ :=
    Select.run_extends calls (select q) rfl hres hnum
  replace hargs : (Select.run (select q) calls).args = calls.flatMap SelectCall.args := by
    rw [hargs]
    rfl
  refine ⟨by simp [Select.getMany, herr, hargs], ?_, blocks, hbuf, by rwa [hargs] at hbind⟩
  rw [hbuf, params_append, hparams]
  simp [select, Stmt.nextPlaceholderCount]

/-! ## Sequences of calls on a `Delete` -/

/-- A call on a `Delete`. -/
inductive DeleteCall (α : Type)
  | where_ (conds : List (String × α))
  | whereIn (field : String) (subQuery : Nat → List SqlPiece) (args : List α)
  | whereRaw (stmt : Nat → List SqlPiece) (args : List α)

/-- Running a call; the caller renders a raw condition or a sub-query from
`NextPlaceholderCount()`. -/
def DeleteCall.apply : DeleteCall α → Stmt α → Stmt α
  | .where_ conds, s => Delete.where_ s conds
  | .whereIn field subQuery args, s =>
    Delete.whereIn s field (subQuery (Delete.nextPlaceholderCount s)) args
  | .whereRaw stmt args, s => Delete.whereRaw s (stmt (Delete.nextPlaceholderCount s)) args

/-- A `Delete` that runs calls in order. -/
def Delete.run (s : Stmt α) (calls : List (DeleteCall α)) : Stmt α :=
  calls.foldl (fun s c => c.apply s) s

theorem Delete.whereIn_of_columnName {s : Stmt α} {field col : String}
    (hcol : s.query.columnHandler.columnName field = .ok col) (subQuery : List SqlPiece)
    (args : List α) :
    Delete.whereIn s field subQuery args =
      ⟨s.query.addWhere.write ([.text (" " ++ col ++ " IN (")] ++ subQuery ++ [.text ")"]),
        args, none⟩ := by
  simp [Delete.whereIn, QueryBuffer.addWhereInCondition_of_columnName hcol]

namespace DeleteCall

/-- The arguments a call supplies, in the order of its placeholders. -/
def args : DeleteCall α → List α
  | .where_ conds => (sortFields conds).map Prod.snd
  | .whereIn _ _ args => args
  | .whereRaw _ args => args

def IsWhereIn : DeleteCall α → Prop
  | .whereIn _ _ _ => True
  | .where_ _ | .whereRaw _ _ => False

/-- The same call on a `Select`. -/
def toSelectCall : DeleteCall α → SelectCall α
  | .where_ conds => .where_ conds
  | .whereIn field subQuery args => .whereIn field subQuery args
  | .whereRaw stmt args => .whereRaw stmt args

@[simp] theorem args_toSelectCall (c : DeleteCall α) : c.toSelectCall.args = c.args := by
  cases c <;> rfl

/-- A call on a `Delete` is the call on a `Select`, but for a `WhereIn` after arguments. -/
theorem apply_eq_toSelectCall (c : DeleteCall α) (s : Stmt α) (h : c.IsWhereIn → s.args = []) :
    c.apply s = c.toSelectCall.apply s := by
  cases c with
  | where_ conds => rfl
  | whereRaw stmt args => rfl
  | whereIn field subQuery args =>
    have hs : s.args = [] := h trivial
    simp only [apply, SelectCall.apply, toSelectCall, Delete.whereIn, Select.whereIn,
      Delete.nextPlaceholderCount, Select.nextPlaceholderCount, hs, List.nil_append]

/-- A call that supplies no argument leaves a `Delete` without arguments. -/
theorem args_apply_of_args_eq_nil (c : DeleteCall α) {s : Stmt α} (hs : s.args = [])
    (hc : c.args = []) : (c.apply s).args = [] := by
  cases c with
  | where_ conds =>
    have hnil : conds = [] := by
      have hlen := congrArg List.length hc
      simp only [args, List.length_map, sortFields, List.length_mergeSort,
        List.length_nil] at hlen
      exact List.eq_nil_of_length_eq_zero hlen
    subst hnil
    simp [apply, Delete.where_, Stmt.where_, QueryBuffer.addWhereCondition, hs]
  | whereRaw stmt args' =>
    simp only [DeleteCall.args] at hc
    simp [apply, Delete.whereRaw, Stmt.whereRaw, hs, hc]
  | whereIn field subQuery args' =>
    simp only [DeleteCall.args] at hc
    cases h : s.query.addWhereInCondition field (subQuery (Delete.nextPlaceholderCount s)) <;>
      simp [apply, Delete.whereIn, h, hc]

end DeleteCall

/-- No `WhereIn` comes after a call that supplied an argument: calls without arguments, then
calls of which none is a `WhereIn` but the first. -/
inductive WhereInFirst : List (DeleteCall α) → Prop
  | nil : WhereInFirst []
  | noArgs {c : DeleteCall α} {cs : List (DeleteCall α)} :
      c.args = [] → WhereInFirst cs → WhereInFirst (c :: cs)
  | noWhereIn {c : DeleteCall α} {cs : List (DeleteCall α)} :
      (∀ c' ∈ cs, ¬ c'.IsWhereIn) → WhereInFirst (c :: cs)

theorem Delete.run_eq_of_not_whereIn (calls : List (DeleteCall α)) (s : Stmt α)
    (h : ∀ c ∈ calls, ¬ c.IsWhereIn) :
    Delete.run s calls = Select.run s (calls.map DeleteCall.toSelectCall) := by
  induction calls generalizing s with
  | nil => rfl
  | cons c cs ih =>
    show Delete.run (c.apply s) cs = Select.run (c.toSelectCall.apply s) _
    rw [c.apply_eq_toSelectCall s fun hc => absurd hc (h c List.mem_cons_self)]
    exact ih _ fun c' hc' => h c' (List.mem_cons_of_mem c hc')

/-- From a `Delete` without arguments, calls whose `WhereIn` comes first run as on a
`Select`. -/
theorem Delete.run_eq_select_run {calls : List (DeleteCall α)} (h : WhereInFirst calls)
    {s : Stmt α} (hs : s.args = []) :
    Delete.run s calls = Select.run s (calls.map DeleteCall.toSelectCall) := by
  induction h generalizing s with
  | nil => rfl
  | @noArgs c cs hc _ ih =>
    show Delete.run (c.apply s) cs = Select.run (c.toSelectCall.apply s) _
    rw [← c.apply_eq_toSelectCall s fun _ => hs]
    exact ih (c.args_apply_of_args_eq_nil hs hc)
  | @noWhereIn c cs hcs =>
    show Delete.run (c.apply s) cs = Select.run (c.toSelectCall.apply s) _
    rw [← c.apply_eq_toSelectCall s fun _ => hs]
    exact Delete.run_eq_of_not_whereIn cs _ hcs

/-- Calls on a new `Delete` that all resolve and are numbered, no `WhereIn` after a call that
supplied an argument: `Exec` executes the statement with the arguments the calls supplied, in
order; its placeholders are `$1 … $n`, each once and in increasing order; and the placeholders
each call wrote are bound to the arguments that call supplied. -/
theorem Delete.run_bound (q : Query) {calls : List (DeleteCall α)} (hfirst : WhereInFirst calls)
    (hres : ∀ c ∈ calls, c.toSelectCall.Resolves q.columnHandler)
    (hnum : ∀ c ∈ calls, c.toSelectCall.Numbered) :
    Delete.exec (Delete.run (delete q) calls) =
        .ok (render (Delete.run (delete q) calls).query.buffer, calls.flatMap DeleteCall.args) ∧
      params (Delete.run (delete q) calls).query.buffer =
        List.range' 1 (calls.flatMap DeleteCall.args).length ∧
      ∃ blocks : List (List SqlPiece),
        (Delete.run (delete q) calls).query.buffer = (delete q : Stmt α).query.buffer ++ blocks.flatten ∧
        List.Forall₂ (fun b c => bindings (calls.flatMap DeleteCall.args) b = c.args.map some)
          blocks calls := by
  have hflat : (calls.map DeleteCall.toSelectCall).flatMap SelectCall.args =
      calls.flatMap DeleteCall.args := by
    simp [List.flatMap_map]
  rw [Delete.run_eq_select_run hfirst rfl]
  obtain ⟨herr, hargs, blocks, hbuf, hparams, hbind⟩ :=
    Select.run_extends (calls.map DeleteCall.toSelectCall) (delete q) rfl
      (fun c hc => by
        obtain ⟨d, hd, rfl⟩ := List.mem_map.1 hc
        exact hres d hd)
      (fun c hc => by
        obtain ⟨d, hd, rfl⟩ := List.mem_map.1 hc
        exact hnum d hd)
  rw [hflat] at hargs hparams
  replace hargs : (Select.run (delete q) (calls.map DeleteCall.toSelectCall)).args =
      calls.flatMap DeleteCall.args := by
    rw [hargs]
    rfl
  refine ⟨by simp [Delete.exec, herr, hargs], ?_, blocks, hbuf, ?_⟩
  · rw [hbuf, params_append, hparams]
    simp [delete, Stmt.nextPlaceholderCount]
  · rw [hargs] at hbind
    simpa using List.forall₂_map_right_iff.1 hbind

/-- A call on an `Update`. -/
inductive UpdateCall (α : Type)
  | where_ (args : List (String × α))
  | whereNot (args : List (String × α))

namespace UpdateCall

def apply : UpdateCall α → Update α → Update α
  | .where_ args, u => u.where_ args
  | .whereNot args, u => u.whereNot args

/-- The conditions of a call. -/
def conds : UpdateCall α → List (String × α)
  | .where_ args | .whereNot args => args

/-- The arguments a call supplies, in the order of its placeholders. -/
def args (c : UpdateCall α) : List α :=
  (sortFields c.conds).map Prod.snd

end UpdateCall

/-- An `Update` that runs calls in order. -/
def Update.run (u : Update α) (calls : List (UpdateCall α)) : Update α :=
  calls.foldl (fun u c => c.apply u) u

/-- `u'` is `u` with text appended whose placeholders are numbered on from
`placeholderOffset`, one for each of `args`, which are appended to the arguments and counted in
`placeholderOffset`; and `u'` has no error. -/
structure UpdateExtends (u u' : Update α) (args : List α) : Prop where
  columnHandler_eq : u'.query.columnHandler = u.query.columnHandler
  columns_eq : u'.columns = u.columns
  buffer_eq : ∃ b, u'.query.buffer = u.query.buffer ++ b ∧
    params b = List.range' (u.placeholderOffset + 1) args.length
  args_eq : u'.args = u.args ++ args
  offset_eq : u'.placeholderOffset = u.placeholderOffset + args.length
  err_eq : u'.err = none

/-- A call whose fields all have a column: its conditions are numbered on from
`placeholderOffset`, and the error before is dropped. -/
theorem UpdateCall.extends_apply (c : UpdateCall α) (u : Update α)
    (h : Resolves u.query.columnHandler (c.conds.map Prod.fst)) : UpdateExtends u (c.apply u) c.args := by
  -- `Where` and `WhereNot` differ only in the operator they write
  have key : ∀ negate : Bool, UpdateExtends u
      { (u.addWhereCondition c.conds negate).1 with err := (u.addWhereCondition c.conds negate).2 }
      c.args := by
    intro negate
    by_cases hc : c.conds.isEmpty
    · have hnil : c.conds = [] := List.isEmpty_iff.1 hc
      have hargs : c.args = [] := by simp [UpdateCall.args, hnil, sortFields]
      rw [hargs]
      exact ⟨by simp [Update.addWhereCondition, hc], by simp [Update.addWhereCondition, hc],
        ⟨[], by simp [Update.addWhereCondition, hc], rfl⟩, by simp [Update.addWhereCondition, hc],
        by simp [Update.addWhereCondition, hc], by simp [Update.addWhereCondition, hc]⟩
    · obtain ⟨herr, hargs, hparams⟩ := conditionLoop_of_resolves u.query.columnHandler
        (if negate then "!=" else "=") u.placeholderOffset (sortFields c.conds) 0 h.sortFields
      have hlen : (conditionLoop u.query.columnHandler (if negate then "!=" else "=")
          u.placeholderOffset 0 (sortFields c.conds)).2.1.length = c.args.length := by
        rw [hargs]
        rfl
      refine ⟨by simp [Update.addWhereCondition, hc, herr],
        by simp [Update.addWhereCondition, hc, herr],
        ⟨[.text (if u.query.whereClause then " AND" else " WHERE")] ++
          (conditionLoop u.query.columnHandler (if negate then "!=" else "=") u.placeholderOffset 0
            (sortFields c.conds)).1, ?_, ?_⟩, ?_, ?_, ?_⟩
      · simp [Update.addWhereCondition, hc, herr, QueryBuffer.buffer_addWhere]
      · rw [params_append, hparams]
        simp [UpdateCall.args, Nat.add_comm]
      · simp [Update.addWhereCondition, hc, herr, hargs, UpdateCall.args]
      · simp [Update.addWhereCondition, hc, herr, hlen]
      · simp [Update.addWhereCondition, hc, herr]
  cases c with
  | where_ args => exact key false
  | whereNot args => exact key true

/-- The run lemma of an `Update`: from a statement without an error whose placeholders so far
are its values, calls that resolve write, call by call, text whose placeholders are bound to
the arguments of that call. -/
theorem Update.run_extends (calls : List (UpdateCall α)) (u : Update α) (hu : u.err = none)
    (hoff : u.placeholderOffset = u.colVals.length)
    (hres : ∀ c ∈ calls, Resolves u.query.columnHandler (c.conds.map Prod.fst)) :
    (Update.run u calls).err = none ∧
      (Update.run u calls).colVals = u.colVals ++ calls.flatMap UpdateCall.args ∧
      ∃ blocks : List (List SqlPiece),
        (Update.run u calls).query.buffer = u.query.buffer ++ blocks.flatten ∧
        params blocks.flatten =
          List.range' (u.placeholderOffset + 1) (calls.flatMap UpdateCall.args).length ∧
        List.Forall₂ (fun b c => bindings (Update.run u calls).colVals b = c.args.map some)
          blocks calls := by
  induction calls generalizing u with
  | nil => exact ⟨hu, by simp [Update.run], [], by simp [Update.run], by simp, .nil⟩
  | cons c cs ih =>
    have hstep := c.extends_apply u (hres c List.mem_cons_self)
    obtain ⟨b, hb, hpb⟩ := hstep.buffer_eq
    have hvals : (c.apply u).colVals = u.colVals ++ c.args := by
      simp [Update.colVals, hstep.columns_eq, hstep.args_eq]
    have hoff' : (c.apply u).placeholderOffset = (c.apply u).colVals.length := by
      rw [hstep.offset_eq, hoff, hvals, List.length_append]
    have hres' : ∀ c' ∈ cs, Resolves (c.apply u).query.columnHandler (c'.conds.map Prod.fst) :=
      fun c' hc' => by
        rw [hstep.columnHandler_eq]
        exact hres c' (List.mem_cons_of_mem c hc')
    obtain ⟨herr, hcol, blocks, hbuf, hparams, hbind⟩ := ih (c.apply u) hstep.err_eq hoff' hres'
    have hrun : Update.run u (c :: cs) = Update.run (c.apply u) cs := rfl
    rw [hrun]
    refine ⟨herr, by rw [hcol, hvals]; simp, b :: blocks, by rw [hbuf, hb]; simp, ?_, ?_⟩
    · rw [List.flatten_cons, params_append, hpb, hparams, hstep.offset_eq, Nat.add_right_comm,
        List.range'_append_1]
      simp
    · refine .cons ?_ hbind
      rw [hcol, hvals]
      exact bindings_of_params (hoff ▸ hpb)

theorem params_columnEntries (names : List String) (placeholderIdx : Nat) :
    params (columnEntries placeholderIdx names) = List.range' (placeholderIdx + 1) names.length := by
  induction names generalizing placeholderIdx with
  | nil => rfl
  | cons name names ih =>
    simp only [columnEntries, params_append, ih, List.length_cons, List.range'_succ]
    split_ifs <;> simp

/-- The `SET` entries of a new `Update` are numbered from 1, one for each writeable column. -/
theorem params_update (q : Query) (cols : List (Column α)) :
    params (update q cols : Update α).query.buffer = List.range' 1 (columnValues cols).length := by
  simp [update, params_columnEntries, columnValues]

/-- Calls on a new `Update` that all resolve: `ExecCount` executes the statement with the
values of the `SET` columns, then the arguments of the conditions; its placeholders are
`$1 … $n`, each once and in increasing order, for the `n` values; the `SET` entries are bound to
the column values, and the placeholders each call wrote to the arguments that call supplied. -/
theorem Update.run_bound (q : Query) (cols : List (Column α)) (calls : List (UpdateCall α))
    (hres : ∀ c ∈ calls, Resolves q.columnHandler (c.conds.map Prod.fst)) :
    (Update.run (update q cols) calls).execCount =
        (render (Update.run (update q cols) calls).query.buffer,
          columnValues cols ++ calls.flatMap UpdateCall.args) ∧
      params (Update.run (update q cols) calls).query.buffer =
        List.range' 1 (columnValues cols ++ calls.flatMap UpdateCall.args).length ∧
      bindings (columnValues cols ++ calls.flatMap UpdateCall.args)
          (update q cols : Update α).query.buffer = (columnValues cols).map some ∧
      ∃ blocks : List (List SqlPiece),
        (Update.run (update q cols) calls).query.buffer =
          (update q cols : Update α).query.buffer ++ blocks.flatten ∧
        List.Forall₂
          (fun b c => bindings (columnValues cols ++ calls.flatMap UpdateCall.args) b =
            c.args.map some) blocks calls := by
  have hvals : (update q cols : Update α).colVals = columnValues cols := by
    simp [update, Update.colVals]
  have hoff : (update q cols : Update α).placeholderOffset =
      (update q cols : Update α).colVals.length := by
    rw [hvals]
    simp [update, columnValues]
  obtain ⟨-, hcol, blocks, hbuf, hparams, hbind⟩ :=
    Update.run_extends calls (update q cols) rfl hoff hres
  rw [hvals] at hcol
  have hset := params_update q cols
  refine ⟨by rw [Update.execCount, hcol], ?_, ?_, blocks, hbuf, by rwa [hcol] at hbind⟩
  · rw [hbuf, params_append, hparams, hset, hoff, hvals, List.length_append,
      Nat.add_comm (columnValues cols).length 1, List.range'_append_1]
  · have := bindings_of_params (l := []) (m := columnValues cols)
      (r := calls.flatMap UpdateCall.args) (by simpa using hset)
    simpa using this

/-- An `Update` whose `Where` fails at a field after one that has a column: the condition of
the first field is written with its placeholder, but its argument is not kept, and `ExecCount`
executes the statement anyway, with one argument too few. -/
theorem Update.execCount_after_failed_where (q : Query) (cols : List (Column α))
    {a b col e : String} (hab : a ≤ b) (ha : q.columnHandler.columnName a = .ok col)
    (hb : q.columnHandler.columnName b = .error e) (x y : α) :
    ((update q cols).where_ [(a, x), (b, y)]).err = some e ∧
      ((update q cols).where_ [(a, x), (b, y)]).execCount.2 = columnValues cols ∧
      params ((update q cols).where_ [(a, x), (b, y)]).query.buffer =
        List.range' 1 ((columnValues cols).length + 1) := by
  have hsort : sortFields [(a, x), (b, y)] = [(a, x), (b, y)] :=
    List.mergeSort_of_pairwise (by simp [hab])
  have hloop : conditionLoop q.columnHandler "=" (writeable cols).length 0 [(a, x), (b, y)] =
      ([.text (" " ++ col ++ "="), .param (1 + (writeable cols).length)], [x], some e) := by
    simp [conditionLoop, ha, hb]
  refine ⟨?_, ?_, ?_⟩
  · simp [Update.where_, Update.addWhereCondition, hsort, update, hloop]
  · simp [Update.where_, Update.addWhereCondition, hsort, update, hloop, Update.execCount,
      Update.colVals]
  · have hbuf : ((update q cols).where_ [(a, x), (b, y)]).query.buffer =
        (update q cols : Update α).query.buffer ++
          [.text " WHERE", .text (" " ++ col ++ "="), .param (1 + (writeable cols).length)] := by
      simp [Update.where_, Update.addWhereCondition, hsort, update, hloop,
        QueryBuffer.buffer_addWhere]
    rw [hbuf, params_append, params_update]
    simp only [columnValues, List.length_map, params_cons_text, params_cons_param, params_nil]
    rw [List.range'_concat]
    simp

/-- The query of the reconciliations, with two of their columns. -/
def reconciliationsQuery : Query :=
  ⟨⟨"Reconciliation", [("RuntimeID", "runtime_id"), ("SchedulingID", "scheduling_id")]⟩,
    "scheduler_reconciliations"⟩

/-- The scheduling IDs of the operations in a state, rendered from placeholder `k`. -/
def operationsInState (k : Nat) : List SqlPiece :=
  [.text "SELECT scheduling_id FROM scheduler_operations WHERE state=", .param k]

/-- **The builders bind every placeholder to its call's argument**, on a query whose calls all
name fields with a column and number their raw fragments from `NextPlaceholderCount()`: a
`Select`, an `Update` (its `SET` values first) and a `Delete` in which no `WhereIn` follows a
call that supplied arguments execute `$1 … $n`, each once and in textual order, with exactly `n`
arguments, and the placeholders of each call are bound to that call's arguments. -/
theorem builders_bind_placeholders (q : Query) :
    (∀ calls : List (SelectCall α), (∀ c ∈ calls, c.Resolves q.columnHandler) →
      (∀ c ∈ calls, c.Numbered) →
      Select.getMany (Select.run (select q) calls) =
          .ok (render (Select.run (select q) calls).query.buffer, calls.flatMap SelectCall.args) ∧
        params (Select.run (select q) calls).query.buffer =
          List.range' 1 (calls.flatMap SelectCall.args).length ∧
        ∃ blocks : List (List SqlPiece),
          (Select.run (select q) calls).query.buffer =
            (select q : Stmt α).query.buffer ++ blocks.flatten ∧
          List.Forall₂ (fun b c => bindings (calls.flatMap SelectCall.args) b = c.args.map some)
            blocks calls) ∧
    (∀ calls : List (DeleteCall α), WhereInFirst calls →
      (∀ c ∈ calls, c.toSelectCall.Resolves q.columnHandler) →
      (∀ c ∈ calls, c.toSelectCall.Numbered) →
      Delete.exec (Delete.run (delete q) calls) =
          .ok (render (Delete.run (delete q) calls).query.buffer, calls.flatMap DeleteCall.args) ∧
        params (Delete.run (delete q) calls).query.buffer =
          List.range' 1 (calls.flatMap DeleteCall.args).length ∧
        ∃ blocks : List (List SqlPiece),
          (Delete.run (delete q) calls).query.buffer =
            (delete q : Stmt α).query.buffer ++ blocks.flatten ∧
          List.Forall₂ (fun b c => bindings (calls.flatMap DeleteCall.args) b = c.args.map some)
            blocks calls) ∧
    (∀ (cols : List (Column α)) (calls : List (UpdateCall α)),
      (∀ c ∈ calls, Resolves q.columnHandler (c.conds.map Prod.fst)) →
      (Update.run (update q cols) calls).execCount =
          (render (Update.run (update q cols) calls).query.buffer,
            columnValues cols ++ calls.flatMap UpdateCall.args) ∧
        params (Update.run (update q cols) calls).query.buffer =
          List.range' 1 (columnValues cols ++ calls.flatMap UpdateCall.args).length ∧
        bindings (columnValues cols ++ calls.flatMap UpdateCall.args)
            (update q cols : Update α).query.buffer = (columnValues cols).map some ∧
        ∃ blocks : List (List SqlPiece),
          (Update.run (update q cols) calls).query.buffer =
            (update q cols : Update α).query.buffer ++ blocks.flatten ∧
          List.Forall₂
            (fun b c => bindings (columnValues cols ++ calls.flatMap UpdateCall.args) b =
              c.args.map some) blocks calls) :=
  ⟨Select.run_bound q, fun _ hfirst => Delete.run_bound q hfirst, Update.run_bound q⟩

/-- **Two builders lose an error and execute anyway.**  A `Where` whose fields all have a
column drops the error of an earlier `GroupBy` on a field without one, and `GetMany` executes
the statement without the grouping; an `Update` whose `Where` fails at a field after one with a
column keeps the failed condition's placeholder but not its argument, and `ExecCount` executes
it with one argument too few. -/
theorem builders_drop_errors (q : Query) :
    (∀ (fields : List String) (f e : String) (conds : List (String × α)), f ∈ fields →
      q.columnHandler.columnName f = .error e → Resolves q.columnHandler (conds.map Prod.fst) →
      (Select.groupBy (select q : Stmt α) fields).err.isSome ∧
        Select.getMany (Select.where_ (Select.groupBy (select q) fields) conds) =
          .ok (render (Select.where_ (Select.groupBy (select q) fields) conds).query.buffer,
            (sortFields conds).map Prod.snd)) ∧
    (∀ (cols : List (Column α)) (a b col e : String) (x y : α), a ≤ b →
      q.columnHandler.columnName a = .ok col → q.columnHandler.columnName b = .error e →
      ((update q cols).where_ [(a, x), (b, y)]).err = some e ∧
        ((update q cols).where_ [(a, x), (b, y)]).execCount.2 = columnValues cols ∧
        params ((update q cols).where_ [(a, x), (b, y)]).query.buffer =
          List.range' 1 ((columnValues cols).length + 1)) :=
  ⟨fun _ _ _ _ hf hbad hres => Select.getMany_after_failed_groupBy q hf hbad hres,
    fun cols _ _ _ _ x y hab ha hb => Update.execCount_after_failed_where q cols hab ha hb x y⟩

/-- A `GroupBy` on a field the reconciliations have no column for, then a `Where` on the
runtime ID: `GetMany` runs without the grouping. -/
theorem builders_drop_errors_reconciliations :
    (Select.groupBy (select reconciliationsQuery : Stmt String) ["Created"]).err.isSome ∧
      Select.getMany (Select.where_ (Select.groupBy (select reconciliationsQuery) ["Created"])
          [("RuntimeID", "runtime")]) =
        .ok (render (Select.where_ (Select.groupBy (select reconciliationsQuery) ["Created"])
          [("RuntimeID", "runtime")]).query.buffer,
          (sortFields [("RuntimeID", "runtime")]).map Prod.snd) := by
  have hres : Resolves reconciliationsQuery.columnHandler
      (([("RuntimeID", "runtime")] : List (String × String)).map Prod.fst) := by
    intro f hf
    simp only [List.map_cons, List.map_nil, List.mem_singleton] at hf
    subst hf
    exact ⟨"runtime_id", rfl⟩
  exact (builders_drop_errors reconciliationsQuery).1 ["Created"] "Created" _ _
    List.mem_cons_self rfl hres

end Builder

end Reconciler
