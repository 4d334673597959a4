import Reconciler.Db.Validator
import Reconciler.Lib.Sql.Eval

/-!
# Statements of the database layer

`pkg/db/query.go` writes the text of a statement into a buffer clause by clause, with the
column names the `ColumnHandler` derives from the fields of an entity; the first error of a
clause is kept and returned by `GetMany` instead of running the statement.  `GetMany` hands the
text to the connection, whose `Query` validates it first (`pkg/db/postgres.go`) and then sends
it to the server.  The server is the SQL fragment of `Lib.Sql`: the text is lexed, parsed and
evaluated over the tables of a catalog.

Only the select builder is modelled, with the clauses the inventory uses: `WhereIn` and
`OrderBy`.  The placeholder arguments of a select are left out, since these clauses take none.
-/

namespace Reconciler

/-- `db.ColumnHandler`: the column of each field of an entity, in the field order, and the
text of the entity for messages. -/
structure ColumnHandler where
  entity : String
  /-- pairs of a field name and its column name -/
  columns : List (String × String)
  deriving DecidableEq, Repr

namespace ColumnHandler

/-- `ColumnHandler.ColumnName`. -/
def columnName (ch : ColumnHandler) (field : String) : Except String String :=
  match ch.columns.lookup field with
  | some colName => .ok colName
  | none => .error ("entity '" ++ ch.entity ++ "' has no field '" ++ field ++
      "': cannot resolve column name")

/-- `ColumnHandler.ColumnNamesCsv(false)`: every column, in the field order. -/
def columnNamesCsv (ch : ColumnHandler) : String :=
  ", ".intercalate (ch.columns.map Prod.snd)

end ColumnHandler

/-- `db.Query` of an entity: its column handler and its table. -/
structure Query where
  columnHandler : ColumnHandler
  table : String
  deriving DecidableEq, Repr

/-- `db.Select`: the statement written so far, whether it has a where clause, and the error
of the last clause that failed. -/
structure Select where
  columnHandler : ColumnHandler
  buffer : String
  whereClause : Bool
  err : Option String
  deriving DecidableEq, Repr

/-- `Query.Select`: every column of the entity. -/
def Query.select (q : Query) : Select :=
  { columnHandler := q.columnHandler,
    buffer := "SELECT " ++ q.columnHandler.columnNamesCsv ++ " FROM " ++ q.table,
    whereClause := false, err := none }

namespace Select

/-- `Query.addWhere`: the first condition opens the where clause, the next ones are joined
by `AND`. -/
def addWhere (s : Select) : Select :=
  if s.whereClause then { s with buffer := s.buffer ++ " AND" }
  else { s with buffer := s.buffer ++ " WHERE", whereClause := true }

/-- `Query.addWhereInCondition`: the sub-query is written as it is given. -/
def addWhereInCondition (s : Select) (field subQuery : String) : Except String Select := do
  let colName ← s.columnHandler.columnName field
  let s := s.addWhere
  .ok { s with buffer := s.buffer ++ " " ++ colName ++ " IN (" ++ subQuery ++ ")" }

/-- `Select.WhereIn`: its error replaces the error of the clauses before. -/
def whereIn (s : Select) (field subQuery : String) : Select :=
  match s.addWhereInCondition field subQuery with
  | .ok s' => { s' with err := none }
  | .error e => { s with err := some e }

/-- `Select.OrderBy`: the fields sorted by name, each with its direction; a field without a
column leaves the statement as it is, with the error. -/
def orderBy (s : Select) (args : List (String × String)) : Select :=
  if args.isEmpty then s
  else
    let fields := (args.map Prod.fst).mergeSort (fun a b => decide (a ≤ b))
    let ordering := fields.mapM fun field => do
      let col ← s.columnHandler.columnName field
      .ok (" " ++ col ++ " " ++ (args.lookup field).getD "")
    match ordering with
    | .error e => { s with err := some e }
    | .ok ordering => { s with buffer := s.buffer ++ " ORDER BY" ++ ", ".intercalate ordering }

end Select

/-! ## What the builders write -/

@[simp] theorem select_err (q : Query) : q.select.err = none := rfl

@[simp] theorem select_whereClause (q : Query) : q.select.whereClause = false := rfl

@[simp] theorem select_buffer (q : Query) :
    q.select.buffer = "SELECT " ++ q.columnHandler.columnNamesCsv ++ " FROM " ++ q.table := rfl

@[simp] theorem select_columnHandler (q : Query) : q.select.columnHandler = q.columnHandler :=
  rfl

namespace Select

/-- The condition of a field with a column is written after `WHERE` or `AND`, and the error
before it is dropped. -/
theorem whereIn_of_columnName {s : Select} {field col : String}
    (h : s.columnHandler.columnName field = .ok col) (subQuery : String) :
    s.whereIn field subQuery =
      { s with
        buffer := s.buffer ++ (if s.whereClause then " AND" else " WHERE") ++ " " ++ col ++
          " IN (" ++ subQuery ++ ")",
        whereClause := true, err := none } := by
  cases hw : s.whereClause <;> simp [whereIn, addWhereInCondition, addWhere, h, hw, bind, Except.bind]

/-- Sorting by one field with a column writes its column and direction. -/
theorem orderBy_single {s : Select} {field col : String}
    (h : s.columnHandler.columnName field = .ok col) (direction : String) :
    s.orderBy [(field, direction)] =
      { s with buffer := s.buffer ++ " ORDER BY" ++ (" " ++ col ++ " " ++ direction) } := by
  simp [orderBy, h, bind, Except.bind, pure, Except.pure]

end Select

/-- A connection to the server: the validator of `postgresConnection` and the tables, over
rows of type `ρ`. -/
structure PostgresConnection (ρ : Type) where
  validator : Validator
  catalog : Sql.Catalog ρ

/-- `postgresConnection.Query`: the validator, then the server. -/
def PostgresConnection.query {ρ : Type} (c : PostgresConnection ρ) (query : String) :
    Except String (List ρ) := do
  c.validator.validate query
  let tokens ← Sql.lex query
  let stmt ← Sql.parseStatement tokens
  Sql.evalSelect c.catalog stmt

/-- `Select.GetMany`: the error of a clause, or the rows of the statement, each unmarshalled
into an entity.  The statement selects every column of the entity, so the entity read back
is the row. -/
def Select.getMany {ρ : Type} (s : Select) (conn : PostgresConnection ρ) :
    Except String (List ρ) :=
  match s.err with
  | some e => .error e
  | none => conn.query s.buffer

end Reconciler
