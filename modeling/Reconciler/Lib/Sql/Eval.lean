import Mathlib.Data.List.Sort
import Reconciler.Lib.Sql.Parser

/-!
# Evaluation of the SQL fragment

The values are integers (with timestamps and intervals as seconds), strings and booleans.
A `Catalog` gives the rows of each table, the columns of each table and the value of a column
in a row, together with the time of the statement; rows are of any type.  A condition is
evaluated on one row; a select keeps the rows of its table where its condition holds, and
sorts them, stably, by its keys.  A select returns the rows themselves: what a select of all
the columns of a table reads back.

Interval constants are read in the one form `'<integer> SECOND'`.
-/

namespace Sql

/-- A value. -/
inductive Value
  | int (n : Int)
  | str (s : String)
  | bool (b : Bool)
  deriving DecidableEq, Repr

/-- The tables of a database, over rows of type `ρ`. -/
structure Catalog (ρ : Type) where
  /-- the rows of a table -/
  rows : String → Option (List ρ)
  /-- the columns of a table -/
  columns : String → Option (List String)
  /-- the value of a column in a row -/
  column : ρ → String → Option Value
  /-- `NOW()`, the time of the statement -/
  now : Int

/-- The seconds of an interval constant `'<digits> SECOND'`, with an optional minus sign. -/
def parseSeconds (cs : List Char) : Option Nat :=
  let digits := cs.takeWhile Char.isDigit
  if digits ≠ [] ∧ cs.dropWhile Char.isDigit = " SECOND".toList then
    some (Nat.ofDigitChars 10 digits 0)
  else none

/-- The value of an interval constant. -/
def parseInterval (text : String) : Option Int :=
  match text.toList with
  | '-' :: cs => (parseSeconds cs).map fun n => -(n : Int)
  | cs => (parseSeconds cs).map fun n => (n : Int)

/-- The order of two values of one type. -/
def compareValues : Value → Value → Option Ordering
  | .int x, .int y => some (compareOfLessAndEq x y)
  | .str x, .str y => some (compareOfLessAndEq x y)
  | .bool x, .bool y => some (compareOfLessAndEq x y)
  | _, _ => none

/-- The binary operators on values; comparison is between values of one type. -/
def applyBinOp : BinOp → Value → Value → Except String Value
  | .add, .int x, .int y => .ok (.int (x + y))
  | .sub, .int x, .int y => .ok (.int (x - y))
  | .and, .bool x, .bool y => .ok (.bool (x && y))
  | .or, .bool x, .bool y => .ok (.bool (x || y))
  | op, x, y =>
    match compareValues x y, op with
    | some _, .eq => .ok (.bool (decide (x = y)))
    | some _, .ne => .ok (.bool (decide (x ≠ y)))
    | some o, .lt => .ok (.bool (o == .lt))
    | some o, .le => .ok (.bool (o != .gt))
    | some o, .gt => .ok (.bool (o == .gt))
    | some o, .ge => .ok (.bool (o != .lt))
    | _, _ => .error "operator does not exist"

/-- A condition's value as a truth value. -/
def asBool : Value → Except String Bool
  | .bool b => .ok b
  | _ => .error "argument of WHERE must be type boolean"

variable {ρ : Type} (db : Catalog ρ)

/-- The rows of a table. -/
def tableRows (table : String) : Except String (List ρ) :=
  match db.rows table with
  | some rows => .ok rows
  | none => .error ("relation \"" ++ table ++ "\" does not exist")

/-- The value of a column in a row. -/
def columnValue (row : ρ) (c : String) : Except String Value :=
  match db.column row c with
  | some v => .ok v
  | none => .error ("column \"" ++ c ++ "\" does not exist")

/-- The value of an expression in a row. -/
def evalExpr (row : ρ) : Expr → Except String Value
  | .column c => columnValue db row c
  | .number n => .ok (.int n)
  | .str s => .ok (.str s)
  | .bool b => .ok (.bool b)
  | .now => .ok (.int db.now)
  | .interval text =>
    match parseInterval text with
    | some n => .ok (.int n)
    | none => .error ("invalid input syntax for type interval: \"" ++ text ++ "\"")
  | .binary op a b => do
    let x ← evalExpr row a
    let y ← evalExpr row b
    applyBinOp op x y
  | .not a => do
    let x ← evalExpr row a
    match x with
    | .bool b => .ok (.bool !b)
    | _ => .error "argument of NOT must be type boolean"
  | .inSelect a c table cond => do
    let x ← evalExpr row a
    let rows ← tableRows db table
    let kept ← rows.filterM fun r => do asBool (← evalExpr r cond)
    let values ← kept.mapM fun r => columnValue db r c
    .ok (.bool (values.contains x))

/-- Whether `a` comes before `b` or ties with it under the sort keys. -/
def keysLe : List (String × Bool) → ρ → ρ → Bool
  | [], _, _ => true
  | (c, desc) :: keys, a, b =>
    match db.column a c, db.column b c with
    | some x, some y =>
      match (if desc then compareValues y x else compareValues x y) with
      | some .lt => true
      | some .gt => false
      | _ => keysLe keys a b
    | _, _ => keysLe keys a b

/-- The rows of a select. -/
def evalSelect (q : Select) : Except String (List ρ) := do
  let rows ← tableRows db q.table
  let names ← match db.columns q.table with
    | some names => .ok names
    | none => .error ("relation \"" ++ q.table ++ "\" does not exist")
  match q.columns.find? (· ∉ names) with
  | some c => .error ("column \"" ++ c ++ "\" does not exist")
  | none =>
    let kept ← rows.filterM fun r => do asBool (← evalExpr db r q.cond)
    .ok (kept.mergeSort (keysLe db q.orderBy))

/-! ## What evaluation computes -/

section Interval

theorem parseSeconds_toDigits (n : Nat) :
    parseSeconds (Nat.toDigits 10 n ++ " SECOND".toList) = some n := by
  have hdigits : ∀ c ∈ Nat.toDigits 10 n, c.isDigit = true :=
    fun c hc => Nat.isDigit_of_mem_toDigits (by decide) (by decide) hc
  simp [parseSeconds, List.takeWhile_append_of_pos hdigits, List.dropWhile_append_of_pos hdigits,
    Nat.toDigits_ne_nil]

/-- **An interval constant of digits behind an optional minus sign reads back its seconds.** -/
theorem parseInterval_signed (neg : Bool) (n : Nat) :
    parseInterval (String.ofList ((if neg then ['-'] else []) ++ Nat.toDigits 10 n) ++ " SECOND") =
      some (if neg then -(n : Int) else n) := by
  have hs := parseSeconds_toDigits n
  cases neg with
  | true =>
    simp at hs
    simp [parseInterval, hs]
  | false =>
    -- the digits start with a digit, which is no minus sign
    obtain ⟨c, cs, h⟩ := List.exists_cons_of_ne_nil (Nat.toDigits_ne_nil (n := n) (b := 10))
    have hc : c ≠ '-' := by
      have hdigit : c.isDigit = true :=
        Nat.isDigit_of_mem_toDigits (by decide) (by decide) (h ▸ List.mem_cons_self)
      rintro rfl
      simp at hdigit
    rw [h] at hs
    simp only [List.cons_append] at hs
    simp at hs
    simp [parseInterval, h, hc, hs]

end Interval

@[simp] theorem applyBinOp_eq_str (x y : String) :
    applyBinOp .eq (.str x) (.str y) = .ok (.bool (decide (x = y))) := by
  simp [applyBinOp, compareValues]

@[simp] theorem compareValues_int (x y : Int) : compareValues (.int x) (.int y) = some (compare x y) :=
  rfl

@[simp] theorem applyBinOp_ge_int (x y : Int) :
    applyBinOp .ge (.int x) (.int y) = .ok (.bool (decide (y ≤ x))) := by
  simp only [applyBinOp, compareValues_int]
  cases hc : compare x y with
  | lt => simpa [compare_lt_iff_lt] using hc
  | eq | gt =>
    have hle : y ≤ x := le_of_not_gt (by simp [← compare_lt_iff_lt, hc])
    change Except.ok (Value.bool true) = _
    simp [hle]

@[simp] theorem applyBinOp_sub_int (x y : Int) : applyBinOp .sub (.int x) (.int y) = .ok (.int (x - y)) :=
  rfl

@[simp] theorem applyBinOp_and (x y : Bool) : applyBinOp .and (.bool x) (.bool y) = .ok (.bool (x && y)) :=
  rfl

@[simp] theorem applyBinOp_or (x y : Bool) : applyBinOp .or (.bool x) (.bool y) = .ok (.bool (x || y)) :=
  rfl

section Lists

variable {α β ε : Type}

@[simp] theorem ok_bind (a : α) (f : α → Except ε β) : (Except.ok a >>= f) = f a := rfl

theorem filterAuxM_ok {f : α → Except ε Bool} {p : α → Bool} (l acc : List α)
    (h : ∀ a ∈ l, f a = .ok (p a)) : l.filterAuxM f acc = .ok ((l.filter p).reverse ++ acc) := by
  induction l generalizing acc with
  | nil => rfl
  | cons a l ih =>
    have hrest := ih (cond (p a) (a :: acc) acc) fun b hb => h b (List.mem_cons_of_mem a hb)
    simp only [List.filterAuxM, h a List.mem_cons_self, bind, Except.bind, hrest]
    cases hp : p a <;> simp [hp]

/-- A filter whose predicate never fails keeps what the predicate's values keep. -/
theorem filterM_ok {f : α → Except ε Bool} {p : α → Bool} {l : List α}
    (h : ∀ a ∈ l, f a = .ok (p a)) : l.filterM f = .ok (l.filter p) := by
  simp [List.filterM, filterAuxM_ok l [] h, bind, Except.bind, pure, Except.pure]

/-- A map whose function never fails is the map of the function's values. -/
theorem mapM_ok {f : α → Except ε β} {g : α → β} {l : List α} (h : ∀ a ∈ l, f a = .ok (g a)) :
    l.mapM f = .ok (l.map g) := by
  induction l with
  | nil => rfl
  | cons a l ih =>
    simp [h a List.mem_cons_self, ih fun b hb => h b (List.mem_cons_of_mem a hb), bind,
      Except.bind, pure, Except.pure]

/-- A map whose function succeeds on every element succeeds, each value related to its
element. -/
theorem mapM_ok_forall₂ {f : α → Except ε β} {R : α → β → Prop} {l : List α}
    (h : ∀ a ∈ l, ∃ b, f a = .ok b ∧ R a b) : ∃ bs, l.mapM f = .ok bs ∧ List.Forall₂ R l bs := by
  induction l with
  | nil => exact ⟨[], rfl, .nil⟩
  | cons a l ih =>
    obtain ⟨b, hb, hab⟩ := h a List.mem_cons_self
    obtain ⟨bs, hbs, hl⟩ := ih fun a' ha' => h a' (List.mem_cons_of_mem a ha')
    refine ⟨b :: bs, ?_, .cons hab hl⟩
    simp [hb, hbs, bind, Except.bind, pure, Except.pure]

theorem exists_of_forall₂_of_mem_right {R : α → β → Prop} {l : List α} {bs : List β}
    (h : List.Forall₂ R l bs) {b : β} (hb : b ∈ bs) : ∃ a ∈ l, R a b := by
  induction h with
  | nil => cases hb
  | cons hab _ ih =>
    rcases List.mem_cons.1 hb with rfl | hb
    · exact ⟨_, List.mem_cons_self, hab⟩
    · obtain ⟨a, ha, hR⟩ := ih hb
      exact ⟨a, List.mem_cons_of_mem _ ha, hR⟩

theorem exists_of_forall₂_of_mem_left {R : α → β → Prop} {l : List α} {bs : List β}
    (h : List.Forall₂ R l bs) {a : α} (ha : a ∈ l) : ∃ b ∈ bs, R a b := by
  induction h with
  | nil => cases ha
  | cons hab _ ih =>
    rcases List.mem_cons.1 ha with rfl | ha
    · exact ⟨_, List.mem_cons_self, hab⟩
    · obtain ⟨b, hb, hR⟩ := ih ha
      exact ⟨b, List.mem_cons_of_mem _ hb, hR⟩

/-- Related lists whose related elements agree on two views have the same view. -/
theorem map_eq_of_forall₂ {γ : Type} {R : α → β → Prop} {l : List α} {bs : List β} {f : α → γ}
    {g : β → γ} (h : List.Forall₂ R l bs) (hfg : ∀ a b, R a b → g b = f a) :
    bs.map g = l.map f := by
  induction h with
  | nil => rfl
  | cons hab _ ih => rw [List.map_cons, List.map_cons, hfg _ _ hab, ih]

end Lists

variable {db}

theorem tableRows_of_rows {table : String} {rows : List ρ} (h : db.rows table = some rows) :
    tableRows db table = .ok rows := by
  simp [tableRows, h]

theorem columnValue_of_column {row : ρ} {c : String} {v : Value} (h : db.column row c = some v) :
    columnValue db row c = .ok v := by
  simp [columnValue, h]

/-- A condition that is a truth value on every row keeps the rows where it is true. -/
theorem filterM_where {rows : List ρ} {cond : Expr} {p : ρ → Bool}
    (h : ∀ r ∈ rows, evalExpr db r cond = .ok (.bool (p r))) :
    rows.filterM (fun r => do asBool (← evalExpr db r cond)) = .ok (rows.filter p) :=
  filterM_ok fun r hr => by simp [h r hr, asBool, bind, Except.bind]

/-- `a IN (SELECT c FROM table WHERE cond)` is whether the value of `a` is the value of `c`
in a row of the table where the condition holds. -/
theorem evalExpr_inSelect {row : ρ} {a : Expr} {x : Value} {c table : String} {cond : Expr}
    {rows : List ρ} {p : ρ → Bool} {g : ρ → Value} (ha : evalExpr db row a = .ok x)
    (htable : db.rows table = some rows)
    (hcond : ∀ r ∈ rows, evalExpr db r cond = .ok (.bool (p r)))
    (hcolumn : ∀ r ∈ rows, db.column r c = some (g r)) :
    evalExpr db row (.inSelect a c table cond) =
      .ok (.bool (((rows.filter p).map g).contains x)) := by
  have hvalues : (rows.filter p).mapM (fun r => columnValue db r c) = .ok ((rows.filter p).map g) :=
    mapM_ok fun r hr => columnValue_of_column (hcolumn r (List.mem_of_mem_filter hr))
  simp only [evalExpr, ha, tableRows_of_rows htable, filterM_where hcond, hvalues, ok_bind]

/-- A select whose table and columns exist and whose condition is a truth value on every row
returns the rows where it holds, sorted by its keys. -/
theorem evalSelect_ok {q : Select} {rows : List ρ} {names : List String} {p : ρ → Bool}
    (hrows : db.rows q.table = some rows) (hnames : db.columns q.table = some names)
    (hcolumns : ∀ c ∈ q.columns, c ∈ names)
    (hcond : ∀ r ∈ rows, evalExpr db r q.cond = .ok (.bool (p r))) :
    evalSelect db q = .ok ((rows.filter p).mergeSort (keysLe db q.orderBy)) := by
  have hfind : q.columns.find? (· ∉ names) = none :=
    List.find?_eq_none.2 fun c hc => by simpa using hcolumns c hc
  simp only [evalSelect, tableRows_of_rows hrows, hnames, hfind, filterM_where hcond, ok_bind]

end Sql
