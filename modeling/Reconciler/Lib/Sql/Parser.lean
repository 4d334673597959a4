import Reconciler.Lib.Sql.Lexer

/-!
# Syntax and parser of a fragment of SQL

Select statements of one table, with a where condition and sort keys.  A condition is built
from columns, constants, `NOW()`, interval constants, comparison, addition and subtraction,
`NOT`, `AND`, `OR`, and `IN` with a select of one column.  The parser is a recursive descent
with PostgreSQL's precedences, from the loosest: `OR`, `AND`, `NOT`, comparison, `IN`, `+` and
`-`.  Every function takes a depth bound, as the server has a stack depth limit; it only
bounds the nesting of a statement, since each call goes one level down.
-/

namespace Sql

/-- The binary operators. -/
inductive BinOp
  | eq | ne | lt | le | gt | ge
  | add | sub
  | and | or
  deriving DecidableEq, Repr

/-- A condition or a value. -/
inductive Expr
  | column (name : String)
  | number (n : Nat)
  | str (s : String)
  | bool (b : Bool)
  /-- `NOW()` -/
  | now
  /-- `INTERVAL 'text'` -/
  | interval (text : String)
  | binary (op : BinOp) (a b : Expr)
  | not (a : Expr)
  /-- `a IN (SELECT column FROM table WHERE cond)` -/
  | inSelect (a : Expr) (column table : String) (cond : Expr)
  deriving DecidableEq, Repr

/-- A select statement; a missing where condition is `TRUE`. -/
structure Select where
  columns : List String
  table : String
  cond : Expr
  /-- the sort keys, each with whether it sorts descending -/
  orderBy : List (String × Bool)
  deriving DecidableEq, Repr

/-- How a token is shown in an error. -/
def Token.text : Token → String
  | .word w => w
  | .number n => toString n
  | .str s => "'" ++ s ++ "'"
  | .symbol s => s

/-- The error at the tokens the parser could not go on with. -/
def syntaxError : List Token → String
  | [] => "syntax error at end of input"
  | t :: _ => "syntax error at or near \"" ++ t.text ++ "\""

/-- The error when the depth bound is used up. -/
def stackDepthError : String := "stack depth limit exceeded"

/-- The keywords that cannot name a column or a table. -/
def reservedWords : List String :=
  ["select", "from", "where", "and", "or", "not", "in", "order", "asc", "desc", "true",
    "false", "null"]

/-- The keyword `w`. -/
def expectWord (w : String) : List Token → Except String (List Token)
  | .word v :: ts => if v = w then .ok ts else .error (syntaxError (.word v :: ts))
  | ts => .error (syntaxError ts)

/-- The symbol `s`. -/
def expectSymbol (s : String) : List Token → Except String (List Token)
  | .symbol v :: ts => if v = s then .ok ts else .error (syntaxError (.symbol v :: ts))
  | ts => .error (syntaxError ts)

/-- A column or table name. -/
def parseName : List Token → Except String (String × List Token)
  | .word w :: ts => if w ∈ reservedWords then .error (syntaxError (.word w :: ts)) else .ok (w, ts)
  | ts => .error (syntaxError ts)

/-- The comparison operators. -/
def comparisonOp : String → Option BinOp
  | "=" => some .eq
  | "<>" => some .ne
  | "!=" => some .ne
  | "<" => some .lt
  | "<=" => some .le
  | ">" => some .gt
  | ">=" => some .ge
  | _ => none

/-- `name {, name}` -/
def parseNames : Nat → List Token → Except String (List String × List Token)
  | 0, _ => .error stackDepthError
  | depth + 1, ts => do
    let (n, ts) ← parseName ts
    match ts with
    | .symbol "," :: ts => do
      let (ns, ts) ← parseNames depth ts
      .ok (n :: ns, ts)
    | ts => .ok ([n], ts)

/-- `ASC` or `DESC` after a sort key; ascending when neither. -/
def parseDirection : List Token → Bool × List Token
  | .word "desc" :: ts => (true, ts)
  | .word "asc" :: ts => (false, ts)
  | ts => (false, ts)

/-- `name [ASC | DESC] {, name [ASC | DESC]}` -/
def parseOrderItems : Nat → List Token → Except String (List (String × Bool) × List Token)
  | 0, _ => .error stackDepthError
  | depth + 1, ts => do
    let (n, ts) ← parseName ts
    let (desc, ts) := parseDirection ts
    match ts with
    | .symbol "," :: ts => do
      let (items, ts) ← parseOrderItems depth ts
      .ok ((n, desc) :: items, ts)
    | ts => .ok ([(n, desc)], ts)

/-- `[ORDER BY items]` -/
def parseOrderBy (depth : Nat) : List Token → Except String (List (String × Bool) × List Token)
  | .word "order" :: .word "by" :: ts => parseOrderItems depth ts
  | ts => .ok ([], ts)

mutual

/-- `and {OR and}` -/
def parseOr : Nat → List Token → Except String (Expr × List Token)
  | 0, _ => .error stackDepthError
  | depth + 1, ts => do
    let (a, ts) ← parseAnd depth ts
    parseOrRest depth a ts

/-- The disjuncts after the first. -/
def parseOrRest : Nat → Expr → List Token → Except String (Expr × List Token)
  | 0, _, _ => .error stackDepthError
  | depth + 1, a, .word "or" :: ts => do
    let (b, ts) ← parseAnd depth ts
    parseOrRest depth (.binary .or a b) ts
  | _ + 1, a, ts => .ok (a, ts)

/-- `not {AND not}` -/
def parseAnd : Nat → List Token → Except String (Expr × List Token)
  | 0, _ => .error stackDepthError
  | depth + 1, ts => do
    let (a, ts) ← parseNot depth ts
    parseAndRest depth a ts

/-- The conjuncts after the first. -/
def parseAndRest : Nat → Expr → List Token → Except String (Expr × List Token)
  | 0, _, _ => .error stackDepthError
  | depth + 1, a, .word "and" :: ts => do
    let (b, ts) ← parseNot depth ts
    parseAndRest depth (.binary .and a b) ts
  | _ + 1, a, ts => .ok (a, ts)

/-- `NOT not | comparison` -/
def parseNot : Nat → List Token → Except String (Expr × List Token)
  | 0, _ => .error stackDepthError
  | depth + 1, .word "not" :: ts => do
    let (a, ts) ← parseNot depth ts
    .ok (.not a, ts)
  | depth + 1, ts => parseComparison depth ts

/-- `in [op in]`: comparisons do not chain. -/
def parseComparison : Nat → List Token → Except String (Expr × List Token)
  | 0, _ => .error stackDepthError
  | depth + 1, ts => do
    let (a, ts) ← parseIn depth ts
    match ts with
    | .symbol s :: rest =>
      match comparisonOp s with
      | some op => do
        let (b, ts) ← parseIn depth rest
        .ok (.binary op a b, ts)
      | none => .ok (a, .symbol s :: rest)
    | ts => .ok (a, ts)

/-- `additive [IN (select)]` -/
def parseIn : Nat → List Token → Except String (Expr × List Token)
  | 0, _ => .error stackDepthError
  | depth + 1, ts => do
    let (a, ts) ← parseAdditive depth ts
    match ts with
    | .word "in" :: .symbol "(" :: rest => do
      let (q, ts) ← parseSelect depth rest
      let ts ← expectSymbol ")" ts
      match q.columns with
      | [c] => .ok (.inSelect a c q.table q.cond, ts)
      | _ => .error "subquery has too many columns"
    | ts => .ok (a, ts)

/-- `primary {(+ | -) primary}` -/
def parseAdditive : Nat → List Token → Except String (Expr × List Token)
  | 0, _ => .error stackDepthError
  | depth + 1, ts => do
    let (a, ts) ← parsePrimary depth ts
    parseAdditiveRest depth a ts

/-- The terms after the first. -/
def parseAdditiveRest : Nat → Expr → List Token → Except String (Expr × List Token)
  | 0, _, _ => .error stackDepthError
  | depth + 1, a, .symbol "+" :: ts => do
    let (b, ts) ← parsePrimary depth ts
    parseAdditiveRest depth (.binary .add a b) ts
  | depth + 1, a, .symbol "-" :: ts => do
    let (b, ts) ← parsePrimary depth ts
    parseAdditiveRest depth (.binary .sub a b) ts
  | _ + 1, a, ts => .ok (a, ts)

/-- A constant, `NOW()`, a column, or a condition in parentheses. -/
def parsePrimary : Nat → List Token → Except String (Expr × List Token)
  | 0, _ => .error stackDepthError
  | _ + 1, .word "now" :: .symbol "(" :: .symbol ")" :: ts => .ok (.now, ts)
  | _ + 1, .word "interval" :: .str s :: ts => .ok (.interval s, ts)
  | _ + 1, .word "true" :: ts => .ok (.bool true, ts)
  | _ + 1, .word "false" :: ts => .ok (.bool false, ts)
  | _ + 1, .number n :: ts => .ok (.number n, ts)
  | _ + 1, .str s :: ts => .ok (.str s, ts)
  | depth + 1, .symbol "(" :: ts => do
    let (a, ts) ← parseOr depth ts
    let ts ← expectSymbol ")" ts
    .ok (a, ts)
  | _ + 1, ts => do
    let (c, ts) ← parseName ts
    .ok (.column c, ts)

/-- `[WHERE condition]` -/
def parseWhere : Nat → List Token → Except String (Expr × List Token)
  | 0, _ => .error stackDepthError
  | depth + 1, .word "where" :: ts => parseOr depth ts
  | _ + 1, ts => .ok (.bool true, ts)

/-- `SELECT names FROM name [WHERE condition] [ORDER BY items]` -/
def parseSelect : Nat → List Token → Except String (Select × List Token)
  | 0, _ => .error stackDepthError
  | depth + 1, ts => do
    let ts ← expectWord "select" ts
    let (columns, ts) ← parseNames depth ts
    let ts ← expectWord "from" ts
    let (table, ts) ← parseName ts
    let (cond, ts) ← parseWhere depth ts
    let (orderBy, ts) ← parseOrderBy depth ts
    .ok ({ columns, table, cond, orderBy }, ts)

end

/-- The depth bound of a statement: no statement of `n` tokens nests deeper than `8 * n + 8`
calls, eight for each precedence level a token can open. -/
def depthBound (ts : List Token) : Nat := 8 * ts.length + 8

/-- A whole statement: a select and at most a semicolon after it. -/
def parseStatement (ts : List Token) : Except String Select := do
  let (q, rest) ← parseSelect (depthBound ts) ts
  match rest with
  | [] => .ok q
  | [.symbol ";"] => .ok q
  | rest => .error (syntaxError rest)

-- `SELECT a FROM t WHERE b = 1 OR c = 2 AND NOT d >= 3`: `AND` binds tighter than `OR`
example : parseStatement [.word "select", .word "a", .word "from", .word "t", .word "where",
      .word "b", .symbol "=", .number 1, .word "or", .word "c", .symbol "=", .number 2,
      .word "and", .word "not", .word "d", .symbol ">=", .number 3] =
    .ok { columns := ["a"], table := "t", orderBy := [],
          cond := .binary .or (.binary .eq (.column "b") (.number 1))
            (.binary .and (.binary .eq (.column "c") (.number 2))
              (.not (.binary .ge (.column "d") (.number 3)))) } := by
  rfl

end Sql
