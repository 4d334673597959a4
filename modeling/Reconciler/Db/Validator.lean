import Reconciler.Lib.Regex

/-!
# The query validator

`Validator.Validate` (`pkg/db/validator.go`) is the connection's guard against SQL injection:
a query passes when one of four regular expressions, for the statement kinds the query
builders write, matches somewhere in it, or when it creates a table or shows the transaction
level.  Otherwise it is refused when `blockQueries` is set, and only logged when not.

The expressions are Go's RE2 syntax, and `regexp.MatchString` reports a match anywhere in the
query, so only the final `$` anchors them.  They are written here as `Regex Char` terms, one
constructor for each operator of the source text: `\s` is `[\t\n\f\r ]`, `\w` is
`[0-9A-Za-z_]`, `\d` is `[0-9]`, and `.` is any character but a newline.

The select expression has `.*` on both sides of the `\d+` of its `WHERE` part, so it matches
any select whose where clause has a comparison and a digit after it, whatever else stands
there: `matchString_select` states that, and `validate_select` that such a query passes.
-/

namespace Reconciler

namespace Validator

open Regex

/-! ## The character classes of RE2 -/

/-- `\s` -/
def space : Regex Char :=
  atom (fun c => c = '\t' || c = '\n' || c = '\x0c' || c = '\r' || c = ' ')

/-- `\w` -/
def wordChar : Regex Char := atom (fun c => c.isAlphanum || c = '_')

/-- `\d` -/
def digit : Regex Char := atom Char.isDigit

/-- `.` -/
def dot : Regex Char := atom (fun c => c != '\n')

/-- `[=<>]` -/
def comparison : Regex Char := atom (fun c => c = '=' || c = '<' || c = '>')

/-- `[^;]` -/
def notSemicolon : Regex Char := atom (fun c => c != ';')

/-- A literal text. -/
def lit (s : String) : Regex Char := word s.toList

/-! ## The four expressions -/

/-- `(\s*,\s*)?` -/
def commaSeparator : Regex Char := opt (seqs [star space, lit ",", star space])

/-- `(\s+AND\s+)?` -/
def andSeparator : Regex Char := opt (seqs [plus space, lit "AND", plus space])

/-- `(\s+OR\s+)?` -/
def orSeparator : Regex Char := opt (seqs [plus space, lit "OR", plus space])

/-- `\(?\w*\s*[=<>]\s*\$\d+\)?`, a comparison with a placeholder. -/
def placeholderCondition : Regex Char :=
  seqs [opt (lit "("), star wordChar, star space, comparison, star space, lit "$", plus digit,
    opt (lit ")")]

/-- `(\w*\s+IN\s+[^;]+)?` -/
def inClause : Regex Char :=
  opt (seqs [star wordChar, plus space, lit "IN", plus space, plus notSemicolon])

/-- `\(?\w*\s*[=<>].*\$?\d+.*\)?(\s*,\s*)?(\s+AND\s+)?(\s+OR\s+)?`, a condition of the where
part of a select. -/
def selectCondition : Regex Char :=
  seqs [opt (lit "("), star wordChar, star space, comparison, star dot, opt (lit "$"), plus digit,
    star dot, opt (lit ")"), commaSeparator, andSeparator, orSeparator]

/-- `(FROM\s*\w+\s*)+` -/
def fromClauses : Regex Char := plus (seqs [lit "FROM", star space, plus wordChar, star space])

/-- `(WHERE (...)*)?` -/
def whereClause : Regex Char := opt (seqs [lit "WHERE ", star selectCondition])

/-- The select expression of `Validate` up to its final `$`. -/
def selectParts : List (Regex Char) :=
  [lit "SELECT", star dot, fromClauses, whereClause, inClause,
    opt (seqs [star wordChar, plus space, lit "ORDER BY", plus space, plus notSemicolon]),
    opt (seqs [star wordChar, plus space, lit "GROUP BY", plus space, plus notSemicolon]),
    opt (seqs [star wordChar, plus space, lit "FOR UPDATE"])]

/-- The select expression of `Validate`:
`SELECT.*(FROM\s*\w+\s*)+(WHERE (\(?\w*\s*[=<>].*\$?\d+.*\)?(\s*,\s*)?(\s+AND\s+)?(\s+OR\s+)?)*)?`
`(\w*\s+IN\s+[^;]+)?(\w*\s+ORDER BY\s+[^;]+)?(\w*\s+GROUP BY\s+[^;]+)?(\w*\s+FOR UPDATE)?$` -/
def selectRegex : Regex Char := seqs (selectParts ++ [endText])

/-- The insert expression of `Validate`:
`INSERT.*VALUES \((\$\d+)(\s*,\s*\$\d+)*\)[^;]+$` -/
def insertRegex : Regex Char :=
  seqs [lit "INSERT", star dot, lit "VALUES (", lit "$", plus digit,
    star (seqs [star space, lit ",", star space, lit "$", plus digit]), lit ")",
    plus notSemicolon, endText]

/-- The update expression of `Validate`:
`UPDATE.*SET (\(?\w*\s*[=<>]\s*\$\d+\)?(\s*,\s*)?)+`
`(\s*WHERE\s*(\(?\w*\s*[=<>]\s*\$\d+\)?(\s*,\s*)?(\s+AND\s+)?(\s+OR\s+)?)+)?`
`(\s+RETURNING\s+(\w+(,\s*)?)+)?$` -/
def updateRegex : Regex Char :=
  seqs [lit "UPDATE", star dot, lit "SET ", plus (seq placeholderCondition commaSeparator),
    opt (seqs [star space, lit "WHERE", star space,
      plus (seqs [placeholderCondition, commaSeparator, andSeparator, orSeparator])]),
    opt (seqs [plus space, lit "RETURNING", plus space,
      plus (seq (plus wordChar) (opt (seq (lit ",") (star space))))]),
    endText]

/-- The delete expression of `Validate`:
`DELETE FROM.*WHERE (\(?\w*\s*[=<>]\s*\$\d+\)?(\s*,\s*)?(\s+AND\s+)?(\s+OR\s+)?)*`
`(\w*\s+IN\s+[^;]+)?$` -/
def deleteRegex : Regex Char :=
  seqs [lit "DELETE FROM", star dot, lit "WHERE ",
    star (seqs [placeholderCondition, commaSeparator, andSeparator, orSeparator]),
    inClause, endText]

end Validator

/-- `regexp.MatchString`: whether the expression matches somewhere in the text. -/
def matchString (re : Regex Char) (s : String) : Bool :=
  Regex.accepts (Regex.search re) s.toList

/-- `strings.Contains`. -/
def contains (s substr : String) : Bool :=
  decide (substr.toList <:+: s.toList)

/-- `db.Validator`; its logger is left out. -/
structure Validator where
  blockQueries : Bool
  deriving DecidableEq, Repr

namespace Validator

open Regex

/-- `Validator.Validate`.  The expressions are constants that compile, so the error of
`regexp.MatchString` never occurs; a suspicious query that is not blocked is only logged. -/
def validate (v : Validator) (query : String) : Except String Unit :=
  let matchSelect := matchString selectRegex query
  let matchInsert := matchString insertRegex query
  let matchUpdate := matchString updateRegex query
  let matchDelete := matchString deleteRegex query
  let matchOthers := contains query "CREATE TABLE" || contains query "SHOW TRANSACTION"
  if !matchSelect && !matchInsert && !matchUpdate && !matchDelete && !matchOthers then
    if v.blockQueries then .error ("Found potential SQL injection for query: " ++ query)
    else .ok ()
  else .ok ()

/-- A query that the select expression matches passes. -/
theorem validate_of_matchSelect (v : Validator) {query : String}
    (h : matchString selectRegex query = true) : v.validate query = .ok () := by
  simp [validate, h]

/-- A query is refused only when blocking is on, and then with the query in the message. -/
theorem validate_eq_error {v : Validator} {query msg : String}
    (h : v.validate query = .error msg) :
    v.blockQueries = true ∧ msg = "Found potential SQL injection for query: " ++ query := by
  unfold validate at h
  dsimp only at h
  -- a query that some expression matches passes, and so does any query when not blocking
  split at h
  · cases hblock : v.blockQueries
    · simp [hblock] at h
    · simp only [hblock, if_true, Except.error.injEq] at h
      exact ⟨rfl, h.symm⟩
  · cases h

/-! ## What the select expression lets through -/

section Select

variable {u : List Char}

theorem reads_lit (s : String) : Reads (lit s) s.toList := reads_word s.toList

theorem reads_dot (hu : '\n' ∉ u) : Reads (star dot) u :=
  reads_star_atom fun _ hc => bne_iff_ne.2 fun h => hu (h ▸ hc)

theorem reads_wordChar {c : Char} (hu : ∀ d ∈ c :: u, d.isAlphanum || d = '_') :
    Reads (plus wordChar) (c :: u) :=
  reads_plus_atom hu

theorem reads_digit {c : Char} (hu : ∀ d ∈ c :: u, d.isDigit) : Reads (plus digit) (c :: u) :=
  reads_plus_atom hu

theorem reads_space : Reads (star space) [' '] :=
  (reads_atom (p := fun c => c = '\t' || c = '\n' || c = '\x0c' || c = '\r' || c = ' ')
    (by decide)).to_star

/-- One condition of the where part of a select: a column, a comparison, any text, digits, and
any text again.  Both texts are free of newlines, and nothing else is asked of them. -/
theorem reads_selectCondition {column before digits after : List Char} {c : Char}
    (hcolumn : ∀ d ∈ column, d.isAlphanum || d = '_') (hc : c = '=' ∨ c = '<' ∨ c = '>')
    (hbefore : '\n' ∉ before) (hdigits : ∀ d ∈ digits, d.isDigit) (hne : digits ≠ [])
    (hafter : '\n' ∉ after) :
    Reads selectCondition (column ++ ' ' :: c :: before ++ digits ++ after) := by
  obtain ⟨d, ds, rfl⟩ := List.exists_cons_of_ne_nil hne
  have hcomparison : Reads comparison [c] := reads_atom (by rcases hc with rfl | rfl | rfl <;> rfl)
  refine Reads.of_eq ?_ (reads_opt_nil.seqs_cons <| (reads_star_atom hcolumn).seqs_cons <|
    reads_space.seqs_cons <| hcomparison.seqs_cons <| (reads_dot hbefore).seqs_cons <|
    reads_opt_nil.seqs_cons <| (reads_digit hdigits).seqs_cons <| (reads_dot hafter).seqs_cons <|
    reads_opt_nil.seqs_cons <| reads_opt_nil.seqs_cons <| reads_opt_nil.seqs_cons <|
    reads_opt_nil.seqs_cons reads_seqs_nil)
  simp

/-- **The select expression matches every select of one table whose where part compares a
column and has digits after the comparison**, whatever the text around the digits holds, as
long as it has no newline. -/
theorem matchString_select {query : String} {columns table column before digits after : List Char}
    {c : Char} (hquery : query.toList = "SELECT".toList ++ columns ++ "FROM ".toList ++ table ++
      " WHERE ".toList ++ column ++ ' ' :: c :: before ++ digits ++ after)
    (hcolumns : '\n' ∉ columns) (htable : ∀ d ∈ table, d.isAlphanum || d = '_') (htne : table ≠ [])
    (hcolumn : ∀ d ∈ column, d.isAlphanum || d = '_') (hc : c = '=' ∨ c = '<' ∨ c = '>')
    (hbefore : '\n' ∉ before) (hdigits : ∀ d ∈ digits, d.isDigit) (hne : digits ≠ [])
    (hafter : '\n' ∉ after) :
    matchString selectRegex query = true := by
  obtain ⟨t, ts, rfl⟩ := List.exists_cons_of_ne_nil htne
  -- `FROM` is read once, and the where part has one condition
  have hfrom : Reads fromClauses ("FROM".toList ++ ' ' :: t :: ts ++ [' ']) :=
    Reads.of_eq (by simp) (((reads_lit "FROM").seqs_cons <| reads_space.seqs_cons <|
      (reads_wordChar htable).seqs_cons <| reads_space.seqs_cons reads_seqs_nil).plus
        reads_star_nil)
  have hwhere : Reads whereClause ("WHERE ".toList ++ column ++ ' ' :: c :: before ++ digits ++
      after) :=
    Reads.of_eq (by simp) ((reads_lit "WHERE ").seqs_cons <|
      (reads_selectCondition hcolumn hc hbefore hdigits hne hafter).to_star.seqs_cons
        reads_seqs_nil).opt
  have hselect : Reads (seqs selectParts) query.toList := by
    refine Reads.of_eq ?_ ((reads_lit "SELECT").seqs_cons <| (reads_dot hcolumns).seqs_cons <|
      hfrom.seqs_cons <| hwhere.seqs_cons <| reads_opt_nil.seqs_cons <|
      reads_opt_nil.seqs_cons <| reads_opt_nil.seqs_cons <| reads_opt_nil.seqs_cons reads_seqs_nil)
    simp [hquery]
  exact (accepts_search_iff _ _).2 ⟨query.toList, [], List.suffix_refl _, hselect.endText⟩

/-- A select of that shape passes the validator. -/
theorem validate_select (v : Validator) {query : String}
    {columns table column before digits after : List Char} {c : Char}
    (hquery : query.toList = "SELECT".toList ++ columns ++ "FROM ".toList ++ table ++
      " WHERE ".toList ++ column ++ ' ' :: c :: before ++ digits ++ after)
    (hcolumns : '\n' ∉ columns) (htable : ∀ d ∈ table, d.isAlphanum || d = '_') (htne : table ≠ [])
    (hcolumn : ∀ d ∈ column, d.isAlphanum || d = '_') (hc : c = '=' ∨ c = '<' ∨ c = '>')
    (hbefore : '\n' ∉ before) (hdigits : ∀ d ∈ digits, d.isDigit) (hne : digits ≠ [])
    (hafter : '\n' ∉ after) :
    v.validate query = .ok () :=
  validate_of_matchSelect v (matchString_select hquery hcolumns htable htne hcolumn hc hbefore
    hdigits hne hafter)

/-- **The validator passes any second statement after a select.**  For every text `s` without
a line break, `SELECT * FROM t WHERE id = 1; s` passes with blocking on or off: the text after
the digit, a `;` and quoted literals included, is read by the select expression's `.*`. -/
theorem validate_accepts_second_statement (v : Validator) (s : String) (hs : '\n' ∉ s.toList) :
    v.validate ("SELECT * FROM t WHERE id = 1; " ++ s) = .ok () := by
  have hquery : ("SELECT * FROM t WHERE id = 1; " ++ s).toList = "SELECT".toList ++ " * ".toList ++
      "FROM ".toList ++ ['t'] ++ " WHERE ".toList ++ "id".toList ++ ' ' :: '=' :: [' '] ++ ['1'] ++
      ("; ".toList ++ s.toList) := by
    simp only [String.toList_append]
    rfl
  -- the character checks run as boolean folds: under the whole of Mathlib, the membership
  -- instances that decide would find unfold too deeply
  exact validate_select v hquery (by decide) (List.all_eq_true.1 (by rfl)) (by simp)
    (List.all_eq_true.1 (by rfl)) (by simp) (by decide) (List.all_eq_true.1 (by rfl)) (by simp)
    (by simpa using hs)

/-- A select followed by a `DROP TABLE` with a quoted literal passes the blocking validator. -/
theorem validate_accepts_drop_table :
    ({ blockQueries := true } : Validator).validate
      ("SELECT * FROM t WHERE id = 1; " ++ "DROP TABLE inventory_clusters; SELECT 'secret'") =
        .ok () :=
  validate_accepts_second_statement _ _ (by decide)

end Select

end Validator

end Reconciler
