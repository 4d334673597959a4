import Mathlib.Data.List.Basic

/-!
# A lexer for a fragment of SQL

The lexical rules of PostgreSQL for the statements this development reads: identifiers and
keywords, which are folded to lower case; unsigned integers; string constants between single
quotes, in which two quotes stand for one; the one- and two-character operators of
comparison and arithmetic; punctuation; and comments from `--` to the end of the line.

The lexer is a machine that reads one character at a time (`step`) and remembers the token it
is in (`Mode`); `lex` folds it over the text.  Inside a string constant every character but a
quote is kept as it is: `run_string` states that for any text without quotes, whatever it
holds, which is what makes a constant's content unable to end it.
-/

namespace Sql

/-- A token. -/
inductive Token
  /-- a keyword or an identifier, in lower case -/
  | word (w : String)
  /-- an unsigned integer constant -/
  | number (n : Nat)
  /-- a string constant, with its doubled quotes read as one -/
  | str (s : String)
  /-- an operator or a punctuation character -/
  | symbol (s : String)
  deriving DecidableEq, Repr

/-- The token the lexer is in. -/
inductive Mode
  | start
  | word (acc : List Char)
  | number (acc : List Char)
  | string (acc : List Char)
  /-- a quote inside a string constant: its end, or the first of two -/
  | quote (acc : List Char)
  /-- a character that may begin a two-character operator or a comment -/
  | operator (c : Char)
  | comment
  deriving DecidableEq, Repr

/-- The tokens read so far and the token the lexer is in. -/
structure LexState where
  tokens : List Token
  mode : Mode
  deriving DecidableEq, Repr

/-- White space between tokens. -/
def isSpace (c : Char) : Bool :=
  c = ' ' || c = '\t' || c = '\n' || c = '\r' || c = '\x0c'

/-- The first character of an identifier. -/
def isIdentStart (c : Char) : Bool :=
  c.isAlpha || c = '_'

/-- The other characters of an identifier. -/
def isIdentChar (c : Char) : Bool :=
  c.isAlphanum || c = '_' || c = '$'

/-- A character that is a token by itself. -/
def isPunctuation (c : Char) : Bool :=
  c = '(' || c = ')' || c = ',' || c = ';' || c = '=' || c = '+' || c = '*'

/-- A character that may begin a two-character operator. -/
def isOperatorStart (c : Char) : Bool :=
  c = '<' || c = '>' || c = '!' || c = '-'

/-- The two-character operators. -/
def isOperatorPair (o c : Char) : Bool :=
  (o = '<' && (c = '=' || c = '>')) || (o = '>' && c = '=') || (o = '!' && c = '=')

/-- A finished identifier or keyword. -/
def wordToken (acc : List Char) : Token :=
  .word (String.ofList (acc.map Char.toLower))

/-- A finished integer constant. -/
def numberToken (acc : List Char) : Token :=
  .number (Nat.ofDigitChars 10 acc 0)

/-- Reading a character between two tokens. -/
def startChar (tokens : List Token) (c : Char) : Except String LexState :=
  if isSpace c then .ok ⟨tokens, .start⟩
  else if isIdentStart c then .ok ⟨tokens, .word [c]⟩
  else if c.isDigit then .ok ⟨tokens, .number [c]⟩
  else if c = '\'' then .ok ⟨tokens, .string []⟩
  else if isOperatorStart c then .ok ⟨tokens, .operator c⟩
  else if isPunctuation c then .ok ⟨tokens ++ [.symbol (String.singleton c)], .start⟩
  else .error ("syntax error at or near \"" ++ String.singleton c ++ "\"")

/-- Reading one character. -/
def step (s : LexState) (c : Char) : Except String LexState :=
  match s.mode with
  | .start => startChar s.tokens c
  | .word acc =>
    if isIdentChar c then .ok ⟨s.tokens, .word (acc ++ [c])⟩
    else startChar (s.tokens ++ [wordToken acc]) c
  | .number acc =>
    if c.isDigit then .ok ⟨s.tokens, .number (acc ++ [c])⟩
    else startChar (s.tokens ++ [numberToken acc]) c
  | .string acc =>
    if c = '\'' then .ok ⟨s.tokens, .quote acc⟩ else .ok ⟨s.tokens, .string (acc ++ [c])⟩
  | .quote acc =>
    -- a second quote is a quote of the constant; anything else follows the constant
    if c = '\'' then .ok ⟨s.tokens, .string (acc ++ ['\''])⟩
    else startChar (s.tokens ++ [.str (String.ofList acc)]) c
  | .operator o =>
    if o = '-' && c = '-' then .ok ⟨s.tokens, .comment⟩
    else if isOperatorPair o c then .ok ⟨s.tokens ++ [.symbol (String.ofList [o, c])], .start⟩
    else startChar (s.tokens ++ [.symbol (String.singleton o)]) c
  | .comment => if c = '\n' then .ok ⟨s.tokens, .start⟩ else .ok ⟨s.tokens, .comment⟩

/-- The end of the text ends the token the lexer is in. -/
def finish (s : LexState) : Except String (List Token) :=
  match s.mode with
  | .start => .ok s.tokens
  | .comment => .ok s.tokens
  | .word acc => .ok (s.tokens ++ [wordToken acc])
  | .number acc => .ok (s.tokens ++ [numberToken acc])
  | .string _ => .error "unterminated quoted string"
  | .quote acc => .ok (s.tokens ++ [.str (String.ofList acc)])
  | .operator o => .ok (s.tokens ++ [.symbol (String.singleton o)])

/-- Reading a list of characters from a state. -/
def run (s : LexState) (cs : List Char) : Except String LexState :=
  cs.foldlM step s

/-- The tokens of a text. -/
def lex (text : String) : Except String (List Token) :=
  run ⟨[], .start⟩ text.toList >>= finish

@[simp] theorem run_nil (s : LexState) : run s [] = .ok s := rfl

theorem run_cons (s : LexState) (c : Char) (cs : List Char) :
    run s (c :: cs) = step s c >>= fun s' => run s' cs := rfl

/-- Reading two texts one after the other. -/
theorem run_append (s : LexState) (cs ds : List Char) :
    run s (cs ++ ds) = run s cs >>= fun s' => run s' ds := by
  simp [run, List.foldlM_append]

theorem run_append_of_ok {s s' : LexState} {cs : List Char} (h : run s cs = .ok s')
    (ds : List Char) : run s (cs ++ ds) = run s' ds := by
  rw [run_append, h]
  rfl

/-- **Inside a string constant, a text without quotes is kept as it is.** -/
theorem run_string (tokens : List Token) (acc : List Char) {cs : List Char} (hcs : '\'' ∉ cs) :
    run ⟨tokens, .string acc⟩ cs = .ok ⟨tokens, .string (acc ++ cs)⟩ := by
  induction cs generalizing acc with
  | nil => simp
  | cons c cs ih =>
    have hc : c ≠ '\'' := fun h => hcs (h ▸ List.mem_cons_self)
    have hstep : step ⟨tokens, .string acc⟩ c = .ok ⟨tokens, .string (acc ++ [c])⟩ := by
      simp [step, hc]
    have hrest := ih (acc ++ [c]) fun h => hcs (List.mem_cons_of_mem c h)
    rw [List.append_assoc, List.singleton_append] at hrest
    rw [run_cons, hstep]
    exact hrest

/-! ## The lexer never reads back its tokens -/

/-- The state with `ts` in front of its tokens. -/
def LexState.prepend (ts : List Token) (s : LexState) : LexState :=
  ⟨ts ++ s.tokens, s.mode⟩

theorem startChar_prepend (ts tokens : List Token) (c : Char) :
    startChar (ts ++ tokens) c = (startChar tokens c).map (LexState.prepend ts) := by
  unfold startChar
  split_ifs <;> simp [LexState.prepend, Except.map]

theorem step_prepend (ts : List Token) (s : LexState) (c : Char) :
    step (s.prepend ts) c = (step s c).map (LexState.prepend ts) := by
  obtain ⟨tokens, mode⟩ := s
  -- each mode either keeps the tokens or ends a token and reads `c` between tokens
  cases mode with
  | start => exact startChar_prepend ts tokens c
  | word acc | number acc | string acc | quote acc | operator acc | comment =>
    simp only [step, LexState.prepend]
    split_ifs <;> simp [startChar_prepend ts, LexState.prepend, Except.map]

/-- **The tokens read so far do not change how the rest is read.** -/
theorem run_prepend (ts : List Token) (s : LexState) (cs : List Char) :
    run (s.prepend ts) cs = (run s cs).map (LexState.prepend ts) := by
  induction cs generalizing s with
  | nil => rfl
  | cons c cs ih =>
    rw [run_cons, run_cons, step_prepend]
    cases step s c with
    | error e => rfl
    | ok s' => exact ih s'

/-- Reading from a state with tokens is reading from the same mode with none. -/
theorem run_tokens (tokens : List Token) (mode : Mode) (cs : List Char) :
    run ⟨tokens, mode⟩ cs = (run ⟨[], mode⟩ cs).map (LexState.prepend tokens) := by
  simpa [LexState.prepend] using run_prepend tokens ⟨[], mode⟩ cs

theorem finish_prepend (ts : List Token) (s : LexState) :
    finish (s.prepend ts) = (finish s).map (ts ++ ·) := by
  obtain ⟨tokens, mode⟩ := s
  cases mode <;> simp [finish, LexState.prepend, Except.map]

/-- A text that reads from no tokens to `ts` reads so after any tokens, and the rest is read
from where it stops. -/
theorem run_append_of_run {mode m : Mode} {cs : List Char} {ts : List Token}
    (h : run ⟨[], mode⟩ cs = .ok ⟨ts, m⟩) (tokens : List Token) (ds : List Char) :
    run ⟨tokens, mode⟩ (cs ++ ds) = run ⟨tokens ++ ts, m⟩ ds := by
  have hcs : run ⟨tokens, mode⟩ cs = .ok ⟨tokens ++ ts, m⟩ := by
    rw [run_tokens, h]
    rfl
  exact run_append_of_ok hcs ds

/-- A string constant ends at a quote that no second quote follows, and the character after
it is read between tokens. -/
theorem run_close (tokens : List Token) (acc : List Char) {c : Char} (hc : c ≠ '\'')
    (cs : List Char) :
    run ⟨tokens, .string acc⟩ ('\'' :: c :: cs) =
      run ⟨tokens ++ [.str (String.ofList acc)], .start⟩ (c :: cs) := by
  simp [run_cons, step, hc]
  rfl

example : lex "SELECT id FROM t WHERE a = 'it''s' -- note" =
    .ok [.word "select", .word "id", .word "from", .word "t", .word "where", .word "a",
      .symbol "=", .str "it's"] := by
  rfl

end Sql
