import TermSearch.Sql.Expr

/-! Conditions as they are read from the text of a statement. The text is cut into tokens, each placeholder is replaced by the
next parameter, and the tokens are put together: comparisons bind closer than `NOT`, `NOT` closer than `AND`, and
`AND` closer than `OR`. -/
namespace TermSearch.Sql

/-- A column with a text: of the record, or of the metadata row inside of `EXISTS`. -/
inductive TextColumn
  | record (column : Column)
  | metaKey
  | metaValue
  deriving DecidableEq, Repr

inductive IdColumn
  | record
  | metadata
  deriving DecidableEq, Repr

/-- An operator between two conditions. -/
inductive Operator
  | and | or
  deriving DecidableEq, Repr

/-- The truth value that an operator makes of two. -/
def Operator.combine : Operator → Bool → Bool → Bool
  | and, a, b => a && b
  | or, a, b => a || b

inductive Condition
  | number (n : Nat)
  | like (column : TextColumn) (operand : String)
  | among (column : TextColumn) (options : List String)
  | equal (left right : IdColumn)
  | not (c : Condition)
  | join (operator : Operator) (left right : Condition)
  | exist (c : Condition)
  deriving DecidableEq, Repr

/-- The text in a column, for a record row and the metadata row that is looked at, if any. -/
def TextColumn.get (row : RecordRow) (m : Option MetaRow) : TextColumn → Option String
  | record column => some (row.get column)
  | metaKey => m.map MetaRow.key
  | metaValue => m.map MetaRow.value

def IdColumn.get (row : RecordRow) (m : Option MetaRow) : IdColumn → Option Int
  | record => some row.id
  | metadata => m.map MetaRow.recordId

/-- Whether a condition is true of a record row, with the metadata row that is looked at, if any. -/
def Condition.holds (metadata : List MetaRow) (row : RecordRow) : Option MetaRow → Condition → Bool
  | _, number n => n != 0
  | m, like column operand => (column.get row m).any (Sql.like operand)
  | m, among column options => (column.get row m).any options.contains
  | m, equal left right => left.get row m == right.get row m
  | m, not c => !c.holds metadata row m
  | m, join o left right => o.combine (left.holds metadata row m) (right.holds metadata row m)
  | _, exist c => metadata.any fun m => c.holds metadata row (some m)

/-- A word of a statement that stands in none of its conditions, or the sign of a sum. -/
inductive Clause
  | naming | recordTable | recordAlias | matchCount | published
  | order | orderKey | descending | choice | whenTrue | thenTake | elseTake | choiceEnd | limit | offset | plus
  deriving DecidableEq, Repr

/-- A token of the text of a statement. A value stands in for a placeholder. -/
inductive Token
  | opening | closing | comma | equals | placeholder
  | number (n : Nat)
  | literal (chars : List Char)
  | value (p : Param)
  | text (column : TextColumn)
  | id (column : IdColumn)
  | operator (o : Operator)
  | not | like | escape | isIn | exist | select | source | restrict | metaTable | metaAlias
  | clause (c : Clause)
  deriving DecidableEq, Repr

def Token.words : List (String × Token) :=
  [("AND", operator .and), ("OR", operator .or), ("NOT", not), ("LIKE", like), ("ESCAPE", escape), ("IN", isIn),
    ("EXISTS", exist), ("SELECT", select), ("FROM", source), ("WHERE", restrict),
    ("record_meta", metaTable), ("m", metaAlias), ("r.id", id .record), ("m.record_id", id .metadata),
    ("r.type", text (.record .type)), ("r.title", text (.record .title)), ("r.excerpt", text (.record .excerpt)),
    ("r.body", text (.record .body)), ("r.password", text (.record .password)),
    ("m.meta_key", text .metaKey), ("m.meta_value", text .metaValue),
    ("AS", clause .naming), ("records", clause .recordTable), ("r", clause .recordAlias),
    ("match_count", clause .matchCount), ("r.published_at", clause .published), ("ORDER", clause .order),
    ("BY", clause .orderKey), ("DESC", clause .descending), ("CASE", clause .choice), ("WHEN", clause .whenTrue),
    ("THEN", clause .thenTake), ("ELSE", clause .elseTake), ("END", clause .choiceEnd), ("LIMIT", clause .limit),
    ("OFFSET", clause .offset)]

/-- The token of a word or a number. -/
def Token.ofWord? (chars : List Char) : Option Token :=
  if chars.all Char.isDigit then some (number (chars.foldl (fun n c => n * 10 + (c.toNat - 48)) 0))
  else (words.find? fun w => w.1.toList == chars).map Prod.snd

def isWordChar (c : Char) : Bool := c.isAlphanum || c == '_' || c == '.'

def textMark : Char := '\x27'

/-- Where cutting a text into tokens stands: between tokens, in a word, in a text between marks, or behind a mark
that may end it. -/
inductive Scan
  | between
  | word (chars : List Char)
  | quoted (chars : List Char)
  | ending (chars : List Char)
  deriving DecidableEq, Repr

namespace Scan

/-- The first character of a token. The tokens found so far stand in reverse. -/
def start (done : List Token) (c : Char) : Option (List Token × Scan) :=
  if c == ' ' then some (done, between)
  else if isWordChar c then some (done, word [c])
  else if c == textMark then some (done, quoted [])
  else match c with
    | '(' => some (.opening :: done, between)
    | ')' => some (.closing :: done, between)
    | ',' => some (.comma :: done, between)
    | '=' => some (.equals :: done, between)
    | '?' => some (.placeholder :: done, between)
    | '+' => some (.clause .plus :: done, between)
    | _ => none

/-- The tokens where no character of the last one is missing. -/
def finish (done : List Token) : Scan → Option (List Token)
  | between => some done
  | word chars => (Token.ofWord? chars).map (· :: done)
  | quoted _ => none
  | ending chars => some (.literal chars :: done)

/-- One more character. A mark within a text is written twice. -/
def step (done : List Token) (c : Char) : Scan → Option (List Token × Scan)
  | between => start done c
  | word chars =>
    if isWordChar c then some (done, word (chars ++ [c]))
    else (finish done (word chars)).bind fun done => start done c
  | quoted chars => some (done, if c == textMark then ending chars else quoted (chars ++ [c]))
  | ending chars =>
    if c == textMark then some (done, quoted (chars ++ [c]))
    else (finish done (ending chars)).bind fun done => start done c

def run (done : List Token) (s : Scan) : List Char → Option (List Token)
  | [] => (s.finish done).map List.reverse
  | c :: rest => (s.step done c).bind fun (done, s) => run done s rest

end Scan

/-- Replaces the placeholders by the parameters, from left to right. There has to be one for each. -/
def bindTokens : List Token → List Param → Option (List Token)
  | [], [] => some []
  | [], _ :: _ => none
  | .placeholder :: rest, p :: params => (bindTokens rest params).map (.value p :: ·)
  | .placeholder :: _, [] => none
  | t :: rest, params => (bindTokens rest params).map (t :: ·)

/-- Whether an operand that begins with a token is held together by itself: no operator binds a part of it. -/
def Token.isEnclosing : Token → Bool
  | .opening | .exist | .number _ => true
  | _ => false

/-- What is known of a condition up to some place between two parentheses: what stands before the last `OR`, what
stands before the last `AND` behind it, and how many times `NOT` stands before the operand that comes next. -/
structure Level where
  ofExist : Bool
  inExist : Bool
  either : Option Condition
  both : Option Condition
  nots : Nat
  deriving DecidableEq, Repr

namespace Level

/-- What is joined by `AND`, up to an operand. -/
def conjunction (l : Level) (c : Condition) : Condition :=
  match l.both with
  | some b => .join .and b c
  | none => c

/-- All that stands between the parentheses, up to an operand. -/
def whole (l : Level) (c : Condition) : Condition :=
  match l.either with
  | some e => .join .or e (l.conjunction c)
  | none => l.conjunction c

/-- The level behind an operator. -/
def after (l : Level) (c : Condition) : Operator → Level
  | .and => { l with both := some (l.conjunction c) }
  | .or => { l with either := some (l.whole c), both := none }

end Level

/-- A condition with `NOT` before it a number of times. -/
def Condition.negated : Nat → Condition → Condition
  | 0, c => c
  | n + 1, c => negated n (.not c)

/-- What has been read last: no operand yet, an operand, or a part of a comparison or of the beginning of `EXISTS`. -/
inductive Progress
  | start
  | complete (c : Condition)
  | text (column : TextColumn)
  | equalsText (column : TextColumn)
  | like (column : TextColumn)
  | operand (column : TextColumn) (operand : String)
  | escape (column : TextColumn) (operand : String)
  | isIn (column : TextColumn)
  | options (column : TextColumn) (options : List String)
  | option (column : TextColumn) (options : List String)
  | id (column : IdColumn)
  | equals (column : IdColumn)
  | exist | existOpen | select | selectOne | source | metaTable | metaAlias
  deriving DecidableEq, Repr

/-- A place in a condition: the innermost level, and the levels around it. -/
structure Reading where
  progress : Progress
  level : Level
  outer : List Level
  deriving DecidableEq, Repr

namespace Reading

def initial : Reading := ⟨.start, ⟨false, false, none, none, 0⟩, []⟩

def complete (s : Reading) (c : Condition) : Reading :=
  { s with progress := .complete (c.negated s.level.nots), level := { s.level with nots := 0 } }

/-- A parenthesis is opened, by itself or behind `EXISTS`. -/
def push (s : Reading) (ofExist : Bool) : Reading :=
  ⟨.start, ⟨ofExist, s.level.inExist || ofExist, none, none, 0⟩, s.level :: s.outer⟩

/-- A parenthesis is closed behind an operand. -/
def pop (s : Reading) (c : Condition) : Option Reading :=
  match s.outer with
  | [] => none
  | level :: outer =>
    let inner := s.level.whole c
    some (complete ⟨.start, level, outer⟩ (if s.level.ofExist then .exist inner else inner))

/-- Whether a column may be named at a place. -/
def allows (s : Reading) : TextColumn → Bool
  | .record _ => true
  | .metaKey | .metaValue => s.level.inExist

def step (s : Reading) (t : Token) : Option Reading :=
  match s.progress, t with
  | .start, .number n => some (s.complete (.number n))
  | .start, .not => some { s with level := { s.level with nots := s.level.nots + 1 } }
  | .start, .opening => some (s.push false)
  | .start, .text column => if s.allows column then some { s with progress := .text column } else none
  | .start, .id column =>
    if column = .record ∨ s.level.inExist then some { s with progress := .id column } else none
  | .start, .exist => some { s with progress := .exist }
  | .text column, .like => some { s with progress := .like column }
  | .like column, .value (.text operand) => some { s with progress := .operand column operand }
  | .operand column operand, .escape => some { s with progress := .escape column operand }
  | .escape column operand, .literal ['\\'] => some (s.complete (.like column operand))
  | .text column, .isIn => some { s with progress := .isIn column }
  | .isIn column, .opening => some { s with progress := .options column [] }
  | .options column options, .value (.text o) => some { s with progress := .option column (options ++ [o]) }
  | .option column options, .comma => some { s with progress := .options column options }
  | .option column options, .closing => some (s.complete (.among column options))
  | .text column, .equals => some { s with progress := .equalsText column }
  | .equalsText column, .literal chars => some (s.complete (.among column [String.ofList chars]))
  | .id column, .equals => some { s with progress := .equals column }
  | .equals left, .id right =>
    if right = .record ∨ s.level.inExist then some (s.complete (.equal left right)) else none
  | .exist, .opening => some { s with progress := .existOpen }
  | .existOpen, .select => some { s with progress := .select }
  | .select, .number 1 => some { s with progress := .selectOne }
  | .selectOne, .source => some { s with progress := .source }
  | .source, .metaTable => some { s with progress := .metaTable }
  | .metaTable, .metaAlias => some { s with progress := .metaAlias }
  | .metaAlias, .restrict => some (s.push true)
  | .complete c, .operator o => some { s with progress := .start, level := s.level.after c o }
  | .complete c, .closing => s.pop c
  | _, _ => none

/-- The condition that has been read, where it is complete. -/
def result (s : Reading) : Option Condition :=
  match s.progress, s.outer with
  | .complete c, [] => some (s.level.whole c)
  | _, _ => none

end Reading

/-- The condition that is made of some tokens. -/
def Condition.ofTokens (tokens : List Token) : Option Condition := do
  let last ← tokens.foldlM Reading.step .initial
  last.result

/-- The tokens of a text, with the parameters in the places of the placeholders. -/
def readTokens (text : String) (params : List Param) : Option (List Token) := do
  let tokens ← Scan.run [] .between text.toList
  bindTokens tokens params

/-- Reads the text of a condition with some parameters. -/
def readCondition (text : String) (params : List Param) : Option Condition :=
  (readTokens text params).bind Condition.ofTokens

example : readCondition "NOT 1 AND 0 OR NOT NOT 1" [] =
    some (.join .or (.join .and (.not (.number 1)) (.number 0)) (.not (.not (.number 1)))) := by decide +kernel

example : readCondition "NOT r.title LIKE ? ESCAPE '\\' OR 0 AND r.body = ''" [.text "%a%"] =
    some (.join .or (.not (.like (.record .title) "%a%")) (.join .and (.number 0) (.among (.record .body) [""]))) := by
  decide +kernel

end TermSearch.Sql
