import TermSearch.Proofs.ConditionReading
import TermSearch.Sql.Select

/-! Statements as they are read from their text: the columns of the result, the sum that counts matches, the condition
on the rows, their order, and the part of them that is shown. Rows that compare alike may stand in any order, so that a
statement may have several results. -/
namespace TermSearch.Sql

inductive ResultColumn
  | id
  | text (column : Column)
  | published
  deriving DecidableEq, Repr

/-- What rows are ordered by. -/
inductive OrderKey
  | choice (c : Condition) (yes no : Nat)
  | matchCount
  | published
  | id
  deriving DecidableEq, Repr

structure OrderTerm where
  key : OrderKey
  descending : Bool
  deriving DecidableEq, Repr

structure Statement where
  columns : List ResultColumn
  addends : List Condition
  condition : Condition
  order : List OrderTerm
  window : Option Window
  deriving DecidableEq, Repr

/-- What stands in front of the first place of a token, and what stands behind it. -/
def cutAt? (t : Token) : List Token → Option (List Token × List Token)
  | [] => none
  | u :: rest => if u = t then some ([], rest) else (cutAt? t rest).map fun cut => (u :: cut.1, cut.2)

def ResultColumn.ofToken? : Token → Option ResultColumn
  | .id .record => some id
  | .text (.record column) => some (text column)
  | .clause .published => some published
  | _ => none

/-- The columns in front, each with a comma behind it, and what stands behind them. -/
def takeColumns : List Token → List ResultColumn × List Token
  | t :: .comma :: rest =>
    match ResultColumn.ofToken? t with
    | some column => (column :: (takeColumns rest).1, (takeColumns rest).2)
    | none => ([], t :: .comma :: rest)
  | tokens => ([], tokens)

/-- The condition of an addend, which is held together by itself. -/
def Condition.ofAddend? (tokens : List Token) : Option Condition :=
  if tokens.head?.any Token.isEnclosing then do
    let last ← tokens.foldlM Reading.step .initial
    match last with
    | ⟨.complete c, ⟨_, _, none, none, _⟩, []⟩ => some c
    | _ => none
  else none

/-- The addends of a sum between parentheses. A number alone is a sum, too. -/
def readSum : List Token → Option (List Condition)
  | [.number n] => some [.number n]
  | .opening :: rest =>
    if rest.getLast? = some .closing then (rest.dropLast.splitOn (.clause .plus)).mapM Condition.ofAddend?
    else none
  | _ => none

/-- What stands behind the name of the sum and the name of the table. -/
def afterTable? : List Token → Option (List Token)
  | .clause .matchCount :: .source :: .clause .recordTable :: .clause .recordAlias :: .restrict :: rest => some rest
  | _ => none

def OrderKey.ofTokens? : List Token → Option OrderKey
  | [.clause .matchCount] => some matchCount
  | [.clause .published] => some published
  | [.id .record] => some id
  | _ => none

def OrderTerm.ofTokens? (tokens : List Token) : Option OrderTerm :=
  if tokens.getLast? = some (.clause .descending) then (OrderKey.ofTokens? tokens.dropLast).map (⟨·, true⟩)
  else (OrderKey.ofTokens? tokens).map (⟨·, false⟩)

/-- The terms of an order. A choice between two numbers may stand in front of the others. -/
def readOrder : List Token → Option (List OrderTerm)
  | .clause .choice :: .clause .whenTrue :: rest => do
    let (condition, rest) ← cutAt? (.clause .thenTake) rest
    let c ← Condition.ofTokens condition
    match rest with
    | .number yes :: .clause .elseTake :: .number no :: .clause .choiceEnd :: .comma :: rest =>
      return ⟨.choice c yes no, false⟩ :: (← (rest.splitOn .comma).mapM OrderTerm.ofTokens?)
    | _ => none
  | tokens => (tokens.splitOn .comma).mapM OrderTerm.ofTokens?

/-- An order, with the limit and the offset behind it. -/
def cutWindow? (tokens : List Token) : Option (List Token × Option Window) :=
  match cutAt? (.clause .limit) tokens with
  | none => some (tokens, none)
  | some (order, [.value limit, .clause .offset, .value offset]) => some (order, some ⟨limit, offset⟩)
  | some _ => none

namespace Statement

/-- What a condition is followed by: the order, and the part that is shown. -/
def readEnd : List Token → Option (List OrderTerm × Option Window)
  | .clause .orderKey :: rest => do
    let (order, window) ← cutWindow? rest
    return (← readOrder order, window)
  | _ => none

def ofTokens : List Token → Option Statement
  | .select :: rest => do
    let (selected, rest) ← cutAt? (.clause .naming) rest
    let addends ← readSum (takeColumns selected).2
    let (condition, rest) ← cutAt? (.clause .order) (← afterTable? rest)
    let (order, window) ← readEnd rest
    return {
      columns := (takeColumns selected).1
      addends := addends
      condition := ← Condition.ofTokens condition
      order := order
      window := window }
  | _ => none

end Statement

/-- Reads the text of a statement with some parameters. -/
def readStatement (text : String) (params : List Param) : Option Statement :=
  (readTokens text params).bind Statement.ofTokens

example : readStatement
    "SELECT r.id, (EXISTS (SELECT 1 FROM record_meta m WHERE m.meta_value LIKE ? ESCAPE '\\') + (r.body = '')) AS match_count FROM records r WHERE 1 ORDER BY match_count DESC, r.id LIMIT ? OFFSET ?"
    [.text "%a%", .int 5, .int 0] = some {
      columns := [.id]
      addends := [.exist (.like .metaValue "%a%"), .among (.record .body) [""]]
      condition := .number 1
      order := [⟨.matchCount, true⟩, ⟨.id, false⟩]
      window := some ⟨.int 5, .int 0⟩ } := by decide +kernel

/-- The value of a column of a row. -/
def ResultColumn.value (row : RecordRow) : ResultColumn → Param
  | id => .int row.id
  | text column => .text (row.get column)
  | published => (row.published.map .int).getD .null

section Meaning

variable (metadata : List MetaRow)

/-- What a condition adds to a sum. -/
def Condition.count (row : RecordRow) : Condition → Int
  | number n => n
  | c => Expr.ofBool (c.holds metadata row none)

def Condition.total (row : RecordRow) : List Condition → Int
  | [] => 0
  | c :: rest => c.count metadata row + total row rest

/-- The value of a key for a row and its match count. It may be missing. -/
def OrderKey.value (r : ResultRow) : OrderKey → Option Int
  | choice c yes no => some (if c.holds metadata r.row none then yes else no)
  | matchCount => some r.matchCount
  | published => r.row.published
  | id => some r.row.id

/-- Whether a value comes before another one. A missing value comes before all others. -/
def isBefore : Option Int → Option Int → Bool
  | none, y => y.isSome
  | some x, some y => x < y
  | some _, none => false

def OrderTerm.isBefore (t : OrderTerm) (a b : ResultRow) : Bool :=
  if t.descending then Sql.isBefore (t.key.value metadata b) (t.key.value metadata a)
  else Sql.isBefore (t.key.value metadata a) (t.key.value metadata b)

/-- Whether a row may stand in front of another one: some term decides so, or none decides. -/
def mayPrecede : List OrderTerm → ResultRow → ResultRow → Bool
  | [], _, _ => true
  | t :: rest, a, b =>
    t.isBefore metadata a b || (t.key.value metadata a == t.key.value metadata b && mayPrecede rest a b)

namespace Statement

variable (s : Statement) (records : List RecordRow)

def matchCount (row : RecordRow) : Int := Condition.total metadata row s.addends

/-- The rows that satisfy the condition, with their match counts. -/
def rows : List ResultRow :=
  (records.filter fun row => s.condition.holds metadata row none).map fun row => ⟨row, s.matchCount metadata row⟩

def tuple (r : ResultRow) : List Param := s.columns.map (ResultColumn.value r.row) ++ [.int r.matchCount]

/-- Some tuples are a result of a statement: those of its rows in some arrangement that its order allows, or the part
of them that is shown. -/
def MayGive (tuples : List (List Param)) : Prop :=
  ∃ arranged : List ResultRow, arranged.Perm (s.rows metadata records) ∧
    arranged.Pairwise (fun a b => mayPrecede metadata s.order a b = true) ∧
    tuples = (match s.window with
      | some w => w.apply arranged
      | none => arranged).map s.tuple

end Statement

end Meaning

end TermSearch.Sql
