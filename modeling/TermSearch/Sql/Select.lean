import TermSearch.Order
import TermSearch.Sql.Expr

/-! Select statements over the record tables: which records, with which count of matches, in which
order and from which place on. A missing time sorts below every time. -/
namespace TermSearch.Sql

/-- A part of the result: at most so many rows behind so many others. A negative limit is none, and a
negative offset is zero. -/
structure Window where
  limit : Param
  offset : Param
  deriving DecidableEq, Repr, Inhabited

namespace Window

/-- The limit and the offset as numbers, which they have to be. Where no rows are shown the offset does not
count. -/
def counts? (w : Window) : Option (Int × Int) := do
  let limit ← w.limit.count?
  if limit = 0 then return (0, 0)
  return (limit, ← w.offset.count?)

/-- The part of a list that lies between a limit and an offset. -/
def between {α : Type} (limit offset : Int) (xs : List α) : List α :=
  let rest := xs.drop offset.toNat
  if limit < 0 then rest else rest.take limit.toNat

/-- The part of a list that a window shows. -/
def apply {α : Type} (w : Window) (xs : List α) : List α :=
  match w.counts? with
  | some (limit, offset) => between limit offset xs
  | none => []

theorem apply_int {α : Type} (limit offset : Int) (xs : List α) :
    apply ⟨.int limit, .int offset⟩ xs = between limit offset xs := by
  by_cases h : limit = 0
  · subst h
    simp [apply, counts?, Param.count?, between]
  · simp [apply, counts?, Param.count?, h]

end Window

structure Select where
  matchCount : Expr
  conditions : List Expr
  /-- Operands of which a title has to match one to come first. -/
  titleFirst : List String
  /-- Whether rows are ordered by their match count. -/
  byMatchCount : Bool
  window : Option Window
  deriving Inhabited

structure ResultRow where
  row : RecordRow
  matchCount : Int
  deriving DecidableEq, Repr, Inhabited

namespace Select

def columnsText : String :=
  "r.id, r.type, r.title, r.excerpt, r.body, r.password, r.published_at"

def orderTexts (q : Select) : List String :=
  (if q.titleFirst.isEmpty then []
    else
      let tests := " OR ".intercalate (q.titleFirst.map fun _ => "r.title LIKE ? ESCAPE '\\'")
      ["CASE WHEN " ++ tests ++ " THEN 0 ELSE 1 END"]) ++
    (if q.byMatchCount then ["match_count DESC"] else []) ++ ["r.published_at DESC", "r.id"]

def text (q : Select) : String :=
  "SELECT " ++ columnsText ++ ", " ++ q.matchCount.text ++ " AS match_count FROM records r WHERE " ++
    Expr.textJoin " AND " q.conditions ++ " ORDER BY " ++ ", ".intercalate q.orderTexts ++
    (if q.window.isSome then " LIMIT ? OFFSET ?" else "")

/-- The parameters of a statement in the order of their placeholders. -/
def params (q : Select) : List Param :=
  q.matchCount.params ++ Expr.paramsOfAll q.conditions ++ q.titleFirst.map .text ++
    (match q.window with
      | some w => [w.limit, w.offset]
      | none => [])

/-- Orders times from the last to the first, and rows without a time behind them. -/
def timeKey : Option Int → List Int
  | some seconds => [0, -seconds]
  | none => [1, 0]

def rowKey (q : Select) (r : ResultRow) : List Int :=
  (if q.titleFirst.isEmpty then []
    else [if q.titleFirst.any fun operand => like operand r.row.title then 0 else 1]) ++
    (if q.byMatchCount then [-r.matchCount] else []) ++ timeKey r.row.published ++ [r.row.id]

/-- The rows that satisfy every condition, with their match counts, ordered. A key ends with the identifier of its row,
so that it leaves rows no choice of places. -/
def matching (q : Select) (metadata : List MetaRow) (records : List RecordRow) : List ResultRow :=
  sortByKey q.rowKey
    ((records.filter fun row => Expr.allNonzero metadata row q.conditions).map fun row =>
      ⟨row, q.matchCount.value metadata row⟩)

/-- The result of a statement on tables. -/
def run (q : Select) (metadata : List MetaRow) (records : List RecordRow) : List ResultRow :=
  let rows := q.matching metadata records
  match q.window with
  | some w => w.apply rows
  | none => rows

end Select

end TermSearch.Sql
