import TermSearch.Sql.Like
import TermSearch.Text.Integer
import TermSearch.Text.Space

/-! Expressions over the tables `records r` and `record_meta m`. A parameter stands in the tree where
its placeholder stands in the text; the text shows the placeholder only. A group is what stands
between parentheses, so that the tree and the text have the same shape. -/
namespace TermSearch.Sql

inductive Column
  | type | title | excerpt | body | password
  deriving DecidableEq, Repr

def Column.text : Column → String
  | type => "r.type"
  | title => "r.title"
  | excerpt => "r.excerpt"
  | body => "r.body"
  | password => "r.password"

structure RecordRow where
  id : Int
  type : String
  title : String
  excerpt : String
  body : String
  password : String
  published : Option Int
  deriving DecidableEq, Repr, Inhabited

structure MetaRow where
  recordId : Int
  key : String
  value : String
  deriving DecidableEq, Repr, Inhabited

def RecordRow.get (row : RecordRow) : Column → String
  | .type => row.type
  | .title => row.title
  | .excerpt => row.excerpt
  | .body => row.body
  | .password => row.password

inductive Param
  | text (s : String)
  | int (n : Int)
  | bool (b : Bool)
  | null
  deriving DecidableEq, Repr, Inhabited

/-- The number that a bound value counts as. A truth value is one or zero. A text has to be a numeral; white
space around it does not matter. -/
def Param.count? : Param → Option Int
  | text s =>
    let (negative, digits) := Text.takeSign (Text.stripChars Char.isWhitespace s.toList)
    if digits.isEmpty || !digits.all Char.isDigit then none
    else
      let n : Int := digits.foldl (fun n d => n * 10 + (d.toNat - 48)) 0
      some (if negative then -n else n)
  | int n => some n
  | bool b => some (if b then 1 else 0)
  | null => none

inductive Expr
  | number (n : Nat)
  | like (column : Column) (operand : String)
  | metaLike (keys : List String) (operand : String)
  | among (column : Column) (options : List String)
  | isEmptyText (column : Column)
  | not (e : Expr)
  | conj (es : List Expr)
  | disj (es : List Expr)
  | sum (es : List Expr)
  | group (e : Expr)
  deriving Inhabited

/-- Placeholders with commas between them. -/
def placeholders (count : Nat) : String := ", ".intercalate (List.replicate count "?")

/-- The text of a metadata test with the given number of keys. -/
def metaLikeText (keyCount : Nat) : String :=
  "EXISTS (SELECT 1 FROM record_meta m WHERE m.record_id = r.id" ++
    (if keyCount = 0 then "" else " AND m.meta_key IN (" ++ placeholders keyCount ++ ")") ++
    " AND m.meta_value LIKE ? ESCAPE '\\')"

namespace Expr

mutual

def text : Expr → String
  | number n => toString n
  | like column _ => column.text ++ " LIKE ? ESCAPE '\\'"
  | metaLike keys _ => metaLikeText keys.length
  | among column options => column.text ++ " IN (" ++ placeholders options.length ++ ")"
  | isEmptyText column => column.text ++ " = ''"
  | not e => "NOT " ++ text e
  | conj es => textJoin " AND " es
  | disj es => textJoin " OR " es
  | sum es => textJoin " + " es
  | group e => "(" ++ text e ++ ")"

/-- The texts of several expressions with an operator between them. -/
def textJoin (operator : String) : List Expr → String
  | [] => ""
  | [e] => text e
  | e :: next :: rest => text e ++ operator ++ textJoin operator (next :: rest)

end

mutual

/-- The parameters of an expression in the order of their placeholders. -/
def params : Expr → List Param
  | number _ => []
  | like _ operand => [.text operand]
  | metaLike keys operand => keys.map .text ++ [.text operand]
  | among _ options => options.map .text
  | isEmptyText _ => []
  | not e => params e
  | conj es => paramsOfAll es
  | disj es => paramsOfAll es
  | sum es => paramsOfAll es
  | group e => params e

def paramsOfAll : List Expr → List Param
  | [] => []
  | e :: rest => params e ++ paramsOfAll rest

end

def ofBool (b : Bool) : Int := if b then 1 else 0

mutual

/-- The value of an expression for a record row and the metadata table. -/
def value (metadata : List MetaRow) (row : RecordRow) : Expr → Int
  | number n => n
  | like column operand => ofBool (Sql.like operand (row.get column))
  | metaLike keys operand => ofBool (metadata.any fun m =>
      m.recordId == row.id && (keys.isEmpty || keys.contains m.key) && Sql.like operand m.value)
  | among column options => ofBool (options.contains (row.get column))
  | isEmptyText column => ofBool ((row.get column).isEmpty)
  | not e => ofBool (value metadata row e == 0)
  | conj es => ofBool (allNonzero metadata row es)
  | disj es => ofBool (anyNonzero metadata row es)
  | sum es => total metadata row es
  | group e => value metadata row e

def allNonzero (metadata : List MetaRow) (row : RecordRow) : List Expr → Bool
  | [] => true
  | e :: rest => value metadata row e != 0 && allNonzero metadata row rest

def anyNonzero (metadata : List MetaRow) (row : RecordRow) : List Expr → Bool
  | [] => false
  | e :: rest => value metadata row e != 0 || anyNonzero metadata row rest

def total (metadata : List MetaRow) (row : RecordRow) : List Expr → Int
  | [] => 0
  | e :: rest => value metadata row e + total metadata row rest

end

def isTrue (metadata : List MetaRow) (row : RecordRow) (e : Expr) : Bool :=
  value metadata row e != 0

end Expr

end TermSearch.Sql
