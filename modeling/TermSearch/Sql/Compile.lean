import TermSearch.Query.Plan
import TermSearch.Query.Search
import TermSearch.Sql.Select

/-! Compiling search plans into select statements. A test on a text of the record becomes a `LIKE` in
parentheses, a test on metadata an `EXISTS`, so that a record with several metadata rows is found
once. Segments are escaped, so that percent signs and underscores of a query match themselves. -/
namespace TermSearch.Sql

open Query (Field FieldSet Test Predicate Pattern Plan Scope Fault)

/-- The column of a field that is a text of the record. -/
def columnOf? : Field → Option Column
  | .title => some .title
  | .excerpt => some .excerpt
  | .body => some .body
  | .metadata => none

def likeOperand : Pattern → String
  | .whole text => escape text
  | .inOrder [] _ => "%"
  | .inOrder segments _ => "%" ++ "%".intercalate (segments.map escape) ++ "%"

def ofTest (metaKeys : List String) (t : Test) : Except Fault Expr :=
  match t.field with
  | .unknown name => .error (.noSuchColumn name)
  | .known field =>
    match columnOf? field with
    | some column => .ok (.group (.like column (likeOperand t.pattern)))
    | none => .ok (.metaLike metaKeys (likeOperand t.pattern))

mutual

def ofPredicate (metaKeys : List String) : Predicate → Except Fault Expr
  | .test t => ofTest metaKeys t
  | .not child => do return .not (← ofPredicate metaKeys child)
  | .all children => do
    let es ← ofPredicates metaKeys children
    return if es.isEmpty then .number 1 else .group (.conj es)
  | .any children => do
    let es ← ofPredicates metaKeys children
    return if es.isEmpty then .number 0 else .group (.disj es)
  | .foreign typeName => .error (.foreignNode typeName)

def ofPredicates (metaKeys : List String) : List Predicate → Except Fault (List Expr)
  | [] => .ok []
  | child :: rest => do
    let e ← ofPredicate metaKeys child
    let es ← ofPredicates metaKeys rest
    return e :: es

end

/-- The expression that counts the ranking tests a record passes. -/
def ofRanking (metaKeys : List String) : Option (List Test) → Except Fault Expr
  | none => .ok (.number 0)
  | some tests => do
    let es ← tests.mapM (ofTest metaKeys)
    return if es.isEmpty then .number 0 else .group (.sum es)

def ofPlan (plan : Plan) (metaKeys : List String) (scope : Scope) (window : Option Window) :
    Except Fault Select := do
  let matchCount ← ofRanking metaKeys plan.ranking
  let condition ← ofPredicate metaKeys plan.predicate
  return {
    matchCount := matchCount
    conditions := [condition] ++
      (if scope.types.isEmpty then [] else [.among .type scope.types]) ++
      (if scope.includeProtected then [] else [.isEmptyText .password])
    titleFirst := plan.titlePatterns.map likeOperand
    byMatchCount := plan.ranking.isSome
    window := window }

end TermSearch.Sql
