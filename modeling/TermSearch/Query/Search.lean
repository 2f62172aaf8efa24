import TermSearch.Order
import TermSearch.Query.Evaluation
import TermSearch.Query.Plan

/-! Searching a list of records by evaluating a plan on each. Hits are ordered by title matches
first, then by rank, then newest first, then by identifier; a record without a time counts as
published at the start of 1970. A record may lack a text as long as no test looks at it. -/
namespace TermSearch.Query

/-- A matching record with its rank. -/
structure Hit where
  record : Draft
  rank : Int
  deriving DecidableEq, Repr, Inhabited

/-- Which records a search may return: those of some types, any type where none is named, and
protected ones only on demand. -/
structure Scope where
  types : List String := []
  includeProtected : Bool := false
  deriving DecidableEq, Repr, Inhabited

def Scope.admits (scope : Scope) (record : Draft) : Bool :=
  (scope.types.isEmpty || record.type.any scope.types.contains) &&
    (scope.includeProtected || !record.isProtected)

/-- Whether a record comes behind those whose title matches: there are title patterns, and none of
them matches. -/
def Plan.titleMisses (plan : Plan) (title : Option String) : Bool :=
  !plan.titlePatterns.isEmpty && !title.any fun t => plan.titlePatterns.any fun p => p.accepts t

/-- Fails on a hit without a title where titles are looked at. -/
def Plan.checkTitle (plan : Plan) (hit : Hit) : Except Fault Unit :=
  if hit.record.title.isNone && !plan.titlePatterns.isEmpty then .error .missingText else .ok ()

def Plan.hitKey (plan : Plan) (hit : Hit) : List Int :=
  [if plan.titleMisses hit.record.title then 1 else 0,
   -hit.rank,
   -((hit.record.published.map Calendar.CivilTime.instant).getD 0),
   hit.record.id.getD 0]

/-- The hit of a record, where the search may return it and it satisfies the plan. -/
def Plan.hit? (plan : Plan) (metaKeys : List String) (scope : Scope) (record : Draft) :
    Except Fault (Option Hit) := do
  if scope.admits record then
    if ← plan.predicate.eval metaKeys record then
      return some ⟨record, ← score metaKeys record plan.ranking⟩
    else return none
  else return none

def Plan.search (plan : Plan) (metaKeys : List String) (scope : Scope) (records : List Draft) :
    Except Fault (List Hit) := do
  let hits := (← records.mapM (plan.hit? metaKeys scope)).filterMap id
  hits.forM plan.checkTitle
  return sortByKey plan.hitKey hits

end TermSearch.Query
