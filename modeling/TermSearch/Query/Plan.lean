import TermSearch.Log.Output
import TermSearch.Query.Expansion
import TermSearch.Query.Predicate
import TermSearch.Query.Term
import TermSearch.Text.Blank

/-! Compiling a query into a search plan. Every usable term is one group, and a record has to satisfy
every group. Without expansion a term matches where any field contains it, and an excluded term where
no field does. With expansion a term is cut into sub-terms, each with its patterns, and matches where
any field matches any of them; excluded terms stay literal. -/
namespace TermSearch.Query

/-- How terms are matched. With `exact` a term must equal a whole field; with `expand` that holds for
sub-terms that are not expanded, and never for excluded terms. -/
structure Options where
  exact : Switch := .off
  expand : Switch := .off
  marker : String := defaultMarker
  deriving DecidableEq, Repr

/-- The compiled form of a query. -/
structure Plan where
  predicate : Predicate
  /-- The tests whose number of successes is the rank of a record, where records are ranked. -/
  ranking : Option (List Test)
  /-- The patterns that bring a record to the front where its title matches one of them. -/
  titlePatterns : List Pattern
  deriving Inhabited

namespace Plan

/-- The groups of a plan, one for each usable term. -/
def groups (plan : Plan) : List Predicate :=
  match plan.predicate with
  | .all children => children
  | _ => []

def isEmpty (plan : Plan) : Bool := plan.groups.isEmpty

end Plan

/-- Some field matches some pattern. -/
def anyField (fields : FieldSet) (patterns : List Pattern) : Predicate :=
  .any (patterns.flatMap fun p => fields.fields.map fun f => .test ⟨.known f, p⟩)

/-- No field matches a pattern. -/
def noField (fields : FieldSet) (p : Pattern) : Predicate :=
  .all (fields.fields.map fun f => .not (.test ⟨.known f, p⟩))

/-- The pattern of a term that is not expanded. -/
def literalPattern (exact : Switch) (text : String) : Pattern :=
  if exact.isOn then .whole text else .inOrder [text] (exact == .unset)

def literalGroup (fields : FieldSet) (exact : Switch) (term : Term) : Predicate :=
  if term.excluded then noField fields (.containing term.text)
  else anyField fields [literalPattern exact term.text]

/-- The patterns of a sub-term. -/
def subtermPatterns (exact : Bool) (subterm : String) : List Pattern :=
  if exact && !isExpandable subterm then [.whole subterm] else expand subterm

/-- The group of a term with expansion, if the term has a sub-term at all. -/
def expandedGroup? (fields : FieldSet) (exact : Bool) (term : Term) : Option Predicate :=
  if term.excluded then some (noField fields (.containing term.text))
  else
    match (Text.subterms term.text).map fun s => anyField fields (subtermPatterns exact s) with
    | [] => none
    | [group] => some group
    | groups => some (.any groups)

def group? (fields : FieldSet) (options : Options) (term : Term) : Option Predicate :=
  if options.expand.isOn then expandedGroup? fields options.exact.isOn term
  else some (literalGroup fields options.exact term)

/-- The pattern by which a term brings a title to the front. -/
def titlePattern? (options : Options) (term : Term) : Option Pattern :=
  if options.expand.isOn || options.exact.isOn || term.excluded then none
  else some (.containing term.text)

def planOf (fields : FieldSet) (options : Options) (terms : List Term) : Except Fault Plan := do
  let predicate : Predicate := .all (terms.filterMap (group? fields options))
  let ranking ← if options.expand.isOn then some <$> predicate.rankingTests else pure none
  return {
    predicate := predicate
    ranking := ranking
    titlePatterns := terms.filterMap (titlePattern? options) }

def compile (fields : FieldSet) (options : Options) (tokens : List String) : Except Fault Plan :=
  planOf fields options (termsOf options.marker tokens)

/-- What the compiler reports about a plan. -/
def trace (fields : FieldSet) (options : Options) (terms : List Term) (plan : Plan) :
    List Log.Entry :=
  let dropped := terms.filter fun t => (group? fields options t).isNone
  let leaves := match plan.ranking with
    | some tests => toString tests.length
    | none => "-"
  dropped.map (fun t => Log.debug ("Dropped term with no sub-terms: " ++ Text.quoted t.text)) ++
    [Log.debug ("Built predicate: terms=" ++ toString terms.length ++ " groups=" ++
      toString plan.groups.length ++ " expand=" ++ options.expand.text ++ " exact=" ++
      options.exact.text ++ " ranking_leaves=" ++ leaves)]

end TermSearch.Query
