import TermSearch.Assoc
import TermSearch.Route.PercentCode
import TermSearch.Text.Space

/-! Search pages: slugs with the record types they show, the routing rules of a web host for them, and
the path to which a query is redirected. -/
namespace TermSearch.Route

/-- Search pages in order of registration. -/
structure Pages where
  slugs : List (String × List String)
  deriving DecidableEq, Repr

/-- The types that a page is registered with: a single one, or several. -/
inductive PageTypes
  | one (type : String)
  | several (types : List String)
  deriving DecidableEq, Repr

def PageTypes.toList : PageTypes → List String
  | one type => [type]
  | several types => types

/-- The address segment of search pages unless another one is chosen. -/
def defaultBase : String := "search"

namespace Pages

def empty : Pages := ⟨[]⟩

/-- Registers types under a slug; slashes around the slug do not count, and types of a slug that is
there already are joined. -/
def add (pages : Pages) (slug : String) (types : List String) : Pages :=
  ⟨Assoc.update (Text.stripSlashes slug) [] (· ++ types) pages.slugs⟩

/-- Registers a page with its types as they are written. -/
def register (pages : Pages) (slug : String) (types : PageTypes) : Pages := pages.add slug types.toList

/-- The pages of a list of slugs with their types. -/
def ofSlugs (slugs : List (String × List String)) : Pages :=
  slugs.foldl (fun pages p => pages.add p.1 p.2) empty

/-- The first slug that shows one of some types. -/
def slugFor? (pages : Pages) (types : List String) : Option String :=
  (pages.slugs.find? fun p => types.any p.2.contains).map Prod.fst

/-- The first slug that shows one of some types, or the empty text. -/
def slugFor (pages : Pages) (types : List String) : String := (pages.slugFor? types).getD ""

/-- A routing rule: the pattern of a path and the request it becomes. -/
abbrev RoutingRule := String × String

/-- The rules of one slug: with a query, and without one. -/
def slugRules (base : String) (slug : String) (types : List String) : List RoutingRule :=
  let joined := ",".intercalate types
  [(slug ++ "/" ++ base ++ "/(.+)/?$", "index.php?post_type=" ++ joined ++ "&s=$matches[1]"),
   (slug ++ "/" ++ base ++ "/?$", "index.php?post_type=" ++ joined ++ "&s=")]

/-- The routing rules in order; of two rules with one pattern the first place and the last request
count. -/
def routingRules (pages : Pages) (base : String) (blankQuery : Bool) : List RoutingRule :=
  Assoc.ofPairs
    ((if blankQuery then [(base ++ "/?$", "index.php?s=")] else []) ++
      pages.slugs.flatMap fun p => slugRules base p.1 p.2)

/-- The path for a query: on the page of the first slug that shows one of the types, or on the plain
search page. -/
def redirectPath (pages : Pages) (base : String) (allowSlash : Bool) (query : String)
    (types : List String) : String :=
  let slug := pages.slugFor types
  (if slug.isEmpty then "/" else "/" ++ slug ++ "/") ++ base ++ "/" ++ encodeQuery allowSlash query

end Pages

end TermSearch.Route
