import TermSearch.Query.Plan
import TermSearch.Query.Search
import TermSearch.Route.Pages
import TermSearch.Route.Request

/-! Settings of the search program: logging, matching, search pages, storage and output. -/
namespace TermSearch.Settings

structure LogSettings where
  level : String
  toFile : Bool
  directory : String
  deriving DecidableEq, Repr, Inhabited

/-- How queries are matched and which records they may find. -/
structure SearchSettings where
  expand : Bool := false
  exact : Bool := false
  marker : String := Query.defaultMarker
  targetMetadata : Bool := false
  metaKeys : List String := []
  types : List String := []
  includeProtected : Bool := false
  blankQuery : Bool := true
  /-- The greatest number of results, where there is one. -/
  maxResults : Option Int := some 20
  deriving DecidableEq, Repr, Inhabited

namespace SearchSettings

def fields (s : SearchSettings) : Query.FieldSet := .standard s.targetMetadata s.metaKeys

def options (s : SearchSettings) : Query.Options := ⟨.ofBool s.exact, .ofBool s.expand, s.marker⟩

/-- The records a search for some types may find; without types the configured ones count. -/
def scope (s : SearchSettings) (types : List String) : Query.Scope :=
  ⟨if types.isEmpty then s.types else types, s.includeProtected⟩

end SearchSettings

structure PageSettings where
  base : String
  allowSlash : Bool
  customPage : Bool
  slugs : List (String × List String)
  deriving DecidableEq, Repr, Inhabited

namespace PageSettings

def requestSettings (s : PageSettings) : Route.RequestSettings := ⟨s.customPage, s.allowSlash⟩

def pages (s : PageSettings) : Route.Pages := .ofSlugs s.slugs

end PageSettings

structure OutputSettings where
  directory : String
  formats : List String
  showSql : Bool
  deriving DecidableEq, Repr, Inhabited

/-- The output format that writes results to the log. -/
def consoleFormat : String := "console"

/-- The output format that writes results to a file. -/
def jsonFormat : String := "json"

structure AllSettings where
  log : LogSettings
  search : SearchSettings
  pages : PageSettings
  databasePath : String
  output : OutputSettings
  deriving DecidableEq, Repr, Inhabited

end TermSearch.Settings
