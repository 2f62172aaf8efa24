import TermSearch.Text.Quoted

/-! Faults of a configuration. -/
namespace TermSearch.Settings

inductive Expected
  | object | text | boolean | integer | list
  deriving DecidableEq, Repr

def Expected.wording : Expected → String
  | object => "an object"
  | text => "a string"
  | boolean => "a boolean"
  | integer => "an integer"
  | list => "a list"

inductive Error
  | wrongKind (key : String) (expected : Expected)
  | itemNotText (key : String) (index : Nat)
  | keysNotTexts (key : String)
  | rootNotObject
  | missing (key : String)
  | unknownLevel
  | noLogDirectory
  | noResults
  | longMarker
  | blankMarker
  | badBase (base : String)
  | badSlug (slug : String)
  | slugWithoutTypes (slug : String)
  | noDatabasePath
  | noFormat
  | unknownFormats (names : List String)
  | noOutputDirectory
  | typesNotTargeted (types : List String)
  deriving DecidableEq, Repr

/-- The levels a log may have, in alphabetical order. -/
def levelNames : List String := ["CRITICAL", "DEBUG", "ERROR", "INFO", "WARNING"]

namespace Error

/-- Whether a setting has the wrong kind of value, rather than a wrong value of the right kind. -/
def isWrongKind : Error → Bool
  | wrongKind .. => true
  | itemNotText .. => true
  | keysNotTexts .. => true
  | _ => false

def message : Error → String
  | wrongKind key expected => key ++ " must be " ++ expected.wording
  | itemNotText key index => key ++ "[" ++ toString index ++ "] must be a string"
  | keysNotTexts key => key ++ " keys must be strings"
  | rootNotObject => "Config root must be a mapping/object"
  | missing key => "Missing required config: " ++ key
  | unknownLevel => "log.level must be one of " ++ Text.quotedList levelNames
  | noLogDirectory => "log.dir must not be empty when log.to_file=true"
  | noResults => "search.max_results must be positive"
  | longMarker => "search.exclusion_prefix must be a single character or empty"
  | blankMarker => "search.exclusion_prefix must not be whitespace"
  | badBase base => "pages.search_base is not a valid path segment: " ++ Text.quoted base
  | badSlug slug => "pages.slugs has invalid slug: " ++ Text.quoted slug
  | slugWithoutTypes slug => "pages.slugs." ++ slug ++ " must list at least one content type"
  | noDatabasePath => "storage.db_path must not be empty"
  | noFormat => "output.formats must include at least one format"
  | unknownFormats names => "output.formats has unknown formats: " ++ Text.quotedList names
  | noOutputDirectory => "output.formats includes json but output.base_dir is empty"
  | typesNotTargeted types =>
    "pages.slugs uses types outside search.target_types: " ++ Text.quotedList types

end Error

end TermSearch.Settings
