import TermSearch.Settings.Reading
import TermSearch.Text.Split

/-! Checks of settings. Every section is checked by itself before the sections are compared. -/
namespace TermSearch.Settings

/-- Whether a character may start a segment of an address. -/
def isSegmentStart (c : Char) : Bool := c.isLower || c.isDigit

/-- Whether a character may stand in a segment of an address. -/
def isSegmentChar (c : Char) : Bool := isSegmentStart c || c == '_' || c == '-'

/-- Whether a text is one segment of an address. -/
def isSegment : List Char → Bool
  | [] => false
  | c :: rest => isSegmentStart c && rest.all isSegmentChar

/-- Whether a text is made of segments with single slashes between them. -/
def isAddress (s : List Char) : Bool := (Text.splitWhen (· == '/') s).all isSegment

/-- Whether an address is accepted; one line end behind it does no harm. -/
def acceptsAddress (s : String) : Bool :=
  isAddress s.toList || (s.toList.getLast? == some '\n' && isAddress s.toList.dropLast)

/-- Texts in order of their characters, without repetitions. -/
def sortedTexts (texts : List String) : List String :=
  texts.eraseDups.mergeSort fun a b => !(decide (b < a))

/-- Fails unless a condition holds. -/
def require (condition : Bool) (error : Error) : Except Error Unit :=
  if condition then .ok () else .error error

def LogSettings.check (s : LogSettings) : Except Error Unit := do
  require (levelNames.contains s.level) .unknownLevel
  require (!s.toFile || !(Text.strip s.directory).isEmpty) .noLogDirectory

def SearchSettings.check (s : SearchSettings) : Except Error Unit := do
  require (s.maxResults.all (0 < ·)) .noResults
  require (s.marker.length ≤ 1) .longMarker
  require (Text.strip s.marker == s.marker) .blankMarker

def checkSlugs : List (String × List String) → Except Error Unit
  | [] => .ok ()
  | (slug, types) :: rest => do
    require (acceptsAddress slug) (.badSlug slug)
    require (!types.isEmpty) (.slugWithoutTypes slug)
    checkSlugs rest

def PageSettings.check (s : PageSettings) : Except Error Unit := do
  require (acceptsAddress s.base) (.badBase s.base)
  checkSlugs s.slugs

def knownFormats : List String := [consoleFormat, jsonFormat]

def OutputSettings.check (s : OutputSettings) : Except Error Unit := do
  require (!s.formats.isEmpty) .noFormat
  let unknown := s.formats.filter fun f => !knownFormats.contains f
  require unknown.isEmpty (.unknownFormats (sortedTexts unknown))

/-- Checks the sections against each other. -/
def AllSettings.checkTogether (s : AllSettings) : Except Error Unit := do
  require (!(s.output.formats.contains jsonFormat && (Text.strip s.output.directory).isEmpty))
    .noOutputDirectory
  let outside := (s.pages.slugs.flatMap Prod.snd).filter fun t =>
    !s.search.types.isEmpty && !s.search.types.contains t
  require outside.isEmpty (.typesNotTargeted (sortedTexts outside))

def AllSettings.check (s : AllSettings) : Except Error Unit := do
  s.log.check
  s.search.check
  s.pages.check
  require (!(Text.strip s.databasePath).isEmpty) .noDatabasePath
  s.output.check
  s.checkTogether

/-- The settings of a document: every section is read before any check. -/
def ofEntries (root : Entries) : Except Error AllSettings := do
  let settings ← readAll root
  settings.check
  return settings

end TermSearch.Settings
