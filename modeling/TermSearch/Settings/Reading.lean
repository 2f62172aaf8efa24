import TermSearch.Document.Value
import TermSearch.Settings.Basic
import TermSearch.Settings.Error
import TermSearch.Text.Case
import TermSearch.Text.Space

/-! Reading settings from a document. A single text stands for a list of one text; list items are
stripped, and blank or repeated ones are dropped where the setting is a set of names. -/
namespace TermSearch.Settings

open Document (Value)

abbrev Entries := List (Value × Value)

/-- The section under a key; an optional section that is missing is empty. -/
def sectionOf (root : Entries) (key : String) (required : Bool) : Except Error Entries :=
  match Value.get? key root with
  | none | some .null => if required then .error (.missing key) else .ok []
  | some (.mapping entries) => .ok entries
  | some _ => .error (.wrongKind key .object)

/-- A setting that has to be there. -/
def required (entries : Entries) (name key : String) : Except Error Value :=
  match Value.get? name entries with
  | some v => .ok v
  | none => .error (.missing key)

/-- A setting that may be missing. -/
def optional (entries : Entries) (name : String) (default : Value) : Value :=
  (Value.get? name entries).getD default

def expectText (key : String) : Value → Except Error String
  | .text s => .ok s
  | _ => .error (.wrongKind key .text)

def expectBool (key : String) : Value → Except Error Bool
  | .bool b => .ok b
  | _ => .error (.wrongKind key .boolean)

/-- An integer; a truth value is none. -/
def expectInt (key : String) : Value → Except Error Int
  | .int n => .ok n
  | _ => .error (.wrongKind key .integer)

/-- Items that have to be texts, the first of them at an index. -/
def expectItems (key : String) : Nat → List Value → Except Error (List String)
  | _, [] => .ok []
  | index, .text s :: rest => do return s :: (← expectItems key (index + 1) rest)
  | index, _ :: _ => .error (.itemNotText key index)

/-- A list of texts, or a single one. -/
def expectTexts (key : String) : Value → Except Error (List String)
  | .text s => .ok [s]
  | .list items => expectItems key 0 items
  | _ => .error (.wrongKind key .list)

/-- Entries with text keys and lists of texts. -/
def expectTextEntries (key : String) : Entries → Except Error (List (String × List String))
  | [] => .ok []
  | (.text name, v) :: rest => do
    let texts ← expectTexts (key ++ "." ++ name) v
    return (name, texts) :: (← expectTextEntries key rest)
  | _ :: _ => .error (.keysNotTexts key)

def expectTextLists (key : String) : Value → Except Error (List (String × List String))
  | .mapping entries => expectTextEntries key entries
  | _ => .error (.wrongKind key .object)

/-- Stripped texts without blank ones and repetitions, in order. -/
def cleanTexts (texts : List String) : List String :=
  texts.foldl (fun out s =>
    let s := Text.strip s
    if s.isEmpty || out.contains s then out else out ++ [s]) []

def expectNames (key : String) (v : Value) : Except Error (List String) :=
  cleanTexts <$> expectTexts key v

def readLog (root : Entries) : Except Error LogSettings := do
  let entries ← sectionOf root "log" true
  let level ← expectText "log.level" (← required entries "level" "log.level")
  let toFile ← expectBool "log.to_file" (← required entries "to_file" "log.to_file")
  let directory ← expectText "log.dir" (← required entries "dir" "log.dir")
  return ⟨Text.upper level, toFile, directory⟩

/-- Reads the settings of searches. Naming metadata keys turns the search of metadata on. -/
def readSearch (root : Entries) : Except Error SearchSettings := do
  let entries ← sectionOf root "search" true
  let metaKeys ← expectNames "search.meta_keys" (optional entries "meta_keys" (.list []))
  let targetMetadata ← expectBool "search.target_meta" (optional entries "target_meta" (.bool true))
  let expand ← expectBool "search.expand" (← required entries "expand" "search.expand")
  let exact ← expectBool "search.exact" (optional entries "exact" (.bool false))
  let marker ← expectText "search.exclusion_prefix" (optional entries "exclusion_prefix" (.text "-"))
  let types ← expectNames "search.target_types" (optional entries "target_types" (.list []))
  let includeProtected ← expectBool "search.include_protected"
    (optional entries "include_protected" (.bool false))
  let blankQuery ← expectBool "search.blank_query" (optional entries "blank_query" (.bool true))
  let maxResults ← expectInt "search.max_results"
    (← required entries "max_results" "search.max_results")
  return {
    expand := expand
    exact := exact
    marker := marker
    targetMetadata := targetMetadata || !metaKeys.isEmpty
    metaKeys := metaKeys
    types := types
    includeProtected := includeProtected
    blankQuery := blankQuery
    maxResults := some maxResults }

/-- Reads the settings of search pages. Of two slugs that differ in slashes around them only, the last
one counts. -/
def readPages (root : Entries) : Except Error PageSettings := do
  let entries ← sectionOf root "pages" false
  let slugs ← expectTextLists "pages.slugs" (optional entries "slugs" (.mapping []))
  let base ← expectText "pages.search_base" (optional entries "search_base" (.text Route.defaultBase))
  let allowSlash ← expectBool "pages.allow_slash" (optional entries "allow_slash" (.bool true))
  let customPage ← expectBool "pages.custom_page" (optional entries "custom_page" (.bool false))
  return {
    base := Text.stripSlashes base
    allowSlash := allowSlash
    customPage := customPage
    slugs := Assoc.ofPairs (slugs.map fun p => (Text.stripSlashes p.1, p.2)) }

def readStorage (root : Entries) : Except Error String := do
  let entries ← sectionOf root "storage" true
  expectText "storage.db_path" (← required entries "db_path" "storage.db_path")

def readOutput (root : Entries) : Except Error OutputSettings := do
  let entries ← sectionOf root "output" true
  let formats ← expectTexts "output.formats" (← required entries "formats" "output.formats")
  let directory ← expectText "output.base_dir" (optional entries "base_dir" (.text "output"))
  let showSql ← expectBool "output.show_sql" (optional entries "show_sql" (.bool true))
  return ⟨directory, formats.map fun s => Text.lower (Text.strip s), showSql⟩

def readAll (root : Entries) : Except Error AllSettings := do
  let log ← readLog root
  let search ← readSearch root
  let pages ← readPages root
  let databasePath ← readStorage root
  let output ← readOutput root
  return ⟨log, search, pages, databasePath, output⟩

end TermSearch.Settings
