import TermSearch.Document.Value
import TermSearch.Settings.Checks

/-! Settings written as a configuration. Sections and settings have the names under which they are read. -/
namespace TermSearch.Settings

open Document (Value)

def mappingOf (entries : List (String × Value)) : Value :=
  .mapping (entries.map fun (k, v) => (.text k, v))

/-- The configuration that other configurations are layered over. -/
def defaultEntries : List (Value × Value) := [
  (.text "log", mappingOf [
    ("level", .text "INFO"), ("to_file", .bool false), ("dir", .text "log")]),
  (.text "search", mappingOf [
    ("expand", .bool false), ("exact", .bool false), ("exclusion_prefix", .text "-"),
    ("target_meta", .bool true), ("meta_keys", .list []), ("target_types", .list []),
    ("include_protected", .bool false), ("blank_query", .bool true), ("max_results", .int 20)]),
  (.text "pages", mappingOf [
    ("search_base", .text "search"), ("allow_slash", .bool true), ("custom_page", .bool false),
    ("slugs", .mapping [])]),
  (.text "storage", mappingOf [("db_path", .text "database/records.db")]),
  (.text "output", mappingOf [
    ("base_dir", .text "output"), ("formats", .list [.text "console"]),
    ("show_sql", .bool true)])]
def textsDocument (texts : List String) : Value := .list (texts.map .text)

def LogSettings.document (s : LogSettings) : Value :=
  mappingOf [("level", .text s.level), ("to_file", .bool s.toFile), ("dir", .text s.directory)]

def SearchSettings.document (s : SearchSettings) : Value :=
  mappingOf [
    ("expand", .bool s.expand), ("exact", .bool s.exact), ("exclusion_prefix", .text s.marker),
    ("target_meta", .bool s.targetMetadata), ("meta_keys", textsDocument s.metaKeys),
    ("target_types", textsDocument s.types), ("include_protected", .bool s.includeProtected),
    ("blank_query", .bool s.blankQuery),
    ("max_results", (s.maxResults.map Value.int).getD .null)]

def PageSettings.document (s : PageSettings) : Value :=
  mappingOf [
    ("search_base", .text s.base), ("allow_slash", .bool s.allowSlash),
    ("custom_page", .bool s.customPage),
    ("slugs", mappingOf (s.slugs.map fun (slug, types) => (slug, textsDocument types)))]

def OutputSettings.document (s : OutputSettings) : Value :=
  mappingOf [
    ("base_dir", .text s.directory), ("formats", textsDocument s.formats),
    ("show_sql", .bool s.showSql)]

def AllSettings.entries (s : AllSettings) : Entries := [
  (.text "log", s.log.document), (.text "search", s.search.document),
  (.text "pages", s.pages.document),
  (.text "storage", mappingOf [("db_path", .text s.databasePath)]),
  (.text "output", s.output.document)]

example : (readAll defaultEntries).toOption.map (fun s => decide ((readAll s.entries).toOption = some s)) =
    some true := by decide +kernel

end TermSearch.Settings
