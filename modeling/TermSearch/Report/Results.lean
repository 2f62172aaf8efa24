import TermSearch.Document.Json.Printer
import TermSearch.File.Path
import TermSearch.Report.Hits
import TermSearch.Settings.Basic

/-! Writing the results of searches: to the log, search by search, and to one JSON file for all of
them. -/
namespace TermSearch.Report

open Document (Value)
open Settings (OutputSettings consoleFormat jsonFormat)

structure SearchResult where
  tokens : List String
  rows : List Row

structure OutputFile where
  path : File.Path
  text : String
  deriving DecidableEq, Repr

/-- Output settings without a format that is known. -/
structure NoFormat where
  deriving DecidableEq, Repr

def NoFormat.message (_ : NoFormat) : String := "No output writers configured"

/-- Refuses settings without a format that is known. -/
def checkFormats (s : OutputSettings) : Except NoFormat Unit :=
  if s.formats.contains consoleFormat || s.formats.contains jsonFormat then .ok () else .error {}

def tokensText (tokens : List String) : String :=
  let joined := " ".intercalate tokens
  if joined.isEmpty then "(blank)" else joined

/-- A result in the log, a line an entry. -/
def resultEntries (r : SearchResult) : List Log.Entry :=
  Log.info ("query=" ++ tokensText r.tokens) :: (Text.lines (rowsText r.rows)).map Log.info

def resultDocument (r : SearchResult) : Value :=
  .mapping [
    (.text "query", .list (r.tokens.map .text)),
    (.text "records", .list (r.rows.map rowDocument))]

/-- What is logged of results as they come in. -/
def entriesOf (s : OutputSettings) (results : List SearchResult) : List Log.Entry :=
  if s.formats.contains consoleFormat then results.flatMap resultEntries else []

def fileDirectory (s : OutputSettings) : File.Path := (File.Path.ofText s.directory).child "json"

/-- The file with results, where one is written. -/
def fileOf? (s : OutputSettings) (action stamp : String) (results : List SearchResult) :
    Option OutputFile :=
  if s.formats.contains jsonFormat then
    some {
      path := (fileDirectory s).child (action ++ "_" ++ stamp ++ ".json")
      text := Document.Json.pretty (.list (results.map resultDocument)) }
  else none

/-- The report of a file that was written. -/
def savedEntry (f : OutputFile) : Log.Entry := Log.info ("JSON saved to " ++ f.path.text)

/-- What is logged and which files are written for the results of an action. -/
def writeResults (s : OutputSettings) (action stamp : String) (results : List SearchResult) :
    Except NoFormat (List Log.Entry × List OutputFile) := do
  checkFormats s
  let files := (fileOf? s action stamp results).toList
  return (entriesOf s results ++ files.map savedEntry, files)

end TermSearch.Report
