import TermSearch.Document.Json.Printer
import TermSearch.Report.Predicate
import TermSearch.Service.Search
import TermSearch.Settings.Basic

/-! A compiled query as it is shown: its predicate, the size of its ranking, the patterns of titles that
come first, and its statement where that is asked for; and the routes of the search pages. -/
namespace TermSearch.Report

open Document (Value)
open Query (Plan Fault)

def paramsText (params : List Sql.Param) : String :=
  "[" ++ ", ".intercalate (params.map Service.paramText) ++ "]"

def paramDocument : Sql.Param → Value
  | .text s => .text s
  | .int n => .int n
  | .bool b => .bool b
  | .null => .null

/-- The entries of a statement in a document: its text and its parameters. -/
def statementEntries (text : String) (params : List Sql.Param) : List (Value × Value) := [
  (.text "sql", .text text), (.text "params", .list (params.map paramDocument))]

/-- The lines of a plan, with its statement if one is given. -/
def planLines (plan : Plan) (statement : Option Sql.Select) : Except Fault (List String) := do
  let predicate ← predicateText 0 plan.predicate
  return [Text.stripEnd (· == '\n') predicate] ++
    (match plan.ranking with
      | some tests => ["ranking: " ++ toString tests.length ++ " leaves"]
      | none => []) ++
    (if plan.titlePatterns.isEmpty then []
      else ["title priority: " ++ ", ".intercalate (plan.titlePatterns.map Query.Pattern.text)]) ++
    (match statement with
      | some q => ["sql: " ++ q.text, "params: " ++ paramsText q.params]
      | none => [])

/-- A plan as one JSON text, with its statement if one is given. -/
def planJson (plan : Plan) (statement : Option Sql.Select) : Except Fault String := do
  let entries ← planDocument plan
  let more := match statement with
    | some q => statementEntries q.text q.params
    | none => []
  return Document.Json.pretty (.mapping (entries ++ more))

/-- A question about the routes: what a request asks for, the path of a query, or all routing rules. -/
inductive RouteQuestion
  | request (text : String)
  | query (text : String) (types : List String)
  | rules
  deriving DecidableEq, Repr

/-- The question that a request, a query and types ask; a request goes first. -/
def RouteQuestion.of (request query : Option String) (types : List String) : RouteQuestion :=
  match request, query with
  | some text, _ => .request text
  | none, some text => .query text types
  | none, none => .rules

def routeLines (s : Settings.PageSettings) (blankQuery : Bool) : RouteQuestion → List String
  | .request text =>
    (Route.resolve s.requestSettings (Route.parseRequest text)).map fun (key, value) =>
      key ++ "=" ++ value
  | .query text types => [s.pages.redirectPath s.base s.allowSlash text types]
  | .rules =>
    (s.pages.routingRules s.base blankQuery).map fun (pattern, target) => pattern ++ " => " ++ target

end TermSearch.Report
