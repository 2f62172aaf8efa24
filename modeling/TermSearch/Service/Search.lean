import TermSearch.Settings.Basic
import TermSearch.Sql.Compile

/-! Searching by the configured options. A query without a usable term lists records, or finds nothing
where blank queries are switched off; every other search sends exactly one statement to the store. -/
namespace TermSearch.Service

open Query (Plan Fault Hit)
open Settings (SearchSettings)

/-- Why a search fails: the plan, the lack of a store, or the store. -/
inductive Failure (ε : Type)
  | fault (e : Fault)
  | noStore
  | store (e : ε)

/-- What a search without a store says. -/
def noStoreMessage : String := "No record store is configured"

/-- What a search did: the statements it sent, what it reported, and what it found. -/
structure Outcome (ε : Type) where
  statements : List Sql.Select
  entries : List Log.Entry
  result : Except (Failure ε) (List Hit)

def planOf (s : SearchSettings) (tokens : List String) : Except Fault Plan :=
  Query.compile s.fields s.options tokens

/-- The report on the making of a plan. -/
def planEntries (s : SearchSettings) (tokens : List String) (plan : Plan) : List Log.Entry :=
  Query.trace s.fields s.options (Query.termsOf s.marker tokens) plan

/-- The statement of a plan; without a limit the configured number of results counts, and without that
there is no limit. -/
def statementOf (s : SearchSettings) (plan : Plan) (types : List String) (limit : Option Sql.Param)
    (offset : Sql.Param) : Except Fault Sql.Select :=
  Sql.ofPlan plan s.fields.metaKeys (s.scope types)
    ((limit.or (s.maxResults.map .int)).map (⟨·, offset⟩))

/-- A parameter as it stands in a report. -/
def paramText : Sql.Param → String
  | .text s => Text.quoted s
  | .int n => toString n
  | .bool b => if b then "True" else "False"
  | .null => "None"

/-- Parameters as they stand in a report; a single one has a comma behind it. -/
def paramsTuple (params : List Sql.Param) : String :=
  match params with
  | [p] => "(" ++ paramText p ++ ",)"
  | ps => "(" ++ ", ".intercalate (ps.map paramText) ++ ")"

/-- The report of a statement that is sent. -/
def statementEntry (q : Sql.Select) : Log.Entry :=
  Log.debug ("SQL: " ++ q.text ++ " params=" ++ paramsTuple q.params)

/-- The report of a blank query that is ignored. -/
def blankEntry : Log.Entry := Log.info "Blank query ignored (search.blank_query=false)"

/-- The report of a search with its number of hits. -/
def completedEntry (plan : Plan) (hits : Nat) : Log.Entry :=
  Log.info ("Search completed: terms=" ++ toString plan.groups.length ++ " hits=" ++ toString hits)

/-- Sends the statement of a plan to a store. -/
def send {ε : Type} (s : SearchSettings) (execute : Sql.Select → Except ε (List Hit)) (plan : Plan)
    (reports : List Log.Entry) (types : List String) (limit : Option Sql.Param) (offset : Sql.Param) :
    Outcome ε :=
  match statementOf s plan types limit offset with
  | .error e => ⟨[], reports, .error (.fault e)⟩
  | .ok q =>
    match execute q with
    | .error e => ⟨[q], reports ++ [statementEntry q], .error (.store e)⟩
    | .ok hits =>
      ⟨[q], reports ++ [statementEntry q, completedEntry plan hits.length], .ok hits⟩

/-- Searches a store, if there is one, for some tokens. -/
def search {ε : Type} (s : SearchSettings) (store : Option (Sql.Select → Except ε (List Hit)))
    (tokens types : List String) (limit : Option Sql.Param) (offset : Sql.Param) : Outcome ε :=
  match planOf s tokens with
  | .error e => ⟨[], [], .error (.fault e)⟩
  | .ok plan =>
    let reports := planEntries s tokens plan
    if plan.isEmpty && !s.blankQuery then ⟨[], reports ++ [blankEntry], .ok []⟩
    else
      match store with
      | none => ⟨[], reports, .error .noStore⟩
      | some execute => send s execute plan reports types limit offset

end TermSearch.Service
