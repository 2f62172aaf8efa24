import TermSearch.Assoc
import TermSearch.Route.PercentCode
import TermSearch.Text.Split

/-! Variables of a routed request. A request text is cut at ampersands and each part at its first
equals sign; values stay encoded, and the last value of a variable counts. -/
namespace TermSearch.Route

/-- Request variables with their values, in order. -/
abbrev Variables := List (String × String)

/-- The variable that holds the query. -/
def queryVariable : String := "s"

/-- The variable that names a page. -/
def pageVariable : String := "pagename"

/-- The parts of a text around its first equals sign; without one the second part is empty. -/
def cutAtEquals (s : List Char) : List Char × List Char :=
  (s.takeWhile (· != '='), (s.dropWhile (· != '=')).drop 1)

def pairOf (part : List Char) : String × String :=
  let (key, value) := cutAtEquals part
  (String.ofList key, String.ofList value)

/-- The variables of a request text; question marks in front and empty parts are skipped. -/
def parseRequest (text : String) : Variables :=
  let parts := Text.splitWhen (· == '&') (text.toList.dropWhile (· == '?'))
  Assoc.ofPairs ((parts.filter (! ·.isEmpty)).map pairOf)

/-- How requests are resolved. With `customPage` a search takes away the page name, so that a page of
the same address does not answer it. -/
structure RequestSettings where
  customPage : Bool := false
  allowSlash : Bool := true
  deriving DecidableEq, Repr

/-- The variables of a request as a search reads them. A request without a query is left alone. -/
def resolve (settings : RequestSettings) (vars : Variables) : Variables :=
  match Assoc.find? queryVariable vars with
  | none => vars
  | some query =>
    let vars := if settings.customPage then Assoc.insert pageVariable "" vars else vars
    Assoc.insert queryVariable (restoreQuery settings.allowSlash query) vars

example : parseRequest "s=a%1Fb&pagename=about&paged" =
    [("s", "a%1Fb"), ("pagename", "about"), ("paged", "")] := by decide +kernel

end TermSearch.Route
