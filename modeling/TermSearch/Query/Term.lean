import TermSearch.Text.Blank

/-! Terms of a query. A token is trimmed; a marker in front of it excludes the term, and what stands
behind the marker is trimmed again. A token of which nothing is left is no term. -/
namespace TermSearch.Query

structure Term where
  text : String
  excluded : Bool
  deriving DecidableEq, Repr

/-- The marker that excludes a term unless another one is chosen. -/
def defaultMarker : String := "-"

/-- The characters behind a marker, where a nonempty marker stands in front. -/
def afterMarker? (marker s : List Char) : Option (List Char) :=
  if !marker.isEmpty && marker.isPrefixOf s then some (s.drop marker.length) else none

/-- The term that a token stands for. -/
def Term.ofToken? (marker token : String) : Option Term :=
  let chars := Text.trimChars token.toList
  let (excluded, chars) := match afterMarker? marker.toList chars with
    | some rest => (true, Text.trimChars rest)
    | none => (false, chars)
  if chars.isEmpty then none else some ⟨String.ofList chars, excluded⟩

/-- The terms of a list of tokens, in order. -/
def termsOf (marker : String) (tokens : List String) : List Term :=
  tokens.filterMap (Term.ofToken? marker)

@[simp] theorem termsOf_append (marker : String) (a b : List String) :
    termsOf marker (a ++ b) = termsOf marker a ++ termsOf marker b := by
  simp [termsOf]

example : termsOf "-" ["foo", "-bar", "-", ""] = [⟨"foo", false⟩, ⟨"bar", true⟩] := by
  decide +kernel

end TermSearch.Query
