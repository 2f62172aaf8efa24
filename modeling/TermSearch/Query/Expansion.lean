import TermSearch.Query.Pattern
import TermSearch.Text.Width

/-! Expansion of a sub-term into patterns that forgive one damaged unit. A sub-term of moderate length
is cut into fragments: runs of narrow characters, and overlapping pairs of adjacent wide characters.
Beside the literal sub-term there is one pattern for each short fragment, with that fragment left out. -/
namespace TermSearch.Query

/-- The least length of a sub-term that is expanded. -/
def leastExpanded : Nat := 4

/-- The greatest length of a sub-term that is expanded. -/
def greatestExpanded : Nat := 10

/-- The greatest length of a fragment that may be left out. -/
def greatestDropped : Nat := 2

/-- Whether a sub-term is expanded. -/
def isExpandable (subterm : String) : Bool :=
  leastExpanded ≤ subterm.length && subterm.length ≤ greatestExpanded

/-- A pending run of narrow characters as a fragment, where there is one. -/
def pendingRun (run : List Char) : List (List Char) :=
  if run.isEmpty then [] else [run]

/-- The pair of a wide character with a wide character after it. -/
def widePair (c : Char) : List Char → List (List Char)
  | d :: _ => if Text.isWide d then [[c, d]] else []
  | [] => []

/-- The fragments of the remaining characters, behind a pending run of narrow ones. -/
def fragmentsFrom (run : List Char) : List Char → List (List Char)
  | [] => pendingRun run
  | c :: rest =>
    if Text.isWide c then pendingRun run ++ widePair c rest ++ fragmentsFrom [] rest
    else fragmentsFrom (run ++ [c]) rest

/-- The fragments of a sub-term, in order. -/
def fragments (subterm : String) : List String :=
  (fragmentsFrom [] subterm.toList).map String.ofList

/-- Each item of a list together with the others, in order. -/
def leaveOneOut {α : Type} : List α → List (α × List α)
  | [] => []
  | x :: rest => (x, rest) :: (leaveOneOut rest).map fun p => (p.1, x :: p.2)

@[simp] theorem length_leaveOneOut {α : Type} (xs : List α) :
    (leaveOneOut xs).length = xs.length := by
  induction xs with
  | nil => rfl
  | cons x rest ih => simp [leaveOneOut, ih]

/-- The patterns of a sub-term: the literal one, then one for each fragment that may be left out. -/
def expand (subterm : String) : List Pattern :=
  .containing subterm ::
    if isExpandable subterm then
      ((leaveOneOut (fragments subterm)).filter fun p => p.1.length ≤ greatestDropped).map
        fun p => .inOrder p.2
    else []

example : fragments "JR東京駅" = ["JR", "東京", "京駅"] := by decide +kernel
example : expand "東ab東" = [.inOrder ["東ab東"], .inOrder []] := by decide +kernel

end TermSearch.Query
