import TermSearch.Text.Case

/-! Patterns. A pattern is either a whole text or a list of segments that occur in order and without
overlap; which of the two may have been left unset, and then it is the second. Letters from A to Z match
in either case. -/
namespace TermSearch.Query

/-- A switch of a query. One that is left unset counts as off, and is shown as unset. -/
inductive Switch
  | on | off | unset
  deriving DecidableEq, Repr, Inhabited

namespace Switch

/-- Whether a switch is on. -/
def isOn : Switch → Bool
  | on => true
  | off => false
  | unset => false

/-- A switch that is set. -/
def ofBool (b : Bool) : Switch := if b then on else off

/-- A switch as it is shown. -/
def text : Switch → String
  | on => "True"
  | off => "False"
  | unset => "None"

@[simp] theorem isOn_ofBool (b : Bool) : (ofBool b).isOn = b := by cases b <;> rfl

end Switch

inductive Pattern
  | whole (text : String)
  | inOrder (segments : List String) (unset : Bool := false)
  deriving DecidableEq, Repr

/-- Why segments make no pattern. -/
inductive Pattern.Error
  | emptySegment
  | wholeNeedsOneSegment
  deriving DecidableEq, Repr

def Pattern.Error.message : Pattern.Error → String
  | emptySegment => "PatternVariant segments must be non-empty strings"
  | wholeNeedsOneSegment => "Anchored PatternVariant must have exactly one segment"

namespace Pattern

def segments : Pattern → List String
  | whole text => [text]
  | inOrder segments _ => segments

/-- The switch that says whether a pattern stands for a whole text. -/
def form : Pattern → Switch
  | whole _ => .on
  | inOrder _ false => .off
  | inOrder _ true => .unset

/-- A pattern that looks for one text anywhere. -/
def containing (text : String) : Pattern := inOrder [text]

/-- The pattern of some segments. No segment may be empty, and a whole text has exactly one. -/
def ofSegments? (segments : List String) (whole : Switch) : Except Error Pattern :=
  if segments.any (·.isEmpty) then .error .emptySegment
  else if whole.isOn then
    match segments with
    | [text] => .ok (.whole text)
    | _ => .error .wholeNeedsOneSegment
  else .ok (.inOrder segments (whole == .unset))

/-- Whether a pattern has no segment and so matches every text. -/
def matchesAll : Pattern → Bool
  | inOrder [] _ => true
  | _ => false

/-- A pattern as it is shown: its segments with a percent sign at each place where text may stand. -/
def text : Pattern → String
  | whole text => text
  | inOrder [] _ => "%"
  | inOrder segments _ => "%" ++ "%".intercalate segments ++ "%"

/-- What follows the first occurrence of a needle. -/
def afterFirst? (needle : List Char) (s : List Char) : Option (List Char) :=
  if needle.isPrefixOf s then some (s.drop needle.length)
  else
    match s with
    | [] => none
    | _ :: rest => afterFirst? needle rest

/-- Whether the segments occur in order, each looked for behind the first place of the one before. -/
def occurInOrder : List (List Char) → List Char → Bool
  | [], _ => true
  | segment :: rest, s =>
    match afterFirst? segment s with
    | some behind => occurInOrder rest behind
    | none => false

def accepts (p : Pattern) (s : String) : Bool :=
  match p with
  | whole text => Text.foldChars s.toList == Text.foldChars text.toList
  | inOrder segments _ =>
    occurInOrder (segments.map fun segment => Text.foldChars segment.toList)
      (Text.foldChars s.toList)

@[simp] theorem accepts_inOrder_nil (unset : Bool) (s : String) :
    accepts (.inOrder [] unset) s = true := rfl

example : accepts (.inOrder ["東京", "京都"]) "東京都" = false := by decide +kernel
example : accepts (.inOrder ["tower"]) "Tokyo TOWER" = true := by decide +kernel

end Pattern

end TermSearch.Query
