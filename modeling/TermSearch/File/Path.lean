import TermSearch.Text.Split

/-! Paths of files. A path is a number of slashes in front and the names between single slashes; empty
names and points are dropped. Two slashes in front are kept apart from one. -/
namespace TermSearch.File

structure Path where
  root : String := ""
  names : List String := []
  deriving DecidableEq, Repr, Inhabited

namespace Path

/-- The slashes that are kept of those in front of a text. -/
def rootOf (s : List Char) : String :=
  match (s.takeWhile (· == '/')).length with
  | 0 => ""
  | 2 => "//"
  | _ => "/"

/-- The names between the slashes of a text. -/
def namesOf (s : List Char) : List String :=
  ((Text.splitWhen (· == '/') s).map String.ofList).filter fun name => name != "" && name != "."

def ofText (s : String) : Path := ⟨rootOf s.toList, namesOf s.toList⟩

/-- A path behind another one; a path with slashes in front stands for itself. -/
def join (p q : Path) : Path := if q.root.isEmpty then ⟨p.root, p.names ++ q.names⟩ else q

/-- A path with the path of a text behind it. -/
def child (p : Path) (name : String) : Path := p.join (ofText name)

/-- The path without its last name. -/
def parent (p : Path) : Path := ⟨p.root, p.names.dropLast⟩

/-- The name of a step up. -/
def stepUp : String := ".."

/-- One more step on a way. A step up takes the last name away; where there is none to take, it is kept,
unless the way starts at the root. -/
def advance (fromRoot : Bool) (way : List String) (name : String) : List String :=
  if name != stepUp then way ++ [name]
  else
    match way.getLast? with
    | none => if fromRoot then [] else [stepUp]
    | some last => if last = stepUp then way ++ [stepUp] else way.dropLast

/-- The path to the same place with steps up only in front. -/
def resolve (p : Path) : Path := { p with names := p.names.foldl (advance (!p.root.isEmpty)) [] }

/-- Whether a path stays below the place where it starts, which is not the root. -/
def staysBelow (p : Path) : Bool := p.root.isEmpty && p.resolve.names.head? != some stepUp

/-- The text of a path; the empty path is a point. -/
def text (p : Path) : String :=
  if p.root.isEmpty && p.names.isEmpty then "." else p.root ++ "/".intercalate p.names

@[simp] theorem join_empty (p : Path) : p.join {} = p := by simp [join]

@[simp] theorem empty_join (p : Path) : Path.join {} p = p := by
  unfold join
  split
  · rename_i h
    have : p.root = "" := by simpa using h
    cases p
    simp_all
  · rfl

theorem join_assoc (p q r : Path) : (p.join q).join r = p.join (q.join r) := by
  unfold join
  by_cases hr : r.root.isEmpty <;> by_cases hq : q.root.isEmpty <;> simp [hr, hq]

example : (ofText "a//b/./c/").text = "a/b/c" := by decide +kernel
example : (ofText "a/b/../c").resolve.text = "a/c" := by decide +kernel
example : (ofText "a/../../c").resolve.text = "../c" := by decide +kernel
example : ((ofText "log").child "/x").text = "/x" := by decide +kernel

end Path

end TermSearch.File
