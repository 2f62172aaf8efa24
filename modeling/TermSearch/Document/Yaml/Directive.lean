import TermSearch.Document.Yaml.BlockText
import TermSearch.Document.Yaml.TagText

/-! Directives, which stand on lines of their own in front of a document. -/
namespace TermSearch.Document.Yaml

/-- A directive: the version of the format, a handle for tags, or one that says nothing here. -/
inductive Directive
  | version (major : Nat)
  | handle (name start : String)
  | other
  deriving DecidableEq, Repr

/-- A number of a version, and what follows it. -/
def takeVersionNumber (s : List Char) : Except Error (Nat × List Char) :=
  let digits := s.takeWhile Char.isDigit
  if digits.isEmpty then .error .badDirective
  else if Text.maxDigits < digits.length then .error (.tooManyDigits digits.length)
  else .ok (Text.numberOf digits, s.dropWhile Char.isDigit)

/-- The version that a directive gives, and what follows it. -/
def takeVersion (s : List Char) : Except Error (Directive × List Char) := do
  let (major, rest) ← takeVersionNumber s
  match rest with
  | '.' :: rest =>
    let (_, rest) ← takeVersionNumber rest
    if atSpace rest then return (.version major, rest) else throw .badDirective
  | _ => throw .badDirective

/-- The handle that a directive gives, with the start of the names that it stands for, and what follows. -/
def takeHandleDirective (s : List Char) : Option (Directive × List Char) := do
  let (handle, rest) ← match s with
    | '!' :: rest => if rest.head? = some ' ' then some (ownHandle, rest) else takeHandle rest
    | _ => none
  if rest.head? ≠ some ' ' then none
  let (start, rest) ← takeSuffix (rest.dropWhile (· == ' '))
  if atSpace rest then return (.handle handle start, rest) else none

/-- A directive whose sign has been read, and what follows its line. -/
def takeDirective (s : List Char) : Except Error (Directive × List Char) := do
  let name := s.takeWhile isNameChar
  let rest := s.dropWhile isNameChar
  if name.isEmpty || !atSpace rest then throw .badDirective
  let (directive, rest) ←
    if name = "YAML".toList then takeVersion (rest.dropWhile (· == ' '))
    else if name = "TAG".toList then
      match takeHandleDirective (rest.dropWhile (· == ' ')) with
      | some found => pure found
      | none => throw .badDirective
    else pure (.other, rest.dropWhile fun c => !isBreak c)
  let (_, rest) ← endOfLine rest .badDirective
  return (directive, rest)

example : (takeDirective "TAG !e! tag:e,1: # c\n--- x".toList).toOption =
    some (.handle "!e!" "tag:e,1:", "--- x".toList) := by decide +kernel
example : (takeDirective "YAML 1.1#c".toList).toOption = none := by decide +kernel

end TermSearch.Document.Yaml
