import TermSearch.Document.Yaml.Place
import TermSearch.Text.Integer

/-! Tags as they are written: in full between angle brackets, or behind a handle that stands for the start
of a name. A percent sign announces an octet, and a run of octets stands for text. -/
namespace TermSearch.Document.Yaml

/-- A tag as it is written: its handle, if it has one, and the rest. -/
structure WrittenTag where
  handle : Option String
  suffix : String
  deriving DecidableEq, Repr

/-- The handle of the tags that belong to a document alone. -/
def ownHandle : String := "!"

/-- The handle of the tags of the format itself. -/
def coreHandle : String := "!!"

/-- The tag without a name, which asks for the kind of a plain scalar. -/
def bareTag : String := "!"

def isTagChar (c : Char) : Bool :=
  isNameChar c || [';', '/', '?', ':', '@', '&', '=', '+', '$', ',', '.', '!', '~', '*', '\x27', '(',
    ')', '[', ']'].contains c

/-- The octets at the front of a text, and what follows them. -/
def takeOctets : List Char → Option (List UInt8 × List Char)
  | '%' :: high :: low :: rest => do
    let octet := (← Text.hexDigit? high) * 16 + (← Text.hexDigit? low)
    let (octets, rest) ← takeOctets rest
    return (.ofNat octet :: octets, rest)
  | '%' :: _ => none
  | s => some ([], s)

/-- The text that octets stand for. -/
def textOfOctets? (octets : List UInt8) : Option (List Char) :=
  (String.fromUTF8? ⟨octets.toArray⟩).map String.toList

/-- A part of a name, which may be empty, and what follows it. -/
def takeNamePart (s : List Char) : Option (List Char × List Char) :=
  match s with
  | [] => some ([], [])
  | c :: rest =>
    if c = '%' then do
      let (octets, after) ← takeOctets (c :: rest)
      let text ← textOfOctets? octets
      if _h : after.length < rest.length + 1 then
        let (more, after) ← takeNamePart after
        return (text ++ more, after)
      else none
    else if isTagChar c then do
      let (more, after) ← takeNamePart rest
      return (c :: more, after)
    else some ([], c :: rest)
termination_by s.length

/-- A part of a name that is not empty, and what follows it. -/
def takeSuffix (s : List Char) : Option (String × List Char) := do
  let (text, rest) ← takeNamePart s
  if text.isEmpty then none else return (String.ofList text, rest)

/-- A handle that ends with a mark of its own, and what follows it; its first mark has been read. -/
def takeHandle (s : List Char) : Option (String × List Char) :=
  match s.dropWhile isNameChar with
  | '!' :: rest => some (String.ofList ('!' :: s.takeWhile isNameChar ++ ['!']), rest)
  | _ => none

/-- A tag whose first mark has been read, and what follows it. Another mark before the next space ends a
handle. -/
def takeTag (s : List Char) : Option (WrittenTag × List Char) := do
  let (tag, rest) ← match s with
    | '<' :: rest => do
      let (name, rest) ← takeSuffix rest
      if rest.head? = some '>' then some (⟨none, name⟩, rest.drop 1) else none
    | rest =>
      if atGap rest then some (⟨none, bareTag⟩, rest)
      else if (rest.takeWhile fun c => c != ' ' && !isBreak c).contains '!' then do
        let (handle, rest) ← takeHandle rest
        let (suffix, rest) ← takeSuffix rest
        some (⟨some handle, suffix⟩, rest)
      else do
        let (suffix, rest) ← takeSuffix rest
        some (⟨some ownHandle, suffix⟩, rest)
  if atSpace rest then some (tag, rest) else none

example : takeTag "!s%74r x".toList = some (⟨some "!!", "str"⟩, " x".toList) := by decide +kernel
example : takeTag "e!%c3%a9".toList = some (⟨some "!e!", "é"⟩, []) := by decide +kernel
example : takeTag "e%ff".toList = none := by decide +kernel
example : takeTag "<a b>".toList = none := by decide +kernel

end TermSearch.Document.Yaml
