import TermSearch.Document.Base64
import TermSearch.Document.Value
import TermSearch.Document.Yaml.Graph
import TermSearch.Document.Yaml.Numeral
import TermSearch.Document.Yaml.WrittenTime

/-! The values of nodes whose tags are for values without parts. Such a value is written as a text. -/
namespace TermSearch.Document.Yaml

/-- The truth value of a word, without regard to case. -/
def truthOf? (word : String) : Option Bool :=
  if ["yes", "true", "on"].contains word then some true
  else if ["no", "false", "off"].contains word then some false
  else none

/-- The point in time of a text, which has to exist. A line feed at the end does not count. -/
def timeOf (text : String) : Except Error Value :=
  match WrittenTime.ofText? (withoutLineEnd text.toList) with
  | none => .error .otherTimeForm
  | some t =>
    match t.fault? with
    | some reason => .error (.noTime reason)
    | none => .ok (.time text)

/-- The value of a text with a tag for values without parts. -/
def textValue (tag : Tag) (text : String) : Except Error Value :=
  match tag with
  | .core .null => .ok .null
  | .core .bool =>
    match truthOf? (Text.lower text) with
    | some b => .ok (.bool b)
    | none => .error (.noTruth (Text.lower text))
  | .core .int => (integerOf text).map .int
  | .core .float => (realOf text).map .real
  | .core .str => .ok (.text text)
  | .core .binary =>
    match if text.toList.all (·.toNat < 128) then Base64.decode? text.toList else none with
    | some octets => .ok (.bytes octets)
    | none => .error .badOctets
  | .core .timestamp => timeOf text
  | tag => .error (.unknownTag tag.fullName)

namespace Graph

/-- The value of a node without parts. A point in time has to be a scalar itself. -/
def plainValue (g : Graph) (id : NodeId) : Except Error Value := do
  match g.tag? id with
  | none => throw .wrongShape
  | some tag =>
    if !tag.isForText then throw (.unknownTag tag.fullName)
    let text ← g.text id
    if tag = .core .timestamp && g.isMapping id then throw .unwrittenTime
    textValue tag text

end Graph

end TermSearch.Document.Yaml
