import TermSearch.Text.CharSet
import TermSearch.Text.Quoted

/-! Faults of YAML texts: of their form, of the graph of their nodes, and of the values that nodes are said
to stand for. -/
namespace TermSearch.Document.Yaml

inductive Error
  | unprintable (c : Char)
  | badCharacter (c : Char)
  | missingColon
  | entryNotAllowed
  | keyNotAllowed
  | valueNotAllowed
  | unterminatedText
  | badEscape
  | badHeader
  | badName
  | badTag
  | badDirective
  | unexpectedToken
  | severalDocuments
  | unknownHandle (handle : String)
  | unknownAlias (name : String)
  | repeatedAnchor (name : String)
  | unknownTag (name : String)
  | endless
  | wrongShape
  | unhashableKey
  | badMerge
  | badOctets
  | noTruth (word : String)
  | missingDigit
  | noInteger (base : Nat) (text : String)
  | tooManyDigits (count : Nat)
  | noReal (text : String)
  | tooManyPlaces
  | noCharacter (code : Nat)
  | otherTimeForm
  | unwrittenTime
  | noTime (reason : String)
  deriving DecidableEq, Repr

/-- The greatest number of characters of a text that an error shows. -/
def maxShownLength : Nat := 200

def Error.message : Error → String
  | unprintable c => "special characters are not allowed: code " ++ toString c.toNat
  | badCharacter c => "found character " ++ toString c.toNat ++ " that cannot start any token"
  | missingColon => "could not find expected ':'"
  | entryNotAllowed => "sequence entries are not allowed here"
  | keyNotAllowed => "mapping keys are not allowed here"
  | valueNotAllowed => "mapping values are not allowed here"
  | unterminatedText => "found unexpected end of a quoted scalar"
  | badEscape => "found unknown escape character"
  | badHeader => "expected chomping or indentation indicators"
  | badName => "expected alphabetic or numeric character"
  | badTag => "expected a tag"
  | badDirective => "found a directive that is not valid"
  | unexpectedToken => "found an unexpected token"
  | severalDocuments => "expected a single document in the stream"
  | unknownHandle handle => "found undefined tag handle " ++ handle
  | unknownAlias name => "found undefined alias " ++ name
  | repeatedAnchor name => "found duplicate anchor " ++ name
  | unknownTag name => "could not determine a constructor for the tag " ++ name
  | endless => "maximum recursion depth exceeded"
  | wrongShape => "found a node of another kind than its tag says"
  | unhashableKey => "found unhashable key"
  | badMerge => "expected a mapping or list of mappings for merging"
  | badOctets => "failed to decode base64 data"
  | noTruth word => Text.quoted word
  | missingDigit => "string index out of range"
  | noInteger base text =>
    "invalid literal for int() with base " ++ toString base ++ ": " ++
      String.ofList ((Text.quoted text).toList.take maxShownLength)
  | tooManyDigits count => Text.tooManyDigitsMessage count
  | noReal text => "could not convert string to float: " ++ Text.quoted text
  | tooManyPlaces => "int too large to convert to float"
  | noCharacter code =>
    if code < Nat.pow 2 31 then "chr() arg not in range(0x110000)"
    else "Python int too large to convert to C int"
  | otherTimeForm => "'NoneType' object has no attribute 'groupdict'"
  | unwrittenTime => "expected string or bytes-like object, got 'list'"
  | noTime reason => reason

end TermSearch.Document.Yaml
