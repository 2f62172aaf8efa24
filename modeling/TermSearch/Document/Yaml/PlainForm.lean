import TermSearch.Document.Yaml.Tag
import TermSearch.Document.Yaml.WrittenTime
import TermSearch.Text.Integer
import TermSearch.Text.Split

/-! The forms of plain scalars. A plain scalar without a tag is null, a truth value, a number, a point in
time or one of the two words for keys where it has the form of one, and a text otherwise. -/
namespace TermSearch.Document.Yaml

def nullWords : List String := ["", "~", "null", "Null", "NULL"]

def truthWords : List String := [
  "yes", "Yes", "YES", "no", "No", "NO", "true", "True", "TRUE", "false", "False", "FALSE",
  "on", "On", "ON", "off", "Off", "OFF"]

/-- The plain scalars for infinite numbers, without a sign. -/
def infiniteForms : List String := [".inf", ".Inf", ".INF"]

/-- The plain scalars for the undefined number. -/
def undefinedForms : List String := [".nan", ".NaN", ".NAN"]

/-- The key under which the entries of other mappings are put. -/
def mergeWord : String := "<<"

/-- The plain scalar that stands for the value of a mapping. As a key it is a text. -/
def defaultWord : String := "="

/-- The marks that no plain scalar starts with; alone they have a form to which nothing belongs. -/
def loneMarks : List String := ["!", "&", "*"]

/-- Whether all characters are digits below a base, or underscores. -/
def areDigits (base : Nat) (s : List Char) : Bool :=
  s.all fun c => c == '_' || (Text.hexDigit? c).any (· < base)

/-- Whether a text is a decimal digit with more of them behind it. -/
def isDecimal : List Char → Bool
  | [] => false
  | c :: rest => c.isDigit && areDigits 10 rest

/-- Whether a text is one digit of base 60. -/
def isSixtieth : List Char → Bool
  | [c] => c.isDigit
  | [c, d] => '0' ≤ c && c ≤ '5' && d.isDigit
  | _ => false

/-- Whether a text has the form of an integer: digits in base 2, 8, 10, 16 or, with colons between them,
60. -/
def isInteger (s : List Char) : Bool :=
  match (Text.takeSign s).2 with
  | '0' :: 'b' :: digits => !digits.isEmpty && areDigits 2 digits
  | '0' :: 'x' :: digits => !digits.isEmpty && areDigits 16 digits
  | '0' :: digits => areDigits 8 digits
  | size =>
    match Text.splitWhen (· == ':') size with
    | [] => false
    | first :: others => isDecimal first && others.all isSixtieth

/-- Whether a text is empty or a power of ten, which has a sign. -/
def isPower : List Char → Bool
  | [] => true
  | e :: sign :: digits =>
    (e == 'e' || e == 'E') && (sign == '+' || sign == '-') && !digits.isEmpty &&
      digits.all Char.isDigit
  | _ => false

/-- Whether a text has the form of a floating-point number, which has a point. One that starts with its
point has no sign, and one with colons before the point has no power of ten. -/
def isReal (s : List Char) : Bool :=
  let size := (Text.takeSign s).2
  let whole := size.takeWhile (· != '.')
  let tail := (size.drop (whole.length + 1)).dropWhile fun c => c.isDigit || c == '_'
  if infiniteForms.contains (String.ofList size) then true
  else if undefinedForms.contains (String.ofList s) then true
  else if whole.length = size.length then false
  else if whole.isEmpty then
    size.length == s.length && ((size.drop 1).head?).any Char.isDigit && isPower tail
  else if isDecimal whole then isPower tail
  else
    match Text.splitWhen (· == ':') whole with
    | first :: next :: others =>
      isDecimal first && (next :: others).all isSixtieth && tail.isEmpty
    | _ => false

/-- Whether a text has the form of a point in time. -/
def isTime (s : List Char) : Bool := (WrittenTime.ofText? s).any WrittenTime.isPlain

def tagOfForm (s : List Char) : Tag :=
  let word := String.ofList s
  if nullWords.contains word then .core .null
  else if truthWords.contains word then .core .bool
  else if word = mergeWord then .core .merge
  else if word = defaultWord then .core .value
  else if loneMarks.contains word then .other (coreStart ++ "yaml")
  else if isReal s then .core .float
  else if isInteger s then .core .int
  else if isTime s then .core .timestamp
  else .core .str

/-- The tag of a plain scalar. A line feed at its end does not count, unless it is all. -/
def plainTag (text : String) : Tag :=
  if text = "\n" then .core .str else tagOfForm (withoutLineEnd text.toList)

example : plainTag "12:30:45" = .core .int := by decide +kernel
example : plainTag "1e3" = .core .str := by decide +kernel
example : plainTag "1:30.5" = .core .float := by decide +kernel
example : plainTag "-.5" = .core .str := by decide +kernel
example : plainTag "08" = .core .str := by decide +kernel

end TermSearch.Document.Yaml
