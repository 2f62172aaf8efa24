import TermSearch.Decimal.Numeral
import TermSearch.Document.Yaml.Error
import TermSearch.Text.Case
import TermSearch.Text.Split

/-! The numbers that scalars stand for. Underscores in a numeral say nothing. Integers are written in base
2, 8, 10 or 16; with colons between its parts a numeral has base 60. -/
namespace TermSearch.Document.Yaml

open TermSearch.Decimal (Binary64)

/-- The sign in front of a numeral, which is not empty, and the rest of it. -/
def takeSize : List Char → Except Error (Bool × List Char)
  | [] => .error .missingDigit
  | s => .ok (Text.takeSign s)

/-- A numeral without its underscores. -/
def withoutUnderscores (s : List Char) : List Char := s.filter (· != '_')

/-- The parts of a numeral with colons between them. -/
def sixtieths (s : List Char) : List (List Char) := Text.splitWhen (· == ':') s

/-- The integer of a text in a base. -/
def integerIn (base : Nat) (s : List Char) : Except Error Int :=
  (Text.integerIn base s).mapError fun
    | .otherForm => .noInteger base (String.ofList s)
    | .tooManyDigits count => .tooManyDigits count

/-- The integer of a numeral behind its sign. A zero that leads announces another base. -/
def integerSize (s : List Char) : Except Error Int :=
  match s with
  | [] => .error .missingDigit
  | '0' :: rest =>
    match rest with
    | [] => .ok 0
    | 'b' :: digits => integerIn 2 digits
    | 'x' :: digits => integerIn 16 digits
    | _ => integerIn 8 ('0' :: rest)
  | _ => do return (← (sixtieths s).mapM (integerIn 10)).foldl (fun n part => n * 60 + part) 0

def integerOf (text : String) : Except Error Int := do
  let (negative, size) ← takeSize (withoutUnderscores text.toList)
  let n ← integerSize size
  return if negative then -n else n

def realPart (s : List Char) : Except Error Binary64 :=
  match Binary64.ofText? s with
  | some x => .ok x
  | none => .error (.noReal (String.ofList s))

/-- The sum of parts of base 60, the last of which counts ones: the lowest places are added first. -/
def sumOfParts (parts : List Binary64) : Except Error Binary64 :=
  parts.reverse.zipIdx.foldlM (fun sum (part, place) =>
    match Binary64.ofNat? (Nat.pow 60 place) with
    | some weight => .ok (sum.add (part.mul weight))
    | none => .error .tooManyPlaces) (.finite false 0 Binary64.minExponent)

/-- The word for a number that is none. -/
def undefinedWord : String := ".nan"

/-- The floating-point number of a numeral behind its sign, in lower case. -/
def realSize (s : List Char) : Except Error Binary64 :=
  if s = ".inf".toList then .ok (.infinite false)
  else if s = undefinedWord.toList then .ok .undefined
  else if s.contains ':' then do sumOfParts (← (sixtieths s).mapM realPart)
  else realPart s

/-- The text of a floating-point number without what says nothing. -/
def realText (text : String) : List Char :=
  (Text.lower (String.ofList (withoutUnderscores text.toList))).toList

/-- Whether a text is the word for a number that is none. -/
def isUndefinedWord (text : String) : Bool :=
  (Text.takeSign (realText text)).2 == undefinedWord.toList

def realOf (text : String) : Except Error Binary64 := do
  let (negative, size) ← takeSize (realText text)
  let x ← realSize size
  return if negative then x.negate else x

example : (integerOf "-12:30:45").toOption = some (-45045) := by decide +kernel
example : (integerOf " 5").toOption = some 5 := by decide +kernel
example : (integerOf "0_8").toOption = none := by decide +kernel
example : (realOf "1:30.5").toOption = some (.ofDecimal false 905 (-1)) := by decide +kernel
example : (realOf "-1E5").toOption = some (.ofDecimal true 1 5) := by decide +kernel

end TermSearch.Document.Yaml
