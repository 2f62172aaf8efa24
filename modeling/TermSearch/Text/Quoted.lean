import TermSearch.Text.Blank

/-! Quoted text, as values are shown in messages. A text stands between single quotes, or between
double quotes when it holds a single quote and no double one. Blank characters other than the space
are written as escapes. -/
namespace TermSearch.Text

/-- A digit of base 16, in lower case. -/
def hexDigit (n : Nat) : Char :=
  if n < 10 then Char.ofNat (48 + n) else Char.ofNat (87 + n)

/-- The last `count` digits of a number in base 16. -/
def hexDigits : Nat → Nat → List Char
  | 0, _ => []
  | count + 1, n => hexDigits count (n / 16) ++ [hexDigit (n % 16)]

@[simp] theorem length_hexDigits (count n : Nat) : (hexDigits count n).length = count := by
  induction count generalizing n with
  | zero => rfl
  | succ count ih => simp [hexDigits, ih]

namespace Quoted

/-- The quotation mark that a text is put in. -/
def mark (s : List Char) : Char :=
  if s.contains '\x27' && !s.contains '\x22' then '\x22' else '\x27'

/-- The text of one character between the given marks. -/
def encodeChar (mark c : Char) : List Char :=
  if c = mark ∨ c = '\x5c' then ['\x5c', c]
  else if c = '\n' then "\\n".toList
  else if c = '\r' then "\\r".toList
  else if c = '\t' then "\\t".toList
  else if c = ' ' ∨ ¬ isBlank c then [c]
  else if c.toNat < 0x100 then "\\x".toList ++ hexDigits 2 c.toNat
  else if c.toNat < 0x10000 then "\\u".toList ++ hexDigits 4 c.toNat
  else "\\U".toList ++ hexDigits 8 c.toNat

/-- The text between its marks. -/
def encode (s : List Char) : List Char :=
  mark s :: (s.flatMap (encodeChar (mark s)) ++ [mark s])

end Quoted

def quoted (s : String) : String := String.ofList (Quoted.encode s.toList)

/-- Octets as they are shown in messages: those below 128 as characters, the others as escapes. -/
def quotedOctets (octets : List UInt8) : String :=
  let mark := Quoted.mark (octets.map fun octet => Char.ofNat octet.toNat)
  let encode (octet : UInt8) : List Char :=
    if octet < 128 then Quoted.encodeChar mark (Char.ofNat octet.toNat)
    else "\\x".toList ++ hexDigits 2 octet.toNat
  String.ofList ('b' :: mark :: (octets.flatMap encode ++ [mark]))

/-- A list of texts as it is shown in messages. -/
def quotedList (items : List String) : String :=
  "[" ++ ", ".intercalate (items.map quoted) ++ "]"

example : quoted "it's" = "\"it's\"" := by decide +kernel
example : quotedOctets [104, 0, 255] = "b'h\\x00\\xff'" := by decide +kernel
example : quoted "a\n\u200b" = "'a\\n\\u200b'" := by decide +kernel

end TermSearch.Text
