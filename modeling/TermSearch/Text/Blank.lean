import TermSearch.Text.Split
import TermSearch.Text.Unassigned

/-! Blank characters and trimming. A character is blank when it is a control, format, surrogate,
private-use, unassigned or separator character: this takes in the zero-width space, the byte order
mark and the ideographic space. A term is cut into sub-terms at brackets and sentence punctuation, and
its sub-terms are trimmed. -/
namespace TermSearch.Text

/-- The assigned control, format, private-use and separator characters. -/
def blankAssigned : CharSet where
  intervals := [
   (0x0, 0x20), (0x7F, 0xA0), (0xAD, 0xAD), (0x600, 0x605), (0x61C, 0x61C), (0x6DD, 0x6DD),
   (0x70F, 0x70F), (0x890, 0x891), (0x8E2, 0x8E2), (0x1680, 0x1680), (0x180E, 0x180E), (0x2000, 0x200F),
   (0x2028, 0x202F), (0x205F, 0x2064), (0x2066, 0x206F), (0x3000, 0x3000), (0xD800, 0xF8FF), (0xFEFF, 0xFEFF),
   (0xFFF9, 0xFFFB), (0x110BD, 0x110BD), (0x110CD, 0x110CD), (0x13430, 0x13438), (0x1BCA0, 0x1BCA3), (0x1D173, 0x1D17A),
   (0xE0001, 0xE0001), (0xE0020, 0xE007F), (0xF0000, 0xFFFFD), (0x100000, 0x10FFFD)
  ]

def isBlank (c : Char) : Bool := blankAssigned.contains c || unassigned.contains c

/-- Drops the blank characters at both ends. -/
def trimChars (s : List Char) : List Char :=
  ((s.dropWhile isBlank).reverse.dropWhile isBlank).reverse

/-- Drops the blank characters at both ends of a text. -/
def trim (s : String) : String := String.ofList (trimChars s.toList)

@[simp] theorem toList_trim (s : String) : (trim s).toList = trimChars s.toList := by
  simp [trim]

example : trim "　東京 \u200b" = "東京" := by decide +kernel

/-- The opening and closing brackets and the punctuation at which a term is cut. -/
def boundaryChars : List Char :=
  "「『（［｛〈《【〔〖〘〚＜」』）］｝〉》】〕〗〙〛＞、，。．？！：・".toList

def isBoundary (c : Char) : Bool := boundaryChars.contains c

/-- The sub-terms of a term: its stretches between boundary characters, trimmed, without the empty
ones. -/
def subterms (term : String) : List String :=
  (((splitWhen isBoundary term.toList).map trimChars).filter (! ·.isEmpty)).map String.ofList

example : subterms "foo「bar」baz" = ["foo", "bar", "baz"] := by decide +kernel
example : subterms "　東京、大阪　" = ["東京", "大阪"] := by decide +kernel

end TermSearch.Text
