/-! Percent encoding of a query for use as one segment of a path. Every byte outside the unreserved
characters becomes a percent sign with two digits of base 16. A slash would be read as a separator
even in its encoded form, so where slashes are allowed its code is hidden behind that of a control
character, and restored on the way in. -/
namespace TermSearch.Route

/-- Whether a character stands for itself in a path segment. -/
def isUnreserved (c : Char) : Bool :=
  c.isAlphanum || c == '_' || c == '.' || c == '-' || c == '~'

/-- A digit of base 16, in upper case. -/
def upperHexDigit (n : Nat) : Char :=
  if n < 10 then Char.ofNat (48 + n) else Char.ofNat (55 + n)

def byteCode (b : UInt8) : List Char :=
  ['%', upperHexDigit (b.toNat / 16), upperHexDigit (b.toNat % 16)]

/-- The code of a character: itself, or the codes of its bytes. -/
def charCode (c : Char) : List Char :=
  if isUnreserved c then [c] else (String.utf8EncodeChar c).flatMap byteCode

def percentEncode (s : List Char) : List Char := s.flatMap charCode

/-- Replaces the first digit of the codes `%oF` and `%of` by another digit. -/
def swapCode (old new : Char) : List Char → List Char
  | '%' :: d :: e :: rest =>
    if d = old ∧ (e = 'F' ∨ e = 'f') then '%' :: new :: e :: swapCode old new rest
    else '%' :: swapCode old new (d :: e :: rest)
  | c :: rest => c :: swapCode old new rest
  | [] => []

/-- Hides the codes of slashes. -/
def hideSlashes (s : List Char) : List Char := swapCode '2' '1' s

/-- Restores the codes of slashes. -/
def restoreSlashes (s : List Char) : List Char := swapCode '1' '2' s

def encodeQuery (allowSlash : Bool) (query : String) : String :=
  let code := percentEncode query.toList
  String.ofList (if allowSlash then hideSlashes code else code)

/-- A still encoded query as it came in, with the codes of its slashes restored. -/
def restoreQuery (allowSlash : Bool) (value : String) : String :=
  if allowSlash then String.ofList (restoreSlashes value.toList) else value

example : encodeQuery true "AC/DC" = "AC%1FDC" := by decide +kernel
example : restoreQuery true "%%1F1F" = "%%2F1F" := by decide +kernel

end TermSearch.Route
