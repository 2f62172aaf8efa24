import TermSearch.Text.CharSet
import TermSearch.Text.Letter
import TermSearch.Text.Space

/-! Cutting a written date into tokens: words, numbers with an optional fraction, single spaces and
single other characters. Words and numbers joined by points are one token at first and are cut at the
points where they are no decimal number. -/
namespace TermSearch.Calendar

/-- What the token that is being read looks like so far. -/
inductive Shape
  | none
  | letters
  | digits
  | dottedLetters
  | dottedDigits
  deriving DecidableEq, Repr

/-- The shape of a token with one more character, if the character belongs to it. The characters read
so far are given in reverse. -/
def Shape.extend (shape : Shape) (soFar : List Char) (c : Char) : Option Shape :=
  match shape with
  | none => Option.none
  | letters =>
    if Text.isLetter c then some letters else if c = '.' then some dottedLetters else Option.none
  | digits =>
    if Text.isDigitSign c then some digits
    else if c = '.' ∨ (c = ',' ∧ 2 ≤ soFar.length) then some dottedDigits else Option.none
  | dottedLetters =>
    if c = '.' ∨ Text.isLetter c then some dottedLetters
    else if Text.isDigitSign c ∧ soFar.head? = some '.' then some dottedDigits else Option.none
  | dottedDigits =>
    if c = '.' ∨ Text.isDigitSign c then some dottedDigits
    else if Text.isLetter c ∧ soFar.head? = some '.' then some dottedLetters else Option.none

/-- Whether letters have been seen once another character follows a token of this shape. -/
def Shape.seesLetters : Shape → Bool
  | letters => true
  | dottedLetters => true
  | _ => false

/-- Cuts a text at points and commas and keeps them. -/
def cutAtMarks (word : List Char) : List Char → List (List Char)
  | [] => if word.isEmpty then [] else [word.reverse]
  | c :: rest =>
    if c = '.' ∨ c = ',' then
      (if word.isEmpty then [] else [word.reverse]) ++ [c] :: cutAtMarks [] rest
    else cutAtMarks (c :: word) rest

/-- The tokens that the characters of one token stand for. -/
def finish (shape : Shape) (sawLetters : Bool) (soFar : List Char) : List (List Char) :=
  let token := soFar.reverse
  match shape with
  | .none => []
  | .letters | .digits => [token]
  | .dottedLetters | .dottedDigits =>
    if sawLetters || 1 < token.count '.' || soFar.head? == some '.' || soFar.head? == some ',' then
      cutAtMarks [] token
    else if shape = .dottedDigits ∧ token.count '.' = 0 then
      [token.map fun c => if c = ',' then '.' else c]
    else [token]

/-- The tokens from a place on, with the token that is being read there. -/
def tokensFrom (shape : Shape) (sawLetters : Bool) (soFar : List Char) :
    List Char → List (List Char)
  | [] => finish shape sawLetters soFar
  | c :: rest =>
    let sawLetters := sawLetters || shape.seesLetters
    match shape.extend soFar c with
    | some shape' => tokensFrom shape' sawLetters (c :: soFar) rest
    | none =>
      finish shape sawLetters soFar ++
        if Text.isLetter c then tokensFrom .letters false [c] rest
        else if Text.isDigitSign c then tokensFrom .digits false [c] rest
        else (if Text.isSpace c then [' '] else [c]) :: tokensFrom .none false [] rest

def dateTokens (text : String) : List String :=
  (tokensFrom .none false [] (text.toList.filter (· != '\x00'))).map String.ofList

example : dateTokens "5 2024 of 東京" = ["5", " ", "2024", " ", "of", " ", "東京"] := by decide +kernel

end TermSearch.Calendar
