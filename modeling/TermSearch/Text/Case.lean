import TermSearch.Text.CaseTable

/-! Upper and lower case of texts, by the full mappings of the character standard. A capital sigma
becomes the final form where a letter stands before it and none after it. Folding, in which texts are
compared, changes the letters A to Z only: fullwidth and accented letters keep their case. -/
namespace TermSearch.Text

/-- Maps A to Z to a to z and every other character to itself. -/
def foldChar (c : Char) : Char :=
  if 'A' ≤ c ∧ c ≤ 'Z' then Char.ofNat (c.toNat + 32) else c

def foldChars (s : List Char) : List Char := s.map foldChar

@[simp] theorem foldChars_nil : foldChars [] = [] := rfl

@[simp] theorem foldChars_cons (c : Char) (s : List Char) :
    foldChars (c :: s) = foldChar c :: foldChars s := rfl

@[simp] theorem foldChars_append (s t : List Char) :
    foldChars (s ++ t) = foldChars s ++ foldChars t := by simp [foldChars]

@[simp] theorem length_foldChars (s : List Char) : (foldChars s).length = s.length := by
  simp [foldChars]

def fold (s : String) : String := String.ofList (foldChars s.toList)

@[simp] theorem toList_fold (s : String) : (fold s).toList = foldChars s.toList := by simp [fold]

/-- The other case of a character by tables of runs and expansions. -/
def mapCase (runs : List CaseRun) (expansions : List (Nat × List Nat)) (c : Char) : List Char :=
  match expansions.find? fun e => e.1 == c.toNat with
  | some e => e.2.map Char.ofNat
  | none =>
    match runs.find? fun r => r.contains c.toNat with
    | some r => [Char.ofNat ((c.toNat : Int) + r.shift).toNat]
    | none => [c]

def upper (s : String) : String :=
  String.ofList (s.toList.flatMap (mapCase upperRuns upperExpansions))

/-- Whether the nearest character that counts is a letter with case. -/
def nextIsCased (s : List Char) : Bool :=
  ((s.dropWhile caseIgnorable.contains).head?).any casedLetters.contains

/-- The lower case of the remaining characters; `before` holds those in front, the nearest first. -/
def lowerFrom (before : List Char) : List Char → List Char
  | [] => []
  | c :: rest =>
    (if c = 'Σ' then [if nextIsCased before && !nextIsCased rest then 'ς' else 'σ']
      else mapCase lowerRuns lowerExpansions c) ++ lowerFrom (c :: before) rest

def lower (s : String) : String := String.ofList (lowerFrom [] s.toList)

example : fold "TOWER Straße" = "tower straße" := by decide +kernel
example : upper "ıß" = "ISS" := by decide +kernel
example : lower "ΑΣ ΣΑ" = "ας σα" := by decide +kernel

end TermSearch.Text
