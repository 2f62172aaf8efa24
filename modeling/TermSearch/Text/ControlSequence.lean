/-! Control sequences of terminals: an escape character, a bracket, parameters and a letter. A text that is
not shown on a terminal is written without them. -/
namespace TermSearch.Text

def escapeChar : Char := '\x1b'

/-- Whether a character belongs to the parameters of a control sequence. -/
def isParameter (c : Char) : Bool := c.isDigit || c == ';' || c == '?'

/-- How many characters the control sequence has that a text starts with; none where there is no such
sequence. -/
def controlLength (s : List Char) : Nat :=
  match s with
  | c :: '[' :: rest =>
    let parameters := rest.takeWhile isParameter
    if c = escapeChar ∧ (rest.drop parameters.length).head?.any Char.isAlpha then parameters.length + 3
    else 0
  | _ => 0

/-- What is left of a text without its control sequences, behind a number of characters that are left
out. -/
def withoutControlsFrom : Nat → List Char → List Char
  | _, [] => []
  | n + 1, _ :: rest => withoutControlsFrom n rest
  | 0, c :: rest =>
    match controlLength (c :: rest) with
    | 0 => c :: withoutControlsFrom 0 rest
    | n + 1 => withoutControlsFrom n rest

/-- A text without its control sequences. -/
def withoutControls (s : String) : String := String.ofList (withoutControlsFrom 0 s.toList)

theorem controlLength_eq_zero {c : Char} (h : c ≠ escapeChar) (rest : List Char) :
    controlLength (c :: rest) = 0 := by
  unfold controlLength
  split
  · rename_i heq
    cases heq
    simp [h]
  · rfl

/-- A text without escape characters has no control sequences. -/
theorem withoutControls_eq {s : String} (h : escapeChar ∉ s.toList) : withoutControls s = s := by
  have go (cs : List Char) (hc : escapeChar ∉ cs) : withoutControlsFrom 0 cs = cs := by
    induction cs with
    | nil => rfl
    | cons c rest ih =>
      simp only [List.mem_cons, not_or] at hc
      simp [withoutControlsFrom, controlLength_eq_zero (Ne.symm hc.1), ih hc.2]
  rw [withoutControls, go s.toList h, String.ofList_toList]

example : withoutControls "a\x1b[1;31mb\x1b[0mc" = "abc" := by decide +kernel
example : withoutControls "\x1b[\x1b[Kx\x1b[1" = "\x1b[x\x1b[1" := by decide +kernel

end TermSearch.Text
