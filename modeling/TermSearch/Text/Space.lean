import TermSearch.Text.CharSet
import TermSearch.Text.Split

/-! White space and line ends. White space is a smaller set than the blank characters of terms: it
holds the separators and the separating controls, but no format character. -/
namespace TermSearch.Text

def spaces : CharSet where
  intervals := [
    (0x9, 0xD), (0x1C, 0x20), (0x85, 0x85), (0xA0, 0xA0), (0x1680, 0x1680), (0x2000, 0x200A),
    (0x2028, 0x2029), (0x202F, 0x202F), (0x205F, 0x205F), (0x3000, 0x3000)]

def isSpace (c : Char) : Bool := spaces.contains c

/-- Drops the characters, or other parts, of a class at both ends. -/
def stripChars {α : Type} (p : α → Bool) (s : List α) : List α :=
  ((s.dropWhile p).reverse.dropWhile p).reverse

section Ends

variable {α : Type} {p : α → Bool} {s : List α} {c : α}

theorem dropWhile_eq_self (h : ∀ c ∈ s.head?, p c = false) : s.dropWhile p = s := by
  cases s with
  | nil => rfl
  | cons c rest => rw [List.dropWhile_cons_of_neg (by simp [h c rfl])]

theorem eq_false_of_mem_head?_dropWhile (h : c ∈ (s.dropWhile p).head?) : p c = false := by
  have hfirst := List.head?_dropWhile_not p s
  rwa [h] at hfirst

/-- A text with a character outside of a class at both ends is kept. -/
theorem stripChars_eq_self (hfirst : ∀ c ∈ s.head?, p c = false) (hlast : ∀ c ∈ s.getLast?, p c = false) :
    stripChars p s = s := by
  rw [stripChars, dropWhile_eq_self hfirst, dropWhile_eq_self (by rwa [List.head?_reverse]), List.reverse_reverse]

theorem stripChars_cons_of_pos (h : p c = true) (s : List α) : stripChars p (c :: s) = stripChars p s := by
  rw [stripChars, List.dropWhile_cons_of_pos h, stripChars]

theorem eq_false_of_mem_getLast?_stripChars (h : c ∈ (stripChars p s).getLast?) : p c = false := by
  rw [stripChars, List.getLast?_reverse] at h
  exact eq_false_of_mem_head?_dropWhile h

theorem eq_false_of_mem_head?_stripChars (h : c ∈ (stripChars p s).head?) : p c = false := by
  have hprefix : stripChars p s <+: s.dropWhile p := by
    rw [stripChars, ← List.reverse_suffix, List.reverse_reverse]
    exact List.dropWhile_suffix p
  obtain ⟨rest, hrest⟩ := hprefix
  refine eq_false_of_mem_head?_dropWhile (s := s) ?_
  rw [← hrest, List.head?_append, h]
  rfl

/-- What is left of a text is not stripped any more. -/
theorem stripChars_stripChars (p : α → Bool) (s : List α) : stripChars p (stripChars p s) = stripChars p s :=
  stripChars_eq_self (fun _ => eq_false_of_mem_head?_stripChars) fun _ => eq_false_of_mem_getLast?_stripChars

end Ends

/-- Drops white space at both ends. -/
def strip (s : String) : String := String.ofList (stripChars isSpace s.toList)

theorem strip_strip (s : String) : strip (strip s) = strip s := by
  rw [strip, strip, String.toList_ofList, stripChars_stripChars]

/-- Drops slashes at both ends. -/
def stripSlashes (s : String) : String := String.ofList (stripChars (· == '/') s.toList)

/-- Drops the given class of characters at the end. -/
def stripEnd (p : Char → Bool) (s : String) : String :=
  String.ofList ((s.toList.reverse.dropWhile p).reverse)

/-- The words of a text: its nonempty stretches without white space. -/
def words (s : String) : List String :=
  ((splitWhen isSpace s.toList).filter (! ·.isEmpty)).map String.ofList

def isLineEnd (c : Char) : Bool :=
  ['\n', '\r', '\x0b', '\x0c', '\x1c', '\x1d', '\x1e', '\x85', '\u2028', '\u2029'].contains c

/-- The lines of a text without their ends; a carriage return with a line feed after it is one end,
and nothing follows the last end. -/
def linesAux : List Char → List Char → List (List Char)
  | [], [] => []
  | line, [] => [line.reverse]
  | line, '\r' :: '\n' :: rest => line.reverse :: linesAux [] rest
  | line, c :: rest =>
    if isLineEnd c then line.reverse :: linesAux [] rest else linesAux (c :: line) rest

def lines (s : String) : List String := (linesAux [] s.toList).map String.ofList

/-- Characters with every line end as a line feed: a carriage return, alone or before a line feed, is
read as one. -/
def unifyChars : List Char → List Char
  | [] => []
  | '\r' :: '\n' :: rest => '\n' :: unifyChars rest
  | c :: rest => (if c = '\r' then '\n' else c) :: unifyChars rest

/-- A text with every line end as a line feed. -/
def unifyLineEnds (s : String) : String := String.ofList (unifyChars s.toList)

theorem not_mem_unifyChars (s : List Char) : '\r' ∉ unifyChars s := by
  fun_induction unifyChars s with
  | case1 => simp
  | case2 rest ih => simp [ih]
  | case3 c rest _ ih =>
    by_cases h : c = '\r'
    · simp [h, ih]
    · simp [h, ih, Ne.symm h]

example : words " a  b " = ["a", "b"] := by decide +kernel
example : lines "a\r\nb\n\nc\n" = ["a", "b", "", "c"] := by decide +kernel
example : unifyLineEnds "a\r\nb\rc\n\r" = "a\nb\nc\n\n" := by decide +kernel

end TermSearch.Text
