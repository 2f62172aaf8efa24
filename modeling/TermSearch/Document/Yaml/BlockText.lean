import TermSearch.Document.Yaml.Error
import TermSearch.Document.Yaml.Place

/-! Block scalars: lines of text that are indented deeper than their surroundings. A literal block keeps
its line ends, a folded one joins lines that do not start with a blank. The header says how the end is
treated and may give the indentation. -/
namespace TermSearch.Document.Yaml

/-- Which line ends at the end of a block are kept. -/
inductive Chomping
  | strip | clip | keep
  deriving DecidableEq, Repr

/-- The header of a block: its chomping, and by how much it is indented where that is given. -/
structure BlockHeader where
  chomping : Chomping := .clip
  increment : Option Nat := none
  deriving DecidableEq, Repr

def chompingOf? : Char → Option Chomping
  | '+' => some .keep
  | '-' => some .strip
  | _ => none

/-- The indicators of a header, in either order. -/
def headerIndicators : List Char → BlockHeader × List Char
  | [] => ({}, [])
  | c :: rest =>
    match chompingOf? c with
    | some chomping =>
      match rest with
      | d :: rest' =>
        if d.isDigit then (⟨chomping, some (d.toNat - 48)⟩, rest') else (⟨chomping, none⟩, rest)
      | [] => (⟨chomping, none⟩, [])
    | none =>
      if c.isDigit then
        match rest with
        | d :: rest' =>
          match chompingOf? d with
          | some chomping => (⟨chomping, some (c.toNat - 48)⟩, rest')
          | none => (⟨.clip, some (c.toNat - 48)⟩, rest)
        | [] => (⟨.clip, some (c.toNat - 48)⟩, [])
      else ({}, c :: rest)

/-- Drops a comment at the front of a text. -/
def dropComment (s : List Char) : List Char :=
  if s.head? = some '#' then s.dropWhile fun c => !isBreak c else s

/-- Drops the rest of a line that may hold spaces and a comment only, and tells whether a line follows. -/
def endOfLine (s : List Char) (error : Error) : Except Error (Bool × List Char) :=
  let rest := dropComment (s.dropWhile (· == ' '))
  match rest with
  | [] => .ok (false, [])
  | _ =>
    match takeBreak rest with
    | some (_, after) => .ok (true, after)
    | none => .error error

/-- Reads the header of a block up to the end of its line. -/
def readHeader (s : List Char) : Except Error (BlockHeader × List Char) := do
  let (header, rest) := headerIndicators s
  if header.increment = some 0 then .error .badHeader
  else if atSpace rest then do
    let (_, rest) ← endOfLine rest .badHeader
    return (header, rest)
  else .error .badHeader

/-- Line ends in front of a block, with the column behind them. -/
structure LeadingLines where
  breaks : List Char
  column : Nat
  rest : List Char

/-- Takes empty lines, and spaces up to an indentation on each line. -/
def leadingLines (indent column : Nat) (s : List Char) : LeadingLines :=
  match s with
  | ' ' :: rest =>
    if column < indent then leadingLines indent (column + 1) rest else ⟨[], column, ' ' :: rest⟩
  | s' =>
    match _h : takeBreak s' with
    | some (c, rest) =>
      let more := leadingLines indent 0 rest
      { more with breaks := c :: more.breaks }
    | none => ⟨[], column, s'⟩
termination_by s.length
decreasing_by
  · simp
  · exact length_lt_of_takeBreak _h

/-- The greatest number of spaces on the empty lines at the front of a text and on the line behind
them, counted from a column on. -/
def widestIndent (column : Nat) (s : List Char) : Nat :=
  match s with
  | ' ' :: rest => max (column + 1) (widestIndent (column + 1) rest)
  | s' =>
    match _h : takeBreak s' with
    | some (_, rest) => widestIndent 0 rest
    | none => 0
termination_by s.length
decreasing_by
  · simp
  · exact length_lt_of_takeBreak _h

theorem length_leadingLines_le (indent column : Nat) (s : List Char) :
    (leadingLines indent column s).rest.length ≤ s.length := by
  fun_induction leadingLines indent column s with
  | case1 column rest _ ih => simp only [List.length_cons]; omega
  | case2 => simp
  | case3 column s' _ c rest h more ih =>
    have := length_lt_of_takeBreak h
    change more.rest.length ≤ s'.length
    exact Nat.le_trans ih (Nat.le_of_lt this)
  | case4 => simp

/-- The line ends between two lines of a block as the text they stand for. -/
def joint (folded : Bool) (line : List Char) (lineEnd : Char) (next : LeadingLines) : List Char :=
  if folded && lineEnd == '\n' && !(line.head?.any isBlank) && !(next.rest.head?.any isBlank) then
    if next.breaks.isEmpty then [' '] else []
  else [lineEnd]

/-- The lines of a block from one line on: their text, the line ends at their end, and what follows. -/
def blockLines (folded : Bool) (indent : Nat) (s : List Char) :
    List Char × List Char × List Char × List Char :=
  match _h : takeBreak (s.dropWhile fun c => !isBreak c) with
  | none => (s.takeWhile fun c => !isBreak c, [], [], s.dropWhile fun c => !isBreak c)
  | some (c, rest) =>
    let line := s.takeWhile fun c => !isBreak c
    let next := leadingLines indent 0 rest
    if next.column = indent ∧ next.rest.length ≠ 0 then
      let (text, lineEnd, breaks, after) := blockLines folded indent (leadingLines indent 0 rest).rest
      (line ++ joint folded line c next ++ next.breaks ++ text, lineEnd, breaks, after)
    else (line, [c], next.breaks, next.rest)
termination_by s.length
decreasing_by
  have h1 := length_lt_of_takeBreak _h
  have h2 := length_dropWhile_le (fun c => !isBreak c) s
  have h3 := length_leadingLines_le indent 0 rest
  omega

/-- The block scalar whose indicator has been read, inside surroundings of some indentation, and what
follows it. -/
def blockText (folded : Bool) (outer : Int) (s : List Char) :
    Except Error (List Char × List Char) := do
  let (header, rest) ← readHeader s
  let least := (outer + 1).toNat.max 1
  let indent := match header.increment with
    | some n => least + n - 1
    | none => least.max (widestIndent 0 rest)
  let first := leadingLines indent 0 rest
  let (text, lineEnd, breaks, after) :=
    if first.column = indent ∧ first.rest ≠ [] then
      let (text, more) := blockLines folded indent first.rest
      (first.breaks ++ text, more)
    else ([], [], first.breaks, first.rest)
  let tail := match header.chomping with
    | .strip => []
    | .clip => lineEnd
    | .keep => lineEnd ++ breaks
  return (text ++ tail, after)

example : (blockText false 0 "\n  l1\n   l2\n\nb: 1".toList).toOption =
    some ("l1\n l2\n".toList, "b: 1".toList) := by decide +kernel
example : (blockText true 0 "-\n  f1\n  f2\n\n  f3\n".toList).toOption =
    some ("f1 f2\nf3".toList, []) := by decide +kernel

end TermSearch.Document.Yaml
