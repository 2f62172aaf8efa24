import TermSearch.Document.Yaml.Place

/-! Plain scalars: text without quotes. It goes on over line ends as long as the next line is indented
deeper than its surroundings; a single line end inside it stands for a space. -/
namespace TermSearch.Document.Yaml

/-- Whether a plain scalar stops at this place of a line. -/
def endsRun (inFlow : Bool) : List Char → Bool
  | [] => true
  | c :: rest =>
    isBlank c || isBreak c || (inFlow && [',', '?', '[', ']', '\x7b', '\x7d'].contains c) ||
      (c == ':' &&
        (atGap rest || (inFlow && [',', '[', ']', '\x7b', '\x7d'].contains (rest.headD ' '))))

/-- The part of a plain scalar up to the next blank, and what follows it. -/
def plainRun (inFlow : Bool) : List Char → List Char × List Char
  | [] => ([], [])
  | c :: rest =>
    if endsRun inFlow (c :: rest) then ([], c :: rest)
    else
      let (run, after) := plainRun inFlow rest
      (c :: run, after)

/-- What separates two parts of a plain scalar: the text it stands for, empty where the scalar cannot
go on, the column of the next part where that is on another line, and what follows. -/
structure PlainGap where
  text : List Char
  column : Option Nat
  rest : List Char

/-- Empty lines behind a line end. The answer holds the line ends, whether a document mark stops them,
the column behind them and what follows. -/
def emptyLines (column : Nat) (s : List Char) : List Char × Bool × Nat × List Char :=
  match s with
  | ' ' :: rest => emptyLines (column + 1) rest
  | s' =>
    match _h : takeBreak s' with
    | none => ([], false, column, s')
    | some (c, rest) =>
      if atDocumentMark rest then ([], true, 0, rest)
      else
        let (breaks, stops, column, after) := emptyLines 0 rest
        (c :: breaks, stops, column, after)
termination_by s.length
decreasing_by
  · simp
  · exact length_lt_of_takeBreak _h

/-- The line ends between two lines of text as the text they stand for: a single line feed is a space,
and of several the first is dropped. -/
def foldBreaks (first : Char) (others : List Char) : List Char :=
  (if first != '\n' then [first] else if others.isEmpty then [' '] else []) ++ others

/-- The gap at the front of a text. -/
def plainGap (s : List Char) : PlainGap :=
  let spaces := s.takeWhile (· == ' ')
  let rest := s.dropWhile (· == ' ')
  match takeBreak rest with
  | none => ⟨spaces, none, rest⟩
  | some (c, rest) =>
    if atDocumentMark rest then ⟨[], some 0, rest⟩
    else
      let (breaks, stops, column, rest) := emptyLines 0 rest
      ⟨if stops then [] else foldBreaks c breaks, some column, rest⟩

theorem length_plainRun (inFlow : Bool) (s : List Char) :
    (plainRun inFlow s).1.length + (plainRun inFlow s).2.length = s.length := by
  induction s with
  | nil => rfl
  | cons c rest ih =>
    unfold plainRun
    split
    · simp
    · simp only [List.length_cons]; omega

theorem length_emptyLines_le (column : Nat) (s : List Char) :
    (emptyLines column s).2.2.2.length ≤ s.length := by
  fun_induction emptyLines column s with
  | case1 column rest ih => simp only [List.length_cons]; omega
  | case2 => simp
  | case3 column s' h c rest h' =>
    have := length_lt_of_takeBreak h'
    simp only; omega
  | case4 column s' h c rest h' _ breaks stops column' after heq ih =>
    have := length_lt_of_takeBreak h'
    rw [heq] at ih
    simp only at ih ⊢
    omega

theorem length_plainGap_le (s : List Char) : (plainGap s).rest.length ≤ s.length := by
  have hd := length_dropWhile_le (· == ' ') s
  unfold plainGap
  simp only
  split
  · exact hd
  · rename_i c rest h
    have := length_lt_of_takeBreak h
    split
    · simp only; omega
    · have := length_emptyLines_le 0 rest
      change (emptyLines 0 rest).2.2.2.length ≤ s.length
      omega

/-- A plain scalar: its text, whether another line begins behind it, and what follows. -/
structure PlainText where
  text : List Char
  crossesLine : Bool
  rest : List Char

/-- Whether a plain scalar stops behind a gap: the gap is empty, a comment follows, or the next line is
not indented enough. -/
def PlainGap.stops (gap : PlainGap) (inFlow : Bool) (indent : Int) : Bool :=
  gap.text.isEmpty || gap.rest.head? == some '#' ||
    (!inFlow && gap.column.any fun column => column ≤ indent)

/-- The plain scalar at the front of a text. -/
def plainText (inFlow : Bool) (indent : Int) (s : List Char) : PlainText :=
  if _h : (plainRun inFlow s).1.length = 0 then ⟨[], false, s⟩
  else
    let run := (plainRun inFlow s).1
    let gap := plainGap (plainRun inFlow s).2
    if gap.stops inFlow indent then ⟨run, gap.column.isSome, gap.rest⟩
    else
      let more := plainText inFlow indent (plainGap (plainRun inFlow s).2).rest
      if more.text.isEmpty then ⟨run, gap.column.isSome, more.rest⟩
      else ⟨run ++ gap.text ++ more.text, more.crossesLine, more.rest⟩
termination_by s.length
decreasing_by
  have h1 := length_plainRun inFlow s
  have h2 := length_plainGap_le (plainRun inFlow s).2
  omega

example : (plainText false 0 "x y  z # c".toList).text = "x y  z".toList := by decide +kernel
example : (plainText false 0 "x\n  y\n\n  z\nw: 1".toList).text = "x y\nz".toList := by decide +kernel

end TermSearch.Document.Yaml
