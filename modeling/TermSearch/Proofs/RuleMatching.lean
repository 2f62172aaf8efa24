import Mathlib.Data.List.TakeWhile
import TermSearch.Route.Pages

/-! How a web host reads routing rules. In a pattern a question mark makes the character before it optional, `(.+)`
captures at least one character and no line end, and a dollar sign stands for the end of the path, with or without a
line end there. Each part takes as much as the parts behind it allow, and a rule applies where its pattern matches the
path from the start on; the first rule that applies counts. A pattern with another special character is not read. -/
namespace TermSearch.Route

inductive PatternItem
  | char (c : Char)
  | maybe (c : Char)
  | capture
  | lineEnd
  deriving DecidableEq, Repr

open PatternItem

/-- The characters with a meaning of their own in a pattern. -/
def specialChars : List Char := ['.', '^', '$', '*', '+', '?', '{', '}', '[', ']', '\\', '|', '(', ')']

/-- Whether a character stands for itself in a pattern. -/
def isPlain (c : Char) : Bool := !specialChars.contains c

/-- The parts of a pattern. -/
def itemsOf? : List Char → Option (List PatternItem)
  | [] => some []
  | '(' :: '.' :: '+' :: ')' :: rest => (itemsOf? rest).map (capture :: ·)
  | '$' :: rest => (itemsOf? rest).map (lineEnd :: ·)
  | c :: '?' :: rest => if isPlain c then (itemsOf? rest).map (maybe c :: ·) else none
  | c :: rest => if isPlain c then (itemsOf? rest).map (char c :: ·) else none

/-- What the parts of a pattern capture where they match a text from its start on. -/
def matchItems : List PatternItem → List Char → Option (List (List Char))
  | [], _ => some []
  | char c :: items, s =>
    match s with
    | [] => none
    | d :: rest => if c = d then matchItems items rest else none
  | maybe c :: items, s =>
    match s with
    | [] => matchItems items []
    | d :: rest => if c = d then (matchItems items rest).or (matchItems items s) else matchItems items s
  | capture :: items, s =>
    let lengths := (List.range (s.takeWhile (· ≠ '\n')).length).reverse
    lengths.findSome? fun n => (matchItems items (s.drop (n + 1))).map (s.take (n + 1) :: ·)
  | lineEnd :: items, s => if s = [] ∨ s = ['\n'] then matchItems items s else none

/-- What a rule captures of a path to which it applies. -/
def captured? (rule : Pages.RoutingRule) (path : List Char) : Option (List String) :=
  ((itemsOf? rule.1.toList).bind fun items => matchItems items path).map (List.map String.ofList)

/-- The first rule that applies to a path, with what it captures. -/
def firstMatch? (rules : List Pages.RoutingRule) (path : List Char) : Option (Pages.RoutingRule × List String) :=
  rules.findSome? fun rule => (captured? rule path).map (rule, ·)

example : firstMatch? (Pages.slugRules "search" "news" ["post"]) "news/search/moon".toList =
    some (("news/search/(.+)/?$", "index.php?post_type=post&s=$matches[1]"), ["moon"]) := by decide +kernel

theorem firstMatch?_append (rules others : List Pages.RoutingRule) (path : List Char) :
    firstMatch? (rules ++ others) path = (firstMatch? rules path).or (firstMatch? others path) :=
  List.findSome?_append

theorem firstMatch?_cons (rule : Pages.RoutingRule) (rules : List Pages.RoutingRule) (path : List Char) :
    firstMatch? (rule :: rules) path = ((captured? rule path).map (rule, ·)).or (firstMatch? rules path) := by
  rw [firstMatch?, List.findSome?_cons, Option.or_eq_orElse]
  cases captured? rule path <;> rfl

theorem firstMatch?_eq_none_iff {rules : List Pages.RoutingRule} {path : List Char} :
    firstMatch? rules path = none ↔ ∀ rule ∈ rules, captured? rule path = none := by
  simp only [firstMatch?, List.findSome?_eq_none_iff, Option.map_eq_none_iff]

/-- A rule that applies first is one of the rules. -/
theorem mem_of_firstMatch? {rules : List Pages.RoutingRule} {path : List Char} {rule : Pages.RoutingRule}
    {captured : List String} (h : firstMatch? rules path = some (rule, captured)) : rule ∈ rules := by
  obtain ⟨other, hother, hmap⟩ := List.exists_of_findSome?_eq_some h
  obtain ⟨_, -, heq⟩ := Option.map_eq_some_iff.mp hmap
  exact (Prod.mk.inj heq).1 ▸ hother

section Reading

variable {front s : List Char}

theorem itemsOf?_cons_of_isPlain {c : Char} (hc : isPlain c = true) (hs : s.head? ≠ some '?') :
    itemsOf? (c :: s) = (itemsOf? s).map (char c :: ·) := by
  have hnot : ∀ d, isPlain d = false → c ≠ d := by
    rintro d hd rfl
    rw [hc] at hd
    cases hd
  rw [itemsOf?, if_pos hc]
  · exact fun rest heq _ => hnot '(' (by decide) heq
  · exact fun heq => hnot '$' (by decide) heq
  · rintro rest rfl
    exact hs rfl

/-- Characters that stand for themselves are read one by one. -/
theorem itemsOf?_append (hfront : ∀ c ∈ front, isPlain c = true) (hs : s.head? ≠ some '?') :
    itemsOf? (front ++ s) = (itemsOf? s).map (front.map char ++ ·) := by
  induction front with
  | nil => simp
  | cons c front ih =>
    have hnext : (front ++ s).head? ≠ some '?' := by
      cases front with
      | nil => exact hs
      | cons d front =>
        rintro heq
        obtain rfl := Option.some.inj heq
        exact absurd (hfront '?' (by simp)) (by decide)
    rw [List.cons_append, itemsOf?_cons_of_isPlain (hfront c List.mem_cons_self) hnext,
      ih fun d hd => hfront d (List.mem_cons_of_mem _ hd), Option.map_map]
    rfl

end Reading

section Matching

variable {items : List PatternItem} {front s : List Char} {captured : List (List Char)}

theorem matchItems_chars_iff : matchItems (front.map char ++ items) s = some captured ↔
    ∃ rest, s = front ++ rest ∧ matchItems items rest = some captured := by
  induction front generalizing s with
  | nil => simp
  | cons c front ih =>
    cases s with
    | nil => simp [matchItems]
    | cons d s =>
      rw [List.map_cons, List.cons_append, matchItems]
      split
      · rename_i heq
        subst heq
        simp [ih]
      · rename_i hne
        simp [Ne.symm hne]

/-- The end of a pattern: a slash that may be missing, and the end of the path. -/
def patternEnd : List PatternItem := [maybe '/', lineEnd]

theorem matchItems_patternEnd (s : List Char) : matchItems patternEnd s =
    if s = [] ∨ s = ['\n'] ∨ s = ['/'] ∨ s = ['/', '\n'] then some [] else none := by
  have hend : ∀ s, matchItems [lineEnd] s = if s = [] ∨ s = ['\n'] then some [] else none := fun _ => rfl
  cases s with
  | nil => simp [patternEnd, matchItems]
  | cons c s =>
    rw [patternEnd, matchItems, hend, hend]
    by_cases hc : '/' = c
    · subst hc
      by_cases hs : s = [] ∨ s = ['\n']
      · simp [hs]
      · simp [hs]
    · simp [hc, Ne.symm hc]

/-- Without a line end at its end, a text is matched by the end of a pattern only where it is empty or a slash. -/
theorem matchItems_patternEnd_iff (hs : s.getLast? ≠ some '\n') : matchItems patternEnd s = some captured ↔
    captured = [] ∧ (s = [] ∨ s = ['/']) := by
  have hshapes : (s = [] ∨ s = ['\n'] ∨ s = ['/'] ∨ s = ['/', '\n']) ↔ s = [] ∨ s = ['/'] := by
    constructor
    · rintro (rfl | rfl | rfl | rfl)
      · exact Or.inl rfl
      · exact absurd rfl hs
      · exact Or.inr rfl
      · exact absurd rfl hs
    · rintro (rfl | rfl) <;> simp
  rw [matchItems_patternEnd, Option.ite_none_right_eq_some, hshapes, Option.some.injEq, and_comm,
    @eq_comm _ [] captured]

/-- What stands behind a stretch without line ends has all line ends of the text. -/
theorem mem_drop_of_lt_takeWhile {n : Nat} (hn : n < (s.takeWhile (· ≠ '\n')).length) (hmem : '\n' ∈ s) :
    '\n' ∈ s.drop (n + 1) := by
  have hsplit := List.takeWhile_append_dropWhile (p := (· ≠ '\n')) (l := s)
  have hrest : '\n' ∈ s.dropWhile (· ≠ '\n') := by
    rw [← hsplit, List.mem_append] at hmem
    refine hmem.resolve_left fun hfront => ?_
    simpa using List.mem_takeWhile_imp hfront
  rw [← hsplit, List.drop_append_of_le_length hn]
  exact List.mem_append_right _ hrest

/-- At the end of a pattern a capture takes the whole rest of a path: a rest that is not empty, has no line end, and so
is matched with nothing left for the slash. -/
theorem matchItems_capture_iff (hs : s.getLast? ≠ some '\n') :
    matchItems (capture :: patternEnd) s = some captured ↔ s ≠ [] ∧ '\n' ∉ s ∧ captured = [s] := by
  rw [matchItems]
  by_cases hmem : '\n' ∈ s
  · have hnone : ∀ n ∈ (List.range (s.takeWhile (· ≠ '\n')).length).reverse,
        (matchItems patternEnd (s.drop (n + 1))).map (s.take (n + 1) :: ·) = none := by
      intro n hn
      have hlater := mem_drop_of_lt_takeWhile (List.mem_range.mp (List.mem_reverse.mp hn)) hmem
      have hlast : (s.drop (n + 1)).getLast? ≠ some '\n' := by
        rwa [List.getLast?_drop, if_neg]
        intro hshort
        rw [List.drop_eq_nil_of_le hshort] at hlater
        cases hlater
      rw [Option.map_eq_none_iff, Option.eq_none_iff_forall_ne_some]
      intro captured hcaptured
      rcases ((matchItems_patternEnd_iff hlast).mp hcaptured).2 with heq | heq
      · rw [heq] at hlater
        cases hlater
      · rw [heq] at hlater
        exact absurd hlater (by decide)
    rw [List.findSome?_eq_none_iff.mpr hnone]
    simp [hmem]
  · have hrun : s.takeWhile (· ≠ '\n') = s := by
      rw [List.takeWhile_eq_self_iff]
      rintro c hc
      simpa using fun heq : c = '\n' => hmem (heq ▸ hc)
    rw [hrun]
    cases hlength : s.length with
    | zero => simp [List.length_eq_zero_iff.mp hlength]
    | succ n =>
      have hne : s ≠ [] := List.ne_nil_of_length_eq_add_one hlength
      have hall : s.drop (n + 1) = [] ∧ s.take (n + 1) = s := by
        rw [← hlength]
        exact ⟨List.drop_length, List.take_length⟩
      have hfirst : (matchItems patternEnd (s.drop (n + 1))).map (s.take (n + 1) :: ·) = some [s] := by
        rw [hall.1, hall.2, matchItems_patternEnd]
        rfl
      rw [List.range_succ, List.reverse_append, List.reverse_singleton, List.singleton_append, List.findSome?_cons,
        hfirst]
      simp [hne, hmem, eq_comm]

end Matching

theorem getLast?_ne_of_append {front rest : List Char} {c : Char} (h : (front ++ rest).getLast? ≠ some c) :
    rest.getLast? ≠ some c := by
  intro hrest
  exact h (by rw [List.getLast?_append, hrest]; rfl)

section Patterns

variable {front request : String} {path : List Char} {captured : List String}

/-- A rule with a capture behind a fixed path applies to the paths with a slash and something more behind it. -/
theorem captured?_query_iff (hfront : ∀ c ∈ front.toList, isPlain c = true) (hpath : path.getLast? ≠ some '\n') :
    captured? (front ++ "/(.+)/?$", request) path = some captured ↔
      ∃ rest, path = front.toList ++ '/' :: rest ∧ rest ≠ [] ∧ '\n' ∉ rest ∧ captured = [String.ofList rest] := by
  have hplain : ∀ c ∈ front.toList ++ ['/'], isPlain c = true := by
    intro c hc
    rcases List.mem_append.mp hc with hc | hc
    · exact hfront c hc
    · rw [List.mem_singleton.mp hc]
      decide
  have hitems : itemsOf? (front ++ "/(.+)/?$").toList =
      some ((front.toList ++ ['/']).map char ++ capture :: patternEnd) := by
    have hread := itemsOf?_append hplain (s := "(.+)/?$".toList) (by decide)
    rw [String.toList_append, show "/(.+)/?$".toList = ['/'] ++ "(.+)/?$".toList from rfl, ← List.append_assoc, hread]
    rfl
  have hlast : ∀ rest, path = front.toList ++ ['/'] ++ rest → rest.getLast? ≠ some '\n' := fun _ hrest =>
    getLast?_ne_of_append (hrest ▸ hpath)
  rw [captured?, hitems, Option.bind_some]
  simp only [Option.map_eq_some_iff, matchItems_chars_iff]
  constructor
  · rintro ⟨_, ⟨rest, hrest, hmatch⟩, rfl⟩
    obtain ⟨hne, hline, rfl⟩ := (matchItems_capture_iff (hlast rest hrest)).mp hmatch
    exact ⟨rest, by simpa using hrest, hne, hline, rfl⟩
  · rintro ⟨rest, hrest, hne, hline, rfl⟩
    have hsplit : path = front.toList ++ ['/'] ++ rest := by simpa using hrest
    exact ⟨[rest], ⟨rest, hsplit, (matchItems_capture_iff (hlast rest hsplit)).mpr ⟨hne, hline, rfl⟩⟩, rfl⟩

/-- A rule for a fixed path applies to this path, with or without a slash behind it. -/
theorem captured?_blank_iff (hfront : ∀ c ∈ front.toList, isPlain c = true) (hpath : path.getLast? ≠ some '\n') :
    captured? (front ++ "/?$", request) path = some captured ↔
      captured = [] ∧ (path = front.toList ∨ path = front.toList ++ ['/']) := by
  have hitems : itemsOf? (front ++ "/?$").toList = some (front.toList.map char ++ patternEnd) := by
    rw [String.toList_append, itemsOf?_append hfront (by decide)]
    rfl
  have hlast : ∀ rest, path = front.toList ++ rest → rest.getLast? ≠ some '\n' := fun _ hrest =>
    getLast?_ne_of_append (hrest ▸ hpath)
  rw [captured?, hitems, Option.bind_some]
  simp only [Option.map_eq_some_iff, matchItems_chars_iff]
  constructor
  · rintro ⟨_, ⟨rest, hrest, hmatch⟩, rfl⟩
    obtain ⟨rfl, rfl | rfl⟩ := (matchItems_patternEnd_iff (hlast rest hrest)).mp hmatch
    · exact ⟨rfl, Or.inl (hrest.trans (List.append_nil _))⟩
    · exact ⟨rfl, Or.inr hrest⟩
  · rintro ⟨rfl, hpath | hpath⟩
    · have hsplit : path = front.toList ++ [] := hpath.trans (List.append_nil _).symm
      exact ⟨[], ⟨[], hsplit, (matchItems_patternEnd_iff (hlast _ hsplit)).mpr ⟨rfl, Or.inl rfl⟩⟩, rfl⟩
    · exact ⟨[], ⟨['/'], hpath, (matchItems_patternEnd_iff (hlast _ hpath)).mpr ⟨rfl, Or.inr rfl⟩⟩, rfl⟩

end Patterns

end TermSearch.Route
