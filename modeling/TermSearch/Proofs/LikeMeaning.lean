import Mathlib.Data.List.TakeWhile
import Mathlib.Tactic.TFAE
import TermSearch.Proofs.Occurrence
import TermSearch.Sql.Compile

/-! What an operand of `LIKE` stands for, said item by item, and the agreement of the two matchers: where the
database reads every character as it stands, the operand that is written for a pattern matches a text exactly when
the pattern accepts it. Every character of a segment stands for itself then, percent signs, underscores and
backslashes included. -/
namespace TermSearch.Sql

open Query (Pattern OccurInOrder occurInOrder_nil)
open Text (foldChar foldChars)

/-- A text fits the items of an operand. -/
def Fits : List LikeItem → List Char → Prop
  | [], s => s = []
  | .anyText :: items, s => ∃ rest, rest <:+ s ∧ Fits items rest
  | .anyChar :: items, s => ∃ c rest, s = c :: rest ∧ Fits items rest
  | .char c :: items, s => ∃ d rest, s = d :: rest ∧ foldChar d = foldChar c ∧ Fits items rest

theorem mem_endings {s t : List Char} : t ∈ endings s ↔ t <:+ s := by
  induction s with
  | nil => simp [endings]
  | cons c s ih => rw [endings, List.mem_cons, ih, List.suffix_cons_iff]

theorem pairwise_endings (s : List Char) : (endings s).Pairwise fun a b => b <:+ a := by
  induction s with
  | nil => simp [endings]
  | cons c s ih =>
    rw [endings, List.pairwise_cons]
    refine ⟨fun t ht => ?_, ih⟩
    exact (mem_endings.mp ht).trans (List.suffix_cons c s)

theorem suffix_of_suffix_cons {c d : Char} {s t : List Char} (h : (d :: t) <:+ (c :: s)) : t <:+ s := by
  rcases List.suffix_cons_iff.mp h with h | h
  · exact (List.cons.inj h).2 ▸ List.suffix_refl t
  · exact (List.suffix_cons d t).trans h

namespace LikeItem

/-- The endings that remain keep their order: each is an ending of those in front of it. -/
theorem pairwise_step {remaining : List (List Char)} (item : LikeItem)
    (h : remaining.Pairwise fun a b => b <:+ a) : (item.step remaining).Pairwise fun a b => b <:+ a := by
  cases item with
  | anyText =>
    cases remaining with
    | nil => exact List.Pairwise.nil
    | cons s others => exact pairwise_endings s
  | anyChar =>
    rw [step, List.pairwise_filterMap]
    refine h.imp fun {a b} hab x hx y hy => ?_
    cases a <;> cases b <;> simp only [List.tail?, Option.some.injEq, reduceCtorEq] at hx hy
    subst hx hy
    exact suffix_of_suffix_cons hab
  | char c =>
    rw [step, List.pairwise_filterMap]
    refine h.imp fun {a b} hab x hx y hy => ?_
    cases a <;> cases b <;> simp only [Option.ite_none_right_eq_some, Option.some.injEq, reduceCtorEq] at hx hy
    obtain ⟨-, rfl⟩ := hx
    obtain ⟨-, rfl⟩ := hy
    exact suffix_of_suffix_cons hab

/-- One item is matched at the start of some remaining ending, or of none. -/
theorem exists_mem_step {remaining : List (List Char)} (item : LikeItem) (items : List LikeItem)
    (h : remaining.Pairwise fun a b => b <:+ a) :
    (∃ s ∈ item.step remaining, Fits items s) ↔ ∃ s ∈ remaining, Fits (item :: items) s := by
  cases item with
  | anyText =>
    cases remaining with
    | nil => simp [step]
    | cons longest others =>
      simp only [step, List.head?_cons, Option.map_some, Option.getD_some, mem_endings, Fits]
      constructor
      · rintro ⟨s, hs, hfits⟩
        exact ⟨longest, by simp, s, hs, hfits⟩
      · rintro ⟨s, hs, rest, hrest, hfits⟩
        refine ⟨rest, hrest.trans ?_, hfits⟩
        rcases List.mem_cons.mp hs with rfl | hs
        · exact List.suffix_refl s
        · exact (List.pairwise_cons.mp h).1 s hs
  | anyChar =>
    simp only [step, List.mem_filterMap, Fits]
    constructor
    · rintro ⟨rest, ⟨s, hs, htail⟩, hfits⟩
      cases s with
      | nil => simp at htail
      | cons c s => exact ⟨_, hs, c, s, rfl, Option.some.inj htail ▸ hfits⟩
    · rintro ⟨_, hs, c, rest, rfl, hfits⟩
      exact ⟨rest, ⟨_, hs, rfl⟩, hfits⟩
  | char c =>
    simp only [step, List.mem_filterMap, Fits]
    constructor
    · rintro ⟨rest, ⟨s, hs, htail⟩, hfits⟩
      cases s with
      | nil => simp at htail
      | cons d s =>
        obtain ⟨hd, htail⟩ := Option.ite_none_right_eq_some.mp htail
        exact ⟨_, hs, d, s, rfl, hd, Option.some.inj htail ▸ hfits⟩
    · rintro ⟨_, hs, d, rest, rfl, hd, hfits⟩
      exact ⟨rest, ⟨_, hs, by simp [hd]⟩, hfits⟩

/-- Following all remaining endings at once finds a fit whenever there is one. -/
theorem exists_nil_mem_foldl_step {items : List LikeItem} {remaining : List (List Char)}
    (h : remaining.Pairwise fun a b => b <:+ a) :
    [] ∈ items.foldl step remaining ↔ ∃ s ∈ remaining, Fits items s := by
  induction items generalizing remaining with
  | nil => simp [Fits]
  | cons item items ih =>
    rw [List.foldl_cons, ih (pairwise_step item h), exists_mem_step item items h]

end LikeItem

theorem like_iff {operand s : String} :
    like operand s = true ↔ ∃ items, likeItems? (readChars operand) = some items ∧ Fits items (readChars s) := by
  have hany (items : List LikeItem) : ((items.foldl LikeItem.step [readChars s]).any List.isEmpty) = true ↔
      Fits items (readChars s) := by
    rw [List.any_eq_true]
    simp only [List.isEmpty_iff, exists_eq_right]
    rw [LikeItem.exists_nil_mem_foldl_step (List.pairwise_singleton _ _)]
    simp
  unfold like
  cases likeItems? (readChars operand) with
  | none => simp
  | some items => simp [hany]

/-- Whether the database reads a character as it stands. -/
def isLegible (c : Char) : Bool := c ≠ '\x00' && readChar c == c

/-- A text that the database reads as it stands: without a null character, and without the two characters that it takes
for others. -/
def IsLegible (s : String) : Prop := ∀ c ∈ s.toList, isLegible c = true

/-- Whether all texts of a list are legible can be computed. -/
theorem forall_isLegible_of_all {texts : List String}
    (h : (texts.all fun s => s.toList.all isLegible) = true) : ∀ s ∈ texts, IsLegible s := fun s hs =>
  List.all_eq_true.mp (List.all_eq_true.mp h s hs)

theorem readChars_eq {s : String} (h : IsLegible s) : readChars s = s.toList := by
  have hchars : ∀ c ∈ s.toList, c ≠ '\x00' ∧ readChar c = c := by
    intro c hc
    simpa [isLegible] using h c hc
  have hmap : s.toList.map readChar = s.toList.map id := List.map_congr_left fun c hc => (hchars c hc).2
  rw [readChars, List.takeWhile_eq_self_iff.mpr fun c hc => by simp [(hchars c hc).1], hmap, List.map_id]

/-- The items of a literal part of an operand are its characters. -/
theorem likeItems?_escapeChars_append (s rest : List Char) :
    likeItems? (escapeChars s ++ rest) = (likeItems? rest).map (s.map .char ++ ·) := by
  induction s with
  | nil => simp [escapeChars]
  | cons c s ih =>
    have hcons : escapeChars (c :: s) =
        (if c = escapeMark ∨ c = '%' ∨ c = '_' then [escapeMark, c] else [c]) ++ escapeChars s := rfl
    rw [hcons]
    by_cases h : c = escapeMark ∨ c = '%' ∨ c = '_'
    · rw [if_pos h, List.append_assoc, List.cons_append, List.cons_append, List.nil_append, likeItems?,
        if_pos rfl, ih, Option.map_map]
      rfl
    · obtain ⟨h1, h2, h3⟩ : c ≠ escapeMark ∧ c ≠ '%' ∧ c ≠ '_' := by simpa using h
      rw [if_neg h, List.append_assoc, List.cons_append, List.nil_append, likeItems?.eq_def]
      simp only [h1, h2, h3, if_false]
      rw [ih, Option.map_map]
      rfl

theorem fits_chars_append {cs : List Char} {items : List LikeItem} {s : List Char} :
    Fits (cs.map .char ++ items) s ↔
      ∃ front rest, s = front ++ rest ∧ foldChars front = foldChars cs ∧ Fits items rest := by
  induction cs generalizing s with
  | nil => simp [foldChars]
  | cons c cs ih =>
    rw [List.map_cons, List.cons_append, Fits]
    constructor
    · rintro ⟨d, rest, rfl, hd, hfits⟩
      obtain ⟨front, rest, rfl, hfront, hfits⟩ := ih.mp hfits
      exact ⟨d :: front, rest, rfl, by simp [hd, hfront], hfits⟩
    · rintro ⟨front, rest, rfl, hfront, hfits⟩
      cases front with
      | nil => simp at hfront
      | cons d front =>
        rw [Text.foldChars_cons, Text.foldChars_cons] at hfront
        obtain ⟨hd, hfront⟩ := List.cons.inj hfront
        exact ⟨d, front ++ rest, rfl, hd, ih.mpr ⟨front, rest, rfl, hfront, hfits⟩⟩

/-- The items of the operand of some segments, behind the percent sign in front. -/
def segmentItems (segments : List String) : List LikeItem :=
  segments.flatMap fun segment => segment.toList.map .char ++ [.anyText]

theorem fits_anyText_segmentItems {segments : List String} {s : List Char} :
    Fits (.anyText :: segmentItems segments) s ↔
      OccurInOrder (segments.map fun segment => foldChars segment.toList) (foldChars s) := by
  induction segments generalizing s with
  | nil =>
    simp only [segmentItems, List.flatMap_nil, Fits, List.map_nil, occurInOrder_nil, iff_true]
    exact ⟨[], List.nil_suffix, rfl⟩
  | cons segment segments ih =>
    have hitems : segmentItems (segment :: segments) =
        segment.toList.map .char ++ (.anyText :: segmentItems segments) := by simp [segmentItems]
    rw [Fits, hitems, List.map_cons, OccurInOrder]
    constructor
    · rintro ⟨_, ⟨gap, rfl⟩, hfits⟩
      obtain ⟨front, rest, rfl, hfront, hfits⟩ := fits_chars_append.mp hfits
      exact ⟨foldChars gap, foldChars rest, by simp [hfront], ih.mp hfits⟩
    · rintro ⟨gap, behind, hs, hrest⟩
      obtain ⟨first, rest, rfl, hfirst, rfl⟩ := List.map_eq_append_iff.mp hs
      obtain ⟨gap, front, rfl, rfl, hfront⟩ := List.map_eq_append_iff.mp hfirst
      refine ⟨front ++ rest, ⟨gap, by simp⟩, ?_⟩
      exact fits_chars_append.mpr ⟨front, rest, rfl, hfront, ih.mpr hrest⟩

theorem toList_intercalate_percent (segment : String) (segments : List String) :
    ("%".intercalate ((segment :: segments).map escape) ++ "%").toList =
      (segment :: segments).flatMap fun segment => escapeChars segment.toList ++ ['%'] := by
  induction segments generalizing segment with
  | nil => simp [escape]
  | cons next segments ih =>
    rw [List.map_cons, List.map_cons, String.intercalate_cons_cons, String.append_assoc, String.append_assoc,
      String.toList_append, String.toList_append, ← List.map_cons, ih, List.flatMap_cons]
    simp [escape]

/-- The characters of the operand of some segments: a percent sign in front, and one behind each. -/
theorem toList_likeOperand_inOrder (segments : List String) (unset : Bool) :
    (likeOperand (.inOrder segments unset)).toList =
      '%' :: segments.flatMap fun segment => escapeChars segment.toList ++ ['%'] := by
  cases segments with
  | nil => simp [likeOperand]
  | cons segment segments =>
    have hoperand : likeOperand (.inOrder (segment :: segments) unset) =
        "%" ++ "%".intercalate ((segment :: segments).map escape) ++ "%" := rfl
    rw [hoperand, String.append_assoc, String.toList_append, toList_intercalate_percent]
    rfl

theorem likeItems?_percent_cons (rest : List Char) :
    likeItems? ('%' :: rest) = (likeItems? rest).map (.anyText :: ·) := by
  rw [likeItems?.eq_def]
  simp [escapeMark]

theorem likeItems?_segments (segments : List String) :
    likeItems? (segments.flatMap fun segment => escapeChars segment.toList ++ ['%']) =
      some (segmentItems segments) := by
  induction segments with
  | nil => rfl
  | cons segment segments ih =>
    rw [List.flatMap_cons, List.append_assoc, likeItems?_escapeChars_append, List.cons_append,
      List.nil_append, likeItems?_percent_cons, ih]
    simp [segmentItems]

/-- A pattern whose segments the database reads as they stand. -/
def IsLegiblePattern (p : Pattern) : Prop := ∀ segment ∈ p.segments, IsLegible segment

theorem isLegible_escape {s : String} (h : IsLegible s) : IsLegible (escape s) := by
  intro c hc
  rw [escape, String.toList_ofList, escapeChars, List.mem_flatMap] at hc
  obtain ⟨d, hd, hc⟩ := hc
  split at hc
  · rcases List.mem_cons.mp hc with rfl | hc
    · decide
    · exact List.mem_singleton.mp hc ▸ h d hd
  · exact List.mem_singleton.mp hc ▸ h d hd

/-- The operand of a pattern has the characters of its segments, percent signs and escapes. -/
theorem isLegible_likeOperand {p : Pattern} (h : IsLegiblePattern p) : IsLegible (likeOperand p) := by
  cases p with
  | whole text => exact isLegible_escape (h text List.mem_cons_self)
  | inOrder segments unset =>
    intro c hc
    rw [toList_likeOperand_inOrder, List.mem_cons, List.mem_flatMap] at hc
    rcases hc with rfl | ⟨segment, hsegment, hc⟩
    · decide
    · rcases List.mem_append.mp hc with hc | hc
      · refine isLegible_escape (h segment hsegment) c ?_
        rwa [escape, String.toList_ofList]
      · rw [List.mem_singleton.mp hc]
        decide

/-- The operand that is written for a pattern matches the texts that the pattern accepts. -/
theorem like_likeOperand {p : Pattern} {s : String} (hp : IsLegiblePattern p) (hs : IsLegible s) :
    like (likeOperand p) s = p.accepts s := by
  rw [Bool.eq_iff_iff, like_iff, readChars_eq (isLegible_likeOperand hp), readChars_eq hs]
  cases p with
  | whole text =>
    have hitems : likeItems? (escape text).toList = some (text.toList.map .char) := by
      simpa [escape, likeItems?] using likeItems?_escapeChars_append text.toList []
    have hfits : Fits (text.toList.map .char ++ []) s.toList ↔ _ := fits_chars_append
    rw [List.append_nil] at hfits
    rw [Pattern.accepts_whole_iff, likeOperand, hitems]
    simp [hfits, Fits]
  | inOrder segments unset =>
    rw [Pattern.accepts_inOrder_iff, ← fits_anyText_segmentItems, toList_likeOperand_inOrder,
      likeItems?_percent_cons, likeItems?_segments]
    simp

/-- On texts that it reads as they stand the database agrees with the search for the segments one after the other, and
with the reading of the operand item by item. -/
theorem matches_likeOperand_tfae (p : Pattern) (s : String) (hp : IsLegiblePattern p) (hs : IsLegible s) :
    [p.accepts s = true, like (likeOperand p) s = true,
      ∃ items, likeItems? (likeOperand p).toList = some items ∧ Fits items s.toList].TFAE := by
  tfae_have 1 ↔ 2 := by rw [like_likeOperand hp hs]
  tfae_have 2 ↔ 3 := by rw [like_iff, readChars_eq (isLegible_likeOperand hp), readChars_eq hs]
  tfae_finish

/-- Every character with a meaning of its own in an operand stands for itself. -/
theorem matches_likeOperand_tfae_marks : IsLegiblePattern (.inOrder ["50%_", "a\\b"]) ∧ IsLegible "50%_ of A\\B" ∧
    [(Pattern.inOrder ["50%_", "a\\b"]).accepts "50%_ of A\\B" = true,
      like (likeOperand (.inOrder ["50%_", "a\\b"])) "50%_ of A\\B" = true,
      ∃ items, likeItems? (likeOperand (.inOrder ["50%_", "a\\b"])).toList = some items ∧
        Fits items "50%_ of A\\B".toList].TFAE := by
  have hp : IsLegiblePattern (.inOrder ["50%_", "a\\b"]) := forall_isLegible_of_all (by decide +kernel)
  have hs : IsLegible "50%_ of A\\B" := List.all_eq_true.mp (by decide +kernel)
  exact ⟨hp, hs, matches_likeOperand_tfae _ _ hp hs⟩

/-- An operand ends at a null character of a segment, and the database takes two characters of an operand or a text for
the replacement character. -/
theorem exists_like_ne_accepts :
    ((Pattern.containing "moon\x00x").accepts "Full Moon" = false ∧
      like (likeOperand (.containing "moon\x00x")) "Full Moon" = true) ∧
    ((Pattern.containing "\ufffe").accepts "\ufffd" = false ∧ like (likeOperand (.containing "\ufffe")) "\ufffd" = true) ∧
    (Pattern.containing "\ufffd").accepts "\uffff" = false ∧ like (likeOperand (.containing "\ufffd")) "\uffff" = true := by
  decide +kernel

end TermSearch.Sql
