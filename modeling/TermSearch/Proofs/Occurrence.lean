import Mathlib.Data.List.Infix
import TermSearch.Query.Pattern

/-! Occurrence of segments in a text, said without a search: some gap stands before each segment, and the
later ones stand behind it. Looking for each segment at its first place finds an occurrence whenever there
is one. Main statement: a pattern accepts a text exactly when the text can be written as the segments with
gaps around them. -/
namespace TermSearch.Query

/-- The segments stand in a text in order and without overlap. -/
def OccurInOrder : List (List Char) → List Char → Prop
  | [], _ => True
  | segment :: rest, s => ∃ gap behind, s = gap ++ segment ++ behind ∧ OccurInOrder rest behind

@[simp] theorem occurInOrder_nil (s : List Char) : OccurInOrder [] s := trivial

/-- More text in front leaves every segment where it stands. -/
theorem OccurInOrder.of_suffix {segments : List (List Char)} {s t : List Char}
    (h : OccurInOrder segments s) (hst : s <:+ t) : OccurInOrder segments t := by
  cases segments with
  | nil => trivial
  | cons segment rest =>
    obtain ⟨gap, behind, rfl, hrest⟩ := h
    obtain ⟨front, rfl⟩ := hst
    exact ⟨front ++ gap, behind, by simp, hrest⟩

theorem occurInOrder_singleton {segment s : List Char} :
    OccurInOrder [segment] s ↔ segment <:+: s := by
  constructor
  · rintro ⟨gap, behind, rfl, -⟩
    exact ⟨gap, behind, rfl⟩
  · rintro ⟨gap, behind, rfl⟩
    exact ⟨gap, behind, rfl, trivial⟩

/-- The segments occur in a text exactly when it consists of them, in order, and of gaps: one in front and one
behind each segment. -/
theorem occurInOrder_iff_exists_gaps {segments : List (List Char)} {s : List Char} :
    OccurInOrder segments s ↔ ∃ front gaps, gaps.length = segments.length ∧
      s = front ++ (List.zipWith (· ++ ·) segments gaps).flatten := by
  induction segments generalizing s with
  | nil =>
    constructor
    · intro _
      exact ⟨s, [], rfl, by simp⟩
    · intro _
      trivial
  | cons segment rest ih =>
    constructor
    · rintro ⟨front, behind, rfl, hrest⟩
      obtain ⟨gap, gaps, hlength, rfl⟩ := ih.mp hrest
      exact ⟨front, gap :: gaps, by simp [hlength], by simp⟩
    · rintro ⟨front, gaps, hlength, rfl⟩
      cases gaps with
      | nil => simp at hlength
      | cons gap gaps =>
        refine ⟨front, gap ++ (List.zipWith (· ++ ·) rest gaps).flatten, by simp, ?_⟩
        apply ih.mpr
        exact ⟨gap, gaps, by simpa using hlength, rfl⟩

theorem OccurInOrder.append {left right : List (List Char)} {s t : List Char} (hleft : OccurInOrder left s)
    (hright : OccurInOrder right t) : OccurInOrder (left ++ right) (s ++ t) := by
  induction left generalizing s with
  | nil => exact hright.of_suffix (List.suffix_append s t)
  | cons segment left ih =>
    obtain ⟨gap, behind, rfl, hrest⟩ := hleft
    exact ⟨gap, behind ++ t, by simp, ih hrest⟩

/-- More text around a text leaves every segment where it stands. -/
theorem OccurInOrder.of_infix {segments : List (List Char)} {s t : List Char} (h : OccurInOrder segments s)
    (hst : s <:+: t) : OccurInOrder segments t := by
  obtain ⟨front, behind, rfl⟩ := hst
  have hfront : OccurInOrder segments (front ++ s) := h.of_suffix (List.suffix_append front s)
  simpa using hfront.append (occurInOrder_nil behind)

theorem OccurInOrder.foldChars {segments : List (List Char)} {s : List Char} (h : OccurInOrder segments s) :
    OccurInOrder (segments.map Text.foldChars) (Text.foldChars s) := by
  induction segments generalizing s with
  | nil => trivial
  | cons segment segments ih =>
    obtain ⟨gap, behind, rfl, hrest⟩ := h
    exact ⟨Text.foldChars gap, Text.foldChars behind, by simp, ih hrest⟩

/-- A text without some character that starts a text ends in front of that character. -/
theorem exists_of_append_eq_append_cons {α : Type} {z : α} {u v x y : List α} (hz : z ∉ u)
    (h : u ++ v = x ++ z :: y) : ∃ w, x = u ++ w ∧ v = w ++ z :: y := by
  rcases List.append_eq_append_iff.mp h with ⟨w, hx, hv⟩ | ⟨w, hu, hy⟩
  · exact ⟨w, hx, hv⟩
  · cases w with
    | nil => exact ⟨[], by simpa using hu.symm, by simpa using hy.symm⟩
    | cons c w =>
      obtain ⟨rfl, -⟩ := List.cons.inj hy
      exact absurd (hu ▸ List.mem_append_right _ List.mem_cons_self) hz

/-- A character that is in no segment parts the segments that occur in front of it from those behind it. -/
theorem OccurInOrder.split {z : Char} {x y : List Char} {segments : List (List Char)}
    (hz : ∀ segment ∈ segments, z ∉ segment) (h : OccurInOrder segments (x ++ z :: y)) :
    ∃ left right, segments = left ++ right ∧ OccurInOrder left x ∧ OccurInOrder right y := by
  induction segments generalizing x with
  | nil => exact ⟨[], [], rfl, trivial, trivial⟩
  | cons segment segments ih =>
    obtain ⟨hsegment, hsegments⟩ := List.forall_mem_cons.mp hz
    obtain ⟨gap, behind, heq, hrest⟩ := h
    -- the gap in front of the first segment reaches beyond the character, or the segment stands in front of it
    have hgap : (∃ more, y = more ++ segment ++ behind) ∨
        ∃ more, x = gap ++ more ∧ segment ++ behind = more ++ z :: y := by
      rw [List.append_assoc] at heq
      rcases List.append_eq_append_iff.mp heq with ⟨more, -, hmore⟩ | ⟨more, hx, hmore⟩
      · cases more with
        | nil => exact .inr ⟨[], by simp_all⟩
        | cons c more => exact .inl ⟨more, by simpa using (List.cons.inj hmore).2⟩
      · exact .inr ⟨more, hx, hmore⟩
    rcases hgap with ⟨more, hy⟩ | ⟨more, rfl, hmore⟩
    · exact ⟨[], segment :: segments, rfl, trivial, more, behind, hy, hrest⟩
    · obtain ⟨more, rfl, rfl⟩ := exists_of_append_eq_append_cons hsegment hmore
      obtain ⟨left, right, rfl, hleft, hright⟩ := ih hsegments hrest
      exact ⟨segment :: left, right, rfl, ⟨gap, more, by simp, hleft⟩, hright⟩

namespace Pattern

theorem eq_append_of_afterFirst? {needle s behind : List Char}
    (h : afterFirst? needle s = some behind) : ∃ gap, s = gap ++ needle ++ behind := by
  induction s with
  | nil =>
    rw [afterFirst?] at h
    split at h
    · rename_i hp
      obtain rfl : needle = [] := by simpa using hp
      exact ⟨[], by simpa using h⟩
    · simp at h
  | cons c rest ih =>
    rw [afterFirst?] at h
    split at h
    · rename_i hp
      obtain ⟨tail, ht⟩ := List.isPrefixOf_iff_prefix.mp hp
      rw [← ht, List.drop_left] at h
      refine ⟨[], ?_⟩
      rw [← ht, ← Option.some.inj h, List.nil_append]
    · obtain ⟨gap, hgap⟩ := ih h
      exact ⟨c :: gap, by simp [hgap]⟩

/-- The first place of a needle leaves at least as much text as any other place. -/
theorem suffix_of_afterFirst? (needle gap behind : List Char) :
    ∃ most, afterFirst? needle (gap ++ needle ++ behind) = some most ∧ behind <:+ most := by
  induction gap with
  | nil =>
    refine ⟨behind, ?_, List.suffix_refl _⟩
    rw [afterFirst?.eq_def]
    simp
  | cons c gap ih =>
    rw [List.cons_append, List.cons_append, afterFirst?]
    split
    · rename_i hp
      refine ⟨_, rfl, ?_⟩
      have hlen := (List.isPrefixOf_iff_prefix.mp hp).length_le
      have hbehind : behind <:+ c :: (gap ++ needle ++ behind) := ⟨c :: (gap ++ needle), by simp⟩
      apply List.suffix_of_suffix_length_le hbehind (List.drop_suffix _ _)
      simp only [List.length_drop, List.length_cons, List.length_append]
      omega
    · exact ih

/-- Searching segment by segment answers whether the segments occur in order. -/
theorem occurInOrder_iff {segments : List (List Char)} {s : List Char} :
    occurInOrder segments s = true ↔ OccurInOrder segments s := by
  induction segments generalizing s with
  | nil => simp [occurInOrder]
  | cons segment rest ih =>
    constructor
    · intro h
      rw [occurInOrder] at h
      split at h
      · rename_i behind hb
        obtain ⟨gap, hgap⟩ := eq_append_of_afterFirst? hb
        exact ⟨gap, behind, hgap, ih.mp h⟩
      · cases h
    · rintro ⟨gap, behind, rfl, hrest⟩
      obtain ⟨most, hmost, hsuffix⟩ := suffix_of_afterFirst? segment gap behind
      rw [occurInOrder, hmost]
      exact ih.mpr (hrest.of_suffix hsuffix)

theorem accepts_whole_iff {text s : String} :
    (whole text).accepts s = true ↔ Text.foldChars s.toList = Text.foldChars text.toList := by
  simp [accepts]

theorem accepts_inOrder_iff {segments : List String} {unset : Bool} {s : String} :
    (inOrder segments unset).accepts s = true ↔
      OccurInOrder (segments.map fun segment => Text.foldChars segment.toList)
        (Text.foldChars s.toList) := occurInOrder_iff

/-- A pattern of segments accepts a text around one that it accepts. -/
theorem accepts_inOrder_of_infix {segments : List String} {unset : Bool} {s t : String}
    (hst : s.toList <:+: t.toList) (h : (inOrder segments unset).accepts s = true) :
    (inOrder segments unset).accepts t = true := by
  rw [accepts_inOrder_iff] at h ⊢
  apply h.of_infix
  exact hst.map Text.foldChar

/-- A pattern of segments accepts a text exactly when some gaps, one in front and one behind each segment, make up the
folded text together with the folded segments. So the search never misses an arrangement of the segments. -/
theorem accepts_inOrder_iff_exists_gaps (segments : List String) (unset : Bool) (s : String) :
    (inOrder segments unset).accepts s = true ↔ ∃ front gaps, gaps.length = segments.length ∧
      Text.fold s = front ++
        String.join (List.zipWith (fun segment gap => Text.fold segment ++ gap) segments gaps) := by
  rw [accepts_inOrder_iff, occurInOrder_iff_exists_gaps]
  constructor
  · rintro ⟨front, gaps, hlength, hs⟩
    refine ⟨String.ofList front, gaps.map String.ofList, by simpa using hlength, ?_⟩
    apply String.toList_injective
    rw [Text.toList_fold, hs]
    simp [List.flatMap_def, List.map_zipWith, List.zipWith_map_left, List.zipWith_map_right]
  · rintro ⟨front, gaps, hlength, hs⟩
    refine ⟨front.toList, gaps.map String.toList, by simpa using hlength, ?_⟩
    rw [← Text.toList_fold, hs]
    simp [List.flatMap_def, List.map_zipWith, List.zipWith_map_left, List.zipWith_map_right]

end Pattern

end TermSearch.Query
