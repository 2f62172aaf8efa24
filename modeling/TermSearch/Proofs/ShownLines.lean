import TermSearch.Proofs.ForeignValues

/-! The text of a tree line by line. Each node has a line with a heading, and the lines of the trees below it follow
one level deeper; a negated test is one line with its negation. What is shown of a tree is the tree with the text of
each pattern in its place. Main statement: the text is the lines one after another, and the lines tell how deep each
tree stands, so that trees with the same lines are shown alike. -/
namespace TermSearch

/-- Two lists in two parts each, where the first parts are of a class and the second ones do not begin with an item of
it, are equal in both parts. -/
theorem append_inj_of_forall {α : Type} {p : α → Bool} {xs ys behind others : List α} (hxs : ∀ x ∈ xs, p x = true)
    (hys : ∀ y ∈ ys, p y = true) (hbehind : ∀ x ∈ behind.head?, p x = false) (hothers : ∀ y ∈ others.head?, p y = false)
    (h : xs ++ behind = ys ++ others) : xs = ys ∧ behind = others := by
  have htake : ∀ {front rest : List α}, (∀ x ∈ front, p x = true) → (∀ x ∈ rest.head?, p x = false) →
      (front ++ rest).takeWhile p = front := by
    intro front rest hfront hrest
    rw [List.takeWhile_append_of_pos hfront]
    cases rest with
    | nil => exact List.append_nil front
    | cons x rest => rw [List.takeWhile_cons_of_neg (by simp [hrest x rfl]), List.append_nil]
  have hfront : xs = ys := by rw [← htake hxs hbehind, h, htake hys hothers]
  exact ⟨hfront, List.append_cancel_left (hfront ▸ h)⟩

namespace Query

namespace Predicate

mutual

/-- A tree with the text of each pattern in its place. -/
def plain : Predicate → Predicate
  | test t => test { t with pattern := .whole t.pattern.text }
  | not child => not (plain child)
  | all children => all (plainAll children)
  | any children => any (plainAll children)
  | foreign typeName => foreign typeName

def plainAll : List Predicate → List Predicate
  | [] => []
  | child :: rest => plain child :: plainAll rest

end

/-- A tree of tests of fields each of which is shown without a line end. -/
inductive IsPrintable : Predicate → Prop
  | test (field : Field) {p : Pattern} (h : '\n' ∉ p.text.toList) : IsPrintable (.test ⟨.known field, p⟩)
  | not {child : Predicate} (h : IsPrintable child) : IsPrintable (.not child)
  | all {children : List Predicate} (h : ∀ c ∈ children, IsPrintable c) : IsPrintable (.all children)
  | any {children : List Predicate} (h : ∀ c ∈ children, IsPrintable c) : IsPrintable (.any children)

theorem IsPrintable.isProper {p : Predicate} (h : p.IsPrintable) : p.IsProper := by
  induction h with
  | test field _ => exact .test field _
  | not _ ih => exact .not ih
  | all _ ih => exact .all ih
  | any _ ih => exact .any ih

end Predicate

end Query

namespace Report

open Query (Field FieldName Predicate)

/-- What the line of a node says. -/
inductive Heading
  | test (negated : Bool) (field : FieldName) (pattern : String)
  | not
  | all (empty : Bool)
  | any (empty : Bool)

namespace Heading

def word : Heading → String
  | test _ field _ => field.text
  | not => "NOT"
  | all _ => "AND"
  | any _ => "OR"

/-- What stands behind the first word. -/
def rest : Heading → String
  | test negated _ pattern => (if negated then " !~ " else " ~ ") ++ pattern
  | not => ""
  | all empty => if empty then " (empty)" else ""
  | any empty => if empty then " (empty)" else ""

def text (h : Heading) : String := h.word ++ h.rest

/-- The tree that is shown by a heading with trees below it. -/
def tree : Heading → List Predicate → Predicate
  | test false field pattern, _ => .test ⟨field, .whole pattern⟩
  | test true field pattern, _ => .not (.test ⟨field, .whole pattern⟩)
  | not, below => .not (below.headD (.all []))
  | all _, below => .all below
  | any _, below => .any below

/-- A heading that names a field, if any, and has no line end. -/
def IsPrintable : Heading → Prop
  | test _ field pattern => (∃ known, field = .known known) ∧ '\n' ∉ pattern.toList
  | _ => True

end Heading

structure Line where
  depth : Int
  heading : Heading

def Line.text (l : Line) : String := pad l.depth ++ l.heading.text

/-- Lines one after another, each with its end. -/
def textOf (lines : List Line) : String := lines.foldr (fun l behind => l.text ++ "\n" ++ behind) ""

mutual

/-- The lines of a tree. A value in the place of a node has none. -/
def linesOf (depth : Int) : Predicate → List Line
  | .test t => [⟨depth, .test false t.field t.pattern.text⟩]
  | .not (.test t) => [⟨depth, .test true t.field t.pattern.text⟩]
  | .not child => ⟨depth, .not⟩ :: linesOf (depth + 1) child
  | .all children => ⟨depth, .all children.isEmpty⟩ :: linesOfAll (depth + 1) children
  | .any children => ⟨depth, .any children.isEmpty⟩ :: linesOfAll (depth + 1) children
  | .foreign _ => []

/-- The lines of several trees below each other. -/
def linesOfAll (depth : Int) : List Predicate → List Line
  | [] => []
  | child :: rest => linesOf depth child ++ linesOfAll depth rest

end

/-- A tree is shown by a heading and the trees below it. -/
inductive Shows : Predicate → Heading → List Predicate → Prop
  | test (t : Query.Test) : Shows (.test t) (.test false t.field t.pattern.text) []
  | negatedTest (t : Query.Test) : Shows (.not (.test t)) (.test true t.field t.pattern.text) []
  | not {child : Predicate} (h : ∀ t, child ≠ .test t) : Shows (.not child) .not [child]
  | all (children : List Predicate) : Shows (.all children) (.all children.isEmpty) children
  | any (children : List Predicate) : Shows (.any children) (.any children.isEmpty) children

theorem textOf_cons (l : Line) (lines : List Line) : textOf (l :: lines) = l.text ++ "\n" ++ textOf lines := rfl

theorem textOf_append (lines others : List Line) : textOf (lines ++ others) = textOf lines ++ textOf others := by
  induction lines with
  | nil => exact (String.empty_append).symm
  | cons l lines ih => rw [List.cons_append, textOf_cons, textOf_cons, ih, ← String.append_assoc]

theorem heading_eq (depth : Int) (label : String) (children : List Predicate) :
    heading depth label children = pad depth ++ (label ++ if children.isEmpty then " (empty)" else "") ++ "\n" := by
  rw [heading]
  cases children.isEmpty <;> simp [String.append_assoc]

section Nodes

variable {p : Predicate} {h : Heading} {below : List Predicate}

theorem Shows.linesOf_eq (hp : Shows p h below) (depth : Int) :
    linesOf depth p = ⟨depth, h⟩ :: linesOfAll (depth + 1) below := by
  cases hp with
  | test t => rfl
  | negatedTest t => rfl
  | not hchild =>
    rw [linesOf, linesOfAll, linesOfAll, List.append_nil]
    exact hchild
  | all children => rfl
  | any children => rfl

theorem Shows.predicateText_eq (hp : Shows p h below) (depth : Int) :
    predicateText depth p = (predicateTexts (depth + 1) below).map (pad depth ++ h.text ++ "\n" ++ ·) := by
  cases hp with
  | test t | negatedTest t =>
    simp [predicateText, predicateTexts, Except.map, Heading.text, Heading.word, Heading.rest, String.append_assoc]
  | @not child hchild =>
    have hline : pad depth ++ "NOT\n" = pad depth ++ Heading.not.text ++ "\n" := by rw [String.append_assoc]; rfl
    rw [predicateText_not hchild, hline, predicateTexts, predicateTexts]
    cases predicateText (depth + 1) child with
    | error e => rfl
    | ok text => exact congrArg (fun behind => Except.ok (_ ++ behind)) (String.append_empty (s := text)).symm
  | all =>
    rw [predicateText, heading_eq]
    cases predicateTexts (depth + 1) below <;> rfl
  | any =>
    rw [predicateText, heading_eq]
    cases predicateTexts (depth + 1) below <;> rfl

theorem Shows.plain_eq (hp : Shows p h below) : p.plain = h.tree (Predicate.plainAll below) := by
  cases hp <;> rfl

end Nodes

/-- Induction over a tree that can be printed, from the trees below a line to the tree with this line. -/
@[elab_as_elim]
theorem inductionOnLines {motive : ∀ p : Predicate, p.IsPrintable → Prop} {p : Predicate} (hp : p.IsPrintable)
    (step : ∀ p h below (hp : p.IsPrintable) (hbelow : ∀ c ∈ below, c.IsPrintable), Shows p h below → h.IsPrintable →
      (∀ c (hc : c ∈ below), motive c (hbelow c hc)) → motive p hp) : motive p hp := by
  have hnone : ∀ c ∈ ([] : List Predicate), c.IsPrintable := by simp
  induction hp with
  | test field hline => exact step _ _ _ (.test field hline) hnone (.test _) ⟨⟨field, rfl⟩, hline⟩ (by simp)
  | @not child hchild ih =>
    by_cases htest : ∃ t, child = .test t
    · obtain ⟨t, rfl⟩ := htest
      obtain ⟨field, hline⟩ := hchild
      exact step _ _ _ (.not (.test field hline)) hnone (.negatedTest _) ⟨⟨field, rfl⟩, hline⟩ (by simp)
    · have hbelow : ∀ c ∈ [child], c.IsPrintable := fun c hc => List.mem_singleton.mp hc ▸ hchild
      refine step _ _ _ (.not hchild) hbelow (.not fun t ht => htest ⟨t, ht⟩) trivial fun c hc => ?_
      obtain rfl := List.mem_singleton.mp hc
      exact ih
  | all hchildren ih => exact step _ _ _ (.all hchildren) hchildren (.all _) trivial ih
  | any hchildren ih => exact step _ _ _ (.any hchildren) hchildren (.any _) trivial ih

theorem exists_shows {p : Predicate} (hp : p.IsPrintable) :
    ∃ h below, Shows p h below ∧ h.IsPrintable ∧ ∀ c ∈ below, c.IsPrintable := by
  induction hp using inductionOnLines with
  | step p h below _ hbelow hshows hprintable _ => exact ⟨h, below, hshows, hprintable, hbelow⟩

/-- The text of several trees from the lines of each. -/
theorem predicateTexts_eq {depth : Int} {children : List Predicate}
    (h : ∀ c ∈ children, predicateText depth c = .ok (textOf (linesOf depth c))) :
    predicateTexts depth children = .ok (textOf (linesOfAll depth children)) := by
  induction children with
  | nil => rfl
  | cons child rest ih =>
    obtain ⟨hchild, hrest⟩ := List.forall_mem_cons.mp h
    rw [predicateTexts, hchild, ih hrest, linesOfAll, textOf_append]
    rfl

/-- The text of a tree is its lines one after another. -/
theorem predicateText_eq_textOf {p : Predicate} (hp : p.IsPrintable) (depth : Int) :
    predicateText depth p = .ok (textOf (linesOf depth p)) := by
  induction hp using inductionOnLines generalizing depth with
  | step p h below _ _ hshows _ ih =>
    rw [hshows.predicateText_eq, hshows.linesOf_eq, predicateTexts_eq fun c hc => ih c hc (depth + 1)]
    rfl

theorem mem_linesOfAll {depth : Int} {children : List Predicate} {l : Line} :
    l ∈ linesOfAll depth children ↔ ∃ c ∈ children, l ∈ linesOf depth c := by
  induction children with
  | nil => simp [linesOfAll]
  | cons child rest ih => simp [linesOfAll, ih]

/-- The lines of a tree begin at its own depth and are nowhere less deep. -/
theorem le_depth_of_mem_linesOf {p : Predicate} (hp : p.IsPrintable) {depth : Int} :
    ∀ l ∈ linesOf depth p, depth ≤ l.depth ∧ l.heading.IsPrintable := by
  induction hp using inductionOnLines generalizing depth with
  | step p h below _ _ hshows hprintable ih =>
    rw [hshows.linesOf_eq]
    refine List.forall_mem_cons.mpr ⟨⟨Int.le_refl depth, hprintable⟩, fun l hl => ?_⟩
    obtain ⟨c, hc, hl⟩ := mem_linesOfAll.mp hl
    obtain ⟨hdepth, hheading⟩ := ih c hc l hl
    exact ⟨by omega, hheading⟩

theorem le_depth_of_mem_linesOfAll {children : List Predicate} (h : ∀ c ∈ children, c.IsPrintable) {depth : Int} :
    ∀ l ∈ linesOfAll depth children, depth ≤ l.depth ∧ l.heading.IsPrintable := by
  intro l hl
  obtain ⟨c, hc, hl⟩ := mem_linesOfAll.mp hl
  exact le_depth_of_mem_linesOf (h c hc) l hl

/-- Trees below each other begin with a line of their own depth. -/
theorem depth_of_head?_linesOfAll {children : List Predicate} (h : ∀ c ∈ children, c.IsPrintable) {depth : Int} :
    ∀ l ∈ (linesOfAll depth children).head?, l.depth = depth := by
  cases children with
  | nil => simp [linesOfAll]
  | cons child rest =>
    obtain ⟨heading, below, hshows, -, -⟩ := exists_shows (h child List.mem_cons_self)
    simp [linesOfAll, hshows.linesOf_eq]

/-- Trees with the same lines are shown alike: the lines below the first tree are those up to the next line of its own
depth. -/
theorem plainAll_eq_of_linesOfAll_eq {depth : Int} {ps qs : List Predicate} (hps : ∀ p ∈ ps, p.IsPrintable)
    (hqs : ∀ q ∈ qs, q.IsPrintable) (h : linesOfAll depth ps = linesOfAll depth qs) :
    Predicate.plainAll ps = Predicate.plainAll qs := by
  -- the induction is on the number of lines, which are fewer below a tree and behind it
  induction hn : (linesOfAll depth ps).length using Nat.strong_induction_on generalizing depth ps qs with
  | _ n ih =>
    have hdeeper : ∀ {below : List Predicate}, (∀ c ∈ below, c.IsPrintable) →
        ∀ l ∈ linesOfAll (depth + 1) below, decide (depth < l.depth) = true := fun hbelow l hl => by
      have hdepth := (le_depth_of_mem_linesOfAll hbelow l hl).1
      exact decide_eq_true (by omega)
    have hbehind : ∀ {rest : List Predicate}, (∀ c ∈ rest, c.IsPrintable) →
        ∀ l ∈ (linesOfAll depth rest).head?, decide (depth < l.depth) = false := fun hrest l hl => by
      have hdepth := depth_of_head?_linesOfAll hrest l hl
      exact decide_eq_false (by omega)
    cases ps with
    | nil =>
      cases qs with
      | nil => rfl
      | cons q qs =>
        obtain ⟨heading, below, hq, -, -⟩ := exists_shows (hqs q List.mem_cons_self)
        simp [linesOfAll, hq.linesOf_eq] at h
    | cons p ps =>
      obtain ⟨heading, below, hp, -, hbelow⟩ := exists_shows (hps p List.mem_cons_self)
      rw [linesOfAll, hp.linesOf_eq, List.cons_append] at h hn
      cases qs with
      | nil => simp [linesOfAll] at h
      | cons q qs =>
        obtain ⟨heading', below', hq, -, hbelow'⟩ := exists_shows (hqs q List.mem_cons_self)
        rw [linesOfAll, hq.linesOf_eq, List.cons_append] at h
        have hps' := (List.forall_mem_cons.mp hps).2
        have hqs' := (List.forall_mem_cons.mp hqs).2
        obtain ⟨hline, hlines⟩ := List.cons.inj h
        obtain ⟨hlower, hlater⟩ :=
          append_inj_of_forall (hdeeper hbelow) (hdeeper hbelow') (hbehind hps') (hbehind hqs') hlines
        rw [List.length_cons, List.length_append] at hn
        rw [Predicate.plainAll, Predicate.plainAll, hp.plain_eq, hq.plain_eq, (Line.mk.inj hline).2,
          ih _ (by omega) hbelow hbelow' hlower rfl, ih _ (by omega) hps' hqs' hlater rfl]

theorem linesOfAll_plainAll {children : List Predicate}
    (h : ∀ c ∈ children, ∀ depth, linesOf depth c.plain = linesOf depth c) (depth : Int) :
    linesOfAll depth (Predicate.plainAll children) = linesOfAll depth children := by
  induction children with
  | nil => rfl
  | cons child rest ih =>
    obtain ⟨hchild, hrest⟩ := List.forall_mem_cons.mp h
    rw [Predicate.plainAll, linesOfAll, linesOfAll, hchild, ih hrest]

/-- The lines show nothing of the patterns but their texts. -/
theorem linesOf_plain (p : Predicate) (depth : Int) : linesOf depth p.plain = linesOf depth p := by
  have hempty : ∀ children : List Predicate, (Predicate.plainAll children).isEmpty = children.isEmpty := by
    rintro (- | ⟨child, rest⟩) <;> rfl
  induction p using Predicate.inductionOn generalizing depth with
  | test t => rfl
  | not child ih =>
    cases child with
    | test t => rfl
    | _ => exact congrArg (Line.mk depth .not :: ·) (ih (depth + 1))
  | all children ih => rw [Predicate.plain, linesOf, linesOf, linesOfAll_plainAll ih, hempty]
  | any children ih => rw [Predicate.plain, linesOf, linesOf, linesOfAll_plainAll ih, hempty]
  | foreign typeName => rfl

end Report

end TermSearch
