import TermSearch.Proofs.ForeignValues
import TermSearch.Proofs.RankBounds

/-! The polarity of leaves. A leaf that is not negated asks for a record that passes its test, and a negated one for a
record that does not. Main statement: a record that is as every leaf asks of which another record is so satisfies each
tree that the other one satisfies, however its negations are nested. -/
namespace TermSearch.Query

theorem Test.passes_of_holds {metaKeys : List String} {record : Record} {t : Test} {b : Bool}
    (h : t.holds metaKeys record.toDraft = .ok b) : t.passes metaKeys record = b := by
  obtain ⟨name, p⟩ := t
  cases name with
  | known field =>
    rw [Test.holds_known] at h
    exact Except.ok.inj h
  | unknown name => cases h

theorem Test.holds_eq_true_iff {metaKeys : List String} {record : Record} {t : Test} :
    t.holds metaKeys record.toDraft = .ok true ↔ t.passes metaKeys record = true := by
  refine ⟨Test.passes_of_holds, fun h => ?_⟩
  obtain ⟨name, p⟩ := t
  cases name with
  | known field => rw [Test.holds_known, ← h, Test.passes]
  | unknown name => cases h

namespace Predicate

variable {negated : Bool} {p : Predicate} {children : List Predicate} {leaves : List Leaf}

/-- The leaves of a child are among those of all children. -/
theorem exists_leaves_of_mem (h : leavesOfAll negated children = .ok leaves) {c : Predicate} (hc : c ∈ children) :
    ∃ own, c.leavesUnder negated = .ok own ∧ own ⊆ leaves := by
  induction children generalizing leaves with
  | nil => cases hc
  | cons child rest ih =>
    rw [leavesOfAll] at h
    obtain ⟨first, hfirst, h⟩ := bind_eq_ok_iff.mp h
    obtain ⟨others, hothers, h⟩ := bind_eq_ok_iff.mp h
    obtain rfl := Except.ok.inj h
    rcases List.mem_cons.mp hc with rfl | hc
    · exact ⟨first, hfirst, List.subset_append_left _ _⟩
    · obtain ⟨own, hown, hsub⟩ := ih hothers hc
      exact ⟨own, hown, List.subset_append_of_subset_right _ hsub⟩

/-- A tree of which the leaves can be listed and name fields is proper. -/
theorem isProper_of_leavesUnder (h : p.leavesUnder negated = .ok leaves) (hfields : ∀ l ∈ leaves, l.test.IsProper) :
    p.IsProper := by
  induction p using Predicate.inductionOn generalizing negated leaves with
  | test t =>
    obtain rfl := Except.ok.inj h
    obtain ⟨field, hfield⟩ : t.IsProper := hfields _ (List.mem_singleton_self _)
    obtain ⟨_, pattern⟩ := t
    subst hfield
    exact .test field pattern
  | not child ih => exact .not (ih h hfields)
  | all children ih =>
    refine .all fun c hc => ?_
    obtain ⟨own, hown, hsub⟩ := exists_leaves_of_mem h hc
    exact ih c hc hown fun l hl => hfields l (hsub hl)
  | any children ih =>
    refine .any fun c hc => ?_
    obtain ⟨own, hown, hsub⟩ := exists_leaves_of_mem h hc
    exact ih c hc hown fun l hl => hfields l (hsub hl)
  | foreign typeName => cases h

variable {metaKeys : List String} {record other : Record}

/-- Leaves that are met by another record where they are met by the first one keep the answer of their tree from turning
round: from true to false where the tree is not negated, and from false to true where it is. -/
theorem eval_ne_of_isMet (h : p.leavesUnder negated = .ok leaves)
    (hmet : ∀ l ∈ leaves, l.isMet metaKeys record = true → l.isMet metaKeys other = true)
    (heval : p.eval metaKeys record.toDraft = .ok !negated) : p.eval metaKeys other.toDraft ≠ .ok negated := by
  induction p using Predicate.inductionOn generalizing negated leaves with
  | test t =>
    obtain rfl := Except.ok.inj h
    intro hother
    have hmet := hmet _ (List.mem_singleton_self _)
    rw [Leaf.isMet, Leaf.isMet, Test.passes_of_holds heval, Test.passes_of_holds hother] at hmet
    simp at hmet
  | not child ih =>
    -- the child stands under the opposite polarity, and its answers are the opposite ones
    rw [eval_not_eq_ok_iff] at heval
    rw [ne_eq, eval_not_eq_ok_iff]
    exact ih h hmet heval
  | all children ih =>
    rw [eval, evalAll_eq_askUntil] at heval ⊢
    refine askUntil_ne_ok_of_forall (fun c hc hchild => ?_) heval
    obtain ⟨own, hown, hsub⟩ := exists_leaves_of_mem h hc
    exact ih c hc hown (fun l hl => hmet l (hsub hl)) hchild
  | any children ih =>
    rw [eval, evalAny_eq_askUntil] at heval ⊢
    refine askUntil_ne_ok_of_forall (fun c hc hchild => ?_) heval
    obtain ⟨own, hown, hsub⟩ := exists_leaves_of_mem h hc
    exact ih c hc hown (fun l hl => hmet l (hsub hl)) hchild
  | foreign typeName => cases h

/-- Take a record that satisfies a tree, and another one that passes the test of every leaf that is not negated where
the first one does, and of every negated leaf only where the first one does. The other record is never refused by the
tree, and it satisfies the tree where all of its tests name a field. -/
theorem eval_of_leaves_kept (hleaves : p.leaves = .ok leaves)
    (hpositive : ∀ l ∈ leaves, l.negated = false → l.test.holds metaKeys record.toDraft = .ok true →
      l.test.holds metaKeys other.toDraft = .ok true)
    (hnegated : ∀ l ∈ leaves, l.negated = true → l.test.holds metaKeys other.toDraft = .ok true →
      l.test.holds metaKeys record.toDraft = .ok true)
    (heval : p.eval metaKeys record.toDraft = .ok true) :
    p.eval metaKeys other.toDraft ≠ .ok false ∧
      ((∀ l ∈ leaves, l.test.IsProper) → p.eval metaKeys other.toDraft = .ok true) := by
  have hmet : ∀ l ∈ leaves, l.isMet metaKeys record = true → l.isMet metaKeys other = true := by
    intro l hl hrecord
    have hkept := hpositive l hl
    have hfree := hnegated l hl
    rw [Test.holds_eq_true_iff, Test.holds_eq_true_iff] at hkept hfree
    unfold Leaf.isMet at hrecord ⊢
    cases hpolarity : l.negated <;> simp_all
  have hrefused : p.eval metaKeys other.toDraft ≠ .ok false := eval_ne_of_isMet hleaves hmet heval
  refine ⟨hrefused, fun hfields => ?_⟩
  obtain ⟨b, hb⟩ := (isProper_of_leavesUnder hleaves hfields).eval_isOk metaKeys other
  rw [hb] at hrefused ⊢
  exact congrArg Except.ok (Bool.eq_true_of_not_eq_false fun hfalse => hrefused (congrArg Except.ok hfalse))

/-- A test of the title under two negations, and another one under one of them. -/
def moonNotNew : Predicate :=
  .not (.all [.not (.test ⟨.known .title, .containing "moon"⟩), .test ⟨.known .title, .containing "new"⟩])

theorem leaves_moonNotNew : moonNotNew.leaves = .ok
    [⟨⟨.known .title, .containing "moon"⟩, false⟩, ⟨⟨.known .title, .containing "new"⟩, true⟩] := rfl

/-- Of two titles with the word of the leaf that is not negated, the second one lacks the other word. -/
theorem eval_of_leaves_kept_moonNotNew : moonNotNew.leaves = .ok
      [⟨⟨.known .title, .containing "moon"⟩, false⟩, ⟨⟨.known .title, .containing "new"⟩, true⟩] ∧
    Test.holds [] (titledRecord "Full Moon").toDraft ⟨.known .title, .containing "moon"⟩ = .ok true ∧
    Test.holds [] (titledRecord "Full Moon").toDraft ⟨.known .title, .containing "new"⟩ = .ok false ∧
    moonNotNew.eval [] (titledRecord "New Moon").toDraft = .ok true ∧
    moonNotNew.eval [] (titledRecord "Full Moon").toDraft = .ok true := by
  have hmoon : (Pattern.containing "moon").accepts "New Moon" = true := by decide +kernel
  have hkept : Test.holds [] (titledRecord "Full Moon").toDraft ⟨.known .title, .containing "moon"⟩ = .ok true := by
    rw [holds_titledRecord, show (Pattern.containing "moon").accepts "Full Moon" = true by decide +kernel]
  have hfree : Test.holds [] (titledRecord "Full Moon").toDraft ⟨.known .title, .containing "new"⟩ = .ok false := by
    rw [holds_titledRecord, show (Pattern.containing "new").accepts "Full Moon" = false by decide +kernel]
  have heval : moonNotNew.eval [] (titledRecord "New Moon").toDraft = .ok true := by
    rw [moonNotNew, eval_not_eq_ok_iff, eval, evalAll, eval_not, eval, holds_titledRecord, hmoon]
    rfl
  refine ⟨leaves_moonNotNew, hkept, hfree, heval, ?_⟩
  refine (eval_of_leaves_kept leaves_moonNotNew ?_ ?_ heval).2 ?_
  · simp [hkept]
  · simp [hfree]
  · simp [Test.IsProper]

end Predicate

end TermSearch.Query
