import TermSearch.Proofs.Occurrence
import TermSearch.Proofs.Traversal
import TermSearch.Query.Search

/-! When a record satisfies a predicate, node by node. A proper predicate has no foreign node, and each of its
tests names a field; it can be evaluated on every record, and its leaves can be listed. -/
namespace TermSearch.Query

/-- The texts of a record that a field stands for. -/
def Field.textsOf (metaKeys : List String) (record : Record) : Field → List String
  | title => [record.title]
  | excerpt => [record.excerpt]
  | body => [record.body]
  | metadata => metadataTexts metaKeys record.metadata

@[simp] theorem Field.textsOf?_toDraft (metaKeys : List String) (record : Record) (field : Field) :
    field.textsOf? metaKeys record.toDraft = some (field.textsOf metaKeys record) := by
  cases field <;> rfl

/-- A test that names a field. -/
def Test.IsProper (t : Test) : Prop := ∃ field, t.field = .known field

@[simp] theorem Test.holds_known (metaKeys : List String) (record : Record) (field : Field) (p : Pattern) :
    Test.holds metaKeys record.toDraft ⟨.known field, p⟩ =
      .ok ((field.textsOf metaKeys record).any p.accepts) := by
  simp [Test.holds]

namespace Predicate

/-- A predicate of tests of fields, without a foreign node. -/
inductive IsProper : Predicate → Prop
  | test (field : Field) (p : Pattern) : IsProper (.test ⟨.known field, p⟩)
  | not {child : Predicate} (h : IsProper child) : IsProper (.not child)
  | all {children : List Predicate} (h : ∀ c ∈ children, IsProper c) : IsProper (.all children)
  | any {children : List Predicate} (h : ∀ c ∈ children, IsProper c) : IsProper (.any children)

/-- A record satisfies a predicate. -/
def Holds (metaKeys : List String) (record : Record) (p : Predicate) : Prop :=
  p.eval metaKeys record.toDraft = .ok true

variable {metaKeys : List String} {record : Record}

theorem eval_not (metaKeys : List String) (draft : Draft) (child : Predicate) :
    (not child).eval metaKeys draft = (child.eval metaKeys draft).map (!·) := by
  rw [eval]
  cases child.eval metaKeys draft <;> rfl

theorem eval_not_eq_ok_iff {draft : Draft} {child : Predicate} {b : Bool} :
    (not child).eval metaKeys draft = .ok b ↔ child.eval metaKeys draft = .ok !b := by
  rw [eval_not]
  cases child.eval metaKeys draft with
  | error e => simp [Except.map]
  | ok answer => cases answer <;> cases b <;> simp [Except.map]

theorem evalAll_eq_askUntil (metaKeys : List String) (draft : Draft) (children : List Predicate) :
    evalAll metaKeys draft children = askUntil false (eval metaKeys draft) children := by
  induction children with
  | nil => rfl
  | cons child rest ih =>
    rw [evalAll, askUntil, ih]
    cases eval metaKeys draft child with
    | error e => rfl
    | ok b => cases b <;> rfl

theorem evalAny_eq_askUntil (metaKeys : List String) (draft : Draft) (children : List Predicate) :
    evalAny metaKeys draft children = askUntil true (eval metaKeys draft) children := by
  induction children with
  | nil => rfl
  | cons child rest ih => rw [evalAny, askUntil, ih]

theorem evalAll_eq_true_iff {children : List Predicate} :
    evalAll metaKeys record.toDraft children = .ok true ↔ ∀ c ∈ children, c.Holds metaKeys record := by
  rw [evalAll_eq_askUntil]
  exact askUntil_eq_not_iff

/-- A proper predicate can be evaluated on every record. -/
theorem IsProper.eval_isOk {p : Predicate} (h : p.IsProper) (metaKeys : List String) (record : Record) :
    ∃ b, p.eval metaKeys record.toDraft = .ok b := by
  induction h with
  | test field p => exact ⟨_, Test.holds_known metaKeys record field p⟩
  | not _ ih =>
    obtain ⟨b, hb⟩ := ih
    exact ⟨!b, by rw [eval, hb]; rfl⟩
  | all _ ih =>
    rw [eval, evalAll_eq_askUntil]
    exact exists_askUntil false ih
  | any _ ih =>
    rw [eval, evalAny_eq_askUntil]
    exact exists_askUntil true ih

/-- On a proper predicate evaluation answers whether the record satisfies it. -/
theorem IsProper.eval_eq_ok_iff {p : Predicate} (h : p.IsProper) {b : Bool} :
    p.eval metaKeys record.toDraft = .ok b ↔ (b = true ↔ p.Holds metaKeys record) := by
  obtain ⟨c, hc⟩ := h.eval_isOk metaKeys record
  rw [Holds, hc]
  cases b <;> cases c <;> simp

theorem holds_test_iff {field : Field} {p : Pattern} :
    (test ⟨.known field, p⟩).Holds metaKeys record ↔
      ∃ s ∈ field.textsOf metaKeys record, p.accepts s = true := by
  rw [Holds, eval, Test.holds_known, Except.ok.injEq, List.any_eq_true]

theorem holds_not_iff {child : Predicate} (h : child.IsProper) :
    (not child).Holds metaKeys record ↔ ¬ child.Holds metaKeys record := by
  obtain ⟨b, hb⟩ := h.eval_isOk metaKeys record
  rw [Holds, Holds, eval, hb]
  cases b <;> simp [bind, Except.bind, pure, Except.pure]

theorem holds_all_iff {children : List Predicate} :
    (all children).Holds metaKeys record ↔ ∀ c ∈ children, c.Holds metaKeys record := by
  rw [Holds, eval, evalAll_eq_true_iff]

theorem holds_any_iff {children : List Predicate} (h : ∀ c ∈ children, c.IsProper) :
    (any children).Holds metaKeys record ↔ ∃ c ∈ children, c.Holds metaKeys record := by
  rw [Holds, eval]
  induction children with
  | nil => simp [evalAny]
  | cons child rest ih =>
    obtain ⟨b, hb⟩ := (h child List.mem_cons_self).eval_isOk metaKeys record
    have hrest := ih fun c hc => h c (List.mem_cons_of_mem _ hc)
    simp only [List.mem_cons, exists_eq_or_imp]
    rw [evalAny, ← hrest, Holds, hb]
    cases b <;> simp [bind, Except.bind, pure, Except.pure]

theorem leavesOfAll_isOk {P : Leaf → Prop} {negated : Bool} {children : List Predicate}
    (h : ∀ c ∈ children, ∃ ls, c.leavesUnder negated = .ok ls ∧ ∀ l ∈ ls, P l) :
    ∃ ls, leavesOfAll negated children = .ok ls ∧ ∀ l ∈ ls, P l := by
  induction children with
  | nil => exact ⟨[], rfl, by simp⟩
  | cons child rest ih =>
    obtain ⟨first, hfirst, hP⟩ := h child List.mem_cons_self
    obtain ⟨others, hothers, hP'⟩ := ih fun c hc => h c (List.mem_cons_of_mem _ hc)
    refine ⟨first ++ others, by rw [leavesOfAll, hfirst, hothers]; rfl, fun l hl => ?_⟩
    rcases List.mem_append.mp hl with hl | hl
    · exact hP l hl
    · exact hP' l hl

/-- The leaves of a proper predicate are tests of fields. -/
theorem IsProper.leavesUnder_isOk {p : Predicate} (h : p.IsProper) (negated : Bool) :
    ∃ ls, p.leavesUnder negated = .ok ls ∧ ∀ l ∈ ls, l.test.IsProper := by
  induction h generalizing negated with
  | test field p => exact ⟨_, rfl, by simp [Test.IsProper]⟩
  | not _ ih => exact ih !negated
  | all _ ih => exact leavesOfAll_isOk fun c hc => ih c hc negated
  | any _ ih => exact leavesOfAll_isOk fun c hc => ih c hc negated

theorem IsProper.rankingTests_isOk {p : Predicate} (h : p.IsProper) :
    ∃ tests, p.rankingTests = .ok tests ∧ ∀ t ∈ tests, t.IsProper := by
  obtain ⟨ls, hls, hproper⟩ := h.leavesUnder_isOk false
  refine ⟨(ls.filter fun l => !l.negated).map Leaf.test, by rw [rankingTests, leaves, hls]; rfl, ?_⟩
  intro t ht
  obtain ⟨l, hl, rfl⟩ := List.mem_map.mp ht
  exact hproper l (List.mem_of_mem_filter hl)

end Predicate

end TermSearch.Query
