import TermSearch.Proofs.LikeMeaning
import TermSearch.Proofs.StoredRecord
import TermSearch.Proofs.Traversal

/-! The value of a compiled expression on a row. Where the database reads all texts as they stand, the expression of a
predicate is true of a row exactly when the record of the row satisfies the predicate, and the expression of a ranking
counts the tests that it passes. -/
namespace TermSearch.Sql

open Query (Field FieldSet Test Predicate Pattern countHolding)
open Store (Tables)

namespace Expr

@[simp] theorem ofBool_ne_zero (b : Bool) : (ofBool b != 0) = b := by cases b <;> rfl

variable {metadata : List MetaRow} {row : RecordRow}

theorem allNonzero_iff {es : List Expr} :
    allNonzero metadata row es = true ↔ ∀ e ∈ es, e.isTrue metadata row = true := by
  induction es with
  | nil => simp [allNonzero]
  | cons e es ih => rw [allNonzero, Bool.and_eq_true, ih, List.forall_mem_cons, isTrue]

theorem anyNonzero_iff {es : List Expr} :
    anyNonzero metadata row es = true ↔ ∃ e ∈ es, e.isTrue metadata row = true := by
  induction es with
  | nil => simp [anyNonzero]
  | cons e es ih =>
    simp only [List.mem_cons, exists_eq_or_imp]
    rw [anyNonzero, Bool.or_eq_true, ih, isTrue]

theorem isTrue_not (e : Expr) : (not e).isTrue metadata row = !e.isTrue metadata row := by
  rw [isTrue, value, ofBool_ne_zero, isTrue]
  cases h : value metadata row e == 0 <;> simp_all

theorem isTrue_conj_iff {es : List Expr} :
    (conj es).isTrue metadata row = true ↔ ∀ e ∈ es, e.isTrue metadata row = true := by
  rw [isTrue, value, ofBool_ne_zero, allNonzero_iff]

theorem isTrue_disj_iff {es : List Expr} :
    (disj es).isTrue metadata row = true ↔ ∃ e ∈ es, e.isTrue metadata row = true := by
  rw [isTrue, value, ofBool_ne_zero, anyNonzero_iff]

end Expr

theorem ofPredicates_eq_mapM (metaKeys : List String) (children : List Predicate) :
    ofPredicates metaKeys children = children.mapM (ofPredicate metaKeys) := by
  induction children with
  | nil => rfl
  | cons child children ih => rw [ofPredicates, List.mapM_cons, ih]

theorem ofPredicate_not_eq_ok_iff {metaKeys : List String} {child : Predicate} {e : Expr} :
    ofPredicate metaKeys (.not child) = .ok e ↔ ∃ inner, ofPredicate metaKeys child = .ok inner ∧ e = .not inner := by
  rw [ofPredicate]
  cases ofPredicate metaKeys child <;> simp [bind, Except.bind, pure, Except.pure, eq_comm]

theorem ofPredicate_all_eq_ok_iff {metaKeys : List String} {children : List Predicate} {e : Expr} :
    ofPredicate metaKeys (.all children) = .ok e ↔ ∃ es, children.mapM (ofPredicate metaKeys) = .ok es ∧
      e = if es.isEmpty then .number 1 else .group (.conj es) := by
  rw [ofPredicate, ofPredicates_eq_mapM]
  cases children.mapM (ofPredicate metaKeys) with
  | error e => simp [bind, Except.bind]
  | ok es => exact ⟨fun h => ⟨es, rfl, (Except.ok.inj h).symm⟩, fun ⟨_, hes, h⟩ => Except.ok.inj hes ▸ h ▸ rfl⟩

theorem ofPredicate_any_eq_ok_iff {metaKeys : List String} {children : List Predicate} {e : Expr} :
    ofPredicate metaKeys (.any children) = .ok e ↔ ∃ es, children.mapM (ofPredicate metaKeys) = .ok es ∧
      e = if es.isEmpty then .number 0 else .group (.disj es) := by
  rw [ofPredicate, ofPredicates_eq_mapM]
  cases children.mapM (ofPredicate metaKeys) with
  | error e => simp [bind, Except.bind]
  | ok es => exact ⟨fun h => ⟨es, rfl, (Except.ok.inj h).symm⟩, fun ⟨_, hes, h⟩ => Except.ok.inj hes ▸ h ▸ rfl⟩

/-- An expression of the kind that predicates are compiled into. -/
inductive Expr.IsCondition : Expr → Prop
  | zero : IsCondition (.number 0)
  | one : IsCondition (.number 1)
  | like (column : Column) (operand : String) : IsCondition (.group (.like column operand))
  | metaLike (keys : List String) (operand : String) : IsCondition (.metaLike keys operand)
  | not {e : Expr} (h : IsCondition e) : IsCondition (.not e)
  | conj {e : Expr} {es : List Expr} (h : ∀ c ∈ e :: es, IsCondition c) : IsCondition (.group (.conj (e :: es)))
  | disj {e : Expr} {es : List Expr} (h : ∀ c ∈ e :: es, IsCondition c) : IsCondition (.group (.disj (e :: es)))

/-- A proper predicate compiles. -/
theorem exists_ofPredicate {p : Predicate} (h : p.IsProper) (metaKeys : List String) :
    ∃ e, ofPredicate metaKeys p = .ok e ∧ e.IsCondition := by
  induction h with
  | test field p =>
    cases field with
    | metadata => exact ⟨_, rfl, .metaLike _ _⟩
    | title => exact ⟨_, rfl, .like _ _⟩
    | excerpt => exact ⟨_, rfl, .like _ _⟩
    | body => exact ⟨_, rfl, .like _ _⟩
  | not _ ih =>
    obtain ⟨e, he, hcondition⟩ := ih
    exact ⟨.not e, ofPredicate_not_eq_ok_iff.mpr ⟨e, he, rfl⟩, .not hcondition⟩
  | all _ ih =>
    obtain ⟨es, hes, hconditions⟩ := exists_mapM_eq_ok ih
    refine ⟨_, ofPredicate_all_eq_ok_iff.mpr ⟨es, hes, rfl⟩, ?_⟩
    cases es with
    | nil => exact .one
    | cons e es => exact .conj hconditions
  | any _ ih =>
    obtain ⟨es, hes, hconditions⟩ := exists_mapM_eq_ok ih
    refine ⟨_, ofPredicate_any_eq_ok_iff.mpr ⟨es, hes, rfl⟩, ?_⟩
    cases es with
    | nil => exact .zero
    | cons e es => exact .disj hconditions

/-- A predicate of tests of fields whose patterns the database reads as they stand. -/
inductive IsLegiblePredicate : Predicate → Prop
  | test (field : Field) {p : Pattern} (h : IsLegiblePattern p) : IsLegiblePredicate (.test ⟨.known field, p⟩)
  | not {child : Predicate} (h : IsLegiblePredicate child) : IsLegiblePredicate (.not child)
  | all {children : List Predicate} (h : ∀ c ∈ children, IsLegiblePredicate c) : IsLegiblePredicate (.all children)
  | any {children : List Predicate} (h : ∀ c ∈ children, IsLegiblePredicate c) : IsLegiblePredicate (.any children)

theorem IsLegiblePredicate.isProper {p : Predicate} (h : IsLegiblePredicate p) : p.IsProper := by
  induction h with
  | test field _ => exact .test field _
  | not _ ih => exact .not ih
  | all _ ih => exact .all ih
  | any _ ih => exact .any ih

/-- A record of which the database reads every searched text as it stands: title, excerpt, body and metadata values. -/
def IsLegibleRecord (record : Record) : Prop := ∀ field : Field, ∀ s ∈ field.textsOf [] record, IsLegible s

/-- No text is searched under some keys that is not searched under all. -/
theorem mem_textsOf_nil {metaKeys : List String} {record : Record} {field : Field} {s : String}
    (h : s ∈ field.textsOf metaKeys record) : s ∈ field.textsOf [] record := by
  cases field with
  | metadata =>
    obtain ⟨key, values, hfind, -, hs⟩ := Query.mem_metadataTexts.mp h
    exact Query.mem_metadataTexts.mpr ⟨key, values, hfind, .inl rfl, hs⟩
  | _ => exact h

variable {t : Tables} {row : RecordRow} {record : Record} {metaKeys : List String}

/-- The expression of a test has the value one where some text of the field is accepted, and zero elsewhere. -/
theorem exists_ofTest (metaKeys : List String) (hrow : t.recordOf row = .ok record) (hrecord : IsLegibleRecord record)
    (field : Field) {p : Pattern} (hp : IsLegiblePattern p) : ∃ e, ofTest metaKeys ⟨.known field, p⟩ = .ok e ∧
      e.value t.metadata row = Expr.ofBool ((field.textsOf metaKeys record).any p.accepts) := by
  have hlike (s : String) (hs : s ∈ field.textsOf metaKeys record) : like (likeOperand p) s = p.accepts s :=
    like_likeOperand hp (hrecord field s (mem_textsOf_nil hs))
  obtain ⟨published, -, rfl⟩ := Tables.recordOf_eq_ok_iff.mp hrow
  cases field with
  | title => exact ⟨_, rfl, by simp [Expr.value, Field.textsOf, RecordRow.get, hlike row.title List.mem_cons_self]⟩
  | excerpt =>
    exact ⟨_, rfl, by simp [Expr.value, Field.textsOf, RecordRow.get, hlike row.excerpt List.mem_cons_self]⟩
  | body => exact ⟨_, rfl, by simp [Expr.value, Field.textsOf, RecordRow.get, hlike row.body List.mem_cons_self]⟩
  | metadata =>
    refine ⟨_, rfl, ?_⟩
    rw [Field.textsOf] at hlike ⊢
    rw [Expr.value]
    congr 1
    rw [Bool.eq_iff_iff, List.any_eq_true, List.any_eq_true]
    simp only [Bool.and_eq_true, Bool.or_eq_true, beq_iff_eq, List.isEmpty_iff, List.contains_iff_mem]
    constructor
    · rintro ⟨m, hm, ⟨hid, hkey⟩, hmatch⟩
      have hs := Tables.mem_metadataTexts_metadataOf.mpr ⟨m, hm, hid, hkey, rfl⟩
      exact ⟨m.value, hs, by rw [← hlike _ hs, hmatch]⟩
    · rintro ⟨s, hs, haccepts⟩
      obtain ⟨m, hm, hid, hkey, rfl⟩ := Tables.mem_metadataTexts_metadataOf.mp hs
      exact ⟨m, hm, ⟨hid, hkey⟩, by rw [hlike _ hs, haccepts]⟩

theorem forall_isTrue_iff {children : List Predicate} {es : List Expr} {holds : Predicate → Prop}
    {isTrue : Expr → Prop} (h : List.Forall₂ (fun c e => ofPredicate metaKeys c = .ok e) children es)
    (hiff : ∀ c ∈ children, ∀ e, ofPredicate metaKeys c = .ok e → (isTrue e ↔ holds c)) :
    ((∀ e ∈ es, isTrue e) ↔ ∀ c ∈ children, holds c) ∧ ((∃ e ∈ es, isTrue e) ↔ ∃ c ∈ children, holds c) := by
  induction h with
  | nil => simp
  | @cons child e children es he _ ih =>
    obtain ⟨hall, hany⟩ := ih fun c hc => hiff c (List.mem_cons_of_mem _ hc)
    have hhead := hiff child List.mem_cons_self e he
    rw [List.forall_mem_cons, List.forall_mem_cons, hall, hhead]
    simp only [List.mem_cons, exists_eq_or_imp, hany, hhead, and_self]

/-- The expression of a predicate is true of a row exactly when its record satisfies the predicate. -/
theorem isTrue_ofPredicate_iff (hrow : t.recordOf row = .ok record) (hrecord : IsLegibleRecord record) {p : Predicate}
    (hp : IsLegiblePredicate p) {e : Expr} (he : ofPredicate metaKeys p = .ok e) :
    e.isTrue t.metadata row = true ↔ p.Holds metaKeys record := by
  induction hp generalizing e with
  | test field hpattern =>
    obtain ⟨e', he', hvalue⟩ := exists_ofTest metaKeys hrow hrecord field hpattern
    rw [ofPredicate, he', Except.ok.injEq] at he
    rw [Predicate.holds_test_iff, ← he, Expr.isTrue, hvalue, Expr.ofBool_ne_zero, List.any_eq_true]
  | not h ih =>
    obtain ⟨inner, hinner, rfl⟩ := ofPredicate_not_eq_ok_iff.mp he
    rw [Predicate.holds_not_iff h.isProper, ← ih hinner, Expr.isTrue_not]
    simp
  | all h ih =>
    obtain ⟨es, hes, rfl⟩ := ofPredicate_all_eq_ok_iff.mp he
    have hiff := (forall_isTrue_iff (mapM_eq_ok_iff.mp hes) fun c hc e he => ih c hc he).1
    rw [Predicate.holds_all_iff, ← hiff]
    cases es with
    | nil => simp [Expr.isTrue, Expr.value]
    | cons e es => exact Expr.isTrue_conj_iff
  | any h ih =>
    obtain ⟨es, hes, rfl⟩ := ofPredicate_any_eq_ok_iff.mp he
    have hiff := (forall_isTrue_iff (mapM_eq_ok_iff.mp hes) fun c hc e he => ih c hc he).2
    rw [Predicate.holds_any_iff fun c hc => (h c hc).isProper, ← hiff]
    cases es with
    | nil => simp [Expr.isTrue, Expr.value]
    | cons e es => exact Expr.isTrue_disj_iff

/-- An expression that the test of a field is compiled into: an addend of a match count. -/
inductive Expr.IsAddend : Expr → Prop
  | like (column : Column) (operand : String) : IsAddend (.group (.like column operand))
  | metaLike (keys : List String) (operand : String) : IsAddend (.metaLike keys operand)

/-- Proper tests compile. -/
theorem exists_mapM_ofTest {tests : List Test} (h : ∀ t ∈ tests, t.IsProper) (metaKeys : List String) :
    ∃ es, tests.mapM (ofTest metaKeys) = .ok es ∧ ∀ e ∈ es, e.IsAddend := by
  refine exists_mapM_eq_ok fun t ht => ?_
  obtain ⟨name, p⟩ := t
  obtain ⟨field, rfl⟩ : ∃ field, name = .known field := h _ ht
  cases field with
  | metadata => exact ⟨_, rfl, .metaLike _ _⟩
  | _ => exact ⟨_, rfl, .like _ _⟩

/-- The expressions of some tests add up to the number of tests that the record passes. -/
theorem countHolding_eq_total (hrow : t.recordOf row = .ok record) (hrecord : IsLegibleRecord record)
    {tests : List Test} {es : List Expr} (h : ∀ t ∈ tests, t.IsProper ∧ IsLegiblePattern t.pattern)
    (hes : tests.mapM (ofTest metaKeys) = .ok es) :
    ∃ n, countHolding metaKeys record.toDraft tests = .ok n ∧ Expr.total t.metadata row es = n := by
  replace hes := mapM_eq_ok_iff.mp hes
  induction hes with
  | nil => exact ⟨0, rfl, rfl⟩
  | @cons test e tests es he _ ih =>
    obtain ⟨name, p⟩ := test
    obtain ⟨hfield, hp⟩ := h _ List.mem_cons_self
    obtain ⟨field, rfl⟩ : ∃ field, name = .known field := hfield
    obtain ⟨n, hn, htotal⟩ := ih fun t ht => h t (List.mem_cons_of_mem _ ht)
    obtain ⟨e', he', hvalue⟩ := exists_ofTest metaKeys hrow hrecord field hp
    obtain rfl : e' = e := Except.ok.inj (he'.symm.trans he)
    refine ⟨_, by rw [countHolding, Query.Test.holds_known, hn]; rfl, ?_⟩
    rw [Expr.total, hvalue, htotal, Expr.ofBool]
    split <;> simp

end TermSearch.Sql
