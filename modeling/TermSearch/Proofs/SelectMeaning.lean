import TermSearch.Proofs.CompiledCondition
import TermSearch.Proofs.CompiledPlan
import TermSearch.Sql.Compile

/-! What the statement of a plan selects. Where the database reads all texts as they stand, a row is selected exactly
when its record may be returned and satisfies the plan, and it is counted with the rank of the record. -/
namespace TermSearch.Sql

open Query (Plan Scope Fault Test)
open Store (Tables)

namespace Expr

mutual

theorem text_of_mem_params {p : Param} : ∀ {e : Expr}, p ∈ e.params → ∃ s, p = .text s
  | number _, h => by simp [params] at h
  | like _ operand, h => ⟨operand, List.mem_singleton.mp h⟩
  | metaLike keys operand, h => by
    rcases List.mem_append.mp h with hkey | hoperand
    · obtain ⟨key, -, rfl⟩ := List.mem_map.mp hkey
      exact ⟨key, rfl⟩
    · exact ⟨operand, List.mem_singleton.mp hoperand⟩
  | among _ options, h => by
    obtain ⟨option, -, rfl⟩ := List.mem_map.mp h
    exact ⟨option, rfl⟩
  | isEmptyText _, h => by simp [params] at h
  | not e, h => text_of_mem_params (e := e) h
  | conj es, h => @text_of_mem_paramsOfAll p es h
  | disj es, h => @text_of_mem_paramsOfAll p es h
  | sum es, h => @text_of_mem_paramsOfAll p es h
  | group e, h => text_of_mem_params (e := e) h

theorem text_of_mem_paramsOfAll {p : Param} : ∀ {es : List Expr}, p ∈ paramsOfAll es → ∃ s, p = .text s
  | [], h => by simp [paramsOfAll] at h
  | e :: es, h => by
    rcases List.mem_append.mp h with hhead | htail
    · exact text_of_mem_params hhead
    · exact text_of_mem_paramsOfAll htail

end

end Expr

variable {plan : Plan} {metaKeys : List String} {scope : Scope} {window : Option Window} {q : Select}

theorem ofPlan_eq_ok_iff : ofPlan plan metaKeys scope window = .ok q ↔
    ∃ counter condition, ofRanking metaKeys plan.ranking = .ok counter ∧
      ofPredicate metaKeys plan.predicate = .ok condition ∧ q = {
        matchCount := counter
        conditions := [condition] ++
          (if scope.types.isEmpty then [] else [.among .type scope.types]) ++
          (if scope.includeProtected then [] else [.isEmptyText .password])
        titleFirst := plan.titlePatterns.map likeOperand
        byMatchCount := plan.ranking.isSome
        window := window } := by
  unfold ofPlan
  cases ofRanking metaKeys plan.ranking with
  | error e => simp [bind, Except.bind]
  | ok counter =>
    cases ofPredicate metaKeys plan.predicate with
    | error e => simp [bind, Except.bind]
    | ok condition =>
      constructor
      · exact fun h => ⟨counter, condition, rfl, rfl, (Except.ok.inj h).symm⟩
      · rintro ⟨_, _, hcounter, hcondition, rfl⟩
        obtain rfl := Except.ok.inj hcounter
        obtain rfl := Except.ok.inj hcondition
        rfl

theorem exists_ofRanking {ranking : Option (List Test)}
    (h : ∀ tests, ranking = some tests → ∀ t ∈ tests, t.IsProper) (metaKeys : List String) :
    ∃ counter, ofRanking metaKeys ranking = .ok counter := by
  cases ranking with
  | none => exact ⟨_, rfl⟩
  | some tests =>
    obtain ⟨es, hes, -⟩ := exists_mapM_ofTest (h tests rfl) metaKeys
    exact ⟨_, by rw [ofRanking, hes]; rfl⟩

/-- The plan of a query has a statement. -/
theorem exists_ofPlan (h : plan.IsProper) (metaKeys : List String) (scope : Scope) (window : Option Window) :
    ∃ q, ofPlan plan metaKeys scope window = .ok q := by
  obtain ⟨counter, hcounter⟩ := exists_ofRanking h.ranking metaKeys
  obtain ⟨condition, hcondition, -⟩ := exists_ofPredicate h.predicate metaKeys
  exact ⟨_, ofPlan_eq_ok_iff.mpr ⟨counter, condition, hcounter, hcondition, rfl⟩⟩

/-- A part of the result that is given by two numbers of 64 bits. -/
def Window.IsPage (w : Window) : Prop :=
  ∃ limit offset, w = ⟨.int limit, .int offset⟩ ∧ Store.fits limit = true ∧ Store.fits offset = true

theorem Window.IsPage.isSome_counts? {w : Window} (h : w.IsPage) : w.counts?.isSome = true := by
  obtain ⟨limit, offset, rfl, -, -⟩ := h
  by_cases hlimit : limit = 0 <;> simp [counts?, Param.count?, hlimit]

theorem window_ofPlan (hq : ofPlan plan metaKeys scope window = .ok q) : q.window = window := by
  obtain ⟨_, _, -, -, rfl⟩ := ofPlan_eq_ok_iff.mp hq
  rfl

/-- The parameters of a plan are texts, apart from the limit and the offset. -/
theorem mem_params_ofPlan (hq : ofPlan plan metaKeys scope window = .ok q) {p : Param} (hp : p ∈ q.params) :
    (∃ s, p = .text s) ∨ ∃ w ∈ window, p = w.limit ∨ p = w.offset := by
  obtain ⟨counter, condition, -, -, rfl⟩ := ofPlan_eq_ok_iff.mp hq
  simp only [Select.params, List.mem_append] at hp
  rcases hp with ((hcount | hcondition) | htitle) | hpage
  · exact .inl (Expr.text_of_mem_params hcount)
  · exact .inl (Expr.text_of_mem_paramsOfAll hcondition)
  · obtain ⟨operand, -, rfl⟩ := List.mem_map.mp htitle
    exact .inl ⟨operand, rfl⟩
  · cases window with
    | none => cases hpage
    | some w => exact .inr ⟨w, rfl, by simpa using hpage⟩

/-- The parameters of a plan fit where its page is given by numbers that do. -/
theorem paramsFit_ofPlan (hwindow : ∀ w ∈ window, w.IsPage) (hq : ofPlan plan metaKeys scope window = .ok q) :
    Tables.paramsFit q = true := by
  refine List.all_eq_true.mpr fun p hp => ?_
  rcases mem_params_ofPlan hq hp with ⟨s, rfl⟩ | ⟨w, hw, hp⟩
  · rfl
  · obtain ⟨limit, offset, rfl, hlimit, hoffset⟩ := hwindow w hw
    rcases hp with rfl | rfl
    · exact hlimit
    · exact hoffset

/-- A plan whose page is given by numbers is carried out: the rows that it shows are read one after another. -/
theorem execute_ofPlan (hwindow : ∀ w ∈ window, w.IsPage) (hq : ofPlan plan metaKeys scope window = .ok q)
    (t : Tables) : t.execute q = (q.run t.metadata t.records).mapM t.hitOf := by
  have hcounts : (q.window.any fun w => w.counts?.isNone) = false := by
    rw [window_ofPlan hq]
    cases window with
    | none => rfl
    | some w =>
      have hsome := (hwindow w rfl).isSome_counts?
      rw [Option.any_some, ← Option.not_isSome, hsome]
      rfl
  rw [Tables.execute, paramsFit_ofPlan hwindow hq, hcounts]
  rfl

variable {t : Tables} {row : RecordRow} {record : Record}

theorem isTrue_among_iff {options : List String} {column : Column} :
    (Expr.among column options).isTrue t.metadata row = true ↔ row.get column ∈ options := by
  rw [Expr.isTrue, Expr.value, Expr.ofBool_ne_zero, List.contains_iff_mem]

theorem isTrue_isEmptyText {column : Column} :
    (Expr.isEmptyText column).isTrue t.metadata row = (row.get column).isEmpty := by
  rw [Expr.isTrue, Expr.value, Expr.ofBool_ne_zero]

/-- A search may return the record of a row exactly when the row satisfies the conditions of the scope. -/
theorem admits_iff (hrow : t.recordOf row = .ok record) : scope.admits record.toDraft = true ↔
    (scope.types = [] ∨ row.type ∈ scope.types) ∧ (scope.includeProtected = true ∨ row.password.isEmpty = true) := by
  obtain ⟨published, -, rfl⟩ := Tables.recordOf_eq_ok_iff.mp hrow
  simp [Scope.admits, Record.toDraft, Draft.isProtected]

/-- A plan whose patterns the database reads as they stand. -/
structure IsLegiblePlan (plan : Plan) : Prop where
  predicate : IsLegiblePredicate plan.predicate
  ranking : ∀ tests, plan.ranking = some tests → ∀ t ∈ tests, t.IsProper ∧ IsLegiblePattern t.pattern
  titlePatterns : ∀ p ∈ plan.titlePatterns, IsLegiblePattern p

theorem IsLegiblePlan.isProper (h : IsLegiblePlan plan) : plan.IsProper :=
  ⟨h.predicate.isProper, fun tests htests t ht => (h.ranking tests htests t ht).1⟩

/-- The rows that a statement selects are those whose record may be returned and satisfies the plan. -/
theorem selects_iff (h : IsLegiblePlan plan) (hq : ofPlan plan metaKeys scope none = .ok q)
    (hrow : t.recordOf row = .ok record) (hrecord : IsLegibleRecord record) :
    Expr.allNonzero t.metadata row q.conditions = true ↔
      scope.admits record.toDraft = true ∧ plan.predicate.Holds metaKeys record := by
  obtain ⟨counter, condition, -, hcondition, rfl⟩ := ofPlan_eq_ok_iff.mp hq
  rw [Expr.allNonzero_iff, admits_iff hrow, ← isTrue_ofPredicate_iff hrow hrecord h.predicate hcondition]
  simp only [List.mem_append, List.mem_singleton, or_imp, forall_and, forall_eq]
  have htypes : (∀ e ∈ (if scope.types.isEmpty then [] else [Expr.among .type scope.types]),
      e.isTrue t.metadata row = true) ↔ scope.types = [] ∨ row.type ∈ scope.types := by
    cases htypes : scope.types with
    | nil => simp
    | cons first rest =>
      have hamong : (Expr.among .type (first :: rest)).isTrue t.metadata row = true ↔
          row.get .type ∈ first :: rest := isTrue_among_iff
      simpa [RecordRow.get] using hamong
  have hprotected : (∀ e ∈ (if scope.includeProtected then [] else [Expr.isEmptyText .password]),
      e.isTrue t.metadata row = true) ↔ scope.includeProtected = true ∨ row.password.isEmpty = true := by
    cases scope.includeProtected with
    | true => simp
    | false => simp [isTrue_isEmptyText, RecordRow.get]
  rw [htypes, hprotected]
  tauto

/-- The match count of a row is the rank of its record. -/
theorem score_eq_matchCount (h : IsLegiblePlan plan) (hq : ofPlan plan metaKeys scope none = .ok q)
    (hrow : t.recordOf row = .ok record) (hrecord : IsLegibleRecord record) :
    ∃ n, Query.score metaKeys record.toDraft plan.ranking = .ok n ∧ q.matchCount.value t.metadata row = n := by
  obtain ⟨counter, condition, hcounter, -, rfl⟩ := ofPlan_eq_ok_iff.mp hq
  dsimp only
  cases hranking : plan.ranking with
  | none =>
    rw [hranking, ofRanking, Except.ok.injEq] at hcounter
    exact ⟨0, rfl, by rw [← hcounter]; rfl⟩
  | some tests =>
    have htests := h.ranking tests hranking
    obtain ⟨es, hes, -⟩ := exists_mapM_ofTest (fun t ht => (htests t ht).1) metaKeys
    obtain ⟨n, hn, htotal⟩ := countHolding_eq_total hrow hrecord htests hes
    refine ⟨n, hn, ?_⟩
    rw [hranking, ofRanking, hes] at hcounter
    obtain rfl := Except.ok.inj hcounter
    rw [← htotal]
    cases es <;> rfl

end TermSearch.Sql
