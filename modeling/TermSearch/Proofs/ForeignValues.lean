import TermSearch.Proofs.CompiledCondition
import TermSearch.Report.Predicate

/-! Trees in which values stand where nodes belong. Every walk that visits the whole tree from left to right succeeds
where there is no such value, and otherwise refuses the first one; this is said once for all walks, and each walk is
shown to be one. Evaluation stops as soon as the answer is known, so it may pass such values by. Main statement: the
documents, the texts, the rankings and the conditions of trees are refused alike, and an answer of evaluation would be
the same whatever stood in the place of the values. -/
namespace TermSearch.Query

namespace Predicate

mutual

/-- The names of the types of the values that stand where nodes belong, from left to right. -/
def foreignTypes : Predicate → List String
  | test _ => []
  | not child => foreignTypes child
  | all children => foreignTypesOfAll children
  | any children => foreignTypesOfAll children
  | foreign typeName => [typeName]

def foreignTypesOfAll : List Predicate → List String
  | [] => []
  | child :: rest => foreignTypes child ++ foreignTypesOfAll rest

end

mutual

/-- Whether a second tree is the first one with some tree in the place of each foreign value. -/
def IsFilledAs : Predicate → Predicate → Prop
  | test t, q => q = test t
  | not child, q => ∃ c, q = not c ∧ IsFilledAs child c
  | all children, q => ∃ cs, q = all cs ∧ AreFilledAs children cs
  | any children, q => ∃ cs, q = any cs ∧ AreFilledAs children cs
  | foreign _, _ => True

def AreFilledAs : List Predicate → List Predicate → Prop
  | [], qs => qs = []
  | child :: rest, qs => ∃ c cs, qs = c :: cs ∧ IsFilledAs child c ∧ AreFilledAs rest cs

end

/-- A tree whose tests all name a field; values may stand where nodes belong. -/
inductive NamesFields : Predicate → Prop
  | test (field : Field) (p : Pattern) : NamesFields (.test ⟨.known field, p⟩)
  | not {child : Predicate} (h : NamesFields child) : NamesFields (.not child)
  | all {children : List Predicate} (h : ∀ c ∈ children, NamesFields c) : NamesFields (.all children)
  | any {children : List Predicate} (h : ∀ c ∈ children, NamesFields c) : NamesFields (.any children)
  | foreign (typeName : String) : NamesFields (.foreign typeName)

theorem IsProper.namesFields {p : Predicate} (h : p.IsProper) : p.NamesFields := by
  induction h with
  | test field p => exact .test field p
  | not _ ih => exact .not ih
  | all _ ih => exact .all ih
  | any _ ih => exact .any ih

theorem foreignTypesOfAll_eq_nil {children : List Predicate} (h : ∀ c ∈ children, c.foreignTypes = []) :
    foreignTypesOfAll children = [] := by
  induction children with
  | nil => rfl
  | cons child rest ih =>
    obtain ⟨hchild, hrest⟩ := List.forall_mem_cons.mp h
    rw [foreignTypesOfAll, hchild, ih hrest]
    rfl

theorem IsProper.foreignTypes_eq_nil {p : Predicate} (h : p.IsProper) : p.foreignTypes = [] := by
  induction h with
  | test field p => rfl
  | not _ ih => exact ih
  | all _ ih => exact foreignTypesOfAll_eq_nil ih
  | any _ ih => exact foreignTypesOfAll_eq_nil ih

section Walks

variable {ι α β : Type}

/-- What comes of a walk that has some foreign values on its way: a result where there is none, and otherwise the
refusal of the first one. -/
def Answers : List String → Except Fault α → Prop
  | [], answer => ∃ a, answer = .ok a
  | typeName :: _, answer => answer = .error (.foreignNode typeName)

theorem Answers.map {types : List String} {answer : Except Fault α} (h : Answers types answer) (g : α → β) :
    Answers types (answer.map g) := by
  cases types with
  | nil =>
    obtain ⟨a, rfl⟩ := h
    exact ⟨g a, rfl⟩
  | cons typeName types =>
    obtain rfl : answer = _ := h
    rfl

/-- A run over several trees stops at the first value that one of them holds. -/
theorem Answers.mapM {children : List Predicate} {walk : Predicate → Except Fault α}
    (h : ∀ c ∈ children, Answers c.foreignTypes (walk c)) :
    Answers (foreignTypesOfAll children) (children.mapM walk) := by
  induction children with
  | nil => exact ⟨[], rfl⟩
  | cons child rest ih =>
    obtain ⟨hchild, hrest⟩ := List.forall_mem_cons.mp h
    rw [foreignTypesOfAll, List.mapM_cons]
    cases htypes : child.foreignTypes with
    | nil =>
      rw [htypes] at hchild
      obtain ⟨a, ha⟩ := hchild
      have hmap : (walk child >>= fun a => rest.mapM walk >>= fun others => pure (a :: others)) =
          (rest.mapM walk).map (a :: ·) := by
        rw [ha]
        cases rest.mapM walk <;> rfl
      rw [hmap]
      exact (ih hrest).map _
    | cons typeName types =>
      rw [htypes] at hchild
      rw [show walk child = _ from hchild]
      rfl

/-- A walk over whole trees. It gives something for the test of a field, makes its result at a node from the results
of all children, and refuses a value where a node belongs. What it carries along may change on the way down. -/
structure IsWalk (walk : ι → Predicate → Except Fault α) : Prop where
  test : ∀ i field p, ∃ a, walk i (.test ⟨.known field, p⟩) = .ok a
  not : ∀ i child, ∃ (below : ι) (g : α → α), walk i (.not child) = (walk below child).map g
  all : ∀ i children, ∃ (below : ι) (g : List α → α), walk i (.all children) = (children.mapM (walk below)).map g
  any : ∀ i children, ∃ (below : ι) (g : List α → α), walk i (.any children) = (children.mapM (walk below)).map g
  foreign : ∀ i typeName, walk i (.foreign typeName) = .error (.foreignNode typeName)

/-- Every walk over whole trees refuses the first foreign value, and fails nowhere else. -/
theorem IsWalk.answers {walk : ι → Predicate → Except Fault α} (hwalk : IsWalk walk) {p : Predicate}
    (h : p.NamesFields) (i : ι) : Answers p.foreignTypes (walk i p) := by
  induction h generalizing i with
  | test field p => exact hwalk.test i field p
  | @not child _ ih =>
    obtain ⟨below, g, heq⟩ := hwalk.not i child
    rw [heq]
    exact (ih below).map g
  | @all children _ ih =>
    obtain ⟨below, g, heq⟩ := hwalk.all i children
    rw [heq]
    exact (Answers.mapM fun c hc => ih c hc below).map g
  | @any children _ ih =>
    obtain ⟨below, g, heq⟩ := hwalk.any i children
    rw [heq]
    exact (Answers.mapM fun c hc => ih c hc below).map g
  | foreign typeName => exact hwalk.foreign i typeName

theorem IsWalk.exists_of_isProper {walk : ι → Predicate → Except Fault α} (hwalk : IsWalk walk) {p : Predicate}
    (h : p.IsProper) (i : ι) : ∃ a, walk i p = .ok a := by
  have hanswers := hwalk.answers h.namesFields i
  rwa [h.foreignTypes_eq_nil] at hanswers

theorem leavesOfAll_eq_mapM (negated : Bool) (children : List Predicate) :
    leavesOfAll negated children = (children.mapM (leavesUnder negated)).map List.flatten := by
  induction children with
  | nil => rfl
  | cons child rest ih =>
    rw [leavesOfAll, ih, List.mapM_cons]
    cases leavesUnder negated child with
    | error e => rfl
    | ok first => cases rest.mapM (leavesUnder negated) <;> rfl

theorem isWalk_leavesUnder : IsWalk leavesUnder where
  test negated field p := ⟨_, rfl⟩
  not negated child := ⟨!negated, id, by rw [leavesUnder]; cases leavesUnder (!negated) child <;> rfl⟩
  all negated children := ⟨negated, List.flatten, by rw [leavesUnder, leavesOfAll_eq_mapM]⟩
  any negated children := ⟨negated, List.flatten, by rw [leavesUnder, leavesOfAll_eq_mapM]⟩
  foreign _ _ := rfl

theorem rankingTests_eq_map (p : Predicate) :
    p.rankingTests = (leavesUnder false p).map fun ls => (ls.filter fun l => !l.negated).map Leaf.test := by
  rw [rankingTests, leaves]
  cases leavesUnder false p <;> rfl

end Walks

section Evaluation

variable {stop : Bool} {walk : Predicate → Except Fault Bool} {children : List Predicate}

/-- A walk gives an answer, and the same one wherever something else stands in the place of foreign values, or its
answer is refused for one of them. -/
def IsSettled {τ : Type} (types : List String) (answer : Except Fault Bool) (filled : τ → Prop)
    (walk : τ → Except Fault Bool) : Prop :=
  (∃ b, answer = .ok b ∧ ∀ q, filled q → walk q = .ok b) ∨ ∃ typeName ∈ types, answer = .error (.foreignNode typeName)

/-- Asking trees until the answer is known asks nothing of those behind. -/
theorem isSettled_askUntil (h : ∀ c ∈ children, IsSettled c.foreignTypes (walk c) c.IsFilledAs walk) :
    IsSettled (foreignTypesOfAll children) (askUntil stop walk children) (AreFilledAs children)
      (askUntil stop walk) := by
  induction children with
  | nil =>
    refine .inl ⟨!stop, rfl, fun qs hqs => ?_⟩
    rw [show qs = [] from hqs]
    rfl
  | cons child rest ih =>
    obtain ⟨hchild, hrest⟩ := List.forall_mem_cons.mp h
    rcases hchild with ⟨b, hb, hfilled⟩ | ⟨typeName, htype, hrefused⟩
    · obtain rfl | rfl := Bool.eq_or_eq_not b stop
      · refine .inl ⟨b, askUntil_cons_of_eq_stop hb rest, ?_⟩
        rintro qs ⟨c, cs, rfl, hc, -⟩
        exact askUntil_cons_of_eq_stop (hfilled c hc) cs
      · rcases ih hrest with ⟨b, hb', hfilled'⟩ | ⟨typeName, htype, hrefused⟩
        · refine .inl ⟨b, (askUntil_cons_of_eq_not hb rest).trans hb', ?_⟩
          rintro qs ⟨c, cs, rfl, hc, hcs⟩
          exact (askUntil_cons_of_eq_not (hfilled c hc) cs).trans (hfilled' cs hcs)
        · exact .inr ⟨typeName, List.mem_append_right _ htype, (askUntil_cons_of_eq_not hb rest).trans hrefused⟩
    · exact .inr ⟨typeName, List.mem_append_left _ htype, askUntil_cons_of_eq_error hrefused rest⟩

/-- Evaluation on a record passes foreign values by or refuses one of them. -/
theorem NamesFields.isSettled_eval {p : Predicate} (h : p.NamesFields) (metaKeys : List String) (record : Record) :
    IsSettled p.foreignTypes (p.eval metaKeys record.toDraft) p.IsFilledAs (eval metaKeys record.toDraft) := by
  induction h with
  | test field p =>
    refine .inl ⟨_, Test.holds_known metaKeys record field p, ?_⟩
    rintro _ rfl
    exact Test.holds_known metaKeys record field p
  | @not child _ ih =>
    rw [eval_not]
    rcases ih with ⟨b, hb, hfilled⟩ | ⟨typeName, htype, hrefused⟩
    · refine .inl ⟨!b, by rw [hb]; rfl, ?_⟩
      rintro _ ⟨c, rfl, hc⟩
      rw [eval_not, hfilled c hc]
      rfl
    · exact .inr ⟨typeName, htype, by rw [hrefused]; rfl⟩
  | all _ ih =>
    rw [eval, evalAll_eq_askUntil]
    rcases isSettled_askUntil ih with ⟨b, hb, hfilled⟩ | hrefused
    · refine .inl ⟨b, hb, ?_⟩
      rintro _ ⟨cs, rfl, hcs⟩
      rw [eval, evalAll_eq_askUntil]
      exact hfilled cs hcs
    · exact .inr hrefused
  | any _ ih =>
    rw [eval, evalAny_eq_askUntil]
    rcases isSettled_askUntil ih with ⟨b, hb, hfilled⟩ | hrefused
    · refine .inl ⟨b, hb, ?_⟩
      rintro _ ⟨cs, rfl, hcs⟩
      rw [eval, evalAny_eq_askUntil]
      exact hfilled cs hcs
    · exact .inr hrefused
  | foreign typeName => exact .inr ⟨typeName, List.mem_singleton_self typeName, rfl⟩

end Evaluation

end Predicate

/-- A record with a title only. -/
def titledRecord (title : String) : Record where
  id := some 1
  title := title
  excerpt := ""
  body := ""
  type := defaultType
  password := ""
  published := none
  metadata := []

theorem holds_titledRecord (metaKeys : List String) (word title : String) :
    Test.holds metaKeys (titledRecord title).toDraft ⟨.known .title, .containing word⟩ =
      .ok ((Pattern.containing word).accepts title) := by
  rw [Test.holds_known, Field.textsOf, List.any_cons, List.any_nil, Bool.or_false]
  rfl

end TermSearch.Query

namespace TermSearch.Sql

open Query (Predicate)

theorem isWalk_ofPredicate : Predicate.IsWalk ofPredicate where
  test metaKeys field p := by cases field <;> exact ⟨_, rfl⟩
  not metaKeys child := ⟨metaKeys, .not, by rw [ofPredicate]; cases ofPredicate metaKeys child <;> rfl⟩
  all metaKeys children := by
    refine ⟨metaKeys, fun es => if es.isEmpty then .number 1 else .group (.conj es), ?_⟩
    rw [ofPredicate, ofPredicates_eq_mapM]
    cases children.mapM (ofPredicate metaKeys) <;> rfl
  any metaKeys children := by
    refine ⟨metaKeys, fun es => if es.isEmpty then .number 0 else .group (.disj es), ?_⟩
    rw [ofPredicate, ofPredicates_eq_mapM]
    cases children.mapM (ofPredicate metaKeys) <;> rfl
  foreign _ _ := rfl

end TermSearch.Sql

namespace TermSearch.Report

open Query (Predicate Fault Pattern titledRecord holds_titledRecord)

theorem predicateTexts_eq_mapM (depth : Int) (children : List Predicate) :
    predicateTexts depth children = (children.mapM (predicateText depth)).map (List.foldr (· ++ ·) "") := by
  induction children with
  | nil => rfl
  | cons child rest ih =>
    rw [predicateTexts, ih, List.mapM_cons]
    cases predicateText depth child with
    | error e => rfl
    | ok first => cases rest.mapM (predicateText depth) <;> rfl

theorem predicateText_not {child : Predicate} (h : ∀ t, child ≠ .test t) (depth : Int) :
    predicateText depth (.not child) = (predicateText (depth + 1) child).map (pad depth ++ "NOT\n" ++ ·) := by
  rw [predicateText]
  · cases predicateText (depth + 1) child <;> rfl
  · exact h

theorem isWalk_predicateText : Predicate.IsWalk predicateText where
  test depth field p := ⟨_, rfl⟩
  not depth child := by
    by_cases htest : ∃ t, child = .test t
    · -- a negated test is one line, which does not show the line of the test
      obtain ⟨t, rfl⟩ := htest
      exact ⟨depth, fun _ => pad depth ++ t.field.text ++ " !~ " ++ t.pattern.text ++ "\n", rfl⟩
    · exact ⟨depth + 1, _, predicateText_not (fun t ht => htest ⟨t, ht⟩) depth⟩
  all depth children := by
    refine ⟨depth + 1, fun texts => heading depth "AND" children ++ texts.foldr (· ++ ·) "", ?_⟩
    rw [predicateText, predicateTexts_eq_mapM]
    cases children.mapM (predicateText (depth + 1)) <;> rfl
  any depth children := by
    refine ⟨depth + 1, fun texts => heading depth "OR" children ++ texts.foldr (· ++ ·) "", ?_⟩
    rw [predicateText, predicateTexts_eq_mapM]
    cases children.mapM (predicateText (depth + 1)) <;> rfl
  foreign _ _ := rfl

theorem predicateDocuments_eq_mapM (children : List Predicate) :
    predicateDocuments children = children.mapM predicateDocument := by
  induction children with
  | nil => rfl
  | cons child rest ih => rw [predicateDocuments, List.mapM_cons, ih]

theorem isWalk_predicateDocument : Predicate.IsWalk fun (_ : Unit) => predicateDocument where
  test _ field p := ⟨_, rfl⟩
  not _ child := ⟨(), entry "not", by rw [predicateDocument]; cases predicateDocument child <;> rfl⟩
  all _ children := by
    refine ⟨(), fun documents => entry "and" (.list documents), ?_⟩
    rw [predicateDocument, predicateDocuments_eq_mapM]
    cases children.mapM predicateDocument <;> rfl
  any _ children := by
    refine ⟨(), fun documents => entry "or" (.list documents), ?_⟩
    rw [predicateDocument, predicateDocuments_eq_mapM]
    cases children.mapM predicateDocument <;> rfl
  foreign _ _ := rfl

/-- Of a tree whose tests name fields, the document, the text, the ranking and the condition are made where it holds no
foreign value, and it can be evaluated on every record. Otherwise all four are refused for the type of its first foreign
value. Evaluation on a record then refuses one of the values, or it gives the answer that it gives whatever stands in
their place. -/
theorem walks_refuse_first_foreign {p : Predicate} (h : p.NamesFields) (metaKeys : List String) (depth : Int) :
    (p.foreignTypes = [] →
      (∃ document, predicateDocument p = .ok document) ∧ (∃ text, predicateText depth p = .ok text) ∧
      (∃ tests, p.rankingTests = .ok tests) ∧ (∃ condition, Sql.ofPredicate metaKeys p = .ok condition) ∧
      ∀ record : Record, ∃ b, p.eval metaKeys record.toDraft = .ok b) ∧
    ∀ first others, p.foreignTypes = first :: others → ∃ fault : Fault,
      fault = .foreignNode first ∧ fault.message = "Unsupported predicate node: " ++ first ∧
      predicateDocument p = .error fault ∧ predicateText depth p = .error fault ∧ p.rankingTests = .error fault ∧
      Sql.ofPredicate metaKeys p = .error fault ∧
      ∀ record : Record,
        (∃ b, p.eval metaKeys record.toDraft = .ok b ∧
          ∀ q, p.IsFilledAs q → q.eval metaKeys record.toDraft = .ok b) ∨
        ∃ typeName ∈ p.foreignTypes, p.eval metaKeys record.toDraft = .error (.foreignNode typeName) := by
  have hdocument : Predicate.Answers p.foreignTypes (predicateDocument p) := isWalk_predicateDocument.answers h ()
  have htext := isWalk_predicateText.answers h depth
  have htests : Predicate.Answers p.foreignTypes p.rankingTests := by
    rw [Predicate.rankingTests_eq_map]
    exact (Predicate.isWalk_leavesUnder.answers h false).map _
  have hcondition := Sql.isWalk_ofPredicate.answers h metaKeys
  have heval := h.isSettled_eval metaKeys
  refine ⟨fun hnone => ?_, fun first others hfirst => ?_⟩
  · rw [hnone] at hdocument htext htests hcondition heval
    refine ⟨hdocument, htext, htests, hcondition, fun record => ?_⟩
    rcases heval record with ⟨b, hb, -⟩ | ⟨typeName, htype, -⟩
    · exact ⟨b, hb⟩
    · cases htype
  · rw [hfirst] at hdocument htext htests hcondition
    exact ⟨_, rfl, rfl, hdocument, htext, htests, hcondition, heval⟩

/-- A tree with two values in the place of nodes, behind a test of the title. -/
def moonOrFive : Predicate :=
  .any [.test ⟨.known .title, .containing "moon"⟩, .not (.foreign "int"), .all [.foreign "NoneType"]]

theorem namesFields_moonOrFive : moonOrFive.NamesFields := by
  refine .any fun c hc => ?_
  simp only [List.mem_cons, List.not_mem_nil, or_false] at hc
  rcases hc with rfl | rfl | rfl
  · exact .test _ _
  · exact .not (.foreign _)
  · exact .all fun c hc => List.mem_singleton.mp hc ▸ .foreign _

theorem eval_moonOrFive (metaKeys : List String) (title : String) :
    moonOrFive.eval metaKeys (titledRecord title).toDraft =
      if (Pattern.containing "moon").accepts title then .ok true else .error (.foreignNode "int") := by
  rw [moonOrFive, Predicate.eval, Predicate.evalAny, Predicate.eval, holds_titledRecord]
  cases (Pattern.containing "moon").accepts title <;> rfl

/-- The tree is refused for the number, and so is its evaluation on a record with another title. With the title that it
looks for, both values are passed by. -/
theorem walks_refuse_first_foreign_moonOrFive : moonOrFive.NamesFields ∧
    moonOrFive.foreignTypes = ["int", "NoneType"] ∧ ∃ fault : Fault,
      fault.message = "Unsupported predicate node: int" ∧ predicateDocument moonOrFive = .error fault ∧
      predicateText 1 moonOrFive = .error fault ∧ moonOrFive.rankingTests = .error fault ∧
      Sql.ofPredicate ["place"] moonOrFive = .error fault ∧
      moonOrFive.eval ["place"] (titledRecord "Sun").toDraft = .error fault ∧
      ∀ q, moonOrFive.IsFilledAs q → q.eval ["place"] (titledRecord "Full Moon").toDraft = .ok true := by
  obtain ⟨fault, rfl, hmessage, hdocument, htext, htests, hcondition, heval⟩ :=
    (walks_refuse_first_foreign namesFields_moonOrFive ["place"] 1).2 _ _ rfl
  have hother : (Pattern.containing "moon").accepts "Sun" = false := by decide +kernel
  have hsame : (Pattern.containing "moon").accepts "Full Moon" = true := by decide +kernel
  have hsun : moonOrFive.eval ["place"] (titledRecord "Sun").toDraft = .error (.foreignNode "int") := by
    rw [eval_moonOrFive, hother]
    rfl
  have hmoon : moonOrFive.eval ["place"] (titledRecord "Full Moon").toDraft = .ok true := by
    rw [eval_moonOrFive, hsame]
    rfl
  refine ⟨namesFields_moonOrFive, rfl, _, hmessage, hdocument, htext, htests, hcondition, hsun, ?_⟩
  rcases heval (titledRecord "Full Moon") with ⟨b, hb, hfilled⟩ | ⟨typeName, -, hrefused⟩
  · obtain rfl := Except.ok.inj (hb.symm.trans hmoon)
    exact hfilled
  · cases hmoon.symm.trans hrefused

end TermSearch.Report
