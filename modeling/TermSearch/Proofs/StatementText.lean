import TermSearch.Proofs.Placeholders
import TermSearch.Proofs.SelectMeaning

/-! The text of a statement. It shows the shape of a plan and how many title patterns, metadata keys and types there
are, and nothing else. Main statement: plans that differ in their patterns only are compiled into one text, and so
are queries without expansion that differ in the words of their terms only. -/
namespace TermSearch.Query

/-- A test without its pattern. -/
def Test.outline (t : Test) : Test := { t with pattern := .inOrder [] }

namespace Predicate

mutual

/-- A predicate without its patterns. -/
def outline : Predicate → Predicate
  | test t => test t.outline
  | not child => not (outline child)
  | all children => all (outlines children)
  | any children => any (outlines children)
  | foreign typeName => foreign typeName

def outlines : List Predicate → List Predicate
  | [] => []
  | child :: rest => outline child :: outlines rest

end

theorem outlines_eq_map (children : List Predicate) : outlines children = children.map outline := by
  induction children with
  | nil => rfl
  | cons child rest ih => simp [outlines, ih]

end Predicate

end TermSearch.Query

namespace TermSearch.Sql

open Query (Field FieldSet Options Pattern Plan Predicate Scope Switch Term Test Fault)

/-- What remains of a search when all its texts are left out: the tree and the ranking without patterns, and the
numbers of title patterns, metadata keys and types. -/
structure Outline where
  predicate : Predicate
  ranking : Option (List Test)
  titlePatterns : Nat
  metaKeys : Nat
  types : Nat
  includeProtected : Bool
  limited : Bool

def outlineOf (plan : Plan) (metaKeys : List String) (scope : Scope) (window : Option Window) : Outline where
  predicate := plan.predicate.outline
  ranking := plan.ranking.map fun tests => tests.map Test.outline
  titlePatterns := plan.titlePatterns.length
  metaKeys := metaKeys.length
  types := scope.types.length
  includeProtected := scope.includeProtected
  limited := window.isSome

namespace Expr

theorem textJoin_eq_intercalate (operator : String) (es : List Expr) :
    textJoin operator es = operator.intercalate (es.map text) := by
  induction es with
  | nil => rfl
  | cons e es ih =>
    cases es with
    | nil => simp [textJoin]
    | cons next rest =>
      rw [textJoin, ih]
      simp [String.intercalate_cons_cons]

/-- The text of a node from the texts of its children. -/
def joined (empty operator : String) (texts : List String) : String :=
  if texts.isEmpty then empty else "(" ++ operator.intercalate texts ++ ")"

theorem text_conj_or_one (es : List Expr) :
    (if es.isEmpty then number 1 else group (conj es)).text = joined "1" " AND " (es.map text) := by
  cases es with
  | nil => rfl
  | cons e es => simp [joined, text, textJoin_eq_intercalate]

theorem text_disj_or_zero (es : List Expr) :
    (if es.isEmpty then number 0 else group (disj es)).text = joined "0" " OR " (es.map text) := by
  cases es with
  | nil => rfl
  | cons e es => simp [joined, text, textJoin_eq_intercalate]

theorem text_sum_or_zero (es : List Expr) :
    (if es.isEmpty then number 0 else group (sum es)).text = joined "0" " + " (es.map text) := by
  cases es with
  | nil => rfl
  | cons e es => simp [joined, text, textJoin_eq_intercalate]

end Expr

section Compiling

variable {metaKeys metaKeys' : List String}

theorem map_text_ofTest (hkeys : metaKeys.length = metaKeys'.length) (t : Test) :
    (ofTest metaKeys t).map Expr.text = (ofTest metaKeys' t.outline).map Expr.text := by
  obtain ⟨name, p⟩ := t
  cases name with
  | unknown name => rfl
  | known field =>
    cases field with
    | metadata => exact congrArg (fun n => Except.ok (metaLikeText n)) hkeys
    | title => rfl
    | excerpt => rfl
    | body => rfl

theorem map_text_ofPredicate_not (child : Predicate) : (ofPredicate metaKeys (.not child)).map Expr.text =
    ((ofPredicate metaKeys child).map Expr.text).map ("NOT " ++ ·) := by
  rw [ofPredicate]
  cases ofPredicate metaKeys child <;> rfl

theorem map_text_ofPredicate_all (children : List Predicate) : (ofPredicate metaKeys (.all children)).map Expr.text =
    (children.mapM fun c => (ofPredicate metaKeys c).map Expr.text).map (Expr.joined "1" " AND ") := by
  rw [ofPredicate, ofPredicates_eq_mapM, ← map_mapM]
  cases children.mapM (ofPredicate metaKeys) with
  | error e => rfl
  | ok es => exact congrArg Except.ok (Expr.text_conj_or_one es)

theorem map_text_ofPredicate_any (children : List Predicate) : (ofPredicate metaKeys (.any children)).map Expr.text =
    (children.mapM fun c => (ofPredicate metaKeys c).map Expr.text).map (Expr.joined "0" " OR ") := by
  rw [ofPredicate, ofPredicates_eq_mapM, ← map_mapM]
  cases children.mapM (ofPredicate metaKeys) with
  | error e => rfl
  | ok es => exact congrArg Except.ok (Expr.text_disj_or_zero es)

/-- The text of a compiled predicate, or the reason why there is none, does not depend on the patterns. -/
theorem map_text_ofPredicate (hkeys : metaKeys.length = metaKeys'.length) (p : Predicate) :
    (ofPredicate metaKeys p).map Expr.text = (ofPredicate metaKeys' p.outline).map Expr.text := by
  induction p using Predicate.inductionOn with
  | test t => exact map_text_ofTest hkeys t
  | not child ih => rw [Predicate.outline, map_text_ofPredicate_not, map_text_ofPredicate_not, ih]
  | all children ih =>
    rw [Predicate.outline, Predicate.outlines_eq_map, map_text_ofPredicate_all, map_text_ofPredicate_all,
      List.mapM_map, mapM_congr_of_mem ih]
    rfl
  | any children ih =>
    rw [Predicate.outline, Predicate.outlines_eq_map, map_text_ofPredicate_any, map_text_ofPredicate_any,
      List.mapM_map, mapM_congr_of_mem ih]
    rfl
  | foreign typeName => rfl

theorem map_text_ofRanking (hkeys : metaKeys.length = metaKeys'.length) (ranking : Option (List Test)) :
    (ofRanking metaKeys ranking).map Expr.text =
      (ofRanking metaKeys' (ranking.map fun tests => tests.map Test.outline)).map Expr.text := by
  have hsome (keys : List String) (tests : List Test) : (ofRanking keys (some tests)).map Expr.text =
      (tests.mapM fun t => (ofTest keys t).map Expr.text).map (Expr.joined "0" " + ") := by
    rw [ofRanking, ← map_mapM]
    cases tests.mapM (ofTest keys) with
    | error e => rfl
    | ok es => exact congrArg Except.ok (Expr.text_sum_or_zero es)
  cases ranking with
  | none => rfl
  | some tests =>
    rw [Option.map_some, hsome, hsome, List.mapM_map, mapM_congr_of_mem fun t _ => map_text_ofTest hkeys t]
    rfl

end Compiling

/-- The text of a statement is made of the texts of its expressions and of numbers of placeholders. -/
theorem Select.text_congr {q q' : Select} (hcount : q.matchCount.text = q'.matchCount.text)
    (hconditions : q.conditions.map Expr.text = q'.conditions.map Expr.text)
    (htitles : q.titleFirst.length = q'.titleFirst.length) (hby : q.byMatchCount = q'.byMatchCount)
    (hwindow : q.window.isSome = q'.window.isSome) : q.text = q'.text := by
  have hempty : q.titleFirst.isEmpty = q'.titleFirst.isEmpty := by
    rw [Bool.eq_iff_iff, List.isEmpty_iff_length_eq_zero, List.isEmpty_iff_length_eq_zero, htitles]
  have htests (t : String) : q.titleFirst.map (fun _ => t) = q'.titleFirst.map fun _ => t := by
    rw [List.map_const', List.map_const', htitles]
  have horder : q.orderTexts = q'.orderTexts := by
    simp only [orderTexts, hempty, htests, hby]
  simp only [text, hcount, Expr.textJoin_eq_intercalate, hconditions, horder, hwindow]

/-- Two results that agree up to `f`: both are errors, and the same, or `f` makes the same of both. -/
theorem map_eq_map_cases {ε α β : Type} {f : α → β} {a b : Except ε α} (h : a.map f = b.map f) :
    (∃ e, a = .error e ∧ b = .error e) ∨ ∃ x y, a = .ok x ∧ b = .ok y ∧ f x = f y := by
  cases a with
  | error e =>
    cases b with
    | error e' => exact Or.inl ⟨e, rfl, congrArg Except.error (Except.error.inj h).symm⟩
    | ok y => cases h
  | ok x =>
    cases b with
    | error e => cases h
    | ok y => exact Or.inr ⟨x, y, rfl, rfl, Except.ok.inj h⟩

theorem map_text_conditions {scope scope' : Scope} (htypes : scope.types.length = scope'.types.length)
    (hprotected : scope.includeProtected = scope'.includeProtected) {e e' : Expr} (he : e.text = e'.text) :
    ([e] ++ (if scope.types.isEmpty then [] else [Expr.among .type scope.types]) ++
      (if scope.includeProtected then [] else [Expr.isEmptyText .password])).map Expr.text =
    ([e'] ++ (if scope'.types.isEmpty then [] else [Expr.among .type scope'.types]) ++
      (if scope'.includeProtected then [] else [Expr.isEmptyText .password])).map Expr.text := by
  have hamong : (if scope.types.isEmpty then [] else [Expr.among .type scope.types]).map Expr.text =
      (if scope'.types.isEmpty then [] else [Expr.among .type scope'.types]).map Expr.text := by
    cases hfirst : scope.types with
    | nil =>
      have hnone : scope'.types = [] := List.length_eq_zero_iff.mp (by rw [← htypes, hfirst]; rfl)
      rw [hnone]
    | cons t ts =>
      cases hsecond : scope'.types with
      | nil => simp [hfirst, hsecond] at htypes
      | cons t' ts' =>
        rw [hfirst, hsecond] at htypes
        simp [Expr.text, htypes]
  simp only [List.map_append, List.map_cons, List.map_nil, he, hamong, hprotected]

/-- Searches with one outline are compiled into statements with one text, or refused for the same reason. -/
theorem map_text_ofPlan {plan plan' : Plan} {metaKeys metaKeys' : List String} {scope scope' : Scope}
    {window window' : Option Window} (h : outlineOf plan metaKeys scope window = outlineOf plan' metaKeys' scope' window') :
    (ofPlan plan metaKeys scope window).map Select.text = (ofPlan plan' metaKeys' scope' window').map Select.text := by
  obtain ⟨hpredicate, hranking, htitles, hkeys, htypes, hprotected, hwindow⟩ := Outline.mk.inj h
  have hcounter : (ofRanking metaKeys plan.ranking).map Expr.text = (ofRanking metaKeys' plan'.ranking).map Expr.text := by
    rw [map_text_ofRanking rfl plan.ranking, map_text_ofRanking hkeys.symm plan'.ranking, hranking]
  have hcondition : (ofPredicate metaKeys plan.predicate).map Expr.text =
      (ofPredicate metaKeys' plan'.predicate).map Expr.text := by
    rw [map_text_ofPredicate rfl plan.predicate, map_text_ofPredicate hkeys.symm plan'.predicate, hpredicate]
  have hranked : plan.ranking.isSome = plan'.ranking.isSome := by
    have hsome := congrArg Option.isSome hranking
    rwa [Option.isSome_map, Option.isSome_map] at hsome
  unfold ofPlan
  rcases map_eq_map_cases hcounter with ⟨e, hc, hc'⟩ | ⟨counter, counter', hc, hc', htext⟩
  · rw [hc, hc']
    rfl
  · rcases map_eq_map_cases hcondition with ⟨e, hp, hp'⟩ | ⟨condition, condition', hp, hp', htext'⟩
    · rw [hc, hc', hp, hp']
      rfl
    · rw [hc, hc', hp, hp']
      refine congrArg Except.ok (Select.text_congr htext ?_ ?_ hranked hwindow)
      · exact map_text_conditions htypes hprotected htext'
      · rw [List.length_map, List.length_map, htitles]

/-- Of two searches with one outline, one has a statement if the other has, with the same text. -/
theorem exists_ofPlan_text_eq {plan plan' : Plan} {metaKeys metaKeys' : List String} {scope scope' : Scope}
    {window window' : Option Window} (hplan : plan.IsProper)
    (h : outlineOf plan metaKeys scope window = outlineOf plan' metaKeys' scope' window') :
    ∃ q q', ofPlan plan metaKeys scope window = .ok q ∧ ofPlan plan' metaKeys' scope' window' = .ok q' ∧
      q.text = q'.text := by
  obtain ⟨q, hq⟩ := exists_ofPlan hplan metaKeys scope window
  rcases map_eq_map_cases (map_text_ofPlan h) with ⟨e, he, -⟩ | ⟨q₁, q', hq₁, hq', htext⟩
  · rw [hq] at he
    cases he
  · exact ⟨q₁, q', hq₁, hq', htext⟩

section Literal

variable {fields : FieldSet} {options : Options}

theorem outline_literalGroup (exact : Switch) (t : Term) : (Query.literalGroup fields exact t).outline =
    if t.excluded then Query.noField fields (.inOrder []) else Query.anyField fields [.inOrder []] := by
  unfold Query.literalGroup Query.noField Query.anyField
  cases t.excluded with
  | true =>
    simp only [if_true, Predicate.outline, Predicate.outlines_eq_map, List.map_map]
    rfl
  | false =>
    simp only [Bool.false_eq_true, if_false, Predicate.outline, Predicate.outlines_eq_map, List.flatMap_cons,
      List.flatMap_nil, List.append_nil, List.map_map]
    rfl

/-- Without expansion the outline of the groups shows which terms are excluded, and no more. -/
theorem outlines_literalGroups (h : options.expand.isOn = false) (terms : List Term) :
    (terms.filterMap (Query.group? fields options)).map Predicate.outline = (terms.map Term.excluded).map fun excluded =>
      if excluded then Query.noField fields (.inOrder []) else Query.anyField fields [.inOrder []] := by
  have hgroup : Query.group? fields options = fun t => some (Query.literalGroup fields options.exact t) := by
    funext t
    rw [Query.group?, h]
    rfl
  rw [hgroup, List.filterMap_eq_map', List.map_map, List.map_map]
  exact List.map_congr_left fun t _ => outline_literalGroup options.exact t

theorem length_titlePatterns (h : options.expand.isOn = false) (terms : List Term) :
    (terms.filterMap (Query.titlePattern? options)).length =
      (terms.map Term.excluded).countP fun excluded => !options.exact.isOn && !excluded := by
  rw [List.length_filterMap_eq_countP, List.countP_map]
  refine List.countP_congr fun t _ => ?_
  rw [Query.titlePattern?, h]
  cases options.exact.isOn <;> cases h : t.excluded <;> simp [h]

/-- Two queries without expansion that exclude the same places of their terms have plans with one outline. -/
theorem exists_literal_outlines (h : options.expand.isOn = false) {tokens tokens' : List String}
    (hflags : (Query.termsOf options.marker tokens).map Term.excluded =
      (Query.termsOf options.marker tokens').map Term.excluded) (scope : Scope) (window : Option Window) :
    ∃ plan plan', Query.compile fields options tokens = .ok plan ∧ Query.compile fields options tokens' = .ok plan' ∧
      plan.IsProper ∧ outlineOf plan fields.metaKeys scope window = outlineOf plan' fields.metaKeys scope window := by
  obtain ⟨plan, hplan, hproper, -⟩ := Query.exists_compile fields options tokens
  obtain ⟨_, -, hcompile⟩ := Query.exists_compile_eq fields options tokens
  obtain ⟨_, -, hcompile'⟩ := Query.exists_compile_eq fields options tokens'
  obtain rfl := Except.ok.inj (hcompile.symm.trans hplan)
  refine ⟨_, _, hcompile, hcompile', hproper, ?_⟩
  simp only [outlineOf, Predicate.outline, Predicate.outlines_eq_map, outlines_literalGroups h, length_titlePatterns h,
    hflags, h, Bool.false_eq_true, if_false]

end Literal

/-- No text of a user stands in the text of a statement. Searches that differ in their texts only, with as many
patterns, keys and types, have statements with one text; the text has one placeholder for each parameter; and without
expansion it shows of the terms which of them are excluded, and no more. -/
theorem text_ofPlan_eq_of_outline :
    (∀ (plan plan' : Plan) (metaKeys metaKeys' : List String) (scope scope' : Scope) (window window' : Option Window),
      outlineOf plan metaKeys scope window = outlineOf plan' metaKeys' scope' window' →
      (ofPlan plan metaKeys scope window).map Select.text = (ofPlan plan' metaKeys' scope' window').map Select.text ∧
      (plan.IsProper → ∃ q q', ofPlan plan metaKeys scope window = .ok q ∧
        ofPlan plan' metaKeys' scope' window' = .ok q' ∧ q.text = q'.text)) ∧
    (∀ (plan : Plan) (metaKeys : List String) (scope : Scope) (window : Option Window) (q : Select),
      ofPlan plan metaKeys scope window = .ok q → q.text.toList.count '?' = q.params.length) ∧
    ∀ (fields : FieldSet) (options : Options) (tokens tokens' : List String) (scope : Scope) (window : Option Window),
      options.expand.isOn = false →
      (Query.termsOf options.marker tokens).map Term.excluded = (Query.termsOf options.marker tokens').map Term.excluded →
      ∃ plan plan' q q', Query.compile fields options tokens = .ok plan ∧
        Query.compile fields options tokens' = .ok plan' ∧ ofPlan plan fields.metaKeys scope window = .ok q ∧
        ofPlan plan' fields.metaKeys scope window = .ok q' ∧ q.text = q'.text := by
  refine ⟨?_, ?_, ?_⟩
  · intro plan plan' metaKeys metaKeys' scope scope' window window' h
    exact ⟨map_text_ofPlan h, fun hplan => exists_ofPlan_text_eq hplan h⟩
  · intro plan metaKeys scope window q _
    exact q.count_text
  · intro fields options tokens tokens' scope window hexpand hflags
    obtain ⟨plan, plan', hcompile, hcompile', hplan, houtline⟩ :=
      exists_literal_outlines hexpand hflags scope window
    obtain ⟨q, q', hq, hq', htext⟩ := exists_ofPlan_text_eq hplan houtline
    exact ⟨plan, plan', q, q', hcompile, hcompile', hq, hq', htext⟩

/-- Terms with quotes, placeholders and comments in them. -/
theorem text_ofPlan_eq_of_outline_marks : ({} : Options).expand.isOn = false ∧
    (Query.termsOf "-" ["moon", "-sun"]).map Term.excluded =
      (Query.termsOf "-" ["' OR 1 = 1 -- ?", "-%"]).map Term.excluded ∧
    ∃ plan plan' q q', Query.compile (.everything ["topic"]) {} ["moon", "-sun"] = .ok plan ∧
      Query.compile (.everything ["topic"]) {} ["' OR 1 = 1 -- ?", "-%"] = .ok plan' ∧
      ofPlan plan ["topic"] ⟨["post"], false⟩ (some ⟨.int 5, .int 0⟩) = .ok q ∧
      ofPlan plan' ["topic"] ⟨["post"], false⟩ (some ⟨.int 5, .int 0⟩) = .ok q' ∧ q.text = q'.text := by
  have hflags : (Query.termsOf "-" ["moon", "-sun"]).map Term.excluded =
      (Query.termsOf "-" ["' OR 1 = 1 -- ?", "-%"]).map Term.excluded := by decide +kernel
  exact ⟨rfl, hflags, text_ofPlan_eq_of_outline.2.2 (.everything ["topic"]) {} _ _ ⟨["post"], false⟩
    (some ⟨.int 5, .int 0⟩) rfl hflags⟩

end TermSearch.Sql
