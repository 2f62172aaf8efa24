import Mathlib.Data.List.TakeWhile
import TermSearch.CommandLine.Program
import TermSearch.Proofs.ForeignValues
import TermSearch.Proofs.PlanShape
import TermSearch.Proofs.SelectMeaning
import TermSearch.Proofs.TermCuts

/-! What a configured search sends to a store. A token is of no use to a query where nothing but blank characters is
left of it, or, in an expanding query, nothing but blank characters and boundaries. Main statement: the plan of tokens
without any use is empty, and no other; a search with an empty plan sends nothing where blank queries are switched off,
and every other search of a store sends exactly one statement, the one that is shown for the same tokens and types. -/
namespace TermSearch.Text

/-- Nothing is left of a text exactly where all of it belongs to the class. -/
theorem stripChars_eq_nil_iff {p : Char → Bool} {s : List Char} : stripChars p s = [] ↔ ∀ c ∈ s, p c = true := by
  rw [stripChars, List.reverse_eq_nil_iff, List.dropWhile_eq_nil_iff]
  refine ⟨fun hrest => List.dropWhile_eq_nil_iff.mp ?_, fun h c hc => ?_⟩
  · cases hkept : s.dropWhile p with
    | nil => rfl
    | cons c rest =>
      have hfirst : p c = false := eq_false_of_mem_head?_dropWhile (s := s) (by rw [hkept]; rfl)
      rw [hrest c (by simp [hkept])] at hfirst
      cases hfirst
  · exact h c ((List.dropWhile_sublist p).mem (List.mem_reverse.mp hc))

theorem trim_eq_empty_iff {t : String} : trim t = "" ↔ ∀ c ∈ t.toList, isBlank c = true := by
  rw [trim, String.ofList_eq_empty_iff]
  exact stripChars_eq_nil_iff

/-- A term has no sub-term exactly where it is made of boundaries and blank characters. -/
theorem subterms_eq_nil_iff {t : String} :
    subterms t = [] ↔ ∀ c ∈ t.toList, isBoundary c = true ∨ isBlank c = true := by
  have hlaws := cutsAtBoundaries_subterms
  induction t using boundary_induction with
  | stretch t ht =>
    have hcut : subterms t = [] ↔ trim t = "" := by
      rw [hlaws.stretch t ht]
      split <;> simp [*]
    rw [hcut, trim_eq_empty_iff]
    refine forall₂_congr fun c hc => ?_
    rw [ht c hc]
    simp
  | cut x d y hd hx hy =>
    rw [hlaws.boundary x y d hd, List.append_eq_nil_iff]
    refine (and_congr hx hy).trans ?_
    simp [or_imp, forall_and, hd]

end TermSearch.Text

namespace TermSearch.Query

open Text (isBlank isBoundary subterms trim)

/-- A token of which a query makes nothing. Only blank characters are left of it, or only blank characters behind the
marker; or it is not marked, and a query that cuts it at its boundaries finds only blank characters between them. -/
inductive IsUnusable (options : Options) (token : String) : Prop
  | blank (h : trim token = "")
  | bareMarker {rest : String} (marker : options.marker ≠ "") (marked : trim token = options.marker ++ rest)
      (h : trim rest = "")
  | boundaries (expand : options.expand.isOn = true)
      (unmarked : options.marker ≠ "" → ∀ rest, trim token ≠ options.marker ++ rest)
      (h : ∀ c ∈ (trim token).toList, isBoundary c = true ∨ isBlank c = true)

section Tokens

variable {marker token rest : String}

theorem Term.ofToken?_of_marked (hmarker : marker ≠ "") (h : trim token = marker ++ rest) :
    ofToken? marker token = if trim rest = "" then none else some ⟨trim rest, true⟩ := by
  have hchars : Text.trimChars token.toList = marker.toList ++ rest.toList := by
    rw [← Text.toList_trim, h, String.toList_append]
  have hafter : afterMarker? marker.toList (marker.toList ++ rest.toList) = some rest.toList := by
    simp [afterMarker?, hmarker]
  simp [ofToken?, hchars, hafter, trim]

theorem Term.ofToken?_of_unmarked (h : marker ≠ "" → ∀ rest, trim token ≠ marker ++ rest) :
    ofToken? marker token = if trim token = "" then none else some ⟨trim token, false⟩ := by
  have hafter : afterMarker? marker.toList (Text.trimChars token.toList) = none := by
    rw [afterMarker?, if_neg]
    rw [Bool.and_eq_true, List.isPrefixOf_iff_prefix, ← Text.toList_trim]
    rintro ⟨hne, rest, hrest⟩
    refine h (by simpa using hne) (String.ofList rest) (String.toList_inj.mp ?_)
    rw [← hrest, String.toList_append, String.toList_ofList]
  simp [ofToken?, hafter, trim]

end Tokens

theorem group?_eq_none_iff {fields : FieldSet} {options : Options} {t : Term} : group? fields options t = none ↔
    t.excluded = false ∧ options.expand.isOn = true ∧ subterms t.text = [] := by
  rw [← Option.not_isSome_iff_eq_none, isSome_group?, Term.isUsable]
  simp [and_assoc]

/-- The group that a token gives rise to, if there is one. -/
def tokenGroup? (fields : FieldSet) (options : Options) (token : String) : Option Predicate :=
  (Term.ofToken? options.marker token).bind (group? fields options)

theorem tokenGroup?_eq_none_iff {fields : FieldSet} {options : Options} {token : String} :
    tokenGroup? fields options token = none ↔ IsUnusable options token := by
  by_cases hmarked : options.marker ≠ "" ∧ ∃ rest, trim token = options.marker ++ rest
  · obtain ⟨hmarker, rest, hrest⟩ := hmarked
    have hgroup : tokenGroup? fields options token = none ↔ trim rest = "" := by
      rw [tokenGroup?, Term.ofToken?_of_marked hmarker hrest]
      split <;> simp [*, group?_eq_none_iff]
    rw [hgroup]
    refine ⟨.bareMarker hmarker hrest, fun h => ?_⟩
    cases h with
    | blank h => simp [h, hmarker] at hrest
    | bareMarker _ hsame h =>
      obtain rfl : rest = _ := (String.append_right_inj _).mp (hrest.symm.trans hsame)
      exact h
    | boundaries _ hunmarked => exact absurd hrest (hunmarked hmarker rest)
  · have hunmarked : options.marker ≠ "" → ∀ rest, trim token ≠ options.marker ++ rest :=
      fun hmarker rest hrest => hmarked ⟨hmarker, rest, hrest⟩
    have hgroup : tokenGroup? fields options token = none ↔
        trim token = "" ∨ options.expand.isOn = true ∧ subterms (trim token) = [] := by
      rw [tokenGroup?, Term.ofToken?_of_unmarked hunmarked]
      split <;> simp [*, group?_eq_none_iff]
    rw [hgroup, Text.subterms_eq_nil_iff]
    constructor
    · rintro (h | ⟨hexpand, h⟩)
      · exact .blank h
      · exact .boundaries hexpand hunmarked h
    · rintro (h | ⟨hmarker, hrest, -⟩ | ⟨hexpand, -, h⟩)
      · exact .inl h
      · exact absurd hrest (hunmarked hmarker _)
      · exact .inr ⟨hexpand, h⟩

/-- Every query has a plan, which is empty exactly where no token is of any use. -/
theorem exists_compile_isEmpty_iff (fields : FieldSet) (options : Options) (tokens : List String) :
    ∃ plan, compile fields options tokens = .ok plan ∧ plan.IsProper ∧
      (plan.isEmpty = true ↔ ∀ token ∈ tokens, IsUnusable options token) := by
  obtain ⟨plan, hplan, hproper, hpredicate⟩ := exists_compile fields options tokens
  refine ⟨plan, hplan, hproper, ?_⟩
  have hgroups : plan.groups = tokens.filterMap (tokenGroup? fields options) := by
    rw [Plan.groups, hpredicate, termsOf, List.filterMap_filterMap]
    rfl
  rw [Plan.isEmpty, hgroups, List.isEmpty_iff, List.filterMap_eq_nil_iff]
  exact forall₂_congr fun token _ => tokenGroup?_eq_none_iff

end TermSearch.Query

namespace TermSearch.Report

open Document (Value)
open Query (Plan)

section Shown

/-- The lines of a statement stand behind those of its plan. -/
theorem exists_planLines {plan : Plan} (h : plan.IsProper) : ∃ lines, planLines plan none = .ok lines ∧
    ∀ q, planLines plan (some q) = .ok (lines ++
      ["sql: " ++ q.text, "params: [" ++ ", ".intercalate (q.params.map Service.paramText) ++ "]"]) := by
  obtain ⟨text, htext⟩ := isWalk_predicateText.exists_of_isProper h.predicate 0
  have hparams (q : Sql.Select) : "params: " ++ paramsText q.params =
      "params: [" ++ ", ".intercalate (q.params.map Service.paramText) ++ "]" := by
    rw [paramsText, ← String.append_assoc, ← String.append_assoc]
    rfl
  simp only [planLines, htext]
  exact ⟨_, rfl, fun q => congrArg Except.ok (by simp [hparams])⟩

/-- The entries of a statement stand behind those of its plan. -/
theorem exists_planJson {plan : Plan} (h : plan.IsProper) : ∃ entries, planDocument plan = .ok entries ∧
    ∀ statement : Option Sql.Select, planJson plan statement = .ok (Document.Json.pretty (.mapping (entries ++
      (statement.map fun q =>
        [(.text "sql", .text q.text), (.text "params", .list (q.params.map paramDocument))]).getD []))) := by
  obtain ⟨v, hv⟩ := isWalk_predicateDocument.exists_of_isProper h.predicate ()
  simp only [planJson, planDocument, hv]
  refine ⟨_, rfl, fun statement => ?_⟩
  cases statement <;> rfl

end Shown

end TermSearch.Report

namespace TermSearch.CommandLine

open Query (Plan)
open Report (planLines planDocument paramDocument)

/-- The plan and the statement that the `compile` command shows for some tokens and types, as lines and as a document:
the text of the statement, and its parameters in order, which are texts and integers. The statement is shown only where
the settings ask for statements. -/
structure Shows (s : Settings.AllSettings) (tokens types : List String) (plan : Plan) (q : Sql.Select) : Prop where
  lines : ∃ lines, planLines plan none = .ok lines ∧ ∀ w, (runCompile w s tokens types false).failure = none ∧
    (runCompile w s tokens types false).output = lines ++
      if s.output.showSql then
        ["sql: " ++ q.text, "params: [" ++ ", ".intercalate (q.params.map Service.paramText) ++ "]"]
      else []
  document : ∃ entries, planDocument plan = .ok entries ∧ ∀ w, (runCompile w s tokens types true).failure = none ∧
    (runCompile w s tokens types true).output = [Document.Json.pretty (.mapping (entries ++
      if s.output.showSql then [(.text "sql", .text q.text), (.text "params", .list (q.params.map paramDocument))]
      else []))]
  params : ∀ p ∈ q.params,
    (∃ text, p = .text text ∧ Service.paramText p = Text.quoted text ∧ paramDocument p = .text text) ∨
      ∃ n : Int, p = .int n ∧ Service.paramText p = toString n ∧ paramDocument p = .int n

variable {s : Settings.AllSettings} {tokens types : List String} {plan : Plan} {q : Sql.Select}

theorem shows_of_statementOf (hplan : Service.planOf s.search tokens = .ok plan) (hproper : plan.IsProper)
    (hq : Service.statementOf s.search plan types none (.int 0) = .ok q) : Shows s tokens types plan q := by
  obtain ⟨lines, hlines, hmore⟩ := Report.exists_planLines hproper
  obtain ⟨entries, hentries, hjson⟩ := Report.exists_planJson hproper
  refine ⟨⟨lines, hlines, fun w => ?_⟩, ⟨entries, hentries, fun w => ?_⟩, fun p hp => ?_⟩
  · cases hshow : s.output.showSql with
    | false => simp [runCompile, hplan, hshow, hlines, pure, Except.pure, bind, Except.bind]
    | true => simp [runCompile, hplan, hshow, hq, hmore, Functor.map, Except.map, bind, Except.bind]
  · cases hshow : s.output.showSql with
    | false => simp [runCompile, hplan, hshow, hjson, pure, Except.pure, bind, Except.bind]
    | true => simp [runCompile, hplan, hshow, hq, hjson, Functor.map, Except.map, pure, Except.pure, bind, Except.bind]
  · rcases Sql.mem_params_ofPlan hq hp with ⟨text, rfl⟩ | ⟨w, hw, hp⟩
    · exact .inl ⟨text, rfl, rfl, rfl⟩
    · obtain ⟨limit, hlimit, rfl⟩ := Option.map_eq_some_iff.mp hw
      obtain ⟨n, -, rfl⟩ := Option.map_eq_some_iff.mp hlimit
      rcases hp with rfl | rfl
      · exact .inr ⟨n, rfl, rfl, rfl⟩
      · exact .inr ⟨0, rfl, rfl, rfl⟩

end TermSearch.CommandLine

namespace TermSearch.Service

open CommandLine (Shows)
open Query (FieldSet Hit IsUnusable Plan)
open Settings (AllSettings SearchSettings)

variable {s : SearchSettings} {tokens types : List String} {plan : Plan} {q : Sql.Select} {limit : Option Sql.Param}
  {offset : Sql.Param}

theorem exists_statementOf (h : plan.IsProper) (s : SearchSettings) (types : List String) (limit : Option Sql.Param)
    (offset : Sql.Param) : ∃ q, statementOf s plan types limit offset = .ok q :=
  Sql.exists_ofPlan h s.fields.metaKeys (s.scope types) _

/-- A search sends its statement to the store and has the hits that come back, unless there is no store, or its plan is
empty and blank queries are switched off. -/
theorem search_eq {ε : Type} (hplan : planOf s tokens = .ok plan)
    (hq : statementOf s plan types limit offset = .ok q) (store : Option (Sql.Select → Except ε (List Hit))) :
    let outcome := search s store tokens types limit offset
    (outcome.statements, outcome.result) =
      if plan.isEmpty && !s.blankQuery then ([], .ok [])
      else
        match store with
        | none => ([], .error .noStore)
        | some execute => ([q], (execute q).mapError .store) := by
  dsimp only
  rw [search, hplan]
  dsimp only
  split
  · rfl
  · cases store with
    | none => rfl
    | some execute =>
      simp only [send, hq]
      cases execute q <;> rfl

/-- Every query has a plan, which is empty exactly where no token is of any use. A search finds nothing and sends
nothing where its plan is empty and blank queries are switched off, whether or not there is a store; otherwise it fails
where there is no store, and sends one statement where there is one. From the first hit on and without a limit, this is
the statement that is shown for the tokens and types. -/
theorem search_sends_shown_statement (s : AllSettings) (tokens types : List String) :
    ∃ plan, planOf s.search tokens = .ok plan ∧
      (plan.isEmpty = true ↔ ∀ token ∈ tokens, IsUnusable s.search.options token) ∧
      (∀ limit offset, ∃ q, statementOf s.search plan types limit offset = .ok q ∧
        ∀ (ε : Type) (store : Option (Sql.Select → Except ε (List Hit))),
          let outcome := search s.search store tokens types limit offset
          (outcome.statements, outcome.result) =
            if plan.isEmpty && !s.search.blankQuery then ([], .ok [])
            else
              match store with
              | none => ([], .error .noStore)
              | some execute => ([q], (execute q).mapError .store)) ∧
      ∃ q, statementOf s.search plan types none (.int 0) = .ok q ∧ Shows s tokens types plan q := by
  obtain ⟨plan, hplan, hproper, hempty⟩ :=
    Query.exists_compile_isEmpty_iff s.search.fields s.search.options tokens
  refine ⟨plan, hplan, hempty, fun limit offset => ?_, ?_⟩
  · obtain ⟨q, hq⟩ := exists_statementOf hproper s.search types limit offset
    exact ⟨q, hq, fun ε store => search_eq hplan hq store⟩
  · obtain ⟨q, hq⟩ := exists_statementOf hproper s.search types none (.int 0)
    exact ⟨q, hq, CommandLine.shows_of_statementOf hplan hproper hq⟩

end TermSearch.Service
