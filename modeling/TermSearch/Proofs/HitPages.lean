import TermSearch.Proofs.HiddenRecords
import TermSearch.Proofs.HitOrder
import TermSearch.Proofs.StoreRun
import TermSearch.Service.Search

/-! Results read page by page. Each page is a statement of its own, sent as a text with parameters, and the database
may answer each one in any way that its text allows. As the order of a statement tells all rows apart, a statement with
a limit and an offset shows a stretch of the hits that the statement without them finds, so the pages up to the first
empty one give these hits, each once and in order, as long as the page size and the offset of every page that is read
are integers of 64 bits. A configured search shows the first page, but nothing for a blank query where such queries
are switched off. -/
namespace TermSearch.Store

open Sql (ResultRow Select Window ofPlan)
open Query (FieldSet Options Plan Scope Hit)

/-- The items of the pages of a result from some page on, read up to the first page without any. A page is given by the
answers it may have. -/
inductive ReadsPages {ε α : Type} (page : Nat → Except ε (List α) → Prop) : Nat → List α → Prop
  | done {k : Nat} (h : page k (.ok [])) : ReadsPages page k []
  | more {k : Nat} {items rest : List α} (h : page k (.ok items)) (hne : items ≠ [])
      (hrest : ReadsPages page (k + 1) rest) : ReadsPages page k (items ++ rest)

section Slices

variable {ε α : Type} {page : Nat → Except ε (List α) → Prop} {xs shown : List α} {n : Nat}

/-- The number of pages of some size that have an item: the first page without one. -/
def pageCount (length size : Nat) : Nat := (length + size - 1) / size

theorem pageCount_le_iff (hn : 0 < n) {k : Nat} : pageCount xs.length n ≤ k ↔ xs.length ≤ k * n := by
  rw [pageCount, Nat.div_le_iff_le_mul_add_pred hn]
  constructor
  · intro h
    have hcomm := Nat.mul_comm n k
    omega
  · intro h
    have hcomm := Nat.mul_comm n k
    omega

theorem drop_eq_append (xs : List α) (k n : Nat) :
    xs.drop (k * n) = (xs.drop (k * n)).take n ++ xs.drop ((k + 1) * n) := by
  rw [Nat.succ_mul, ← List.drop_drop, List.take_append_drop]

theorem slice_eq_nil_iff (hn : 0 < n) {k : Nat} : (xs.drop (k * n)).take n = [] ↔ pageCount xs.length n ≤ k := by
  rw [pageCount_le_iff hn, List.take_eq_nil_iff, List.drop_eq_nil_iff]
  exact or_iff_right (Nat.ne_of_gt hn)

/-- Pages that are stretches of a list, up to the first empty one, are read as the rest of the list. -/
theorem readsPages_of_slices (hn : 0 < n)
    (hpage : ∀ k ≤ pageCount xs.length n, page k (.ok ((xs.drop (k * n)).take n))) {k : Nat}
    (hk : k ≤ pageCount xs.length n) : ReadsPages page k (xs.drop (k * n)) := by
  induction hk using Nat.decreasingInduction with
  | self =>
    have hempty : (xs.drop (pageCount xs.length n * n)).take n = [] := (slice_eq_nil_iff hn).mpr (Nat.le_refl _)
    have hdrop := List.drop_eq_nil_of_le ((pageCount_le_iff hn).mp (Nat.le_refl (pageCount xs.length n)))
    rw [hdrop]
    exact .done (hempty ▸ hpage _ (Nat.le_refl _))
  | of_succ k hk ih =>
    rw [drop_eq_append]
    refine .more (hpage k (Nat.le_of_lt hk)) ?_ ih
    rw [ne_eq, slice_eq_nil_iff hn]
    exact Nat.not_le_of_lt hk

/-- Where every page that can be read is a stretch of a list, what is read is the rest of the list, and the first empty
page is read too. -/
theorem ReadsPages.eq_drop (hn : 0 < n) (hpage : ∀ k items, page k (.ok items) → items = (xs.drop (k * n)).take n)
    {k : Nat} (h : ReadsPages page k shown) (hk : k ≤ pageCount xs.length n) :
    shown = xs.drop (k * n) ∧ page (pageCount xs.length n) (.ok []) := by
  induction h with
  | @done k h =>
    have hlast : k = pageCount xs.length n :=
      Nat.le_antisymm hk ((slice_eq_nil_iff hn).mp (hpage k [] h).symm)
    exact ⟨(List.drop_eq_nil_of_le ((pageCount_le_iff hn).mp (Nat.le_of_eq hlast.symm))).symm, hlast ▸ h⟩
  | @more k items rest h hne _ ih =>
    obtain rfl := hpage k items h
    have hnext : k + 1 ≤ pageCount xs.length n := by
      rw [ne_eq, slice_eq_nil_iff hn] at hne
      omega
    obtain ⟨rfl, hlast⟩ := ih hnext
    exact ⟨(drop_eq_append xs k n).symm, hlast⟩

/-- Pages that are read as stretches of a list, or fail from some page on, give the list exactly where the first empty
page can be read. -/
theorem readsPages_iff {readable : Nat → Bool} {e : ε} (hn : 0 < n)
    (hpage : ∀ k answer, page k answer ↔
      answer = if readable k then .ok ((xs.drop (k * n)).take n) else .error e)
    (hreadable : ∀ j k, j ≤ k → readable k = true → readable j = true) :
    ReadsPages page 0 shown ↔ shown = xs ∧ readable (pageCount xs.length n) = true := by
  constructor
  · intro h
    have hslices : ∀ k items, page k (.ok items) → items = (xs.drop (k * n)).take n := by
      intro k items hitems
      rw [hpage] at hitems
      split at hitems
      · exact Except.ok.inj hitems
      · cases hitems
    obtain ⟨hshown, hlast⟩ := h.eq_drop hn hslices (Nat.zero_le _)
    rw [hpage] at hlast
    split at hlast
    · rename_i hreads
      exact ⟨by simpa using hshown, hreads⟩
    · cases hlast
  · rintro ⟨rfl, hlast⟩
    have hslices : ∀ k ≤ pageCount shown.length n, page k (.ok ((shown.drop (k * n)).take n)) := fun k hk => by
      rw [hpage, if_pos (hreadable k _ hk hlast)]
    simpa using readsPages_of_slices hn hslices (Nat.zero_le _)

end Slices

theorem apply_map {α β : Type} (f : α → β) (w : Window) (xs : List α) : w.apply (xs.map f) = (w.apply xs).map f := by
  unfold Window.apply
  split
  · unfold Window.between
    split <;> simp
  · rfl

theorem between_natCast {α : Type} (limit offset : Nat) (xs : List α) :
    Window.between (limit : Int) (offset : Int) xs = (xs.drop offset).take limit := by
  have hlimit : ¬ (limit : Int) < 0 := by omega
  rw [Window.between, if_neg hlimit, Int.toNat_natCast, Int.toNat_natCast]

section Windows

variable {t : Tables} {plan : Plan} {metaKeys : List String} {scope : Scope} {q : Select}

theorem ofPlan_window (hq : ofPlan plan metaKeys scope none = .ok q) (window : Option Window) :
    ofPlan plan metaKeys scope window = .ok { q with window := window } := by
  obtain ⟨counter, condition, hcounter, hcondition, rfl⟩ := Sql.ofPlan_eq_ok_iff.mp hq
  exact Sql.ofPlan_eq_ok_iff.mpr ⟨counter, condition, hcounter, hcondition, rfl⟩

theorem paramsFit_window (hq : ofPlan plan metaKeys scope none = .ok q) (limit offset : Int) :
    Tables.paramsFit { q with window := some ⟨.int limit, .int offset⟩ } = (fits limit && fits offset) := by
  have hplan := Sql.paramsFit_ofPlan (by simp) hq
  rw [Tables.paramsFit, Select.params, Sql.window_ofPlan hq, List.append_nil] at hplan
  rw [Tables.paramsFit, Select.params, List.all_append, hplan, Bool.true_and]
  simp [Tables.paramFits]

/-- A statement with a limit and an offset shows a stretch of the hits of the statement without them, where both are
integers of 64 bits, and fails where one is not. -/
theorem execute_window (hsound : t.IsSound) (hq : ofPlan plan metaKeys scope none = .ok q) (limit offset : Int) :
    t.execute { q with window := some ⟨.int limit, .int offset⟩ } =
      if fits limit && fits offset then
        .ok (Window.between limit offset ((sortByKey q.rowKey (t.selected q)).map t.hitAt))
      else .error .integerTooLarge := by
  split
  · rename_i hfits
    obtain ⟨hlimit, hoffset⟩ := Bool.and_eq_true_iff.mp hfits
    have hpage : ∀ w ∈ some (⟨.int limit, .int offset⟩ : Window), w.IsPage := by
      rintro w hw
      obtain rfl := Option.some.inj hw
      exact ⟨limit, offset, rfl, hlimit, hoffset⟩
    have hrun : ({ q with window := some ⟨.int limit, .int offset⟩ } : Select).run t.metadata t.records =
        Window.apply ⟨.int limit, .int offset⟩ (sortByKey q.rowKey (t.selected q)) := rfl
    have hhits : ∀ r ∈ Window.apply ⟨.int limit, .int offset⟩ (sortByKey q.rowKey (t.selected q)),
        t.hitOf r = .ok (t.hitAt r) := fun r hr =>
      hitOf_of_mem_selected hsound (mem_sortByKey.mp ((Window.apply_sublist _ _).mem hr))
    rw [Sql.execute_ofPlan hpage (ofPlan_window hq _), hrun, mapM_eq_ok_map hhits, ← apply_map, Window.apply_int]
  · rename_i hfits
    rw [Bool.not_eq_true] at hfits
    rw [Tables.execute, paramsFit_window hq, hfits]
    rfl

end Windows

theorem fits_natCast_iff (n : Nat) : fits n = true ↔ n < integerRange := by
  rw [fits, Bool.and_eq_true, decide_eq_true_eq, decide_eq_true_eq]
  omega

/-- Page `k` of a statement has the hits behind the first `k * n` ones, and at most `n` of them. The database may answer
the text of the page with its parameters in some way. -/
def hitPage (c : Connection) (q : Select) (n k : Nat) : Except Error (List Hit) → Prop :=
  let paged : Select := { q with window := some ⟨.int n, .int ((k * n : Nat) : Int)⟩ }
  c.Answers paged.text paged.params

/-- Some hits are what a statement gives, and the only answer that its text with its parameters may have. -/
structure Connection.Gives (c : Connection) (q : Select) (hits : List Hit) : Prop where
  executed : c.execute q = .ok hits
  answers : ∀ answer, c.Answers q.text q.params answer ↔ answer = .ok hits

/-- A way to run statements answers the one of a configured search as the database may. -/
def Connection.RunsBy (c : Connection) (s : Settings.SearchSettings) (plan : Plan) (types : List String)
    (execute : Select → Except Error (List Hit)) : Prop :=
  ∀ q, Service.statementOf s plan types none (.int 0) = .ok q → c.Answers q.text q.params (execute q)

section Connections

variable {c : Connection} {plan : Plan} {metaKeys : List String} {scope : Scope} {q : Select}

theorem exists_gives (hopen : c.isOpen = true) (hsound : c.tables.IsSound) (hplan : plan.IsProper)
    (hq : ofPlan plan metaKeys scope none = .ok q) : ∃ hits, c.Gives q hits := by
  have hhits : c.execute q = .ok ((sortByKey q.rowKey (c.tables.selected q)).map c.tables.hitAt) := by
    rw [Connection.execute_of_isOpen hopen, execute_eq hsound hq]
  refine ⟨_, hhits, fun answer => ?_⟩
  rw [← hhits]
  exact Connection.answers_ofPlan_iff hsound.increasing hplan hq

/-- A statement with a limit and an offset has one answer, which is a stretch of the hits of the statement without
them. -/
theorem answers_window_iff (hopen : c.isOpen = true) (hsound : c.tables.IsSound) (hplan : plan.IsProper)
    (hq : ofPlan plan metaKeys scope none = .ok q) {hits : List Hit} (hhits : c.execute q = .ok hits)
    (limit offset : Nat) {paged : Select} (hpaged : paged = { q with window := some ⟨.int limit, .int offset⟩ })
    {answer : Except Error (List Hit)} : c.Answers paged.text paged.params answer ↔
      answer = if fits limit && fits offset then .ok ((hits.drop offset).take limit)
        else .error .integerTooLarge := by
  rw [Connection.execute_of_isOpen hopen, execute_eq hsound hq, Except.ok.injEq] at hhits
  have hwindow := ofPlan_window hq (some ⟨.int limit, .int offset⟩)
  rw [← hpaged] at hwindow
  rw [Connection.answers_ofPlan_iff hsound.increasing hplan hwindow, hpaged, Connection.execute_of_isOpen hopen,
    execute_window hsound hq, hhits, between_natCast]

/-- The pages of a plan on a sound store give the hits of the plan exactly where the page size and the offset of the
first empty page are integers of 64 bits. -/
theorem readsPages_hitPage_iff (hopen : c.isOpen = true) (hsound : c.tables.IsSound) (hplan : plan.IsProper)
    (hq : ofPlan plan metaKeys scope none = .ok q) {hits : List Hit} (hhits : c.execute q = .ok hits) {n : Nat}
    (hn : 0 < n) {shown : List Hit} : ReadsPages (hitPage c q n) 0 shown ↔ shown = hits ∧
      fits n = true ∧ fits ((pageCount hits.length n * n : Nat) : Int) = true := by
  have hpage : ∀ k answer, hitPage c q n k answer ↔ answer = if fits n && fits ((k * n : Nat) : Int) then
      .ok ((hits.drop (k * n)).take n) else .error .integerTooLarge := fun k _ =>
    answers_window_iff hopen hsound hplan hq hhits n (k * n) rfl
  have hreadable : ∀ j k, j ≤ k → (fits n && fits ((k * n : Nat) : Int)) = true →
      (fits n && fits ((j * n : Nat) : Int)) = true := by
    intro j k hjk
    have hle : j * n ≤ k * n := Nat.mul_le_mul_right n hjk
    simp only [Bool.and_eq_true, fits_natCast_iff]
    omega
  rw [readsPages_iff hn hpage hreadable, Bool.and_eq_true]

/-- A search without a limit of its own shows the first hits of its plan, as many as the settings say; but nothing for
a blank query where such queries are switched off. -/
theorem result_search (hopen : c.isOpen = true) (hsound : c.tables.IsSound) {s : Settings.SearchSettings}
    {tokens types : List String} (hcompile : Service.planOf s tokens = .ok plan) (hplan : plan.IsProper)
    (hq : ofPlan plan s.fields.metaKeys (s.scope types) none = .ok q) {hits : List Hit} (hhits : c.execute q = .ok hits)
    {m : Nat} (hm : s.maxResults = some (m : Int)) {execute : Select → Except Error (List Hit)}
    (hruns : c.RunsBy s plan types execute) :
    (Service.search s (some execute) tokens types none (.int 0)).result =
      if plan.isEmpty && !s.blankQuery then .ok []
      else if fits m then .ok (hits.take m) else .error (.store .integerTooLarge) := by
  have hstatement : Service.statementOf s plan types none (.int 0) =
      .ok { q with window := some ⟨.int m, .int 0⟩ } := by
    rw [Service.statementOf, hm]
    exact ofPlan_window hq _
  have hexecute : execute { q with window := some ⟨.int m, .int 0⟩ } =
      if fits m then .ok (hits.take m) else .error .integerTooLarge := by
    have hzero : fits ((0 : Nat) : Int) = true := by decide +kernel
    have hanswer := (answers_window_iff hopen hsound hplan hq hhits m 0 rfl).mp (hruns _ hstatement)
    rwa [hzero, Bool.and_true, List.drop_zero] at hanswer
  rw [Service.search, hcompile]
  dsimp only
  split
  · rfl
  · rw [Service.send, hstatement]
    dsimp only
    rw [hexecute]
    cases fits m <;> rfl

/-- A connection answers every configured search as its database may. -/
theorem runsBy_execute (hsound : c.tables.IsSound) (hplan : plan.IsProper) (s : Settings.SearchSettings)
    (types : List String) : c.RunsBy s plan types c.execute := fun _ hq =>
  (Connection.answers_ofPlan_iff hsound.increasing hplan hq).mpr rfl

end Connections

/-- The store behind a connection into which some batches were saved. -/
def storeWith (path : String) (batches : List (List Draft)) : Connection :=
  ((Connection.openWith path .empty).saveAll batches).1

/-- On a store of records with whole times, the pages of a query are the hits of its plan, each once and in order,
exactly where the page size and the offset of the first empty page are integers of 64 bits. A configured search shows
the first hits of its plan, unless the query is blank and such queries are switched off, or the number of results is no
integer of 64 bits. -/
theorem readsPages_and_search (path : String) (batches : List (List Draft))
    (htimely : ∀ batch ∈ batches, ∀ d ∈ batch, IsTimely d) (tokens : List String) :
    (∀ (fields : FieldSet) (options : Options) (scope : Scope), ∃ plan q hits,
      Query.compile fields options tokens = .ok plan ∧
      (∀ window, ofPlan plan fields.metaKeys scope window = .ok { q with window := window }) ∧
      (storeWith path batches).Gives { q with window := none } hits ∧
      ∀ n, 0 < n → ∀ shown, ReadsPages (hitPage (storeWith path batches) q n) 0 shown ↔ shown = hits ∧
        fits n = true ∧ fits ((pageCount hits.length n * n : Nat) : Int) = true) ∧
    ∀ (s : Settings.SearchSettings) (types : List String) (m : Nat), s.maxResults = some (m : Int) → ∃ plan q hits,
      Service.planOf s tokens = .ok plan ∧ ofPlan plan s.fields.metaKeys (s.scope types) none = .ok q ∧
      (storeWith path batches).Gives q hits ∧
      ∀ execute, (storeWith path batches).RunsBy s plan types execute →
        (Service.search s (some execute) tokens types none (.int 0)).result =
          if plan.isEmpty && !s.blankQuery then .ok []
          else if fits m then .ok (hits.take m) else .error (.store .integerTooLarge) := by
  obtain ⟨hopen, hsound, -⟩ : (storeWith path batches).isOpen = true ∧ (storeWith path batches).tables.IsSound ∧ _ :=
    Connection.saveAll_sound (c := Connection.openWith path .empty) rfl Tables.isSound_empty htimely
  constructor
  · intro fields options scope
    obtain ⟨plan, hcompile, hplan, -⟩ := Query.exists_compile fields options tokens
    obtain ⟨q, hq⟩ := Sql.exists_ofPlan hplan fields.metaKeys scope none
    have hwindow : { q with window := none } = q :=
      Except.ok.inj ((ofPlan_window hq none).symm.trans hq)
    obtain ⟨hits, hhits⟩ := exists_gives hopen hsound hplan hq
    exact ⟨plan, q, hits, hcompile, ofPlan_window hq, hwindow ▸ hhits, fun n hn shown =>
      readsPages_hitPage_iff hopen hsound hplan hq hhits.executed hn⟩
  · intro s types m hm
    obtain ⟨plan, hcompile, hplan, -⟩ := Query.exists_compile s.fields s.options tokens
    obtain ⟨q, hq⟩ := Sql.exists_ofPlan hplan s.fields.metaKeys (s.scope types) none
    obtain ⟨hits, hhits⟩ := exists_gives hopen hsound hplan hq
    exact ⟨plan, q, hits, hcompile, hq, hhits, fun execute hruns =>
      result_search hopen hsound hcompile hplan hq hhits.executed hm hruns⟩

theorem isSound_earlyStore : earlyStore.1.isOpen = true ∧ earlyStore.1.tables.IsSound := by
  obtain ⟨hopen, hsound, -⟩ := Connection.saveAll_sound (c := Connection.openWith "records.db" .empty) rfl
    Tables.isSound_empty isTimely_of_mem_early_undated
  exact ⟨hopen, hsound⟩

theorem length_of_execute_earlyStore {plan : Plan} {metaKeys : List String} {scope : Scope} {q : Select}
    (hq : ofPlan plan metaKeys scope none = .ok q) {hits : List Hit} (hhits : earlyStore.1.execute q = .ok hits) :
    hits.length = (earlyStore.1.tables.selected q).length := by
  obtain ⟨hopen, hsound⟩ := isSound_earlyStore
  rw [Connection.execute_of_isOpen hopen, execute_eq hsound hq, Except.ok.injEq] at hhits
  rw [← hhits, List.length_map, (sortByKey_perm _ _).length_eq]

theorem ofPlan_moonPlan : ofPlan moonPlan titleOnly.metaKeys {} none = .ok moonSelect := rfl

theorem isProper_moonPlan : moonPlan.IsProper := by
  obtain ⟨plan, hcompile, hplan, -⟩ := Query.exists_compile titleOnly {} ["moon"]
  obtain rfl := Except.ok.inj (compile_moon.symm.trans hcompile)
  exact hplan

theorem length_selected_moonSelect : (earlyStore.1.tables.selected moonSelect).length = 2 := by decide +kernel

theorem readsPages_and_search_early_undated : (∀ batch ∈ [[earlyDraft, undatedDraft]], ∀ d ∈ batch, IsTimely d) ∧
    (∃ hits, earlyStore.1.Gives moonSelect hits ∧ hits.length = 2 ∧
      ReadsPages (hitPage earlyStore.1 moonSelect 1) 0 hits) ∧
    ∃ plan q hits, Service.planOf {} ["moon"] = .ok plan ∧ ofPlan plan [] {} none = .ok q ∧
      earlyStore.1.Gives q hits ∧ earlyStore.1.RunsBy {} plan [] earlyStore.1.execute ∧
      (Service.search {} (some earlyStore.1.execute) ["moon"] [] none (.int 0)).result = .ok (hits.take 20) := by
  obtain ⟨hpages, hsearch⟩ :=
    readsPages_and_search "records.db" [[earlyDraft, undatedDraft]] isTimely_of_mem_early_undated ["moon"]
  obtain ⟨plan, q, hits, hplan, hwindow, hhits, hreads⟩ := hpages titleOnly {} {}
  obtain rfl := Except.ok.inj (compile_moon.symm.trans hplan)
  have hselect : moonSelect = { q with window := none } := Except.ok.inj (hwindow none)
  have hpage : hitPage earlyStore.1 moonSelect 1 = hitPage earlyStore.1 q 1 := by
    rw [hselect]
    rfl
  have hmoon : earlyStore.1.Gives moonSelect hits := hselect ▸ hhits
  have hlength : hits.length = 2 :=
    (length_of_execute_earlyStore ofPlan_moonPlan hmoon.executed).trans length_selected_moonSelect
  obtain ⟨listed, select, found, hlisted, hselected, hfound, hresult⟩ := hsearch {} [] 20 rfl
  have hproper : listed.IsProper := by
    obtain ⟨plan, hcompile, hplan, -⟩ := Query.exists_compile _ _ ["moon"]
    obtain rfl := Except.ok.inj (hlisted.symm.trans hcompile)
    exact hplan
  have hruns := runsBy_execute isSound_earlyStore.2 hproper {} []
  refine ⟨isTimely_of_mem_early_undated, ⟨hits, hmoon, hlength, ?_⟩, listed, select, found, hlisted, hselected, hfound,
    hruns, ?_⟩
  · rw [hpage]
    exact (hreads 1 (by decide) hits).mpr ⟨rfl, by decide +kernel, by rw [hlength]; decide +kernel⟩
  · have htwenty : fits (20 : Nat) = true := by decide +kernel
    have hshown := hresult earlyStore.1.execute hruns
    rw [htwenty, Bool.not_true, Bool.and_false] at hshown
    exact hshown

/-- The statement that lists all records without a password. -/
def listingSelect : Select where
  matchCount := .number 0
  conditions := [.number 1, .isEmptyText .password]
  titleFirst := []
  byMatchCount := false
  window := none

/-- Settings with a number of results that is no integer of 64 bits. -/
def countless : Settings.SearchSettings := { maxResults := some (integerRange : Int) }

/-- Hits are not given by a page of more hits than 64 bits count, not by a search for so many results, and not by a
search for a blank query where such queries are switched off, though the limit of twenty results takes in both
records. -/
theorem exists_pages_and_search_without_hits :
    (∃ hits, earlyStore.1.Gives moonSelect hits ∧ hits.length = 2 ∧
      ¬ ReadsPages (hitPage earlyStore.1 moonSelect integerRange) 0 hits) ∧
    (Service.search countless (some earlyStore.1.execute) ["moon"] [] none (.int 0)).result =
      .error (.store .integerTooLarge) ∧
    ∃ plan hits, Service.planOf { blankQuery := false } [] = .ok plan ∧ ofPlan plan [] {} none = .ok listingSelect ∧
      earlyStore.1.Gives listingSelect hits ∧ hits.take 20 ≠ [] ∧
      (Service.search { blankQuery := false } (some earlyStore.1.execute) [] [] none (.int 0)).result = .ok [] := by
  obtain ⟨hopen, hsound⟩ := isSound_earlyStore
  have hlarge : fits (integerRange : Int) = false := by decide +kernel
  refine ⟨?_, ?_, ?_⟩
  · obtain ⟨hits, hhits⟩ := exists_gives hopen hsound isProper_moonPlan ofPlan_moonPlan
    refine ⟨hits, hhits, (length_of_execute_earlyStore ofPlan_moonPlan hhits.executed).trans
      length_selected_moonSelect, fun hreads => ?_⟩
    have hfits := (readsPages_hitPage_iff hopen hsound isProper_moonPlan ofPlan_moonPlan hhits.executed
      (by decide)).mp hreads
    rw [hlarge] at hfits
    cases hfits.2.1
  · obtain ⟨plan, hcompile, hplan, -⟩ := Query.exists_compile countless.fields countless.options ["moon"]
    obtain ⟨q, hq⟩ := Sql.exists_ofPlan hplan countless.fields.metaKeys (countless.scope []) none
    obtain ⟨hits, hhits⟩ := exists_gives hopen hsound hplan hq
    have hblank : countless.blankQuery = true := rfl
    rw [result_search hopen hsound hcompile hplan hq hhits.executed rfl (runsBy_execute hsound hplan _ _), hblank,
      Bool.not_true, Bool.and_false, hlarge]
    rfl
  · obtain ⟨plan, hcompile, hplan, -⟩ := Query.exists_compile titleOnly {} []
    obtain rfl : plan = ⟨.all [], none, []⟩ := Except.ok.inj (hcompile.symm.trans rfl)
    have hlisting : ofPlan ⟨.all [], none, []⟩ [] {} none = .ok listingSelect := rfl
    obtain ⟨hits, hhits⟩ := exists_gives hopen hsound hplan hlisting
    have hlength := length_of_execute_earlyStore hlisting hhits.executed
    have hselected : (earlyStore.1.tables.selected listingSelect).length = 2 := by decide +kernel
    refine ⟨_, hits, rfl, hlisting, hhits, fun hnone => ?_, rfl⟩
    have hempty := congrArg List.length hnone
    rw [List.length_take, hlength, hselected] at hempty
    cases hempty

end TermSearch.Store
