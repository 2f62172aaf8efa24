import TermSearch.Proofs.LoadedFile
import TermSearch.Proofs.RegisteredPages

/-! What comes of a list of items. All of them are records, each with what its item gives: the title as it is, a type,
a date of publication with its offset, and metadata under the given keys. Or the list is refused for the first item
that is refused where it stands alone, by its place, whatever comes behind it. A reader of dates may be any that fails
in the expected ways. -/
namespace TermSearch.Record

open Document (Value)
open Text (Raw)

/-- The entries of an object under a key, if there is one. -/
def objectUnder (key : String) (entries : List (Value × Value)) : List (Value × Value) :=
  match Value.get? key entries with
  | some (.mapping inner) => inner
  | _ => []

/-- The texts of a metadata value: those of a list without null, or a single one. -/
def metadataTexts : Value → List Raw
  | .list items => (items.filter fun v => v.kind != .null).map Value.plain
  | v => [v.plain]

/-- The text of a value without white space at its ends; a value that is null or missing has the empty text. -/
def givenText : Option Value → Raw
  | none | some .null => .whole ""
  | some v => v.plain.strip

/-- The date of publication that comes of a value: none of one that is null, missing or the empty text, and else the
time that a text is read as, with an offset of zero where it has none. -/
inductive IsDateOf (readDate : DateReader) (value : Option Value) : Option Calendar.CivilTime → Prop
  | undated (h : ∀ v ∈ value, v = .null ∨ v = .text "") : IsDateOf readDate value none
  | dated {s : Raw} {t : Calendar.CivilTime} (h : value = some (.ofRaw s)) (read : readDate s = .ok t) :
      IsDateOf readDate value (some { t with offset := some (t.offset.getD 0) })

/-- What a record has of its item. -/
structure IsImported (readDate : DateReader) (entries : List (Value × Value)) (r : Imported) : Prop where
  unsaved : r.id = none
  title : Value.get? "title" entries = some (.ofRaw r.title)
  titled : r.title.strip ≠ .whole ""
  excerpt : r.excerpt = givenText (Value.get? "excerpt" entries)
  body : r.body = givenText (Value.get? "body" entries)
  password : r.password = givenText (Value.get? "password" entries)
  type : r.type = if givenText (Value.get? "type" entries) = .whole "" then .whole "post"
    else givenText (Value.get? "type" entries)
  stripped : ∀ s ∈ [r.excerpt, r.body, r.type, r.password], s.strip = s
  typed : r.type ≠ .whole ""
  published : IsDateOf readDate (Value.get? "published" entries) r.published
  aware : ∀ t, r.published = some t → t.offset.isSome = true
  keys : Assoc.keys r.metadata = ((objectUnder "meta" entries).map fun e => e.1.plain).eraseDups
  values : ∀ key, Assoc.find? key r.metadata =
    ((objectUnder "meta" entries).filter fun e => e.1.plain == key).getLast?.map fun e => metadataTexts e.2

/-- An item that is accepted where it stands alone. -/
def IsAcceptable (readDate : DateReader) (item : Value) : Prop := ∃ imported, ofItems readDate [item] = .ok imported

/-- A reader of dates that fails in no unexpected way. -/
def FailsAsExpected (readDate : DateReader) : Prop := ∀ s message, readDate s ≠ .error (.other message)

section Items

variable {readDate : DateReader} {item : Value} {entries : List (Value × Value)} {r : Imported}

theorem textUnder_eq (key : String) (entries : List (Value × Value)) :
    textUnder key entries = givenText (Value.get? key entries) := rfl

theorem strip_givenText (value : Option Value) : (givenText value).strip = givenText value := by
  unfold givenText
  split
  · decide +kernel
  · decide +kernel
  · exact Raw.strip_strip _

theorem checkTitle_eq_ok {s title : Raw} (h : checkTitle s = .ok title) : s = title ∧ title.strip ≠ .whole "" := by
  unfold checkTitle at h
  split at h
  · cases h
  · rename_i hne
    obtain rfl := Except.ok.inj h
    exact ⟨rfl, Raw.isEmpty_eq_false_iff.mp (by simpa using hne)⟩

theorem titleOf_eq_ok {title : Raw} (h : titleOf entries = .ok title) :
    Value.get? "title" entries = some (.ofRaw title) ∧ title.strip ≠ .whole "" := by
  unfold titleOf at h
  split at h
  · rename_i hfound
    obtain ⟨rfl, hne⟩ := checkTitle_eq_ok h
    exact ⟨hfound, hne⟩
  · rename_i hfound
    obtain ⟨rfl, hne⟩ := checkTitle_eq_ok h
    exact ⟨hfound, hne⟩
  · cases h

theorem dateOf_eq_ok {s : Raw} {value : Option Value} {published : Option Calendar.CivilTime}
    (hvalue : value = some (.ofRaw s)) (h : dateOf readDate s = .ok published) :
    IsDateOf readDate value published := by
  unfold dateOf at h
  split at h
  · rename_i hread
    exact Except.ok.inj h ▸ .dated hvalue hread
  · cases h
  · cases h

theorem publishedOf_eq_ok {published : Option Calendar.CivilTime} (h : publishedOf readDate entries = .ok published) :
    IsDateOf readDate (Value.get? "published" entries) published := by
  unfold publishedOf at h
  split at h
  · rename_i hfound
    exact Except.ok.inj h ▸ .undated (by simp [hfound])
  · rename_i hfound
    exact Except.ok.inj h ▸ .undated (by simp [hfound])
  · rename_i s hfound
    split at h
    · rename_i hempty
      have hs : s = "" := by simpa using hempty
      exact Except.ok.inj h ▸ .undated (by simp [hfound, hs])
    · exact dateOf_eq_ok (s := .whole s) hfound h
  · rename_i s hfound
    exact dateOf_eq_ok (s := .halved s) hfound h
  · cases h

/-- A date of publication has an offset. -/
theorem IsDateOf.isSome_offset {value : Option Value} {published : Option Calendar.CivilTime}
    (h : IsDateOf readDate value published) : ∀ t, published = some t → t.offset.isSome = true := by
  rintro t rfl
  cases h
  rfl

theorem valuesUnder_eq_ok {key : Raw} {v : Value} {values : List Raw} (h : valuesUnder key v = .ok values) :
    values = metadataTexts v := by
  cases v <;> cases h <;> rfl

theorem metadataUnder_eq_ok {metadata : List (Raw × List Raw)} (h : metadataUnder entries = .ok metadata) :
    metadata = Assoc.ofPairs ((objectUnder "meta" entries).map fun e => (e.1.plain, metadataTexts e.2)) := by
  unfold metadataUnder at h
  unfold objectUnder
  split at h
  · rename_i hfound
    rw [hfound]
    exact (Except.ok.inj h).symm
  · rename_i hfound
    rw [hfound]
    exact (Except.ok.inj h).symm
  · rename_i es hfound
    rw [hfound]
    obtain ⟨pairs, hpairs, hmetadata⟩ := bind_eq_ok_iff.mp h
    obtain rfl := Except.ok.inj hmetadata
    refine congrArg Assoc.ofPairs (eq_map_of_mapM_eq_ok hpairs fun e pair he => ?_)
    obtain ⟨values, hvalues, hpair⟩ := bind_eq_ok_iff.mp he
    rw [← valuesUnder_eq_ok hvalues]
    exact (Except.ok.inj hpair).symm
  · cases h

/-- An item that is accepted is an object, and its record has what the object gives. -/
theorem exists_isImported (h : ofItem readDate item = .ok r) :
    ∃ entries, item = .mapping entries ∧ IsImported readDate entries r := by
  unfold ofItem at h
  split at h
  · rename_i entries
    obtain ⟨title, htitle, h⟩ := bind_eq_ok_iff.mp h
    obtain ⟨published, hpublished, h⟩ := bind_eq_ok_iff.mp h
    obtain ⟨metadata, hmetadata, h⟩ := bind_eq_ok_iff.mp h
    obtain rfl := Except.ok.inj h
    obtain ⟨htitle, htitled⟩ := titleOf_eq_ok htitle
    have hdate := publishedOf_eq_ok hpublished
    obtain rfl := metadataUnder_eq_ok hmetadata
    simp only [textUnder_eq, Raw.isEmpty, beq_iff_eq]
    have hdefault : (Raw.whole defaultType).strip = .whole defaultType := by decide +kernel
    refine ⟨entries, rfl, rfl, htitle, htitled, rfl, rfl, rfl, rfl, ?_, ?_, hdate, hdate.isSome_offset, ?_, ?_⟩
    · simp only [List.forall_mem_cons, strip_givenText, List.not_mem_nil, false_imp_iff, implies_true, and_true,
        true_and]
      split
      · exact hdefault
      · exact strip_givenText _
    · dsimp only
      split
      · decide
      · assumption
    · rw [Assoc.keys_ofPairs, List.map_map]
      rfl
    · intro key
      rw [Assoc.find?_ofPairs, List.filter_map, List.getLast?_map, Option.map_map]
      rfl
  · cases h

theorem metadataUnder_ne_unexpected (entries : List (Value × Value)) (message : String) :
    metadataUnder entries ≠ .error (.unexpected message) := by
  unfold metadataUnder
  split
  · nofun
  · nofun
  · intro h
    obtain hpairs | ⟨_, -, h⟩ := bind_eq_error_iff.mp h
    · obtain ⟨e, -, he⟩ := exists_of_mapM_eq_error hpairs
      obtain hvalues | ⟨_, -, he⟩ := bind_eq_error_iff.mp he
      · cases hv : e.2 <;> rw [hv] at hvalues <;> cases hvalues
      · cases he
    · cases h
  · nofun

/-- The fault of an unexpected failure comes from the reader of dates alone. -/
theorem ofItem_ne_unexpected (hdates : FailsAsExpected readDate) (item : Value) (message : String) :
    ofItem readDate item ≠ .error (.unexpected message) := by
  have htitle (s : Raw) : checkTitle s ≠ .error (.unexpected message) := by
    unfold checkTitle
    split <;> nofun
  have hdate (s : Raw) : dateOf readDate s ≠ .error (.unexpected message) := by
    unfold dateOf
    split
    · nofun
    · rename_i hread
      exact absurd hread (hdates s _)
    · nofun
  intro h
  unfold ofItem at h
  split at h
  · obtain h | ⟨_, -, h⟩ := bind_eq_error_iff.mp h
    · unfold titleOf at h
      split at h
      · exact htitle _ h
      · exact htitle _ h
      · cases h
    obtain h | ⟨_, -, h⟩ := bind_eq_error_iff.mp h
    · unfold publishedOf at h
      split at h
      · cases h
      · cases h
      · split at h
        · cases h
        · exact hdate _ h
      · exact hdate _ h
      · cases h
    obtain h | ⟨_, -, h⟩ := bind_eq_error_iff.mp h
    · exact metadataUnder_ne_unexpected _ _ h
    · cases h
  · cases h

theorem isAcceptable_iff : IsAcceptable readDate item ↔ ∃ r, ofItem readDate item = .ok r := by
  unfold IsAcceptable ofItems
  simp only [ofItemsFrom_eq_ok_iff, List.forall₂_cons_left_iff, List.forall₂_nil_left_iff]
  exact ⟨fun ⟨_, r, _, hr, _⟩ => ⟨r, hr⟩, fun ⟨r, hr⟩ => ⟨[r], r, [], hr, rfl, rfl⟩⟩

/-- Apart from an unexpected failure, a fault is reported with the place of the item in front. -/
theorem ImportError.exists_message {e : ImportError} (h : ∀ message, e.fault ≠ .unexpected message) :
    ∃ rest, e.message = "records[" ++ toString e.index ++ "]" ++ rest := by
  obtain ⟨index, fault⟩ := e
  cases fault with
  | unexpected message => exact absurd rfl (h message)
  | notObject => exact ⟨_, rfl⟩
  | noTitle => exact ⟨_, rfl⟩
  | dateNotText => exact ⟨_, rfl⟩
  | notDate text => exact ⟨_, String.append_assoc⟩
  | metadataNotObject => exact ⟨_, rfl⟩
  | badValue key => exact ⟨_, by simp only [message, String.append_assoc]; rfl⟩

/-- Behind some accepted items a faulty one refuses the list, whatever comes behind it. -/
theorem ofItemsFrom_append_eq_error {index : Nat} {before later : List Value} {read : List Imported} {fault : ItemFault}
    (hread : List.Forall₂ (fun item r => ofItem readDate item = .ok r) before read)
    (h : ofItem readDate item = .error fault) :
    ofItemsFrom readDate index (before ++ item :: later) = .error ⟨index + before.length, fault⟩ := by
  induction hread generalizing index with
  | nil =>
    rw [List.nil_append, ofItemsFrom, h]
    rfl
  | @cons first r before read hfirst _ ih =>
    rw [List.cons_append, ofItemsFrom, hfirst, List.length_cons]
    simp only [Except.mapError, bind, Except.bind, ih]
    congr 2
    omega

end Items

/-- A list of items either gives one record for each of them, in their order, and then each item is accepted on its own;
or it is refused with the place of the first item that is not accepted on its own, whatever comes behind this item. -/
theorem ofItems_all_or_first_refused {readDate : DateReader} (hdates : FailsAsExpected readDate) (items : List Value) :
    (∃ imported, ofItems readDate items = .ok imported ∧ (∀ item ∈ items, IsAcceptable readDate item) ∧
      List.Forall₂ (fun item r => ∃ entries, item = .mapping entries ∧ IsImported readDate entries r) items imported) ∨
    ∃ before item after e, items = before ++ item :: after ∧ (∀ x ∈ before, IsAcceptable readDate x) ∧
      ¬ IsAcceptable readDate item ∧ (∀ later, ofItems readDate (before ++ item :: later) = .error e) ∧
      e.index = before.length ∧ ∃ rest, e.message = "records[" ++ toString before.length ++ "]" ++ rest := by
  cases hitems : ofItems readDate items with
  | ok imported =>
    have hread := ofItemsFrom_eq_ok_iff.mp hitems
    refine .inl ⟨imported, rfl, fun item hitem => ?_, hread.imp fun _ _ h => exists_isImported h⟩
    obtain ⟨r, hr⟩ := exists_ok_of_mapM (mapM_eq_ok_iff.mpr hread) hitem
    exact isAcceptable_iff.mpr ⟨r, hr⟩
  | error e =>
    obtain ⟨before, item, after, read, rfl, hread, hfault, hindex⟩ := ofItemsFrom_eq_error hitems
    have hplace : e.index = before.length := by omega
    refine .inr ⟨before, item, after, e, rfl, fun x hx => ?_, ?_, fun later => ?_, hplace, ?_⟩
    · obtain ⟨r, hr⟩ := exists_ok_of_mapM (mapM_eq_ok_iff.mpr hread) hx
      exact isAcceptable_iff.mpr ⟨r, hr⟩
    · rw [isAcceptable_iff, hfault]
      rintro ⟨_, ⟨⟩⟩
    · rw [ofItems, ofItemsFrom_append_eq_error hread hfault, ← hindex]
    · rw [← hplace]
      refine ImportError.exists_message fun message hunexpected => ?_
      exact ofItem_ne_unexpected hdates item message (hunexpected ▸ hfault)

/-- A reader of dates in the international form. -/
def readIso (s : Raw) : Except DateFailure Calendar.CivilTime :=
  match Calendar.CivilTime.ofIso? s.replaced with
  | some t => .ok t
  | none => .error .badValue

theorem failsAsExpected_readIso : FailsAsExpected readIso := by
  intro s message
  unfold readIso
  split <;> nofun

/-- An item with a date, a blank type and metadata. -/
def moonItem : Value := .mapping [
  (.text "title", .text " Moon "), (.text "type", .text " "), (.text "published", .text "2020-01-02T03:04:05"),
  (.text "meta", .mapping [(.text "color", .list [.text "red", .null, .int 7]), (.text "bright", .bool true)])]

/-- An item whose title is blank. -/
def untitledItem : Value := .mapping [(.text "title", .text " "), (.text "published", .null)]

theorem ofItems_all_or_first_refused_untitled :
    FailsAsExpected readIso ∧
    ∃ before item after e, [moonItem, untitledItem, moonItem] = before ++ item :: after ∧
      (∀ x ∈ before, IsAcceptable readIso x) ∧ ¬ IsAcceptable readIso item ∧
      (∀ later, ofItems readIso (before ++ item :: later) = .error e) ∧
      e.message = "records[1].title must be a non-empty string" := by
  have hrefused : ofItems readIso [moonItem, untitledItem, moonItem] = .error ⟨1, .noTitle⟩ := by decide +kernel
  refine ⟨failsAsExpected_readIso, ?_⟩
  obtain ⟨imported, himported, -⟩ | ⟨before, item, after, e, hitems, hbefore, hitem, hlater, -⟩ :=
    ofItems_all_or_first_refused failsAsExpected_readIso [moonItem, untitledItem, moonItem]
  · cases himported.symm.trans hrefused
  · refine ⟨before, item, after, e, hitems, hbefore, hitem, hlater, ?_⟩
    have herror := hlater after
    rw [← hitems, hrefused] at herror
    rw [← Except.error.inj herror]
    decide +kernel

end TermSearch.Record
