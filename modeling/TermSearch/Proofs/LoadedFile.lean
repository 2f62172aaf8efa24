import TermSearch.Proofs.SavedImports

/-! Loading of a file, whatever it holds and whatever is in the store. Either every item of the file is a record that
is saved, or nothing is, for one of the reasons that are listed here. -/
namespace TermSearch.Record

open Document (Value)

variable {readDate : DateReader} {items : List Value} {records : List Imported}

/-- Items are read where each of them is a record. -/
theorem ofItemsFrom_eq_ok_iff {index : Nat} : ofItemsFrom readDate index items = .ok records ↔
    List.Forall₂ (fun item r => ofItem readDate item = .ok r) items records := by
  induction items generalizing index records with
  | nil =>
    rw [ofItemsFrom, List.forall₂_nil_left_iff]
    exact ⟨fun h => (Except.ok.inj h).symm, fun h => h ▸ rfl⟩
  | cons item items ih =>
    have hrest : ∀ {rs : List Imported}, ofItemsFrom readDate (index + 1) items = .ok rs ↔
        List.Forall₂ (fun item r => ofItem readDate item = .ok r) items rs := ih
    rw [ofItemsFrom, List.forall₂_cons_left_iff]
    simp only [← hrest]
    cases ofItem readDate item with
    | error fault => simp [Except.mapError, bind, Except.bind]
    | ok r =>
      cases ofItemsFrom readDate (index + 1) items with
      | error e => simp [Except.mapError, bind, Except.bind]
      | ok rest => simp [Except.mapError, bind, Except.bind, pure, Except.pure, eq_comm]

/-- Items are refused for the first one that is no record, by its place. -/
theorem ofItemsFrom_eq_error {index : Nat} {e : ImportError} (h : ofItemsFrom readDate index items = .error e) :
    ∃ before item after read, items = before ++ item :: after ∧
      List.Forall₂ (fun item r => ofItem readDate item = .ok r) before read ∧
      ofItem readDate item = .error e.fault ∧ e.index = index + before.length := by
  induction items generalizing index with
  | nil => cases h
  | cons item items ih =>
    rw [ofItemsFrom] at h
    cases hitem : ofItem readDate item with
    | error fault =>
      rw [hitem] at h
      obtain rfl := Except.error.inj h
      exact ⟨[], item, items, [], rfl, .nil, hitem, rfl⟩
    | ok r =>
      rw [hitem] at h
      cases hrest : ofItemsFrom readDate (index + 1) items with
      | ok rest =>
        rw [hrest] at h
        cases h
      | error e' =>
        rw [hrest] at h
        obtain rfl := Except.error.inj h
        obtain ⟨before, bad, after, read, rfl, hread, hbad, hplace⟩ := ih hrest
        refine ⟨item :: before, bad, after, r :: read, rfl, .cons hitem hread, hbad, ?_⟩
        rw [List.length_cons, hplace]
        omega

/-- No key of the metadata of an item occurs twice. -/
theorem nodup_keys_metadataUnder {entries : List (Value × Value)} {metadata : List (Text.Raw × List Text.Raw)}
    (h : metadataUnder entries = .ok metadata) : (Assoc.keys metadata).Nodup := by
  unfold metadataUnder at h
  split at h
  · exact Except.ok.inj h ▸ List.nodup_nil
  · exact Except.ok.inj h ▸ List.nodup_nil
  · obtain ⟨pairs, -, hpairs⟩ := bind_eq_ok_iff.mp h
    exact Except.ok.inj hpairs ▸ Assoc.nodup_keys_ofPairs pairs
  · cases h

theorem nodup_keys_ofItem {item : Value} {r : Imported} (h : ofItem readDate item = .ok r) :
    (Assoc.keys r.metadata).Nodup := by
  unfold ofItem at h
  split at h
  · obtain ⟨title, -, h⟩ := bind_eq_ok_iff.mp h
    obtain ⟨published, -, h⟩ := bind_eq_ok_iff.mp h
    obtain ⟨metadata, hmetadata, h⟩ := bind_eq_ok_iff.mp h
    exact Except.ok.inj h ▸ nodup_keys_metadataUnder hmetadata
  · cases h

/-- Nor does a key of the metadata of the record that is stored for it. -/
theorem IsStoredAs.nodup_keys {r : Imported} {record : Record} (h : IsStoredAs r record)
    (hkeys : (Assoc.keys r.metadata).Nodup) : (Assoc.keys record.metadata).Nodup := by
  have hwhole : (Assoc.keys record.metadata).map Text.Raw.whole =
      Assoc.keys (r.metadata.filter fun entry => !entry.2.isEmpty) := by
    rw [h.metadata, Assoc.keys, Assoc.keys, List.map_map, List.map_map]
    rfl
  have hfilter : (Assoc.keys (r.metadata.filter fun entry => !entry.2.isEmpty)).Nodup :=
    hkeys.sublist (List.filter_sublist.map Prod.fst)
  exact List.Nodup.of_map Text.Raw.whole (hwhole ▸ hfilter)

end TermSearch.Record

namespace TermSearch.CommandLine

open File (Path)
open Record (DateReader Imported IsStoredAs)
open Document (Value)
open Store (Connection)

/-- A file that can be read holds a document with some items. -/
def ItemsIn (content : Except PathError ByteArray) (items : List Value) : Prop :=
  ∃ octets text document, content = .ok octets ∧ Text.decode octets = .ok text ∧
    Document.Json.read (Text.unifyLineEnds text) = .ok document ∧ Record.itemsOf? document = some items

/-- Some items are records, each of them the record at its place. -/
def AreRecords (readDate : DateReader) (items : List Value) (imported : List Imported) : Prop :=
  List.Forall₂ (fun item r => Record.ofItem readDate item = .ok r) items imported

theorem AreRecords.nodup_keys {readDate : DateReader} {items : List Value} {imported : List Imported}
    (h : AreRecords readDate items imported) {records : List Record} (hstored : List.Forall₂ IsStoredAs imported records) :
    ∀ record ∈ records, (Assoc.keys record.metadata).Nodup := by
  unfold AreRecords at h
  induction h generalizing records with
  | nil =>
    cases hstored
    simp
  | cons hitem _ ih =>
    obtain ⟨record, rest, hrecord, hrest, rfl⟩ := List.forall₂_cons_left_iff.mp hstored
    exact List.forall_mem_cons.mpr ⟨hrecord.nodup_keys (Record.nodup_keys_ofItem hitem), ih hrest⟩

/-- The reasons for which a file is not loaded: there is no such file, or it is no text, no JSON document or no list of
items; or an item behind some records is none; or the store refuses a record behind some that it has already added. -/
inductive IsRefused (readDate : DateReader) (c : Connection) (p : Path) (content : Except PathError ByteArray) :
    LoadFault → Prop
  | unread {e : PathError} (h : content = .error e) : IsRefused readDate c p content (.path e)
  | noText {octets : ByteArray} {e : Text.DecodingFault} (h : content = .ok octets)
      (fault : Text.decode octets = .error e) : IsRefused readDate c p content (.octets e)
  | noDocument {octets : ByteArray} {text : String} {e : Document.Json.Error} (h : content = .ok octets)
      (decoded : Text.decode octets = .ok text) (fault : Document.Json.read (Text.unifyLineEnds text) = .error e) :
      IsRefused readDate c p content (.file (.json e))
  | noItems {octets : ByteArray} {text : String} {document : Value} (h : content = .ok octets)
      (decoded : Text.decode octets = .ok text) (parsed : Document.Json.read (Text.unifyLineEnds text) = .ok document)
      (fault : Record.itemsOf? document = none) : IsRefused readDate c p content (.file (.notList p.text))
  | noRecord {before after : List Value} {item : Value} {read : List Imported} {fault : Record.ItemFault}
      (h : ItemsIn content (before ++ item :: after)) (front : AreRecords readDate before read)
      (bad : Record.ofItem readDate item = .error fault) :
      IsRefused readDate c p content (.file (.item ⟨before.length, fault⟩))
  | notSaved {items : List Value} {accepted rest : List Imported} {refused : Imported} {stored : List Record}
      {t : Store.Tables} {ids : List Int} {e : Store.Error} (h : ItemsIn content items)
      (read : AreRecords readDate items (accepted ++ refused :: rest)) (whole : List.Forall₂ IsStoredAs accepted stored)
      (front : c.tables.insertAll (stored.map Record.toDraft) = .ok (t, ids)) (bad : Store.IsRefusedBy t refused e) :
      IsRefused readDate c p content (.store e)
  | closed {items : List Value} {read : List Imported} (h : ItemsIn content items)
      (read : AreRecords readDate items read) (closed : c.isOpen = false) :
      IsRefused readDate c p content (.store .closed)

/-- What a file holds is read to its end, or it is refused for one of the reasons that do not depend on the store. -/
theorem recordsIn_cases (readDate : DateReader) (c : Connection) (p : Path) (content : Except PathError ByteArray) :
    (∃ items imported, ItemsIn content items ∧ AreRecords readDate items imported ∧
      recordsIn readDate p content = .ok imported) ∨
    ∃ e, recordsIn readDate p content = .error e ∧ IsRefused readDate c p content e := by
  simp only [recordsIn, Record.ofFileText, bind, Except.bind]
  cases content with
  | error e => exact .inr ⟨_, rfl, .unread rfl⟩
  | ok octets =>
    simp only [Except.mapError]
    cases hdecoded : Text.decode octets with
    | error e => exact .inr ⟨_, rfl, .noText rfl hdecoded⟩
    | ok text =>
      cases hparsed : Document.Json.read (Text.unifyLineEnds text) with
      | error e => exact .inr ⟨_, by simp only [hparsed], .noDocument rfl hdecoded hparsed⟩
      | ok document =>
        cases hitems : Record.itemsOf? document with
        | none => exact .inr ⟨_, by simp only [hparsed, hitems], .noItems rfl hdecoded hparsed hitems⟩
        | some items =>
          have hin : ItemsIn (.ok octets) items := ⟨octets, text, document, rfl, hdecoded, hparsed, hitems⟩
          cases hrecords : Record.ofItems readDate items with
          | ok records =>
            refine .inl ⟨items, records, hin, Record.ofItemsFrom_eq_ok_iff.mp hrecords, ?_⟩
            simp only [hparsed, hitems, hrecords]
          | error e =>
            obtain ⟨before, item, after, read, rfl, hread, hbad, hplace⟩ := Record.ofItemsFrom_eq_error hrecords
            obtain ⟨index, fault⟩ := e
            obtain rfl : index = before.length := by simpa using hplace
            exact .inr ⟨_, by simp only [hparsed, hitems, hrecords], .noRecord hin hread hbad⟩

end TermSearch.CommandLine
