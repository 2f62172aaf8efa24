import TermSearch.Text.Quoted

/-! The fields of a record that a query looks at. -/
namespace TermSearch.Query

inductive Field
  | title | excerpt | body | metadata
  deriving DecidableEq, Repr

namespace Field

def name : Field → String
  | title => "TITLE"
  | excerpt => "EXCERPT"
  | body => "BODY"
  | metadata => "META"

/-- The fields that hold a text of the record itself. -/
def content : List Field := [title, excerpt, body]

def all : List Field := [title, excerpt, body, metadata]

def ofName? (name : String) : Option Field := all.find? fun f => f.name == name

@[simp] theorem ofName?_name (f : Field) : ofName? f.name = some f := by cases f <;> decide

end Field

/-- What a test names as its field: a searchable field, or a name that no field has. -/
inductive FieldName
  | known (field : Field)
  | unknown (name : String)
  deriving DecidableEq, Repr

namespace FieldName

def ofString (name : String) : FieldName :=
  match Field.ofName? name with
  | some field => known field
  | none => unknown name

def text : FieldName → String
  | known field => field.name
  | unknown name => name

end FieldName

/-- The fields of a query and the metadata keys it is limited to; no key means every key. -/
structure FieldSet where
  fields : List Field
  metaKeys : List String
  ne_nil : fields ≠ []
  nodup : fields.Nodup

/-- Why names make no field set. -/
inductive FieldSet.Error
  | noField
  | unknownNames (names : List String)
  | repeated
  deriving DecidableEq, Repr

def FieldSet.Error.message : FieldSet.Error → String
  | noField => "FieldSet must include at least one field"
  | unknownNames names => "FieldSet has unknown fields: " ++ Text.quotedList names
  | repeated => "FieldSet fields must be unique"

namespace FieldSet

/-- The texts of the record itself, without metadata. -/
def contentOnly (metaKeys : List String) : FieldSet :=
  ⟨Field.content, metaKeys, by decide, by decide⟩

/-- Every field, with the metadata limited to some keys. -/
def everything (metaKeys : List String) : FieldSet :=
  ⟨Field.all, metaKeys, by decide, by decide⟩

def ofNames? (names metaKeys : List String) : Except Error FieldSet :=
  let unknown := names.filter fun name => (Field.ofName? name).isNone
  let fields := names.filterMap Field.ofName?
  if names.isEmpty then .error .noField
  else if !unknown.isEmpty then .error (.unknownNames unknown)
  else if h : fields ≠ [] ∧ fields.Nodup then .ok ⟨fields, metaKeys, h.1, h.2⟩
  else .error .repeated

/-- A field set is made from the names of its fields. -/
theorem ofNames?_names (s : FieldSet) : ofNames? (s.fields.map Field.name) s.metaKeys = .ok s := by
  have hunknown : (s.fields.map Field.name).filter (fun name => (Field.ofName? name).isNone) = [] := by
    simp [List.filter_eq_nil_iff]
  have hfields : (s.fields.map Field.name).filterMap Field.ofName? = s.fields := by
    rw [List.filterMap_map, show Field.ofName? ∘ Field.name = some from funext Field.ofName?_name]
    exact List.filterMap_some
  have hnames : (s.fields.map Field.name).isEmpty = false := by
    simp [s.ne_nil]
  simp [ofNames?, hunknown, hfields, hnames, s.ne_nil, s.nodup]

/-- The standard field set. Naming metadata keys turns the search of metadata on. -/
def standard (targetMetadata : Bool) (metaKeys : List String) : FieldSet :=
  if targetMetadata || !metaKeys.isEmpty then everything metaKeys else contentOnly []

def targetsMetadata (s : FieldSet) : Bool := s.fields.contains .metadata

end FieldSet

end TermSearch.Query
