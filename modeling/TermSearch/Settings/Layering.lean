import TermSearch.Settings.Checks
import TermSearch.Text.Space

/-! Layering of configurations. Where both layers have a mapping under a key the two are merged,
otherwise the upper layer's value counts. Keys keep the order of the lower layer; new ones follow. The
layers are the texts of configuration files, for which a reader of documents is given. -/
namespace TermSearch.Settings

open Document (Value)

mutual

/-- Puts the entries of an upper layer over those of a lower one. -/
def merge (base : Entries) : Entries → Entries
  | [] => base
  | (key, value) :: rest =>
    merge (Value.put key (mergeValue (Assoc.findBy? Value.sameKey key base) value) base) rest

/-- Puts a value over the value of the lower layer, if there is one. -/
def mergeValue (base : Option Value) : Value → Value
  | .mapping upper =>
    match base with
    | some (.mapping lower) => .mapping (merge lower upper)
    | _ => .mapping upper
  | value => value

end

/-- The entries of a configuration document; an empty document has none. -/
def rootEntries (v : Value) : Except Error Entries :=
  if v.isVoid then .ok []
  else
    match v with
    | .mapping entries => .ok entries
    | _ => .error .rootNotObject

/-- A reader of the documents that configuration files hold, with its own reasons to refuse a text. -/
abbrev DocumentReader (ε : Type) := String → Except ε Value

/-- Why the text of a file holds no settings: it is no document, or its document is refused. -/
inductive SourceError (ε : Type)
  | text (e : ε)
  | settings (e : Error)
  deriving DecidableEq, Repr

def SourceError.message {ε : Type} (textMessage : ε → String) : SourceError ε → String
  | text e => textMessage e
  | settings e => e.message

section Source

variable {ε : Type} (readDocument : DocumentReader ε)

def entriesOfText (text : String) : Except (SourceError ε) Entries := do
  let document ← (readDocument text).mapError .text
  (rootEntries document).mapError .settings

/-- The entries in the text of a file. -/
def entriesOfFile (text : String) : Except (SourceError ε) Entries :=
  entriesOfText readDocument (Text.unifyLineEnds text)

/-- The settings of a base layer with an upper layer over it, if there is one. -/
def ofLayers (base : Entries) (upper : Option Entries) : Except (SourceError ε) AllSettings :=
  (ofEntries (merge base (upper.getD []))).mapError .settings

end Source

end TermSearch.Settings
