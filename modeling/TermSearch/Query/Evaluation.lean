import TermSearch.Assoc
import TermSearch.Query.Predicate
import TermSearch.Record.Basic

/-! Evaluating predicates on records. A test on metadata holds where any value under the allowed keys
matches; its negation where none does. A test on a missing text fails. Children are evaluated from left to
right until the answer is known. -/
namespace TermSearch.Query

/-- The metadata values under the given keys, or under every key where none is given. -/
def metadataTexts (metaKeys : List String) (metadata : Metadata) : List String :=
  let keys := if metaKeys.isEmpty then Assoc.keys metadata else metaKeys
  keys.flatMap fun key => (Assoc.find? key metadata).getD []

/-- The texts of a record that a field stands for, where none is missing. -/
def Field.textsOf? (metaKeys : List String) (record : Draft) : Field → Option (List String)
  | title => record.title.map ([·])
  | excerpt => record.excerpt.map ([·])
  | body => record.body.map ([·])
  | metadata => some (metadataTexts metaKeys record.metadata)

theorem Field.isSome_textsOf? (metaKeys : List String) (record : Record) (field : Field) :
    (field.textsOf? metaKeys record).isSome := by
  cases field <;> rfl

def Test.holds (metaKeys : List String) (record : Draft) (t : Test) : Except Fault Bool :=
  match t.field with
  | .known field =>
    match field.textsOf? metaKeys record with
    | some texts => .ok (texts.any t.pattern.accepts)
    | none => .error .missingText
  | .unknown name => .error (.noSuchField name)

namespace Predicate

mutual

/-- Whether a record satisfies a predicate. -/
def eval (metaKeys : List String) (record : Draft) : Predicate → Except Fault Bool
  | test t => t.holds metaKeys record
  | not child => do return !(← eval metaKeys record child)
  | all children => evalAll metaKeys record children
  | any children => evalAny metaKeys record children
  | foreign typeName => .error (.foreignNode typeName)

/-- Whether a record satisfies every one of several predicates. -/
def evalAll (metaKeys : List String) (record : Draft) : List Predicate → Except Fault Bool
  | [] => .ok true
  | child :: rest => do
    let holds ← eval metaKeys record child
    if holds then evalAll metaKeys record rest else return false

/-- Whether a record satisfies one of several predicates. -/
def evalAny (metaKeys : List String) (record : Draft) : List Predicate → Except Fault Bool
  | [] => .ok false
  | child :: rest => do
    let holds ← eval metaKeys record child
    if holds then return true else evalAny metaKeys record rest

end

end Predicate

def countHolding (metaKeys : List String) (record : Draft) : List Test → Except Fault Nat
  | [] => .ok 0
  | t :: rest => do
    let holds ← t.holds metaKeys record
    let others ← countHolding metaKeys record rest
    return (if holds then 1 else 0) + others

/-- The rank of a record: the number of ranking tests it passes, zero without ranking. -/
def score (metaKeys : List String) (record : Draft) : Option (List Test) → Except Fault Nat
  | none => .ok 0
  | some tests => countHolding metaKeys record tests

end TermSearch.Query
