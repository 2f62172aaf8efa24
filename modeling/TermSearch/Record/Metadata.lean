import TermSearch.Document.Literal
import TermSearch.Record.Basic

/-! Metadata from document values: a mapping, or pairs of a key and a value. A text is a single value, and
of other values the elements are taken as texts. -/
namespace TermSearch.Metadata

open Document (Value Kind)

inductive Fault
  | notIterable (kind : Kind)
  | notPair (index : Nat)
  | wrongLength (index length : Nat)
  | badKey (kind : Kind)
  deriving DecidableEq, Repr

def Fault.message : Fault → String
  | notIterable kind => "'" ++ kind.name ++ "' object is not iterable"
  | notPair index =>
    "cannot convert dictionary update sequence element #" ++ toString index ++ " to a sequence"
  | wrongLength index length =>
    "dictionary update sequence element #" ++ toString index ++ " has length " ++ toString length ++
      "; 2 is required"
  | badKey kind => "unhashable type: '" ++ kind.name ++ "'"

/-- Whether a value has the wrong kind, rather than the wrong length. -/
def Fault.isWrongKind : Fault → Bool
  | wrongLength _ _ => false
  | _ => true

def elementsOf (v : Value) : Except Fault (List Value) :=
  match v.elements? with
  | some vs => .ok vs
  | none => .error (.notIterable v.kind)

def valuesOf : Value → Except Fault (List String)
  | .text s => .ok [s]
  | v => (elementsOf v).map fun vs => vs.map Value.plainText

/-- The key and the value in a pair with a given place. -/
def pairOf (index : Nat) (v : Value) : Except Fault (Value × Value) :=
  match v.elements? with
  | none => .error (.notPair index)
  | some [key, value] => if key.mayBeKey then .ok (key, value) else .error (.badKey key.kind)
  | some vs => .error (.wrongLength index vs.length)

/-- The keys and values in pairs, the first of which has a given place. -/
def pairsFrom (index : Nat) : List Value → Except Fault (List (Value × Value))
  | [] => .ok []
  | v :: rest => do
    let pair ← pairOf index v
    return pair :: (← pairsFrom (index + 1) rest)

def entriesOf : Value → Except Fault (List (Value × Value))
  | .mapping entries => .ok entries
  | v => do return Value.entriesOf (← pairsFrom 0 (← elementsOf v))

def ofValue (v : Value) : Except Fault Metadata := do
  let pairs ← (← entriesOf v).mapM fun e => do return (e.1.plainText, ← valuesOf e.2)
  return Assoc.ofPairs pairs

example : (ofValue (.list [.text "ab", .text "ac"])).toOption = some [("a", ["c"])] := by
  decide +kernel

end TermSearch.Metadata
