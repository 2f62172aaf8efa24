import TermSearch.Assoc
import TermSearch.Decimal.Shortest
import TermSearch.Text.Raw

/-! Values of structured documents: configuration files, record files and printed plans. A mapping
keeps its entries in order of first insertion and may have any value as a key, a set its members in that
order. A point in time is kept as it was written. A text with halves of surrogate pairs in it is kept apart from the
texts of characters alone. -/
namespace TermSearch.Document

open TermSearch.Decimal (Binary64)
open Text (Raw Halved Piece)

inductive Value
  | null
  | bool (b : Bool)
  | int (n : Int)
  | real (x : Binary64)
  | text (s : String)
  | halved (s : Halved)
  | bytes (octets : List UInt8)
  | time (written : String)
  | list (items : List Value)
  | set (members : List Value)
  | mapping (entries : List (Value × Value))
  deriving Inhabited

inductive Kind
  | null | bool | int | real | text | bytes | time | list | set | mapping
  deriving DecidableEq, Repr

def Kind.name : Kind → String
  | null => "NoneType"
  | bool => "bool"
  | int => "int"
  | real => "float"
  | text => "str"
  | bytes => "bytes"
  | time => "datetime"
  | list => "list"
  | set => "set"
  | mapping => "dict"

namespace Value

def kind : Value → Kind
  | null => .null
  | bool _ => .bool
  | int _ => .int
  | real _ => .real
  | text _ | halved _ => .text
  | bytes _ => .bytes
  | time _ => .time
  | list _ => .list
  | set _ => .set
  | mapping _ => .mapping

/-- The integer that a value counts as: itself, one for true and zero for false, or a floating-point
number without a fraction. -/
def toInt? : Value → Option Int
  | bool b => some (if b then 1 else 0)
  | int n => some n
  | real x => x.toInt?
  | _ => none

/-- Whether two values are one key of a mapping. Numbers and truth values are compared by amount. -/
def sameKey (a b : Value) : Bool :=
  match a.toInt?, b.toInt? with
  | some m, some n => m == n
  | none, none =>
    match a, b with
    | null, null => true
    | text s, text t => s == t
    | halved s, halved t => s == t
    | bytes s, bytes t => s == t
    | time s, time t => s == t
    | real x, real y => x == y
    | _, _ => false
  | _, _ => false

/-- Whether a value may be a key of a mapping: everything but lists, sets and mappings. -/
def mayBeKey : Value → Bool
  | list _ => false
  | set _ => false
  | mapping _ => false
  | _ => true

/-- A text as a value. -/
def ofRaw : Raw → Value
  | .whole s => text s
  | .halved s => halved s

/-- The values in a value, one after another: the characters of a text, the numbers of octets, the items of
a list, the members of a set or the keys of a mapping. -/
def elements? : Value → Option (List Value)
  | text s => some (s.toList.map fun c => text (String.singleton c))
  | halved s => some (s.pieces.map fun p => ofRaw (.ofPieces [p]))
  | bytes octets => some (octets.map fun octet => int octet.toNat)
  | list items => some items
  | set members => some members
  | mapping entries => some (entries.map Prod.fst)
  | _ => none

/-- The entry of a mapping under a text key. -/
def get? (key : String) (entries : List (Value × Value)) : Option Value :=
  Assoc.findBy? sameKey (.text key) entries

/-- Puts a value under a key of a mapping. -/
def put (key value : Value) (entries : List (Value × Value)) : List (Value × Value) :=
  Assoc.insertBy sameKey key value entries

/-- The entries of a list of pairs, inserted from left to right. -/
def entriesOf (pairs : List (Value × Value)) : List (Value × Value) :=
  pairs.foldl (fun m p => put p.1 p.2 m) []

/-- Whether a value counts as nothing: null, false, zero, and texts, octets, lists, sets and mappings that
are empty. -/
def isVoid : Value → Bool
  | null => true
  | bool b => !b
  | int n => n == 0
  | real x => x.isZero
  | text s => s.isEmpty
  | halved _ => false
  | bytes octets => octets.isEmpty
  | time _ => false
  | list items => items.isEmpty
  | set members => members.isEmpty
  | mapping entries => entries.isEmpty

end Value

end TermSearch.Document
