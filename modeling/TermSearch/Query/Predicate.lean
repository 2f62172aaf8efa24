import TermSearch.Query.Field
import TermSearch.Query.Pattern

/-! Predicate trees over tests of single fields. A tree that comes from outside may hold a value of
another type where a node belongs; every walk over the tree refuses it by the name of its type. -/
namespace TermSearch.Query

structure Test where
  field : FieldName
  pattern : Pattern
  deriving DecidableEq, Repr

inductive Predicate
  | test (t : Test)
  | not (child : Predicate)
  | all (children : List Predicate)
  | any (children : List Predicate)
  | foreign (typeName : String)
  deriving Inhabited

/-- Induction over a tree, with the statement for every child of a node. -/
@[elab_as_elim]
theorem Predicate.inductionOn {motive : Predicate → Prop} (p : Predicate) (test : ∀ t, motive (.test t))
    (not : ∀ child, motive child → motive (.not child))
    (all : ∀ children, (∀ c ∈ children, motive c) → motive (.all children))
    (any : ∀ children, (∀ c ∈ children, motive c) → motive (.any children))
    (foreign : ∀ typeName, motive (.foreign typeName)) : motive p :=
  match p with
  | .test t => test t
  | .not child => not child (inductionOn child test not all any foreign)
  | .all children => all children fun c _ => inductionOn c test not all any foreign
  | .any children => any children fun c _ => inductionOn c test not all any foreign
  | .foreign typeName => foreign typeName

/-- Why a walk over a tree or the reading of a field fails. -/
inductive Fault
  | foreignNode (typeName : String)
  | noSuchField (name : String)
  | noSuchColumn (name : String)
  | missingText
  deriving DecidableEq, Repr

def Fault.message : Fault → String
  | foreignNode typeName => "Unsupported predicate node: " ++ typeName
  | noSuchField name => "Unsupported field: " ++ name
  | noSuchColumn name => "Unsupported field for SQLite: " ++ name
  | missingText => "'NoneType' object has no attribute 'translate'"

/-- A test with its polarity: negated under an odd number of negations. -/
structure Leaf where
  test : Test
  negated : Bool
  deriving DecidableEq, Repr

namespace Predicate

mutual

/-- The leaves of a tree in order, seen under a polarity. -/
def leavesUnder (negated : Bool) : Predicate → Except Fault (List Leaf)
  | test t => .ok [⟨t, negated⟩]
  | not child => leavesUnder (!negated) child
  | all children => leavesOfAll negated children
  | any children => leavesOfAll negated children
  | foreign typeName => .error (.foreignNode typeName)

/-- The leaves of several trees in order. -/
def leavesOfAll (negated : Bool) : List Predicate → Except Fault (List Leaf)
  | [] => .ok []
  | child :: rest => do
    let first ← leavesUnder negated child
    let others ← leavesOfAll negated rest
    return first ++ others

end

/-- The leaves of a tree with their polarity, in order. -/
def leaves (p : Predicate) : Except Fault (List Leaf) := leavesUnder false p

/-- The tests that count toward the rank of a record: the leaves that are not negated. -/
def rankingTests (p : Predicate) : Except Fault (List Test) := do
  let ls ← p.leaves
  return (ls.filter fun l => !l.negated).map Leaf.test

end Predicate

end TermSearch.Query
