import TermSearch.Document.Value
import TermSearch.Query.Plan

/-! Predicates and plans as they are shown: as indented text and as documents. A negated test is one
line of the text; every other node stands above its children. -/
namespace TermSearch.Report

open Document (Value)
open Query (Test Predicate Plan Fault)

/-- The indentation of a depth: two spaces a level, and nothing below the first level. -/
def pad (depth : Int) : String := String.ofList (List.replicate (2 * depth).toNat ' ')

/-- The heading of a node with children. -/
def heading (depth : Int) (label : String) (children : List Predicate) : String :=
  pad depth ++ label ++ (if children.isEmpty then " (empty)\n" else "\n")

mutual

def predicateText (depth : Int) : Predicate → Except Fault String
  | .test t => .ok (pad depth ++ t.field.text ++ " ~ " ++ t.pattern.text ++ "\n")
  | .not (.test t) => .ok (pad depth ++ t.field.text ++ " !~ " ++ t.pattern.text ++ "\n")
  | .not child => do return pad depth ++ "NOT\n" ++ (← predicateText (depth + 1) child)
  | .all children => do
    return heading depth "AND" children ++ (← predicateTexts (depth + 1) children)
  | .any children => do
    return heading depth "OR" children ++ (← predicateTexts (depth + 1) children)
  | .foreign typeName => .error (.foreignNode typeName)

/-- Several predicates below each other. -/
def predicateTexts (depth : Int) : List Predicate → Except Fault String
  | [] => .ok ""
  | child :: rest => do return (← predicateText depth child) ++ (← predicateTexts depth rest)

end

/-- A test as a pair of its field and its pattern. -/
def testDocument (t : Test) : Value := .list [.text t.field.text, .text t.pattern.text]

def entry (key : String) (value : Value) : Value := .mapping [(.text key, value)]

mutual

def predicateDocument : Predicate → Except Fault Value
  | .test t => .ok (entry "contains" (testDocument t))
  | .not child => do return entry "not" (← predicateDocument child)
  | .all children => do return entry "and" (.list (← predicateDocuments children))
  | .any children => do return entry "or" (.list (← predicateDocuments children))
  | .foreign typeName => .error (.foreignNode typeName)

def predicateDocuments : List Predicate → Except Fault (List Value)
  | [] => .ok []
  | child :: rest => do return (← predicateDocument child) :: (← predicateDocuments rest)

end

def planDocument (plan : Plan) : Except Fault (List (Value × Value)) := do
  return [
    (.text "predicate", ← predicateDocument plan.predicate),
    (.text "ranking", match plan.ranking with
      | some tests => .list (tests.map testDocument)
      | none => .null),
    (.text "title_patterns", .list (plan.titlePatterns.map fun p => .text p.text))]

end TermSearch.Report
