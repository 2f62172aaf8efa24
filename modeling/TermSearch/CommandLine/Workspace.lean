import TermSearch.File.Path
import TermSearch.Store.Connection
import TermSearch.Text.Quoted

/-! The files that commands see: texts and record databases, by the place of their names, and the
directories that have been made. A place that lies above a file is a directory. -/
namespace TermSearch.CommandLine

open File (Path)

/-- A place: the path to it without a detour. -/
abbrev Location := Path

inductive PathFault
  | missing | isThere | notDirectory | isDirectory | tooLong | holdsNul
  deriving DecidableEq, Repr

structure PathError where
  fault : PathFault
  path : Path
  deriving DecidableEq, Repr

/-- The wording of a fault, with its number where it has one. -/
def PathFault.wording : PathFault → String
  | missing => "[Errno 2] No such file or directory"
  | isThere => "[Errno 17] File exists"
  | notDirectory => "[Errno 20] Not a directory"
  | isDirectory => "[Errno 21] Is a directory"
  | tooLong => "[Errno 36] File name too long"
  | holdsNul => "embedded null byte"

/-- What an error says. A path with a NUL character is not shown. -/
def PathError.message (e : PathError) : String :=
  match e.fault with
  | .holdsNul => PathFault.wording .holdsNul
  | fault => fault.wording ++ ": " ++ Text.quoted e.path.text

def maxNameSize : Nat := 255

def maxPathSize : Nat := 4095

/-- Whether a text holds a NUL character, which no path may. -/
def holdsNul (text : String) : Bool := text.toList.contains '\x00'

/-- The files that commands see. -/
structure Workspace where
  texts : List (Location × String) := []
  databases : List (Location × Store.Tables) := []
  directories : List Location := []

namespace Workspace

def files (w : Workspace) : List Location := w.texts.map Prod.fst ++ w.databases.map Prod.fst

def isFile (w : Workspace) (l : Location) : Bool := w.files.contains l

def isAbove (l other : Location) : Bool :=
  l.root == other.root && l.names.length < other.names.length && l.names.isPrefixOf other.names

def isDirectory (w : Workspace) (l : Location) : Bool :=
  l.names.all (· == Path.stepUp) || (w.directories.any fun d => d = l || isAbove l d) ||
    w.files.any (isAbove l)

def step (w : Workspace) (l : Location) (name : String) : Except PathFault Location :=
  if w.isFile l then .error .notDirectory
  else if !w.isDirectory l then .error .missing
  else if maxNameSize < name.utf8ByteSize then .error .tooLong
  else .ok { l with names := Path.advance (!l.root.isEmpty) l.names name }

def locate (w : Workspace) (p : Path) : Except PathFault Location :=
  if holdsNul p.text then .error .holdsNul
  else if maxPathSize < p.text.utf8ByteSize then .error .tooLong
  else p.names.foldlM w.step { p with names := [] }

/-- The place of a path whose directories are all there. -/
def placeOf (p : Path) : Location := p.resolve

def readText (w : Workspace) (p : Path) : Except PathError String :=
  match w.locate p with
  | .error fault => .error ⟨fault, p⟩
  | .ok l =>
    match w.texts.lookup l with
    | some text => .ok text
    | none => .error ⟨if w.isDirectory l then .isDirectory else .missing, p⟩

def leadsToDirectory (w : Workspace) (p : Path) : Bool := (w.locate p).toOption.any w.isDirectory

def leadsToFile (w : Workspace) (p : Path) : Bool := (w.locate p).toOption.any w.isFile

/-- Makes the directory of a path in a directory that is there; it may be there itself. -/
def makeDirectory (w : Workspace) (p : Path) : Except PathError Workspace :=
  match w.locate p with
  | .error fault => .error ⟨fault, p⟩
  | .ok l =>
    if w.isFile l then .error ⟨.isThere, p⟩
    else .ok { w with directories := l :: w.directories }

/-- Makes the directories on a way, the last one first where the others are there. The names of the way
stand in reverse. -/
def makeWay (w : Workspace) (root : String) : List String → Except PathError Workspace
  | [] => .ok w
  | name :: before =>
    let p : Path := ⟨root, (name :: before).reverse⟩
    match w.makeDirectory p with
    | .ok w => .ok w
    | .error e =>
      if e.fault = .missing then do (← makeWay w root before).makeDirectory p else .error e

/-- Makes the directories of a path, which fails where a file is in the way. -/
def makeDirectories (w : Workspace) (p : Path) : Except PathError Workspace :=
  w.makeWay p.root p.names.reverse

/-- Puts a text into the file at a path. -/
def putText (w : Workspace) (p : Path) (text : String) : Workspace :=
  { w with texts := Assoc.insert (placeOf p) text w.texts }

/-- Writes a text to the file at a path, whose directory has to be there. -/
def writeText (w : Workspace) (p : Path) (text : String) : Except PathError Workspace :=
  match w.locate p with
  | .error fault => .error ⟨fault, p⟩
  | .ok l =>
    if w.isDirectory l then .error ⟨.isDirectory, p⟩
    else .ok { w with texts := Assoc.insert l text w.texts }

def putDatabase (w : Workspace) (p : Path) (tables : Store.Tables) : Workspace :=
  { w with databases := Assoc.insert (placeOf p) tables w.databases }

/-- The places on the way to a path. -/
def wayTo (p : Path) : List Location :=
  (List.range p.names.length).map fun n => placeOf { p with names := p.names.take n }

/-- Adds a text that was found at a path, with the directories on the way to it. -/
def addText (w : Workspace) (p : Path) (text : String) : Workspace :=
  let w := w.putText p text
  { w with directories := wayTo p ++ w.directories }

@[simp] theorem texts_putDatabase (w : Workspace) (p : Path) (tables : Store.Tables) :
    (w.putDatabase p tables).texts = w.texts := rfl

@[simp] theorem databases_putText (w : Workspace) (p : Path) (text : String) :
    (w.putText p text).databases = w.databases := rfl

theorem files_makeDirectory {w w' : Workspace} {p : Path} (h : w.makeDirectory p = .ok w') :
    w'.files = w.files := by
  unfold makeDirectory at h
  split at h
  · simp at h
  · split at h
    · simp at h
    · cases h
      rfl

theorem files_makeWay {w w' : Workspace} {root : String} {names : List String}
    (h : w.makeWay root names = .ok w') : w'.files = w.files := by
  induction names generalizing w' with
  | nil => cases h; rfl
  | cons name before ih =>
    simp only [makeWay] at h
    split at h
    · rename_i hm
      cases h
      exact files_makeDirectory hm
    · split at h
      · cases hb : w.makeWay root before with
        | error e => simp [hb, bind, Except.bind] at h
        | ok w₁ =>
          simp only [hb, bind, Except.bind] at h
          rw [files_makeDirectory h, ih hb]
      · simp at h

theorem files_makeDirectories {w w' : Workspace} {p : Path} (h : w.makeDirectories p = .ok w') :
    w'.files = w.files := files_makeWay h

end Workspace

end TermSearch.CommandLine
