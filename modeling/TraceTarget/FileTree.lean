import TraceTarget.Path
import TraceTarget.Registry

/-!
# File trees

A file tree says what is at each place below the root, and which place is the working directory.
Paths are looked up name by name: `.` and an empty name stay, `..` goes up, and every other name
must be there. Only a directory has places below it.

- `FileTree.find?`: what is at a path, if anything can be found there.
- `FileTree.makeDirectories`: makes a directory and all that are missing on the way.
- `FileTree.create`: makes a file with its contents, and the directories on the way.
- `FileTree.append`: adds to a file, which is made if it is missing, in a directory that is there.

What makes something also says whether that went well; directories made before a failure stay.
-/

namespace TraceTarget

/-- What is at a place. -/
inductive FileEntry where
  | directory
  | file (contents : Text.Bytes)
  deriving DecidableEq, Repr

/-- A place: the names from the root, the innermost first. -/
abbrev Place := List Text.Bytes

/-- What is where. The root is a directory; other places are listed. -/
structure FileTree where
  entries : Registry Place FileEntry := .empty
  /-- The working directory. -/
  here : Place := []
  deriving Inhabited

namespace FileTree

/-- The longest name that can be looked up, in bytes. -/
def maxName : Nat := 255

/-- The longest path that can be looked up, in bytes. -/
def maxPath : Nat := 4095

/-- What is at a place. -/
def at? (t : FileTree) (p : Place) : Option FileEntry :=
  if p = [] then some .directory else t.entries.get? p

/-- The place itself and the place above it, as names. -/
def dot : Text.Bytes := [0x2e]

/-- The place above, as a name. -/
def dotDot : Text.Bytes := [0x2e, 0x2e]

/-- The place that a name leads to from a directory. -/
def child (p : Place) (name : Text.Bytes) : Place :=
  if name = [] ∨ name = dot then p else if name = dotDot then p.drop 1 else name :: p

/-- Where names lead, one after the other, through places that are there. All places that names are
looked up in must be directories. -/
def walk (t : FileTree) : Place → List Text.Bytes → Option Place
  | p, [] => (t.at? p).map fun _ => p
  | p, name :: names =>
    if t.at? p = some .directory ∧ name.length ≤ maxName then t.walk (child p name) names else none

/-- Where a path is looked up from. -/
def origin (t : FileTree) (p : Path) : Place :=
  if p.isAbsolute then [] else t.here

/-- Whether a path can be looked up at all. -/
def isUsable (p : Path) : Bool :=
  p.bytes ≠ [] && p.bytes.length ≤ maxPath && !p.bytes.contains 0

/-- What is at a path, if anything can be found there. -/
def find? (t : FileTree) (p : Path) : Option FileEntry :=
  if isUsable p then (t.walk (t.origin p) p.names).bind t.at? else none

/-- The tree with an entry at a place. -/
def put (t : FileTree) (p : Place) (e : FileEntry) : FileTree :=
  { t with entries := t.entries.put p e }

/-- Makes the directories that are missing on the way along some names, up to the first name that
can lead nowhere, and gives the place that all names lead to. -/
def makeAlong (t : FileTree) : Place → List Text.Bytes → Option Place × FileTree
  | p, [] => (if t.at? p = some .directory then some p else none, t)
  | p, name :: names =>
    if t.at? p = some .directory ∧ name.length ≤ maxName then
      let next := child p name
      match t.at? next with
      | none => (t.put next .directory).makeAlong next names
      | some _ => t.makeAlong next names
    else (none, t)

/-- Makes a directory and all directories that are missing on the way, and says whether there is a
directory then. -/
def makeDirectories (t : FileTree) (p : Path) : Bool × FileTree :=
  if isUsable p then
    let (place, t) := t.makeAlong (t.origin p) p.names
    (place.isSome, t)
  else (false, t)

/-- The tree with a change to the file at a place; the change is told what the file held, if it was
there. A directory cannot be changed. -/
def modifyAt (t : FileTree) (p : Place) (f : Option Text.Bytes → Text.Bytes) : Bool × FileTree :=
  match t.at? p with
  | some .directory => (false, t)
  | some (.file contents) => (true, t.put p (.file (f (some contents))))
  | none => (true, t.put p (.file (f none)))

/-- The tree with a change to the file of a name in a directory. The names that lead elsewhere are
no names of files. -/
def modifyIn (t : FileTree) (directory : Place) (name : Text.Bytes)
    (f : Option Text.Bytes → Text.Bytes) : Bool × FileTree :=
  if name = [] ∨ name = dot ∨ name = dotDot ∨ maxName < name.length then (false, t)
  else t.modifyAt (child directory name) f

/-- Makes a file with some contents, and the directories on the way. -/
def create (t : FileTree) (p : Path) (contents : Text.Bytes) : Bool × FileTree :=
  if isUsable p then
    match t.makeAlong (t.origin p) p.names.dropLast, p.names.getLast? with
    | (some directory, t), some name => t.modifyIn directory name fun _ => contents
    | (_, t), _ => (false, t)
  else (false, t)

/-- Adds to a file in a directory that is there, making the file if it is missing. -/
def append (t : FileTree) (p : Path) (contents : Text.Bytes) : Bool × FileTree :=
  if isUsable p then
    match t.walk (t.origin p) p.names.dropLast, p.names.getLast? with
    | some place, some name =>
      if t.at? place = some .directory then t.modifyIn place name fun old => old.getD [] ++ contents
      else (false, t)
    | _, _ => (false, t)
  else (false, t)

end FileTree

end TraceTarget
