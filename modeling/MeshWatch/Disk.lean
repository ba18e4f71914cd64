import MeshWatch.Text.Lines

/-!
# Files and directories

The part of a disk that the program looks at: a finite list of locations with what is there. A
path is followed from directory to directory, so it leads somewhere only if every directory that
it goes through exists, also one that two points lead out of again. The directory the program runs
in, the ones it lies in and the root are always there.
-/
namespace MeshWatch

/-- What a file holds: a text, or bytes that are no text. -/
inductive Contents
  | text (s : String)
  | bytes
deriving DecidableEq

def Contents.text? : Contents → Option String
  | .text s => some s
  | .bytes => none

/-- The names on the way to a file; the first is `/` if the way starts at the root, and two points
lead out of the directory the program runs in. -/
abbrev Location := List String

namespace Location

/-- One name further. Two points lead back, but not out of the root. -/
def enter (p : Location) (name : String) : Location :=
  if name = "" ∨ name = "." then p
  else if name = ".." then
    match p.getLast? with
    | none | some ".." => p ++ [".."]
    | some "/" => p
    | some _ => p.dropLast
  else p ++ [name]

/-- Whether a location is known to be a directory. -/
def isGiven (p : Location) : Bool := p = ["/"] || p.all (· == "..")

end Location

/-- How a file is asked for: what stands between the slashes, and whether a slash comes first. The
empty path leads to the directory that the program runs in. -/
structure Path where
  fromRoot : Bool
  names : List String
deriving DecidableEq

namespace Path

def ofText (s : String) : Path :=
  ⟨s.toList.head? = some '/', (Text.splitOn '/' s.toList).map String.ofList⟩

/-- A name inside a directory, as text. A name that starts at the root stands for itself. -/
def join (directory name : String) : String :=
  if name.toList.head? = some '/' ∨ directory = "" then name
  else if directory.toList.getLast? = some '/' then directory ++ name
  else directory ++ "/" ++ name

/-- A name inside a directory. -/
def child (p : Path) (name : String) : Path := { p with names := p.names ++ [name] }

/-- An empty name or a point leads nowhere. -/
def staysThere (name : String) : Bool := name == "" || name == "."

/-- Without the names at the end that lead nowhere. -/
def trimmed (names : List String) : List String := (names.reverse.dropWhile staysThere).reverse

/-- The directory that the last name is looked for in. -/
def parent (p : Path) : Path := { p with names := trimmed (trimmed p.names).dropLast }

/-- The names that lead somewhere. -/
def steps (p : Path) : List String := p.names.filter (!staysThere ·)

def start (p : Path) : Location := if p.fromRoot then ["/"] else []

/-- Whether the last name is a point that follows other names. -/
def endsAtPoint (p : Path) : Bool :=
  (p.names.reverse.dropWhile (· == "")).head? == some "." && !p.steps.isEmpty

/-- The longest name of a file, in bytes. -/
def nameLimit : Nat := 255

/-- The longest path, in bytes. -/
def lengthLimit : Nat := 4095

/-- The bytes of the names and of the slashes between them. -/
def length (p : Path) : Nat := p.names.foldl (fun n name => n + name.utf8ByteSize + 1) 0 - 1

/-- Whether a path can be asked for at all: a NUL ends it too early, and it may not be too long. -/
def isAdmissible (p : Path) : Bool :=
  p.length ≤ lengthLimit && p.names.all fun name => !name.toList.contains '\x00'

end Path

inductive Item
  | directory
  | file (c : Contents)
deriving DecidableEq

structure Disk where
  items : List (Location × Item)
deriving DecidableEq

namespace Disk

def empty : Disk := ⟨[]⟩

def itemAt? (d : Disk) (p : Location) : Option Item :=
  if p.isGiven then some .directory else d.items.lookup p

/-- The location that the names lead to from another one. Only a directory can be gone through. -/
def follow? (d : Disk) (p : Location) : List String → Option Location
  | [] => some p
  | name :: rest =>
    if d.itemAt? p = some .directory ∧ name.utf8ByteSize ≤ Path.nameLimit then
      d.follow? (p.enter name) rest
    else none

/-- The location that a path leads to. There may be nothing at the location itself. -/
def location? (d : Disk) (p : Path) : Option Location :=
  if p.isAdmissible then d.follow? p.start p.names else none

def item? (d : Disk) (p : Path) : Option Item := (d.location? p).bind d.itemAt?

def isDirectory (d : Disk) (p : Path) : Bool := d.item? p = some .directory

def read? (d : Disk) (p : Path) : Option Contents :=
  match d.item? p with
  | some (.file c) => some c
  | _ => none

/-- The text of a file, if it is one. -/
def readText? (d : Disk) (p : Path) : Option String := (d.read? p).bind (·.text?)

def set (d : Disk) (p : Location) (i : Item) : Disk :=
  ⟨(p, i) :: d.items.filter fun (q, _) => q ≠ p⟩

/-- Takes away what is at a location, and everything inside it. -/
def remove (d : Disk) (p : Location) : Disk := ⟨d.items.filter fun (q, _) => !p.isPrefixOf q⟩

/-- Takes away a file, if there is one. -/
def removeFile (d : Disk) (p : Path) : Option Disk :=
  (d.read? p).bind fun _ => (d.location? p).map d.remove

/-- Makes the directories that are missing on the way from a directory on. What has been made
stays if the way ends at a file or at a name that is too long. -/
def makeAlong (d : Disk) (p : Location) : List String → Disk × Bool
  | [] => (d, true)
  | name :: rest =>
    let next := p.enter name
    if Path.nameLimit < name.utf8ByteSize then (d, false)
    else
      match d.itemAt? next with
      | some .directory => makeAlong d next rest
      | some (.file _) => (d, false)
      | none => makeAlong (d.set next .directory) next rest

/-- Makes a directory and the ones it lies in, and says whether it is there now. A directory is
made under its own name only: of a path that ends at a point the last directory has to be there. -/
def makeDirectory (d : Disk) (p : Path) : Disk × Bool :=
  if !p.isAdmissible then (d, false)
  else if p.endsAtPoint then
    let d := (d.makeAlong p.start p.steps.dropLast).1
    (d, d.isDirectory p)
  else d.makeAlong p.start p.steps

/-- Puts a file into a directory that is there, in place of a file of that name. -/
def write (d : Disk) (p : Path) (c : Contents) : Option Disk :=
  (d.location? p).bind fun location =>
    if d.itemAt? location = some .directory then none else some (d.set location (.file c))

/-- Puts a file on a disk together with the directories it lies in. -/
def put (d : Disk) (p : Path) (c : Contents) : Option Disk :=
  match d.makeDirectory p.parent with
  | (_, false) => none
  | (d, true) => d.write p c

/-- Makes sure that a file is there, empty if it was not. -/
def touch (d : Disk) (p : Path) : Option Disk :=
  match d.item? p with
  | some (.file _) => some d
  | _ => d.write p (.text "")

/-- The names inside a directory. -/
def names (d : Disk) (p : Path) : List String :=
  match d.location? p with
  | none => []
  | some location =>
    d.items.filterMap fun (q, _) =>
      if q ≠ [] ∧ q.dropLast = location then q.getLast? else none

end Disk

end MeshWatch
