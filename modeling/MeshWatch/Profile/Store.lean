import MeshWatch.Disk
import MeshWatch.Note
import MeshWatch.Profile.Book
import MeshWatch.Profile.Record

/-!
# Saved books

A book is kept in one file of a data directory. Loading never fails: where there is no file, or
one that cannot be read, a new book is made.
-/
namespace MeshWatch

namespace Book

open Data (Fields Reader)

def write (b : Book) : Data :=
  .record [("profiles", .list (b.profiles.map ProfileOf.write)), ("active_id", .text b.activeId)]

def toText (b : Book) : String := Json.indented b.write

/-- The profiles of a saved book and the id of the active one. -/
def readSaved : Reader (List UnnamedProfile × Option String) :=
  .record "a book" ((fun profiles activeId => (profiles, activeId)) <$>
    Fields.defaulted "profiles" (Reader.list ProfileOf.read) [] <*>
    Saved.fieldOr "active_id" none)

def ofText? (s : String) (supply : Supply) : Option (Book × Supply) := do
  let tree ← Json.tree? s
  let (profiles, activeId) ← (readSaved tree).toOption
  let (profiles, supply) := nameAll supply profiles
  return ofProfiles profiles activeId supply

inductive LoadOutcome
  | noFile
  | read
  | unreadable

def origin : String := "meshlens_profile::store"

def LoadOutcome.note : LoadOutcome → Note
  | .noFile =>
    ⟨.info, origin, "No saved profiles, starting with a default profile", ["path"], none⟩
  | .read => ⟨.debug, origin, "Loaded profiles", ["path", "profiles"], none⟩
  | .unreadable =>
    ⟨.warn, origin, "Failed to load profiles, using defaults", ["path", "error"], none⟩

/-- The file of a book in a data directory. -/
def path (directory : Path) : Path := directory.child "profiles.json"

/-- The book of a data directory. -/
def load (d : Disk) (directory : Path) (supply : Supply) : LoadOutcome × Book × Supply :=
  match d.item? (path directory) with
  | none => (.noFile, new supply)
  | some _ =>
    match (d.readText? (path directory)).bind fun s => ofText? s supply with
    | some loaded => (.read, loaded)
    | none => (.unreadable, new supply)

/-- Writes the book, making the directory if need be; `none` if something is in the way. -/
def save (b : Book) (d : Disk) (directory : Path) : Option Disk :=
  match d.makeDirectory directory with
  | (_, false) => none
  | (d, true) => d.write (path directory) (.text b.toText)

end Book

end MeshWatch
