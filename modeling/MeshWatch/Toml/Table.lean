import MeshWatch.Data

/-!
# Tables under construction

A document defines its tables piece by piece. How a table came to be decides what may still be
added to it: one that was opened by its own header is complete after that header's lines, one
that a longer header or a dotted key implies can still be opened or extended.
-/
namespace MeshWatch.Toml

/-- How a table came to be. -/
inductive Origin
  /-- By a header of its own. -/
  | opened
  /-- By the header of a table inside it. -/
  | implied
  /-- By a key of several parts. -/
  | dotted
deriving DecidableEq

inductive Entry
  | value (d : Data)
  | table (origin : Origin) (entries : List (String × Entry))
  /-- Tables of one name, each opened by a header in double brackets. -/
  | tables (items : List (List (String × Entry)))

abbrev Entries := List (String × Entry)

namespace Entries

def find? (name : String) : Entries → Option Entry
  | [] => none
  | (name', e) :: rest => if name' = name then some e else find? name rest

/-- Puts an entry in the place of the one of its name, or at the end. -/
def set (name : String) (e : Entry) : Entries → Entries
  | [] => [(name, e)]
  | (name', e') :: rest =>
    if name' = name then (name, e) :: rest else (name', e') :: set name e rest

/-- Changes the last of some tables. -/
def onLast (f : Entries → Option Entries) : List Entries → Option (List Entries)
  | [] => none
  | [last] => (f last).map ([·])
  | first :: rest => (onLast f rest).map (first :: ·)

/-- Gives a key its value. Tables on the way are made if they are not there; one that has been
opened is complete, and the innermost must have come from dotted keys. -/
def assign (value : Data) : List String → Entries → Option Entries
  | [], _ => none
  | [key], entries =>
    match find? key entries with
    | some _ => none
    | none => some (entries ++ [(key, .value value)])
  | key :: path, entries =>
    match find? key entries with
    | none => (assign value path []).map fun inner => entries ++ [(key, .table .dotted inner)]
    | some (.table origin inner) =>
      if origin = .opened ∨ (path.length = 1 ∧ origin ≠ .dotted) then none
      else (assign value path inner).map fun inner => set key (.table origin inner) entries
    | some (.tables items) =>
      if path.length = 1 then none
      else (onLast (assign value path) items).map fun items => set key (.tables items) entries
    | some (.value _) => none

/-- Opens a table, or the next of several tables, and fills it with `fill`. -/
def openWith (several : Bool) (fill : Entries → Option Entries) :
    List String → Entries → Option Entries
  | [], entries => fill entries
  | [key], entries =>
    match several, find? key entries with
    | false, none => (fill []).map fun inner => entries ++ [(key, .table .opened inner)]
    | false, some (.table .implied inner) =>
      (fill inner).map fun inner => set key (.table .opened inner) entries
    | true, none => (fill []).map fun inner => entries ++ [(key, .tables [inner])]
    | true, some (.tables items) =>
      (fill []).map fun inner => set key (.tables (items ++ [inner])) entries
    | _, _ => none
  | key :: path, entries =>
    match find? key entries with
    | none =>
      (openWith several fill path []).map fun inner => entries ++ [(key, .table .implied inner)]
    | some (.table origin inner) =>
      (openWith several fill path inner).map fun inner => set key (.table origin inner) entries
    | some (.tables items) =>
      (onLast (openWith several fill path) items).map fun items => set key (.tables items) entries
    | some (.value _) => none

end Entries

mutual

def Entry.data : Entry → Data
  | .value d => d
  | .table _ entries => .record (membersOf entries)
  | .tables items => .list (recordsOf items)

/-- The members of a table that is complete. -/
def membersOf : List (String × Entry) → List (String × Data)
  | [] => []
  | (name, e) :: rest => (name, e.data) :: membersOf rest

def recordsOf : List (List (String × Entry)) → List Data
  | [] => []
  | entries :: rest => .record (membersOf entries) :: recordsOf rest

end

end MeshWatch.Toml
