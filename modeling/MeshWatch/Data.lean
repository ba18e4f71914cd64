import MeshWatch.Number.Binary64

/-!
# Trees of data

The value that a JSON or TOML text stands for. A tree keeps the members of a record as they were
written, in order and with repetitions; `Data.value?` is the plain value, in which the last of
several members of one name counts and the members are ordered by name.
-/
namespace MeshWatch

inductive Data
  | null
  | bool (b : Bool)
  | int (n : Int)
  | double (x : Number.Binary64)
  | text (s : String)
  | list (items : List Data)
  | record (members : List (String × Data))
  /-- A well-formed token without a value: a number beyond the doubles, a string with half a
  surrogate pair, a record with such a key. It can be skipped but not read. -/
  | unreadable
deriving Inhabited

namespace Data

/-- Puts a member into an ordered list of members, in place of one of the same name. -/
def insertMember (name : String) (value : Data) : List (String × Data) → List (String × Data)
  | [] => [(name, value)]
  | (name', value') :: rest =>
    if name < name' then (name, value) :: (name', value') :: rest
    else if name = name' then (name, value) :: rest
    else (name', value') :: insertMember name value rest

/-- Members ordered by name, the last of each name. -/
def ordered (members : List (String × Data)) : List (String × Data) :=
  members.foldl (fun sorted (name, value) => insertMember name value sorted) []

mutual

/-- The plain value of a tree in which lists and records are nested at most `room` deep. -/
def value? (room : Nat) : Data → Option Data
  | .list items =>
    match room with
    | 0 => none
    | room + 1 => (values? room items).map .list
  | .record members =>
    match room with
    | 0 => none
    | room + 1 => (memberValues? room members).map fun members => .record (ordered members)
  | .unreadable => none
  | other => some other

def values? (room : Nat) : List Data → Option (List Data)
  | [] => some []
  | item :: rest => do
    let item ← value? room item
    let rest ← values? room rest
    return item :: rest

def memberValues? (room : Nat) : List (String × Data) → Option (List (String × Data))
  | [] => some []
  | (name, value) :: rest => do
    let value ← value? room value
    let rest ← memberValues? room rest
    return (name, value) :: rest

end

/-- The member of a name, the first if there are several. -/
def member? (name : String) : List (String × Data) → Option Data
  | [] => none
  | (name', value) :: rest => if name' = name then some value else member? name rest

/-- A record whose absent members are left out. -/
def present (members : List (String × Option Data)) : Data :=
  .record (members.filterMap fun (name, value) => value.map fun v => (name, v))

def texts (items : List String) : Data := .list (items.map .text)

def optional (write : α → Data) : Option α → Data
  | none => .null
  | some a => write a

end Data

end MeshWatch
