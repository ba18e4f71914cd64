import Std.Data.HashMap
import MeshWatch.Topology.Basic

/-!
# Tables of rows by peer id

A table holds one row for each id, in the order in which the ids first came, with an index from
ids to places. The first row of an id stays: a later one is refused.
-/
namespace MeshWatch

structure Table (α : Type) (id : α → UInt64) where
  rows : Array α
  index : Std.HashMap UInt64 Nat

namespace Table

variable {α : Type} {id : α → UInt64}

def empty : Table α id := ⟨#[], ∅⟩

def contains (t : Table α id) (key : UInt64) : Bool := t.index.contains key

def get? (t : Table α id) (key : UInt64) : Option α := t.index[key]?.bind (t.rows[·]?)

/-- Puts a row at the end, unless its id is there already; says whether it was put in. -/
def insert (t : Table α id) (row : α) : Bool × Table α id :=
  if t.contains (id row) then (false, t)
  else (true, ⟨t.rows.push row, t.index.insert (id row) t.rows.size⟩)

def size (t : Table α id) : Nat := t.rows.size

def isEmpty (t : Table α id) : Bool := t.rows.isEmpty

def toList (t : Table α id) : List α := t.rows.toList

def ofList (rows : List α) : Table α id := rows.foldl (fun t row => (t.insert row).2) empty

/-- The rows of a list that a table made of it refuses. -/
def refused (t : Table α id) : List α → List α
  | [] => []
  | row :: rest =>
    match t.insert row with
    | (true, t) => refused t rest
    | (false, t) => row :: refused t rest

end Table

abbrev RouteTable := Table Route Route.peerId

abbrev LinkTable := Table Link Link.peerId

def RouteTable.hostname? (t : RouteTable) (key : UInt64) : Option String :=
  (Table.get? t key).map (·.hostname)

end MeshWatch
