import MeshWatch.Data.Reader
import MeshWatch.Json.Parser

/-!
# Values that are saved as text

A type whose values are written as trees and read back from them, and so as JSON text. The text
is read as a tree: members of unknown names are skipped whatever they hold.
-/
namespace MeshWatch

class Saved (α : Type) where
  write : α → Data
  read : Data.Reader α

namespace Saved

def toText [Saved α] (a : α) : String := Json.compact (write a)

def ofText? [Saved α] (s : String) : Option α := do
  let tree ← Json.tree? s
  (read tree).toOption

instance : Saved String := ⟨.text, Data.Reader.text⟩

instance : Saved Bool := ⟨.bool, Data.Reader.bool⟩

instance : Saved UInt8 := ⟨fun n => .int n.toNat, Data.Reader.u8⟩

instance : Saved UInt16 := ⟨fun n => .int n.toNat, Data.Reader.u16⟩

instance : Saved UInt32 := ⟨fun n => .int n.toNat, Data.Reader.u32⟩

instance : Saved UInt64 := ⟨fun n => .int n.toNat, Data.Reader.u64⟩

instance : Saved Int32 := ⟨fun n => .int n.toInt, Data.Reader.i32⟩

instance : Saved Int64 := ⟨fun n => .int n.toInt, Data.Reader.i64⟩

instance [Saved α] : Saved (List α) := ⟨fun as => .list (as.map write), Data.Reader.list read⟩

instance [Saved α] : Saved (Option α) := ⟨Data.optional write, Data.Reader.option read⟩

/-- A field that must be there. -/
def field [Saved α] (name : String) : Data.Fields α := .required name read

/-- A field that may be left out. -/
def fieldOr [Saved α] (name : String) (fallback : α) : Data.Fields α :=
  .defaulted name read fallback

/-- A field that may be null or left out. -/
def field? [Saved α] (name : String) : Data.Fields (Option α) := .nullable name read

end Saved

end MeshWatch
