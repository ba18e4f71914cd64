import MeshWatch.Data
import MeshWatch.Json.Printer
import MeshWatch.Text.Quoted

/-!
# Typed reading of a tree

A reader turns a tree into a value of a type or says why it cannot. Records are read field by
field. Of several faults the one at the earliest member counts; absent fields are reported only
when every member that is there was read, in the order of their declaration.
-/
namespace MeshWatch.Data

inductive Mismatch
  | missing (field : String)
  | wrongType (found : Data) (expected : String)
  | outOfRange (found : Int) (expected : String)
  /-- A list in place of a record ends before a field that must be there. -/
  | tooFew (place : Nat) (expected : String) (fields : Nat)
  | tooMany (count : Nat)
  | repeated (field : String)
  | unknownVariant (found : String)
  | notAnAddress (found : String)

/-- The kind of a value and the value itself where it is short. -/
def describe : Data → String
  | .null => "null"
  | .bool b => "boolean `" ++ toString b ++ "`"
  | .int n => "integer `" ++ toString n ++ "`"
  | .double x => "floating point `" ++ Json.doubleLayout.text x ++ "`"
  | .text s => "string " ++ Text.quoted s
  | .list _ => "sequence"
  | .record _ => "map"
  | .unreadable => "unreadable value"

def Mismatch.message : Mismatch → String
  | .missing field => "missing field `" ++ field ++ "`"
  | .wrongType found expected => "invalid type: " ++ describe found ++ ", expected " ++ expected
  | .outOfRange found expected =>
    "invalid value: integer `" ++ toString found ++ "`, expected " ++ expected
  | .tooFew place expected fields =>
    "invalid length " ++ toString place ++ ", expected " ++ expected ++ " with " ++
      toString fields ++ (if fields = 1 then " element" else " elements")
  | .tooMany count =>
    "invalid length " ++ toString count ++ ", expected fewer elements in array"
  | .repeated field => "duplicate field `" ++ field ++ "`"
  | .unknownVariant found => "unknown variant `" ++ found ++ "`"
  | .notAnAddress found => "invalid address " ++ Text.quoted found

abbrev Reader (α : Type) := Data → Except Mismatch α

namespace Reader

def text : Reader String
  | .text s => .ok s
  | other => .error (.wrongType other "a string")

def bool : Reader Bool
  | .bool b => .ok b
  | other => .error (.wrongType other "a boolean")

/-- A whole number between `low` and `high`. -/
def int (low high : Int) (expected : String) : Reader Int
  | .int n => if low ≤ n ∧ n ≤ high then .ok n else .error (.outOfRange n expected)
  | other => .error (.wrongType other expected)

def u8 : Reader UInt8 := fun d => (int 0 255 "u8" d).map fun n => .ofNat n.toNat

def u16 : Reader UInt16 := fun d => (int 0 65535 "u16" d).map fun n => .ofNat n.toNat

def u32 : Reader UInt32 := fun d => (int 0 4294967295 "u32" d).map fun n => .ofNat n.toNat

def u64 : Reader UInt64 := fun d =>
  (int 0 18446744073709551615 "u64" d).map fun n => .ofNat n.toNat

def i32 : Reader Int32 := fun d => (int (-2147483648) 2147483647 "i32" d).map .ofInt

def i64 : Reader Int64 := fun d =>
  (int (-9223372036854775808) 9223372036854775807 "i64" d).map .ofInt

def items (read : Reader α) : List Data → Except Mismatch (List α)
  | [] => .ok []
  | item :: rest =>
    match read item with
    | .error e => .error e
    | .ok a =>
      match items read rest with
      | .error e => .error e
      | .ok as => .ok (a :: as)

def list (read : Reader α) : Reader (List α)
  | .list ds => items read ds
  | other => .error (.wrongType other "a sequence")

def option (read : Reader α) : Reader (Option α)
  | .null => .ok none
  | other => (read other).map some

/-- One of several words, each standing for a value: alone, or as the name of a null member. -/
def word (words : List (String × α)) : Reader α
  | .text s =>
    match words.lookup s with
    | some a => .ok a
    | none => .error (.unknownVariant s)
  | .record [(s, .null)] =>
    match words.lookup s with
    | some a => .ok a
    | none => .error (.unknownVariant s)
  | other => .error (.wrongType other "one of several words")

end Reader

/-- Where the fields of a record come from. -/
structure Source where
  members : List (String × Data)
  /-- The record is written as the list of its fields. -/
  positional : Bool

inductive Fault
  | at (place : Nat) (cause : Mismatch)
  | absent (field : String)

/-- The earlier of two faults. -/
def Fault.first : Fault → Fault → Fault
  | .at p c, .at q d => if q < p then .at q d else .at p c
  | .absent _, .at q d => .at q d
  | f, _ => f

/-- Reads some fields of a record, named in the order of their declaration. -/
structure Fields (α : Type) where
  names : List String
  read : Source → Except Fault α

namespace Fields

def ofValue (a : α) : Fields α := ⟨[], fun _ => .ok a⟩

/-- Reads further fields. Both parts are read, so that the earlier of two faults is found. -/
def apply (f : Fields (α → β)) (x : Fields α) : Fields β where
  names := f.names ++ x.names
  read source :=
    match f.read source, x.read source with
    | .ok f, .ok a => .ok (f a)
    | .ok _, .error e => .error e
    | .error e, .ok _ => .error e
    | .error e, .error e' => .error (e.first e')

instance : Functor Fields where
  map f x := apply (ofValue f) x

instance : Seq Fields where
  seq f x := apply f (x ())

/-- The first member of a name with its place, and the place of the second one if there is one. -/
def locate (name : String) (place : Nat) :
    List (String × Data) → Option (Nat × Data × Option Nat)
  | [] => none
  | (name', value) :: rest =>
    if name' = name then some (place, value, (locate name (place + 1) rest).map (·.1))
    else locate name (place + 1) rest

/-- A field of which `absent` says what it is if no member has its name. -/
def named (name : String) (read : Reader α) (absent : Source → Except Fault α) : Fields α where
  names := [name]
  read source :=
    match locate name 0 source.members with
    | none => absent source
    | some (place, value, again) =>
      match read value, again with
      | .error e, _ => .error (.at place e)
      | .ok _, some again => .error (.at again (.repeated name))
      | .ok a, none => .ok a

/-- A field that must be there. -/
def required (name : String) (read : Reader α) : Fields α :=
  named name read fun _ => .error (.absent name)

/-- A field that may be null, and need not be there unless the record is written as a list. -/
def nullable (name : String) (read : Reader α) : Fields (Option α) :=
  named name read.option fun source =>
    if source.positional then .error (.absent name) else .ok none

/-- A field with a value to fall back on. -/
def defaulted (name : String) (read : Reader α) (fallback : α) : Fields α :=
  named name read fun _ => .ok fallback

end Fields

/-- What becomes of items beyond the last field of a record that is written as a list. -/
inductive Surplus
  | refused
  | ignored
deriving DecidableEq

/-- A record, written with names or as the list of its fields. -/
def Reader.record (expected : String) (fields : Fields α) (surplus : Surplus := .refused) :
    Reader α
  | .record members =>
    match fields.read ⟨members, false⟩ with
    | .ok a => .ok a
    | .error (.at _ cause) => .error cause
    | .error (.absent field) => .error (.missing field)
  | .list ds =>
    match fields.read ⟨fields.names.zip ds, true⟩ with
    | .ok a =>
      if surplus = .refused ∧ fields.names.length < ds.length then .error (.tooMany ds.length)
      else .ok a
    | .error (.at _ cause) => .error cause
    | .error (.absent field) =>
      .error (.tooFew (fields.names.idxOf field) expected fields.names.length)
  | other => .error (.wrongType other expected)

end MeshWatch.Data
