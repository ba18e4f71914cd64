import Mathlib.Data.List.Nodup
import MeshWatch.Proofs.Json.Grammar
import MeshWatch.Saved

/-!
# Reading what was written

A tree restores a value if a text keeps the tree and the value is read from it. A field is read
from the only member of its name, or takes the value it falls back on, whatever else a record
holds; fields that are read one after the other are read from the members of all of them. So a
record whose members restore the fields of a value restores the value, also where members that
stand for a fallback are left out.
-/
namespace MeshWatch

namespace Data

variable {α β : Type}

/-- A tree is kept by a text, and a value is read from it. -/
structure Restores (read : Reader α) (d : Data) (a : α) : Prop where
  plain : d.IsPlain
  found : read d = .ok a

theorem Reader.option_of_ne_null {read : Reader α} {d : Data} {a : α} (nonNull : d ≠ .null)
    (found : read d = .ok a) : read.option d = .ok (some a) := by
  rw [Reader.option, found]
  · rfl
  · exact nonNull

/-! ## Fields -/

/-- A record has a member of some name and no other one of it, or it has none of the name. -/
def Source.Holds (source : Source) (m : String × Option Data) : Prop :=
  source.members.filter (·.1 = m.1) = (m.2.map fun d => (m.1, d)).toList

namespace Fields

theorem locate_eq_none {name : String} {members : List (String × Data)}
    (none : members.filter (·.1 = name) = []) (start : Nat) :
    locate name start members = Option.none := by
  induction members generalizing start with
  | nil => rfl
  | cons m members ih =>
    obtain ⟨name', value'⟩ := m
    by_cases same : name' = name
    · simp [same] at none
    · rw [locate, if_neg same]
      exact ih (by simpa [same] using none) _

theorem exists_locate {name : String} {value : Data} {members : List (String × Data)}
    (only : members.filter (·.1 = name) = [(name, value)]) (start : Nat) :
    ∃ place, locate name start members = some (place, value, none) := by
  induction members generalizing start with
  | nil => cases only
  | cons m members ih =>
    obtain ⟨name', value'⟩ := m
    by_cases same : name' = name
    · subst same
      rw [List.filter_cons_of_pos (by simp)] at only
      obtain ⟨here, rest⟩ := List.cons.inj only
      obtain ⟨-, rfl⟩ := Prod.mk.inj here
      exact ⟨start, by rw [locate, if_pos rfl, locate_eq_none rest, Option.map_none]⟩
    · rw [List.filter_cons_of_neg (by simpa using same)] at only
      rw [locate, if_neg same]
      exact ih only _

/-- Some fields are read as a value from every record that holds these members of their names. -/
structure Gives (f : Fields α) (ms : List (String × Option Data)) (a : α) : Prop where
  names : ms.map Prod.fst = f.names
  found : ∀ source : Source, (∀ m ∈ ms, source.Holds m) → f.read source = .ok a

section Named

variable {name : String} {read : Reader α} {absent : Source → Except Fault α} {d : Data} {a : α}

theorem gives_named (found : read d = .ok a) :
    (named name read absent).Gives [(name, some d)] a := by
  refine ⟨rfl, ?_⟩
  intro source holds
  obtain ⟨place, located⟩ := exists_locate (holds _ (List.mem_singleton.mpr rfl)) 0
  simp only [named, located, found]

theorem gives_required (name : String) (found : read d = .ok a) :
    (required name read).Gives [(name, some d)] a :=
  gives_named found

theorem gives_defaulted (name : String) (fallback : α) (found : read d = .ok a) :
    (defaulted name read fallback).Gives [(name, some d)] a :=
  gives_named found

theorem gives_absent (fallback : ∀ source, absent source = .ok a) :
    (named name read absent).Gives [(name, none)] a := by
  refine ⟨rfl, ?_⟩
  intro source holds
  have located := locate_eq_none (holds _ (List.mem_singleton.mpr rfl)) 0
  simp only [named, located, fallback]

end Named

/-- An optional field of which nothing is written when it is absent. -/
theorem gives_optional {read : Reader α} {write : β → Data} {f : β → α}
    (found : ∀ b, read (write b) = .ok (f b)) (nonNull : ∀ b, write b ≠ .null) (name : String)
    (o : Option β) : (defaulted name read.option none).Gives [(name, o.map write)] (o.map f) := by
  cases o with
  | none => exact gives_absent fun _ => rfl
  | some b => exact gives_named (Reader.option_of_ne_null (nonNull b) (found b))

namespace Gives

theorem ofValue (a : α) : (ofValue a).Gives [] a := ⟨rfl, fun _ _ => rfl⟩

theorem apply {f : Fields (α → β)} {x : Fields α} {ms ns : List (String × Option Data)}
    {g : α → β} {a : α} (first : f.Gives ms g) (second : x.Gives ns a) :
    (f.apply x).Gives (ms ++ ns) (g a) := by
  refine ⟨?_, ?_⟩
  · rw [List.map_append, first.names, second.names, Fields.apply]
  · intro source holds
    obtain ⟨holdsFirst, holdsSecond⟩ := List.forall_mem_append.mp holds
    simp only [Fields.apply, first.found source holdsFirst, second.found source holdsSecond]

theorem seq {f : Fields (α → β)} {x : Fields α} {ms ns : List (String × Option Data)}
    {g : α → β} {a : α} (first : f.Gives ms g) (second : x.Gives ns a) :
    (f <*> x).Gives (ms ++ ns) (g a) :=
  first.apply second

theorem map {x : Fields α} {ms : List (String × Option Data)} {a : α} (g : α → β)
    (gives : x.Gives ms a) : (g <$> x).Gives ms (g a) :=
  (ofValue g).apply gives

end Gives

end Fields

/-! ## Records -/

/-- The members of a record that leaves none out. -/
def written (m : String × Data) : String × Option Data := (m.1, some m.2)

theorem map_fst_written (ms : List (String × Data)) :
    (ms.map written).map Prod.fst = ms.map Prod.fst := by
  rw [List.map_map]
  rfl

theorem present_map_written (ms : List (String × Data)) :
    present (ms.map written) = .record ms := by
  rw [present, List.filterMap_map]
  exact congrArg Data.record List.filterMap_some

/-- The members of a record whose absent ones are left out. -/
def kept (ms : List (String × Option Data)) : List (String × Data) :=
  ms.filterMap fun (name, value) => value.map fun v => (name, v)

/-- Members that are left out change nothing in the order of the others. -/
theorem map_fst_kept (all : List (String × Option Data)) :
    ((kept all).map Prod.fst).Sublist (all.map Prod.fst) := by
  induction all with
  | nil => exact .slnil
  | cons m all ih =>
    obtain ⟨name, value⟩ := m
    cases value with
    | none => exact .cons _ ih
    | some value => exact .cons_cons _ ih

/-- What holds of every value that may be there holds of those that are. -/
theorem forall_mem_kept {P : Data → Prop} {all : List (String × Option Data)}
    (holds : ∀ m ∈ all, m.2.elim True P) : ∀ m ∈ kept all, P m.2 := by
  intro m member
  obtain ⟨⟨name, value⟩, listed, taken⟩ := List.mem_filterMap.mp member
  obtain ⟨d, rfl, rfl⟩ := Option.map_eq_some_iff.mp taken
  exact holds _ listed

theorem kept_append (ms ns : List (String × Option Data)) :
    kept (ms ++ ns) = kept ms ++ kept ns :=
  List.filterMap_append ..

theorem filter_kept_of_notMem {name : String} {ms : List (String × Option Data)}
    (fresh : name ∉ ms.map Prod.fst) : (kept ms).filter (·.1 = name) = [] := by
  rw [List.filter_eq_nil_iff]
  intro m member same
  have listed := (map_fst_kept ms).subset (List.mem_map.mpr ⟨m, member, rfl⟩)
  exact fresh (of_decide_eq_true same ▸ listed)

/-- A record with distinct names holds each of its members, and nothing in place of those that
were left out. -/
theorem holds_kept {all : List (String × Option Data)} (distinct : (all.map Prod.fst).Nodup)
    {m : String × Option Data} (member : m ∈ all) (positional : Bool) :
    Source.Holds ⟨kept all, positional⟩ m := by
  obtain ⟨before, after, rfl⟩ := List.append_of_mem member
  rw [List.map_append, List.map_cons, List.nodup_middle, List.nodup_cons, List.mem_append,
    not_or] at distinct
  obtain ⟨⟨notBefore, notAfter⟩, -⟩ := distinct
  have here : (kept [m]).filter (·.1 = m.1) = (m.2.map fun d => (m.1, d)).toList := by
    obtain ⟨name, value⟩ := m
    cases value with
    | none => rfl
    | some v => exact List.filter_cons_of_pos (by simp)
  have split : kept (before ++ m :: after) = kept before ++ (kept [m] ++ kept after) := by
    rw [kept_append, ← List.singleton_append, kept_append]
  rw [Source.Holds, split, List.filter_append, List.filter_append,
    filter_kept_of_notMem notBefore, filter_kept_of_notMem notAfter, here, List.nil_append,
    List.append_nil]

/-- The fields of a record are read in whatever order its members stand, and among others. -/
theorem Reader.record_present {fields : Fields α} {ms all : List (String × Option Data)} {a : α}
    (gives : fields.Gives ms a) (within : ms ⊆ all) (distinct : (all.map Prod.fst).Nodup)
    (expected : String) (surplus : Surplus) :
    Reader.record expected fields surplus (present all) = .ok a := by
  have found : fields.read ⟨kept all, false⟩ = .ok a :=
    gives.found _ fun m member => holds_kept distinct (within member) false
  change Reader.record expected fields surplus (.record (kept all)) = .ok a
  rw [Reader.record, found]

theorem Reader.record_written {fields : Fields α} {ms : List (String × Option Data)}
    {members : List (String × Data)} {a : α} (gives : fields.Gives ms a)
    (within : ms ⊆ members.map written) (distinct : (members.map Prod.fst).Nodup)
    (expected : String) (surplus : Surplus) :
    Reader.record expected fields surplus (.record members) = .ok a := by
  rw [← present_map_written members]
  exact Reader.record_present gives within (by rwa [map_fst_written]) expected surplus

namespace Fields

/-- The members of some fields, none of them left out, are kept by a text and give a value. -/
structure Restored (f : Fields α) (ms : List (String × Data)) (a : α) : Prop where
  gives : f.Gives (ms.map written) a
  plain : ∀ m ∈ ms, m.2.IsPlain

theorem restored_ofValue (a : α) : (ofValue a).Restored [] a := ⟨.ofValue a, nofun⟩

theorem restored_named {name : String} {read : Reader α} {absent : Source → Except Fault α}
    {d : Data} {a : α} (restores : d.Restores read a) :
    (named name read absent).Restored [(name, d)] a := by
  refine ⟨gives_named restores.found, ?_⟩
  intro m member
  rw [List.mem_singleton.mp member]
  exact restores.plain

namespace Restored

theorem apply {f : Fields (α → β)} {x : Fields α} {ms ns : List (String × Data)} {g : α → β}
    {a : α} (first : f.Restored ms g) (second : x.Restored ns a) :
    (f.apply x).Restored (ms ++ ns) (g a) := by
  refine ⟨?_, List.forall_mem_append.mpr ⟨first.plain, second.plain⟩⟩
  rw [List.map_append]
  exact first.gives.apply second.gives

theorem seq {f : Fields (α → β)} {x : Fields α} {ms ns : List (String × Data)} {g : α → β} {a : α}
    (first : f.Restored ms g) (second : x.Restored ns a) :
    (f <*> x).Restored (ms ++ ns) (g a) :=
  first.apply second

theorem map {x : Fields α} {ms : List (String × Data)} {a : α} (g : α → β)
    (restored : x.Restored ms a) : (g <$> x).Restored ms (g a) :=
  (restored_ofValue g).apply restored

theorem congr {f : Fields α} {ms ns : List (String × Data)} {a : α} (restored : f.Restored ms a)
    (same : ms = ns) : f.Restored ns a :=
  same ▸ restored

end Restored

end Fields

/-- A record restores the value of its fields, if these have different names. -/
theorem Restores.record {fields : Fields α} {ms : List (String × Data)} {a : α}
    (restored : fields.Restored ms a) (distinct : fields.names.Nodup) (expected : String)
    (surplus : Surplus) : Restores (Reader.record expected fields surplus) (.record ms) a := by
  refine ⟨.record restored.plain, ?_⟩
  rw [← restored.gives.names, map_fst_written] at distinct
  exact Reader.record_written restored.gives (List.Subset.refl _) distinct expected surplus

/-! ## Lists -/

theorem Reader.list_map {read : Reader α} {write : β → Data} {f : β → α}
    (found : ∀ b, read (write b) = .ok (f b)) (bs : List β) :
    Reader.list read (.list (bs.map write)) = .ok (bs.map f) := by
  rw [Reader.list]
  induction bs with
  | nil => rfl
  | cons b bs ih => rw [List.map_cons, Reader.items, found, ih, List.map_cons]

theorem Restores.list {read : Reader α} {write : β → Data} {f : β → α}
    (restores : ∀ b, (write b).Restores read (f b)) (bs : List β) :
    Restores (Reader.list read) (.list (bs.map write)) (bs.map f) := by
  constructor
  · refine .list ?_
    intro d member
    obtain ⟨b, -, rfl⟩ := List.mem_map.mp member
    exact (restores b).plain
  · exact Reader.list_map (fun b => (restores b).found) bs

end Data

/-! ## Saved types -/

/-- A value is restored from what is written of it. -/
class LawfulSaved (α : Type) [Saved α] : Prop where
  restores : ∀ a : α, (Saved.write a).Restores Saved.read a

/-- No value is written as null, which is what an absent one is written as. -/
class NonNullSaved (α : Type) [Saved α] : Prop where
  write_ne_null : ∀ a : α, Saved.write a ≠ .null

namespace Saved

open Data (Fields Reader Restores)

theorem read_write {α : Type} [Saved α] [LawfulSaved α] (a : α) :
    Saved.read (Saved.write a) = .ok a :=
  (LawfulSaved.restores a).found

instance : LawfulSaved String := ⟨fun s => ⟨.text s, rfl⟩⟩

instance : LawfulSaved Bool := ⟨fun b => ⟨.bool b, rfl⟩⟩

theorem int_of_fits {n low high : Int} (fits : low ≤ n ∧ n ≤ high) (expected : String) :
    Reader.int low high expected (.int n) = .ok n := by
  rw [Reader.int, if_pos fits]

instance : LawfulSaved UInt8 where
  restores n := by
    have := n.toNat_lt
    refine ⟨.int ⟨by omega, by omega⟩, ?_⟩
    change (Reader.int 0 255 "u8" (.int n.toNat)).map _ = _
    rw [int_of_fits ⟨by omega, by omega⟩]
    simp [Except.map]

instance : LawfulSaved UInt16 where
  restores n := by
    have := n.toNat_lt
    refine ⟨.int ⟨by omega, by omega⟩, ?_⟩
    change (Reader.int 0 65535 "u16" (.int n.toNat)).map _ = _
    rw [int_of_fits ⟨by omega, by omega⟩]
    simp [Except.map]

instance : LawfulSaved UInt32 where
  restores n := by
    have := n.toNat_lt
    refine ⟨.int ⟨by omega, by omega⟩, ?_⟩
    change (Reader.int 0 4294967295 "u32" (.int n.toNat)).map _ = _
    rw [int_of_fits ⟨by omega, by omega⟩]
    simp [Except.map]

instance : LawfulSaved UInt64 where
  restores n := by
    have := n.toNat_lt
    refine ⟨.int ⟨by omega, by omega⟩, ?_⟩
    change (Reader.int 0 18446744073709551615 "u64" (.int n.toNat)).map _ = _
    rw [int_of_fits ⟨by omega, by omega⟩]
    simp [Except.map]

instance : LawfulSaved Int32 where
  restores n := by
    have low := n.le_toInt
    have high := n.toInt_lt
    refine ⟨.int ⟨by omega, by omega⟩, ?_⟩
    change (Reader.int (-2147483648) 2147483647 "i32" (.int n.toInt)).map _ = _
    rw [int_of_fits ⟨by omega, by omega⟩]
    simp [Except.map]

instance : LawfulSaved Int64 where
  restores n := by
    have low := n.le_toInt
    have high := n.toInt_lt
    refine ⟨.int ⟨by omega, by omega⟩, ?_⟩
    change (Reader.int (-9223372036854775808) 9223372036854775807 "i64" (.int n.toInt)).map _ = _
    rw [int_of_fits ⟨by omega, by omega⟩]
    simp [Except.map]

instance : NonNullSaved String := ⟨fun _ => nofun⟩

instance : NonNullSaved UInt16 := ⟨fun _ => nofun⟩

instance : NonNullSaved UInt32 := ⟨fun _ => nofun⟩

instance {α : Type} [Saved α] [LawfulSaved α] [NonNullSaved α] : LawfulSaved (Option α) where
  restores
    | none => ⟨.null, rfl⟩
    | some a => by
      refine ⟨(LawfulSaved.restores a).plain, ?_⟩
      exact Reader.option_of_ne_null (NonNullSaved.write_ne_null a) (LawfulSaved.restores a).found

instance {α : Type} [Saved α] [LawfulSaved α] : LawfulSaved (List α) where
  restores as := by
    have restored := Restores.list (LawfulSaved.restores (α := α)) as
    rwa [List.map_id'] at restored

section Named

variable {α : Type} [Saved α] [LawfulSaved α]

theorem restored_field (name : String) (a : α) :
    (field name).Restored [(name, Saved.write a)] a :=
  Fields.restored_named (LawfulSaved.restores a)

theorem restored_field? [NonNullSaved α] (name : String) (a : Option α) :
    (field? name).Restored [(name, Saved.write a)] a :=
  Fields.restored_named (LawfulSaved.restores a)

theorem restored_fieldOr (name : String) (a fallback : α) :
    (fieldOr name fallback).Restored [(name, Saved.write a)] a :=
  Fields.restored_named (LawfulSaved.restores a)

end Named

end Saved

end MeshWatch
