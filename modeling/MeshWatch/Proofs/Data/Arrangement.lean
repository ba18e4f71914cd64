import Mathlib.Data.List.Induction
import Mathlib.Data.String.Basic
import MeshWatch.Proofs.Data.Reading

/-!
# Trees that are their own plain values

The plain value of a tree has the members of every record in the order of their names. A tree that
is written in that order, and not nested too deep, is read back from its text as it was, without
any member moved or lost.
-/
namespace MeshWatch.Data

variable {room : Nat} {name : String} {value d : Data} {members : List (String × Data)}

/-! ## The order of members -/

/-- The names of members increase. -/
def InOrder (members : List (String × Data)) : Prop :=
  (members.map Prod.fst).Pairwise (· < ·)

theorem insertMember_last (before : ∀ m ∈ members, m.1 < name) :
    insertMember name value members = members ++ [(name, value)] := by
  induction members with
  | nil => rfl
  | cons m members ih =>
    obtain ⟨name', value'⟩ := m
    obtain ⟨here, later⟩ := List.forall_mem_cons.mp before
    rw [insertMember, if_neg (lt_asymm here), if_neg (ne_of_gt here), ih later, List.cons_append]

theorem ordered_concat (members : List (String × Data)) (m : String × Data) :
    ordered (members ++ [m]) = insertMember m.1 m.2 (ordered members) :=
  List.foldl_concat ..

theorem ordered_eq_self (inOrder : InOrder members) : ordered members = members := by
  induction members using List.reverseRecOn with
  | nil => rfl
  | append_singleton members m ih =>
    rw [InOrder, List.map_append] at inOrder
    obtain ⟨rest, -, last⟩ := List.pairwise_append.mp inOrder
    have before : ∀ n ∈ members, n.1 < m.1 := by
      intro n member
      exact last n.1 (List.mem_map.mpr ⟨n, member, rfl⟩) m.1 List.mem_cons_self
    rw [ordered_concat, ih rest, insertMember_last before]

/-! ## Arranged trees -/

/-- A tree that a text keeps, with members in order and at most `room` lists and records inside
each other. -/
inductive IsArranged : Nat → Data → Prop
  | null {room : Nat} : IsArranged room .null
  | bool {room : Nat} (b : Bool) : IsArranged room (.bool b)
  | int {room : Nat} {n : Int} (fits : Json.Fits64 n) : IsArranged room (.int n)
  | text {room : Nat} (s : String) : IsArranged room (.text s)
  | list {room : Nat} {items : List Data} (arranged : ∀ item ∈ items, IsArranged room item) :
    IsArranged (room + 1) (.list items)
  | record {room : Nat} {members : List (String × Data)} (inOrder : InOrder members)
    (arranged : ∀ m ∈ members, IsArranged room m.2) : IsArranged (room + 1) (.record members)

namespace IsArranged

theorem isPlain (arranged : d.IsArranged room) : d.IsPlain := by
  induction arranged with
  | null => exact .null
  | bool b => exact .bool b
  | int fits => exact .int fits
  | text s => exact .text s
  | list _ ih => exact .list ih
  | record _ _ ih => exact .record ih

theorem values?_eq {items : List Data} (settled : ∀ item ∈ items, value? room item = some item) :
    values? room items = some items := by
  induction items with
  | nil => rfl
  | cons item items ih =>
    obtain ⟨here, later⟩ := List.forall_mem_cons.mp settled
    rw [values?, here, ih later]
    rfl

theorem memberValues?_eq (settled : ∀ m ∈ members, value? room m.2 = some m.2) :
    memberValues? room members = some members := by
  induction members with
  | nil => rfl
  | cons m members ih =>
    obtain ⟨here, later⟩ := List.forall_mem_cons.mp settled
    rw [memberValues?, here, ih later]
    rfl

/-- Neither the order nor the depth of such a tree changes when its value is taken. -/
theorem value?_eq (arranged : d.IsArranged room) : value? room d = some d := by
  induction arranged with
  | null | bool | int | text => rw [value?] <;> nofun
  | list _ ih => rw [value?, values?_eq ih, Option.map_some]
  | record inOrder _ ih =>
    rw [value?, memberValues?_eq ih, Option.map_some, ordered_eq_self inOrder]

theorem listOf {α : Type} {write : α → Data} (arranged : ∀ a, (write a).IsArranged room)
    (as : List α) : (Data.list (as.map write)).IsArranged (room + 1) := by
  refine .list ?_
  intro d member
  obtain ⟨a, -, rfl⟩ := List.mem_map.mp member
  exact arranged a

theorem texts (items : List String) : (Data.texts items).IsArranged (room + 1) :=
  listOf .text items

/-- A number that a text keeps is arranged wherever it stands. -/
theorem number {n : Int} (plain : (Data.int n).IsPlain) : (Data.int n).IsArranged room := by
  cases plain with
  | int fits => exact .int fits

/-- What is written of an optional value, if anything, is arranged. -/
theorem optional {α : Type} {write : α → Data} (arranged : ∀ a, (write a).IsArranged room)
    (o : Option α) : (o.map write).elim True (IsArranged room) := by
  cases o with
  | none => trivial
  | some a => exact arranged a

/-- A record is arranged also where members of it are left out. -/
theorem present {all : List (String × Option Data)}
    (inOrder : (all.map Prod.fst).Pairwise (· < ·))
    (arranged : ∀ m ∈ all, m.2.elim True (IsArranged room)) :
    (Data.present all).IsArranged (room + 1) :=
  .record (inOrder.sublist (map_fst_kept all)) (forall_mem_kept arranged)

end IsArranged

/-- The value of an arranged tree is read from its compact text. -/
theorem IsArranged.json_value? (arranged : d.IsArranged Json.depthLimit) :
    Json.value? (Json.compact d) = some d := by
  rw [Json.value?, Json.tree?_compact arranged.isPlain, Option.bind_some, arranged.value?_eq]

end MeshWatch.Data
