import MeshWatch.Event.History
import MeshWatch.Proofs.Data.Nesting
import MeshWatch.Proofs.Json.Continuation

/-!
# A history as a list

The records of a history stand in its exported list as they are, between line breaks, indentation,
commas and brackets. Where each of them is a text of one value, the list is read, and its items
are those values. The list takes one level of the nesting that is allowed.
-/
namespace MeshWatch

namespace Json

/-- A text of one value, in which lists and records are nested at most `room` deep. -/
def HoldsValue (room : Nat) (s : String) : Prop :=
  ∃ tree, tree? s = some tree ∧ tree.nesting ≤ room ∧ (value? s).isSome

theorem holdsValue_iff {room : Nat} {s : String} :
    ((tree? s).any (·.nesting ≤ room) ∧ (value? s).isSome) ↔ HoldsValue room s := by
  rw [HoldsValue, Option.any_eq_true]
  constructor
  · rintro ⟨⟨tree, read, fits⟩, some_value⟩
    exact ⟨tree, read, of_decide_eq_true fits, some_value⟩
  · rintro ⟨tree, read, fits, some_value⟩
    exact ⟨⟨tree, read, decide_eq_true fits⟩, some_value⟩

instance (room : Nat) (s : String) : Decidable (HoldsValue room s) :=
  decidable_of_iff _ holdsValue_iff

theorem HoldsValue.exists_value {room : Nat} {s : String} (holds : HoldsValue room s)
    (within : room ≤ depthLimit) :
    ∃ tree v, tree? s = some tree ∧ tree.value? room = some v ∧ value? s = some v := by
  obtain ⟨tree, read, fits, some_value⟩ := holds
  obtain ⟨v, valued⟩ := Option.isSome_iff_exists.mp some_value
  refine ⟨tree, v, read, ?_, valued⟩
  rw [Data.value?_eq_of_nesting_le fits (fits.trans within)]
  rwa [value?, read, Option.bind_some] at valued

end Json

namespace History

open Json

/-- The lines of a list, without the brackets. -/
def itemLines (records : List RawRecord) : List Char :=
  (Text.joinWith ",\n" (records.map ("    " ++ ·))).toList

def indentation : List Char := List.replicate 4 ' '

theorem isGap_indentation : IsGap indentation := by
  intro c member
  rw [List.eq_of_mem_replicate member]
  rfl

theorem itemLines_singleton (raw : RawRecord) : itemLines [raw] = indentation ++ raw.toList :=
  String.toList_append

theorem itemLines_cons (raw next : RawRecord) (records : List RawRecord) :
    itemLines (raw :: next :: records) =
      indentation ++ (raw.toList ++ ',' :: '\n' :: itemLines (next :: records)) := by
  simp [itemLines, Text.joinWith, String.toList_append, indentation]

/-- The records are the items of the list, from the first one to the closing bracket. -/
theorem scanItems_itemLines {records : List RawRecord} {trees : List Data} (filled : records ≠ [])
    (each : List.Forall₂ (fun raw tree => tree? raw = some tree) records trees) {fuel : Nat}
    (enough : 2 * (itemLines records).length + 2 ≤ fuel) :
    scanItems fuel (itemLines records ++ ['\n', ']']) = some (trees, []) := by
  have indented : indentation.length = 4 := rfl
  induction each generalizing fuel with
  | nil => exact absurd rfl filled
  | @cons raw tree records trees first others ih =>
    obtain ⟨fuel, rfl⟩ := Nat.exists_eq_add_of_le' (Nat.one_le_of_lt enough)
    cases records with
    | nil =>
      cases others
      rw [itemLines_singleton, List.length_append] at enough
      have enoughFirst : 2 * raw.toList.length + 2 ≤ fuel := by omega
      have closing : EndsNumber ['\n', ']'] := .cons (by decide)
      obtain ⟨gap, blank, scanned⟩ := exists_scanValue_append first closing enoughFirst
      rw [itemLines_singleton, List.append_assoc, scanItems_gap isGap_indentation]
      exact scanItems_last scanned (skipSpace_gap blank _)
    | cons next records =>
      rw [itemLines_cons] at enough
      simp only [List.length_append, List.length_cons] at enough
      have enoughFirst : 2 * raw.toList.length + 2 ≤ fuel := by omega
      have going (t : List Char) : EndsNumber (',' :: t) := .cons (by decide)
      obtain ⟨gap, blank, scanned⟩ := exists_scanValue_append first
        (going ('\n' :: (itemLines (next :: records) ++ ['\n', ']']))) enoughFirst
      rw [itemLines_cons, List.append_assoc, scanItems_gap isGap_indentation, List.append_assoc]
      refine scanItems_next scanned (skipSpace_gap blank _) ?_
      have later : 2 * (itemLines (next :: records)).length + 2 ≤ fuel := by omega
      exact (scanItems_gap (isGap_newline 0) fuel _).trans (ih (List.cons_ne_nil _ _) later)

/-- The exported text, taken apart. -/
theorem exportJson_eq {h : History} (filled : h.records ≠ []) : ∃ text, h.exportJson = some text ∧
    text.toList = '[' :: (newline 0 ++ (itemLines h.records ++ ['\n', ']'])) := by
  refine ⟨_, if_neg filled, ?_⟩
  simp [itemLines, newline, String.toList_append]

/-- The exported list has the trees of the records as its items. -/
theorem tree?_exportJson {h : History} {trees : List Data} (filled : h.records ≠ [])
    (each : List.Forall₂ (fun raw tree => tree? raw = some tree) h.records trees) :
    ∃ text, h.exportJson = some text ∧ tree? text = some (.list trees) := by
  obtain ⟨text, exported, written⟩ := exportJson_eq filled
  refine ⟨text, exported, ?_⟩
  have enough : 2 * (itemLines h.records).length + 2 ≤ 2 * text.toList.length + 1 := by
    simp only [written, List.length_cons, List.length_append]
    omega
  have items := (scanItems_gap (isGap_newline 0) _ _).trans (scanItems_itemLines filled each enough)
  have scanned := (congrArg (scanValue _) written).trans (scanValue_list items)
  rw [tree?, treeOfChars?, scanned]
  rfl

/-- Records that hold values of their own have trees with those values. -/
theorem exists_trees {room : Nat} (within : room ≤ depthLimit) {records : List RawRecord}
    (each : ∀ raw ∈ records, HoldsValue room raw) : ∃ trees values,
      List.Forall₂ (fun raw tree => tree? raw = some tree) records trees ∧
      Data.values? room trees = some values ∧ values.map some = records.map value? := by
  induction records with
  | nil => exact ⟨[], [], .nil, rfl, rfl⟩
  | cons raw records ih =>
    obtain ⟨first, others⟩ := List.forall_mem_cons.mp each
    obtain ⟨tree, v, read, valued, alone⟩ := first.exists_value within
    obtain ⟨trees, values, reads, inside, same⟩ := ih others
    refine ⟨tree :: trees, v :: values, .cons read reads, ?_, ?_⟩
    · rw [Data.values?, valued, inside]
      rfl
    · rw [List.map_cons, List.map_cons, alone, same]

/-- The exported history is a list of as many items as there are records, and each item is the
value of the record at its place. -/
theorem exported_list_values {h : History} (filled : h.records ≠ [])
    (each : ∀ raw ∈ h.records, HoldsValue 126 raw) :
    ∃ text items, h.exportJson = some text ∧ value? text = some (.list items) ∧
      items.length = h.length ∧ items.map some = h.records.map value? := by
  have within : 126 ≤ depthLimit := by decide
  obtain ⟨trees, items, read, valued, same⟩ := exists_trees within each
  obtain ⟨text, exported, tree⟩ := tree?_exportJson filled read
  refine ⟨text, items, exported, ?_, ?_, same⟩
  · rw [value?, tree, Option.bind_some, depthLimit, Data.value?, valued, Option.map_some]
  · simpa [History.length] using congrArg List.length same

/-- The first record is nested, the second has blanks around it, a member that is repeated and
numbers that are not whole. -/
def nestedAndBlank : History :=
  ⟨["[[[[[[[[]]]],\x7b\x7d]]]]",
    "\t\x7b\"b\":[1.5,\"\\u00e9\"],\"a\":null,\"b\":-1e2\x7d\r\n "]⟩

theorem exported_list_values_nested : nestedAndBlank.records ≠ [] ∧
    (∀ raw ∈ nestedAndBlank.records, HoldsValue 126 raw) ∧
    ∃ text items, nestedAndBlank.exportJson = some text ∧ value? text = some (.list items) ∧
      items.length = nestedAndBlank.length ∧
      items.map some = nestedAndBlank.records.map value? := by
  have filled : nestedAndBlank.records ≠ [] := List.cons_ne_nil _ _
  have each : ∀ raw ∈ nestedAndBlank.records, HoldsValue 126 raw := by
    decide +kernel
  exact ⟨filled, each, exported_list_values filled each⟩

end History

end MeshWatch
