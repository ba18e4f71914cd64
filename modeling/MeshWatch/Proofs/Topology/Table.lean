import Mathlib.Data.List.Nodup
import Mathlib.Data.List.Induction
import MeshWatch.Topology.Table

/-!
# Tables as lists of first rows

A table made of a list holds the first row of each id of the list, in the order of the list. Its
index agrees with a search from the front, so looking up an id gives the first row of that id.
-/
namespace MeshWatch.Table

variable {α : Type} {id : α → UInt64}

/-- The first row of each id. -/
def firsts (id : α → UInt64) : List α → List α
  | [] => []
  | row :: rest => row :: (firsts id rest).filter fun other => id other ≠ id row

theorem find?_firsts (rows : List α) (key : UInt64) :
    (firsts id rows).find? (id · = key) = rows.find? (id · = key) := by
  induction rows with
  | nil => rfl
  | cons row rest ih =>
    rw [firsts, List.find?_cons, List.find?_cons, List.find?_filter]
    by_cases here : id row = key
    · simp [here]
    · simp only [here, decide_false, ← ih]
      congr 1
      funext other
      by_cases found : id other = key <;> simp [found, Ne.symm here]

theorem nodup_firsts (rows : List α) : ((firsts id rows).map id).Nodup := by
  induction rows with
  | nil => exact List.nodup_nil
  | cons row rest ih =>
    rw [firsts, List.map_cons, List.nodup_cons]
    refine ⟨?_, ih.sublist (List.filter_sublist.map id)⟩
    simp

theorem id_mem_firsts (rows : List α) (key : UInt64) :
    key ∈ (firsts id rows).map id ↔ key ∈ rows.map id := by
  have found (rs : List α) : key ∈ rs.map id ↔ (rs.find? (id · = key)).isSome := by simp
  rw [found, found, find?_firsts]

/-- The rows that are kept are found again under their ids. -/
theorem find?_of_mem_firsts {rows : List α} {row : α} (h : row ∈ firsts id rows) :
    rows.find? (id · = id row) = some row := by
  rw [← find?_firsts]
  have present : ((firsts id rows).find? (id · = id row)).isSome :=
    List.find?_isSome.mpr ⟨row, h, by simp⟩
  obtain ⟨found, search⟩ := Option.isSome_iff_exists.mp present
  have kept : found ∈ firsts id rows := List.mem_of_find?_eq_some search
  have same : id found = id row := by simpa using List.find?_some search
  rw [search, List.inj_on_of_nodup_map (nodup_firsts rows) kept h same]

/-- Ids stand in the order in which they first come. -/
theorem firsts_pairwise (rows : List α) :
    (firsts id rows).Pairwise fun a b =>
      (rows.map id).idxOf (id a) < (rows.map id).idxOf (id b) := by
  induction rows with
  | nil => exact .nil
  | cons row rest ih =>
    have later {a : α} (h : a ∈ (firsts id rest).filter fun other => id other ≠ id row) :
        ((row :: rest).map id).idxOf (id a) = (rest.map id).idxOf (id a) + 1 := by
      have other : id a ≠ id row := by simpa using (List.mem_filter.mp h).2
      rw [List.map_cons, List.idxOf_cons_ne _ other.symm]
    refine List.pairwise_cons.mpr
      ⟨fun a ha => ?_, (ih.filter _).imp_of_mem fun ha hb less => ?_⟩
    · rw [later ha]
      simp
    · rw [later ha, later hb]
      omega

theorem firsts_concat (rows : List α) (row : α) :
    firsts id (rows ++ [row]) =
      if id row ∈ rows.map id then firsts id rows else firsts id rows ++ [row] := by
  induction rows with
  | nil => rfl
  | cons first rest ih =>
    rw [List.cons_append, firsts, ih, firsts]
    by_cases same : id row = id first
    · split <;> simp [same]
    · split <;> simp_all [Ne.symm]

/-- Rows whose ids are all different are kept as they are. -/
theorem firsts_eq_self {rows : List α} (distinct : (rows.map id).Nodup) : firsts id rows = rows := by
  induction rows with
  | nil => rfl
  | cons row rest ih =>
    obtain ⟨fresh, distinct⟩ := List.nodup_cons.mp distinct
    rw [firsts, ih distinct, List.filter_eq_self.mpr]
    intro other later
    simp only [decide_eq_true_eq]
    intro same
    exact fresh (same ▸ List.mem_map_of_mem later)

/-- The index of a table finds what a search through its rows finds. -/
def Indexed (t : Table α id) : Prop := ∀ key, t.index[key]? = t.toList.findIdx? (id · = key)

theorem empty_indexed : (empty : Table α id).Indexed := fun key => by simp [empty, toList]

theorem Indexed.contains_iff {t : Table α id} (h : t.Indexed) (key : UInt64) :
    t.contains key ↔ key ∈ t.toList.map id := by
  rw [contains, Std.HashMap.contains_eq_isSome_getElem?, h key]
  simp

theorem Indexed.get?_eq {t : Table α id} (h : t.Indexed) (key : UInt64) :
    t.get? key = t.toList.find? (id · = key) := by
  rw [get?, h key, List.find?_eq_bind_findIdx?_getElem?]
  simp [toList]

theorem Indexed.insert {t : Table α id} (h : t.Indexed) (row : α) : (t.insert row).2.Indexed := by
  intro key
  rw [Table.insert]
  split
  · exact h key
  · rename_i absent
    have fresh : id row ∉ t.toList.map id := fun known => absent ((h.contains_iff _).mpr known)
    simp only [toList, Array.toList_push, Std.HashMap.getElem?_insert, List.findIdx?_append]
    by_cases here : id row = key
    · have unseen : t.rows.toList.findIdx? (id · = key) = none := by
        simpa [toList, here] using fresh
      simp [here, unseen]
    · simpa [here, toList] using h key

theorem Indexed.toList_insert {t : Table α id} (h : t.Indexed) (row : α) :
    (t.insert row).2.toList =
      if id row ∈ t.toList.map id then t.toList else t.toList ++ [row] := by
  rw [Table.insert]
  by_cases known : id row ∈ t.toList.map id
  · rw [if_pos known, if_pos ((h.contains_iff _).mpr known)]
  · rw [if_neg known, if_neg fun found => known ((h.contains_iff _).mp found)]
    simp [toList]

theorem ofList_concat (rows : List α) (row : α) :
    (ofList (rows ++ [row]) : Table α id) = ((ofList rows : Table α id).insert row).2 := by
  simp [ofList]

theorem ofList_indexed (rows : List α) : (ofList rows : Table α id).Indexed := by
  induction rows using List.reverseRecOn with
  | nil => exact empty_indexed
  | append_singleton rows row ih => exact ofList_concat rows row ▸ ih.insert row

theorem toList_ofList (rows : List α) : (ofList rows : Table α id).toList = firsts id rows := by
  induction rows using List.reverseRecOn with
  | nil => rfl
  | append_singleton rows row ih =>
    rw [ofList_concat, (ofList_indexed rows).toList_insert, ih, firsts_concat]
    simp only [id_mem_firsts]

/-- Looking up an id gives the first row of the list with that id. -/
theorem get?_ofList (rows : List α) (key : UInt64) :
    (ofList rows : Table α id).get? key = rows.find? (id · = key) := by
  rw [(ofList_indexed rows).get?_eq, toList_ofList, find?_firsts]

end MeshWatch.Table
