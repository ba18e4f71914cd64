import Mathlib.Data.List.Nodup
import MeshWatch.Proofs.Toml.Lines

/-!
# Documents of TOML are read back

A document of values and then tables, as they are written: no table holds a further one, and no two
of its members have one name. Its lines open the tables one after the other and fill each of them
with its pairs, so that the record they make up is the one that was written, in its order.
-/
namespace MeshWatch.Toml

variable {name : String} {d : Data} {e : Entry} {entries result : Entries} {lines : List Line}
  {more : List Char} {ms values tables : List (String × Data)}

/-! ## What is written -/

/-- Members that a table can hold: each is written on a line, and none twice. -/
structure IsFlat (ms : List (String × Data)) : Prop where
  lines : ∀ m ∈ ms, IsBare m.1 ∧ IsInline m.2
  distinct : (ms.map Prod.fst).Nodup

/-- A table, or at least one of several. -/
inductive IsSection : Data → Prop
  | table {ms : List (String × Data)} (flat : IsFlat ms) : IsSection (.record ms)
  | tables {rows : List (List (String × Data))} (some : rows ≠ []) (flat : ∀ ms ∈ rows, IsFlat ms) :
    IsSection (.list (rows.map .record))

/-- Values and then tables, all of different names. -/
structure IsDocument (values tables : List (String × Data)) : Prop where
  lines : ∀ m ∈ values, IsBare m.1 ∧ IsInline m.2
  sections : ∀ m ∈ tables, IsBare m.1 ∧ IsSection m.2
  distinct : ((values ++ tables).map Prod.fst).Nodup

theorem isTable_of_isInline (inline : IsInline d) : isTable d = false := by
  cases inline with
  | scalar scalar => cases scalar <;> rfl
  | @list items scalars =>
    cases items with
    | nil => rfl
    | cons item items => cases scalars item List.mem_cons_self <;> rfl

theorem isTable_of_isSection (isSection : IsSection d) : isTable d := by
  cases isSection with
  | table => rfl
  | @tables rows some _ =>
    cases rows with
    | nil => exact absurd rfl some
    | cons ms rows => rfl

/-- Values stand before tables already, so the printer changes nothing in their order. -/
theorem documentChars_append (document : IsDocument values tables) :
    documentChars (values ++ tables) =
      pairsChars values ++ tables.flatMap fun m => tablesChars m.1 m.2 := by
  have plain : ∀ m ∈ values, isTable m.2 = false := fun m member =>
    isTable_of_isInline (document.lines m member).2
  have titled : ∀ m ∈ tables, isTable m.2 := fun m member =>
    isTable_of_isSection (document.sections m member).2
  have parted : (values ++ tables).partition (fun m => isTable m.2) =
      (tables, values) := by
    have noTable : values.filter (fun m => isTable m.2) = [] :=
      List.filter_eq_nil_iff.mpr fun m member => by simp [plain m member]
    have noValue : tables.filter (not ∘ fun m => isTable m.2) = [] :=
      List.filter_eq_nil_iff.mpr fun m member => by simp [titled m member]
    have allValues : values.filter (not ∘ fun m => isTable m.2) = values :=
      List.filter_eq_self.mpr fun m member => by simp [plain m member]
    rw [List.partition_eq_filter_filter, List.filter_append, List.filter_append, noTable, noValue,
      allValues, List.filter_eq_self.mpr titled, List.nil_append, List.append_nil]
  rw [documentChars, parted]

/-! ## The lines of tables -/

def tableLines (several : Bool) (name : String) (ms : List (String × Data)) : List Line :=
  .header several [name] :: ms.map pairLine

/-- The members of a record. -/
def membersIn : Data → List (String × Data)
  | .record ms => ms
  | _ => []

def sectionLines (name : String) : Data → List Line
  | .list items => items.flatMap fun d => tableLines true name (membersIn d)
  | d => tableLines false name (membersIn d)

theorem Scans.rows (bare : IsBare name) {rows : List (List (String × Data))}
    (flat : ∀ ms ∈ rows, IsFlat ms) (scans : Scans more lines) :
    Scans ((rows.flatMap fun ms => tableChars "[[" "]]" name (.record ms)) ++ more)
      (rows.flatMap (tableLines true name) ++ lines) := by
  induction rows with
  | nil => exact scans
  | cons ms rows ih =>
    obtain ⟨here, later⟩ := List.forall_mem_cons.mp flat
    rw [List.flatMap_cons, List.flatMap_cons, List.append_assoc, List.append_assoc]
    exact (ih later).table rfl rfl bare here.lines

theorem Scans.titled (bare : IsBare name) (isSection : IsSection d) (scans : Scans more lines) :
    Scans (tablesChars name d ++ more) (sectionLines name d ++ lines) := by
  cases isSection with
  | table flat => exact scans.table rfl rfl bare flat.lines
  | tables some flat =>
    rw [tablesChars, sectionLines, List.flatMap_map, List.flatMap_map]
    exact scans.rows bare flat

/-- The lines of a document. -/
def documentLines (values tables : List (String × Data)) : List Line :=
  values.map pairLine ++ tables.flatMap fun m => sectionLines m.1 m.2

theorem IsDocument.scans (document : IsDocument values tables) :
    Scans (documentChars (values ++ tables)) (documentLines values tables) := by
  rw [documentChars_append document]
  refine Scans.pairs document.lines ?_
  have titled := document.sections
  clear document
  induction tables with
  | nil => exact .nil
  | cons m tables ih =>
    obtain ⟨⟨bare, isSection⟩, later⟩ := List.forall_mem_cons.mp titled
    rw [List.flatMap_cons, List.flatMap_cons]
    exact (ih later).titled bare isSection

/-! ## Entries -/

/-- The entries of a table of values. -/
def filled (ms : List (String × Data)) : Entries := ms.map fun m => (m.1, .value m.2)

def sectionEntry : Data → Entry
  | .list items => .tables (items.map fun d => filled (membersIn d))
  | d => .table .opened (filled (membersIn d))

theorem membersOf_append (entries others : Entries) :
    membersOf (entries ++ others) = membersOf entries ++ membersOf others := by
  induction entries with
  | nil => rfl
  | cons entry entries ih =>
    rw [List.cons_append, membersOf, membersOf, ih]
    rfl

theorem membersOf_filled (ms : List (String × Data)) : membersOf (filled ms) = ms := by
  induction ms with
  | nil => rfl
  | cons m ms ih =>
    rw [filled, List.map_cons, membersOf]
    exact congrArg _ ih

theorem recordsOf_filled (rows : List (List (String × Data))) :
    recordsOf (rows.map filled) = rows.map .record := by
  induction rows with
  | nil => rfl
  | cons ms rows ih => rw [List.map_cons, recordsOf, membersOf_filled, ih, List.map_cons]

theorem data_sectionEntry (isSection : IsSection d) : (sectionEntry d).data = d := by
  cases isSection with
  | @table ms flat => exact congrArg Data.record (membersOf_filled ms)
  | @tables rows _ _ =>
    rw [sectionEntry, Entry.data, List.map_map]
    exact congrArg Data.list (recordsOf_filled rows)

/-- The entries of a document. -/
def documentEntries (values tables : List (String × Data)) : Entries :=
  filled values ++ tables.map fun m => (m.1, sectionEntry m.2)

theorem IsDocument.membersOf_entries (document : IsDocument values tables) :
    membersOf (documentEntries values tables) = values ++ tables := by
  rw [documentEntries, membersOf_append, membersOf_filled]
  congr 1
  have titled := document.sections
  clear document
  induction tables with
  | nil => rfl
  | cons m tables ih =>
    obtain ⟨⟨-, isSection⟩, later⟩ := List.forall_mem_cons.mp titled
    rw [List.map_cons, membersOf, data_sectionEntry isSection, ih later]

/-! ## Assembling -/

/-- A name that no entry has yet. -/
def IsNew (name : String) (entries : Entries) : Prop := name ∉ entries.map Prod.fst

theorem IsNew.find? (new : IsNew name entries) : entries.find? name = none := by
  induction entries with
  | nil => rfl
  | cons entry entries ih =>
    obtain ⟨here, later⟩ := not_or.mp (mt List.mem_cons.mpr new)
    rw [Entries.find?, if_neg (Ne.symm here)]
    exact ih later

theorem IsNew.find?_last (new : IsNew name entries) (e : Entry) :
    Entries.find? name (entries ++ [(name, e)]) = some e := by
  induction entries with
  | nil => exact if_pos rfl
  | cons entry entries ih =>
    obtain ⟨here, later⟩ := not_or.mp (mt List.mem_cons.mpr new)
    rw [List.cons_append, Entries.find?, if_neg (Ne.symm here)]
    exact ih later

theorem IsNew.set_last (new : IsNew name entries) (e e' : Entry) :
    Entries.set name e' (entries ++ [(name, e)]) = entries ++ [(name, e')] := by
  induction entries with
  | nil => exact if_pos rfl
  | cons entry entries ih =>
    obtain ⟨here, later⟩ := not_or.mp (mt List.mem_cons.mpr new)
    rw [List.cons_append, Entries.set, if_neg (Ne.symm here), ih later, List.cons_append]

/-- The pairs of a table. -/
def pairsOf (ms : List (String × Data)) : List (List String × Data) := ms.map fun m => ([m.1], m.2)

theorem assignAll_pairsOf (distinct : (entries.map Prod.fst ++ ms.map Prod.fst).Nodup) :
    assignAll (pairsOf ms) entries = some (entries ++ filled ms) := by
  induction ms generalizing entries with
  | nil => exact congrArg some (List.append_nil entries).symm
  | cons m ms ih =>
    have new : IsNew m.1 entries :=
      fun known => (List.disjoint_of_nodup_append distinct) known List.mem_cons_self
    have assigned : Entries.assign m.2 [m.1] entries = some (entries ++ [(m.1, .value m.2)]) := by
      rw [Entries.assign, new.find?]
    have later : assignAll (pairsOf ms) (entries ++ [(m.1, .value m.2)]) =
        some (entries ++ [(m.1, .value m.2)] ++ filled ms) := ih (by simpa using distinct)
    change (Entries.assign m.2 [m.1] entries).bind (assignAll (pairsOf ms)) = _
    rw [assigned, Option.bind_some, later, List.append_assoc]
    rfl

/-- A row of lines that does not begin with a pair. -/
def BeginsTitled (lines : List Line) : Prop := ∀ path value rest, lines ≠ .pair path value :: rest

theorem takePairs_append (titled : BeginsTitled lines) (ms : List (String × Data)) :
    takePairs (ms.map pairLine ++ lines) = (pairsOf ms, lines) := by
  induction ms with
  | nil =>
    rw [List.map_nil, List.nil_append, takePairs]
    · rfl
    · exact titled
  | cons m ms ih =>
    rw [List.map_cons, List.cons_append, pairLine, takePairs, ih]
    rfl

theorem BeginsTitled.rows (titled : BeginsTitled lines) (rows : List (List (String × Data))) :
    BeginsTitled (rows.flatMap (tableLines true name) ++ lines) := by
  cases rows with
  | nil => exact titled
  | cons ms rows => exact nofun

theorem beginsTitled_sections (titled : ∀ m ∈ tables, IsBare m.1 ∧ IsSection m.2) :
    BeginsTitled (tables.flatMap fun m => sectionLines m.1 m.2) := by
  cases tables with
  | nil => nofun
  | cons m tables =>
    obtain ⟨⟨-, isSection⟩, -⟩ := List.forall_mem_cons.mp titled
    obtain ⟨name, d⟩ := m
    cases isSection with
    | table => nofun
    | @tables rows some _ =>
      cases rows with
      | nil => exact absurd rfl some
      | cons ms rows => nofun

theorem assignAll_filled (flat : IsFlat ms) : assignAll (pairsOf ms) [] = some (filled ms) :=
  assignAll_pairsOf flat.distinct

/-- Lines add to some entries what makes up the result, with any fuel that is more than their
number. -/
def Assembles (lines : List Line) (entries result : Entries) : Prop :=
  ∀ fuel, lines.length < fuel → assemble fuel lines entries = some result

namespace Assembles

theorem nil (entries : Entries) : Assembles [] entries entries := by
  intro fuel _
  cases fuel <;> rfl

/-- A header opens a table, which is filled with the pairs behind it. -/
theorem table {several : Bool} {opened : Entries} (titled : BeginsTitled lines)
    (header : Entries.openWith several (assignAll (pairsOf ms)) [name] entries = some opened)
    (assembles : Assembles lines opened result) :
    Assembles (tableLines several name ms ++ lines) entries result := by
  intro fuel enough
  cases fuel with
  | zero => cases enough
  | succ fuel =>
    have later : assemble fuel lines opened = some result := by
      refine assembles fuel ?_
      simp only [tableLines, List.cons_append, List.length_cons, List.length_append] at enough
      omega
    rw [tableLines, List.cons_append, assemble, takePairs_append titled]
    simp only [header, Option.bind_eq_bind, Option.bind_some, later]

/-- Further tables of a name that has some. -/
theorem rows (new : IsNew name entries) {rows : List (List (String × Data))}
    (flat : ∀ ms ∈ rows, IsFlat ms) (titled : BeginsTitled lines) (before : List Entries)
    (assembles : Assembles lines (entries ++ [(name, .tables (before ++ rows.map filled))])
      result) :
    Assembles (rows.flatMap (tableLines true name) ++ lines)
      (entries ++ [(name, .tables before)]) result := by
  induction rows generalizing before with
  | nil =>
    rw [List.map_nil, List.append_nil] at assembles
    exact assembles
  | cons ms rows ih =>
    obtain ⟨here, later⟩ := List.forall_mem_cons.mp flat
    have opened : Entries.openWith true (assignAll (pairsOf ms)) [name]
        (entries ++ [(name, .tables before)]) =
          some (entries ++ [(name, .tables (before ++ [filled ms]))]) := by
      simp only [Entries.openWith, new.find?_last, assignAll_filled here, Option.map_some,
        new.set_last]
    rw [List.map_cons, List.append_cons before] at assembles
    rw [List.flatMap_cons, List.append_assoc]
    exact (ih later _ assembles).table (titled.rows rows) opened

theorem titled_section (isSection : IsSection d) (new : IsNew name entries)
    (titled : BeginsTitled lines)
    (assembles : Assembles lines (entries ++ [(name, sectionEntry d)]) result) :
    Assembles (sectionLines name d ++ lines) entries result := by
  cases isSection with
  | @table ms flat =>
    have opened : Entries.openWith false (assignAll (pairsOf ms)) [name] entries =
        some (entries ++ [(name, .table .opened (filled ms))]) := by
      simp only [Entries.openWith, new.find?, assignAll_filled flat, Option.map_some]
    exact assembles.table titled opened
  | @tables rows some flat =>
    rw [sectionEntry, List.map_map] at assembles
    rw [sectionLines, List.flatMap_map]
    cases rows with
    | nil => exact absurd rfl some
    | cons ms rows =>
      -- The first header finds no entry of the name, the others find the one it made.
      obtain ⟨here, later⟩ := List.forall_mem_cons.mp flat
      have opened : Entries.openWith true (assignAll (pairsOf ms)) [name] entries =
          Option.some (entries ++ [(name, .tables [filled ms])]) := by
        simp only [Entries.openWith, new.find?, assignAll_filled here, Option.map_some]
      rw [List.flatMap_cons, List.append_assoc]
      have following := Assembles.rows new later titled [filled ms] assembles
      exact following.table (titled.rows rows) opened

theorem sections (titled : ∀ m ∈ tables, IsBare m.1 ∧ IsSection m.2)
    (distinct : (entries.map Prod.fst ++ tables.map Prod.fst).Nodup) :
    Assembles (tables.flatMap fun m => sectionLines m.1 m.2) entries
      (entries ++ tables.map fun m => (m.1, sectionEntry m.2)) := by
  induction tables generalizing entries with
  | nil =>
    rw [List.map_nil, List.append_nil]
    exact nil entries
  | cons m tables ih =>
    obtain ⟨⟨-, isSection⟩, later⟩ := List.forall_mem_cons.mp titled
    have new : IsNew m.1 entries :=
      fun known => (List.disjoint_of_nodup_append distinct) known List.mem_cons_self
    rw [List.map_cons, List.append_cons, List.flatMap_cons]
    refine titled_section isSection new (beginsTitled_sections later) (ih later ?_)
    simpa using distinct

/-- The pairs in front of all headers belong to the document itself. -/
theorem pairs (distinct : (ms.map Prod.fst).Nodup) (titled : BeginsTitled lines)
    (assembles : Assembles lines (filled ms) result) :
    Assembles (ms.map pairLine ++ lines) [] result := by
  cases ms with
  | nil => exact assembles
  | cons m ms =>
    intro fuel enough
    cases fuel with
    | zero => cases enough
    | succ fuel =>
      have later : assemble fuel lines (filled (m :: ms)) = some result := by
        refine assembles fuel ?_
        simp only [List.map_cons, List.cons_append, List.length_cons, List.length_append] at enough
        omega
      have assigned : assignAll (pairsOf (m :: ms)) [] = some (filled (m :: ms)) :=
        assignAll_pairsOf distinct
      rw [assemble, takePairs_append titled]
      · simp only [assigned, Option.bind_eq_bind, Option.bind_some, later]
      · nofun
      · nofun

end Assembles

theorem IsDocument.assembles (document : IsDocument values tables) :
    Assembles (documentLines values tables) [] (documentEntries values tables) := by
  have distinct := document.distinct
  rw [List.map_append] at distinct
  have named : (filled values).map Prod.fst = values.map Prod.fst := by
    rw [filled, List.map_map]
    rfl
  refine .pairs (List.Nodup.of_append_left distinct) (beginsTitled_sections document.sections) ?_
  refine .sections document.sections ?_
  rwa [named]

/-! ## The document -/

/-- A document begins with a name or an empty line, and so with no byte order mark. -/
theorem unmarked_documentChars (document : IsDocument values tables) (rest : List Char) :
    documentChars (values ++ tables) ≠ '\ufeff' :: rest := by
  rw [documentChars_append document]
  obtain ⟨lines, titled, -⟩ := document
  cases values with
  | cons m values =>
    obtain ⟨⟨bare, -⟩, -⟩ := List.forall_mem_cons.mp lines
    obtain ⟨c, more, written, key⟩ := bare.exists_cons
    simp only [pairsChars, List.flatMap_cons, pairChars, written, List.cons_append]
    intro same
    exact ne_of_isKeyChar key rfl (List.cons.inj same).1
  | nil =>
    have noMark : '\n' ≠ '\ufeff' := by decide
    cases tables with
    | nil => exact (List.cons_ne_nil _ _).symm
    | cons m tables =>
      obtain ⟨⟨-, isSection⟩, -⟩ := List.forall_mem_cons.mp titled
      obtain ⟨name, d⟩ := m
      cases isSection with
      | table => exact fun same => noMark (List.cons.inj same).1
      | @tables rows some _ =>
        cases rows with
        | nil => exact absurd rfl some
        | cons ms rows => exact fun same => noMark (List.cons.inj same).1

/-- A document is read as the record that was written, whatever its texts hold. -/
theorem document?_document (isDocument : IsDocument values tables) :
    document? (document (.record (values ++ tables))) = some (.record (values ++ tables)) := by
  have scanned := isDocument.scans _ (Nat.lt_succ_self _)
  have assembled := isDocument.assembles _ (Nat.lt_succ_self _)
  have unmarked : withoutMark (documentChars (values ++ tables)) =
      documentChars (values ++ tables) := by
    rw [withoutMark]
    exact unmarked_documentChars isDocument
  rw [document?, document, String.toList_ofList, unmarked]
  simp only [scanned, assembled, Option.bind_eq_bind, Option.bind_some,
    isDocument.membersOf_entries]
  rfl

end MeshWatch.Toml
