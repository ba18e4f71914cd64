import Mathlib.Algebra.BigOperators.Group.List.Basic
import Mathlib.Algebra.GroupWithZero.Nat
import Mathlib.Data.List.Forall2
import Mathlib.Order.Bounds.Basic
import MeshWatch.Proofs.Text.Lines
import MeshWatch.Report

/-!
# Columns of the table of peers

Every column is as wide as its widest cell, headers included, and begins two characters behind
the one before it. All rows are padded to these widths, so a cell stands at the same place in
every line. Only blanks at the end of a line are cut off, and with them only cells that are blank
or end in a blank. A table with a column beyond the limit is not laid out at all.
-/
namespace MeshWatch.Report

open Text (isBlank joinLines joinWith splitOn trimEnd)

/-- The lengths of the cells of a column. -/
def cellLengths (rows : List (List String)) (i : Nat) : Set Nat :=
  {n | ∃ row ∈ rows, ∃ cell, row[i]? = some cell ∧ cell.length = n}

/-- How the cells of a row stand in a line when its columns begin at some places. -/
structure Stands (start : Nat → Nat) (row : List String) (shown : List Char) : Prop where
  whole : ∀ i cell, row[i]? = some cell → ∀ c, cell.toList.getLast? = some c →
    isBlank c = false → cell.toList <+: shown.drop (start i)
  between : ∀ i cell, row[i]? = some cell → ∀ place, start i + cell.length ≤ place →
    place < start (i + 1) → ∀ c, shown[place]? = some c → c = ' '

/-- The lines of a table, one for each row, with the places where its columns begin. -/
structure IsAligned (rows : List (List String)) (start : Nat → Nat) (lines : List (List Char)) :
    Prop where
  first : start 0 = 0
  next : ∀ i < headers.length, ∃ width, IsGreatest (cellLengths rows i) width ∧
    start (i + 1) = start i + width + 2
  stands : List.Forall₂ (Stands start) rows lines

/-! ## Widths -/

/-- The widths of all columns of some rows. -/
structure AreWidths (rows : List (List String)) (ws : List Nat) : Prop where
  length : ws.length = headers.length
  greatest : ∀ i width, ws[i]? = some width → IsGreatest (cellLengths rows i) width

variable {rows : List (List String)} {row : List String} {ws : List Nat}

theorem areWidths_headers : AreWidths [headers] (headers.map String.length) := by
  refine ⟨List.length_map .., ?_⟩
  intro i width at_i
  rw [List.getElem?_map] at at_i
  obtain ⟨cell, found, rfl⟩ := Option.map_eq_some_iff.mp at_i
  refine ⟨⟨headers, List.mem_singleton_self _, cell, found, rfl⟩, ?_⟩
  rintro n ⟨row, member, cell', found', rfl⟩
  rw [List.mem_singleton.mp member, found] at found'
  rw [Option.some.inj found']

theorem AreWidths.concat (widths : AreWidths rows ws) (full : row.length = headers.length) :
    AreWidths (rows ++ [row]) (List.zipWith (fun w cell => max w cell.length) ws row) := by
  refine ⟨by simp [widths.length, full], ?_⟩
  intro i width at_i
  obtain ⟨w, cell, old, own, rfl⟩ := List.getElem?_zipWith_eq_some.mp at_i
  obtain ⟨⟨widest, member, cell', found, reached⟩, bound⟩ := widths.greatest i w old
  constructor
  · rcases le_total w cell.length with wider | narrower
    · rw [max_eq_right wider]
      exact ⟨row, by simp, cell, own, rfl⟩
    · rw [max_eq_left narrower]
      exact ⟨widest, by simp [member], cell', found, reached⟩
  · rintro n ⟨row', member', cell'', found', rfl⟩
    rcases List.mem_append.mp member' with earlier | last
    · exact (bound ⟨row', earlier, cell'', found', rfl⟩).trans (le_max_left _ _)
    · rw [List.mem_singleton.mp last, own] at found'
      rw [Option.some.inj found']
      exact le_max_right _ _

/-- Row by row the widths of the rows so far become those of all of them. -/
theorem AreWidths.foldl {seen : List (List String)} (widths : AreWidths seen ws)
    (full : ∀ row ∈ rows, row.length = headers.length) :
    AreWidths (seen ++ rows) (rows.foldl
      (fun ws row => List.zipWith (fun w cell => max w cell.length) ws row) ws) := by
  induction rows generalizing seen ws with
  | nil => simpa using widths
  | cons row rows ih =>
    obtain ⟨own, others⟩ := List.forall_mem_cons.mp full
    have further := ih (widths.concat own) others
    rwa [List.append_assoc, List.singleton_append] at further

theorem areWidths_widths (full : ∀ row ∈ rows, row.length = headers.length) :
    AreWidths (headers :: rows) (widths rows) :=
  areWidths_headers.foldl full

theorem length_cells (p : Peer) : (cells p).length = headers.length := rfl

theorem areWidths_cells (peers : List Peer) :
    AreWidths (headers :: peers.map cells) (widths (peers.map cells)) := by
  refine areWidths_widths ?_
  intro row member
  obtain ⟨p, -, rfl⟩ := List.mem_map.mp member
  exact length_cells p

/-- No cell of the rows is wider than its column. -/
theorem AreWidths.covers (widths : AreWidths rows ws) (member : row ∈ rows)
    (full : row.length = headers.length) :
    List.Forall₂ (fun w cell => String.length cell ≤ w) ws row := by
  refine List.forall₂_iff_get.mpr ⟨widths.length.trans full.symm, ?_⟩
  intro i inWidths inRow
  exact (widths.greatest i ws[i] (List.getElem?_eq_getElem inWidths)).2
    ⟨row, member, row[i], List.getElem?_eq_getElem inRow, rfl⟩

/-- A table can be laid out exactly if none of its cells is too wide. -/
theorem fits_iff (peers : List Peer) :
    fits peers ↔ ∀ p ∈ peers, ∀ cell ∈ cells p, cell.length ≤ columnLimit := by
  have widths := areWidths_cells peers
  rw [fits, List.all_eq_true]
  simp only [decide_eq_true_eq]
  constructor
  · intro narrow p member cell inside
    obtain ⟨i, inRow, rfl⟩ := List.getElem_of_mem inside
    have row : cells p ∈ headers :: peers.map cells :=
      List.mem_cons_of_mem _ (List.mem_map_of_mem member)
    have covered := List.forall₂_iff_get.mp (widths.covers row (length_cells p))
    have inWidths := covered.1.symm ▸ inRow
    exact (covered.2 i inWidths inRow).trans (narrow _ (List.getElem_mem inWidths))
  · intro narrow w member
    obtain ⟨i, inWidths, rfl⟩ := List.getElem_of_mem member
    obtain ⟨⟨row, listed, cell, found, reached⟩, -⟩ :=
      widths.greatest i _ (List.getElem?_eq_getElem inWidths)
    rw [← reached]
    have inside := List.mem_of_getElem? found
    rcases List.mem_cons.mp listed with rfl | listed
    · have headersFit : ∀ cell ∈ headers, cell.length ≤ columnLimit := by decide
      exact headersFit cell inside
    · obtain ⟨p, member, rfl⟩ := List.mem_map.mp listed
      exact narrow p member cell inside

/-! ## Lines -/

/-- Where a column begins: behind the columns before it and two blanks after each of them. -/
def start (ws : List Nat) (i : Nat) : Nat := (ws.take i).sum + 2 * i

theorem start_succ {i : Nat} (inside : i < ws.length) :
    start ws (i + 1) = start ws i + ws[i] + 2 := by
  rw [start, start, List.sum_take_succ ws i inside]
  omega

/-- The text of a row before blanks at its end are cut off. -/
def padded (ws : List Nat) (row : List String) : List Char :=
  (joinWith "  " (List.zipWith pad ws row)).toList

theorem toList_line (ws : List Nat) (row : List String) :
    (line ws row).toList = trimEnd (padded ws row) := String.toList_ofList

theorem toList_pad (width : Nat) (cell : String) :
    (pad width cell).toList = cell.toList ++ List.replicate (width - cell.length) ' ' := by
  rw [pad, String.toList_append, String.toList_ofList]

theorem start_cons (w : Nat) (ws : List Nat) (i : Nat) :
    start (w :: ws) (i + 1) = w + 2 + start ws i := by
  rw [start, start, List.take_succ_cons, List.sum_cons]
  omega

theorem padded_singleton (w : Nat) (cell : String) :
    padded [w] [cell] = cell.toList ++ List.replicate (w - cell.length) ' ' := toList_pad w cell

theorem padded_cons {w : Nat} {cell : String} (wide : cell.length ≤ w)
    (more : List.zipWith pad ws row ≠ []) : padded (w :: ws) (cell :: row) =
      cell.toList ++ (List.replicate (w + 2 - cell.length) ' ' ++ padded ws row) := by
  have blanks : List.replicate (w + 2 - cell.length) ' ' =
      List.replicate (w - cell.length) ' ' ++ [' ', ' '] := by
    rw [Nat.sub_add_comm wide, ← List.replicate_append_replicate]
    rfl
  rw [padded, List.zipWith_cons_cons, Text.joinWith_cons _ _ more, blanks]
  simp [String.toList_append, toList_pad, padded]

/-- What stands around a cell: the columns before it, blanks up to the next column, and the
columns from there on, unless it is the last one. -/
theorem exists_around (covers : List.Forall₂ (fun w cell => String.length cell ≤ w) ws row)
    {i : Nat} {cell : String} (found : row[i]? = some cell) :
    ∃ front gap back, padded ws row = front ++ (cell.toList ++ (List.replicate gap ' ' ++ back)) ∧
      front.length = start ws i ∧
      (back = [] ∨ start ws (i + 1) = start ws i + cell.length + gap) := by
  induction covers generalizing i with
  | nil => cases found
  | @cons w own ws row wide covers ih =>
    cases i with
    | zero =>
      obtain rfl : own = cell := Option.some.inj found
      cases covers with
      | nil => exact ⟨[], w - own.length, [], by simp [padded_singleton], rfl, .inl rfl⟩
      | cons wide' covers =>
        refine ⟨[], w + 2 - own.length, _, padded_cons wide (by simp), rfl, .inr ?_⟩
        rw [start_cons]
        simp only [start, List.take_zero, List.sum_nil]
        omega
    | succ i =>
      obtain ⟨front, gap, back, text, place, next⟩ := ih found
      have more : List.zipWith pad ws row ≠ [] := by
        cases covers with
        | nil => cases found
        | cons => simp
      refine ⟨own.toList ++ (List.replicate (w + 2 - own.length) ' ' ++ front), gap, back, ?_, ?_,
        ?_⟩
      · rw [padded_cons wide more, text]
        simp
      · simp only [List.length_append, String.length_toList, List.length_replicate, place,
          start_cons]
        omega
      · rw [start_cons, start_cons]
        exact next.imp_right (by omega)

/-- A cell that ends in no blank is whole in the line of its row, and what follows it up to the
next column is blank. -/
theorem stands_line (covers : List.Forall₂ (fun w cell => String.length cell ≤ w) ws row) :
    Stands (start ws) row (line ws row).toList := by
  rw [toList_line]
  constructor
  · intro i cell found c last solid
    obtain ⟨front, gap, back, text, place, -⟩ := exists_around covers found
    obtain ⟨others, written⟩ := List.getLast?_eq_some_iff.mp last
    refine ⟨trimEnd (List.replicate gap ' ' ++ back), ?_⟩
    have kept : trimEnd (padded ws row) =
        front ++ (cell.toList ++ trimEnd (List.replicate gap ' ' ++ back)) := by
      rw [text, written]
      simpa using Text.trimEnd_append_cons solid (front ++ others) (List.replicate gap ' ' ++ back)
    rw [kept, ← place, List.drop_left]
  · intro i cell found place behind before c shown
    obtain ⟨front, gap, back, text, begins, next⟩ := exists_around covers found
    obtain ⟨rest, cut⟩ := Text.trimEnd_isPrefix (padded ws row)
    have inText : (padded ws row)[place]? = some c := by
      rw [← cut, List.getElem?_append_left (List.getElem?_eq_some_iff.mp shown).1]
      exact shown
    rw [text, List.getElem?_append_right (by omega), List.getElem?_append_right
      (by rw [String.length_toList]; omega), String.length_toList] at inText
    rcases next with rfl | next
    · rw [List.append_nil] at inText
      exact List.eq_of_mem_replicate (List.mem_of_getElem? inText)
    · rw [List.getElem?_append_left (by rw [List.length_replicate]; omega)] at inText
      exact List.eq_of_mem_replicate (List.mem_of_getElem? inText)

/-! ## Tables -/

/-- The lines of the table of some peers. -/
def tableLines (peers : List Peer) : List String :=
  let rows := peers.map cells
  (headers :: rows).map (line (widths rows))

theorem peerTable_of_ne_nil {peers : List Peer} (filled : peers ≠ []) :
    peerTable peers = joinLines (tableLines peers) := if_neg filled

/-- Padding apart, what stands in a row stands in one of its cells. -/
theorem newline_mem_padded_iff (full : ws.length = row.length) :
    '\n' ∈ padded ws row ↔ ∃ cell ∈ row, '\n' ∈ cell.toList := by
  have padding (w : Nat) (cell : String) : '\n' ∈ (pad w cell).toList ↔ '\n' ∈ cell.toList := by
    simp [toList_pad]
  rw [padded, Text.mem_joinWith_iff (by decide)]
  constructor
  · rintro ⟨s, member, inside⟩
    obtain ⟨i, inBounds, rfl⟩ := List.getElem_of_mem member
    rw [List.getElem_zipWith, padding] at inside
    exact ⟨_, List.getElem_mem _, inside⟩
  · rintro ⟨cell, member, inside⟩
    obtain ⟨i, inRow, rfl⟩ := List.getElem_of_mem member
    have inBounds : i < (List.zipWith pad ws row).length := by
      rw [List.length_zipWith]
      omega
    refine ⟨_, List.getElem_mem inBounds, ?_⟩
    rw [List.getElem_zipWith, padding]
    exact inside

theorem newline_not_mem_line (full : ws.length = row.length)
    (oneLine : ∀ cell ∈ row, '\n' ∉ cell.toList) : '\n' ∉ (line ws row).toList := by
  rw [toList_line]
  intro inside
  obtain ⟨cell, member, broken⟩ :=
    (newline_mem_padded_iff full).mp ((Text.trimEnd_isPrefix _).subset inside)
  exact oneLine cell member broken

theorem isAligned_peerTable {peers : List Peer} (filled : peers ≠ [])
    (oneLine : ∀ p ∈ peers, ∀ cell ∈ cells p, '\n' ∉ cell.toList) :
    IsAligned (headers :: peers.map cells) (start (widths (peers.map cells)))
      (splitOn '\n' (peerTable peers).toList) := by
  have widths := areWidths_cells peers
  have full : ∀ row ∈ headers :: peers.map cells, row.length = headers.length := by
    refine List.forall_mem_cons.mpr ⟨rfl, ?_⟩
    simp [length_cells]
  refine ⟨rfl, ?_, ?_⟩
  · intro i inside
    rw [← widths.length] at inside
    exact ⟨_, widths.greatest i _ (List.getElem?_eq_getElem inside), start_succ inside⟩
  · have single : ∀ row ∈ headers :: peers.map cells, ∀ cell ∈ row, '\n' ∉ cell.toList := by
      refine List.forall_mem_cons.mpr ⟨by decide, ?_⟩
      simpa using oneLine
    have lines : ∀ l ∈ tableLines peers, '\n' ∉ l.toList := by
      intro l member
      obtain ⟨row, listed, rfl⟩ := List.mem_map.mp member
      exact newline_not_mem_line (widths.length.trans (full row listed).symm) (single row listed)
    rw [peerTable_of_ne_nil filled, Text.splitOn_joinLines (by simp [tableLines]) lines,
      tableLines, List.map_map, List.forall₂_map_right_iff]
    refine List.forall₂_same.mpr ?_
    intro row listed
    exact stands_line (widths.covers listed (full row listed))

theorem table?_eq_some_iff {peers : List Peer} {table : String} :
    table? peers = some table ↔
      (∀ p ∈ peers, ∀ cell ∈ cells p, cell.length ≤ columnLimit) ∧ peerTable peers = table := by
  rw [table?, Option.ite_none_right_eq_some, Option.some_inj, fits_iff]

/-- A table of some peers whose cells stay on one line has one line for the headers and one for
each peer, in order, and in all of them each column begins at the same place. It is laid out
exactly if no cell is wider than the limit. -/
theorem table_aligned_iff {peers : List Peer} (filled : peers ≠ [])
    (oneLine : ∀ p ∈ peers, ∀ cell ∈ cells p, '\n' ∉ cell.toList) :
    (∃ table start, table? peers = some table ∧
      IsAligned (headers :: peers.map cells) start (splitOn '\n' table.toList)) ↔
    ∀ p ∈ peers, ∀ cell ∈ cells p, cell.length ≤ columnLimit := by
  constructor
  · rintro ⟨table, start, laidOut, -⟩
    exact (table?_eq_some_iff.mp laidOut).1
  · intro narrow
    exact ⟨peerTable peers, _, table?_eq_some_iff.mpr ⟨narrow, rfl⟩,
      isAligned_peerTable filled oneLine⟩

def directPeer : Peer :=
  ⟨"a", "10.144.144.3", true, "tcp://198.51.100.3:11010", "8 ms", "1.5 KB / 0 B", "2.3.0",
    .fullCone, 1, 3, 3, "x"⟩

/-- Behind the peer above; a cell of it is empty, one ends in a blank and one is not ASCII. -/
def relayedPeer : Peer :=
  ⟨"größer ", "no virtual IP", false, "via a", "25 ms (path)", "not applicable", "", .other (-1), 2,
    3, 7, "y"⟩

theorem table_aligned_iff_relayed :
    [directPeer, relayedPeer] ≠ [] ∧
    (∀ p ∈ [directPeer, relayedPeer], ∀ cell ∈ cells p, '\n' ∉ cell.toList) ∧
    ∃ table start, table? [directPeer, relayedPeer] = some table ∧
      IsAligned (headers :: [directPeer, relayedPeer].map cells) start
        (splitOn '\n' table.toList) := by
  have filled : [directPeer, relayedPeer] ≠ [] := List.cons_ne_nil _ _
  have oneLine : ∀ p ∈ [directPeer, relayedPeer], ∀ cell ∈ cells p, '\n' ∉ cell.toList := by
    decide +kernel
  have narrow : ∀ p ∈ [directPeer, relayedPeer], ∀ cell ∈ cells p,
      cell.length ≤ columnLimit := by
    decide +kernel
  exact ⟨filled, oneLine, (table_aligned_iff filled oneLine).mpr narrow⟩

/-- Its version has one character more than a column can have. -/
def widePeer : Peer :=
  { directPeer with version := String.ofList (List.replicate (columnLimit + 1) 'v') }

/-- There is no table of a peer with a cell beyond the limit. -/
theorem table_missing_beyond_limit :
    [widePeer] ≠ [] ∧ (∀ p ∈ [widePeer], ∀ cell ∈ cells p, '\n' ∉ cell.toList) ∧
    ¬ ∃ table start, table? [widePeer] = some table ∧
      IsAligned (headers :: [widePeer].map cells) start (splitOn '\n' table.toList) := by
  refine ⟨List.cons_ne_nil _ _, ?_, ?_⟩
  · have others : ∀ cell ∈ (cells directPeer).dropLast, '\n' ∉ cell.toList := by decide +kernel
    have version : '\n' ∉ widePeer.version.toList := by simp [widePeer]
    refine List.forall_mem_singleton.mpr (List.forall_mem_append.mpr ⟨others, ?_⟩)
    exact List.forall_mem_singleton.mpr version
  · rintro ⟨table, start, laidOut, -⟩
    have narrow := (table?_eq_some_iff.mp laidOut).1 widePeer (List.mem_singleton_self _)
      widePeer.version (by simp [cells])
    rw [widePeer, String.length_ofList, List.length_replicate] at narrow
    exact Nat.not_succ_le_self _ narrow

end MeshWatch.Report
