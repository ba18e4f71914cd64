import MeshWatch.Proofs.Json.Tokens
import MeshWatch.Proofs.Program.Exporting
import MeshWatch.Proofs.Report.Columns
import MeshWatch.Proofs.Topology.Resolution

/-!
# Lines of a report

A report is written line by line: six lines of the node, the table, one line for each event, and
an empty line between two of these parts. Texts from elsewhere are shown as they are, so these
are the lines that it is read as exactly if no such text has a line break. Numbers, addresses and
NAT classes never have one, and line breaks at the end of a version are cut off with the blanks
at the end of its line.
-/
namespace MeshWatch

open Text (isBlank joinLines joinWith splitOn trimEnd)

/-! ## Texts without line breaks -/

theorem newline_not_mem_toDigits (n : Nat) : '\n' ∉ Nat.toDigits 10 n :=
  Text.not_mem_toDigits (by decide) n

theorem Ipv4.newline_not_mem_text (a : Ipv4) : '\n' ∉ a.text.toList := by
  simp [text, String.toList_append, newline_not_mem_toDigits]

theorem Node.newline_not_mem_virtualAddressLabel (n : Node) :
    '\n' ∉ n.virtualAddressLabel.toList := by
  rw [virtualAddressLabel]
  split
  · simp [VirtualAddress.text, String.toList_append, newline_not_mem_toDigits,
      Ipv4.newline_not_mem_text]
  · decide

theorem Route.newline_not_mem_virtualIpLabel (r : Route) : '\n' ∉ r.virtualIpLabel.toList := by
  rw [virtualIpLabel]
  split
  · exact Ipv4.newline_not_mem_text _
  · decide

namespace NatClass

theorem newline_not_mem_label (c : NatClass) : '\n' ∉ c.label.toList := by
  cases c with
  | other code =>
    have digits : '\n' ∉ (toString code.toInt).toList := by
      rw [Json.toList_toString_int, Json.signed]
      split <;> simp [newline_not_mem_toDigits]
    simp only [label, String.toList_append, List.mem_append, digits, or_false]
    decide
  | _ => decide

/-- The label of a NAT class ends in a letter or a bracket. -/
theorem exists_last (c : NatClass) :
    ∃ others last, c.label.toList = others ++ [last] ∧ isBlank last = false := by
  cases c with
  | other code => exact ⟨_, ')', String.toList_append, rfl⟩
  | _ => exact ⟨_, _, (List.dropLast_append_getLast (by decide)).symm, by decide⟩

end NatClass

namespace Measure

theorem newline_not_mem_bytes (n : UInt64) : '\n' ∉ (bytes n).toList := by
  have unit (k : Nat) : '\n' ∉ (unitNames[k]?.getD "").toList := by
    rcases Nat.lt_or_ge k unitNames.length with named | beyond
    · have names : ∀ name ∈ unitNames, '\n' ∉ name.toList := by decide
      rw [List.getElem?_eq_getElem named]
      exact names _ (List.getElem_mem named)
    · rw [List.getElem?_eq_none beyond]
      decide
  rw [bytes]
  split
  · simp [String.toList_append, newline_not_mem_toDigits]
  · simp [String.toList_append, Number.oneDecimal, newline_not_mem_toDigits, unit]

end Measure

namespace Topology

variable {routes : RouteTable} {links : LinkTable} {p : Peer}

theorem exists_of_mem_resolve (member : p ∈ resolve routes links) :
    ∃ r, peer routes links r = p := by
  rw [resolve, List.mem_mergeSort, List.mem_map] at member
  obtain ⟨r, -, rfl⟩ := member
  exact ⟨r, rfl⟩

/-- What a peer shows beside its names and its connection are figures and addresses. -/
theorem newline_not_mem_figures (member : p ∈ resolve routes links) :
    '\n' ∉ p.virtualIp.toList ∧ '\n' ∉ p.latency.toList ∧ '\n' ∉ p.traffic.toList := by
  obtain ⟨r, rfl⟩ := exists_of_mem_resolve member
  rw [peer]
  split
  · simp [directPeer, peerOf, r.newline_not_mem_virtualIpLabel, Measure.latency, Measure.traffic,
      String.toList_append, newline_not_mem_toDigits, Measure.newline_not_mem_bytes]
  · simp [relayedPeer, peerOf, r.newline_not_mem_virtualIpLabel, Measure.pathLatency,
      String.toList_append, newline_not_mem_toDigits]

end Topology

/-! ## Events -/

namespace Event

theorem level_ne_config (e : Event) : e.level ≠ .config := by
  cases e <;> nofun

/-- What is translated is no entry of a configuration, so it is shown with its time. -/
theorem level_of_translate {raw : RawRecord} {e : LogEntry} (translated : translate raw = .ok e) :
    e.level ≠ .config := by
  rw [translate] at translated
  split at translated
  · simp only [ofWritten] at translated
    split at translated
    · cases translated
    · cases translated
    · rename_i tag payload _ _ _
      cases tagged : ofTagged tag payload with
      | error cause => simp [tagged, Except.map] at translated
      | ok event =>
        rw [tagged] at translated
        obtain rfl := Except.ok.inj translated
        exact level_ne_config event
  · cases translated

theorem newline_not_mem_displayText_iff {raws : List RawRecord} {e : LogEntry}
    (member : e ∈ translateAll raws) : '\n' ∉ e.displayText.toList ↔ e.IsOneLine := by
  obtain ⟨raw, -, translated⟩ := List.mem_filterMap.mp member
  have shown : e.level ≠ .config := by
    cases result : translate raw with
    | error cause => simp [result, Except.toOption] at translated
    | ok e' =>
      rw [result] at translated
      obtain rfl := Option.some.inj translated
      exact level_of_translate result
  simp [LogEntry.displayText, shown, LogEntry.IsOneLine, String.toList_append]

end Event

namespace Report

/-! ## Rows -/

/-- The line of a peer shows all of its row but the blanks at the end, which begin behind the NAT
class if the version is blank. -/
theorem newline_mem_line_iff {p : Peer} {ws : List Nat} (full : ws.length = headers.length)
    (figures : '\n' ∉ p.virtualIp.toList ∧ '\n' ∉ p.latency.toList ∧ '\n' ∉ p.traffic.toList) :
    '\n' ∈ (line ws (cells p)).toList ↔
      '\n' ∈ p.hostname.toList ∨ '\n' ∈ p.connection.toList ∨ '\n' ∈ trimEnd p.version.toList := by
  obtain ⟨others, last, label, solid⟩ := p.natClass.exists_last
  have classFresh := p.natClass.newline_not_mem_label
  rw [label] at classFresh
  match ws, full with
  | [a, b, c, d, e, f, g], rfl =>
    have text : padded [a, b, c, d, e, f, g] (cells p) =
        (padded [a, b, c, d, e] [p.hostname, p.virtualIp, p.connection, p.latency, p.traffic] ++
          ([' ', ' '] ++ others)) ++ last ::
          ((List.replicate (f - p.natClass.label.length) ' ' ++ [' ', ' ']) ++
            (p.version.toList ++ List.replicate (g - p.version.length) ' ')) := by
      simp [padded, cells, joinWith, toList_pad, label, String.toList_append]
    have blank : ∀ c ∈ List.replicate (g - p.version.length) ' ', isBlank c := by
      intro c member
      rw [List.eq_of_mem_replicate member]
      rfl
    rw [toList_line, text, Text.trimEnd_append_cons solid, List.mem_append, List.mem_cons,
      Text.mem_trimEnd_append_iff (by simp), Text.trimEnd_append_of_blank blank, List.mem_append,
      newline_mem_padded_iff rfl]
    simp at classFresh
    simp [figures, classFresh, or_assoc]

/-! ## Lines -/

/-- The lines of a node. -/
def nodeLines (n : Node) : List String :=
  ["Hostname:    " ++ n.hostname, "Version:     " ++ n.version,
    "Virtual IP:  " ++ n.virtualAddressLabel, "Public IP:   " ++ n.publicAddressesLabel,
    "NAT type:    " ++ n.natClass.label,
    "Listeners:   " ++ if n.listeners = [] then "-" else joinWith ", " n.listeners]

/-- The lines of a table, also of one without peers. -/
def peerLines (peers : List Peer) : List String :=
  if peers = [] then ["No peers"] else tableLines peers

def eventLines (s : Snapshot) : List String :=
  (Event.translateAll s.records).map LogEntry.displayText

/-- The lines that a report is meant to have. -/
def reportLines (s : Snapshot) : List String :=
  nodeLines s.node ++ "" :: (peerLines s.peers ++
    if eventLines s = [] then [] else "" :: eventLines s)

theorem peerLines_ne_nil (peers : List Peer) : peerLines peers ≠ [] := by
  rw [peerLines]
  split <;> simp [tableLines]

theorem length_peerLines (peers : List Peer) :
    (peerLines peers).length = if peers = [] then 1 else peers.length + 1 := by
  rw [peerLines]
  split <;> simp [tableLines]

theorem peerTable_eq (peers : List Peer) : peerTable peers = joinLines (peerLines peers) := by
  rw [peerLines]
  split
  · rename_i none
    subst none
    rfl
  · rename_i filled
    exact peerTable_of_ne_nil filled

/-- Parts with an empty line between them. -/
theorem joinLines_append_blank {front back : List String} (some : front ≠ []) (more : back ≠ []) :
    joinLines (front ++ "" :: back) = joinLines front ++ "\n\n" ++ joinLines back := by
  have gap : "\n" ++ "\n" = "\n\n" := by decide
  rw [joinLines, Text.joinWith_append _ some (List.cons_ne_nil _ _), Text.joinWith_cons _ _ more,
    ← gap]
  simp only [joinLines, String.append_assoc, String.empty_append]

theorem inspect_eq (s : Snapshot) : inspect s = joinLines (reportLines s) := by
  have node : nodeLines s.node ≠ [] := List.cons_ne_nil _ _
  have table := peerLines_ne_nil s.peers
  rw [inspect, withTable, reportLines, peerTable_eq]
  change joinWith "\n\n" ([joinLines (nodeLines s.node), joinLines (peerLines s.peers)] ++
    if eventLines s = [] then [] else [joinLines (eventLines s)]) = _
  split
  · rw [List.append_nil, List.append_nil, joinLines_append_blank node table]
    rfl
  · rename_i events
    rw [joinLines_append_blank node (by simp), joinLines_append_blank table events]
    simp [joinWith, String.append_assoc]

/-! ## Line breaks -/

/-- What a report takes over as it is stays on one line. Blanks at the end of a version are cut
off. -/
structure IsUnbroken (s : Snapshot) : Prop where
  node : ∀ t ∈ s.node.hostname :: s.node.version :: (s.node.publicAddresses ++ s.node.listeners),
    '\n' ∉ t.toList
  peers : ∀ p ∈ s.peers, '\n' ∉ p.hostname.toList ∧ '\n' ∉ p.connection.toList ∧
    '\n' ∉ trimEnd p.version.toList
  events : ∀ e ∈ Event.translateAll s.records, e.IsOneLine

theorem nodeLines_unbroken_iff (n : Node) : (∀ l ∈ nodeLines n, '\n' ∉ l.toList) ↔
    ∀ t ∈ n.hostname :: n.version :: (n.publicAddresses ++ n.listeners), '\n' ∉ t.toList := by
  have publicAddresses : '\n' ∉ n.publicAddressesLabel.toList ↔
      ∀ t ∈ n.publicAddresses, '\n' ∉ t.toList := by
    rw [Node.publicAddressesLabel]
    split
    · rename_i none
      simp [none]
    · rw [Text.mem_joinWith_iff (by decide)]
      simp
  have listeners : '\n' ∉ (if n.listeners = [] then "-" else joinWith ", " n.listeners).toList ↔
      ∀ t ∈ n.listeners, '\n' ∉ t.toList := by
    split
    · rename_i none
      simp [none]
    · rw [Text.mem_joinWith_iff (by decide)]
      simp
  simp only [nodeLines, List.forall_mem_cons, String.toList_append, List.mem_append, not_or,
    publicAddresses, listeners, n.newline_not_mem_virtualAddressLabel,
    n.natClass.newline_not_mem_label]
  simp [or_imp, forall_and]

theorem peerLines_unbroken_iff (s : Snapshot) : (∀ l ∈ peerLines s.peers, '\n' ∉ l.toList) ↔
    ∀ p ∈ s.peers, '\n' ∉ p.hostname.toList ∧ '\n' ∉ p.connection.toList ∧
      '\n' ∉ trimEnd p.version.toList := by
  rw [peerLines]
  split
  · rename_i none
    simp [none]
  · have full := (areWidths_cells s.peers).length
    have header : '\n' ∉ (line (widths (s.peers.map cells)) headers).toList :=
      newline_not_mem_line full (by decide)
    rw [tableLines, List.forall_mem_map, List.forall_mem_cons, List.forall_mem_map,
      and_iff_right header]
    refine forall₂_congr fun p member => ?_
    rw [newline_mem_line_iff full (Topology.newline_not_mem_figures member), not_or, not_or]

theorem eventLines_unbroken_iff (s : Snapshot) : (∀ l ∈ eventLines s, '\n' ∉ l.toList) ↔
    ∀ e ∈ Event.translateAll s.records, e.IsOneLine := by
  rw [eventLines, List.forall_mem_map]
  exact forall₂_congr fun e member => Event.newline_not_mem_displayText_iff member

theorem reportLines_unbroken_iff (s : Snapshot) :
    (∀ l ∈ reportLines s, '\n' ∉ l.toList) ↔ IsUnbroken s := by
  have events : (∀ l ∈ if eventLines s = [] then [] else "" :: eventLines s, '\n' ∉ l.toList) ↔
      ∀ l ∈ eventLines s, '\n' ∉ l.toList := by
    split
    · rename_i none
      simp [none]
    · simp
  rw [reportLines, List.forall_mem_append, List.forall_mem_cons, List.forall_mem_append,
    nodeLines_unbroken_iff, peerLines_unbroken_iff, events, eventLines_unbroken_iff]
  constructor
  · rintro ⟨node, -, peers, events⟩
    exact ⟨node, peers, events⟩
  · rintro ⟨node, peers, events⟩
    exact ⟨node, by decide, peers, events⟩

/-! ## Structure -/

/-- Six lines of a node, the lines of a table and one line for each event that can be translated,
with an empty line between these parts. -/
def HasStructure (s : Snapshot) (lines : List (List Char)) : Prop :=
  ∃ node table events : List (List Char),
    lines = node ++ [] :: (table ++ if events = [] then [] else [] :: events) ∧
    node.length = 6 ∧
    (if s.peers = [] then table = ["No peers".toList] else table.length = s.peers.length + 1) ∧
    events.length = (Event.translateAll s.records).length

/-- Each line break of a text makes one more line of it. -/
theorem length_splitOn_joinLines {parts : List String} (some : parts ≠ []) :
    (splitOn '\n' (joinLines parts).toList).length =
      parts.length + (parts.map fun s => s.toList.count '\n').sum := by
  rw [Text.length_splitOn]
  induction parts with
  | nil => exact absurd rfl some
  | cons s rest ih =>
    by_cases last : rest = []
    · subst last
      simp [joinLines, joinWith]
      omega
    · have ih := ih last
      rw [joinLines] at ih
      rw [joinLines, Text.joinWith_cons _ _ last]
      simp [String.toList_append]
      omega

theorem length_of_hasStructure {s : Snapshot} {lines : List (List Char)}
    (structured : HasStructure s lines) : lines.length = (reportLines s).length := by
  obtain ⟨node, table, events, rfl, six, rows, shown⟩ := structured
  have tableLength : table.length = (peerLines s.peers).length := by
    rw [length_peerLines]
    split at rows
    · rename_i none
      rw [if_pos none, rows, List.length_singleton]
    · rename_i filled
      rw [if_neg filled, rows]
  have eventsLength : events.length = (eventLines s).length := by
    rw [shown, eventLines, List.length_map]
  have none : events = [] ↔ eventLines s = [] := by
    rw [← List.length_eq_zero_iff, eventsLength, List.length_eq_zero_iff]
  have nodeLength : node.length = (nodeLines s.node).length := six
  rw [reportLines]
  simp only [List.length_append, List.length_cons, nodeLength, tableLength, none]
  split <;> simp [eventsLength]

/-- A report has its structure exactly if none of its lines is read as several. -/
theorem hasStructure_iff (s : Snapshot) :
    HasStructure s (splitOn '\n' (joinLines (reportLines s)).toList) ↔
      ∀ l ∈ reportLines s, '\n' ∉ l.toList := by
  have some : reportLines s ≠ [] := List.cons_ne_nil _ _
  constructor
  · intro structured
    have length := length_of_hasStructure structured
    rw [length_splitOn_joinLines some, Nat.add_eq_left, List.sum_eq_zero_iff_forall_eq_nat]
      at length
    intro l member
    exact List.count_eq_zero.mp (length _ (List.mem_map_of_mem member))
  · intro unbroken
    refine ⟨(nodeLines s.node).map String.toList, (peerLines s.peers).map String.toList,
      (eventLines s).map String.toList, ?_, rfl, ?_, ?_⟩
    · rw [Text.splitOn_joinLines some unbroken, reportLines]
      simp only [List.map_eq_nil_iff]
      split <;> simp
    · have length := length_peerLines s.peers
      split
      · rename_i none
        rw [peerLines, if_pos none]
        rfl
      · rename_i filled
        rw [List.length_map, length, if_neg filled]
    · rw [List.length_map, eventLines, List.length_map]

/-- A report whose table can be laid out is made, and it has six lines of the node, one of the
headers and one for each peer, and one for each event, exactly if no text that it takes over has
a line break. Then its lines are those of the node, the peers and the events. -/
theorem report_structured_iff {s : Snapshot}
    (narrow : ∀ p ∈ s.peers, ∀ cell ∈ cells p, cell.length ≤ columnLimit) :
    ∃ report, inspect? s = some report ∧
      (HasStructure s (splitOn '\n' report.toList) ↔ IsUnbroken s) ∧
      (IsUnbroken s → splitOn '\n' report.toList = (reportLines s).map String.toList) := by
  have table := table?_eq_some_iff.mpr ⟨narrow, rfl⟩
  refine ⟨inspect s, ?_, ?_, ?_⟩
  · rw [inspect?, table]
    rfl
  · rw [inspect_eq, hasStructure_iff, reportLines_unbroken_iff]
  · intro unbroken
    rw [inspect_eq]
    exact Text.splitOn_joinLines (List.cons_ne_nil _ _) ((reportLines_unbroken_iff s).mpr unbroken)

def nearRoute : Route := ⟨3, "node-a", some ⟨177246211⟩, 3, 10, 1, "2.3.0", .fullCone, "x"⟩

/-- A node behind the one above, whose version ends in a line break. -/
def farRoute : Route := ⟨7, "node-b", none, 3, 25, 2, "2.3.0\n", .other 42, "y"⟩

def nearLink : Link := ⟨3, "tcp://198.51.100.3:11010", 8000, 1536, 0⟩

/-- Two peers and two records of which one cannot be translated. -/
def twoPeers : Snapshot :=
  ⟨⟨"self-node", "2.3.0", none, ["203.0.113.9"], .symmetric, [], []⟩, .ofList [nearRoute, farRoute],
    .ofList [nearLink], [Program.listenerRecord "tcp://a", "garbage"]⟩

theorem mem_peers_twoPeers {p : Peer} : p ∈ twoPeers.peers ↔ p ∈
    [Topology.directPeer nearRoute nearLink, Topology.relayedPeer farRoute (some "node-a")] := by
  have near : Topology.peer (.ofList [nearRoute, farRoute]) (.ofList [nearLink]) nearRoute =
      Topology.directPeer nearRoute nearLink := by
    simp [Topology.peer, Table.get?_ofList, nearRoute, nearLink]
  have far : Topology.peer (.ofList [nearRoute, farRoute]) (.ofList [nearLink]) farRoute =
      Topology.relayedPeer farRoute (some "node-a") := by
    simp [Topology.peer, RouteTable.hostname?, Table.get?_ofList, nearRoute, farRoute, nearLink]
  have rows : Table.firsts Route.peerId [nearRoute, farRoute] = [nearRoute, farRoute] := by
    decide
  rw [Snapshot.peers, twoPeers, Snapshot.resolve_ofList, List.mem_mergeSort, Snapshot.unsorted,
    rows, List.map_cons, List.map_singleton, near, far]

theorem report_structured_iff_twoPeers :
    (∀ p ∈ twoPeers.peers, ∀ cell ∈ cells p, cell.length ≤ columnLimit) ∧
    IsUnbroken twoPeers ∧
    ∃ report, inspect? twoPeers = some report ∧
      HasStructure twoPeers (splitOn '\n' report.toList) := by
  have narrow : ∀ p ∈ twoPeers.peers, ∀ cell ∈ cells p, cell.length ≤ columnLimit := by
    simp only [mem_peers_twoPeers]
    decide +kernel
  have unbroken : IsUnbroken twoPeers := by
    refine ⟨by decide +kernel, ?_, by decide +kernel⟩
    simp only [mem_peers_twoPeers]
    decide +kernel
  obtain ⟨report, made, structured, -⟩ := report_structured_iff narrow
  exact ⟨narrow, unbroken, report, made, structured.mpr unbroken⟩

/-- A node whose name goes on with an empty line and a table without peers. -/
def forgedText : String :=
  "\x7b\"map\":\x7b\"mesh-a\":\x7b\"my_node_info\":" ++
  "[\"self\\n\\nNo peers\",\"2\",null,[[]],[[],0],[]]," ++
  "\"routes\":[],\"peers\":[],\"events\":[]\x7d\x7d\x7d"

/-- The name of the node makes ten lines of a report that is meant to have eight. -/
theorem report_forged_by_hostname : ∃ s report, Snapshot.decode forgedText "mesh-a" = .ok s ∧
    inspect? s = some report ∧ ¬ HasStructure s (splitOn '\n' report.toList) := by
  have lengths : (Snapshot.decode forgedText "mesh-a").toOption.map (fun s =>
      ((inspect? s).map fun report => (splitOn '\n' report.toList).length,
        (reportLines s).length)) = some (some 10, 8) := by
    decide +kernel
  obtain ⟨s, decoded, lengths⟩ := exists_of_toOption_map lengths
  obtain ⟨read, meant⟩ := Prod.mk.inj lengths
  obtain ⟨report, made, read⟩ := Option.map_eq_some_iff.mp read
  refine ⟨s, report, decoded, made, ?_⟩
  intro structured
  have same := length_of_hasStructure structured
  rw [read, meant] at same
  cases same

end Report

end MeshWatch
