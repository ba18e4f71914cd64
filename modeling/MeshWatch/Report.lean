import MeshWatch.Event.Translate
import MeshWatch.Snapshot.Decode

/-!
# Reports

The plain text of a snapshot: the node, the table of its peers, its events. Columns are as wide
as their widest cell, counted in characters, and two blanks apart.
-/
namespace MeshWatch.Report

def nodeSummary (n : Node) : String :=
  let listeners := if n.listeners = [] then "-" else Text.joinWith ", " n.listeners
  Text.joinLines
    ["Hostname:    " ++ n.hostname,
      "Version:     " ++ n.version,
      "Virtual IP:  " ++ n.virtualAddressLabel,
      "Public IP:   " ++ n.publicAddressesLabel,
      "NAT type:    " ++ n.natClass.label,
      "Listeners:   " ++ listeners]

def headers : List String :=
  ["HOSTNAME", "VIRTUAL IP", "ROUTE", "LATENCY", "TRAFFIC", "NAT", "VERSION"]

def cells (p : Peer) : List String :=
  [p.hostname, p.virtualIp, p.connection, p.latency, p.traffic, p.natClass.label, p.version]

/-- The widths of the columns of some rows. -/
def widths (rows : List (List String)) : List Nat :=
  rows.foldl (fun ws row => List.zipWith (fun w cell => max w cell.length) ws row)
    (headers.map String.length)

/-- The widest column that can be laid out. -/
def columnLimit : Nat := 65535

/-- Whether the table of some peers can be laid out. -/
def fits (peers : List Peer) : Bool := (widths (peers.map cells)).all (· ≤ columnLimit)

def pad (width : Nat) (cell : String) : String :=
  cell ++ String.ofList (List.replicate (width - cell.length) ' ')

/-- One line of a table; blanks at its end are cut off. -/
def line (ws : List Nat) (row : List String) : String :=
  Text.trimmedEnd (Text.joinWith "  " (List.zipWith pad ws row))

def peerTable (peers : List Peer) : String :=
  if peers = [] then "No peers"
  else
    let rows := peers.map cells
    Text.joinLines ((headers :: rows).map (line (widths rows)))

/-- The table of some peers, unless one of its columns is too wide. -/
def table? (peers : List Peer) : Option String :=
  if fits peers then some (peerTable peers) else none

/-- Node, table and events, with an empty line between them. -/
def withTable (s : Snapshot) (table : String) : String :=
  let events := (Event.translateAll s.records).map LogEntry.displayText
  Text.joinWith "\n\n"
    ([nodeSummary s.node, table] ++ if events = [] then [] else [Text.joinLines events])

def inspect (s : Snapshot) : String := withTable s (peerTable s.peers)

/-- The report, unless its table cannot be laid out. -/
def inspect? (s : Snapshot) : Option String := (table? s.peers).map (withTable s)

end MeshWatch.Report
