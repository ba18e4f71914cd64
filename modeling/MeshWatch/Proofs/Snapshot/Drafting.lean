import MeshWatch.Proofs.Data.Arrangement
import MeshWatch.Proofs.Snapshot.Reading
import MeshWatch.Proofs.Topology.Table
import MeshWatch.Snapshot.Draft

/-!
# Drafts are decoded as what they describe

A draft writes the members of each record in the order of their names, the decoder reads them in
the order of its fields and passes over those it does not know. What a draft leaves out comes back
as what the decoder falls back on. So each draft's text is decoded, into the tables of the routes
and links that it names.
-/
namespace MeshWatch.Snapshot

open Data (Fields Reader IsArranged)
open Data.Fields (gives_required gives_defaulted gives_optional)
open Saved (write read_write)

variable {room : Nat}

/-! ## What a draft describes -/

/-- The address in the low 32 bits of a number. -/
def lowAddress (a : Int64) : Ipv4 := ⟨.ofNat (a.toInt % 4294967296).toNat⟩

theorem ofPacked_eq (a : Int64) : Ipv4.ofPacked a = lowAddress a := by
  have packed : a.toInt =
      if 2 * a.toUInt64.toNat < 18446744073709551616 then (a.toUInt64.toNat : Int)
      else a.toUInt64.toNat - 18446744073709551616 := BitVec.toInt_eq_toNat_cond _
  have bound := a.toUInt64.toNat_lt
  have low : (a.toInt % 4294967296).toNat = a.toUInt64.toNat % 4294967296 := by
    rw [packed]
    split <;> omega
  rw [Ipv4.ofPacked, lowAddress, low, ← UInt64.toNat_toUInt32, UInt32.ofNat_toNat]

def RouteDraft.route (r : RouteDraft) : Route where
  peerId := r.peerId
  hostname := r.hostname
  virtualIp := r.address.map lowAddress
  nextHop := r.nextHop
  pathLatency := r.pathLatency
  cost := r.cost
  version := engineVersion
  natClass := .ofCode (r.natCode.getD 0)
  instanceId := "inst-" ++ toString r.peerId.toNat

def ConnectionDraft.link (c : ConnectionDraft) : Link where
  peerId := c.peerId
  remoteAddress := c.url
  latency := c.latency
  received := 2048
  sent := 1024

namespace Draft

def node (d : Draft) : Node where
  hostname := d.hostname
  version := engineVersion
  virtualAddress := d.address.map fun (a, length) => ⟨lowAddress a, length⟩
  publicAddresses := d.publicAddresses
  natClass := .ofCode d.natCode
  listeners := d.listeners
  interfaceAddresses := d.interfaces.map lowAddress

/-- The first connection of each peer that has one. -/
def links (d : Draft) : List Link :=
  d.peers.filterMap fun connections => connections.head?.map ConnectionDraft.link

end Draft

/-! ## Records and their fields -/

theorem readAddress_packed (a : Int64) : readAddress (Draft.packed a) = .ok (lowAddress a) := by
  have gives := (gives_required "addr" (read_write a)).map Ipv4.ofPacked
  rw [← ofPacked_eq]
  exact Reader.record_present gives (List.Subset.refl _) (List.nodup_singleton _) _ _

theorem readNetwork_record (a : Int64) (length : UInt8) :
    readNetwork (.record [("address", Draft.packed a), ("network_length", write length)]) =
      .ok ⟨lowAddress a, length⟩ := by
  have gives := ((gives_required "address" (readAddress_packed a)).map VirtualAddress.mk).seq
    (gives_required "network_length" (read_write length))
  have distinct : ["address", "network_length"].Nodup := by decide
  exact Reader.record_present gives (List.Subset.refl _) distinct _ _

/-- An address in a network that a draft may leave out. -/
theorem gives_network {α : Type} (name : String) (o : Option α) (number : α → Int64)
    (length : α → UInt8) :
    (Fields.defaulted name readNetwork.option none).Gives
      [(name, o.map fun x =>
        .record [("address", Draft.packed (number x)), ("network_length", write (length x))])]
      (o.map fun x => ⟨lowAddress (number x), length x⟩) :=
  gives_optional (fun x => readNetwork_record (number x) (length x)) (by intro x; nofun) name o

theorem readUrl_record (url : String) : readUrl (.record [("url", .text url)]) = .ok url := by
  have gives := (gives_required "url" (read_write url)).map id
  exact Reader.record_present gives (List.Subset.refl _) (List.nodup_singleton _) _ _

theorem readTexts (items : List String) :
    Reader.list Reader.text (Data.texts items) = .ok items := by
  have read : Reader.list Reader.text (.list (items.map .text)) = .ok (items.map id) :=
    Reader.list_map (by intro s; rfl) items
  rwa [List.map_id] at read

theorem readOutside_record (addresses : List String) (code : Int64) :
    readOutside (.record [("public_ip", Data.texts addresses), ("udp_nat_type", write code)]) =
      .ok ⟨addresses, code⟩ := by
  have gives := (gives_defaulted "public_ip" [] (readTexts addresses)).map Outside.mk
    |>.seq (gives_defaulted "udp_nat_type" 0 (read_write code))
  have distinct : ["public_ip", "udp_nat_type"].Nodup := by decide
  exact Reader.record_present gives (List.Subset.refl _) distinct _ _

theorem readInterfaces_record (interfaces : List Int64) :
    readInterfaces (.record [("interface_ipv4s", .list (interfaces.map Draft.packed))]) =
      .ok (interfaces.map lowAddress) := by
  have gives := gives_defaulted "interface_ipv4s" [] (Reader.list_map readAddress_packed interfaces)
  exact Reader.record_present (gives.map id) (List.Subset.refl _) (List.nodup_singleton _) _ _

theorem readNode_data (d : Draft) : readNode d.nodeData = .ok d.node := by
  have gives := (gives_required "hostname" (read_write d.hostname)).map nodeOf
    |>.seq (gives_required "version" (read_write engineVersion))
    |>.seq (gives_network "virtual_ipv4" d.address Prod.fst Prod.snd)
    |>.seq (gives_required "ips" (readInterfaces_record d.interfaces))
    |>.seq (gives_required "stun_info" (readOutside_record d.publicAddresses d.natCode))
    |>.seq (gives_defaulted "listeners" [] (Reader.list_map readUrl_record d.listeners))
  have distinct : ["hostname", "ips", "listeners", "stun_info", "version", "virtual_ipv4"].Nodup :=
    by decide
  rw [List.map_id'] at gives
  refine Reader.record_present gives ?_ ?_ _ _
  · simp [Saved.write]
  · exact distinct

theorem readRoute_data (r : RouteDraft) : readRoute r.data = .ok r.route := by
  have outside : (Fields.defaulted "stun_info" readOutside.option none).Gives
      [("stun_info", r.natCode.map fun code =>
        .record [("public_ip", .list []), ("udp_nat_type", write code)])]
      (r.natCode.map fun code => ⟨[], code⟩) :=
    gives_optional (readOutside_record []) (by intro code; nofun) _ _
  have gives := (gives_required "peer_id" (read_write r.peerId)).map routeOf
    |>.seq (gives_required "hostname" (read_write r.hostname))
    |>.seq (gives_network "ipv4_addr" r.address id fun _ => 24)
    |>.seq (gives_required "next_hop_peer_id" (read_write r.nextHop))
    |>.seq (gives_required "path_latency" (read_write r.pathLatency))
    |>.seq (gives_required "cost" (read_write r.cost))
    |>.seq (gives_required "version" (read_write engineVersion))
    |>.seq outside
    |>.seq (gives_required "inst_id" (read_write ("inst-" ++ toString r.peerId.toNat)))
  have distinct : ["cost", "hostname", "inst_id", "ipv4_addr", "next_hop_peer_id", "path_latency",
      "peer_id", "stun_info", "version"].Nodup := by decide
  -- A draft keeps the code of a NAT only; a route that is read takes it from what lies outside.
  have described : r.route = routeOf r.peerId r.hostname
      (r.address.map fun a => ⟨lowAddress a, 24⟩) r.nextHop r.pathLatency r.cost engineVersion
      (r.natCode.map fun code => ⟨[], code⟩) ("inst-" ++ toString r.peerId.toNat) := by
    have coded : (r.natCode.map fun code => Outside.mk [] code).map (·.natCode) = r.natCode := by
      rw [Option.map_map]
      exact Option.map_id_apply
    rw [routeOf, coded, Option.map_map]
    rfl
  rw [described]
  refine Reader.record_present gives ?_ ?_ _ _
  · simp [Saved.write, Draft.packed]
  · exact distinct

theorem readTunnel_record (url scheme : String) :
    readTunnel (.record [("remote_addr", .record [("url", .text url)]),
      ("tunnel_type", .text scheme)]) = .ok url := by
  have gives := (gives_required "remote_addr" (readUrl_record url)).map id
  have distinct : ["remote_addr", "tunnel_type"].Nodup := by decide
  refine Reader.record_written gives ?_ ?_ _ _
  · simp [Data.written]
  · exact distinct

theorem readStatistics_record (latency received sent : UInt64) :
    readStatistics (.record [("latency_us", write latency), ("rx_bytes", write received),
      ("tx_bytes", write sent)]) = .ok (latency, received, sent) := by
  have gives :=
    ((gives_required "latency_us" (read_write latency)).map
      fun latency received sent => (latency, received, sent))
    |>.seq (gives_required "rx_bytes" (read_write received))
    |>.seq (gives_required "tx_bytes" (read_write sent))
  have distinct : ["latency_us", "rx_bytes", "tx_bytes"].Nodup := by decide
  exact Reader.record_present gives (List.Subset.refl _) distinct _ _

theorem readConnection_data (c : ConnectionDraft) : readConnection c.data = .ok c.link := by
  have gives := (gives_required "peer_id" (read_write c.peerId)).map linkOf
    |>.seq (gives_required "tunnel"
      (readTunnel_record c.url (String.ofList (schemeChars c.url.toList))))
    |>.seq (gives_required "stats" (readStatistics_record c.latency 2048 1024))
  have distinct : ["peer_id", "stats", "tunnel"].Nodup := by decide
  refine Reader.record_written gives ?_ ?_ _ _
  · simp [Data.written, ConnectionDraft.received, ConnectionDraft.sent]
  · exact distinct

/-- Connections are passed on as they are. -/
theorem readPeer_record (connections : List ConnectionDraft) :
    readPeer (.record [("conns", .list (connections.map ConnectionDraft.data))]) =
      .ok (connections.map ConnectionDraft.data) := by
  have passed : Reader.list .ok (.list (connections.map ConnectionDraft.data)) =
      .ok (connections.map ConnectionDraft.data) :=
    Reader.list_map (by intro c; rfl) connections
  have gives := gives_defaulted "conns" [] passed
  exact Reader.record_present (gives.map id) (List.Subset.refl _) (List.nodup_singleton _) _ _

theorem firstLinks_data (peers : List (List ConnectionDraft)) :
    firstLinks (peers.map fun connections => connections.map ConnectionDraft.data) =
      .ok (peers.filterMap fun connections => connections.head?.map ConnectionDraft.link) := by
  induction peers with
  | nil => rfl
  | cons connections peers ih =>
    cases connections with
    | nil => exact ih
    | cons first others =>
      simp only [List.map_cons, firstLinks, readConnection_data, ih]
      rfl

theorem readSection_of_member {α : Type} {report : List (String × Data)} {part : Section}
    {d : Data} {read : Reader α} {a : α} (found : Data.member? part.name report = some d)
    (given : read d = .ok a) : readSection report part read = .ok a := by
  rw [readSection, found]
  simp only [given]

/-! ## The arrangement of a draft -/

theorem arranged_packed (a : Int64) : (Draft.packed a).IsArranged (room + 1) := by
  refine .record (List.pairwise_singleton _ _) ?_
  exact List.forall_mem_singleton.mpr (IsArranged.number (LawfulSaved.restores a).plain)

theorem arranged_network (a : Int64) (length : UInt8) :
    (Data.record [("address", Draft.packed a), ("network_length", write length)]).IsArranged
      (room + 2) := by
  have inOrder : ["address", "network_length"].Pairwise (· < ·) := by decide
  refine .record inOrder ?_
  simp only [List.forall_mem_cons]
  exact ⟨arranged_packed a, IsArranged.number (LawfulSaved.restores length).plain, nofun⟩

theorem arranged_url (url : String) : (Data.record [("url", .text url)]).IsArranged (room + 1) :=
  .record (List.pairwise_singleton _ _) (List.forall_mem_singleton.mpr (.text url))

theorem arranged_outside (addresses : List String) (code : Int64) :
    (Data.record [("public_ip", Data.texts addresses), ("udp_nat_type", write code)]).IsArranged
      (room + 2) := by
  have inOrder : ["public_ip", "udp_nat_type"].Pairwise (· < ·) := by decide
  refine .record inOrder ?_
  simp only [List.forall_mem_cons]
  exact ⟨.texts addresses, IsArranged.number (LawfulSaved.restores code).plain, nofun⟩

theorem arranged_route (r : RouteDraft) : r.data.IsArranged (room + 3) := by
  have inOrder : ["cost", "hostname", "inst_id", "ipv4_addr", "next_hop_peer_id", "path_latency",
      "peer_id", "stun_info", "version"].Pairwise (· < ·) := by decide
  refine .present inOrder ?_
  simp only [List.forall_mem_cons]
  exact ⟨IsArranged.number (LawfulSaved.restores r.cost).plain, .text _, .text _,
    IsArranged.optional (fun a => arranged_network a 24) r.address,
    IsArranged.number (LawfulSaved.restores r.nextHop).plain,
    IsArranged.number (LawfulSaved.restores r.pathLatency).plain,
    IsArranged.number (LawfulSaved.restores r.peerId).plain,
    IsArranged.optional (arranged_outside []) r.natCode,
    .text _, nofun⟩

theorem arranged_node (d : Draft) : d.nodeData.IsArranged (room + 4) := by
  have inOrder : ["hostname", "ips", "listeners", "stun_info", "version",
      "virtual_ipv4"].Pairwise (· < ·) := by decide
  have interfaces : (Data.record [("interface_ipv4s",
      .list (d.interfaces.map Draft.packed))]).IsArranged (room + 3) :=
    .record (List.pairwise_singleton _ _)
      (List.forall_mem_singleton.mpr (IsArranged.listOf arranged_packed d.interfaces))
  refine .present inOrder ?_
  simp only [List.forall_mem_cons]
  exact ⟨.text _, interfaces, IsArranged.listOf arranged_url d.listeners,
    arranged_outside d.publicAddresses d.natCode, .text _,
    IsArranged.optional (fun (a, length) => arranged_network a length) d.address, nofun⟩

theorem arranged_connection (c : ConnectionDraft) : c.data.IsArranged (room + 3) := by
  have inOrder : ["peer_id", "stats", "tunnel"].Pairwise (· < ·) := by decide
  have statisticsInOrder : ["latency_us", "rx_bytes", "tx_bytes"].Pairwise (· < ·) := by decide
  have tunnelInOrder : ["remote_addr", "tunnel_type"].Pairwise (· < ·) := by decide
  refine .record inOrder ?_
  simp only [List.forall_mem_cons]
  refine ⟨IsArranged.number (LawfulSaved.restores c.peerId).plain, .record statisticsInOrder ?_,
    .record tunnelInOrder ?_, nofun⟩
  · simp only [List.forall_mem_cons]
    exact ⟨IsArranged.number (LawfulSaved.restores c.latency).plain,
      IsArranged.number (LawfulSaved.restores ConnectionDraft.received).plain,
      IsArranged.number (LawfulSaved.restores ConnectionDraft.sent).plain, nofun⟩
  · simp only [List.forall_mem_cons]
    exact ⟨arranged_url c.url, .text _, nofun⟩

theorem arranged_peer (connections : List ConnectionDraft) :
    (Data.record [("conns", .list (connections.map ConnectionDraft.data))]).IsArranged
      (room + 5) :=
  .record (List.pairwise_singleton _ _)
    (List.forall_mem_singleton.mpr (IsArranged.listOf arranged_connection connections))

namespace Draft

variable (d : Draft)

/-- What a draft writes of its instance. -/
def report : List (String × Data) :=
  [("events", Data.texts d.records), ("my_node_info", d.nodeData),
    ("peers", .list (d.peers.map fun connections =>
      .record [("conns", .list (connections.map ConnectionDraft.data))])),
    ("routes", .list (d.routes.map RouteDraft.data))]

theorem arranged_data : d.data.IsArranged (room + 9) := by
  have inOrder : ["events", "my_node_info", "peers", "routes"].Pairwise (· < ·) := by decide
  have arranged : (Data.record d.report).IsArranged (room + 7) := by
    refine .record inOrder ?_
    simp only [report, List.forall_mem_cons]
    exact ⟨.texts d.records, arranged_node d, IsArranged.listOf arranged_peer d.peers,
      IsArranged.listOf arranged_route d.routes, nofun⟩
  refine .record (List.pairwise_singleton _ _) (List.forall_mem_singleton.mpr ?_)
  exact .record (List.pairwise_singleton _ _) (List.forall_mem_singleton.mpr arranged)

/-! ## Decoding -/

theorem report_text : Snapshot.report d.text d.instanceName = .ok d.report := by
  have value : Json.value? d.text = some d.data := d.arranged_data.json_value?
  have found : Data.member? d.instanceName [(d.instanceName, .record d.report)] =
      some (.record d.report) := if_pos rfl
  rw [Snapshot.report, value]
  change instance? (.record [("map", .record [(d.instanceName, .record d.report)])]) _ = _
  simp only [instance?, Data.member?, if_true]

theorem sections_report : sections d.report = .ok ⟨d.node, d.routes.map RouteDraft.route,
    d.peers.map fun connections => connections.map ConnectionDraft.data, d.records⟩ := by
  have node : readSection d.report .node readNode = .ok d.node :=
    readSection_of_member rfl (readNode_data d)
  have routes : readSection d.report .routes (Reader.list readRoute) =
      .ok (d.routes.map RouteDraft.route) :=
    readSection_of_member rfl (Reader.list_map readRoute_data d.routes)
  have peers : readSection d.report .peers (Reader.list readPeer) =
      .ok (d.peers.map fun connections => connections.map ConnectionDraft.data) :=
    readSection_of_member rfl (Reader.list_map readPeer_record d.peers)
  have records : readSection d.report .records (Reader.list Reader.text) = .ok d.records :=
    readSection_of_member rfl (readTexts d.records)
  rw [sections, node, routes, peers, readRecords, records]
  rfl

/-- Every draft is decoded. The node is the one described; of the routes that are described, and
of the peers' first connections, the first of each peer makes up a table, in the order in which
they were put in, and is found under the peer's id; the records are in the order in which they
happened. -/
theorem decode_draft : ∃ s, decode d.text d.instanceName = .ok s ∧
    s.node = d.node ∧
    s.routes.toList = Table.firsts Route.peerId (d.routes.map RouteDraft.route) ∧
    s.links.toList = Table.firsts Link.peerId d.links ∧
    (∀ key, s.routes.get? key = (d.routes.map RouteDraft.route).find? (·.peerId = key)) ∧
    (∀ key, s.links.get? key = d.links.find? (·.peerId = key)) ∧
    s.records = d.records.reverse := by
  have linked := firstLinks_data d.peers
  refine ⟨⟨d.node, .ofList (d.routes.map RouteDraft.route), .ofList d.links, d.records.reverse⟩,
    ?_, rfl, Table.toList_ofList _, Table.toList_ofList _, Table.get?_ofList _,
    Table.get?_ofList _, rfl⟩
  rw [decode, d.report_text]
  change (sections d.report).bind ofSections = _
  rw [d.sections_report]
  exact ofSections_eq linked

end Draft

end MeshWatch.Snapshot
