import MeshWatch.Proofs.Data.Respect
import MeshWatch.Proofs.Snapshot.Reading

/-!
# What a snapshot depends on

Of a document only the report of the instance is looked at, of a record in it only the members that
are read, and of a peer's connections only the first. Two documents whose reports are alike in that
sense give the same snapshot or the same error. A document without any map of instances and one
without the instance are told apart, though neither has a report.
-/
namespace MeshWatch.Snapshot

open Data (Likeness Mismatch Respects Reader last? member? HasValue HaveValues)
open Data.Fields (respects_required respects_defaulted)
open Data.Likeness (scalar items first record)

/-! ## What is looked at -/

def addressLikeness : Likeness := record [("addr", scalar)]

def networkLikeness : Likeness :=
  record [("address", addressLikeness), ("network_length", scalar)]

def urlLikeness : Likeness := record [("url", scalar)]

def outsideLikeness : Likeness :=
  record [("public_ip", items scalar), ("udp_nat_type", scalar)]

def interfacesLikeness : Likeness := record [("interface_ipv4s", items addressLikeness)]

def nodeLikeness : Likeness :=
  record [("hostname", scalar), ("version", scalar), ("virtual_ipv4", networkLikeness),
    ("ips", interfacesLikeness), ("stun_info", outsideLikeness), ("listeners", items urlLikeness)]

def routeLikeness : Likeness :=
  record [("peer_id", scalar), ("hostname", scalar), ("ipv4_addr", networkLikeness),
    ("next_hop_peer_id", scalar), ("path_latency", scalar), ("cost", scalar), ("version", scalar),
    ("stun_info", outsideLikeness), ("inst_id", scalar)]

def tunnelLikeness : Likeness := record [("remote_addr", urlLikeness)]

def statisticsLikeness : Likeness :=
  record [("latency_us", scalar), ("rx_bytes", scalar), ("tx_bytes", scalar)]

def connectionLikeness : Likeness :=
  record [("peer_id", scalar), ("tunnel", tunnelLikeness), ("stats", statisticsLikeness)]

def entryLikeness : Likeness := record [("conns", first connectionLikeness)]

def Section.likeness : Section → Likeness
  | .node => nodeLikeness
  | .routes => items routeLikeness
  | .peers => items entryLikeness
  | .records => items scalar

/-- The report of an instance. -/
def reportLikeness : Likeness :=
  record ([.node, .routes, .peers, .records].map fun part => (part.name, Section.likeness part))

/-! ## Readers -/

theorem respects_readAddress : Respects readAddress addressLikeness Eq := by
  have packed := respects_required "addr" .i64
  exact .record (packed.mapped _) (by decide) _ _

theorem respects_readNetwork : Respects readNetwork networkLikeness Eq := by
  have address := respects_required "address" respects_readAddress
  have length := respects_required "network_length" .u8
  exact .record ((address.mapped _).seq length) (by decide) _ _

theorem respects_readUrl : Respects readUrl urlLikeness Eq := by
  have url := respects_required "url" .text
  exact .record (url.mapped _) (by decide) _ _

theorem respects_readOutside : Respects readOutside outsideLikeness Eq := by
  have addresses := respects_defaulted "public_ip" [] (.list .text) rfl
  have natCode := respects_defaulted "udp_nat_type" 0 .i64 rfl
  exact .record ((addresses.mapped _).seq natCode) (by decide) _ _

theorem respects_readInterfaces : Respects readInterfaces interfacesLikeness Eq := by
  have interfaces := respects_defaulted "interface_ipv4s" [] (.list respects_readAddress) rfl
  exact .record (interfaces.mapped _) (by decide) _ _

theorem respects_readNode : Respects readNode nodeLikeness Eq := by
  have hostname := respects_required "hostname" .text
  have version := respects_required "version" .text
  have address := respects_defaulted "virtual_ipv4" none (.option respects_readNetwork) rfl
  have interfaces := respects_required "ips" respects_readInterfaces
  have outside := respects_required "stun_info" respects_readOutside
  have listeners := respects_defaulted "listeners" [] (.list respects_readUrl) rfl
  exact .record ((((((hostname.mapped _).seq version).seq address).seq interfaces).seq
    outside).seq listeners) (by decide) _ _

theorem respects_readRoute : Respects readRoute routeLikeness Eq := by
  have peerId := respects_required "peer_id" .u64
  have hostname := respects_required "hostname" .text
  have address := respects_defaulted "ipv4_addr" none (.option respects_readNetwork) rfl
  have nextHop := respects_required "next_hop_peer_id" .u64
  have latency := respects_required "path_latency" .u32
  have cost := respects_required "cost" .i32
  have version := respects_required "version" .text
  have outside := respects_defaulted "stun_info" none (.option respects_readOutside) rfl
  have instanceId := respects_required "inst_id" .text
  exact .record (((((((((peerId.mapped _).seq hostname).seq address).seq nextHop).seq latency).seq
    cost).seq version).seq outside).seq instanceId) (by decide) _ _

theorem respects_readConnection : Respects readConnection connectionLikeness Eq := by
  have remote := respects_required "remote_addr" respects_readUrl
  have tunnel : Respects readTunnel tunnelLikeness Eq :=
    .record (remote.mapped _) (by decide) _ _
  have latency := respects_required "latency_us" .u64
  have received := respects_required "rx_bytes" .u64
  have sent := respects_required "tx_bytes" .u64
  have statistics : Respects readStatistics statisticsLikeness Eq :=
    .record (((latency.mapped _).seq received).seq sent) (by decide) _ _
  have peerId := respects_required "peer_id" .u64
  have tunnels := respects_required "tunnel" tunnel
  have stats := respects_required "stats" statistics
  exact .record (((peerId.mapped _).seq tunnels).seq stats) (by decide) _ _

/-- Connections of which the first ones, if any, are alike. -/
def LedAlike (conns conns' : List Data) : Prop :=
  Option.Rel connectionLikeness.Valued conns.head? conns'.head?

theorem respects_readPeer : Respects readPeer entryLikeness LedAlike := by
  have conns := respects_defaulted "conns" [] (.firstOf connectionLikeness) .none
  exact .record (conns.map id fun _ _ same => same) (by decide) _ _

/-! ## Sections -/

/-- The same error, or mismatches in one section that are told in the same words. -/
inductive SameError : SnapshotError → SnapshotError → Prop
  | refl (e : SnapshotError) : SameError e e
  | malformed (part : Section) {c c' : Mismatch} (told : c.SaysSame c') :
    SameError (.malformed part c) (.malformed part c')

/-- A map that is not there and an instance that is not in it are different errors. -/
theorem missingMap_apart (name : String) :
    ¬ SameError .missingMap (.noInstance name) ∧ ¬ SameError (.noInstance name) .missingMap := by
  constructor <;> intro same <;> cases same

/-- Two reports whose sections are alike. -/
def AlikeReports (ms ms' : List (String × Data)) : Prop :=
  ∀ part : Section,
    Option.Rel part.likeness.Valued (member? part.name ms) (member? part.name ms')

/-- What is told of two reports that are alike. -/
structure Sections.Alike (s s' : Sections) : Prop where
  node : s.node = s'.node
  routes : s.routes = s'.routes
  peers : List.Forall₂ LedAlike s.peers s'.peers
  records : s.records = s'.records

section Reports

variable {ms ms' : List (String × Data)} {s s' : Sections}

theorem agree_readSection {α : Type} {R : α → α → Prop} {part : Section} {read : Reader α}
    (alike : AlikeReports ms ms') (respects : Respects read part.likeness R) :
    Agree SameError R (readSection ms part read) (readSection ms' part read) := by
  have here := alike part
  rw [readSection, readSection]
  generalize member? part.name ms = o, member? part.name ms' = o' at here ⊢
  cases here with
  | none => exact .error (.refl _)
  | @some v v' same =>
    have agree := respects v v' same
    simp only
    generalize read v = x, read v' = x' at agree ⊢
    cases agree with
    | ok same => exact .ok same
    | error told => exact .error (.malformed part told)

theorem agree_sections (alike : AlikeReports ms ms') :
    Agree SameError Sections.Alike (sections ms) (sections ms') := by
  refine (agree_readSection alike respects_readNode).bind ?_
  rintro node _ rfl
  refine (agree_readSection alike (.list respects_readRoute)).bind ?_
  rintro routes _ rfl
  refine (agree_readSection alike (.listOf respects_readPeer)).bind ?_
  intro peers peers' led
  refine (agree_readSection alike (.list .text)).bind ?_
  rintro records _ rfl
  exact .ok ⟨rfl, rfl, led, rfl⟩

theorem agree_firstLinks {entries entries' : List (List Data)}
    (led : List.Forall₂ LedAlike entries entries') :
    Agree Mismatch.SaysSame Eq (firstLinks entries) (firstLinks entries') := by
  induction led with
  | nil => exact .ok rfl
  | @cons conns conns' _ _ here _ ih =>
    cases conns with
    | nil =>
      cases conns' with
      | nil => exact ih
      | cons => cases here
    | cons v rest =>
      cases conns' with
      | nil => cases here
      | cons v' rest' =>
        cases here with
        | some same =>
          refine (respects_readConnection v v' same).bind ?_
          rintro link _ rfl
          refine ih.bind ?_
          rintro others _ rfl
          exact .ok rfl

theorem agree_ofSections (alike : s.Alike s') :
    Agree SameError Eq (ofSections s) (ofSections s') := by
  have links := agree_firstLinks alike.peers
  rw [ofSections, ofSections, alike.node, alike.routes, alike.records]
  generalize firstLinks s.peers = x, firstLinks s'.peers = x' at links ⊢
  cases links with
  | ok same =>
    subst same
    exact .ok rfl
  | error told => exact .error (.malformed .peers told)

end Reports

/-! ## Documents -/

/-- The instances of a document, if it has a map of them. -/
def instances? : Data → Option (List (String × Data))
  | .record members =>
    match last? "map" members with
    | some (.record instances) => some instances
    | _ => none
  | _ => none

/-- What a document has under the name of an instance. -/
def part? (document : Data) (name : String) : Option Data :=
  (instances? document).bind (last? name)

/-- What is told of an instance of which a document has no report. -/
def unreported (document : Data) (name : String) : SnapshotError :=
  match instances? document with
  | some _ => .noInstance name
  | none => .missingMap

section Documents

variable {t t' document document' : Data} {raw raw' ms ms' : List (String × Data)} {name : String}

theorem exists_of_rel_some {α β : Type} {R : α → β → Prop} {o : Option α} {b : β}
    (h : Option.Rel R o (some b)) : ∃ a, o = some a ∧ R a b := by
  cases h with
  | some same => exact ⟨_, rfl, same⟩

theorem instance?_without_map (value : HasValue t document) (without : instances? t = none)
    (name : String) : instance? document name = .error .missingMap := by
  unfold instance?
  split
  · split
    · rename_i found
      obtain ⟨members, rfl, values⟩ := value.of_record
      have last := values.lasts "map"
      rw [found] at last
      obtain ⟨d, known, value⟩ := exists_of_rel_some last
      obtain ⟨raw, rfl, -⟩ := value.of_record
      rw [instances?, known] at without
      cases without
    · rfl
  · rfl

/-- What is found under a name among the instances. -/
def reportIn (instances : List (String × Data)) (name : String) :
    Except SnapshotError (List (String × Data)) :=
  match member? name instances with
  | some (.record report) => .ok report
  | some _ => .error .instanceNotRecord
  | none => .error (.noInstance name)

theorem exists_instances (value : HasValue t document) (within : instances? t = some raw) :
    ∃ ms, HaveValues raw ms ∧ ∀ name, instance? document name = reportIn ms name := by
  cases t with
  | record members =>
    obtain ⟨tops, rfl, values⟩ := value.record
    have last := values.lasts "map"
    rw [instances?] at within
    split at within
    · rename_i known
      obtain rfl := Option.some.inj within
      rw [known] at last
      cases found : member? "map" tops with
      | none => cases found ▸ last
      | some v =>
        rw [found] at last
        cases last with
        | some value =>
          obtain ⟨ms, rfl, values⟩ := value.record
          refine ⟨ms, values, ?_⟩
          intro name
          simp only [instance?, found]
          rfl
    · cases within
  | _ => cases within

theorem agree_reportIn (values : HaveValues raw ms) (values' : HaveValues raw' ms')
    (alike : Option.Rel reportLikeness.Alike (last? name raw) (last? name raw')) :
    Agree SameError AlikeReports (reportIn ms name) (reportIn ms' name) := by
  have valued := Data.Likeness.rel_valued alike (values.lasts name) (values'.lasts name)
  rw [reportIn, reportIn]
  generalize member? name ms = o, member? name ms' = o' at valued ⊢
  cases valued with
  | none => exact .error (.refl _)
  | some here =>
    cases here.parts rfl with
    | record same values values' =>
      refine .ok ?_
      intro part
      have listed : (part.name, part.likeness) ∈ [Section.node, .routes, .peers, .records].map
          fun part => (part.name, Section.likeness part) :=
        List.mem_map_of_mem (by cases part <;> decide)
      exact Data.Likeness.rel_valued (same _ listed) (values.lasts part.name)
        (values'.lasts part.name)
    | list => exact .error (.refl _)
    | leaf leaf =>
      rename_i v
      cases v with
      | record => cases leaf
      | _ => exact .error (.refl _)

theorem reportIn_of_absent (values : HaveValues raw ms) (absent : last? name raw = none) :
    reportIn ms name = .error (.noInstance name) := by
  have last := values.lasts name
  rw [absent] at last
  rw [reportIn]
  generalize member? name ms = o at last ⊢
  cases last with
  | none => rfl

theorem instance?_of_absent (value : HasValue t document) (absent : part? t name = none) :
    instance? document name = .error (unreported t name) := by
  rw [unreported]
  cases within : instances? t with
  | none => exact instance?_without_map value within name
  | some raw =>
    obtain ⟨ms, values, told⟩ := exists_instances value within
    rw [part?, within, Option.bind_some] at absent
    exact (told name).trans (reportIn_of_absent values absent)

theorem sameError_unreported_iff :
    SameError (unreported t name) (unreported t' name) ↔
      ((instances? t).isSome ↔ (instances? t').isSome) := by
  rw [unreported, unreported]
  cases instances? t with
  | none =>
    cases instances? t' with
    | none => exact iff_of_true (.refl _) Iff.rfl
    | some raw' => simpa using (missingMap_apart name).1
  | some raw =>
    cases instances? t' with
    | none => simpa using (missingMap_apart name).2
    | some raw' => exact iff_of_true (.refl _) (iff_of_true rfl rfl)

theorem exists_instances_of_reported (reported : (part? t name).isSome) :
    ∃ raw, instances? t = some raw := by
  obtain ⟨report, found⟩ := Option.isSome_iff_exists.mp reported
  obtain ⟨raw, within, -⟩ := Option.bind_eq_some_iff.mp found
  exact ⟨raw, within⟩

theorem agree_instance? (value : HasValue t document) (value' : HasValue t' document')
    (within : instances? t = some raw) (within' : instances? t' = some raw')
    (alike : Option.Rel reportLikeness.Alike (part? t name) (part? t' name)) :
    Agree SameError AlikeReports (instance? document name) (instance? document' name) := by
  obtain ⟨ms, values, told⟩ := exists_instances value within
  obtain ⟨ms', values', told'⟩ := exists_instances value' within'
  rw [part?, part?, within, within'] at alike
  rw [told, told']
  exact agree_reportIn values values' alike

/-- Of what is alike in two documents, either both have it or neither has. -/
theorem absent_or_reported {D : Likeness} {o o' : Option Data} (alike : Option.Rel D.Alike o o') :
    (o = none ∧ o' = none) ∨ (o.isSome ∧ o'.isSome) := by
  cases alike with
  | none => exact .inl ⟨rfl, rfl⟩
  | some => exact .inr ⟨rfl, rfl⟩

end Documents

section Texts

variable {text text' name : String} {t t' document document' : Data} {e : SnapshotError}

theorem decode_of_fault (read : Json.value? text = some document)
    (fault : instance? document name = .error e) : decode text name = .error e := by
  rw [decode, report, read]
  simp only
  rw [fault, Except.bind]

theorem agree_decode (read : Json.value? text = some document)
    (read' : Json.value? text' = some document')
    (agree : Agree SameError AlikeReports (instance? document name) (instance? document' name)) :
    Agree SameError Eq (decode text name) (decode text' name) := by
  rw [decode, decode, report, report, read, read']
  refine agree.bind ?_
  intro ms ms' reports
  refine (agree_sections reports).bind ?_
  intro s s' parts
  exact agree_ofSections parts

/-- Two texts whose documents have alike reports of an instance give the same snapshot of it or the
same error exactly if both documents have a map of instances or neither has one. With a report that
is always so. Without one, each text tells whether it is the map or the instance that is missing. -/
theorem decode_agrees_iff (tree : Json.tree? text = some t) (tree' : Json.tree? text' = some t')
    (readable : (Json.value? text).isSome) (readable' : (Json.value? text').isSome)
    (alike : Option.Rel reportLikeness.Alike (part? t name) (part? t' name)) :
    (Agree SameError Eq (decode text name) (decode text' name) ↔
      ((instances? t).isSome ↔ (instances? t').isSome)) ∧
    ((part? t name).isSome → Agree SameError Eq (decode text name) (decode text' name)) ∧
    (part? t name = none → decode text name = .error (unreported t name) ∧
      decode text' name = .error (unreported t' name)) := by
  obtain ⟨document, read⟩ := Option.isSome_iff_exists.mp readable
  obtain ⟨document', read'⟩ := Option.isSome_iff_exists.mp readable'
  have value : HasValue t document := ⟨Json.depthLimit, by rwa [Json.value?, tree] at read⟩
  have value' : HasValue t' document' := ⟨Json.depthLimit, by rwa [Json.value?, tree'] at read'⟩
  rcases absent_or_reported alike with ⟨absent, absent'⟩ | ⟨reported, reported'⟩
  · have told := decode_of_fault read (instance?_of_absent value absent)
    have told' := decode_of_fault read' (instance?_of_absent value' absent')
    refine ⟨?_, ?_, fun _ => ⟨told, told'⟩⟩
    · rw [told, told', Agree.error_iff, sameError_unreported_iff]
    · simp [absent]
  · obtain ⟨raw, within⟩ := exists_instances_of_reported reported
    obtain ⟨raw', within'⟩ := exists_instances_of_reported reported'
    have same := agree_decode read read' (agree_instance? value value' within within' alike)
    have maps : (instances? t).isSome ↔ (instances? t').isSome := by simp [within, within']
    refine ⟨iff_of_true same maps, fun _ => same, ?_⟩
    intro absent
    rw [absent] at reported
    cases reported

end Texts

def bareLink : List (String × Data) :=
  [("peer_id", .int 3),
    ("tunnel", .record [("remote_addr", .record [("url", .text "tcp://198.51.100.3:11010")])]),
    ("stats", .record [("latency_us", .int 4000), ("rx_bytes", .int 10), ("tx_bytes", .int 20)])]

def bareNode : List (String × Data) :=
  [("hostname", .text "node-0"), ("version", .text "2.3.0"), ("ips", .record []),
    ("stun_info", .record [])]

/-- A document with one instance and nothing that is not looked at. -/
def bareDocument : Data := .record [("map", .record [("mesh-a", .record
  [("my_node_info", .record bareNode), ("routes", .list []),
    ("peers", .list [.record [("conns", .list [.record bareLink])]]),
    ("events", .list [.text "ready"])])])]

/-- The same report in another order, with members that are not looked at, a connection after the
first, and beside an instance that is malformed. -/
def clutteredDocument : Data := .record [("version", .int 2), ("map", .record
  [("mesh-b", .list [.null]), ("mesh-a", .record
    [("uptime", .int 7), ("events", .list [.text "ready"]),
      ("peers", .list [.record [("peer_id", .text "?"),
        ("conns", .list [.record (("loss_rate", .int 1) :: bareLink.reverse), .null])]]),
      ("routes", .list []),
      ("my_node_info", .record (("peer_id", .int 0) :: bareNode.reverse))])])]

theorem decode_agrees_iff_cluttered :
    Json.tree? (Json.compact bareDocument) = some bareDocument ∧
    Json.tree? (Json.compact clutteredDocument) = some clutteredDocument ∧
    (Json.value? (Json.compact bareDocument)).isSome ∧
    (Json.value? (Json.compact clutteredDocument)).isSome ∧
    Option.Rel reportLikeness.Alike (part? bareDocument "mesh-a")
      (part? clutteredDocument "mesh-a") ∧
    (Agree SameError Eq (decode (Json.compact bareDocument) "mesh-a")
      (decode (Json.compact clutteredDocument) "mesh-a") ↔
        ((instances? bareDocument).isSome ↔ (instances? clutteredDocument).isSome)) ∧
    Agree SameError Eq (decode (Json.compact bareDocument) "mesh-a")
      (decode (Json.compact clutteredDocument) "mesh-a") := by
  have tree : Json.tree? (Json.compact bareDocument) = some bareDocument := by
    apply Json.tree?_compact
    simp [bareDocument, bareLink, bareNode, Json.Fits64]
  have tree' : Json.tree? (Json.compact clutteredDocument) = some clutteredDocument := by
    apply Json.tree?_compact
    simp [clutteredDocument, bareLink, bareNode, Json.Fits64]
  have readable : (Json.value? (Json.compact bareDocument)).isSome := by
    rw [Json.value?, tree, Option.bind_some]
    simp [bareDocument, bareLink, bareNode, Json.depthLimit, Data.value?, Data.values?,
      Data.memberValues?]
  have readable' : (Json.value? (Json.compact clutteredDocument)).isSome := by
    rw [Json.value?, tree', Option.bind_some]
    simp [clutteredDocument, bareLink, bareNode, Json.depthLimit, Data.value?, Data.values?,
      Data.memberValues?]
  have link : connectionLikeness.Alike (.record bareLink)
      (.record (("loss_rate", .int 1) :: bareLink.reverse)) := by
    refine Data.Likeness.record_of_mem_iff (by decide) (by decide) ?_
    simp [bareLink]
  have node : nodeLikeness.Alike (.record bareNode)
      (.record (("peer_id", .int 0) :: bareNode.reverse)) := by
    refine Data.Likeness.record_of_mem_iff (by decide) (by decide) ?_
    simp [bareNode]
  have alike : Option.Rel reportLikeness.Alike (part? bareDocument "mesh-a")
      (part? clutteredDocument "mesh-a") := by
    refine .some ?_
    intro f listed
    simp only [List.map_cons, List.map_nil, List.mem_cons, List.not_mem_nil, or_false] at listed
    rcases listed with rfl | rfl | rfl | rfl
    · exact .some node
    · exact .some .nil
    · refine .some (.cons ?_ .nil)
      intro g listed
      obtain rfl := List.mem_singleton.mp listed
      exact .some (.some link)
    · exact .some (.cons (scalar.refl _) .nil)
  have reported : (part? bareDocument "mesh-a").isSome := by cbv
  obtain ⟨agrees_iff, agree, -⟩ := decode_agrees_iff tree tree' readable readable' alike
  exact ⟨tree, tree', readable, readable', alike, agrees_iff, agree reported⟩

/-- A document without a map of instances and one with an empty map have the same report of an
instance, that is none, but the errors are different. -/
theorem decode_without_report_apart :
    Json.tree? "\x7b\x7d" = some (.record []) ∧
    Json.tree? "\x7b\"map\":\x7b\x7d\x7d" = some (.record [("map", .record [])]) ∧
    (Json.value? "\x7b\x7d").isSome ∧ (Json.value? "\x7b\"map\":\x7b\x7d\x7d").isSome ∧
    Option.Rel reportLikeness.Alike (part? (.record []) "mesh-a")
      (part? (.record [("map", .record [])]) "mesh-a") ∧
    decode "\x7b\x7d" "mesh-a" = .error .missingMap ∧
    decode "\x7b\"map\":\x7b\x7d\x7d" "mesh-a" = .error (.noInstance "mesh-a") ∧
    ¬ Agree SameError Eq (decode "\x7b\x7d" "mesh-a")
      (decode "\x7b\"map\":\x7b\x7d\x7d" "mesh-a") := by
  have missing : decode "\x7b\x7d" "mesh-a" = .error .missingMap := by cbv
  have absent : decode "\x7b\"map\":\x7b\x7d\x7d" "mesh-a" = .error (.noInstance "mesh-a") := by
    cbv
  refine ⟨by cbv, by cbv, by cbv, by cbv, .none, missing, absent, ?_⟩
  rw [missing, absent, Agree.error_iff]
  exact (missingMap_apart "mesh-a").1

end MeshWatch.Snapshot
