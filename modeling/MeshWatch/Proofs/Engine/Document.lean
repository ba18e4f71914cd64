import MeshWatch.Engine.Config
import MeshWatch.Proofs.Profile.Saving
import MeshWatch.Proofs.Toml.Documents

/-!
# The engine's document is read back

A configuration is written as values and then tables, each under a name of its own, with what is
off or empty left out. The document is read as the record that was written, and what was left out
comes back as what the reader falls back on.
-/
namespace MeshWatch

open Data (Fields Reader Surplus kept)
open Data.Fields (Gives gives_named gives_required gives_defaulted gives_absent gives_optional)
open Saved (read_write)

/-! ## Documents with members left out -/

namespace Toml

variable {all values tables : List (String × Option Data)}

/-- Names for what stands in one table: none of them needs quotes, and none is given twice. -/
structure AreKeys (names : List String) : Prop where
  bare : ∀ name ∈ names, IsBare name
  distinct : names.Nodup

theorem isFlat_texts {ms : List (String × String)} (keys : AreKeys (ms.map Prod.fst)) :
    IsFlat (ms.map fun m => (m.1, .text m.2)) := by
  constructor
  · intro m member
    obtain ⟨pair, listed, rfl⟩ := List.mem_map.mp member
    exact ⟨keys.bare _ (List.mem_map.mpr ⟨pair, listed, rfl⟩), .scalar (.text pair.2)⟩
  · rw [List.map_map]
    exact keys.distinct

theorem bare_kept (bare : ∀ name ∈ all.map Prod.fst, IsBare name) : ∀ m ∈ kept all, IsBare m.1 := by
  intro m member
  exact bare m.1 ((Data.map_fst_kept all).subset (List.mem_map.mpr ⟨m, member, rfl⟩))

theorem lines_kept (bare : ∀ name ∈ all.map Prod.fst, IsBare name)
    (lines : ∀ m ∈ all, m.2.elim True IsInline) : ∀ m ∈ kept all, IsBare m.1 ∧ IsInline m.2 :=
  fun m member => ⟨bare_kept bare m member, Data.forall_mem_kept lines m member⟩

theorem isFlat_kept (keys : AreKeys (all.map Prod.fst))
    (lines : ∀ m ∈ all, m.2.elim True IsInline) : IsFlat (kept all) :=
  ⟨lines_kept keys.bare lines, keys.distinct.sublist (Data.map_fst_kept all)⟩

theorem isDocument_kept (keys : AreKeys ((values ++ tables).map Prod.fst))
    (lines : ∀ m ∈ values, m.2.elim True IsInline)
    (sections : ∀ m ∈ tables, m.2.elim True IsSection) :
    IsDocument (kept values) (kept tables) := by
  obtain ⟨bare, distinct⟩ := keys
  have separated := Data.map_fst_kept (values ++ tables)
  rw [Data.kept_append] at separated
  rw [List.map_append] at bare
  obtain ⟨bareValues, bareTables⟩ := List.forall_mem_append.mp bare
  refine ⟨lines_kept bareValues lines, ?_, distinct.sublist separated⟩
  intro m member
  exact ⟨bare_kept bareTables m member, Data.forall_mem_kept sections m member⟩

end Toml

namespace EngineConfig

variable {α β : Type} (surplus : Surplus)

/-! ## Fields that may be left out -/

theorem gives_unlessEmpty {read : Reader α} {write : β → Data} {f : β → α}
    (found : ∀ b, read (write b) = .ok (f b)) (name : String) (bs : List β) :
    (Fields.defaulted name (Reader.list read) []).Gives [(name, unlessEmpty write bs)]
      (bs.map f) := by
  cases bs with
  | nil => exact gives_absent fun _ => rfl
  | cons b bs => exact gives_named (Reader.list_map found (b :: bs))

theorem gives_texts (name : String) (items : List String) :
    (Saved.fieldOr name []).Gives [(name, unlessEmpty .text items)] items := by
  have gives := gives_unlessEmpty (read_write (α := String)) name items
  rw [List.map_id'] at gives
  exact gives

theorem gives_absentOr [Saved α] [LawfulSaved α] [NonNullSaved α] (name : String) (o : Option α) :
    (Saved.fieldOr name none).Gives [(name, o.map Saved.write)] o := by
  have gives := gives_optional read_write NonNullSaved.write_ne_null name o
  rw [Option.map_id'] at gives
  exact gives

/-! ## Tables -/

theorem readIdentity_record (name secret : String) : readIdentity surplus
    (.record [("network_name", .text name), ("network_secret", .text secret)]) =
      .ok (name, secret) := by
  have gives := (gives_required "network_name" (read_write name)).map Prod.mk
    |>.seq (gives_required "network_secret" (read_write secret))
  have distinct : ["network_name", "network_secret"].Nodup := by decide
  exact Reader.record_present gives (List.Subset.refl _) distinct _ _

theorem readPeer_record (uri : String) :
    readPeer surplus (.record [("uri", .text uri)]) = .ok uri :=
  Reader.record_present (gives_required "uri" (read_write uri)) (List.Subset.refl _)
    (List.nodup_singleton _) _ _

theorem readNetwork_record (cidr : String) :
    readNetwork surplus (.record [("cidr", .text cidr)]) = .ok cidr :=
  Reader.record_present (gives_required "cidr" (read_write cidr)) (List.Subset.refl _)
    (List.nodup_singleton _) _ _

theorem readPortal_data (p : VpnPortal) : readPortal surplus (portalData p) = .ok p := by
  have gives := (gives_required "client_cidr" (read_write p.clientCidr)).map VpnPortal.mk
    |>.seq (gives_required "wireguard_listen" (read_write p.listen))
  have distinct : ["client_cidr", "wireguard_listen"].Nodup := by decide
  exact Reader.record_present gives (List.Subset.refl _) distinct _ _

theorem readForward_data (r : ForwardRule) : readForward surplus (forwardData r) = .ok r := by
  have gives := (gives_required "bind_addr" (read_write r.bindAddress)).map ForwardRule.mk
    |>.seq (gives_required "dst_addr" (read_write r.targetAddress))
    |>.seq (gives_required "proto" (read_write r.protocol))
  have distinct : ["bind_addr", "dst_addr", "proto"].Nodup := by decide
  exact Reader.record_present gives (List.Subset.refl _) distinct _ _

/-- The names of all flags. -/
def flagNames : List String :=
  "dev_name" :: "mtu" :: "relay_network_whitelist" :: Switches.fields.names

theorem areKeys_flagNames : Toml.AreKeys flagNames := ⟨by decide +kernel, by decide +kernel⟩

/-- The flags as they are written, with nothing in place of those that are left out. -/
def flagMembers (f : EngineFlags) : List (String × Option Data) :=
  [("dev_name", f.deviceName.map Saved.write), ("mtu", f.mtu.map Saved.write),
    ("relay_network_whitelist", f.relayWhitelist.map Saved.write)] ++
    f.switches.members.map Data.written

theorem names_flagMembers (f : EngineFlags) : (flagMembers f).map Prod.fst = flagNames := by
  rw [flagMembers, List.map_append, f.switches.restored.gives.names]
  rfl

theorem readFlags_data (f : EngineFlags) : readFlags surplus (flagsData f) = .ok f := by
  have gives := (gives_absentOr "dev_name" f.deviceName).map EngineFlags.mk
    |>.seq (gives_absentOr "mtu" f.mtu)
    |>.seq (gives_absentOr "relay_network_whitelist" f.relayWhitelist)
    |>.seq f.switches.restored.gives
  refine Reader.record_present gives (List.Subset.refl _) ?_ _ _
  exact (names_flagMembers f).symm ▸ areKeys_flagNames.distinct

/-! ## The configuration -/

/-- What is written as a value, with nothing in place of what is left out. -/
def valueMembers (c : EngineConfig) : List (String × Option Data) :=
  [("hostname", c.hostname.map .text), ("instance_name", some (.text c.instanceName)),
    ("instance_id", some (.text c.instanceId)), ("dhcp", some (.bool c.dhcp)),
    ("ipv4", c.ipv4.map .text), ("listeners", unlessEmpty .text c.listeners),
    ("mapped_listeners", unlessEmpty .text c.mappedListeners),
    ("exit_nodes", unlessEmpty .text c.exitNodes), ("rpc_portal", c.rpcPortal.map .text),
    ("rpc_portal_whitelist", unlessEmpty .text c.rpcPortalWhitelist),
    ("routes", unlessEmpty .text c.routes), ("socks5_proxy", c.socks5Proxy.map .text)]

/-- What is written as a table or as several. -/
def tableMembers (c : EngineConfig) : List (String × Option Data) :=
  [("network_identity", some (.record [("network_name", .text c.networkName),
      ("network_secret", .text c.networkSecret)])),
    ("peer", unlessEmpty (fun uri => .record [("uri", .text uri)]) c.peers),
    ("proxy_network", unlessEmpty (fun cidr => .record [("cidr", .text cidr)]) c.proxyNetworks),
    ("vpn_portal_config", c.vpnPortal.map portalData),
    ("port_forward", unlessEmpty forwardData c.forwards),
    ("flags", some (flagsData c.flags))]

theorem write_eq (c : EngineConfig) :
    c.write = .record (kept (valueMembers c) ++ kept (tableMembers c)) := by
  rw [← Data.kept_append]
  rfl

/-- The names of everything in a configuration. -/
def memberNames : List String :=
  ["hostname", "instance_name", "instance_id", "dhcp", "ipv4", "listeners", "mapped_listeners",
    "exit_nodes", "rpc_portal", "rpc_portal_whitelist", "routes", "socks5_proxy",
    "network_identity", "peer", "proxy_network", "vpn_portal_config", "port_forward", "flags"]

theorem areKeys_memberNames : Toml.AreKeys memberNames := ⟨by decide +kernel, by decide +kernel⟩

/-- Absence and emptiness are read as what was left out. -/
theorem read_write_self (c : EngineConfig) : read surplus c.write = .ok c := by
  have identity := readIdentity_record surplus c.networkName c.networkSecret
  have flags := readFlags_data surplus c.flags
  have peers := gives_unlessEmpty (readPeer_record surplus) "peer" c.peers
  have networks := gives_unlessEmpty (readNetwork_record surplus) "proxy_network"
    c.proxyNetworks
  have portal := gives_optional (readPortal_data surplus) (by intro p; nofun)
    "vpn_portal_config" c.vpnPortal
  have forwards := gives_unlessEmpty (readForward_data surplus) "port_forward"
    c.forwards
  rw [List.map_id'] at peers networks forwards
  rw [Option.map_id'] at portal
  have gives := (gives_absentOr "hostname" c.hostname).map ofParts
    |>.seq (gives_defaulted "instance_name" "" (read_write c.instanceName))
    |>.seq (gives_defaulted "instance_id" "" (read_write c.instanceId))
    |>.seq (gives_defaulted "dhcp" false (read_write c.dhcp))
    |>.seq (gives_absentOr "ipv4" c.ipv4)
    |>.seq (gives_texts "listeners" c.listeners)
    |>.seq (gives_texts "mapped_listeners" c.mappedListeners)
    |>.seq (gives_texts "exit_nodes" c.exitNodes)
    |>.seq (gives_absentOr "rpc_portal" c.rpcPortal)
    |>.seq (gives_texts "rpc_portal_whitelist" c.rpcPortalWhitelist)
    |>.seq (gives_texts "routes" c.routes)
    |>.seq (gives_absentOr "socks5_proxy" c.socks5Proxy)
    |>.seq (gives_defaulted "network_identity" ("", "") identity)
    |>.seq peers
    |>.seq networks
    |>.seq portal
    |>.seq forwards
    |>.seq (gives_defaulted "flags" noFlags flags)
  refine Reader.record_present gives ?_ ?_ _ _
  · -- Fields are declared in the order in which they are written.
    simp only [List.cons_append, List.nil_append]
    exact List.Subset.refl _
  · exact areKeys_memberNames.distinct

/-! ## The document -/

theorem isInline_unlessEmpty (items : List String) :
    (unlessEmpty .text items).elim True Toml.IsInline := by
  cases items with
  | nil => trivial
  | cons item items =>
    refine .list ?_
    intro d member
    obtain ⟨s, -, rfl⟩ := List.mem_map.mp member
    exact .text s

theorem isInline_map_text (o : Option String) : (o.map Data.text).elim True Toml.IsInline := by
  cases o with
  | none => trivial
  | some s => exact .scalar (.text s)

theorem isSection_unlessEmpty {write : α → Data} {members : α → List (String × Data)}
    (record : ∀ a, write a = .record (members a)) (flat : ∀ a, Toml.IsFlat (members a))
    (as : List α) : (unlessEmpty write as).elim True Toml.IsSection := by
  cases as with
  | nil => trivial
  | cons a as =>
    have rows : (a :: as).map write = ((a :: as).map members).map .record := by
      rw [List.map_map]
      exact List.map_congr_left fun b _ => record b
    change Toml.IsSection (.list ((a :: as).map write))
    rw [rows]
    refine .tables nofun ?_
    intro ms member
    obtain ⟨b, -, rfl⟩ := List.mem_map.mp member
    exact flat b

theorem isFlat_identity (name secret : String) :
    Toml.IsFlat [("network_name", .text name), ("network_secret", .text secret)] := by
  have keys : Toml.AreKeys ["network_name", "network_secret"] := ⟨by decide, by decide⟩
  exact @Toml.isFlat_texts [("network_name", name), ("network_secret", secret)] keys

theorem isFlat_single {name : String} (bare : Toml.IsBare name) (text : String) :
    Toml.IsFlat [(name, .text text)] :=
  have keys : Toml.AreKeys [name] := ⟨List.forall_mem_singleton.mpr bare, List.nodup_singleton _⟩
  @Toml.isFlat_texts [(name, text)] keys

theorem isFlat_portal (p : VpnPortal) :
    Toml.IsFlat [("client_cidr", .text p.clientCidr), ("wireguard_listen", .text p.listen)] := by
  have keys : Toml.AreKeys ["client_cidr", "wireguard_listen"] := ⟨by decide, by decide⟩
  exact @Toml.isFlat_texts [("client_cidr", p.clientCidr), ("wireguard_listen", p.listen)] keys

theorem isFlat_forward (r : ForwardRule) :
    Toml.IsFlat [("bind_addr", .text r.bindAddress), ("dst_addr", .text r.targetAddress),
      ("proto", .text r.protocol)] := by
  have keys : Toml.AreKeys ["bind_addr", "dst_addr", "proto"] := ⟨by decide, by decide⟩
  exact @Toml.isFlat_texts
    [("bind_addr", r.bindAddress), ("dst_addr", r.targetAddress), ("proto", r.protocol)] keys

theorem isInline_switches (s : Switches) : ∀ m ∈ s.members, Toml.IsInline m.2 := by
  rw [Switches.members]
  repeat refine List.forall_mem_cons.mpr ⟨.scalar (.bool _), ?_⟩
  nofun

theorem isInline_mtu (mtu : Option UInt32) : (mtu.map Saved.write).elim True Toml.IsInline := by
  cases mtu with
  | none => trivial
  | some n =>
    exact .scalar (.int (Nat.lt_trans n.toNat_lt (by decide)))

theorem isFlat_flags (f : EngineFlags) : Toml.IsFlat (kept (flagMembers f)) := by
  refine Toml.isFlat_kept ((names_flagMembers f).symm ▸ areKeys_flagNames) ?_
  refine List.forall_mem_append.mpr ⟨?_, ?_⟩
  · simp only [List.forall_mem_cons]
    exact ⟨isInline_map_text f.deviceName, isInline_mtu f.mtu,
      isInline_map_text f.relayWhitelist, nofun⟩
  · intro m member
    obtain ⟨switch, listed, rfl⟩ := List.mem_map.mp member
    exact isInline_switches f.switches switch listed

/-- A configuration is a document: its values come before its tables, and everything in it has a
name of its own that needs no quotes. -/
theorem isDocument_write (c : EngineConfig) :
    Toml.IsDocument (kept (valueMembers c)) (kept (tableMembers c)) := by
  refine Toml.isDocument_kept areKeys_memberNames ?_ ?_
  · simp only [valueMembers, List.forall_mem_cons]
    exact ⟨isInline_map_text c.hostname, .scalar (.text c.instanceName),
      .scalar (.text c.instanceId), .scalar (.bool c.dhcp), isInline_map_text c.ipv4,
      isInline_unlessEmpty c.listeners, isInline_unlessEmpty c.mappedListeners,
      isInline_unlessEmpty c.exitNodes, isInline_map_text c.rpcPortal,
      isInline_unlessEmpty c.rpcPortalWhitelist, isInline_unlessEmpty c.routes,
      isInline_map_text c.socks5Proxy, nofun⟩
  · have uri : Toml.IsBare "uri" := by decide
    have cidr : Toml.IsBare "cidr" := by decide
    have peers := isSection_unlessEmpty (fun _ => rfl) (isFlat_single uri) c.peers
    have networks := isSection_unlessEmpty (fun _ => rfl) (isFlat_single cidr) c.proxyNetworks
    have portal : (c.vpnPortal.map portalData).elim True Toml.IsSection := by
      cases c.vpnPortal with
      | none => trivial
      | some p => exact .table (isFlat_portal p)
    have forwards := isSection_unlessEmpty (fun _ => rfl) isFlat_forward c.forwards
    simp only [tableMembers, List.forall_mem_cons]
    exact ⟨.table (isFlat_identity _ _), peers, networks, portal, forwards,
      .table (isFlat_flags c.flags), nofun⟩

/-- A configuration is written as a document of what it holds and read back from it: whatever its
texts hold, and whatever of it is absent, empty or off. -/
theorem ofToml?_toToml (c : EngineConfig) :
    Toml.document? c.toToml = some c.write ∧ ofToml? c.toToml = some c := by
  have document : Toml.document? c.toToml = some c.write := by
    rw [toToml, write_eq]
    exact Toml.document?_document (isDocument_write c)
  refine ⟨document, ?_⟩
  rw [ofToml?, document, Option.bind_eq_bind, Option.bind_some, read_write_self]
  rfl

end EngineConfig

end MeshWatch
