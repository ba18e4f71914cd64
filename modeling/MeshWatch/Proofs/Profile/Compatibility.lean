import MeshWatch.Proofs.Data.Revision
import MeshWatch.Proofs.Profile.Filling
import MeshWatch.Proofs.Profile.Presence
import MeshWatch.Proofs.Profile.Saving

/-!
# Books of other versions are loaded

A saved book of which members of profiles and port forwards are deleted, and to which members of
unknown names are added, is still loaded. Every setting that is still there is as it was saved and
every other one is the usual one, an id that is lacking is a fresh one, and the active profile is
still the active one if it has kept its id.
-/
namespace MeshWatch

open Data (Fields Reader Intact foundOf)
open Data.Fields (Spares spares_fieldOr)

theorem Data.at?_singleton (name : String) (ms : List (String × Data)) :
    (record ms).at? [name] = member? name ms := by
  rw [at?]
  cases member? name ms <;> rfl

/-- Each member of a record is that of one of two others. -/
theorem Data.at?_of_choose {has : String → Bool} {ms ns ks : List (String × Data)}
    (mixed : ks = List.zipWith (choose has) ms ns) (same : ms.map Prod.fst = ns.map Prod.fst)
    (name : String) : (record ks).at? [name] =
      if has name then (record ms).at? [name] else (record ns).at? [name] := by
  simp only [at?_singleton, mixed, member?_zipWith_choose has same]

/-- The id of what a document was written of, if it is still in it. -/
def Data.idLeft (d : Data) (id : String) : Option String := if d.has "id" then some id else none

theorem spares_idField (ms' : List (String × Data)) (id : String) :
    idField.Spares ms' [("id", Saved.write id)] ((Data.record ms').idLeft id) :=
  Data.Fields.spares_named rfl fun _ => rfl

/-- Three lists of one length are gone through together, each item from the state of the supply that
the items before it have left. -/
inductive Supply.Threads {α β γ : Type} (R : Supply → α → β → γ → Supply → Prop) :
    Supply → List α → List β → List γ → Supply → Prop
  | nil {s : Supply} : Threads R s [] [] [] s
  | cons {s s' t : Supply} {a : α} {b : β} {c : γ} {as : List α} {bs : List β} {cs : List γ}
    (first : R s a b c s') (rest : Threads R s' as bs cs t) :
    Threads R s (a :: as) (b :: bs) (c :: cs) t

/-! ## Port forwards -/

namespace PortForwardOf

/-- The settings of a port forward under the id of another one. -/
def under {ι : Type} (u : PortForwardOf ι) (g : PortForward) : PortForward :=
  { u with id := g.id }

/-- Members of a saved port forward are deleted, others are added. -/
def Revised : Data → Data → Prop := Data.Revised [] fun _ => Eq

/-- What is read of a port forward of which only some members are there. -/
def partly (d : Data) (f : PortForward) : PortForwardOf (Option String) where
  id := d.idLeft f.id
  protocol := if d.has "proto" then f.protocol else standard.protocol
  bindIp := if d.has "bind_ip" then f.bindIp else standard.bindIp
  bindPort := if d.has "bind_port" then f.bindPort else standard.bindPort
  targetIp := if d.has "dst_ip" then f.targetIp else standard.targetIp
  targetPort := if d.has "dst_port" then f.targetPort else standard.targetPort

theorem nodup_names (f : PortForward) : (f.write.members.map Prod.fst).Nodup := by
  change ((standard.under ⟨"", "", "", none, "", none⟩).write.members.map Prod.fst).Nodup
  decide +kernel

/-- The settings of such a port forward are taken, one by one, from the saved and the usual one. -/
theorem at?_partly (d : Data) (f g : PortForward) (name : String) :
    ((f.partly d).under g).write.at? [name] =
      if d.has name then (f.under g).write.at? [name] else (standard.under g).write.at? [name] := by
  have mixed : ((f.partly d).under g).write.members = List.zipWith (Data.choose d.has)
      (f.under g).write.members (standard.under g).write.members := by
    simp only [write, Data.members, under, partly, List.zipWith_cons_cons, List.zipWith_nil_left,
      Data.choose, ite_self, apply_ite Saved.write]
  exact Data.at?_of_choose mixed rfl name

theorem read_revised (f : PortForward) (d : Data) (revised : Revised f.write d) :
    read d = .ok (f.partly d) := by
  obtain ⟨ms', rfl, revision⟩ := Data.Revised.exists_revision f.write.members revised
  have intact : Intact ms' f.write.members := by
    intro m member d found
    exact (revision.changed_of_member? f.nodup_names member found).symm
  refine Reader.record_found ?_ (revision.holds_found f.nodup_names false) _ _
  refine Spares.gives ?_ intact
  rw [partly]
  apply Spares.congr
  case spares =>
    repeat
      apply Spares.seq
      case second => exact spares_fieldOr _ _ _
    exact (spares_idField ms' f.id).map mk
  case same => rfl

/-- What a saved port forward is loaded as from the document it has become: members that are left
are as they were, the others are the usual ones, and its id is taken from the supply if it was
deleted. -/
structure LoadedAs (first : Supply) (f : PortForward) (d : Data) (g : PortForward)
    (last : Supply) : Prop where
  id : first.idOr (d.idLeft f.id) = (g.id, last)
  settings : ∀ name, g.write.at? [name] =
    if d.has name then (f.under g).write.at? [name] else (standard.under g).write.at? [name]

theorem loadedAs_partly (supply : Supply) (f : PortForward) (d : Data) :
    LoadedAs supply f d { f.partly d with id := (supply.idOr (d.idLeft f.id)).1 }
      (supply.idOr (d.idLeft f.id)).2 :=
  ⟨rfl, at?_partly d f { f.partly d with id := (supply.idOr (d.idLeft f.id)).1 }⟩

theorem threads_nameForwards {fs : List PortForward} {ds : List Data}
    {us : List (PortForwardOf (Option String))}
    (read : Data.Aligned (fun f d u => u = PortForwardOf.partly d f) fs ds us) (supply : Supply) :
    Supply.Threads LoadedAs supply fs ds (nameForwards supply us).1 (nameForwards supply us).2 := by
  induction read generalizing supply with
  | nil => exact .nil
  | @cons f d u fs ds us first _ ih =>
    subst first
    exact .cons (loadedAs_partly supply f d) (ih _)

end PortForwardOf

/-! ## Profiles -/

/-- What is read of switches of which only some members are there. -/
def Switches.partly (d : Data) (s : Switches) : Switches where
  latencyFirst := if d.has "latency_first" then s.latencyFirst else standard.latencyFirst
  useSmoltcp := if d.has "use_smoltcp" then s.useSmoltcp else standard.useSmoltcp
  disableIpv6 := if d.has "disable_ipv6" then s.disableIpv6 else standard.disableIpv6
  enableKcpProxy := if d.has "enable_kcp_proxy" then s.enableKcpProxy else standard.enableKcpProxy
  disableKcpInput :=
    if d.has "disable_kcp_input" then s.disableKcpInput else standard.disableKcpInput
  enableQuicProxy :=
    if d.has "enable_quic_proxy" then s.enableQuicProxy else standard.enableQuicProxy
  disableQuicInput :=
    if d.has "disable_quic_input" then s.disableQuicInput else standard.disableQuicInput
  disableP2p := if d.has "disable_p2p" then s.disableP2p else standard.disableP2p
  bindDevice := if d.has "bind_device" then s.bindDevice else standard.bindDevice
  noTun := if d.has "no_tun" then s.noTun else standard.noTun
  enableExitNode := if d.has "enable_exit_node" then s.enableExitNode else standard.enableExitNode
  relayAllPeerRpc :=
    if d.has "relay_all_peer_rpc" then s.relayAllPeerRpc else standard.relayAllPeerRpc
  multiThread := if d.has "multi_thread" then s.multiThread else standard.multiThread
  proxyForwardBySystem :=
    if d.has "proxy_forward_by_system" then s.proxyForwardBySystem
    else standard.proxyForwardBySystem
  disableEncryption :=
    if d.has "disable_encryption" then s.disableEncryption else standard.disableEncryption
  disableUdpHolePunching :=
    if d.has "disable_udp_hole_punching" then s.disableUdpHolePunching
    else standard.disableUdpHolePunching
  disableSymHolePunching :=
    if d.has "disable_sym_hole_punching" then s.disableSymHolePunching
    else standard.disableSymHolePunching
  acceptDns := if d.has "accept_dns" then s.acceptDns else standard.acceptDns
  privateMode := if d.has "private_mode" then s.privateMode else standard.privateMode

theorem Switches.spares (ms' : List (String × Data)) (s : Switches) :
    fields.Spares ms' s.members (s.partly (.record ms')) := by
  rw [fields, partly]
  apply Spares.congr
  case spares =>
    repeat
      apply Spares.seq
      case second => exact spares_fieldOr _ _ _
    exact Spares.ofValue mk
  case same =>
    simp only [List.nil_append, List.cons_append]
    rfl

namespace ProfileOf

/-- The settings of a profile under the ids and with the port forwards of another one. -/
def under {ι : Type} (u : ProfileOf ι) (q : Profile) : Profile :=
  { u with id := q.id, portForwards := q.portForwards }

/-- Members of a saved profile and of its port forwards are deleted, others are added. -/
def Revised : Data → Data → Prop := Data.Revised [] fun name =>
  if name = "port_forwards" then Data.Itemwise PortForwardOf.Revised else Eq

/-- What is read of a profile of which only some members are there, and of its port forwards. -/
def partly (d : Data) (p : Profile) (us : List (PortForwardOf (Option String))) :
    UnnamedProfile where
  id := d.idLeft p.id
  instanceName := if d.has "instance_name" then p.instanceName else standard.instanceName
  virtualIpv4 := if d.has "virtual_ipv4" then p.virtualIpv4 else standard.virtualIpv4
  networkLength := if d.has "network_length" then p.networkLength else standard.networkLength
  dhcp := if d.has "dhcp" then p.dhcp else standard.dhcp
  networkName := if d.has "network_name" then p.networkName else standard.networkName
  networkSecret := if d.has "network_secret" then p.networkSecret else standard.networkSecret
  peers := if d.has "peers" then p.peers else standard.peers
  hostname := if d.has "hostname" then p.hostname else standard.hostname
  proxyNetworks := if d.has "proxy_networks" then p.proxyNetworks else standard.proxyNetworks
  vpnPortalOn := if d.has "enable_vpn_portal" then p.vpnPortalOn else standard.vpnPortalOn
  vpnClientAddress :=
    if d.has "vpn_portal_client_network_addr" then p.vpnClientAddress else standard.vpnClientAddress
  vpnClientLength :=
    if d.has "vpn_portal_client_network_len" then p.vpnClientLength else standard.vpnClientLength
  vpnListenPort :=
    if d.has "vpn_portal_listen_port" then p.vpnListenPort else standard.vpnListenPort
  listeners := if d.has "listener_urls" then p.listeners else standard.listeners
  deviceName := if d.has "dev_name" then p.deviceName else standard.deviceName
  mtu := if d.has "mtu" then p.mtu else standard.mtu
  relayWhitelistOn :=
    if d.has "enable_relay_network_whitelist" then p.relayWhitelistOn else standard.relayWhitelistOn
  relayWhitelist :=
    if d.has "relay_network_whitelist" then p.relayWhitelist else standard.relayWhitelist
  manualRoutesOn :=
    if d.has "enable_manual_routes" then p.manualRoutesOn else standard.manualRoutesOn
  manualRoutes := if d.has "routes" then p.manualRoutes else standard.manualRoutes
  socks5On := if d.has "enable_socks5" then p.socks5On else standard.socks5On
  socks5Port := if d.has "socks5_port" then p.socks5Port else standard.socks5Port
  exitNodes := if d.has "exit_nodes" then p.exitNodes else standard.exitNodes
  mappedListeners :=
    if d.has "mapped_listeners" then p.mappedListeners else standard.mappedListeners
  rpcPortal := if d.has "rpc_portal" then p.rpcPortal else standard.rpcPortal
  rpcPortalWhitelist :=
    if d.has "rpc_portal_whitelist" then p.rpcPortalWhitelist else standard.rpcPortalWhitelist
  portForwards := us
  switches := p.switches.partly d

theorem nodup_names (p : Profile) : (p.write.members.map Prod.fst).Nodup := by
  change ((standard.name (.ofSeed 0)).1.write.members.map Prod.fst).Nodup
  decide +kernel

/-- The settings of such a profile are taken, one by one, from the saved and the usual one. -/
theorem at?_partly (d : Data) (p q : Profile)
    (us : List (PortForwardOf (Option String))) (name : String) :
    ((p.partly d us).under q).write.at? [name] =
      if d.has name then (p.under q).write.at? [name] else (standard.under q).write.at? [name] := by
  have mixed : ((p.partly d us).under q).write.members = List.zipWith (Data.choose d.has)
      (p.under q).write.members (standard.under q).write.members := by
    simp only [write, Data.members, under, partly, Switches.members, Switches.partly,
      List.zipWith_cons_cons, List.zipWith_nil_left, List.cons_append, List.nil_append,
      Data.choose, ite_self, apply_ite Saved.write, apply_ite Data.bool]
    rfl
  exact Data.at?_of_choose mixed rfl name

/-- The members of a saved profile, with something else in place of its port forwards. -/
def membersWith (p : Profile) (forwards : Data) : List (String × Data) :=
  p.write.members.map fun m => if m.1 = "port_forwards" then (m.1, forwards) else m

theorem map_fst_membersWith (p : Profile) (forwards : Data) :
    (p.membersWith forwards).map Prod.fst = p.write.members.map Prod.fst := by
  rw [membersWith, List.map_map]
  refine List.map_congr_left ?_
  intro m _
  rw [Function.comp]
  split <;> rfl

theorem read_membersWith (p : Profile) (ms' : List (String × Data)) {forwards : Data}
    {us : List (PortForwardOf (Option String))}
    (found : Reader.list PortForwardOf.read forwards = .ok us)
    (intact : Intact ms' (p.membersWith forwards))
    (holds : ∀ m ∈ foundOf ms' (p.membersWith forwards), Data.Source.Holds ⟨ms', false⟩ m) :
    read (.record ms') = .ok (p.partly (.record ms')
      (if (Data.record ms').has "port_forwards" then us else standard.portForwards)) := by
  refine Reader.record_found (Spares.gives ?_ intact) holds _ _
  rw [partly]
  apply Spares.congr
  case spares =>
    apply Spares.seq
    case second => exact p.switches.spares ms'
    apply Spares.seq
    case second => exact Data.Fields.spares_named found fun _ => rfl
    repeat
      apply Spares.seq
      case second => exact spares_fieldOr _ _ _
    exact (spares_idField ms' p.id).map mk
  case same =>
    simp [membersWith, write, Data.members, Switches.members]

/-- What a profile is read as. Where its port forwards are still there, each of them is read in its
place. -/
structure ReadAs (p : Profile) (d : Data) (u : UnnamedProfile) : Prop where
  settings : u = p.partly d u.portForwards
  noForwards : d.at? ["port_forwards"] = none → u.portForwards = []
  forwards : ∀ fs ∈ d.at? ["port_forwards"], ∃ ds, fs = .list ds ∧
    Data.Aligned (fun f d u => u = f.partly d) p.portForwards ds u.portForwards

/-- The port forwards of a saved profile, if they are still there, are read each in its place. -/
theorem exists_forwards (p : Profile) (ms' : List (String × Data))
    (changed : ∀ d ∈ Data.member? "port_forwards" ms',
      Data.Itemwise PortForwardOf.Revised (.list (p.portForwards.map PortForwardOf.write)) d) :
    ∃ forwards us, Reader.list PortForwardOf.read forwards = .ok us ∧
      (∀ d ∈ Data.member? "port_forwards" ms', d = forwards) ∧
      ∀ d ∈ Data.member? "port_forwards" ms', ∃ ds, d = .list ds ∧
        Data.Aligned (fun f d u => u = PortForwardOf.partly d f) p.portForwards ds us := by
  cases left : Data.member? "port_forwards" ms' with
  | none => exact ⟨.list [], [], rfl, nofun, nofun⟩
  | some d =>
    obtain ⟨ds, rfl, items⟩ := (changed d left).exists_items
    obtain ⟨us, found, aligned⟩ := Reader.exists_items
      (T := fun f d u => u = PortForwardOf.partly d f)
      (fun f d revised => ⟨_, PortForwardOf.read_revised f d revised, rfl⟩) items
    refine ⟨.list ds, us, found, ?_, ?_⟩
    · rintro _ ⟨⟩
      rfl
    · rintro _ ⟨⟩
      exact ⟨ds, rfl, aligned⟩

theorem exists_readAs (p : Profile) (d : Data) (revised : Revised p.write d) :
    ∃ u, read d = .ok u ∧ p.ReadAs d u := by
  obtain ⟨ms', rfl, revision⟩ := Data.Revised.exists_revision p.write.members revised
  have changed {name : String} {d : Data} (member : (name, d) ∈ p.write.members) (d' : Data)
      (found : d' ∈ Data.member? name ms') :=
    revision.changed_of_member? p.nodup_names member found
  have listed : ("port_forwards", Data.list (p.portForwards.map PortForwardOf.write)) ∈
      p.write.members := by
    simp [write, Data.members]
  obtain ⟨forwards, us, found, same, aligned⟩ :=
    p.exists_forwards ms' (by simpa using changed listed)
  -- only what the port forwards hold may have changed
  have intact : Intact ms' (p.membersWith forwards) := by
    intro m member d' left
    obtain ⟨⟨name, d⟩, inside, rfl⟩ := List.mem_map.mp member
    by_cases special : name = "port_forwards"
    · subst special
      exact same d' left
    · simp only [if_neg special] at left ⊢
      have kept := changed inside d' left
      rw [if_neg special] at kept
      exact kept.symm
  have has : (Data.record ms').has "port_forwards" =
      (Data.member? "port_forwards" ms').isSome := rfl
  refine ⟨_, p.read_membersWith ms' found intact ?_, rfl, ?_, ?_⟩
  · rw [Data.foundOf_congr (p.map_fst_membersWith forwards)]
    exact revision.holds_found p.nodup_names false
  · intro left
    rw [Data.at?_singleton] at left
    rw [partly, has, left]
    rfl
  · intro fs left
    rw [Data.at?_singleton] at left
    rw [partly, has, Option.mem_def.mp left]
    exact aligned fs left

/-- What a saved profile is loaded as from the document it has become: members that are left are as
they were, the others are the usual ones, and its id is taken from the supply if it was deleted,
before those of its port forwards. -/
structure LoadedAs (first : Supply) (p : Profile) (d : Data) (q : Profile) (last : Supply) :
    Prop where
  id : (first.idOr (d.idLeft p.id)).1 = q.id
  settings : ∀ name, q.write.at? [name] =
    if d.has name then (p.under q).write.at? [name] else (standard.under q).write.at? [name]
  noForwards : d.at? ["port_forwards"] = none →
    q.portForwards = [] ∧ last = (first.idOr (d.idLeft p.id)).2
  forwards : ∀ fs ∈ d.at? ["port_forwards"], ∃ ds, fs = .list ds ∧
    Supply.Threads PortForwardOf.LoadedAs (first.idOr (d.idLeft p.id)).2 p.portForwards ds
      q.portForwards last

theorem ReadAs.id {p : Profile} {d : Data} {u : UnnamedProfile} (read : p.ReadAs d u) :
    u.id = d.idLeft p.id := by
  rw [read.settings]
  rfl

theorem ReadAs.loadedAs {p : Profile} {d : Data} {u : UnnamedProfile} (read : p.ReadAs d u)
    (supply : Supply) : LoadedAs supply p d (u.name supply).1 (u.name supply).2 := by
  constructor
  · rw [← read.id]
    rfl
  · intro name
    rw [← at?_partly d p _ u.portForwards, ← read.settings]
    rfl
  · intro left
    rw [UnnamedProfile.name, read.noForwards left, ← read.id]
    exact ⟨rfl, rfl⟩
  · intro fs left
    obtain ⟨ds, rfl, aligned⟩ := read.forwards fs left
    rw [← read.id]
    exact ⟨ds, rfl, PortForwardOf.threads_nameForwards aligned _⟩

theorem threads_nameAll {ps : List Profile} {ds : List Data} {us : List UnnamedProfile}
    (read : Data.Aligned ReadAs ps ds us) (supply : Supply) :
    Supply.Threads LoadedAs supply ps ds (nameAll supply us).1 (nameAll supply us).2 := by
  induction read generalizing supply with
  | nil => exact .nil
  | cons first _ ih => exact .cons (first.loadedAs supply) (ih _)

end ProfileOf

/-! ## Books -/

namespace Book

/-- Members of the profiles and port forwards of a saved book are deleted, others are added there
and beside the profiles. -/
def Revised : Data → Data → Prop := Data.Revised ["profiles", "active_id"] fun name =>
  if name = "profiles" then Data.Itemwise ProfileOf.Revised else Eq

theorem exists_readSaved (b : Book) (d : Data) (revised : Revised b.write d) : ∃ ds us,
    d.at? ["profiles"] = some (.list ds) ∧ readSaved d = .ok (us, some b.activeId) ∧
      Data.Aligned ProfileOf.ReadAs b.profiles ds us := by
  obtain ⟨ms', rfl, revision⟩ := Data.Revised.exists_revision b.write.members revised
  have distinct : (b.write.members.map Prod.fst).Nodup := by
    change ["profiles", "active_id"].Nodup
    decide
  have first : ("profiles", Data.list (b.profiles.map ProfileOf.write)) ∈ b.write.members :=
    List.mem_cons_self
  have second : ("active_id", Data.text b.activeId) ∈ b.write.members :=
    List.mem_cons_of_mem _ List.mem_cons_self
  obtain ⟨profiles, here⟩ := revision.exists_member? distinct first (by simp)
  obtain ⟨activeId, there⟩ := revision.exists_member? distinct second (by simp)
  have changed := revision.changed_of_member? distinct first here
  have same := revision.changed_of_member? distinct second there
  obtain ⟨ds, rfl, items⟩ := changed.exists_items
  obtain rfl : Data.text b.activeId = activeId := same
  obtain ⟨us, found, aligned⟩ := Reader.exists_items ProfileOf.exists_readAs items
  refine ⟨ds, us, ?_, ?_, aligned⟩
  · rw [Data.at?_singleton, here]
  · refine Reader.record_found ?_ (revision.holds_found distinct false) _ _
    have left : foundOf ms' b.write.members =
        [("profiles", some (.list ds)), ("active_id", some (.text b.activeId))] := by
      simp [foundOf, write, Data.members, here, there]
    have profiles : Reader.list ProfileOf.read (.list ds) = .ok us := found
    have activeId : (Saved.read (.text b.activeId) : Except _ (Option String)) =
        .ok (some b.activeId) := rfl
    rw [left]
    exact ((Data.Fields.gives_defaulted "profiles" [] profiles).map Prod.mk).seq
      (Data.Fields.gives_defaulted "active_id" none activeId)

theorem givenIds_sublist {ps : List Profile} {ds : List Data} {us : List UnnamedProfile}
    (read : Data.Aligned ProfileOf.ReadAs ps ds us) : (givenIds us).Sublist (ps.map (·.id)) := by
  induction read with
  | nil => exact .slnil
  | @cons p d u ps ds us first _ ih =>
    have head := first.id
    rw [Data.idLeft] at head
    cases left : d.has "id" with
    | false =>
      rw [left, if_neg Bool.false_ne_true] at head
      have skipped : givenIds (u :: us) = givenIds us := List.filterMap_cons_none head
      rw [skipped]
      exact ih.cons _
    | true =>
      rw [left, if_pos rfl] at head
      have taken : givenIds (u :: us) = p.id :: givenIds us := List.filterMap_cons_some head
      rw [taken]
      exact ih.cons_cons _

/-- The active profile of a book of profiles with different ids stands where the wanted id is, or is
the first one if no profile has that id. -/
theorem active_ofProfiles {qs : List Profile} {wanted : String} {i : Nat}
    (distinct : (qs.map (·.id)).Nodup) (inside : i < qs.length)
    (marked : wanted ∈ qs.map (·.id) → (qs[i]).id = wanted)
    (first : wanted ∉ qs.map (·.id) → i = 0) (supply : Supply) : ∃ loaded,
      ofProfiles qs (some wanted) supply = (loaded, supply) ∧ loaded.profiles = qs ∧
        loaded.active = qs[i] ∧ loaded.activeId = (qs[i]).id := by
  by_cases member : wanted ∈ qs.map (·.id)
  · obtain ⟨nonempty, made⟩ := ofProfiles_of_mem member supply
    have here := marked member
    exact ⟨_, made, rfl, active_of_mem distinct (List.getElem_mem inside) here, here.symm⟩
  · obtain rfl := first member
    cases qs with
    | nil => cases inside
    | cons q qs =>
      have absent : ∀ id ∈ some wanted, id ∉ (q :: qs).map (·.id) := by
        rintro _ ⟨⟩
        exact member
      exact ⟨_, ofProfiles_of_absent absent supply, rfl,
        active_of_mem distinct List.mem_cons_self rfl, rfl⟩

/-- Where the active profile of a saved book is found: at its place if its document still has the
id, else at the first place. -/
def markIn (b : Book) (ds : List Data) : Nat :=
  if (ds[b.place b.activeId]?).any (·.has "id") then b.place b.activeId else 0

section Mark

variable {b : Book} {ds : List Data} {qs : List Profile} {first last : Supply}
  (loaded : Data.Aligned (fun p d q => first.Fills last (d.idLeft p.id) (ProfileOf.id q))
    b.profiles ds qs)

include loaded in
theorem id_of_has (left : (ds[b.place b.activeId]?).any (·.has "id")) :
    ∃ inside : b.place b.activeId < qs.length, (qs[b.place b.activeId]).id = b.activeId := by
  obtain ⟨d, there, has⟩ := (Option.any_eq_true _ _).mp left
  obtain ⟨within, same⟩ := List.getElem?_eq_some_iff.mp there
  have known : b.place b.activeId < b.profiles.length := loaded.length_eq.1 ▸ within
  obtain ⟨_, inside, profile⟩ := loaded.getElem known
  refine ⟨inside, ?_⟩
  rw [profile.eq_given (if_pos (same ▸ has)), id_place known]

include loaded in
theorem has_of_mem (distinct : b.ids.Nodup)
    (unused : ∀ n, first.used ≤ n → first.id n ≠ b.activeId)
    (member : b.activeId ∈ qs.map (·.id)) : (ds[b.place b.activeId]?).any (·.has "id") := by
  obtain ⟨q, listed, same⟩ := List.mem_map.mp member
  obtain ⟨i, inside, rfl⟩ := List.getElem_of_mem listed
  have known : i < b.profiles.length := loaded.length_eq.2 ▸ inside
  obtain ⟨within, _, profile⟩ := loaded.getElem known
  -- a profile that has lost its id has one of the supply, which is never the active id
  cases left : (ds[i]).has "id" with
  | true =>
    have here := profile.eq_given (if_pos left)
    have place : b.place b.activeId = i := by
      rw [place, ← same, here]
      exact findIdx_id distinct known
    rw [place, List.getElem?_eq_getElem within, Option.any_some, left]
  | false =>
    obtain ⟨n, later, -, here⟩ := profile.exists_fresh (if_neg (by simp [left]))
    exact absurd (here.symm.trans same) (unused n later)

include loaded in
theorem markIn_lt : b.markIn ds < qs.length := by
  rw [markIn]
  split
  · rename_i left
    exact (id_of_has loaded left).1
  · rw [loaded.length_eq.2]
    exact List.length_pos_iff.mpr b.nonempty

include loaded in
theorem id_markIn (distinct : b.ids.Nodup)
    (unused : ∀ n, first.used ≤ n → first.id n ≠ b.activeId)
    (inside : b.markIn ds < qs.length) (member : b.activeId ∈ qs.map (·.id)) :
    (qs[b.markIn ds]).id = b.activeId := by
  have left := has_of_mem loaded distinct unused member
  simp only [markIn, if_pos left]
  exact (id_of_has loaded left).2

include loaded in
theorem markIn_eq_zero (absent : b.activeId ∉ qs.map (·.id)) : b.markIn ds = 0 := by
  rw [markIn, if_neg]
  intro left
  obtain ⟨inside, same⟩ := id_of_has loaded left
  exact absent (List.mem_map.mpr ⟨_, List.getElem_mem inside, same⟩)

end Mark

/-- A saved book of which members of profiles and port forwards are deleted, and to which members of
unknown names are added, is loaded with all its profiles and port forwards in their order. -/
theorem load_revised {b : Book} (distinct : b.ids.Nodup) {d : Data} (revised : Revised b.write d)
    {s : String} (text : Json.tree? s = some d) {disk : Disk} {directory : Path}
    (file : disk.readText? (path directory) = some s) {supply : Supply}
    (fresh : supply.IsFresh (b.activeId :: b.ids)) : ∃ ds loaded last,
      d.at? ["profiles"] = some (.list ds) ∧
      load disk directory supply = (.read, loaded, last) ∧
      Supply.Threads ProfileOf.LoadedAs supply b.profiles ds loaded.profiles last ∧
      loaded.ids.Nodup ∧
      loaded.profiles[b.markIn ds]? = some loaded.active ∧
      loaded.activeId = loaded.active.id := by
  obtain ⟨ds, us, documents, found, read⟩ := b.exists_readSaved d revised
  have saved : saved? disk directory = some (us, some b.activeId) := by
    simp only [saved?, file, text, found, Option.bind_eq_bind, Option.bind_some, Except.toOption]
  have given := givenIds_sublist read
  have others : supply.IsFresh (givenIds us) :=
    fresh.mono fun id member => List.mem_cons_of_mem _ (given.subset member)
  have different := nodup_ids_nameAll (distinct.sublist given) others
  have each : Data.Aligned (fun p d q => supply.Fills (nameAll supply us).2 (d.idLeft p.id) q.id)
      b.profiles ds (nameAll supply us).1 := by
    refine read.replaced (completes_nameAll supply us) ?_
    intro p d u q read completes
    exact read.id ▸ completes.id
  have unused (n : Nat) (later : supply.used ≤ n) : supply.id n ≠ b.activeId := by
    intro same
    exact fresh.unused n later (List.mem_cons.mpr (.inl same))
  have inside := markIn_lt each
  obtain ⟨loaded, made, profiles, active, activeId⟩ := active_ofProfiles different inside
    (id_markIn each distinct unused inside) (markIn_eq_zero each) (nameAll supply us).2
  refine ⟨ds, loaded, (nameAll supply us).2, documents, ?_, ?_, ?_, ?_, ?_⟩
  · rw [load_of_saved? saved, made]
  · rw [profiles]
    exact ProfileOf.threads_nameAll read supply
  · rw [ids, profiles]
    exact different
  · rw [active]
    simp only [profiles, List.getElem?_eq_getElem inside]
  · rw [active, activeId]

/-- Two profiles, of which the second is active. -/
def twoProfiles : Book where
  profiles :=
    [{ ProfileOf.standard with
        id := "a"
        peers := "tcp://a:1"
        portForwards := [⟨"f", "udp", "", some 1, "h", some 2⟩] },
      { ProfileOf.standard with
        id := "b"
        dhcp := false
        portForwards := [] }]
  activeId := "b"
  nonempty := List.cons_ne_nil _ _

/-- What a version that knows few settings, and some of its own, leaves of these profiles. -/
def olderDocument : Data := .record
  [("version", .list [.int 2, .null]),
    ("profiles", .list
      [.record [("color", .record []), ("peers", .text "tcp://a:1"),
          ("port_forwards", .list [.record [("note", .bool true), ("dst_port", .int 2)]])],
        .record [("color", .text "green"), ("id", .text "b"), ("mtu", .text "")]]),
    ("active_id", .text "b")]

theorem revised_olderDocument : Revised twoProfiles.write olderDocument := by
  have forward : PortForwardOf.Revised
      (PortForwardOf.write ⟨"f", "udp", "", some 1, "h", some 2⟩)
      (.record [("note", .bool true), ("dst_port", .int 2)]) := by
    refine .record (.inserted (by decide +kernel) ?_)
    repeat first | exact .done | refine .remaining rfl ?_ | refine .deleted nofun ?_
  refine .record (.inserted (by decide +kernel) (.remaining ?_ (.remaining rfl .done)))
  refine .list (.cons (.record ?_) (.cons (.record ?_) .nil))
  -- of the settings, and of the switches behind the port forwards, nearly all are gone
  · refine .inserted (by decide +kernel) ?_
    iterate 7 refine .deleted nofun ?_
    refine .remaining rfl ?_
    iterate 19 refine .deleted nofun ?_
    refine .remaining (.list (.cons forward .nil)) ?_
    iterate 19 refine .deleted nofun ?_
    exact .done
  · refine .inserted (by decide +kernel) (.remaining rfl ?_)
    iterate 15 refine .deleted nofun ?_
    refine .remaining rfl ?_
    iterate 30 refine .deleted nofun ?_
    exact .done

theorem load_revised_older : ∃ disk : Disk,
    twoProfiles.ids.Nodup ∧ Revised twoProfiles.write olderDocument ∧
    Json.tree? (Json.indented olderDocument) = some olderDocument ∧
    disk.readText? (path (.ofText "data")) = some (Json.indented olderDocument) ∧
    growingSupply.IsFresh (twoProfiles.activeId :: twoProfiles.ids) ∧
    ∃ ds loaded last,
      olderDocument.at? ["profiles"] = some (.list ds) ∧
      load disk (.ofText "data") growingSupply = (.read, loaded, last) ∧
      Supply.Threads ProfileOf.LoadedAs growingSupply twoProfiles.profiles ds loaded.profiles last ∧
      loaded.ids.Nodup ∧
      loaded.profiles[twoProfiles.markIn ds]? = some loaded.active ∧
      loaded.activeId = loaded.active.id := by
  have distinct : twoProfiles.ids.Nodup := by decide +kernel
  have plain : olderDocument.IsPlain := by
    simp [olderDocument, Json.Fits64]
  have text := Json.tree?_indented plain
  obtain ⟨disk, written⟩ : ∃ disk, (Disk.empty.makeDirectory (.ofText "data")).1.write
      (path (.ofText "data")) (.text (Json.indented olderDocument)) = some disk :=
    Option.isSome_iff_exists.mp (by decide +kernel)
  have file := Disk.readText?_write written
  have fresh : growingSupply.IsFresh (twoProfiles.activeId :: twoProfiles.ids) :=
    growingSupply_isFresh (by decide +kernel)
  exact ⟨disk, distinct, revised_olderDocument, text, file, fresh,
    load_revised distinct revised_olderDocument text file fresh⟩

end Book

end MeshWatch
