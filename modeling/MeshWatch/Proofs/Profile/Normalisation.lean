import MeshWatch.Proofs.Profile.Reexport

/-!
# Importing twice

A profile that comes back from an import is in a normal form: its texts are trimmed, its lists are
written one item to a line, what is switched off has its usual value, and its port forwards are
complete. A profile in normal form comes back as it was, but for the ids of its port forwards. So
whatever a profile looked like, exporting and importing it a second time changes nothing more.
-/
namespace MeshWatch

open Text (trim trimmed allBlank nonBlank items joinLines isBlank)

/-! ## Networks -/

/-- An address that stands in front of a slash as it is. -/
structure IsHost (address : String) : Prop where
  filled : address ≠ ""
  tight : trimmed address = address
  whole : '/' ∉ address.toList

theorem isHost_standard : IsHost ProfileOf.standard.vpnClientAddress := by
  constructor <;> decide +kernel

/-- Nothing but a number is read as a length. -/
theorem readLength?_of_slash {s : List Char} (member : '/' ∈ s) : readLength? s = none := by
  have inside : '/' ∈ trim s := Text.mem_trim (by decide) member
  rw [readLength?, Text.readBounded?_eq_none inside (by decide) (by decide), Option.map_none]

theorem splitCidr_of_isHost {address : String} (host : IsHost address) (length : UInt8)
    (usual : String) (usualLength : UInt8) :
    splitCidr (withLength address length) usual usualLength = (address, length) := by
  rw [splitCidr_withLength host.whole, allBlank_of_tight host.filled host.tight, host.tight]
  rfl

theorem isHost_trimmed {s : String} (filled : allBlank s = false) (whole : '/' ∉ s.toList) :
    IsHost (trimmed s) := by
  refine ⟨?_, Text.trimmed_trimmed s, ?_⟩
  · rw [ne_eq, Text.trimmed_eq_empty_iff, filled]
    exact Bool.false_ne_true
  · rw [Text.toList_trimmed]
    exact fun inside => whole ((Text.trim_sublist _).subset inside)

/-- An address with a slash inside is cut there, and the length behind it is lost. -/
theorem splitCidr_of_slash {address : String} (slash : '/' ∈ address.toList) (length : UInt8)
    (usual : String) (usualLength : UInt8) : ∃ front : String, '/' ∉ front.toList ∧
      splitCidr (withLength address length) usual usualLength =
        (if allBlank front then usual else trimmed front, usualLength) := by
  obtain ⟨front, back, split, fresh⟩ := List.eq_append_cons_of_mem slash
  refine ⟨String.ofList front, by rwa [String.toList_ofList], ?_⟩
  have cut : (withLength address length).toList =
      front ++ '/' :: (back ++ '/' :: Nat.toDigits 10 length.toNat) := by
    rw [toList_withLength, split, List.append_assoc, List.cons_append]
  have unread : readLength? (back ++ '/' :: Nat.toDigits 10 length.toNat) = none :=
    readLength?_of_slash (by simp)
  rw [splitCidr, cut, Text.cutFirst_append fresh]
  simp only [Option.bind_some, unread, Option.getD_none, Prod.mk.injEq, and_true]
  simp only [← Text.trimmed_eq_empty_iff, trimmed, String.toList_ofList, String.ofList_eq_empty_iff]

/-- What a network is read back as is made of a host, or of the values to fall back on. -/
theorem splitCidr_withLength_cases (address : String) (length : UInt8) (usual : String)
    (usualLength : UInt8) :
    IsHost (splitCidr (withLength address length) usual usualLength).1 ∨
      (splitCidr (withLength address length) usual usualLength).1 = usual ∧
        ((splitCidr (withLength address length) usual usualLength).2 = usualLength ∨
          allBlank address) := by
  by_cases slash : '/' ∈ address.toList
  · obtain ⟨front, whole, read⟩ := splitCidr_of_slash slash length usual usualLength
    rw [read]
    cases blank : allBlank front with
    | true => exact .inr ⟨rfl, .inl rfl⟩
    | false => exact .inl (isHost_trimmed blank whole)
  · rw [splitCidr_withLength slash]
    cases blank : allBlank address with
    | true => exact .inr ⟨rfl, .inr rfl⟩
    | false => exact .inl (isHost_trimmed blank slash)

/-! ## Port forwards -/

namespace PortForwardOf

variable {ι : Type}

/-- A port forward whose id is still to be given. -/
def unnamed (f : PortForwardOf ι) : PortForwardOf (Option String) := { f with id := none }

theorem reread_reread (f : PortForwardOf ι) : f.reread.reread = f.reread := by
  have usual : allBlank standard.bindIp = false ∧ trimmed standard.bindIp = standard.bindIp := by
    decide +kernel
  by_cases blank : allBlank f.bindIp
  · simp [reread, blank, usual, Text.trimmed_trimmed]
  · simp [reread, blank, Text.allBlank_trimmed, Text.trimmed_trimmed]

/-- Giving ids changes nothing else. -/
theorem unnamed_nameForwards (supply : Supply) (fs : List (PortForwardOf (Option String))) :
    (nameForwards supply fs).1.map unnamed = fs.map unnamed := by
  induction fs generalizing supply with
  | nil => rfl
  | cons f fs ih =>
    rw [nameForwards, List.map_cons, List.map_cons, ih]
    rfl

end PortForwardOf

/-! ## One round -/

/-- What a profile is read back as when its configuration is imported. Ids of port forwards, and a
blank id of the profile, are still to be given. -/
def ProfileOf.reread (p : Profile) : UnnamedProfile :=
  let network := if p.dhcp || allBlank p.virtualIpv4 then ("", 24)
    else splitCidr (withLength (trimmed p.virtualIpv4) p.networkLength) "" 24
  let vpn := if p.vpnPortalOn then
      splitCidr (withLength p.vpnClientAddress p.vpnClientLength) standard.vpnClientAddress 24
    else (standard.vpnClientAddress, 24)
  let relayWhitelist := if p.relayWhitelistOn then trimmed p.relayWhitelist else ""
  let manualRoutes := if p.manualRoutesOn then items p.manualRoutes else []
  { p with
    id := if allBlank p.id then none else some p.id
    virtualIpv4 := network.1
    networkLength := network.2
    peers := joinLines (items p.peers)
    hostname := trimmed p.hostname
    proxyNetworks := joinLines (items p.proxyNetworks)
    vpnClientAddress := vpn.1
    vpnClientLength := vpn.2
    vpnListenPort := if p.vpnPortalOn then p.vpnListenPort else standard.vpnListenPort
    listeners := joinLines (items p.listeners)
    deviceName := trimmed p.deviceName
    mtu := ((readMtu? p.mtu).map fun mtu => toString mtu.toNat).getD ""
    relayWhitelistOn := !allBlank relayWhitelist
    relayWhitelist := relayWhitelist
    manualRoutesOn := !manualRoutes.isEmpty
    manualRoutes := joinLines manualRoutes
    socks5Port := if p.socks5On then p.socks5Port else standard.socks5Port
    exitNodes := joinLines (items p.exitNodes)
    mappedListeners := joinLines (items p.mappedListeners)
    rpcPortal := if allBlank p.rpcPortal then standard.rpcPortal else trimmed p.rpcPortal
    rpcPortalWhitelist := joinLines (items p.rpcPortalWhitelist)
    portForwards := (p.portForwards.filter (·.isComplete)).map (·.reread) }

attribute [ext] ProfileOf

theorem getD_switched (on : Bool) (s : String) :
    (if on then nonBlank s else none).getD "" = if on then trimmed s else "" := by
  cases on with
  | false => rfl
  | true => rw [if_pos rfl, if_pos rfl, Text.getD_nonBlank]

theorem getD_nonBlank_usual (s usual : String) :
    (nonBlank s).getD usual = if allBlank s then usual else trimmed s := by
  rw [Text.nonBlank_eq]
  split <;> rfl

/-- A setting that can be switched off is on when something is left of it. -/
theorem any_filled (w : Option String) :
    (w.any fun s => !allBlank s) = !allBlank (w.getD "") := by
  cases w <;> rfl

theorem getD_switched_port (on : Bool) (host : String) (port usual : UInt16) :
    ((if on then some (withPort host port) else none).bind lastPort?).getD usual =
      if on then port else usual := by
  cases on with
  | false => rfl
  | true => simp [lastPort?_withPort]

theorem network_reread (p : Profile) : (p.reread.virtualIpv4, p.reread.networkLength) =
    (p.toConfig.ipv4.map fun cidr => splitCidr cidr "" 24).getD ("", 24) := by
  rw [EngineConfig.ipv4_toConfig]
  cases off : p.dhcp || allBlank p.virtualIpv4 <;> simp [ProfileOf.reread, off]

theorem vpn_reread (p : Profile) : (p.reread.vpnClientAddress, p.reread.vpnClientLength) =
    (p.toConfig.vpnPortal.map fun portal =>
      splitCidr portal.clientCidr ProfileOf.standard.vpnClientAddress 24).getD
        (ProfileOf.standard.vpnClientAddress, 24) := by
  rw [EngineConfig.vpnPortal_toConfig]
  cases on : p.vpnPortalOn <;> simp [ProfileOf.reread, on]

/-- What comes back of a profile. -/
theorem toProfile_toConfig (p : Profile) : p.toConfig.toProfile = p.reread := by
  have network := (EngineConfig.toProfile_network _).trans (network_reread p).symm
  have vpn := (EngineConfig.toProfile_vpn _).trans (vpn_reread p).symm
  have portal := EngineConfig.vpnPortal_toConfig p
  have hostname : p.toConfig.hostname.getD "" = trimmed p.hostname := by
    simp only [ProfileOf.toConfig, Text.getD_nonBlank]
  have deviceName : p.toConfig.flags.deviceName.getD "" = trimmed p.deviceName := by
    simp only [ProfileOf.toConfig, ProfileOf.flags, Text.getD_nonBlank]
  have rpcPortal : p.toConfig.rpcPortal.getD ProfileOf.standard.rpcPortal =
      if allBlank p.rpcPortal then ProfileOf.standard.rpcPortal else trimmed p.rpcPortal := by
    simp only [ProfileOf.toConfig, getD_nonBlank_usual]
  -- Settings are read from a configuration of which nothing is known but what it was made of.
  obtain ⟨c, made⟩ : ∃ c, c = p.toConfig := ⟨_, rfl⟩
  rw [← made] at network vpn portal ⊢
  apply ProfileOf.ext
  case id => exact congrArg (fun c => if allBlank c.instanceId then none else some c.instanceId) made
  case instanceName => exact congrArg EngineConfig.instanceName made
  case dhcp => exact congrArg EngineConfig.dhcp made
  case networkName => exact congrArg EngineConfig.networkName made
  case networkSecret => exact congrArg EngineConfig.networkSecret made
  case switches => exact congrArg (·.flags.switches) made
  case virtualIpv4 => exact congrArg Prod.fst network
  case networkLength => exact congrArg Prod.snd network
  case vpnClientAddress => exact congrArg Prod.fst vpn
  case vpnClientLength => exact congrArg Prod.snd vpn
  case vpnPortalOn =>
    refine (congrArg Option.isSome portal).trans ?_
    cases on : p.vpnPortalOn <;> exact on.symm
  case vpnListenPort =>
    refine (congrArg (fun portal => (portal.bind fun portal => lastPort? portal.listen).getD
      ProfileOf.standard.vpnListenPort) portal).trans ?_
    cases on : p.vpnPortalOn <;> simp [ProfileOf.reread, on, lastPort?_withPort]
  case peers => exact congrArg (joinLines ·.peers) made
  case proxyNetworks => exact congrArg (joinLines ·.proxyNetworks) made
  case listeners => exact congrArg (joinLines ·.listeners) made
  case exitNodes => exact congrArg (joinLines ·.exitNodes) made
  case mappedListeners => exact congrArg (joinLines ·.mappedListeners) made
  case rpcPortalWhitelist => exact congrArg (joinLines ·.rpcPortalWhitelist) made
  case hostname => exact (congrArg (·.hostname.getD "") made).trans hostname
  case deviceName => exact (congrArg (·.flags.deviceName.getD "") made).trans deviceName
  case rpcPortal =>
    exact (congrArg (·.rpcPortal.getD ProfileOf.standard.rpcPortal) made).trans rpcPortal
  case mtu =>
    exact congrArg (fun c => (c.flags.mtu.map fun mtu => toString mtu.toNat).getD "") made
  case relayWhitelist =>
    exact (congrArg (·.flags.relayWhitelist.getD "") made).trans (getD_switched _ _)
  case relayWhitelistOn =>
    exact (any_filled _).trans (congrArg (!allBlank ·)
      ((congrArg (·.flags.relayWhitelist.getD "") made).trans (getD_switched _ _)))
  case manualRoutes => exact congrArg (joinLines ·.routes) made
  case manualRoutesOn => exact congrArg (!·.routes.isEmpty) made
  case socks5On =>
    refine (congrArg (·.socks5Proxy.isSome) made).trans ?_
    cases on : p.socks5On <;> simp [ProfileOf.toConfig, ProfileOf.reread, on]
  case socks5Port =>
    exact (congrArg (fun c => (c.socks5Proxy.bind lastPort?).getD ProfileOf.standard.socks5Port)
      made).trans (getD_switched_port _ _ _ _)
  case portForwards =>
    exact (congrArg (·.forwards.filterMap ForwardRule.portForward?) made).trans
      (PortForwardOf.filterMap_portForward?_rule? _)

/-! ## The normal form -/

/-- A profile that says what it says in the one way in which it is written after an import. Only
its own id may be anything. -/
structure ProfileOf.IsNormal {ι : Type} (p : ProfileOf ι) : Prop where
  network : p.virtualIpv4 = "" ∧ p.networkLength = 24 ∨ p.dhcp = false ∧ IsHost p.virtualIpv4
  vpnClient : IsHost p.vpnClientAddress
  vpnOff : p.vpnPortalOn = false → p.vpnClientAddress = standard.vpnClientAddress ∧
    p.vpnClientLength = 24 ∧ p.vpnListenPort = standard.vpnListenPort
  texts : ∀ s ∈ [p.hostname, p.deviceName, p.relayWhitelist, p.rpcPortal], trimmed s = s
  lists : ∀ t ∈ [p.peers, p.proxyNetworks, p.listeners, p.exitNodes, p.mappedListeners,
    p.rpcPortalWhitelist, p.manualRoutes], joinLines (items t) = t
  mtu : ((readMtu? p.mtu).map fun mtu => toString mtu.toNat).getD "" = p.mtu
  rpcPortal : allBlank p.rpcPortal = false
  relayWhitelist : p.relayWhitelistOn = !allBlank p.relayWhitelist
  manualRoutes : p.manualRoutesOn = !(items p.manualRoutes).isEmpty
  socks5Off : p.socks5On = false → p.socks5Port = standard.socks5Port
  forwards : ∀ f ∈ p.portForwards.map (·.unnamed), f.isComplete ∧ f.reread = f

namespace PortForwardOf

variable {ι : Type}

/-- What is left of port forwards after one round is left of them after the next. -/
theorem isNormal_reread (fs : List (PortForwardOf ι)) :
    ∀ f ∈ ((fs.filter (·.isComplete)).map (·.reread)).map (·.unnamed),
      f.isComplete ∧ f.reread = f := by
  intro f member
  obtain ⟨_, inside, rfl⟩ := List.mem_map.mp member
  obtain ⟨g, kept, rfl⟩ := List.mem_map.mp inside
  obtain ⟨-, complete⟩ := List.mem_filter.mp kept
  constructor
  · exact (isComplete_reread g).trans complete
  · exact reread_reread g

theorem reread_of_isNormal {fs : List (PortForwardOf ι)}
    (normal : ∀ f ∈ fs.map (·.unnamed), f.isComplete ∧ f.reread = f) :
    (fs.filter (·.isComplete)).map (·.reread) = fs.map (·.unnamed) := by
  have complete : fs.filter (·.isComplete) = fs := by
    rw [List.filter_eq_self]
    intro f member
    exact (normal f.unnamed (List.mem_map_of_mem member)).1
  rw [complete]
  apply List.map_congr_left
  intro f member
  exact (normal f.unnamed (List.mem_map_of_mem member)).2

end PortForwardOf

namespace ProfileOf

theorem network_isNormal (p : Profile) :
    p.reread.virtualIpv4 = "" ∧ p.reread.networkLength = 24 ∨
      p.dhcp = false ∧ IsHost p.reread.virtualIpv4 := by
  cases off : p.dhcp || allBlank p.virtualIpv4 with
  | true => left; simp [reread, off]
  | false =>
    obtain ⟨static, filled⟩ := Bool.or_eq_false_iff.mp off
    have read : (p.reread.virtualIpv4, p.reread.networkLength) =
        splitCidr (withLength (trimmed p.virtualIpv4) p.networkLength) "" 24 := by
      simp [reread, off]
    have cases := splitCidr_withLength_cases (trimmed p.virtualIpv4) p.networkLength "" 24
    rw [← read, Text.allBlank_trimmed, filled] at cases
    rcases cases with host | ⟨empty, usual | blank⟩
    · exact .inr ⟨static, host⟩
    · exact .inl ⟨empty, usual⟩
    · cases blank

theorem vpnClient_isNormal (p : Profile) : IsHost p.reread.vpnClientAddress := by
  cases on : p.vpnPortalOn with
  | false =>
    have usual : p.reread.vpnClientAddress = standard.vpnClientAddress := by simp [reread, on]
    rw [usual]
    exact isHost_standard
  | true =>
    have read : p.reread.vpnClientAddress =
        (splitCidr (withLength p.vpnClientAddress p.vpnClientLength)
          standard.vpnClientAddress 24).1 := by
      simp [reread, on]
    rw [read]
    rcases splitCidr_withLength_cases p.vpnClientAddress p.vpnClientLength
      standard.vpnClientAddress 24 with host | ⟨usual, -⟩
    · exact host
    · rw [usual]
      exact isHost_standard

/-- One round brings every profile to its normal form. -/
theorem isNormal_reread (p : Profile) : p.reread.IsNormal := by
  have relay : trimmed p.reread.relayWhitelist = p.reread.relayWhitelist := by
    cases on : p.relayWhitelistOn <;> simp [reread, on, Text.trimmed_trimmed]
    decide +kernel
  have portal : trimmed p.reread.rpcPortal = p.reread.rpcPortal ∧
      allBlank p.reread.rpcPortal = false := by
    cases blank : allBlank p.rpcPortal with
    | true =>
      simp only [reread, blank, if_true]
      decide +kernel
    | false => simp [reread, blank, Text.trimmed_trimmed, Text.allBlank_trimmed]
  have routes : joinLines (items p.reread.manualRoutes) = p.reread.manualRoutes ∧
      p.reread.manualRoutesOn = !(items p.reread.manualRoutes).isEmpty := by
    cases on : p.manualRoutesOn with
    | false =>
      simp only [reread, on, Bool.false_eq_true, if_false]
      decide +kernel
    | true => simp [reread, on, Text.items_joinLines_items]
  constructor
  case network => exact network_isNormal p
  case vpnClient => exact vpnClient_isNormal p
  case vpnOff =>
    intro off
    have off : p.vpnPortalOn = false := off
    simp [reread, off]
  case texts =>
    simp only [List.forall_mem_cons]
    exact ⟨Text.trimmed_trimmed _, Text.trimmed_trimmed _, relay, portal.1, by simp⟩
  case lists =>
    have lined (t : String) : joinLines (items (joinLines (items t))) = joinLines (items t) :=
      congrArg joinLines (Text.items_joinLines_items t)
    simp only [List.forall_mem_cons]
    exact ⟨lined p.peers, lined p.proxyNetworks, lined p.listeners, lined p.exitNodes,
      lined p.mappedListeners, lined p.rpcPortalWhitelist, routes.1, by simp⟩
  case mtu => simp only [reread, readMtu?_getD_readMtu?]
  case rpcPortal => exact portal.2
  case relayWhitelist => rfl
  case manualRoutes => exact routes.2
  case socks5Off =>
    intro off
    have off : p.socks5On = false := off
    simp [reread, off]
  case forwards => exact PortForwardOf.isNormal_reread p.portForwards

/-- Giving ids keeps a normal form. -/
theorem IsNormal.name {p : UnnamedProfile} (normal : p.IsNormal) (supply : Supply) :
    (p.name supply).1.IsNormal where
  network := normal.network
  vpnClient := normal.vpnClient
  vpnOff := normal.vpnOff
  texts := normal.texts
  lists := normal.lists
  mtu := normal.mtu
  rpcPortal := normal.rpcPortal
  relayWhitelist := normal.relayWhitelist
  manualRoutes := normal.manualRoutes
  socks5Off := normal.socks5Off
  forwards := by
    have same := PortForwardOf.unnamed_nameForwards (supply.idOr p.id).2 p.portForwards
    intro f member
    exact normal.forwards f (same ▸ member)

/-- A profile in normal form comes back as it was, but for the ids of its port forwards. -/
theorem reread_of_isNormal {p : Profile} (normal : p.IsNormal) (named : allBlank p.id = false) :
    p.reread = { p with id := some p.id, portForwards := p.portForwards.map (·.unnamed) } := by
  have texts := normal.texts
  have lists := normal.lists
  simp only [List.forall_mem_cons] at texts lists
  obtain ⟨hostname, deviceName, relayWhitelist, rpcPortal, -⟩ := texts
  obtain ⟨peers, proxyNetworks, listeners, exitNodes, mappedListeners, rpcWhitelist, routes, -⟩ :=
    lists
  have network : (p.reread.virtualIpv4, p.reread.networkLength) =
      (p.virtualIpv4, p.networkLength) := by
    rcases normal.network with ⟨empty, usual⟩ | ⟨static, host⟩
    · have off : (p.dhcp || allBlank p.virtualIpv4) = true := by
        rw [empty, Bool.or_eq_true]
        exact .inr rfl
      simp only [reread, off, if_true]
      rw [empty, usual]
    · have filled := allBlank_of_tight host.filled host.tight
      simp [reread, static, filled, host.tight, splitCidr_of_isHost host]
  have vpn : (p.reread.vpnClientAddress, p.reread.vpnClientLength) =
      (p.vpnClientAddress, p.vpnClientLength) := by
    cases on : p.vpnPortalOn with
    | true => simp [reread, on, splitCidr_of_isHost normal.vpnClient]
    | false =>
      obtain ⟨address, length, -⟩ := normal.vpnOff on
      simp [reread, on, address, length]
  have relay : (if p.relayWhitelistOn then trimmed p.relayWhitelist else "") = p.relayWhitelist := by
    rw [normal.relayWhitelist, relayWhitelist]
    cases blank : allBlank p.relayWhitelist with
    | false => rfl
    | true => exact (relayWhitelist.symm.trans (Text.trimmed_eq_empty_iff.mpr blank)).symm
  have routed : (if p.manualRoutesOn then items p.manualRoutes else []) = items p.manualRoutes := by
    rw [normal.manualRoutes]
    cases items p.manualRoutes <;> rfl
  apply ProfileOf.ext
  case id => simp [reread, named]
  case virtualIpv4 => exact congrArg Prod.fst network
  case networkLength => exact congrArg Prod.snd network
  case vpnClientAddress => exact congrArg Prod.fst vpn
  case vpnClientLength => exact congrArg Prod.snd vpn
  case vpnListenPort =>
    cases on : p.vpnPortalOn with
    | true => simp [reread, on]
    | false => simp [reread, on, normal.vpnOff on]
  case peers => exact peers
  case proxyNetworks => exact proxyNetworks
  case listeners => exact listeners
  case exitNodes => exact exitNodes
  case mappedListeners => exact mappedListeners
  case rpcPortalWhitelist => exact rpcWhitelist
  case hostname => exact hostname
  case deviceName => exact deviceName
  case mtu => exact normal.mtu
  case rpcPortal => simp [reread, normal.rpcPortal, rpcPortal]
  case relayWhitelist => exact relay
  case relayWhitelistOn => exact (congrArg (!allBlank ·) relay).trans normal.relayWhitelist.symm
  case manualRoutes => exact (congrArg joinLines routed).trans routes
  case manualRoutesOn => exact (congrArg (!·.isEmpty) routed).trans normal.manualRoutes.symm
  case socks5Port =>
    cases on : p.socks5On with
    | true => simp [reread, on]
    | false => simp [reread, on, normal.socks5Off on]
  case portForwards => exact PortForwardOf.reread_of_isNormal normal.forwards
  all_goals rfl

end ProfileOf

/-! ## Two rounds -/

/-- None of the ids that a supply holds is blank. -/
def Supply.NeverBlank (supply : Supply) : Prop := ∀ n, allBlank (supply.id n) = false

/-- The text of a UUID has a dash in it. -/
theorem Supply.neverBlank_ofSeed (seed : Nat) : (Supply.ofSeed seed).NeverBlank := by
  intro n
  have dash : '-' ∈ (uuidText (seed + n)).toList := by simp [uuidText]
  rw [Bool.eq_false_iff, ne_eq, allBlank, List.all_eq_true]
  intro blank
  exact absurd (blank '-' dash) (by decide)

/-- A profile that comes back from an import has an id. -/
theorem allBlank_id_imported (p : Profile) {supply : Supply} (fresh : supply.NeverBlank) :
    allBlank (p.toConfig.imported supply).id = false := by
  have id : (p.toConfig.imported supply).id =
      (supply.idOr (if allBlank p.id then none else some p.id)).1 :=
    congrArg (fun q => (supply.idOr q).1) (EngineConfig.toProfile_id p.toConfig)
  rw [id]
  cases blank : allBlank p.id with
  | true => exact fresh supply.used
  | false => exact blank

theorem isNormal_imported (p : Profile) (supply : Supply) :
    (p.toConfig.imported supply).IsNormal := by
  rw [EngineConfig.imported, toProfile_toConfig]
  exact (ProfileOf.isNormal_reread p).name supply

theorem imported_of_isNormal {q : Profile} (normal : q.IsNormal) (named : allBlank q.id = false)
    (supply : Supply) : q.toConfig.imported supply =
      { q with portForwards := (nameForwards supply (q.portForwards.map (·.unnamed))).1 } := by
  rw [EngineConfig.imported, toProfile_toConfig, ProfileOf.reread_of_isNormal normal named]
  rfl

/-- Whatever a profile looks like, exporting and importing it a second time changes nothing more
than the ids of its port forwards. -/
theorem imported_again (p : Profile) {first : Supply} (fresh : first.NeverBlank) (second : Supply) :
    let q := p.toConfig.imported first
    let r := q.toConfig.imported second
    r = { q with portForwards := r.portForwards } ∧
      r.portForwards.map (·.unnamed) = q.portForwards.map (·.unnamed) := by
  intro q r
  have again : r = { q with
      portForwards := (nameForwards second (q.portForwards.map (·.unnamed))).1 } :=
    imported_of_isNormal (isNormal_imported p first) (allBlank_id_imported p fresh) second
  constructor
  · rw [again]
  · rw [again]
    exact (PortForwardOf.unnamed_nameForwards second _).trans (List.map_map ..)

/-- A profile in which nothing is as an import would leave it: a blank id, an address with a
second slash, blanks in front of a slash, a blank portal, and port forwards of which one is not
complete and one has no host to bind to. -/
def clutteredProfile : Profile where
  id := " "
  instanceName := " lab "
  virtualIpv4 := " 10.1.2.3 /8"
  networkLength := 16
  dhcp := false
  networkName := ""
  networkSecret := " "
  peers := "\n tcp://198.51.100.1:11010 \r\n\n"
  hostname := "\t"
  proxyNetworks := " "
  vpnPortalOn := true
  vpnClientAddress := " /24"
  vpnClientLength := 255
  vpnListenPort := 0
  listeners := ""
  deviceName := " mesh0"
  mtu := " +01380 "
  relayWhitelistOn := true
  relayWhitelist := " "
  manualRoutesOn := false
  manualRoutes := "10.0.0.0/8"
  socks5On := false
  socks5Port := 9
  exitNodes := "a\n\nb"
  mappedListeners := ""
  rpcPortal := " "
  rpcPortalWhitelist := ""
  portForwards := [⟨"a", " tcp", " ", some 8080, " fe80::9/64 ", some 80⟩,
    ⟨"b", "udp", "0.0.0.0", some 1, "10.0.0.1", none⟩]
  switches := .standard

theorem imported_again_cluttered : (Supply.ofSeed 0).NeverBlank ∧
    let q := clutteredProfile.toConfig.imported (.ofSeed 0)
    let r := q.toConfig.imported (.ofSeed 7)
    r = { q with portForwards := r.portForwards } ∧
      r.portForwards.map (·.unnamed) = q.portForwards.map (·.unnamed) :=
  have fresh := Supply.neverBlank_ofSeed 0
  ⟨fresh, imported_again clutteredProfile fresh (.ofSeed 7)⟩

end MeshWatch
