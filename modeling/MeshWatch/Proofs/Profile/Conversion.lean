import MeshWatch.Profile.Convert
import MeshWatch.Proofs.Text.Decimal
import MeshWatch.Proofs.Text.Lines

/-!
# From a profile to a configuration and back

A profile is exported, the configuration is imported, and the imported profile is exported again.
The second configuration is the first one but for five settings, and it is the first one
altogether when those five can be taken apart as they were put together.
-/
namespace MeshWatch

open Text (trimmed allBlank nonBlank items joinLines)

/-! ## Numbers and composite values -/

theorem readPort?_toDigits (port : UInt16) : readPort? (Nat.toDigits 10 port.toNat) = some port := by
  have bound : port.toNat ≤ 65535 := by have := port.toNat_lt; omega
  rw [readPort?, Text.trim_toDigits, Text.readBounded?_toDigits bound, Option.map_some,
    UInt16.ofNat_toNat]

theorem readLength?_toDigits (length : UInt8) :
    readLength? (Nat.toDigits 10 length.toNat) = some length := by
  have bound : length.toNat ≤ 255 := by have := length.toNat_lt; omega
  rw [readLength?, Text.trim_toDigits, Text.readBounded?_toDigits bound, Option.map_some,
    UInt8.ofNat_toNat]

theorem readMtu?_toString (mtu : UInt32) : readMtu? (toString mtu.toNat) = some mtu := by
  have bound : mtu.toNat ≤ 4294967295 := by have := mtu.toNat_lt; omega
  rw [readMtu?, Text.toList_toString, Text.trim_toDigits, Text.readBounded?_toDigits bound,
    Option.map_some, UInt32.ofNat_toNat]

theorem toList_withPort (host : String) (port : UInt16) :
    (withPort host port).toList = host.toList ++ ':' :: Nat.toDigits 10 port.toNat := by
  simp [withPort, String.toList_append]

theorem toList_withLength (address : String) (length : UInt8) :
    (withLength address length).toList = address.toList ++ '/' :: Nat.toDigits 10 length.toNat := by
  simp [withLength, String.toList_append]

theorem lastPort?_withPort (host : String) (port : UInt16) :
    lastPort? (withPort host port) = some port := by
  rw [lastPort?, toList_withPort, Text.cutLast_append (Text.not_mem_toDigits rfl _)]
  exact readPort?_toDigits port

theorem splitHostPort_withPort (host : String) (port : UInt16) :
    splitHostPort (withPort host port) = (trimmed host, some port) := by
  rw [splitHostPort, toList_withPort, Text.cutLast_append (Text.not_mem_toDigits rfl _)]
  simp only [readPort?_toDigits, trimmed]

theorem splitCidr_withLength {address : String} (whole : '/' ∉ address.toList) (length : UInt8)
    (usual : String) (usualLength : UInt8) :
    splitCidr (withLength address length) usual usualLength =
      (if allBlank address then usual else trimmed address, length) := by
  rw [splitCidr, toList_withLength, Text.cutFirst_append whole]
  simp only [readLength?_toDigits, Option.bind_some, Option.getD_some, Prod.mk.injEq, and_true]
  simp only [← Text.trimmed_eq_empty_iff, trimmed, String.ofList_eq_empty_iff]

/-! ## Settings that are put back as they were -/

theorem nonBlank_getD_nonBlank (s : String) : nonBlank ((nonBlank s).getD "") = nonBlank s := by
  rw [Text.getD_nonBlank, Text.nonBlank_trimmed]

theorem readMtu?_getD_readMtu? (s : String) :
    readMtu? (((readMtu? s).map fun mtu => toString mtu.toNat).getD "") = readMtu? s := by
  cases read : readMtu? s with
  | none => decide +kernel
  | some mtu => rw [Option.map_some, Option.getD_some, readMtu?_toString]

/-- A setting that was switched off is off when it is put back; off and blank come to the same. -/
theorem switched_nonBlank (on : Bool) (s : String) :
    (if (if on then nonBlank s else none).any fun w => !allBlank w then
      nonBlank ((if on then nonBlank s else none).getD "") else none) =
        if on then nonBlank s else none := by
  cases on with
  | false => simp
  | true =>
    cases blank : allBlank s with
    | true => simp [Text.nonBlank_eq, blank]
    | false => simp [Text.nonBlank_eq, Text.allBlank_trimmed, Text.trimmed_trimmed, blank]

theorem switched_items (on : Bool) (t : String) :
    (if !(if on then items t else []).isEmpty then items (joinLines (if on then items t else []))
      else []) = if on then items t else [] := by
  cases on with
  | false => rfl
  | true =>
    simp only [if_true, Text.items_joinLines_items]
    cases items t <;> rfl

theorem switched_port (on : Bool) (host : String) (port usual : UInt16) :
    (if (if on then some (withPort host port) else none).isSome then
      some (withPort host (((if on then some (withPort host port) else none).bind lastPort?).getD
        usual)) else none) = if on then some (withPort host port) else none := by
  cases on with
  | false => rfl
  | true => simp [lastPort?_withPort]

/-! ## Port forwards -/

namespace PortForwardOf

variable {ι : Type}

/-- What is read back from the rule of a port forward. Its id is still to be given. -/
def reread (f : PortForwardOf ι) : PortForwardOf (Option String) :=
  ⟨none, f.protocol, if allBlank f.bindIp then standard.bindIp else trimmed f.bindIp, f.bindPort,
    trimmed f.targetIp, f.targetPort⟩

theorem isComplete_reread (f : PortForwardOf ι) : f.reread.isComplete = f.isComplete := by
  simp only [isComplete, reread, Text.allBlank_trimmed]

theorem rule?_eq_none {f : PortForwardOf ι} (open_ : f.isComplete = false) : f.rule? = none := by
  rw [rule?, open_]
  rfl

theorem exists_rule {f : PortForwardOf ι} (complete : f.isComplete) :
    ∃ bindPort targetPort, f.bindPort = some bindPort ∧ f.targetPort = some targetPort ∧
      f.rule? = some ⟨withPort f.bindIp bindPort, withPort f.targetIp targetPort, f.protocol⟩ := by
  have ports := complete
  simp only [isComplete, Bool.and_eq_true, Option.isSome_iff_exists] at ports
  obtain ⟨⟨⟨bindPort, bind⟩, targetPort, target⟩, -⟩ := ports
  refine ⟨bindPort, targetPort, bind, target, ?_⟩
  rw [rule?, if_pos complete, bind, target]

theorem portForward?_of_rule {f : PortForwardOf ι} {r : ForwardRule} (h : f.rule? = some r) :
    r.portForward? = some f.reread := by
  cases complete : f.isComplete with
  | false =>
    rw [rule?_eq_none complete] at h
    cases h
  | true =>
    obtain ⟨bindPort, targetPort, bind, target, made⟩ := exists_rule complete
    obtain rfl := Option.some.inj (made.symm.trans h)
    have read : f.reread = ⟨none, f.protocol,
        if trimmed f.bindIp = "" then standard.bindIp else trimmed f.bindIp, some bindPort,
        trimmed f.targetIp, some targetPort⟩ := by
      simp only [reread, bind, target, Text.trimmed_eq_empty_iff]
    rw [ForwardRule.portForward?]
    simp only [splitHostPort_withPort]
    rw [← read, isComplete_reread, if_pos complete]

/-- The rules of the port forwards, and of these the port forwards again. -/
theorem filterMap_portForward?_rule? (fs : List (PortForwardOf ι)) :
    (fs.filterMap rule?).filterMap ForwardRule.portForward? =
      (fs.filter isComplete).map reread := by
  induction fs with
  | nil => rfl
  | cons f fs ih =>
    cases complete : f.isComplete with
    | false => simp [rule?_eq_none complete, complete, ih]
    | true =>
      obtain ⟨_, _, -, -, made⟩ := exists_rule complete
      simp [made, portForward?_of_rule made, complete, ih]

theorem nameForwards_rules (supply : Supply) (fs : List (PortForwardOf (Option String))) :
    (nameForwards supply fs).1.filterMap rule? = fs.filterMap rule? := by
  induction fs generalizing supply with
  | nil => rfl
  | cons f fs ih =>
    rw [nameForwards, List.filterMap_cons, List.filterMap_cons, ih]
    rfl

end PortForwardOf

/-! ## The second configuration -/

/-- The address that is made of the parts of an address. -/
def rereadAddress (cidr : String) : Option String :=
  let network := splitCidr cidr "" 24
  (nonBlank network.1).map (withLength · network.2)

/-- The VPN portal that is made of the parts of a portal. -/
def VpnPortal.reread (portal : VpnPortal) : VpnPortal :=
  let network := splitCidr portal.clientCidr ProfileOf.standard.vpnClientAddress 24
  ⟨withLength network.1 network.2,
    withPort "0.0.0.0" ((lastPort? portal.listen).getD ProfileOf.standard.vpnListenPort)⟩

def EngineFlags.reread (f : EngineFlags) : EngineFlags where
  deviceName := nonBlank (f.deviceName.getD "")
  mtu := readMtu? ((f.mtu.map fun mtu => toString mtu.toNat).getD "")
  relayWhitelist := if f.relayWhitelist.any fun w => !allBlank w then
      nonBlank (f.relayWhitelist.getD "") else none
  switches := f.switches

namespace EngineConfig

/-- The profile that a configuration is read as, with all ids given. -/
def imported (c : EngineConfig) (supply : Supply) : Profile := (c.toProfile.name supply).1

/-- The configuration that is made of the parts of a configuration, under some id. -/
def reread (c : EngineConfig) (instanceId : String) : EngineConfig := { c with
  instanceId
  hostname := nonBlank (c.hostname.getD "")
  ipv4 := if c.dhcp then none else c.ipv4.bind rereadAddress
  listeners := items (joinLines c.listeners)
  mappedListeners := items (joinLines c.mappedListeners)
  exitNodes := items (joinLines c.exitNodes)
  rpcPortal := nonBlank (c.rpcPortal.getD ProfileOf.standard.rpcPortal)
  rpcPortalWhitelist := items (joinLines c.rpcPortalWhitelist)
  routes := if !c.routes.isEmpty then items (joinLines c.routes) else []
  socks5Proxy := if c.socks5Proxy.isSome then
      some (withPort "socks5://0.0.0.0"
        ((c.socks5Proxy.bind lastPort?).getD ProfileOf.standard.socks5Port))
    else none
  peers := items (joinLines c.peers)
  proxyNetworks := items (joinLines c.proxyNetworks)
  vpnPortal := c.vpnPortal.map VpnPortal.reread
  forwards := (c.forwards.filterMap ForwardRule.portForward?).filterMap PortForwardOf.rule?
  flags := c.flags.reread }

attribute [ext] EngineFlags EngineConfig

theorem toProfile_id (c : EngineConfig) :
    c.toProfile.id = if allBlank c.instanceId then none else some c.instanceId := rfl

theorem toProfile_network (c : EngineConfig) :
    (c.toProfile.virtualIpv4, c.toProfile.networkLength) =
      (c.ipv4.map fun cidr => splitCidr cidr "" 24).getD ("", 24) := by
  rw [toProfile]
  cases c.ipv4 <;> rfl

theorem toProfile_vpn (c : EngineConfig) :
    (c.toProfile.vpnClientAddress, c.toProfile.vpnClientLength) =
      (c.vpnPortal.map fun portal =>
        splitCidr portal.clientCidr ProfileOf.standard.vpnClientAddress 24).getD
          (ProfileOf.standard.vpnClientAddress, 24) := by
  rw [toProfile]
  cases c.vpnPortal <;> rfl

/-- Exporting an imported configuration puts its parts together again. -/
theorem toConfig_imported (c : EngineConfig) (supply : Supply) :
    (c.imported supply).toConfig =
      c.reread (supply.idOr (if allBlank c.instanceId then none else some c.instanceId)).1 := by
  apply EngineConfig.ext
  case instanceId => exact congrArg (fun id => (supply.idOr id).1) (toProfile_id c)
  case ipv4 =>
    have network := toProfile_network c
    change (if c.dhcp then none
      else (nonBlank c.toProfile.virtualIpv4).map (withLength · c.toProfile.networkLength)) =
        if c.dhcp then none else c.ipv4.bind rereadAddress
    cases address : c.ipv4 with
    | none =>
      rw [address] at network
      obtain ⟨empty, -⟩ := Prod.mk.inj network
      rw [empty]
      rfl
    | some cidr =>
      rw [address, Option.map_some, Option.getD_some] at network
      rw [Option.bind_some, rereadAddress, ← network]
  case vpnPortal =>
    have network := toProfile_vpn c
    change (if c.vpnPortal.isSome then some (VpnPortal.mk
        (withLength c.toProfile.vpnClientAddress c.toProfile.vpnClientLength)
        (withPort "0.0.0.0" ((c.vpnPortal.bind fun portal => lastPort? portal.listen).getD
          ProfileOf.standard.vpnListenPort))) else none) = c.vpnPortal.map VpnPortal.reread
    cases on : c.vpnPortal with
    | none => rfl
    | some portal =>
      rw [on, Option.map_some, Option.getD_some] at network
      rw [Option.map_some, VpnPortal.reread, ← network]
      rfl
  case forwards => exact PortForwardOf.nameForwards_rules _ _
  all_goals rfl

theorem ipv4_toConfig (p : Profile) : p.toConfig.ipv4 =
    if p.dhcp || allBlank p.virtualIpv4 then none
    else some (withLength (trimmed p.virtualIpv4) p.networkLength) := by
  simp only [ProfileOf.toConfig, Text.nonBlank_eq]
  cases p.dhcp <;> cases allBlank p.virtualIpv4 <;> rfl

theorem vpnPortal_toConfig (p : Profile) : p.toConfig.vpnPortal =
    if p.vpnPortalOn then some ⟨withLength p.vpnClientAddress p.vpnClientLength,
      withPort "0.0.0.0" p.vpnListenPort⟩ else none :=
  rfl

/-- An exported configuration is put together again but for five settings. -/
theorem reread_toConfig (p : Profile) (id : String) :
    p.toConfig.reread id = { p.toConfig with
      instanceId := id
      ipv4 := p.toConfig.ipv4.bind rereadAddress
      rpcPortal := nonBlank ((nonBlank p.rpcPortal).getD ProfileOf.standard.rpcPortal)
      vpnPortal := p.toConfig.vpnPortal.map VpnPortal.reread
      forwards := ((p.portForwards.filter (·.isComplete)).map (·.reread)).filterMap (·.rule?) } := by
  have forwards := PortForwardOf.filterMap_portForward?_rule? p.portForwards
  have ipv4 : (if p.dhcp then none else p.toConfig.ipv4.bind rereadAddress) =
      p.toConfig.ipv4.bind rereadAddress := by
    cases off : p.dhcp <;> simp [ProfileOf.toConfig, off]
  simp only [ProfileOf.toConfig, ProfileOf.flags] at ipv4 ⊢
  simp only [reread, EngineFlags.reread, ipv4, forwards, nonBlank_getD_nonBlank,
    readMtu?_getD_readMtu?, Text.items_joinLines_items, switched_nonBlank, switched_items,
    switched_port]

end EngineConfig

end MeshWatch
