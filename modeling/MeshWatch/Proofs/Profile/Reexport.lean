import MeshWatch.Proofs.Profile.Conversion

/-!
# Exporting an imported profile

When the composite settings of a profile can be taken apart as they were put together, exporting
it, importing that and exporting again gives the same configuration in every setting.
-/
namespace MeshWatch

open Text (trimmed allBlank nonBlank)

/-- The composite settings of a profile can be taken apart as they were put together. Settings
that are switched off, and port forwards that are not complete, need not be. -/
structure ProfileOf.IsSeparable (p : Profile) : Prop where
  id : allBlank p.id = false
  rpcPortal : allBlank p.rpcPortal = false
  address : p.dhcp = false → '/' ∉ (trimmed p.virtualIpv4).toList
  vpnClient : p.vpnPortalOn → p.vpnClientAddress ≠ "" ∧
    trimmed p.vpnClientAddress = p.vpnClientAddress ∧ '/' ∉ p.vpnClientAddress.toList
  forwards : ∀ f ∈ p.portForwards, f.isComplete →
    f.bindIp ≠ "" ∧ trimmed f.bindIp = f.bindIp ∧ trimmed f.targetIp = f.targetIp

/-- A text that is not empty and is its own trim is not blank. -/
theorem allBlank_of_tight {s : String} (filled : s ≠ "") (tight : trimmed s = s) :
    allBlank s = false := by
  rw [Bool.eq_false_iff, ne_eq, ← Text.trimmed_eq_empty_iff, tight]
  exact filled

theorem rereadAddress_withLength {address : String} (whole : '/' ∉ address.toList)
    (filled : allBlank address = false) (tight : trimmed address = address) (length : UInt8) :
    rereadAddress (withLength address length) = some (withLength address length) := by
  rw [rereadAddress, splitCidr_withLength whole, filled]
  simp [tight, Text.nonBlank_eq, filled]

theorem VpnPortal.reread_eq {address : String} (filled : address ≠ "")
    (tight : trimmed address = address) (whole : '/' ∉ address.toList) (length : UInt8)
    (port : UInt16) :
    reread ⟨withLength address length, withPort "0.0.0.0" port⟩ =
      ⟨withLength address length, withPort "0.0.0.0" port⟩ := by
  simp only [reread, splitCidr_withLength whole, allBlank_of_tight filled tight, tight,
    lastPort?_withPort, Option.getD_some, Bool.false_eq_true, if_false]

namespace PortForwardOf

variable {ι : Type}

theorem rule?_reread {f : PortForwardOf ι} (complete : f.isComplete) (filled : f.bindIp ≠ "")
    (tight : trimmed f.bindIp = f.bindIp) (tightTarget : trimmed f.targetIp = f.targetIp) :
    f.reread.rule? = f.rule? := by
  have same : f.reread = ⟨none, f.protocol, f.bindIp, f.bindPort, f.targetIp, f.targetPort⟩ := by
    rw [reread, allBlank_of_tight filled tight, tight, tightTarget]
    rfl
  obtain ⟨bindPort, targetPort, bind, target, made⟩ := exists_rule complete
  rw [rule?, isComplete_reread, if_pos complete, same, made, bind, target]

/-- The rules of the port forwards that are read back. -/
theorem filterMap_rule?_reread {fs : List (PortForwardOf ι)}
    (fit : ∀ f ∈ fs, f.isComplete →
      f.bindIp ≠ "" ∧ trimmed f.bindIp = f.bindIp ∧ trimmed f.targetIp = f.targetIp) :
    ((fs.filter (·.isComplete)).map (·.reread)).filterMap (·.rule?) = fs.filterMap (·.rule?) := by
  rw [List.filterMap_map, List.filterMap_filter]
  refine List.filterMap_congr ?_
  intro f member
  cases complete : f.isComplete with
  | false => rw [rule?_eq_none complete]; rfl
  | true =>
    obtain ⟨filled, tight, tightTarget⟩ := fit f member complete
    rw [if_pos rfl, Function.comp_apply, rule?_reread complete filled tight tightTarget]

end PortForwardOf

variable {p : Profile}

theorem ipv4_reread (h : p.dhcp = false → '/' ∉ (trimmed p.virtualIpv4).toList) :
    p.toConfig.ipv4.bind rereadAddress = p.toConfig.ipv4 := by
  rw [EngineConfig.ipv4_toConfig]
  cases dhcp : p.dhcp with
  | true => rw [Bool.true_or, if_pos rfl, Option.bind_none]
  | false =>
    cases blank : allBlank p.virtualIpv4 with
    | true => rw [Bool.or_true, if_pos rfl, Option.bind_none]
    | false =>
      have filled : allBlank (trimmed p.virtualIpv4) = false := by rw [Text.allBlank_trimmed, blank]
      rw [Bool.or_self, if_neg Bool.false_ne_true, Option.bind_some]
      exact rereadAddress_withLength (h dhcp) filled (Text.trimmed_trimmed _) _

theorem vpnPortal_reread (h : p.vpnPortalOn → p.vpnClientAddress ≠ "" ∧
    trimmed p.vpnClientAddress = p.vpnClientAddress ∧ '/' ∉ p.vpnClientAddress.toList) :
    p.toConfig.vpnPortal.map VpnPortal.reread = p.toConfig.vpnPortal := by
  rw [EngineConfig.vpnPortal_toConfig]
  cases on : p.vpnPortalOn with
  | false => rfl
  | true =>
    obtain ⟨filled, tight, whole⟩ := h on
    exact congrArg some (VpnPortal.reread_eq filled tight whole _ _)

theorem rpcPortal_reread (h : allBlank p.rpcPortal = false) :
    nonBlank ((nonBlank p.rpcPortal).getD ProfileOf.standard.rpcPortal) = p.toConfig.rpcPortal := by
  simp [ProfileOf.toConfig, Text.nonBlank_eq, h, Text.allBlank_trimmed, Text.trimmed_trimmed]

/-- A profile whose composite settings can be taken apart loses nothing of its configuration when
the configuration is imported and exported again. -/
theorem toConfig_imported_toConfig (separable : p.IsSeparable) (supply : Supply) :
    (p.toConfig.imported supply).toConfig = p.toConfig := by
  have id : (supply.idOr (if allBlank p.toConfig.instanceId then none
      else some p.toConfig.instanceId)).1 = p.toConfig.instanceId := by
    simp [ProfileOf.toConfig, separable.id, Supply.idOr]
  have forwards : ((p.portForwards.filter (·.isComplete)).map (·.reread)).filterMap (·.rule?) =
      p.toConfig.forwards :=
    PortForwardOf.filterMap_rule?_reread separable.forwards
  rw [EngineConfig.toConfig_imported, id, EngineConfig.reread_toConfig,
    ipv4_reread separable.address, rpcPortal_reread separable.rpcPortal,
    vpnPortal_reread separable.vpnClient, forwards]

/-- A profile with every kind of setting: addresses with blanks around them and with colons inside,
settings on several lines, a portal, and a port forward that is not complete. -/
def officeProfile : Profile := (UnnamedProfile.name { ProfileOf.standard with
    id := some "office"
    dhcp := false
    virtualIpv4 := " 10.144.144.5 "
    peers := "tcp://198.51.100.1:11010\r\n\n  udp://198.51.100.2:11010"
    vpnPortalOn := true
    mtu := "+1380"
    manualRoutesOn := true
    manualRoutes := " \n"
    socks5On := true
    portForwards := [⟨some "a", "tcp", "::1", some 8080, "fe80::9/64", some 80⟩,
      ⟨some "b", "udp", " ", some 1, "10.0.0.1", none⟩] } (.ofSeed 0)).1

theorem toConfig_imported_toConfig_office : officeProfile.IsSeparable ∧
    (officeProfile.toConfig.imported (.ofSeed 0)).toConfig = officeProfile.toConfig := by
  have separable : officeProfile.IsSeparable := by
    refine ⟨?_, ?_, ?_, ?_, ?_⟩ <;> decide +kernel
  exact ⟨separable, toConfig_imported_toConfig separable _⟩

end MeshWatch
