import MeshWatch.Proofs.Profile.Conversion

/-!
# Settings that are in a document

Sixteen settings are left out of the document of an engine when they are off or blank. When the
document is imported and exported again, the same ones are left out, but for two: a blank portal
of the remote calls comes back as the usual one, and an address without anything before its first
slash does not come back.
-/
namespace MeshWatch

open Text (trim trimmed allBlank nonBlank isBlank)

/-! ## Members of a tree -/

namespace Data

/-- What is found along a path of names. -/
def at? : List String → Data → Option Data
  | [], d => some d
  | name :: path, .record members => (member? name members).bind (at? path)
  | _ :: _, _ => none

variable {name : String} {members : List (String × Option Data)}

theorem at?_present_of_not_mem (fresh : name ∉ members.map Prod.fst) (path : List String) :
    (present members).at? (name :: path) = none := by
  rw [present, at?]
  induction members with
  | nil => rfl
  | cons other members ih =>
    obtain ⟨name', value'⟩ := other
    simp only [List.map_cons, List.mem_cons, not_or] at fresh
    cases value' with
    | none => exact ih fresh.2
    | some v => simpa [member?, Ne.symm fresh.1] using ih fresh.2

/-- A member of a record that is written without its absent members. -/
theorem at?_present (distinct : (members.map Prod.fst).Nodup) (value : Option Data)
    (member : (name, value) ∈ members) (path : List String) :
    (present members).at? (name :: path) = value.bind (at? path) := by
  induction members with
  | nil => cases member
  | cons other members ih =>
    obtain ⟨name', value'⟩ := other
    rw [List.map_cons, List.nodup_cons] at distinct
    rcases List.mem_cons.mp member with first | later
    · obtain ⟨rfl, rfl⟩ := Prod.mk.inj first
      cases value with
      | none => exact at?_present_of_not_mem distinct.1 path
      | some v => simp [present, at?, member?]
    · have listed : name ∈ members.map Prod.fst := List.mem_map_of_mem (f := Prod.fst) later
      have other : name' ≠ name := by
        rintro rfl
        exact distinct.1 listed
      have rest := ih distinct.2 later
      rw [present, at?] at rest
      cases value' with
      | none => exact rest
      | some v => simpa [present, at?, member?, other] using rest

end Data

/-! ## Settings that may be left out -/

/-- The settings that are left out of a document when they are off or blank. -/
inductive OptionalSetting
  | hostname | ipv4 | listeners | mappedListeners | exitNodes | rpcPortal | rpcPortalWhitelist
  | routes | socks5Proxy | peers | proxyNetworks | vpnPortal | forwards
  | deviceName | mtu | relayWhitelist
deriving DecidableEq

/-- Where a setting stands in the document. -/
def OptionalSetting.path : OptionalSetting → List String
  | .hostname => ["hostname"]
  | .ipv4 => ["ipv4"]
  | .listeners => ["listeners"]
  | .mappedListeners => ["mapped_listeners"]
  | .exitNodes => ["exit_nodes"]
  | .rpcPortal => ["rpc_portal"]
  | .rpcPortalWhitelist => ["rpc_portal_whitelist"]
  | .routes => ["routes"]
  | .socks5Proxy => ["socks5_proxy"]
  | .peers => ["peer"]
  | .proxyNetworks => ["proxy_network"]
  | .vpnPortal => ["vpn_portal_config"]
  | .forwards => ["port_forward"]
  | .deviceName => ["flags", "dev_name"]
  | .mtu => ["flags", "mtu"]
  | .relayWhitelist => ["flags", "relay_network_whitelist"]

namespace EngineConfig

/-- A setting is in the document of a configuration. -/
def Writes (c : EngineConfig) (s : OptionalSetting) : Prop := (c.write.at? s.path).isSome

instance (c : EngineConfig) (s : OptionalSetting) : Decidable (c.Writes s) :=
  inferInstanceAs (Decidable (_ = true))

/-- What a configuration writes for a setting. -/
def written? (c : EngineConfig) : OptionalSetting → Option Data
  | .hostname => c.hostname.map .text
  | .ipv4 => c.ipv4.map .text
  | .listeners => unlessEmpty .text c.listeners
  | .mappedListeners => unlessEmpty .text c.mappedListeners
  | .exitNodes => unlessEmpty .text c.exitNodes
  | .rpcPortal => c.rpcPortal.map .text
  | .rpcPortalWhitelist => unlessEmpty .text c.rpcPortalWhitelist
  | .routes => unlessEmpty .text c.routes
  | .socks5Proxy => c.socks5Proxy.map .text
  | .peers => unlessEmpty (fun uri => .record [("uri", .text uri)]) c.peers
  | .proxyNetworks => unlessEmpty (fun cidr => .record [("cidr", .text cidr)]) c.proxyNetworks
  | .vpnPortal => c.vpnPortal.map portalData
  | .forwards => unlessEmpty forwardData c.forwards
  | .deviceName => c.flags.deviceName.map Saved.write
  | .mtu => c.flags.mtu.map Saved.write
  | .relayWhitelist => c.flags.relayWhitelist.map Saved.write

theorem at?_write (c : EngineConfig) (s : OptionalSetting) :
    c.write.at? s.path = c.written? s := by
  have bind_at? (value : Option Data) : value.bind (Data.at? []) = value := by
    cases value <;> rfl
  cases s
  case deviceName | mtu | relayWhitelist =>
    rw [OptionalSetting.path, write,
      Data.at?_present (by simp) (some (flagsData c.flags)) (by simp), Option.bind_some, flagsData]
    refine (Data.at?_present ?_ _ ?_ []).trans (bind_at? _)
    · simp [Switches.members]
    · simp [written?]
  all_goals
    refine (Data.at?_present ?_ _ ?_ []).trans (bind_at? _)
    · simp
    · simp [written?]

theorem writes_iff (c : EngineConfig) (s : OptionalSetting) :
    c.Writes s ↔ (c.written? s).isSome := by
  rw [Writes, at?_write]

theorem isSome_unlessEmpty {α : Type} (write : α → Data) (as : List α) :
    (unlessEmpty write as).isSome = !as.isEmpty := by
  cases as <;> rfl

end EngineConfig

/-! ## The two exceptions -/

theorem splitCidr_fst {cidr : String} {front back : List Char}
    (cut : Text.cutFirst '/' cidr.toList = some (front, back)) (length : UInt8) :
    (splitCidr cidr "" length).1 = trimmed (String.ofList front) := by
  simp only [splitCidr, cut, trimmed, String.toList_ofList]
  split
  · rename_i empty
    rw [empty]
  · rfl

/-- An address is read back unless it starts with a slash. -/
theorem isSome_rereadAddress {address : String} (filled : allBlank address = false)
    (tight : trimmed address = address) (length : UInt8) :
    (rereadAddress (withLength address length)).isSome ↔ address.toList.head? ≠ some '/' := by
  obtain ⟨front, back, cut⟩ : ∃ front back,
      Text.cutFirst '/' (withLength address length).toList = some (front, back) := by
    refine Text.exists_cutFirst ?_
    simp [toList_withLength]
  have read : (rereadAddress (withLength address length)).isSome ↔ ∃ c ∈ front, ¬ isBlank c := by
    rw [rereadAddress, splitCidr_fst cut, Text.nonBlank_trimmed, Text.nonBlank_eq]
    cases blank : allBlank (String.ofList front) <;> simp_all [allBlank]
  have chars : trim address.toList = address.toList := by
    rw [← Text.toList_trimmed, tight]
  rw [toList_withLength] at cut
  rw [read]
  cases split : address.toList with
  | nil =>
    simp [allBlank, split] at filled
  | cons x rest =>
    have solid : isBlank x = false := Text.isBlank_head_trim (chars.trans split)
    rw [split, List.cons_append, Text.cutFirst] at cut
    by_cases slash : x = '/'
    · rw [if_pos slash] at cut
      obtain ⟨rfl, -⟩ := Prod.mk.inj (Option.some.inj cut)
      simp [slash]
    · rw [if_neg slash] at cut
      obtain ⟨⟨front', back'⟩, -, made⟩ := Option.map_eq_some_iff.mp cut
      obtain ⟨rfl, -⟩ := Prod.mk.inj made
      simp [slash, solid]

theorem isSome_ipv4_reread (p : Profile) : (p.toConfig.ipv4.bind rereadAddress).isSome ↔
    p.toConfig.ipv4.isSome ∧ (trimmed p.virtualIpv4).toList.head? ≠ some '/' := by
  rw [EngineConfig.ipv4_toConfig]
  cases off : p.dhcp || allBlank p.virtualIpv4 with
  | true => simp
  | false =>
    have filled := (Bool.or_eq_false_iff.mp off).2
    rw [← Text.allBlank_trimmed] at filled
    simp [isSome_rereadAddress filled (Text.trimmed_trimmed _)]

/-- A blank portal of the remote calls is read back as the usual one. -/
theorem isSome_rpcPortal_reread (s : String) :
    (nonBlank ((nonBlank s).getD ProfileOf.standard.rpcPortal)).isSome := by
  cases blank : allBlank s with
  | true =>
    rw [Text.nonBlank_eq s, if_pos blank]
    decide +kernel
  | false => simp [Text.nonBlank_eq, Text.allBlank_trimmed, blank]

theorem PortForwardOf.rule?_eq_none_iff {ι : Type} (f : PortForwardOf ι) :
    f.rule? = none ↔ f.isComplete = false := by
  refine ⟨?_, rule?_eq_none⟩
  intro none
  by_contra complete
  obtain ⟨_, _, -, -, made⟩ := exists_rule (eq_true_of_ne_false complete)
  rw [none] at made
  cases made

/-- Port forwards that are read back from rules have rules again, so none are left only if there
were none. -/
theorem isEmpty_rules_reread {ι : Type} (fs : List (PortForwardOf ι)) :
    (((fs.filter (·.isComplete)).map (·.reread)).filterMap (·.rule?)).isEmpty =
      (fs.filterMap (·.rule?)).isEmpty := by
  rw [Bool.eq_iff_iff, List.isEmpty_iff, List.isEmpty_iff, List.filterMap_map,
    List.filterMap_filter, List.filterMap_eq_nil_iff, List.filterMap_eq_nil_iff]
  refine forall₂_congr ?_
  intro f _
  cases complete : f.isComplete with
  | false => simp [PortForwardOf.rule?_eq_none complete]
  | true => simp [PortForwardOf.rule?_eq_none_iff, PortForwardOf.isComplete_reread, complete]

/-- The settings that are in the document of an imported profile. -/
theorem writes_imported_iff (p : Profile) (supply : Supply) (s : OptionalSetting) :
    (p.toConfig.imported supply).toConfig.Writes s ↔
      (s = .rpcPortal ∨ p.toConfig.Writes s) ∧
        ¬ (s = .ipv4 ∧ (trimmed p.virtualIpv4).toList.head? = some '/') := by
  have ipv4 := isSome_ipv4_reread p
  have rpcPortal := isSome_rpcPortal_reread p.rpcPortal
  have forwards : _ = p.toConfig.forwards.isEmpty := isEmpty_rules_reread p.portForwards
  rw [EngineConfig.toConfig_imported, EngineConfig.reread_toConfig, EngineConfig.writes_iff,
    EngineConfig.writes_iff]
  generalize p.toConfig = c at *
  cases s
  case ipv4 =>
    simp only [EngineConfig.written?, Option.isSome_map, ipv4, reduceCtorEq, false_or, true_and,
      ne_eq]
  case rpcPortal =>
    simp only [EngineConfig.written?, Option.isSome_map, rpcPortal, reduceCtorEq, true_or,
      false_and, not_false_eq_true, and_self]
  case forwards =>
    simp only [EngineConfig.written?, EngineConfig.isSome_unlessEmpty, forwards, reduceCtorEq,
      false_or, false_and, not_false_eq_true, and_true]
  all_goals
    simp only [EngineConfig.written?, Option.isSome_map, reduceCtorEq, false_or, false_and,
      not_false_eq_true, and_true]

/-- A profile of both exceptions. -/
def labProfile : Profile := (UnnamedProfile.name { ProfileOf.standard with
    id := some "lab"
    dhcp := false
    virtualIpv4 := "/24"
    rpcPortal := "" } (.ofSeed 0)).1

/-- A blanked portal is opened by an import, and an address that starts with a slash is lost. -/
theorem writes_changed_by_import :
    (¬ labProfile.toConfig.Writes .rpcPortal ∧
      (labProfile.toConfig.imported (.ofSeed 0)).toConfig.Writes .rpcPortal) ∧
    (labProfile.toConfig.Writes .ipv4 ∧
      ¬ (labProfile.toConfig.imported (.ofSeed 0)).toConfig.Writes .ipv4) := by
  decide +kernel

end MeshWatch
