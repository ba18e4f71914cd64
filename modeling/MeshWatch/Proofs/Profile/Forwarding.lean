import MeshWatch.Proofs.Profile.Conversion
import MeshWatch.Proofs.Profile.Filling

/-!
# Port forwards that are exported and imported

A rule has a host and a port in one text, which is taken apart again at its last colon. As no port
has a colon in it, the parts are the ones it was made of, whatever the host is.
-/
namespace MeshWatch

open Text (trimmed allBlank)

/-- A port forward that was made of another one, under an id of its own. -/
structure PortForwardOf.Forwarded (f g : PortForward) : Prop where
  protocol : g.protocol = f.protocol
  bindIp : g.bindIp = if allBlank f.bindIp then "0.0.0.0" else trimmed f.bindIp
  bindPort : g.bindPort = f.bindPort
  targetIp : g.targetIp = trimmed f.targetIp
  targetPort : g.targetPort = f.targetPort

theorem PortForwardOf.Completes.forwarded {first last : Supply} {f g : PortForward}
    (completes : Completes first last f.reread g) : f.Forwarded g := by
  rw [completes.rest]
  exact ⟨rfl, rfl, rfl, rfl, rfl⟩

theorem EngineConfig.portForwards_toProfile (p : Profile) : p.toConfig.toProfile.portForwards =
    (p.portForwards.filter (·.isComplete)).map (·.reread) :=
  PortForwardOf.filterMap_portForward?_rule? p.portForwards

/-- Of every profile that is exported and imported, the complete port forwards and no others are
there in their order. -/
theorem EngineConfig.forwarded_imported (p : Profile) (supply : Supply) :
    List.Forall₂ PortForwardOf.Forwarded (p.portForwards.filter (·.isComplete))
      (p.toConfig.imported supply).portForwards := by
  have completed := (completes_name p.toConfig.toProfile supply).portForwards
  rw [portForwards_toProfile, List.forall₂_map_left_iff] at completed
  exact completed.imp fun _ _ completes => completes.forwarded

/-- A profile with an address that has colons, a slash and a space in it. -/
example : (((UnnamedProfile.name { ProfileOf.standard with
    portForwards := [⟨none, "udp", " ", some 53, " fe80::1 %0/64:9 ", some 65535⟩,
      ⟨none, "tcp", "::1", some 1, "\t", some 2⟩] } (.ofSeed 0)).1.toConfig.imported
    (.ofSeed 9)).portForwards.map fun f => (f.protocol, f.bindIp, f.bindPort, f.targetIp,
      f.targetPort)) = [("udp", "0.0.0.0", some 53, "fe80::1 %0/64:9", some 65535)] := by
  decide +kernel

end MeshWatch
