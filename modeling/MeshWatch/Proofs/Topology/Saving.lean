import Mathlib.Data.Nat.Digits.Defs
import MeshWatch.Proofs.Data.Reading
import MeshWatch.Proofs.Text.Decimal
import MeshWatch.Proofs.Text.Lines
import MeshWatch.Topology.Record

/-!
# What is said of the mesh is read as it was written

Addresses are read back from their four numbers and NAT classes from their name or their code, also
from a code that has a name of its own. Nodes, routes, links, peers and states of the engine are
then restored field by field.
-/
namespace MeshWatch

open Data (Restores)
open Saved (restored_field restored_field?)

/-! ## Addresses -/

namespace Ipv4

theorem octet_eq (a : Ipv4) {k : UInt32} (place : 8 * k.toNat < 32) :
    a.octet k = a.bits.toNat / 2 ^ (8 * k.toNat) % 256 := by
  have shift : (8 * k).toNat = 8 * k.toNat := by
    rw [UInt32.toNat_mul]
    exact Nat.mod_eq_of_lt (by simp; omega)
  rw [octet, UInt32.toNat_and, UInt32.toNat_shiftRight, shift, Nat.mod_eq_of_lt place,
    Nat.shiftRight_eq_div_pow]
  exact Nat.and_two_pow_sub_one_eq_mod _ 8

/-- An address is made again of its four numbers. -/
theorem value_octets (a : Ipv4) :
    ((a.octet 3 * 256 + a.octet 2) * 256 + a.octet 1) * 256 + a.octet 0 = a.bits.toNat := by
  have bound := a.bits.toNat_lt
  have third := a.octet_eq (k := 3) (by decide)
  have second := a.octet_eq (k := 2) (by decide)
  have first := a.octet_eq (k := 1) (by decide)
  have last := a.octet_eq (k := 0) (by decide)
  simp at third second first last
  omega

theorem octet_le (a : Ipv4) (k : UInt32) : a.octet k ≤ 255 := by
  rw [octet, UInt32.toNat_and]
  exact Nat.and_le_right

theorem readOctet?_toDigits {n : Nat} (le : n ≤ 255) : readOctet? (Nat.toDigits 10 n) = some n := by
  have short : (Nat.toDigits 10 n).length ≤ 3 :=
    (Nat.length_toDigits_le_iff (by decide) (by decide)).mpr (by omega)
  have plain : ¬ (1 < (Nat.toDigits 10 n).length ∧ (Nat.toDigits 10 n).head? = some '0') := by
    rintro ⟨long, zero⟩
    rcases Nat.eq_zero_or_pos n with rfl | positive
    · simp at long
    · exact Text.head?_toDigits positive zero
  rw [readOctet?, if_neg (not_or.mpr ⟨by omega, plain⟩), Text.readDigits?_toDigits]
  simp [le]

theorem ofText?_text (a : Ipv4) : ofText? a.text = some a := by
  have written : a.text.toList = Nat.toDigits 10 (a.octet 3) ++ '.' ::
      (Nat.toDigits 10 (a.octet 2) ++ '.' ::
        (Nat.toDigits 10 (a.octet 1) ++ '.' :: Nat.toDigits 10 (a.octet 0))) := by
    simp [text, String.toList_append]
  have fresh (n : Nat) : '.' ∉ Nat.toDigits 10 n := Text.not_mem_toDigits (by decide) n
  have octets : (Text.splitOn '.' a.text.toList).mapM readOctet? =
      some [a.octet 3, a.octet 2, a.octet 1, a.octet 0] := by
    rw [written, Text.splitOn_append (fresh _), Text.splitOn_append (fresh _),
      Text.splitOn_append (fresh _), Text.splitOn_eq_singleton (fresh _)]
    simp [readOctet?_toDigits, octet_le]
  rw [ofText?, octets]
  simp only [value_octets, UInt32.ofNat_toNat]

theorem read_text (a : Ipv4) : read (.text a.text) = .ok a := by
  simp only [read, ofText?_text]

instance : LawfulSaved Ipv4 := ⟨fun a => ⟨.text a.text, read_text a⟩⟩

instance : NonNullSaved Ipv4 := ⟨fun _ => nofun⟩

end Ipv4

instance : LawfulSaved VirtualAddress where
  restores v :=
    have restored := (restored_field "address" v.address).map VirtualAddress.mk
      |>.seq (restored_field "prefix_len" v.networkLength)
    Restores.record restored (by decide +kernel) _ _

instance : NonNullSaved VirtualAddress := ⟨fun _ => nofun⟩

/-! ## NAT classes -/

/-- A code that has a name of its own stays a code. -/
instance : LawfulSaved NatClass where
  restores c := by
    cases c with
    | other code =>
      have code_restores := LawfulSaved.restores code
      constructor
      · exact .record (List.forall_mem_singleton.mpr code_restores.plain)
      · change (Saved.read (Saved.write code)).map NatClass.other = _
        rw [code_restores.found]
        rfl
    | _ => exact ⟨.text _, rfl⟩

/-! ## Records -/

instance : LawfulSaved Node where
  restores n :=
    have restored := (restored_field "hostname" n.hostname).map Node.mk
      |>.seq (restored_field "version" n.version)
      |>.seq (restored_field? "virtual_addr" n.virtualAddress)
      |>.seq (restored_field "public_addrs" n.publicAddresses)
      |>.seq (restored_field "nat_type" n.natClass)
      |>.seq (restored_field "listeners" n.listeners)
      |>.seq (restored_field "interface_addrs" n.interfaceAddresses)
    Restores.record restored (by decide +kernel) _ _

instance : LawfulSaved Route where
  restores r :=
    have restored := (restored_field "peer_id" r.peerId).map Route.mk
      |>.seq (restored_field "hostname" r.hostname)
      |>.seq (restored_field? "virtual_ip" r.virtualIp)
      |>.seq (restored_field "next_hop_peer_id" r.nextHop)
      |>.seq (restored_field "path_latency_ms" r.pathLatency)
      |>.seq (restored_field "cost" r.cost)
      |>.seq (restored_field "version" r.version)
      |>.seq (restored_field "nat_type" r.natClass)
      |>.seq (restored_field "instance_id" r.instanceId)
    Restores.record restored (by decide +kernel) _ _

instance : LawfulSaved Link where
  restores l :=
    have restored := (restored_field "peer_id" l.peerId).map Link.mk
      |>.seq (restored_field "remote_addr" l.remoteAddress)
      |>.seq (restored_field "latency_us" l.latency)
      |>.seq (restored_field "rx_bytes" l.received)
      |>.seq (restored_field "tx_bytes" l.sent)
    Restores.record restored (by decide +kernel) _ _

instance : LawfulSaved Peer where
  restores p :=
    have restored := (restored_field "hostname" p.hostname).map Peer.mk
      |>.seq (restored_field "virtual_ip" p.virtualIp)
      |>.seq (restored_field "is_direct" p.isDirect)
      |>.seq (restored_field "connection_details" p.connection)
      |>.seq (restored_field "latency" p.latency)
      |>.seq (restored_field "traffic" p.traffic)
      |>.seq (restored_field "version" p.version)
      |>.seq (restored_field "nat_type" p.natClass)
      |>.seq (restored_field "cost" p.cost)
      |>.seq (restored_field "next_hop_peer_id" p.nextHop)
      |>.seq (restored_field "peer_id" p.peerId)
      |>.seq (restored_field "instance_id" p.instanceId)
    Restores.record restored (by decide +kernel) _ _

instance : LawfulSaved Topology where
  restores t :=
    have restored := (restored_field "node" t.node).map Topology.mk
      |>.seq (restored_field "peers" t.peers)
    Restores.record restored (by decide +kernel) _ _

instance : LawfulSaved EngineStatus where
  restores s :=
    have restored := (restored_field "running" s.running).map EngineStatus.mk
      |>.seq (restored_field "instance_name" s.instanceName)
      |>.seq (restored_field? "virtual_ipv4" s.virtualIpv4)
      |>.seq (restored_field "proxy_cidrs" s.proxyCidrs)
    Restores.record restored (by decide +kernel) _ _

end MeshWatch
