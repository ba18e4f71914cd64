import Mathlib.Data.List.Pairwise
import MeshWatch.Proofs.Snapshot.Reading
import MeshWatch.Proofs.Text.ByteOrder
import MeshWatch.Proofs.Topology.Table

/-!
# Peers of a report

What the peers of a snapshot are in terms of the arrays of the report. There is one peer for each
id of a route. The first route of an id makes the peer, the first entry that leads to the id makes
it direct, and the first route of its next hop names the host it is reached by. Sorting by
hostname leaves peers of one hostname in the order of their routes.
-/
namespace MeshWatch

/-! ## Sorting -/

section Sorting

variable {α : Type} {le : α → α → Bool} {a b : α} {xs : List α}

theorem pair_sublist_or (ha : a ∈ xs) (hb : b ∈ xs) (ne : a ≠ b) :
    [a, b].Sublist xs ∨ [b, a].Sublist xs := by
  have either : xs.Pairwise fun x y => [x, y].Sublist xs ∨ [y, x].Sublist xs :=
    List.pairwise_iff_forall_sublist.mpr .inl
  have symmetric : Std.Symm fun x y : α => [x, y].Sublist xs ∨ [y, x].Sublist xs :=
    ⟨fun _ _ => Or.symm⟩
  exact either.forall ha hb ne

/-- Two members of a list without repetition stand in one order only. -/
theorem not_sublist_swap (distinct : xs.Nodup) (h : [a, b].Sublist xs) :
    ¬ [b, a].Sublist xs := by
  induction xs with
  | nil => cases h
  | cons x xs ih =>
    obtain ⟨fresh, distinct⟩ := List.nodup_cons.mp distinct
    intro swapped
    cases h with
    | cons _ h =>
      cases swapped with
      | cons _ swapped => exact ih distinct h swapped
      | cons_cons _ swapped => exact fresh (h.subset (by simp))
    | cons_cons _ h =>
      cases swapped with
      | cons _ swapped => exact fresh (swapped.subset (by simp))
      | cons_cons _ swapped => exact fresh (swapped.subset (by simp))

/-- Sorting keeps the order of members that may stand either way. -/
theorem pairwise_mergeSort_of_tie {R : α → α → Prop}
    (trans : ∀ a b c, le a b → le b c → le a c) (total : ∀ a b, le a b || le b a)
    (distinct : xs.Nodup) (h : xs.Pairwise R) :
    (xs.mergeSort le).Pairwise fun a b => le b a → R a b := by
  have sortedDistinct : (xs.mergeSort le).Nodup :=
    (List.mergeSort_perm xs le).nodup_iff.mpr distinct
  refine List.pairwise_iff_forall_sublist.mpr ?_
  intro a b sorted tie
  have ne : a ≠ b := by simpa using sortedDistinct.sublist sorted
  have member {x : α} (hx : x ∈ [a, b]) : x ∈ xs := List.mem_mergeSort.mp (sorted.subset hx)
  rcases pair_sublist_or (member (by simp)) (member (by simp)) ne with kept | swapped
  · exact List.pairwise_iff_forall_sublist.mp h kept
  · have resorted := List.pair_sublist_mergeSort trans total tie swapped
    exact absurd resorted (not_sublist_swap sortedDistinct sorted)

end Sorting

/-! ## Peers -/

namespace Snapshot

variable {text name : String} {s : Snapshot} {routes : List Route} {entries : List (List Data)}
  {links : List Link}

/-- What a peer shows of its route `r`, among all routes and the entries of all peers. -/
structure Shows (routes : List Route) (entries : List (List Data)) (r : Route) (p : Peer) :
    Prop where
  hostname : p.hostname = r.hostname
  virtualIp : p.virtualIp = r.virtualIpLabel
  version : p.version = r.version
  natClass : p.natClass = r.natClass
  cost : p.cost = r.cost
  nextHop : p.nextHop = r.nextHop
  peerId : p.peerId = r.peerId
  instanceId : p.instanceId = r.instanceId
  direct_iff : p.isDirect ↔ ∃ conns ∈ entries, ∃ l, Leads conns l ∧ l.peerId = r.peerId
  direct : p.isDirect → ∃ l, FirstTo entries r.peerId l ∧ p.connection = l.remoteAddress ∧
    p.latency = toString (l.latency.toNat / 1000) ++ " ms" ∧
    p.traffic = Measure.traffic l.received l.sent
  relayed : ¬ p.isDirect →
    p.connection = "via " ++
      ((routes.find? (·.peerId = r.nextHop)).map (·.hostname)).getD "unknown" ∧
    p.latency = toString r.pathLatency.toNat ++ " ms (path)" ∧ p.traffic = "not applicable"

/-- The peers that some routes and entries stand for. -/
structure Resolves (routes : List Route) (entries : List (List Data)) (peers : List Peer) :
    Prop where
  distinct : (peers.map (·.peerId)).Nodup
  ids : ∀ key, key ∈ peers.map (·.peerId) ↔ key ∈ routes.map (·.peerId)
  shown : ∀ p ∈ peers, ∃ r, routes.find? (·.peerId = p.peerId) = some r ∧
    Shows routes entries r p
  ordered : peers.Pairwise fun p q => Text.utf8 p.hostname ≤ Text.utf8 q.hostname
  stable : peers.Pairwise fun p q => p.hostname = q.hostname →
    (routes.map (·.peerId)).idxOf p.peerId < (routes.map (·.peerId)).idxOf q.peerId

theorem peer_shows (linked : firstLinks entries = .ok links) (r : Route) :
    Shows routes entries r (Topology.peer (.ofList routes) (.ofList links) r) := by
  have found := found_firstLinks linked r.peerId
  have leads := leads_iff linked r.peerId
  rw [Topology.peer, Table.get?_ofList]
  cases search : links.find? (·.peerId = r.peerId) with
  | none =>
    have absent : r.peerId ∉ links.map (·.peerId) := by simpa using search
    refine ⟨rfl, rfl, rfl, rfl, rfl, rfl, rfl, rfl, ?_, nofun, ?_⟩
    · rw [leads]
      exact ⟨nofun, fun known => absurd known absent⟩
    · intro _
      refine ⟨?_, rfl, rfl⟩
      rw [← Table.get?_ofList]
      rfl
  | some l =>
    have same : l.peerId = r.peerId := by simpa using List.find?_some search
    have known : r.peerId ∈ links.map (·.peerId) :=
      List.mem_map.mpr ⟨l, List.mem_of_find?_eq_some search, same⟩
    rw [search] at found
    refine ⟨rfl, rfl, rfl, rfl, rfl, rfl, rfl, rfl, ?_, ?_, ?_⟩
    · rw [leads]
      exact ⟨fun _ => known, fun _ => rfl⟩
    · intro _
      exact ⟨l, found, rfl, rfl, rfl⟩
    · intro relayed
      exact absurd rfl relayed

theorem notAfter_iff (p q : Peer) :
    Topology.notAfter p q ↔ Text.utf8 p.hostname ≤ Text.utf8 q.hostname := by
  rw [Topology.notAfter, ← List.not_lt, Text.utf8_lt_iff]
  simp

theorem notAfter_trans (p q r : Peer) (first : Topology.notAfter p q)
    (second : Topology.notAfter q r) : Topology.notAfter p r := by
  rw [notAfter_iff] at *
  exact List.le_trans first second

theorem notAfter_total (p q : Peer) : Topology.notAfter p q || Topology.notAfter q p := by
  rw [Bool.or_eq_true, notAfter_iff, notAfter_iff]
  exact List.le_total _ _

/-- The peers before they are sorted. -/
def unsorted (routes : List Route) (links : List Link) : List Peer :=
  (Table.firsts Route.peerId routes).map (Topology.peer (.ofList routes) (.ofList links))

theorem resolve_ofList : Topology.resolve (.ofList routes) (.ofList links) =
    (unsorted routes links).mergeSort Topology.notAfter := by
  rw [Topology.resolve, Table.toList_ofList, unsorted]

theorem ids_unsorted (linked : firstLinks entries = .ok links) :
    (unsorted routes links).map (·.peerId) =
      (Table.firsts Route.peerId routes).map Route.peerId := by
  rw [unsorted, List.map_map]
  exact List.map_congr_left fun r _ => (peer_shows linked r).peerId

theorem unsorted_pairwise (linked : firstLinks entries = .ok links) :
    (unsorted routes links).Pairwise fun p q =>
      (routes.map (·.peerId)).idxOf p.peerId < (routes.map (·.peerId)).idxOf q.peerId := by
  refine List.pairwise_map.mpr ((Table.firsts_pairwise routes).imp ?_)
  intro a b less
  rw [(peer_shows linked a).peerId, (peer_shows linked b).peerId]
  exact less

theorem peers_resolve (linked : firstLinks entries = .ok links) :
    Resolves routes entries (Topology.resolve (.ofList routes) (.ofList links)) := by
  have sorted := List.mergeSort_perm (unsorted routes links) Topology.notAfter
  have distinct : ((unsorted routes links).map (·.peerId)).Nodup :=
    ids_unsorted linked ▸ Table.nodup_firsts routes
  rw [resolve_ofList]
  refine ⟨?_, ?_, ?_, ?_, ?_⟩
  · exact (sorted.map _).nodup_iff.mpr distinct
  · intro key
    rw [(sorted.map _).mem_iff, ids_unsorted linked, Table.id_mem_firsts]
  · intro p member
    obtain ⟨r, kept, rfl⟩ := List.mem_map.mp (sorted.mem_iff.mp member)
    have shows : Shows routes entries r _ := peer_shows linked r
    refine ⟨r, ?_, shows⟩
    rw [shows.peerId]
    exact Table.find?_of_mem_firsts kept
  · refine (List.pairwise_mergeSort notAfter_trans notAfter_total _).imp ?_
    intro p q
    exact (notAfter_iff p q).mp
  · refine (pairwise_mergeSort_of_tie notAfter_trans notAfter_total (distinct.of_map _)
      (unsorted_pairwise linked)).imp ?_
    intro p q inOrder same
    exact inOrder ((notAfter_iff q p).mpr (same ▸ List.le_refl _))

/-- The first route of each id is shown. -/
theorem Resolves.exists_shows {peers : List Peer} {key : UInt64} {r : Route}
    (h : Resolves routes entries peers) (first : routes.find? (·.peerId = key) = some r) :
    ∃ p ∈ peers, Shows routes entries r p := by
  have same : r.peerId = key := by simpa using List.find?_some first
  have known : key ∈ routes.map (·.peerId) :=
    List.mem_map.mpr ⟨r, List.mem_of_find?_eq_some first, same⟩
  obtain ⟨p, member, rfl⟩ := List.mem_map.mp ((h.ids key).mpr known)
  obtain ⟨r', first', shows⟩ := h.shown p member
  obtain rfl : r = r' := Option.some.inj (first.symm.trans first')
  exact ⟨p, member, shows⟩

/-- The peers of a snapshot are those of the routes and of the first connections in its report. -/
theorem decoded_peers_resolve (h : decode text name = .ok s) :
    ∃ members routes entries, report text name = .ok members ∧
      Reads members .routes readRoute routes ∧ Reads members .peers readPeer entries ∧
      Resolves routes entries s.peers := by
  obtain ⟨members, parts, links, reported, divided, linked, rfl⟩ := exists_of_decode h
  obtain ⟨readRoutes, readEntries⟩ := reads_of_sections divided
  exact ⟨members, parts.routes, parts.peers, reported, readRoutes, readEntries,
    peers_resolve linked⟩

/-- Two routes of one peer, with its connection, and a route of another one behind it. Records
are written as the lists of their fields. -/
def meshText : String :=
  "\x7b\"map\":\x7b\"mesh-a\":\x7b\"my_node_info\":[\"self\",\"2\",null,[[]],[[],0],[]]," ++
  "\"routes\":[[7,\"node-b\",null,3,9,2,\"2\",null,\"x\"]," ++
  "[3,\"node-a\",null,3,9,1,\"2\",null,\"y\"],[3,\"node-c\",null,3,9,1,\"2\",null,\"z\"]]," ++
  "\"peers\":[[[]],[[[3,[[\"tcp://a\"]],[12000,1,2]]]]],\"events\":[]\x7d\x7d\x7d"

theorem sections_meshText : ((report meshText "mesh-a").bind sections).toOption.map (fun parts =>
    (parts.routes.map fun r => (r.peerId, r.hostname, r.nextHop),
      (firstLinks parts.peers).toOption.map (·.map (·.peerId)))) =
    some ([(7, "node-b", 3), (3, "node-a", 3), (3, "node-c", 3)], some [3]) := by
  decide +kernel

/-- The route that comes first names the peer and the hop of the one behind it. -/
theorem decoded_peers_resolve_repeated_route : ∃ s, decode meshText "mesh-a" = .ok s ∧
    (∃ p ∈ s.peers, p.peerId = 3 ∧ p.hostname = "node-a" ∧ p.isDirect) ∧
    ∃ p ∈ s.peers, p.peerId = 7 ∧ p.hostname = "node-b" ∧ p.connection = "via node-a" := by
  obtain ⟨parts, divided, known⟩ := exists_of_toOption_map sections_meshText
  obtain ⟨members, reported, divided⟩ := exists_of_bind divided
  obtain ⟨rows, linkIds⟩ := Prod.mk.inj known
  obtain ⟨links, linked, linkIds⟩ := exists_of_toOption_map linkIds
  have decoded : decode meshText "mesh-a" =
      .ok ⟨parts.node, .ofList parts.routes, .ofList links, parts.records.reverse⟩ := by
    rw [decode, reported, Except.bind, divided, Except.bind, ofSections_eq linked]
  refine ⟨_, decoded, ?_⟩
  obtain ⟨members', routes, entries, reported', readRoutes, readEntries, resolved⟩ :=
    decoded_peers_resolve decoded
  obtain rfl : members = members' := Except.ok.inj (reported.symm.trans reported')
  obtain rfl : parts.routes = routes := (reads_of_sections divided).1.eq readRoutes
  obtain rfl : parts.peers = entries := (reads_of_sections divided).2.eq readEntries
  have row (key : UInt64) : (parts.routes.find? (·.peerId = key)).map
      (fun r => (r.peerId, r.hostname, r.nextHop)) =
        [(7, "node-b", 3), (3, "node-a", 3), (3, "node-c", 3)].find? (·.1 = key) := by
    rw [← rows, List.find?_map]
    rfl
  obtain ⟨near, firstNear, nearRow⟩ := Option.map_eq_some_iff.mp (row 3)
  obtain ⟨far, firstFar, farRow⟩ := Option.map_eq_some_iff.mp (row 7)
  simp only [Prod.mk.injEq] at nearRow farRow
  obtain ⟨p, member, shows⟩ := resolved.exists_shows firstNear
  obtain ⟨q, member', shows'⟩ := resolved.exists_shows firstFar
  refine ⟨⟨p, member, shows.peerId.trans nearRow.1, shows.hostname.trans nearRow.2.1, ?_⟩,
    q, member', shows'.peerId.trans farRow.1, shows'.hostname.trans farRow.2.1, ?_⟩
  · rw [shows.direct_iff, leads_iff linked, linkIds, nearRow.1]
    decide
  · have relayed : ¬ q.isDirect := by
      rw [shows'.direct_iff, leads_iff linked, linkIds, farRow.1]
      decide
    rw [(shows'.relayed relayed).1, farRow.2.2, firstNear, Option.map_some, nearRow.2.1]
    decide

end Snapshot

end MeshWatch
