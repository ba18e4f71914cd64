import Mathlib.Data.List.Find
import Mathlib.Data.List.Perm.Basic
import MeshWatch.Proofs.Snapshot.Drafting
import MeshWatch.Proofs.Topology.Resolution

/-!
# Arrays in another order

An engine lists its routes and peers in any order. Tables keep the first row of an id, a next hop
is the first route of its id, and sorting leaves peers of one hostname as they came, so in general
the order shows. It shows nowhere when no two routes share an id or a hostname and no two entries
lead to one peer: then the peers of a snapshot are the same for every order of its arrays.
-/
namespace MeshWatch

/-! ## Lists in another order -/

section Lists

variable {α κ : Type}

theorem find?_eq_of_perm [DecidableEq κ] {key : α → κ} {xs ys : List α} (perm : xs.Perm ys)
    (distinct : (xs.map key).Nodup) (k : κ) :
    xs.find? (key · = k) = ys.find? (key · = k) := by
  refine List.find?_eq_find?_of_perm perm ?_
  rintro a ⟨memberA, foundA⟩ b ⟨memberB, foundB⟩
  refine List.inj_on_of_nodup_map distinct memberA memberB ?_
  exact (of_decide_eq_true foundA).trans (of_decide_eq_true foundB).symm

/-- Sorting forgets the order of its input where no two members may stand either way. -/
theorem mergeSort_eq_of_perm {le : α → α → Bool} {xs ys : List α}
    (trans : ∀ a b c, le a b → le b c → le a c) (total : ∀ a b, le a b || le b a)
    (strict : ∀ a ∈ xs, ∀ b ∈ xs, le a b → le b a → a = b) (perm : xs.Perm ys) :
    xs.mergeSort le = ys.mergeSort le := by
  refine List.Perm.eq_of_pairwise ?_ (List.pairwise_mergeSort trans total xs)
    (List.pairwise_mergeSort trans total ys) ?_
  · intro a b memberA memberB
    have memberB' := perm.mem_iff.mpr (List.mem_mergeSort.mp memberB)
    exact strict a (List.mem_mergeSort.mp memberA) b memberB'
  · exact (List.mergeSort_perm xs le).trans (perm.trans (List.mergeSort_perm ys le).symm)

end Lists

namespace Snapshot

variable {text name text' name' : String} {routes routes' : List Route}
  {entries entries' : List (List Data)} {links links' : List Link} {s s' : Snapshot}

/-- A text has a report whose arrays are read as these routes and these entries of peers, and `s`
is what it is decoded as. -/
structure Describes (text name : String) (routes : List Route) (entries : List (List Data))
    (s : Snapshot) : Prop where
  decoded : decode text name = .ok s
  arrays : ∃ members, report text name = .ok members ∧ Reads members .routes readRoute routes ∧
    Reads members .peers readPeer entries

/-- No two entries lead to one peer. -/
def LeadApart (entries : List (List Data)) : Prop :=
  entries.Pairwise fun conns others => ∀ l m, Leads conns l → Leads others m → l.peerId ≠ m.peerId

theorem Describes.exists_links (described : Describes text name routes entries s) :
    ∃ links, firstLinks entries = .ok links ∧
      s.peers = (unsorted routes links).mergeSort Topology.notAfter := by
  obtain ⟨members, parts, links, reported, divided, linked, rfl⟩ :=
    exists_of_decode described.decoded
  obtain ⟨members', reported', readRoutes, readEntries⟩ := described.arrays
  obtain rfl : members = members' := Except.ok.inj (reported.symm.trans reported')
  obtain rfl : parts.routes = routes := (reads_of_sections divided).1.eq readRoutes
  obtain rfl : parts.peers = entries := (reads_of_sections divided).2.eq readEntries
  exact ⟨links, linked, resolve_ofList⟩

/-- The links are those of the entries that have a connection, one by one. -/
theorem forall₂_leads (linked : firstLinks entries = .ok links) :
    List.Forall₂ Leads (entries.filter (!·.isEmpty)) links := by
  induction entries using firstLinks.induct generalizing links with
  | case1 =>
    obtain rfl : [] = links := Except.ok.inj linked
    exact .nil
  | case2 rest ih => exact ih linked
  | case3 first more rest ih =>
    obtain ⟨link, read, later⟩ := exists_of_bind linked
    obtain ⟨others, linkedOthers, same⟩ := exists_of_bind later
    obtain rfl : link :: others = links := Except.ok.inj same
    exact .cons ⟨first, more, rfl, read⟩ (ih linkedOthers)

theorem rightUnique_leads : Relator.RightUnique Leads := by
  rintro conns l m ⟨first, more, rfl, readL⟩ ⟨first', more', same, readM⟩
  obtain ⟨rfl, -⟩ := List.cons.inj same
  exact Except.ok.inj (readL.symm.trans readM)

theorem links_perm (linked : firstLinks entries = .ok links)
    (linked' : firstLinks entries' = .ok links') (perm : entries.Perm entries') :
    links.Perm links' :=
  List.rel_perm_imp rightUnique_leads (forall₂_leads linked) (forall₂_leads linked')
    (perm.filter _)

theorem not_leads_nil (l : Link) : ¬ Leads [] l := by
  rintro ⟨first, more, none, -⟩
  cases none

theorem leads_cons_iff {first : Data} {more : List Data} {link : Link}
    (read : readConnection first = .ok link) (l : Link) : Leads (first :: more) l ↔ l = link := by
  constructor
  · intro leads
    exact rightUnique_leads leads ⟨first, more, rfl, read⟩
  · rintro rfl
    exact ⟨first, more, rfl, read⟩

/-- Entries lead to different peers when the links that are made of them do. -/
theorem leadApart_iff (linked : firstLinks entries = .ok links) :
    LeadApart entries ↔ (links.map (·.peerId)).Nodup := by
  induction entries using firstLinks.induct generalizing links with
  | case1 =>
    obtain rfl : [] = links := Except.ok.inj linked
    exact ⟨fun _ => .nil, fun _ => .nil⟩
  | case2 rest ih =>
    rw [LeadApart, List.pairwise_cons, ← LeadApart, ih linked, and_iff_right]
    intro conns _ l m leads
    exact absurd leads (not_leads_nil l)
  | case3 first more rest ih =>
    obtain ⟨link, read, later⟩ := exists_of_bind linked
    obtain ⟨others, linkedOthers, same⟩ := exists_of_bind later
    obtain rfl : link :: others = links := Except.ok.inj same
    rw [LeadApart, List.pairwise_cons, ← LeadApart, ih linkedOthers, List.map_cons,
      List.nodup_cons, ← leads_iff linkedOthers]
    refine and_congr_left' ?_
    constructor
    · rintro apart ⟨conns, member, m, leads, sameId⟩
      exact apart conns member link m ((leads_cons_iff read link).mpr rfl) leads sameId.symm
    · intro absent conns member l m leadsHere leads sameId
      obtain rfl := (leads_cons_iff read l).mp leadsHere
      exact absent ⟨conns, member, m, leads, sameId.symm⟩

/-- Peers before they are sorted come in the order of the routes, but none of them changes. -/
theorem unsorted_perm (routesPerm : routes.Perm routes') (linksPerm : links.Perm links')
    (ids : (routes.map (·.peerId)).Nodup) (linkIds : (links.map (·.peerId)).Nodup) :
    (unsorted routes links).Perm (unsorted routes' links') := by
  have ids' : (routes'.map (·.peerId)).Nodup := (routesPerm.map _).nodup_iff.mp ids
  have samePeer : Topology.peer (.ofList routes) (.ofList links) =
      Topology.peer (.ofList routes') (.ofList links') := by
    funext r
    simp only [Topology.peer, RouteTable.hostname?, Table.get?_ofList,
      find?_eq_of_perm routesPerm ids, find?_eq_of_perm linksPerm linkIds]
  rw [unsorted, unsorted, Table.firsts_eq_self ids, Table.firsts_eq_self ids', samePeer]
  exact routesPerm.map _

theorem hostnames_unsorted (ids : (routes.map (·.peerId)).Nodup) :
    (unsorted routes links).map (·.hostname) = routes.map (·.hostname) := by
  rw [unsorted, Table.firsts_eq_self ids, List.map_map]
  refine List.map_congr_left ?_
  intro r _
  simp only [Function.comp_apply, Topology.peer]
  split <;> rfl

/-- Two peers that may stand either way have one hostname. -/
theorem hostname_eq_of_notAfter {p q : Peer} (forwards : Topology.notAfter p q)
    (backwards : Topology.notAfter q p) : p.hostname = q.hostname := by
  simp only [Topology.notAfter, Bool.not_eq_true', decide_eq_false_iff_not, not_lt] at *
  exact le_antisymm forwards backwards

/-- Neither the order of the routes nor that of the peers' entries shows in the peers. -/
theorem peers_eq_of_perm (described : Describes text name routes entries s)
    (described' : Describes text' name' routes' entries' s')
    (routesPerm : routes.Perm routes') (entriesPerm : entries.Perm entries')
    (ids : (routes.map (·.peerId)).Nodup) (hostnames : (routes.map (·.hostname)).Nodup)
    (apart : LeadApart entries) : s.peers = s'.peers := by
  obtain ⟨links, linked, peers⟩ := described.exists_links
  obtain ⟨links', linked', peers'⟩ := described'.exists_links
  have perm : (unsorted routes links).Perm (unsorted routes' links') :=
    unsorted_perm routesPerm (links_perm linked linked' entriesPerm) ids
      ((leadApart_iff linked).mp apart)
  have distinct : ((unsorted routes links).map (·.hostname)).Nodup := by
    rwa [hostnames_unsorted ids]
  rw [peers, peers']
  refine mergeSort_eq_of_perm notAfter_trans notAfter_total ?_ perm
  intro p memberP q memberQ forwards backwards
  exact List.inj_on_of_nodup_map distinct memberP memberQ
    (hostname_eq_of_notAfter forwards backwards)

/-- A draft is described by what it puts into its arrays. -/
theorem Draft.exists_describes (d : Draft) : ∃ s,
    Describes d.text d.instanceName (d.routes.map RouteDraft.route)
      (d.peers.map fun connections => connections.map ConnectionDraft.data) s := by
  obtain ⟨readRoutes, readEntries⟩ := reads_of_sections d.sections_report
  exact ⟨_, decode_eq d.report_text d.sections_report (firstLinks_data d.peers),
    d.report, d.report_text, readRoutes, readEntries⟩

/-- A node behind another one, a peer without connections and one without a route. -/
def valleyDraft : Draft := { Draft.new "mesh-a" with
  routes := [.new 7 "node-b" 3, .new 3 "node-a" 3]
  peers := [[⟨3, "tcp://198.51.100.3:11010", 4000⟩, ⟨7, "tcp://198.51.100.7:11010", 1⟩], [],
    [⟨9, "udp://198.51.100.9:11010", 2000⟩]] }

/-- The draft with its arrays turned round. -/
def turnedDraft : Draft := { valleyDraft with
  routes := valleyDraft.routes.reverse
  peers := valleyDraft.peers.reverse }

theorem peers_eq_of_perm_turned : ∃ s s', decode valleyDraft.text "mesh-a" = .ok s ∧
    decode turnedDraft.text "mesh-a" = .ok s' ∧ s.peers = s'.peers := by
  obtain ⟨s, described⟩ := valleyDraft.exists_describes
  obtain ⟨s', turned⟩ := turnedDraft.exists_describes
  refine ⟨s, s', described.decoded, turned.decoded, ?_⟩
  refine peers_eq_of_perm described turned ?_ ?_ ?_ ?_ ?_
  · exact (List.reverse_perm _).symm.map _
  · exact (List.reverse_perm _).symm.map _
  · decide
  · decide
  · rw [leadApart_iff (firstLinks_data _)]
    decide

end Snapshot

end MeshWatch
