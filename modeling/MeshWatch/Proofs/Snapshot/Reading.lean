import Mathlib.Data.List.Forall2
import MeshWatch.Snapshot.Decode

/-!
# Reading the arrays of a report

What a decoded snapshot has been made of: the routes and the peers' connections that stand in the
arrays of the report. Of an entry's connections only the first is read, and of several entries
that lead to one peer the first one counts.
-/
namespace MeshWatch

open Data (Reader)

theorem exists_of_bind {ε α β : Type} {x : Except ε α} {f : α → Except ε β} {b : β}
    (h : x.bind f = .ok b) : ∃ a, x = .ok a ∧ f a = .ok b := by
  cases x with
  | error e => cases h
  | ok a => exact ⟨a, rfl, h⟩

/-- A result of which a part is known. -/
theorem exists_of_toOption_map {ε α β : Type} {x : Except ε α} {part : α → β} {b : β}
    (known : x.toOption.map part = some b) : ∃ a, x = .ok a ∧ part a = b := by
  cases x with
  | error e => cases known
  | ok a => exact ⟨a, rfl, Option.some.inj known⟩

namespace Snapshot

/-! ## Arrays -/

section Arrays

variable {α : Type} {members : List (String × Data)} {text name : String} {s : Snapshot}

/-- A member of the report is an array whose items are read as these values, in order. -/
def Reads (members : List (String × Data)) (part : Section) (read : Reader α)
    (values : List α) : Prop :=
  ∃ items, Data.member? part.name members = some (.list items) ∧
    List.Forall₂ (fun d a => read d = .ok a) items values

theorem forall₂_of_items {read : Reader α} {items : List Data} {values : List α}
    (h : Reader.items read items = .ok values) :
    List.Forall₂ (fun d a => read d = .ok a) items values := by
  induction items generalizing values with
  | nil =>
    obtain rfl : [] = values := Except.ok.inj h
    exact .nil
  | cons item rest ih =>
    rw [Reader.items] at h
    cases first : read item with
    | error e => simp [first] at h
    | ok a =>
      cases others : Reader.items read rest with
      | error e => simp [first, others] at h
      | ok as =>
        obtain rfl : a :: as = values := by simpa [first, others] using h
        exact .cons first (ih others)

/-- The values of an array are determined by the report. -/
theorem Reads.eq {part : Section} {read : Reader α} {as bs : List α}
    (first : Reads members part read as) (second : Reads members part read bs) : as = bs := by
  obtain ⟨items, found, forwards⟩ := first
  obtain ⟨items', found', backwards⟩ := second
  obtain rfl : items = items' := by simpa using found.symm.trans found'
  refine List.right_unique_forall₂' ?_ forwards backwards
  intro d a b readA readB
  exact Except.ok.inj (readA.symm.trans readB)

theorem reads_of_readSection {part : Section} {read : Reader α} {values : List α}
    (h : readSection members part (Reader.list read) = .ok values) :
    Reads members part read values := by
  rw [readSection] at h
  split at h
  · cases h
  · rename_i d found
    split at h
    · rename_i as done
      obtain rfl := Except.ok.inj h
      cases d with
      | list items => exact ⟨items, found, forall₂_of_items done⟩
      | _ => cases done
    · cases h

theorem reads_of_sections {parts : Sections} (h : sections members = .ok parts) :
    Reads members .routes readRoute parts.routes ∧ Reads members .peers readPeer parts.peers := by
  obtain ⟨node, -, h⟩ := exists_of_bind h
  obtain ⟨routes, readRoutes, h⟩ := exists_of_bind h
  obtain ⟨entries, readEntries, h⟩ := exists_of_bind h
  obtain ⟨records, -, h⟩ := exists_of_bind h
  obtain rfl := Except.ok.inj h
  exact ⟨reads_of_readSection readRoutes, reads_of_readSection readEntries⟩

theorem ofSections_eq {parts : Sections} {links : List Link}
    (linked : firstLinks parts.peers = .ok links) : ofSections parts =
      .ok ⟨parts.node, .ofList parts.routes, .ofList links, parts.records.reverse⟩ := by
  rw [ofSections, linked]

theorem exists_of_decode (h : decode text name = .ok s) :
    ∃ members parts links, report text name = .ok members ∧ sections members = .ok parts ∧
      firstLinks parts.peers = .ok links ∧
      s = ⟨parts.node, .ofList parts.routes, .ofList links, parts.records.reverse⟩ := by
  obtain ⟨members, reported, h⟩ := exists_of_bind h
  obtain ⟨parts, divided, h⟩ := exists_of_bind h
  cases linked : firstLinks parts.peers with
  | error cause => simp [ofSections, linked] at h
  | ok links =>
    rw [ofSections_eq linked] at h
    exact ⟨members, parts, links, reported, divided, linked, (Except.ok.inj h).symm⟩

/-- A text is decoded when its report is divided and its first connections are read. -/
theorem decode_eq {parts : Sections} {links : List Link} (reported : report text name = .ok members)
    (divided : sections members = .ok parts) (linked : firstLinks parts.peers = .ok links) :
    decode text name =
      .ok ⟨parts.node, .ofList parts.routes, .ofList links, parts.records.reverse⟩ := by
  rw [decode, reported, Except.bind, divided, Except.bind, ofSections_eq linked]

end Arrays

/-! ## First connections -/

section Links

variable {entries : List (List Data)} {conns : List Data} {links : List Link} {l : Link}
  {key : UInt64}

/-- `l` is the first connection of a peer's entry. -/
def Leads (conns : List Data) (l : Link) : Prop :=
  ∃ first rest, conns = first :: rest ∧ readConnection first = .ok l

/-- `l` is the link of the first entry that leads to the peer `key`. -/
def FirstTo (entries : List (List Data)) (key : UInt64) (l : Link) : Prop :=
  ∃ before conns after, entries = before ++ conns :: after ∧ Leads conns l ∧ l.peerId = key ∧
    ∀ other ∈ before, ∀ l', Leads other l' → l'.peerId ≠ key

/-- What a search through the entries for a peer comes to. -/
def Found (entries : List (List Data)) (key : UInt64) : Option Link → Prop
  | some l => FirstTo entries key l
  | none => ∀ conns ∈ entries, ∀ l, Leads conns l → l.peerId ≠ key

theorem Found.cons {result : Option Link} (elsewhere : ∀ l, Leads conns l → l.peerId ≠ key)
    (h : Found entries key result) : Found (conns :: entries) key result := by
  cases result with
  | none =>
    intro other member
    rcases List.mem_cons.mp member with rfl | later
    · exact elsewhere
    · exact h other later
  | some l =>
    obtain ⟨before, found, after, rfl, leads, same, others⟩ := h
    refine ⟨conns :: before, found, after, rfl, leads, same, ?_⟩
    intro other member
    rcases List.mem_cons.mp member with rfl | earlier
    · exact elsewhere
    · exact others other earlier

/-- A search among the first links is a search through the entries. -/
theorem found_firstLinks (h : firstLinks entries = .ok links) (key : UInt64) :
    Found entries key (links.find? (·.peerId = key)) := by
  induction entries using firstLinks.induct generalizing links with
  | case1 =>
    obtain rfl : [] = links := Except.ok.inj h
    intro conns member
    cases member
  | case2 rest ih =>
    refine (ih h).cons ?_
    rintro l ⟨first, more, none, -⟩
    cases none
  | case3 first more rest ih =>
    obtain ⟨link, read, h⟩ := exists_of_bind h
    obtain ⟨others, linked, h⟩ := exists_of_bind h
    obtain rfl : link :: others = links := Except.ok.inj h
    rw [List.find?_cons]
    by_cases here : link.peerId = key
    · simp only [here, decide_true]
      exact ⟨[], first :: more, rest, rfl, ⟨first, more, rfl, read⟩, here, by simp⟩
    · simp only [here, decide_false]
      refine (ih linked).cons ?_
      rintro l ⟨_, _, ⟨⟩, read'⟩
      have same : l = link := Except.ok.inj (read'.symm.trans read)
      exact same ▸ here

/-- The peers that some entry leads to are those of the first links. -/
theorem leads_iff (h : firstLinks entries = .ok links) (key : UInt64) :
    (∃ conns ∈ entries, ∃ l, Leads conns l ∧ l.peerId = key) ↔ key ∈ links.map (·.peerId) := by
  have found := found_firstLinks h key
  cases search : links.find? (·.peerId = key) with
  | none =>
    rw [search] at found
    have absent : key ∉ links.map (·.peerId) := by simpa using search
    constructor
    · rintro ⟨conns, member, l, leads, same⟩
      exact absurd same (found conns member l leads)
    · intro known
      exact absurd known absent
  | some l =>
    rw [search] at found
    obtain ⟨before, conns, after, rfl, leads, same, -⟩ := found
    constructor
    · intro _
      exact List.mem_map.mpr ⟨l, List.mem_of_find?_eq_some search, same⟩
    · intro _
      exact ⟨conns, by simp, l, leads, same⟩

end Links

end Snapshot

end MeshWatch
