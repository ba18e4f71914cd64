import Mathlib.Data.List.Nodup
import MeshWatch.Proofs.Profile.Editing

/-!
# The book as a list with a mark

A book keeps the id of its active profile, but what becomes of the choice is told by places: the
one before a profile that is taken out, the last one after one is added. As long as no two
profiles have the same id, a book is followed step by step by a list of which one place is marked.
-/
namespace MeshWatch

/-- From its place on a supply has only different ids, and none of the given ones. -/
structure Supply.IsFresh (supply : Supply) (ids : List String) : Prop where
  unused : ∀ n, supply.used ≤ n → supply.id n ∉ ids
  distinct : ∀ m n, supply.used ≤ m → supply.used ≤ n → supply.id m = supply.id n → m = n

/-- A list of profiles with a mark at one of them. -/
structure Cursor where
  profiles : List Profile
  place : Nat
  inside : place < profiles.length

namespace Cursor

def current (c : Cursor) : Profile := c.profiles.get ⟨c.place, c.inside⟩

def ids (c : Cursor) : List String := c.profiles.map (·.id)

/-- The list is the one that was asked for, or one profile if none were asked for. The mark is at
the wanted id, or at the first profile if there is no such id. -/
structure Opens (c : Cursor) (ps : List Profile) (wanted : Option String) : Prop where
  profiles : ps ≠ [] → c.profiles = ps
  single : ps = [] → c.profiles.length = 1
  marked : ∀ id ∈ wanted, id ∈ c.ids → c.current.id = id
  first : (∀ id ∈ wanted, id ∉ c.ids) → c.place = 0

/-- What an edit does to a list with a mark, and what it answers. -/
inductive Step (c : Cursor) : Edit → EditAnswer → Cursor → Prop
  | activated {id : String} {c' : Cursor} (profiles : c'.profiles = c.profiles)
    (current : c'.current.id = id) :
    Step c (.setActive id) (.ok none) c'
  | added {p : Profile} {c' : Cursor} (profiles : c'.profiles = c.profiles ++ [p])
    (place : c'.place = c.profiles.length) :
    Step c .addNew (.ok (some p)) c'
  | updated {p : Profile} {i : Nat} {c' : Cursor} (inside : i < c.profiles.length)
    (id : (c.profiles[i]).id = p.id) (profiles : c'.profiles = c.profiles.set i p)
    (place : c'.place = c.place) :
    Step c (.update p) (.ok none) c'
  | deletedCurrent {id : String} {c' : Cursor} (current : c.current.id = id)
    (profiles : c'.profiles = c.profiles.eraseIdx c.place) (place : c'.place = c.place - 1) :
    Step c (.delete id) (.ok (some c.current)) c'
  | deletedOther {id : String} {i : Nat} {c' : Cursor} (inside : i < c.profiles.length)
    (there : (c.profiles[i]).id = id) (other : i ≠ c.place)
    (profiles : c'.profiles = c.profiles.eraseIdx i) (current : c'.current = c.current) :
    Step c (.delete id) (.ok (some (c.profiles[i]))) c'
  | notActivated {id : String} (absent : id ∉ c.ids) :
    Step c (.setActive id) (.error (.notFound id)) c
  | notUpdated {p : Profile} (absent : p.id ∉ c.ids) :
    Step c (.update p) (.error (.notFound p.id)) c
  | lastKept {id : String} (only : c.profiles.length = 1) :
    Step c (.delete id) (.error .lastProfile) c
  | notDeleted {id : String} (several : 1 < c.profiles.length) (absent : id ∉ c.ids) :
    Step c (.delete id) (.error (.notFound id)) c

inductive Steps : Cursor → List Edit → List EditAnswer → Cursor → Prop
  | done (c : Cursor) : Steps c [] [] c
  | next {c c' last : Cursor} {e : Edit} {es : List Edit} {answer : EditAnswer}
    {answers : List EditAnswer} (step : Step c e answer c') (rest : Steps c' es answers last) :
    Steps c (e :: es) (answer :: answers) last

end Cursor

/-- While all ids are different, the place of an id is where its profile stands. -/
theorem findIdx_id {ps : List Profile} (distinct : (ps.map (·.id)).Nodup) {i : Nat}
    (inside : i < ps.length) : ps.findIdx (·.id = (ps[i]).id) = i := by
  refine (List.findIdx_eq inside).mpr ⟨by simp, ?_⟩
  intro j before
  rw [decide_eq_false_iff_not]
  intro same
  have inside' : i < (ps.map (·.id)).length := by simpa using inside
  have equal : (ps.map (·.id))[j] = (ps.map (·.id))[i] := by
    simpa using same
  exact Nat.ne_of_lt before (distinct.getElem_inj_iff.mp equal)

/-- While all ids are different, the profile of the active id is the active one. -/
theorem Book.active_of_mem {b : Book} {p : Profile} (distinct : b.ids.Nodup)
    (listed : p ∈ b.profiles) (chosen : p.id = b.activeId) : b.active = p := by
  cases found : b.get? b.activeId with
  | none =>
    rw [get?_eq_none_iff, ← chosen] at found
    exact absurd (List.mem_map_of_mem listed) found
  | some q =>
    obtain ⟨there, same⟩ := of_get? found
    rw [active, found, Option.getD_some]
    exact List.inj_on_of_nodup_map distinct there listed (same.trans chosen.symm)

/-- A book has the profiles of a list with a mark, its active id is that of the marked profile, and
ids neither repeat nor will repeat. -/
structure Tracks (b : Book) (supply : Supply) (c : Cursor) : Prop where
  profiles : b.profiles = c.profiles
  activeId : b.activeId = c.current.id
  distinct : b.ids.Nodup
  fresh : supply.IsFresh b.ids

namespace Tracks

variable {b b' : Book} {supply supply' : Supply} {c : Cursor}

theorem ids (h : Tracks b supply c) : b.ids = c.ids := by
  rw [Book.ids, h.profiles, Cursor.ids]

theorem current_mem (h : Tracks b supply c) : c.current ∈ b.profiles := by
  rw [h.profiles]
  exact List.getElem_mem c.inside

theorem active (h : Tracks b supply c) : b.active = c.current :=
  Book.active_of_mem h.distinct h.current_mem h.activeId.symm

/-- The active profile is found at the mark. -/
theorem place_activeId (h : Tracks b supply c) : b.place b.activeId = c.place := by
  have distinct := h.distinct
  rw [h.ids, Cursor.ids] at distinct
  rw [Book.place, h.profiles, h.activeId]
  exact findIdx_id distinct c.inside

end Tracks

/-! ## Steps -/

section Step

variable {b b' : Book} {supply supply' : Supply} {c : Cursor}

theorem Supply.IsFresh.mono {ids ids' : List String} (fresh : supply.IsFresh ids)
    (subset : ids' ⊆ ids) : supply.IsFresh ids' :=
  ⟨fun n later member => fresh.unused n later (subset member), fresh.distinct⟩

theorem Supply.IsFresh.take {ids : List String} (fresh : supply.IsFresh ids) :
    supply.take.2.IsFresh (ids ++ [supply.take.1]) := by
  constructor
  · intro n later
    rw [List.mem_append, List.mem_singleton, not_or]
    refine ⟨fresh.unused n (Nat.le_of_succ_le later), ?_⟩
    intro same
    have : n = supply.used := fresh.distinct _ _ (Nat.le_of_succ_le later) (Nat.le_refl _) same
    subst this
    exact Nat.not_succ_le_self _ later
  · intro m n hm hn
    exact fresh.distinct m n (Nat.le_of_succ_le hm) (Nat.le_of_succ_le hn)

theorem Tracks.added {p : Profile} (h : Tracks b supply c) (id : p.id = supply.take.1)
    (profiles : b'.profiles = b.profiles ++ [p]) (activeId : b'.activeId = p.id) :
    ∃ c', c.Step .addNew (.ok (some p)) c' ∧ Tracks b' supply.take.2 c' := by
  have ids : b'.ids = b.ids ++ [supply.take.1] := by
    rw [Book.ids, profiles, List.map_append, ← id]
    rfl
  have last : c.profiles.length < (c.profiles ++ [p]).length := by simp
  refine ⟨⟨c.profiles ++ [p], c.profiles.length, last⟩, .added rfl rfl, ?_, ?_, ?_, ?_⟩
  · rw [profiles, h.profiles]
  · simp [activeId, Cursor.current]
  · rw [ids]
    have new := h.fresh.unused _ (Nat.le_refl _)
    exact h.distinct.append (List.nodup_singleton _) (by simpa [Supply.take] using new)
  · rw [ids]
    exact h.fresh.take

theorem Tracks.updated {p : Profile} (h : Tracks b supply c) (member : p.id ∈ b.ids)
    (profiles : b'.profiles = b.profiles.set (b.place p.id) p)
    (activeId : b'.activeId = b.activeId) :
    ∃ c', c.Step (.update p) (.ok none) c' ∧ Tracks b' supply c' := by
  obtain ⟨ps, mark, inside⟩ := c
  obtain ⟨rfl, marked, distinct, fresh⟩ := h
  have there := Book.id_place (Book.place_lt member)
  have ids : b'.ids = b.ids := by
    rw [Book.ids, profiles, Book.map_id_set (Book.place_lt member) there, Book.ids]
  have kept : mark < (b.profiles.set (b.place p.id) p).length := by simpa using inside
  refine ⟨⟨b.profiles.set (b.place p.id) p, mark, kept⟩,
    .updated (Book.place_lt member) there rfl rfl, profiles, ?_, ?_, ?_⟩
  · rw [activeId, marked, Cursor.current, Cursor.current]
    simp only [List.get_eq_getElem, List.getElem_set]
    split
    · rename_i here
      subst here
      exact there
    · rfl
  · rw [ids]
    exact distinct
  · rw [ids]
    exact fresh

section Deletion

variable {id : String} (within : b.place id < b.profiles.length)
  (profiles : b'.profiles = b.profiles.eraseIdx (b.place id))

include profiles in
theorem Book.ids_sublist_of_eraseIdx : b'.ids.Sublist b.ids := by
  rw [Book.ids, profiles]
  exact (List.eraseIdx_sublist _ _).map _

include profiles in
/-- The mark moves to the place before, or stays at the first place. -/
theorem Tracks.deletedCurrent (h : Tracks b supply c) (chosen : id = b.activeId)
    (before : b.place id - 1 < b'.profiles.length)
    (activeId : b'.activeId = (b'.profiles[b.place id - 1]).id) :
    ∃ c', c.Step (.delete id) (.ok (some (b.profiles[b.place id]))) c' ∧ Tracks b' supply c' := by
  have sublist := Book.ids_sublist_of_eraseIdx profiles
  have place := h.place_activeId
  obtain ⟨ps, mark, inside⟩ := c
  obtain ⟨rfl, marked, distinct, fresh⟩ := h
  subst chosen place
  have before' : b.place b.activeId - 1 < (b.profiles.eraseIdx (b.place b.activeId)).length := by
    rw [← profiles]
    exact before
  refine ⟨⟨_, _, before'⟩, .deletedCurrent marked.symm rfl rfl, profiles, ?_,
    distinct.sublist sublist, fresh.mono sublist.subset⟩
  rw [activeId, Cursor.current]
  simp only [profiles, List.get_eq_getElem]

include profiles in
/-- The marked profile is still in the list, and the mark is wherever it is now. -/
theorem Tracks.deletedOther (h : Tracks b supply c) (chosen : id ≠ b.activeId)
    (activeId : b'.activeId = b.activeId) :
    ∃ c', c.Step (.delete id) (.ok (some (b.profiles[b.place id]))) c' ∧ Tracks b' supply c' := by
  have there := Book.id_place within
  have sublist := Book.ids_sublist_of_eraseIdx profiles
  have listed := h.current_mem
  obtain ⟨ps, mark, inside⟩ := c
  obtain ⟨rfl, marked, distinct, fresh⟩ := h
  have other : b.place id ≠ mark := by
    rintro rfl
    exact chosen (there.symm.trans marked.symm)
  have kept : b.profiles[mark] ∈ b.profiles.eraseIdx (b.place id) := by
    refine Book.mem_eraseIdx_place listed ?_
    intro same
    exact chosen (same.symm.trans marked.symm)
  obtain ⟨i, inside', same⟩ := List.getElem_of_mem kept
  exact ⟨⟨_, i, inside'⟩, .deletedOther within there other rfl same, profiles,
    (activeId.trans marked).trans (congrArg ProfileOf.id same.symm), distinct.sublist sublist,
    fresh.mono sublist.subset⟩

end Deletion

theorem Tracks.step {e : Edit} {answer : EditAnswer} (h : Tracks b supply c)
    (outcome : Book.Outcome b supply e answer b' supply') :
    ∃ c', c.Step e answer c' ∧ Tracks b' supply' c' := by
  have ids := h.ids
  cases outcome with
  | @activated id member =>
    have inside := Book.place_lt member
    rw [h.profiles] at inside
    have there : (c.profiles[b.place id]).id = id := by
      have := Book.id_place (Book.place_lt member)
      simpa only [h.profiles] using this
    exact ⟨⟨c.profiles, b.place id, inside⟩, .activated rfl there, h.profiles, there.symm,
      h.distinct, h.fresh⟩
  | added id profiles activeId => exact h.added id profiles activeId
  | updated member profiles activeId => exact h.updated member profiles activeId
  | @deleted id b' several within profiles before activeId =>
    by_cases chosen : id = b.activeId
    · rw [if_pos chosen] at activeId
      exact h.deletedCurrent within profiles chosen before activeId
    · rw [if_neg chosen] at activeId
      exact h.deletedOther within profiles chosen activeId
  | notActivated absent => exact ⟨c, .notActivated (ids ▸ absent), h⟩
  | notUpdated absent => exact ⟨c, .notUpdated (ids ▸ absent), h⟩
  | lastKept only =>
    have one : b.profiles.length = 1 :=
      Nat.le_antisymm only (List.length_pos_iff.mpr b.nonempty)
    exact ⟨c, .lastKept (h.profiles ▸ one), h⟩
  | notDeleted several absent =>
    exact ⟨c, .notDeleted (h.profiles ▸ several) (ids ▸ absent), h⟩

theorem Tracks.steps (h : Tracks b supply c) (es : List Edit) :
    ∃ last, c.Steps es (b.editAll supply es).1 last ∧
      Tracks (b.editAll supply es).2.1 (b.editAll supply es).2.2 last := by
  induction es generalizing b supply c with
  | nil => exact ⟨c, .done c, h⟩
  | cons e es ih =>
    obtain ⟨c', step, next⟩ := h.step (b.outcome supply e)
    obtain ⟨last, steps, end_⟩ := ih next
    exact ⟨last, .next step steps, end_⟩

end Step

/-! ## From the start -/

theorem Book.ofProfiles_activeId (ps : List Profile) {wanted : Option String} (supply : Supply)
    {id : String} (asked : id ∈ wanted) (member : id ∈ (ofProfiles ps wanted supply).1.ids) :
    (ofProfiles ps wanted supply).1.activeId = id := by
  cases ps with
  | nil => exact (List.mem_singleton.mp member).symm
  | cons first rest =>
    obtain rfl := Option.mem_def.mp asked
    have listed : id ∈ (first :: rest).map (·.id) := member
    obtain ⟨_, made⟩ := ofProfiles_of_mem listed supply
    rw [made]

theorem Book.ofProfiles_place (ps : List Profile) {wanted : Option String} (supply : Supply)
    (absent : ∀ id ∈ wanted, id ∉ (ofProfiles ps wanted supply).1.ids) :
    (ofProfiles ps wanted supply).1.place (ofProfiles ps wanted supply).1.activeId = 0 := by
  cases ps with
  | nil => simp [place, ofProfiles, new, single]
  | cons first rest =>
    simp only [ofProfiles_of_absent absent, place, List.findIdx_cons, decide_true, cond_true]

/-- A new book has the mark where it is asked for. -/
theorem Book.exists_opens (ps : List Profile) (wanted : Option String) (supply : Supply) :
    ∃ c : Cursor, c.Opens ps wanted ∧ (ofProfiles ps wanted supply).1.profiles = c.profiles ∧
      (ofProfiles ps wanted supply).1.activeId = c.current.id := by
  have inside := place_lt (isSound_ofProfiles ps wanted supply)
  refine ⟨⟨_, _, inside⟩, ⟨?_, ?_, ?_, ?_⟩, rfl, (id_place inside).symm⟩
  · intro some
    cases ps with
    | nil => exact absurd rfl some
    | cons first rest => rfl
  · rintro rfl
    rfl
  · intro id asked member
    exact (id_place inside).trans (ofProfiles_activeId ps supply asked member)
  · exact ofProfiles_place ps supply

/-- A book of any origin is followed by a list with a mark through every sequence of edits, as long
as ids do not repeat. An edit that is refused leaves the book as it is. -/
theorem Origin.followed_by_cursor (o : Origin) (supply : Supply) (es : List Edit)
    (distinct : (o.book supply).1.ids.Nodup)
    (fresh : (o.book supply).2.IsFresh (o.book supply).1.ids) :
    ∃ start last : Cursor, start.Opens (o.request supply).1 (o.request supply).2.1 ∧
      (o.book supply).1.profiles = start.profiles ∧
      let (answers, b, rest) := (o.book supply).1.editAll (o.book supply).2 es
      start.Steps es answers last ∧ b.profiles = last.profiles ∧ b.profiles ≠ [] ∧
        b.ids.Nodup ∧ b.activeId ∈ b.ids ∧ b.activeId = last.current.id ∧
        b.active = last.current ∧
        ∀ e refusal, (b.edit rest e).1 = .error refusal → (b.edit rest e).2 = (b, rest) := by
  obtain ⟨start, opens, profiles, activeId⟩ : ∃ c : Cursor,
      c.Opens (o.request supply).1 (o.request supply).2.1 ∧
      (o.book supply).1.profiles = c.profiles ∧ (o.book supply).1.activeId = c.current.id := by
    rw [o.book_eq supply]
    exact Book.exists_opens _ _ _
  have tracks : Tracks (o.book supply).1 (o.book supply).2 start :=
    ⟨profiles, activeId, distinct, fresh⟩
  obtain ⟨last, steps, follows⟩ := tracks.steps es
  exact ⟨start, last, opens, profiles, steps, follows.profiles, Book.nonempty _, follows.distinct,
    (o.isSound_book supply).editAll _ es, follows.activeId, follows.active,
    fun _ _ => Book.edit_of_refused⟩

/-- Three profiles, of which the second is wanted. -/
def threeProfiles : Origin := .ofProfiles
  (["a", "b", "c"].map fun id =>
    (UnnamedProfile.name { ProfileOf.standard with id := some id } (.ofSeed 0)).1) (some "b")

/-- A supply whose ids get longer and longer. -/
def growingSupply : Supply := ⟨fun n => String.ofList (List.replicate (n + 2) 'x'), 0⟩

theorem length_growingSupply (n : Nat) : (growingSupply.id n).length = n + 2 := by
  simp [growingSupply]

theorem growingSupply_isFresh {ids : List String} (short : ∀ id ∈ ids, id.length < 2) :
    growingSupply.IsFresh ids := by
  constructor
  · intro n _ member
    have := short _ member
    rw [length_growingSupply] at this
    omega
  · intro m n _ _ same
    have := congrArg String.length same
    rw [length_growingSupply, length_growingSupply] at this
    omega

/-- The active profile is deleted, one is added and deleted again, an unknown one is asked for, and
all but one are deleted. -/
def sevenEdits : List Edit :=
  [.delete "b", .addNew, .delete "xx", .setActive "z", .setActive "c", .delete "c", .delete "a"]

theorem Origin.followed_by_cursor_three :
    (threeProfiles.book growingSupply).1.ids.Nodup ∧
    (threeProfiles.book growingSupply).2.IsFresh (threeProfiles.book growingSupply).1.ids ∧
    ∃ start last : Cursor, start.Opens (threeProfiles.request growingSupply).1 (some "b") ∧
      (threeProfiles.book growingSupply).1.profiles = start.profiles ∧
      let (answers, b, rest) := (threeProfiles.book growingSupply).1.editAll
        (threeProfiles.book growingSupply).2 sevenEdits
      start.Steps sevenEdits answers last ∧ b.profiles = last.profiles ∧ b.profiles ≠ [] ∧
        b.ids.Nodup ∧ b.activeId ∈ b.ids ∧ b.activeId = last.current.id ∧
        b.active = last.current ∧
        ∀ e refusal, (b.edit rest e).1 = .error refusal → (b.edit rest e).2 = (b, rest) := by
  have distinct : (threeProfiles.book growingSupply).1.ids.Nodup := by decide +kernel
  have fresh : (threeProfiles.book growingSupply).2.IsFresh
      (threeProfiles.book growingSupply).1.ids := by
    refine growingSupply_isFresh ?_
    decide +kernel
  exact ⟨distinct, fresh, threeProfiles.followed_by_cursor growingSupply sevenEdits distinct fresh⟩

end MeshWatch
