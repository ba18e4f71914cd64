import Mathlib.Data.List.Forall2
import MeshWatch.Proofs.Profile.Cursor

/-!
# Ids that are filled in

Profiles and port forwards are given ids from first to last: a given id stays, and one that is
lacking is the next of the supply. So apart from their ids nothing changes, each new id is one
that the supply had not handed out before, and as long as these are fresh no two ids are the same
if no two given ones were.
-/
namespace MeshWatch

/-- The later state of a supply. -/
structure Supply.Before (first last : Supply) : Prop where
  id : last.id = first.id
  used : first.used ≤ last.used

/-- An id that is given stays, and one that is lacking is handed out between two states. -/
inductive Supply.Fills (first last : Supply) : Option String → String → Prop
  | given (id : String) : Fills first last (some id) id
  | fresh {n : Nat} (unused : first.used ≤ n) (used : n < last.used) :
    Fills first last none (first.id n)

namespace Supply

variable {s s' t t' : Supply} {wanted : Option String} {id : String}

theorem Before.refl (s : Supply) : s.Before s := ⟨rfl, Nat.le_refl _⟩

theorem Before.trans (first : s.Before s') (second : s'.Before t) : s.Before t :=
  ⟨second.id.trans first.id, Nat.le_trans first.used second.used⟩

theorem Fills.mono (fills : s.Fills t wanted id) (first : s'.Before s) (last : t.Before t') :
    s'.Fills t' wanted id := by
  cases fills with
  | given => exact .given id
  | fresh unused used =>
    rw [first.id]
    exact .fresh (Nat.le_trans first.used unused) (Nat.lt_of_lt_of_le used last.used)

theorem Fills.eq_given (fills : s.Fills t wanted id) {w : String} (given : wanted = some w) :
    id = w := by
  cases fills with
  | given => exact Option.some.inj given
  | fresh => cases given

theorem Fills.exists_fresh (fills : s.Fills t wanted id) (lacking : wanted = none) :
    ∃ n, s.used ≤ n ∧ n < t.used ∧ id = s.id n := by
  cases fills with
  | given => cases lacking
  | fresh unused used => exact ⟨_, unused, used, rfl⟩

theorem before_idOr (s : Supply) (wanted : Option String) : s.Before (s.idOr wanted).2 := by
  cases wanted with
  | none => exact ⟨rfl, Nat.le_succ _⟩
  | some id => exact .refl s

theorem fills_idOr (s : Supply) (wanted : Option String) :
    s.Fills (s.idOr wanted).2 wanted (s.idOr wanted).1 := by
  cases wanted with
  | none => exact .fresh (Nat.le_refl _) (Nat.lt_succ_self _)
  | some id => exact .given id

end Supply

/-! ## Port forwards and profiles -/

/-- A port forward that is completed: only its id may be new. -/
structure PortForwardOf.Completes (first last : Supply) (u : PortForwardOf (Option String))
    (f : PortForward) : Prop where
  id : first.Fills last u.id f.id
  rest : f = { u with id := f.id }

/-- A profile that is completed: only ids may be new. -/
structure ProfileOf.Completes (first last : Supply) (u : UnnamedProfile) (p : Profile) : Prop where
  id : first.Fills last u.id p.id
  portForwards : List.Forall₂ (PortForwardOf.Completes first last) u.portForwards p.portForwards
  rest : p = { u with id := p.id, portForwards := p.portForwards }

section Completion

variable {s s' t t' : Supply}

theorem PortForwardOf.Completes.mono {u : PortForwardOf (Option String)} {f : PortForward}
    (completes : Completes s t u f) (first : s'.Before s) (last : t.Before t') :
    Completes s' t' u f :=
  ⟨completes.id.mono first last, completes.rest⟩

theorem ProfileOf.Completes.mono {u : UnnamedProfile} {p : Profile} (completes : Completes s t u p)
    (first : s'.Before s) (last : t.Before t') : Completes s' t' u p :=
  ⟨completes.id.mono first last,
    completes.portForwards.imp fun _ _ forward => forward.mono first last, completes.rest⟩

theorem before_nameForwards (supply : Supply) (us : List (PortForwardOf (Option String))) :
    supply.Before (nameForwards supply us).2 := by
  induction us generalizing supply with
  | nil => exact .refl supply
  | cons u us ih => exact (supply.before_idOr u.id).trans (ih _)

theorem completes_nameForwards (supply : Supply) (us : List (PortForwardOf (Option String))) :
    List.Forall₂ (PortForwardOf.Completes supply (nameForwards supply us).2) us
      (nameForwards supply us).1 := by
  induction us generalizing supply with
  | nil => exact .nil
  | cons u us ih =>
    have first := supply.before_idOr u.id
    have rest := before_nameForwards (supply.idOr u.id).2 us
    refine .cons ⟨(supply.fills_idOr u.id).mono (.refl _) rest, rfl⟩ ?_
    exact (ih _).imp fun _ _ forward => forward.mono first (.refl _)

theorem before_name (u : UnnamedProfile) (supply : Supply) : supply.Before (u.name supply).2 :=
  (supply.before_idOr u.id).trans (before_nameForwards _ _)

theorem completes_name (u : UnnamedProfile) (supply : Supply) :
    u.Completes supply (u.name supply).2 (u.name supply).1 := by
  have first := supply.before_idOr u.id
  have rest := before_nameForwards (supply.idOr u.id).2 u.portForwards
  refine ⟨(supply.fills_idOr u.id).mono (.refl _) rest, ?_, rfl⟩
  exact (completes_nameForwards _ _).imp fun _ _ forward => forward.mono first (.refl _)

theorem before_nameAll (supply : Supply) (us : List UnnamedProfile) :
    supply.Before (nameAll supply us).2 := by
  induction us generalizing supply with
  | nil => exact .refl supply
  | cons u us ih => exact (before_name u supply).trans (ih _)

theorem completes_nameAll (supply : Supply) (us : List UnnamedProfile) :
    List.Forall₂ (ProfileOf.Completes supply (nameAll supply us).2) us (nameAll supply us).1 := by
  induction us generalizing supply with
  | nil => exact .nil
  | cons u us ih =>
    have first := before_name u supply
    have rest := before_nameAll (u.name supply).2 us
    refine .cons ((completes_name u supply).mono (.refl _) rest) ?_
    exact (ih _).imp fun _ _ profile => profile.mono first (.refl _)

end Completion

/-! ## Ids do not repeat -/

section Distinct

variable {supply last : Supply} {given : List String}

theorem Supply.IsFresh.later (fresh : supply.IsFresh given) (before : supply.Before last) :
    last.IsFresh given := by
  constructor
  · intro n later
    rw [before.id]
    exact fresh.unused n (Nat.le_trans before.used later)
  · intro m n hm hn
    rw [before.id]
    exact fresh.distinct m n (Nat.le_trans before.used hm) (Nat.le_trans before.used hn)

/-- The ids of profiles that have one. -/
def givenIds (us : List UnnamedProfile) : List String := us.filterMap (·.id)

theorem mem_givenIds {us : List UnnamedProfile} {u : UnnamedProfile} {id : String} (listed : u ∈ us)
    (has : u.id = some id) : id ∈ givenIds us :=
  List.mem_filterMap.mpr ⟨u, listed, has⟩

theorem ids_nameAll_cons (supply : Supply) (u : UnnamedProfile) (us : List UnnamedProfile) :
    (nameAll supply (u :: us)).1.map (·.id) =
      (u.name supply).1.id :: (nameAll (u.name supply).2 us).1.map (·.id) :=
  rfl

/-- Every id was given, or it is one that the supply has handed out. -/
theorem mem_ids_nameAll {us : List UnnamedProfile} {id : String}
    (member : id ∈ (nameAll supply us).1.map (·.id)) :
    id ∈ givenIds us ∨ ∃ n, supply.used ≤ n ∧ id = supply.id n := by
  induction us generalizing supply with
  | nil => cases member
  | cons u us ih =>
    rw [ids_nameAll_cons, List.mem_cons] at member
    have first := (completes_name u supply).id
    have before := before_name u supply
    rcases member with rfl | later
    · cases wanted : u.id with
      | none =>
        obtain ⟨n, unused, -, same⟩ := first.exists_fresh wanted
        exact .inr ⟨n, unused, same⟩
      | some w =>
        rw [first.eq_given wanted]
        exact .inl (mem_givenIds List.mem_cons_self wanted)
    · rcases ih later with listed | ⟨n, unused, rfl⟩
      · exact .inl ((List.sublist_cons_self u us).filterMap _ |>.subset listed)
      · exact .inr ⟨n, Nat.le_trans before.used unused, by rw [before.id]⟩

theorem nodup_ids_nameAll {us : List UnnamedProfile} (distinct : (givenIds us).Nodup)
    (fresh : supply.IsFresh (givenIds us)) : ((nameAll supply us).1.map (·.id)).Nodup := by
  induction us generalizing supply with
  | nil => exact .nil
  | cons u us ih =>
    have before := before_name u supply
    have sublist : (givenIds us).Sublist (givenIds (u :: us)) :=
      (List.sublist_cons_self u us).filterMap _
    have rest := ih (distinct.sublist sublist) ((fresh.mono sublist.subset).later before)
    rw [ids_nameAll_cons]
    refine List.nodup_cons.mpr ⟨?_, rest⟩
    intro again
    have first := (completes_name u supply).id
    have others := mem_ids_nameAll again
    -- a given id is neither among the other given ones nor one that is handed out later
    cases wanted : u.id with
    | some w =>
      have all : givenIds (u :: us) = w :: givenIds us := List.filterMap_cons_some wanted
      rw [all] at distinct fresh
      rw [first.eq_given wanted] at others
      rcases others with listed | ⟨n, unused, same⟩
      · exact (List.nodup_cons.mp distinct).1 listed
      · rw [before.id] at same
        exact fresh.unused n (Nat.le_trans before.used unused) (same ▸ List.mem_cons_self)
    | none =>
      obtain ⟨m, unused, used, here⟩ := first.exists_fresh wanted
      rw [here] at others
      rcases others with listed | ⟨n, later, same⟩
      · exact fresh.unused m unused (sublist.subset listed)
      · rw [before.id] at same
        have := fresh.distinct m n unused (Nat.le_trans before.used later) same
        omega

end Distinct

end MeshWatch
