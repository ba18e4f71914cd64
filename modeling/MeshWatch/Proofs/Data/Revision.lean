import Mathlib.Data.List.Forall2
import MeshWatch.Proofs.Data.Reading

/-!
# Records that are changed after they were written

Another version of a program writes fewer members of a record, or more. A record is revised if
members are deleted and others, of names it did not have, are inserted; what the remaining ones
hold may be revised itself. Fields that may be left out are read from a revised record as they
were written where their members remain, and as their fallbacks where these were deleted.
-/
namespace MeshWatch

namespace Data

variable {α β γ : Type}

/-! ## Revisions -/

/-- The members of a record are gone through: each one remains, what it holds being changed, or is
deleted unless it is needed, and members of names that are not known are inserted. -/
inductive Revision (known needed : List String) (inside : String → Data → Data → Prop) :
    List (String × Data) → List (String × Data) → Prop
  | done : Revision known needed inside [] []
  | remaining {name : String} {d d' : Data} {ms ms' : List (String × Data)}
    (changed : inside name d d') (rest : Revision known needed inside ms ms') :
    Revision known needed inside ((name, d) :: ms) ((name, d') :: ms')
  | deleted {m : String × Data} {ms ms' : List (String × Data)} (spare : m.1 ∉ needed)
    (rest : Revision known needed inside ms ms') : Revision known needed inside (m :: ms) ms'
  | inserted {m : String × Data} {ms ms' : List (String × Data)} (unknown : m.1 ∉ known)
    (rest : Revision known needed inside ms ms') : Revision known needed inside ms (m :: ms')

/-- A record is revised; the names it has are those that are known. -/
inductive Revised (needed : List String) (inside : String → Data → Data → Prop) :
    Data → Data → Prop
  | record {ms ms' : List (String × Data)}
    (revision : Revision (ms.map Prod.fst) needed inside ms ms') :
    Revised needed inside (.record ms) (.record ms')

/-- The items of a list are changed, each in its place. -/
inductive Itemwise (R : Data → Data → Prop) : Data → Data → Prop
  | list {ds ds' : List Data} (items : List.Forall₂ R ds ds') : Itemwise R (.list ds) (.list ds')

theorem Revised.exists_revision {needed : List String} {inside : String → Data → Data → Prop}
    (ms : List (String × Data)) {d : Data} (revised : Revised needed inside (.record ms) d) :
    ∃ ms', d = .record ms' ∧ Revision (ms.map Prod.fst) needed inside ms ms' := by
  cases revised with
  | record revision => exact ⟨_, rfl, revision⟩

theorem Itemwise.exists_items {R : Data → Data → Prop} {write : α → Data} {as : List α} {d : Data}
    (itemwise : Itemwise R (.list (as.map write)) d) :
    ∃ ds, d = .list ds ∧ List.Forall₂ (fun a d => R (write a) d) as ds := by
  cases itemwise with
  | list items => exact ⟨_, rfl, List.forall₂_map_left_iff.mp items⟩

/-- The members of a record. -/
def members : Data → List (String × Data)
  | .record ms => ms
  | _ => []

def has (d : Data) (name : String) : Bool := (member? name d.members).isSome

theorem member?_of_filter {name : String} {ms : List (String × Data)} {found : Option Data}
    (only : ms.filter (·.1 = name) = (found.map fun d => (name, d)).toList) :
    member? name ms = found := by
  induction ms with
  | nil => cases found with
    | none => rfl
    | some d => cases only
  | cons m ms ih =>
    obtain ⟨name', d'⟩ := m
    by_cases same : name' = name
    · rw [List.filter_cons_of_pos (by simpa using same)] at only
      cases found with
      | none => cases only
      | some d =>
        obtain ⟨here, -⟩ := List.cons.inj only
        rw [member?, if_pos same, (Prod.mk.inj here).2]
    · rw [List.filter_cons_of_neg (by simpa using same)] at only
      rw [member?, if_neg same, ih only]

/-- What a record still has of the members of another one. -/
def foundOf (ms' ms : List (String × Data)) : List (String × Option Data) :=
  ms.map fun m => (m.1, member? m.1 ms')

theorem foundOf_congr {ms' ms ns : List (String × Data)}
    (same : ms.map Prod.fst = ns.map Prod.fst) : foundOf ms' ms = foundOf ms' ns := by
  have byName (ms : List (String × Data)) :
      foundOf ms' ms = (ms.map Prod.fst).map fun name => (name, member? name ms') := by
    rw [List.map_map]
    rfl
  rw [byName, byName, same]

/-- Some members are as they were, as far as a record still has them. -/
def Intact (ms' ms : List (String × Data)) : Prop := ∀ m ∈ ms, ∀ d ∈ member? m.1 ms', d = m.2

namespace Revision

variable {known needed : List String} {inside : String → Data → Data → Prop}
  {ms ms' : List (String × Data)} {name : String} {d : Data}

/-- A known name that is not in a record does not come into it. -/
theorem filter_eq_nil (revision : Revision known needed inside ms ms') (listed : name ∈ known)
    (absent : name ∉ ms.map Prod.fst) : ms'.filter (·.1 = name) = [] := by
  induction revision with
  | done => rfl
  | @remaining name' d d' ms ms' _ _ ih =>
    rw [List.map_cons, List.mem_cons, not_or] at absent
    rw [List.filter_cons_of_neg (by simpa using Ne.symm absent.1), ih absent.2]
  | deleted _ _ ih =>
    rw [List.map_cons, List.mem_cons, not_or] at absent
    exact ih absent.2
  | @inserted m ms ms' unknown _ ih =>
    have other : m.1 ≠ name := by
      rintro rfl
      exact unknown listed
    rw [List.filter_cons_of_neg (by simpa using other), ih absent]

/-- What becomes of a member: it is the only one of its name, or it was deleted and none has its
name. -/
theorem exists_found (revision : Revision known needed inside ms ms')
    (distinct : (ms.map Prod.fst).Nodup) (listed : name ∈ known) (member : (name, d) ∈ ms) :
    ∃ found : Option Data, ms'.filter (·.1 = name) = (found.map fun d' => (name, d')).toList ∧
      (∀ d' ∈ found, inside name d d') ∧ (name ∈ needed → found.isSome) := by
  induction revision with
  | done => cases member
  | @remaining name' d₀ d' ms ms' changed rest ih =>
    rw [List.map_cons, List.nodup_cons] at distinct
    rcases List.mem_cons.mp member with here | later
    · obtain ⟨rfl, rfl⟩ := Prod.mk.inj here
      refine ⟨some d', ?_, ?_, fun _ => rfl⟩
      · rw [List.filter_cons_of_pos (by simp), rest.filter_eq_nil listed distinct.1]
        rfl
      · rintro _ ⟨⟩
        exact changed
    · have again : name ∈ ms.map Prod.fst := List.mem_map_of_mem (f := Prod.fst) later
      have other : name' ≠ name := by
        rintro rfl
        exact distinct.1 again
      rw [List.filter_cons_of_neg (by simpa using other)]
      exact ih distinct.2 later
  -- as names are different, no member behind a deleted one takes its place
  | @deleted m ms ms' spare rest ih =>
    rw [List.map_cons, List.nodup_cons] at distinct
    rcases List.mem_cons.mp member with rfl | later
    · exact ⟨none, rest.filter_eq_nil listed distinct.1, nofun, fun need => absurd need spare⟩
    · exact ih distinct.2 later
  | @inserted m ms ms' unknown rest ih =>
    have other : m.1 ≠ name := by
      rintro rfl
      exact unknown listed
    rw [List.filter_cons_of_neg (by simpa using other)]
    exact ih distinct member

/-- A revised record has at most one member of each name. -/
theorem holds_found (revision : Revision (ms.map Prod.fst) needed inside ms ms')
    (distinct : (ms.map Prod.fst).Nodup) (positional : Bool) :
    ∀ m ∈ foundOf ms' ms, Source.Holds ⟨ms', positional⟩ m := by
  intro m member
  obtain ⟨⟨name, d⟩, inside, rfl⟩ := List.mem_map.mp member
  have listed : name ∈ ms.map Prod.fst := List.mem_map_of_mem (f := Prod.fst) inside
  obtain ⟨found, only, -, -⟩ := revision.exists_found distinct listed inside
  rw [← member?_of_filter only] at only
  exact only

section Whole

variable (revision : Revision (ms.map Prod.fst) needed inside ms ms')
  (distinct : (ms.map Prod.fst).Nodup) (member : (name, d) ∈ ms)

include revision distinct member in
theorem changed_of_member? {d' : Data} (found : d' ∈ member? name ms') : inside name d d' := by
  have listed : name ∈ ms.map Prod.fst := List.mem_map_of_mem (f := Prod.fst) member
  obtain ⟨o, only, changed, -⟩ := revision.exists_found distinct listed member
  rw [member?_of_filter only] at found
  exact changed d' found

include revision distinct member in
theorem exists_member? (need : name ∈ needed) : ∃ d', member? name ms' = some d' := by
  have listed : name ∈ ms.map Prod.fst := List.mem_map_of_mem (f := Prod.fst) member
  obtain ⟨o, only, -, still⟩ := revision.exists_found distinct listed member
  rw [member?_of_filter only]
  exact Option.isSome_iff_exists.mp (still need)

end Whole

end Revision

/-! ## Fields of revised records -/

namespace Fields

/-- The fields give a value for what is left of some members, if these are as they were. -/
structure Spares (f : Fields α) (ms' ms : List (String × Data)) (a : α) : Prop where
  gives : Intact ms' ms → f.Gives (foundOf ms' ms) a

variable {ms' ms ns : List (String × Data)}

theorem spares_named {name : String} {read : Reader α} {absent : Source → Except Fault α}
    {d : Data} {a fallback : α} (found : read d = .ok a)
    (without : ∀ source, absent source = .ok fallback) :
    (named name read absent).Spares ms' [(name, d)]
      (if (record ms').has name then a else fallback) := by
  refine ⟨fun intact => ?_⟩
  have same := intact _ (List.mem_singleton.mpr rfl)
  rw [foundOf, List.map_singleton]
  rw [has, members]
  cases left : member? name ms' with
  | none => exact gives_absent without
  | some d' =>
    rw [same d' left]
    exact gives_named found

theorem spares_fieldOr [Saved α] [LawfulSaved α] (name : String) (a fallback : α) :
    (Saved.fieldOr name fallback).Spares ms' [(name, Saved.write a)]
      (if (record ms').has name then a else fallback) :=
  spares_named (Saved.read_write a) fun _ => rfl

namespace Spares

theorem ofValue (a : α) : (ofValue a).Spares ms' [] a := ⟨fun _ => .ofValue a⟩

theorem apply {f : Fields (α → β)} {x : Fields α} {g : α → β} {a : α} (first : f.Spares ms' ms g)
    (second : x.Spares ms' ns a) : (f.apply x).Spares ms' (ms ++ ns) (g a) := by
  refine ⟨fun intact => ?_⟩
  obtain ⟨intactFirst, intactSecond⟩ := List.forall_mem_append.mp intact
  rw [foundOf, List.map_append]
  exact (first.gives intactFirst).apply (second.gives intactSecond)

theorem seq {f : Fields (α → β)} {x : Fields α} {g : α → β} {a : α} (first : f.Spares ms' ms g)
    (second : x.Spares ms' ns a) : (f <*> x).Spares ms' (ms ++ ns) (g a) :=
  first.apply second

theorem map {x : Fields α} {a : α} (g : α → β) (spares : x.Spares ms' ms a) :
    (g <$> x).Spares ms' ms (g a) :=
  (ofValue g).apply spares

theorem congr {f : Fields α} {a : α} (spares : f.Spares ms' ms a) (same : ms = ns) :
    f.Spares ms' ns a :=
  same ▸ spares

end Spares

end Fields

/-- The fields of a record are read from what it still has of some members. -/
theorem Reader.record_found {fields : Fields α} {ms ms' : List (String × Data)} {a : α}
    (gives : fields.Gives (foundOf ms' ms) a)
    (holds : ∀ m ∈ foundOf ms' ms, Source.Holds ⟨ms', false⟩ m) (expected : String)
    (surplus : Surplus) : Reader.record expected fields surplus (.record ms') = .ok a := by
  rw [Reader.record, gives.found _ holds]

/-- A member is taken from one of two records. -/
def choose (has : String → Bool) (m n : String × Data) : String × Data :=
  (m.1, if has m.1 then m.2 else n.2)

theorem member?_zipWith_choose (has : String → Bool) {ms ns : List (String × Data)}
    (same : ms.map Prod.fst = ns.map Prod.fst) (name : String) :
    member? name (List.zipWith (choose has) ms ns) =
      if has name then member? name ms else member? name ns := by
  induction ms generalizing ns with
  | nil =>
    cases ns with
    | nil => simp [member?]
    | cons n ns => cases same
  | cons m ms ih =>
    cases ns with
    | nil => cases same
    | cons n ns =>
      obtain ⟨first, rest⟩ := List.cons.inj same
      obtain ⟨name₁, d⟩ := m
      obtain ⟨_, d'⟩ := n
      obtain rfl : name₁ = _ := first
      rw [List.zipWith_cons_cons, choose, member?, member?, member?, ih rest]
      by_cases here : name₁ = name
      · subst here
        simp only [if_true]
        split <;> rfl
      · simp only [if_neg here]

/-! ## Items -/

/-- Three lists of one length are gone through together. -/
inductive Aligned (R : α → β → γ → Prop) : List α → List β → List γ → Prop
  | nil : Aligned R [] [] []
  | cons {a : α} {b : β} {c : γ} {as : List α} {bs : List β} {cs : List γ} (first : R a b c)
    (rest : Aligned R as bs cs) : Aligned R (a :: as) (b :: bs) (c :: cs)

namespace Aligned

variable {R : α → β → γ → Prop} {as : List α} {bs : List β} {cs : List γ}

theorem length_eq (aligned : Aligned R as bs cs) :
    bs.length = as.length ∧ cs.length = as.length := by
  induction aligned with
  | nil => exact ⟨rfl, rfl⟩
  | cons _ _ ih => simp only [List.length_cons, ih, and_self]

theorem getElem (aligned : Aligned R as bs cs) {i : Nat} (ha : i < as.length) :
    ∃ (hb : i < bs.length) (hc : i < cs.length), R as[i] bs[i] cs[i] := by
  induction aligned generalizing i with
  | nil => cases ha
  | cons first rest ih =>
    cases i with
    | zero => exact ⟨Nat.zero_lt_succ _, Nat.zero_lt_succ _, first⟩
    | succ i =>
      obtain ⟨hb, hc, related⟩ := ih (Nat.lt_of_succ_lt_succ ha)
      exact ⟨Nat.succ_lt_succ hb, Nat.succ_lt_succ hc, related⟩

/-- What relates to an item of the last list takes its place. -/
theorem replaced {δ : Type} {S : γ → δ → Prop} {T : α → β → δ → Prop} {ds : List δ}
    (aligned : Aligned R as bs cs) (related : List.Forall₂ S cs ds)
    (each : ∀ a b c d, R a b c → S c d → T a b d) : Aligned T as bs ds := by
  induction aligned generalizing ds with
  | nil =>
    cases related
    exact .nil
  | cons first _ ih =>
    cases related with
    | cons second later => exact .cons (each _ _ _ _ first second) (ih later)

end Aligned

/-- Items that are read each for itself. -/
theorem Reader.exists_items {read : Reader β} {S : α → Data → Prop} {T : α → Data → β → Prop}
    (each : ∀ a d, S a d → ∃ b, read d = .ok b ∧ T a d b) {as : List α} {ds : List Data}
    (related : List.Forall₂ S as ds) : ∃ bs, items read ds = .ok bs ∧ Aligned T as ds bs := by
  induction related with
  | nil => exact ⟨[], rfl, .nil⟩
  | cons first _ ih =>
    obtain ⟨b, found, good⟩ := each _ _ first
    obtain ⟨bs, others, aligned⟩ := ih
    refine ⟨b :: bs, ?_, .cons good aligned⟩
    rw [items, found, others]

end Data

end MeshWatch
