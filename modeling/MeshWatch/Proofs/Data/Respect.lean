import MeshWatch.Proofs.Data.Likeness

/-!
# Readers that respect a likeness

A reader respects a likeness if it gives values that correspond for the plain values of any two
trees that are alike, or mismatches that are told in the same words. Records are read field by
field, and of several faults the earliest is reported: places differ between two records that hold
other members besides, but the order of the places does not.
-/
namespace MeshWatch

/-- Two results that are both values and correspond, or both errors and correspond. -/
inductive Agree {ε ε' α β : Type} (E : ε → ε' → Prop) (R : α → β → Prop) :
    Except ε α → Except ε' β → Prop
  | ok {a : α} {b : β} (same : R a b) : Agree E R (.ok a) (.ok b)
  | error {e : ε} {e' : ε'} (same : E e e') : Agree E R (.error e) (.error e')

namespace Agree

variable {ε ε' α β γ δ : Type} {E : ε → ε' → Prop} {R : α → β → Prop} {S : γ → δ → Prop}
  {x : Except ε α} {y : Except ε' β}

theorem bind {f : α → Except ε γ} {g : β → Except ε' δ} (agree : Agree E R x y)
    (next : ∀ a b, R a b → Agree E S (f a) (g b)) : Agree E S (x.bind f) (y.bind g) := by
  cases agree with
  | ok same => exact next _ _ same
  | error same => exact .error same

theorem map {f : α → γ} {g : β → δ} (agree : Agree E R x y)
    (kept : ∀ a b, R a b → S (f a) (g b)) : Agree E S (x.map f) (y.map g) := by
  cases agree with
  | ok same => exact .ok (kept _ _ same)
  | error same => exact .error same

theorem mapError {ε₁ ε₂ : Type} {F : ε₁ → ε₂ → Prop} {f : ε → ε₁} {g : ε' → ε₂}
    (agree : Agree E R x y) (kept : ∀ e e', E e e' → F (f e) (g e')) :
    Agree F R (x.mapError f) (y.mapError g) := by
  cases agree with
  | ok same => exact .ok same
  | error same => exact .error (kept _ _ same)

theorem refl {E : ε → ε → Prop} (settled : ∀ e, E e e) (x : Except ε α) : Agree E Eq x x := by
  cases x with
  | ok a => exact .ok rfl
  | error e => exact .error (settled e)

@[simp]
theorem error_iff {e : ε} {e' : ε'} : Agree E R (.error e) (.error e') ↔ E e e' := by
  constructor
  · intro agree
    cases agree with
    | error same => exact same
  · exact .error

end Agree

namespace Data

variable {α β γ : Type} {name : String} {d v v' : Data} {ms ms' : List (String × Data)}
  {ds ds' vs vs' : List Data}

/-! ## Readers -/

/-- Two mismatches that are told in the same words. -/
def Mismatch.SaysSame (c c' : Mismatch) : Prop := c.message = c'.message

theorem Mismatch.SaysSame.refl (c : Mismatch) : c.SaysSame c := rfl

/-- A reader tells no more of a tree than a likeness looks at. -/
def Respects (read : Reader α) (D : Likeness) (R : α → α → Prop) : Prop :=
  ∀ v v', D.Valued v v' → Agree Mismatch.SaysSame R (read v) (read v')

namespace Respects

open Likeness

variable {D : Likeness} {R : α → α → Prop} {read : Reader α}

/-- A reader that takes neither lists nor records. -/
theorem scalar {expected : String}
    (onRecord : ∀ ms, read (.record ms) = .error (.wrongType (.record ms) expected))
    (onList : ∀ ds, read (.list ds) = .error (.wrongType (.list ds) expected)) :
    Respects read Likeness.scalar Eq := by
  intro v v' alike
  cases alike.parts rfl with
  | record =>
    rw [onRecord, onRecord]
    exact .error rfl
  | list =>
    rw [onList, onList]
    exact .error rfl
  | leaf => exact .refl Mismatch.SaysSame.refl _

theorem text : Respects Reader.text Likeness.scalar Eq := scalar (fun _ => rfl) fun _ => rfl

theorem number (low high : Int) (expected : String) (f : Int → α) :
    Respects (fun d => (Reader.int low high expected d).map f) Likeness.scalar Eq :=
  scalar (fun _ => rfl) fun _ => rfl

theorem u8 : Respects Reader.u8 Likeness.scalar Eq := number _ _ _ _

theorem u32 : Respects Reader.u32 Likeness.scalar Eq := number _ _ _ _

theorem u64 : Respects Reader.u64 Likeness.scalar Eq := number _ _ _ _

theorem i32 : Respects Reader.i32 Likeness.scalar Eq := number _ _ _ _

theorem i64 : Respects Reader.i64 Likeness.scalar Eq := number _ _ _ _

theorem items_cons (read : Reader α) (d : Data) (ds : List Data) :
    Reader.items read (d :: ds) =
      (read d).bind fun a => (Reader.items read ds).map (a :: ·) := by
  rw [Reader.items]
  cases read d with
  | error c => rfl
  | ok a => cases Reader.items read ds <;> rfl

theorem agree_items (respects : Respects read D R) (alike : List.Forall₂ D.Valued vs vs') :
    Agree Mismatch.SaysSame (List.Forall₂ R) (Reader.items read vs) (Reader.items read vs') := by
  induction alike with
  | nil => exact .ok .nil
  | cons here _ ih =>
    rw [items_cons, items_cons]
    refine (respects _ _ here).bind ?_
    intro a a' same
    refine ih.map ?_
    intro as as' others
    exact .cons same others

theorem list_leaf (read : Reader α) (leaf : v.isLeaf) :
    Reader.list read v = .error (.wrongType v "a sequence") := by
  cases v with
  | list => cases leaf
  | _ => rfl

theorem listOf (respects : Respects read D R) :
    Respects (Reader.list read) (Likeness.items D) (List.Forall₂ R) := by
  intro v v' alike
  cases alike.parts rfl with
  | record => exact .error rfl
  | list same values values' => exact respects.agree_items (forall₂_valued same values values')
  | leaf leaf =>
    rw [list_leaf read leaf]
    exact .error rfl

theorem list (respects : Respects read D Eq) : Respects (Reader.list read) (Likeness.items D) Eq := by
  have same := respects.listOf
  rwa [List.forall₂_eq_eq_eq] at same

/-- Items that are not looked into, and of which only the first is looked at later. -/
theorem firstOf (D : Likeness) : Respects (Reader.list .ok) (Likeness.first D)
    fun vs vs' => Option.Rel D.Valued vs.head? vs'.head? := by
  intro v v' alike
  have untouched (vs : List Data) : Reader.list .ok (.list vs) = .ok vs := by
    change Reader.items .ok vs = .ok vs
    induction vs with
    | nil => rfl
    | cons v vs ih => rw [Reader.items, ih]
  cases alike.parts rfl with
  | record => exact .error rfl
  | list same values values' =>
    rw [untouched, untouched]
    exact .ok (rel_valued same (rel_head? values) (rel_head? values'))
  | leaf leaf =>
    rw [list_leaf _ leaf]
    exact .error rfl

theorem option {fields : List (String × Likeness)}
    (respects : Respects read (Likeness.record fields) Eq) :
    Respects (Reader.option read) (Likeness.record fields) Eq := by
  intro v v' alike
  have same := respects v v' alike
  cases alike.parts rfl with
  | record | list => exact same.map fun _ _ => congrArg some
  | leaf leaf => exact .refl Mismatch.SaysSame.refl _

end Respects

/-! ## Fields -/

namespace Source

def names (s : Source) : List String := s.members.map Prod.fst

/-- Two sources without repeated names, in which the names that both have come in the same order. -/
structure Aligned (s s' : Source) : Prop where
  distinct : s.names.Nodup
  distinct' : s'.names.Nodup
  positional : s.positional = s'.positional
  order : ∀ n ∈ s.names, n ∈ s'.names → ∀ m ∈ s.names, m ∈ s'.names →
    (s.names.idxOf n < s.names.idxOf m ↔ s'.names.idxOf n < s'.names.idxOf m)

end Source

/-- Two faults at the same field that are told in the same words. -/
inductive SameFault (s s' : Source) : Fault → Fault → Prop
  | at {n : String} {c c' : Mismatch} (member : n ∈ s.names) (member' : n ∈ s'.names)
    (same : c.SaysSame c') : SameFault s s' (.at (s.names.idxOf n) c) (.at (s'.names.idxOf n) c')
  | absent (field : String) : SameFault s s' (.absent field) (.absent field)

section Faults

variable {s s' : Source} {e e' f f' : Fault}

theorem SameFault.first (aligned : s.Aligned s') (same : SameFault s s' e e')
    (same' : SameFault s s' f f') : SameFault s s' (e.first f) (e'.first f') := by
  cases same with
  | absent field =>
    cases same' with
    | absent field' => exact .absent field
    | «at» member member' told => exact .at member member' told
  | @«at» n c d inN inN' told =>
    cases same' with
    | absent field => exact .at inN inN' told
    | @«at» m c' d' inM inM' told' =>
      have order := aligned.order m inM inM' n inN inN'
      rw [Fault.first, Fault.first]
      by_cases earlier : s.names.idxOf m < s.names.idxOf n
      · rw [if_pos earlier, if_pos (order.mp earlier)]
        exact .at inM inM' told'
      · rw [if_neg earlier, if_neg (fun h => earlier (order.mpr h))]
        exact .at inN inN' told

end Faults

theorem mem_names_of_member? (found : member? name ms = some d) : name ∈ ms.map Prod.fst :=
  List.mem_map.mpr ⟨(name, d), mem_of_member? found, rfl⟩

namespace Fields

/-- Among distinct names a field is found at the place of its name, and once. -/
theorem locate_eq (distinct : (ms.map Prod.fst).Nodup) (start : Nat) :
    locate name start ms =
      (member? name ms).map fun d => (start + (ms.map Prod.fst).idxOf name, d, none) := by
  induction ms generalizing start with
  | nil => rfl
  | cons m ms ih =>
    obtain ⟨n, d⟩ := m
    obtain ⟨fresh, distinct⟩ := List.nodup_cons.mp distinct
    rw [locate, member?]
    split
    · rename_i here
      subst here
      rw [ih distinct, member?_eq_none fresh]
      simp
    · rename_i elsewhere
      rw [ih distinct, List.map_cons, List.idxOf_cons_ne _ elsewhere]
      simp only [Nat.succ_eq_add_one, Nat.add_assoc, Nat.add_comm 1]

theorem named_eq {read : Reader α} {absent : Source → Except Fault α} {s : Source}
    (distinct : s.names.Nodup) : (named name read absent).read s =
      match member? name s.members with
      | none => absent s
      | some d => (read d).mapError (.at (s.names.idxOf name)) := by
  simp only [named]
  rw [locate_eq distinct]
  cases member? name s.members with
  | none => rfl
  | some d =>
    simp only [Option.map_some, Nat.zero_add]
    cases read d <;> rfl

/-- Fields are read alike from sources in which the members that they name are alike. -/
structure Respects (f : Fields α) (fields : List (String × Likeness)) (R : α → α → Prop) :
    Prop where
  names : fields.map Prod.fst = f.names
  agree : ∀ s s' : Source, s.Aligned s' →
    (∀ x ∈ fields, Option.Rel x.2.Valued (member? x.1 s.members) (member? x.1 s'.members)) →
      Agree (SameFault s s') R (f.read s) (f.read s')

section Named

variable {D : Likeness} {R : α → α → Prop} {read : Reader α}

theorem respects_named {absent : Source → Except Fault α} (respects : Data.Respects read D R)
    (fallback : ∀ s s' : Source, s.Aligned s' → Agree (SameFault s s') R (absent s) (absent s')) :
    (named name read absent).Respects [(name, D)] R := by
  refine ⟨rfl, ?_⟩
  intro s s' aligned alike
  have here := alike (name, D) List.mem_cons_self
  rw [named_eq aligned.distinct, named_eq aligned.distinct']
  cases found : member? name s.members with
  | none =>
    rw [found] at here
    cases found' : member? name s'.members with
    | none => exact fallback s s' aligned
    | some v' => cases found' ▸ here
  | some v =>
    rw [found] at here
    cases found' : member? name s'.members with
    | none => cases found' ▸ here
    | some v' =>
      rw [found'] at here
      cases here with
      | some same =>
        refine (respects v v' same).mapError ?_
        intro c c' told
        exact .at (mem_names_of_member? found) (mem_names_of_member? found') told

theorem respects_required (name : String) (respects : Data.Respects read D R) :
    (required name read).Respects [(name, D)] R :=
  respects_named respects fun _ _ _ => .error (.absent name)

theorem respects_defaulted (name : String) (fallback : α) (respects : Data.Respects read D R)
    (settled : R fallback fallback) : (defaulted name read fallback).Respects [(name, D)] R :=
  respects_named respects fun _ _ _ => .ok settled

end Named

namespace Respects

theorem apply {f : Fields (α → β)} {x : Fields α} {fs xs : List (String × Likeness)}
    {F : (α → β) → (α → β) → Prop} {R : α → α → Prop} {S : β → β → Prop}
    (first : f.Respects fs F) (second : x.Respects xs R)
    (join : ∀ g g' a a', F g g' → R a a' → S (g a) (g' a')) :
    (f.apply x).Respects (fs ++ xs) S := by
  refine ⟨by rw [List.map_append, first.names, second.names, Fields.apply], ?_⟩
  intro s s' aligned alike
  obtain ⟨left, right⟩ := List.forall_mem_append.mp alike
  have front := first.agree s s' aligned left
  have back := second.agree s s' aligned right
  simp only [Fields.apply]
  generalize f.read s = g, f.read s' = g' at front ⊢
  generalize x.read s = a, x.read s' = a' at back ⊢
  cases front with
  | ok same =>
    cases back with
    | ok same' => exact .ok (join _ _ _ _ same same')
    | error fault => exact .error fault
  | error fault =>
    cases back with
    | ok same' => exact .error fault
    | error fault' => exact .error (fault.first aligned fault')

theorem seq {f : Fields (α → β)} {x : Fields α} {fs xs : List (String × Likeness)}
    (first : f.Respects fs Eq) (second : x.Respects xs Eq) : (f <*> x).Respects (fs ++ xs) Eq :=
  first.apply second fun _ _ _ _ same same' => by rw [same, same']

theorem map {x : Fields α} {xs : List (String × Likeness)} {R : α → α → Prop} {S : β → β → Prop}
    (g : α → β) (respects : x.Respects xs R) (kept : ∀ a a', R a a' → S (g a) (g a')) :
    (g <$> x).Respects xs S := by
  have constant : (ofValue g).Respects [] fun h h' => h = g ∧ h' = g :=
    ⟨rfl, fun _ _ _ _ => .ok ⟨rfl, rfl⟩⟩
  refine constant.apply respects ?_
  rintro _ _ a a' ⟨rfl, rfl⟩ same
  exact kept a a' same

theorem mapped {x : Fields α} {xs : List (String × Likeness)} (g : α → β)
    (respects : x.Respects xs Eq) : (g <$> x).Respects xs Eq :=
  respects.map g fun _ _ => congrArg g

end Respects

end Fields

/-! ## Records -/

theorem idxOf_lt_iff {l : List String} (inOrder : l.Pairwise (· < ·)) {n m : String} (inN : n ∈ l)
    (inM : m ∈ l) : l.idxOf n < l.idxOf m ↔ n < m := by
  have placeN := List.idxOf_lt_length_of_mem inN
  have placeM := List.idxOf_lt_length_of_mem inM
  have before {a b : String} (inA : l.idxOf a < l.length) (inB : l.idxOf b < l.length)
      (earlier : l.idxOf a < l.idxOf b) : a < b := by
    have := List.pairwise_iff_getElem.mp inOrder _ _ inA inB earlier
    rwa [List.getElem_idxOf, List.getElem_idxOf] at this
  constructor
  · exact before placeN placeM
  · intro smaller
    rcases lt_trichotomy (l.idxOf n) (l.idxOf m) with earlier | same | later
    · exact earlier
    · exact absurd ((List.idxOf_inj inN).mp same) smaller.ne
    · exact absurd (before placeM placeN later) smaller.asymm

theorem InOrder.distinct (inOrder : InOrder ms) : (ms.map Prod.fst).Nodup :=
  List.Pairwise.imp (fun smaller => smaller.ne) inOrder

theorem aligned_of_inOrder (inOrder : InOrder ms) (inOrder' : InOrder ms') :
    Source.Aligned ⟨ms, false⟩ ⟨ms', false⟩ where
  distinct := inOrder.distinct
  distinct' := inOrder'.distinct
  positional := rfl
  order _ inN inN' _ inM inM' :=
    (idxOf_lt_iff inOrder inN inM).trans (idxOf_lt_iff inOrder' inN' inM').symm

theorem map_fst_zip {names : List String} (vs : List Data) :
    (names.zip vs).map Prod.fst = names.take vs.length := by
  induction names generalizing vs with
  | nil => simp
  | cons n names ih =>
    cases vs with
    | nil => rfl
    | cons v vs => simp [ih]

theorem aligned_of_lists {names : List String} (distinct : names.Nodup)
    (same : vs.length = vs'.length) :
    Source.Aligned ⟨names.zip vs, true⟩ ⟨names.zip vs', true⟩ := by
  have listed : (names.zip vs).map Prod.fst = (names.zip vs').map Prod.fst := by
    rw [map_fst_zip, map_fst_zip, same]
  have nodup (vs : List Data) : ((names.zip vs).map Prod.fst).Nodup := by
    rw [map_fst_zip]
    exact distinct.sublist (List.take_sublist ..)
  refine ⟨nodup vs, nodup vs', rfl, ?_⟩
  intro n _ _ m _ _
  rw [Source.names, Source.names, listed]

/-- The fields of records that are written as lists. -/
theorem rel_positional {fields : List (String × Likeness)} (distinct : (fields.map Prod.fst).Nodup)
    (same : ds.length = ds'.length) (alike : ∀ f ∈ fields.zip (ds.zip ds'), f.1.2.Alike f.2.1 f.2.2)
    (values : List.Forall₂ HasValue ds vs) (values' : List.Forall₂ HasValue ds' vs') :
    ∀ f ∈ fields, Option.Rel f.2.Valued (member? f.1 ((fields.map Prod.fst).zip vs))
      (member? f.1 ((fields.map Prod.fst).zip vs')) := by
  induction fields generalizing ds ds' vs vs' with
  | nil => nofun
  | cons f fields ih =>
    obtain ⟨fresh, distinct⟩ := List.nodup_cons.mp distinct
    cases values with
    | nil =>
      obtain rfl := List.eq_nil_of_length_eq_zero same.symm
      cases values'
      intro g _
      exact .none
    | @cons d v ds vs value values =>
      cases values' with
      | nil => cases same
      | @cons d' v' ds' vs' value' values' =>
        obtain ⟨here, others⟩ := List.forall_mem_cons.mp alike
        refine List.forall_mem_cons.mpr ⟨?_, ?_⟩
        · rw [List.map_cons, List.zip_cons_cons, List.zip_cons_cons, member?, member?, if_pos rfl,
            if_pos rfl]
          exact .some ⟨d, d', here, value, value'⟩
        · intro g later
          have elsewhere : f.1 ≠ g.1 := fun same => fresh (same ▸ List.mem_map_of_mem later)
          rw [List.map_cons, List.zip_cons_cons, List.zip_cons_cons, member?, member?,
            if_neg elsewhere, if_neg elsewhere]
          exact ih distinct (Nat.succ.inj same) others values values' g later

/-- A record reader tells no more than its fields do. -/
theorem Respects.record {f : Fields α} {fields : List (String × Likeness)} {R : α → α → Prop}
    (respects : f.Respects fields R) (distinct : f.names.Nodup) (expected : String)
    (surplus : Surplus) :
    Respects (Reader.record expected f surplus) (Likeness.record fields) R := by
  intro v v' alike
  cases alike.parts rfl with
  | @record members members' ms ms' same values values' =>
    have agree := respects.agree _ _ (aligned_of_inOrder values.inOrder values'.inOrder) fun x listed =>
      Likeness.rel_valued (same x listed) (values.lasts x.1) (values'.lasts x.1)
    rw [Reader.record, Reader.record]
    generalize f.read ⟨ms, false⟩ = x, f.read ⟨ms', false⟩ = x' at agree ⊢
    cases agree with
    | ok same => exact .ok same
    | error fault =>
      cases fault with
      | «at» _ _ told => exact .error told
      | absent field => exact .error rfl
  | @list ds ds' vs vs' same values values' =>
    obtain ⟨length, alike⟩ := same
    have count : vs.length = vs'.length :=
      values.length_eq.symm.trans (length.trans values'.length_eq)
    have named := respects.names
    have fieldwise := rel_positional (named ▸ distinct) length alike values values'
    rw [named] at fieldwise
    have agree := respects.agree _ _ (aligned_of_lists distinct count) fieldwise
    rw [Reader.record, Reader.record, count]
    generalize f.read ⟨f.names.zip vs, true⟩ = x, f.read ⟨f.names.zip vs', true⟩ = x' at agree ⊢
    cases agree with
    | ok same =>
      simp only
      split
      · exact .error rfl
      · exact .ok same
    | error fault =>
      cases fault with
      | «at» _ _ told => exact .error told
      | absent field => exact .error rfl
  | leaf leaf =>
    have refused : Reader.record expected f surplus v = .error (.wrongType v expected) := by
      cases v with
      | list | record => cases leaf
      | _ => rfl
    rw [refused]
    exact .error rfl

end Data

end MeshWatch
