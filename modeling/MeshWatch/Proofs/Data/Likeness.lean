import MeshWatch.Proofs.Data.Arrangement

/-!
# Trees that are read alike

A reader looks into some parts of a tree and not into others. A likeness says which parts of two
trees have to correspond: of a record the named fields, whatever stands around them and in whatever
order; of a list all items, or the first; of a value that cannot be of use its kind alone. What is
alike in two trees is alike in their plain values, where the members of a record are in order.
-/
namespace MeshWatch

namespace Data

variable {α β γ : Type} {room : Nat} {name : String} {d d' v v' : Data}
  {members ms ms' : List (String × Data)} {ds ds' vs vs' : List Data}

/-! ## The members of a value -/

/-- The member of a name that counts, the last if there are several. -/
def last? (name : String) (members : List (String × Data)) : Option Data :=
  member? name members.reverse

theorem last?_concat (members : List (String × Data)) (m : String × Data) :
    last? name (members ++ [m]) = if m.1 = name then some m.2 else last? name members := by
  rw [last?, List.reverse_append]
  rfl

theorem member?_insertMember (name' : String) (value : Data) :
    member? name (insertMember name' value members) =
      if name' = name then some value else member? name members := by
  induction members with
  | nil => rfl
  | cons m members ih =>
    obtain ⟨other, d⟩ := m
    rw [insertMember]
    split
    · rfl
    · split
      · rename_i same
        subst same
        rw [member?, member?]
        split <;> rfl
      · rename_i differ
        rw [member?, member?, ih]
        by_cases here : other = name
        · rw [if_pos here, if_pos here, if_neg]
          exact fun same => differ (same.trans here.symm)
        · rw [if_neg here, if_neg here]

theorem member?_ordered (members : List (String × Data)) :
    member? name (ordered members) = last? name members := by
  induction members using List.reverseRecOn with
  | nil => rfl
  | append_singleton members m ih =>
    rw [ordered_concat, member?_insertMember, last?_concat, ih]

theorem member?_eq_none (fresh : name ∉ members.map Prod.fst) : member? name members = none := by
  induction members with
  | nil => rfl
  | cons m members ih =>
    obtain ⟨n, d⟩ := m
    rw [List.map_cons, List.mem_cons, not_or] at fresh
    rw [member?, if_neg (Ne.symm fresh.1), ih fresh.2]

theorem mem_of_member? (found : member? name members = some d) : (name, d) ∈ members := by
  induction members with
  | nil => cases found
  | cons m members ih =>
    obtain ⟨n, v⟩ := m
    rw [member?] at found
    split at found
    · rename_i here
      obtain rfl := Option.some.inj found
      rw [here]
      exact List.mem_cons_self
    · exact List.mem_cons_of_mem _ (ih found)

/-- Without repeated names every member counts. -/
theorem last?_eq_some_iff (distinct : (members.map Prod.fst).Nodup) :
    last? name members = some d ↔ (name, d) ∈ members := by
  rw [last?, ← List.mem_reverse]
  rw [← List.nodup_reverse, ← List.map_reverse] at distinct
  generalize members.reverse = turned at distinct ⊢
  refine ⟨mem_of_member?, ?_⟩
  intro member
  induction turned with
  | nil => cases member
  | cons m turned ih =>
    obtain ⟨n, v⟩ := m
    obtain ⟨fresh, distinct⟩ := List.nodup_cons.mp distinct
    rw [member?]
    rcases List.mem_cons.mp member with here | later
    · obtain ⟨rfl, rfl⟩ := Prod.mk.inj here
      rw [if_pos rfl]
    · rw [if_neg, ih distinct later]
      intro same
      exact fresh (List.mem_map.mpr ⟨(name, d), later, same.symm⟩)

theorem names_insertMember {n : String} (value : Data)
    (member : n ∈ (insertMember name value members).map Prod.fst) :
    n = name ∨ n ∈ members.map Prod.fst := by
  induction members with
  | nil => exact .inl (List.mem_singleton.mp member)
  | cons m members ih =>
    obtain ⟨other, d⟩ := m
    rw [insertMember] at member
    split at member
    · exact List.mem_cons.mp member
    · split at member
      · exact (List.mem_cons.mp member).imp_right (List.mem_cons_of_mem _)
      · rcases List.mem_cons.mp member with here | later
        · exact .inr (List.mem_cons.mpr (.inl here))
        · exact (ih later).imp_right (List.mem_cons_of_mem _)

theorem inOrder_insertMember (value : Data) (inOrder : InOrder members) :
    InOrder (insertMember name value members) := by
  induction members with
  | nil => exact List.pairwise_singleton ..
  | cons m members ih =>
    obtain ⟨other, d⟩ := m
    obtain ⟨first, rest⟩ := List.pairwise_cons.mp inOrder
    rw [insertMember]
    split
    · rename_i before
      refine List.pairwise_cons.mpr ⟨?_, inOrder⟩
      intro n member
      rcases List.mem_cons.mp member with rfl | later
      · exact before
      · exact before.trans (first n later)
    · rename_i notBefore
      split
      · rename_i same
        subst same
        exact inOrder
      · rename_i differ
        refine List.pairwise_cons.mpr ⟨?_, ih rest⟩
        intro n member
        rcases names_insertMember value member with rfl | old
        · exact lt_of_le_of_ne (not_lt.mp notBefore) (Ne.symm differ)
        · exact first n old

theorem inOrder_ordered (members : List (String × Data)) : InOrder (ordered members) := by
  induction members using List.reverseRecOn with
  | nil => exact .nil
  | append_singleton members m ih =>
    rw [ordered_concat]
    exact inOrder_insertMember m.2 ih

/-- `v` is the plain value of `d`. -/
def HasValue (d v : Data) : Prop := ∃ room, value? room d = some v

/-- `ms` are the members of the plain value of a record. -/
structure HaveValues (members ms : List (String × Data)) : Prop where
  inOrder : InOrder ms
  lasts : ∀ name, Option.Rel HasValue (last? name members) (member? name ms)

theorem forall₂_of_values? (h : values? room ds = some vs) : List.Forall₂ HasValue ds vs := by
  induction ds generalizing vs with
  | nil =>
    obtain rfl : [] = vs := Option.some.inj h
    exact .nil
  | cons d ds ih =>
    obtain ⟨v, here, h⟩ := Option.bind_eq_some_iff.mp h
    obtain ⟨rest, later, h⟩ := Option.bind_eq_some_iff.mp h
    obtain rfl := Option.some.inj h
    exact .cons ⟨room, here⟩ (ih later)

theorem rel_of_memberValues? (h : memberValues? room members = some ms) :
    List.Forall₂ (fun m m' => m.1 = m'.1 ∧ HasValue m.2 m'.2) members ms := by
  induction members generalizing ms with
  | nil =>
    obtain rfl : [] = ms := Option.some.inj h
    exact .nil
  | cons m members ih =>
    obtain ⟨name, d⟩ := m
    obtain ⟨v, here, h⟩ := Option.bind_eq_some_iff.mp h
    obtain ⟨rest, later, h⟩ := Option.bind_eq_some_iff.mp h
    obtain rfl := Option.some.inj h
    exact .cons ⟨rfl, room, here⟩ (ih later)

theorem rel_member? {members ms : List (String × Data)}
    (h : List.Forall₂ (fun m m' => m.1 = m'.1 ∧ HasValue m.2 m'.2) members ms) :
    Option.Rel HasValue (member? name members) (member? name ms) := by
  induction h with
  | nil => exact .none
  | @cons m m' _ _ here _ ih =>
    obtain ⟨n, d⟩ := m
    obtain ⟨n', v⟩ := m'
    obtain ⟨rfl, value⟩ := here
    rw [member?, member?]
    split
    · exact .some value
    · exact ih

theorem HasValue.list (h : HasValue (.list ds) v) :
    ∃ vs, v = .list vs ∧ List.Forall₂ HasValue ds vs := by
  obtain ⟨room, h⟩ := h
  cases room with
  | zero => cases h
  | succ room =>
    obtain ⟨vs, values, rfl⟩ := Option.map_eq_some_iff.mp h
    exact ⟨vs, rfl, forall₂_of_values? values⟩

theorem HasValue.record (h : HasValue (.record members) v) :
    ∃ ms, v = .record ms ∧ HaveValues members ms := by
  obtain ⟨room, h⟩ := h
  cases room with
  | zero => cases h
  | succ room =>
    obtain ⟨kept, values, rfl⟩ := Option.map_eq_some_iff.mp h
    refine ⟨ordered kept, rfl, inOrder_ordered kept, ?_⟩
    intro name
    rw [member?_ordered]
    exact rel_member? (List.rel_reverse (rel_of_memberValues? values))

/-- A tree that is neither a list nor a record. -/
def isLeaf : Data → Bool
  | .list _ | .record _ => false
  | _ => true

theorem HasValue.leaf (h : HasValue d v) (leaf : d.isLeaf) : v = d := by
  obtain ⟨room, h⟩ := h
  cases d with
  | list | record => cases leaf
  | unreadable => cases h
  | _ => exact (Option.some.inj h).symm

/-- Only of a record the plain value is a record. -/
theorem HasValue.of_record (h : HasValue d (.record ms)) :
    ∃ members, d = .record members ∧ HaveValues members ms := by
  cases leaf : d.isLeaf with
  | true =>
    obtain rfl := h.leaf leaf
    cases leaf
  | false =>
    cases d with
    | record members =>
      obtain ⟨_, same, values⟩ := h.record
      cases same
      exact ⟨members, rfl, values⟩
    | list =>
      obtain ⟨_, same, -⟩ := h.list
      cases same
    | _ => cases leaf

/-! ## Likenesses -/

/-- Which trees are alike to a reader. Every tree is like itself. -/
structure Likeness where
  Alike : Data → Data → Prop
  refl : ∀ d, Alike d d

namespace Likeness

/-- Records and lists are alike in ways of their own, and all else if it is the same. -/
def AlikeBy (onRecords : List (String × Data) → List (String × Data) → Prop)
    (onLists : List Data → List Data → Prop) : Data → Data → Prop
  | .record ms, .record ms' => onRecords ms ms'
  | .list ds, .list ds' => onLists ds ds'
  | d, d' => d = d'

theorem alikeBy_refl {P : List (String × Data) → List (String × Data) → Prop}
    {Q : List Data → List Data → Prop} (onRecords : ∀ ms, P ms ms) (onLists : ∀ ds, Q ds ds)
    (d : Data) : AlikeBy P Q d d := by
  cases d with
  | list ds => exact onLists ds
  | record ms => exact onRecords ms
  | _ => rfl

theorem rel_refl {α : Type} {R : α → α → Prop} (refl : ∀ a, R a a) (o : Option α) :
    Option.Rel R o o := by
  cases o with
  | none => exact .none
  | some a => exact .some (refl a)

/-- Where neither a list nor a record is of use, there is nothing in them to look at. -/
def scalar : Likeness where
  Alike := AlikeBy (fun _ _ => True) fun _ _ => True
  refl := alikeBy_refl (fun _ => trivial) fun _ => trivial

def items (D : Likeness) : Likeness where
  Alike := AlikeBy (fun _ _ => True) (List.Forall₂ D.Alike)
  refl := alikeBy_refl (fun _ => trivial) fun _ => List.forall₂_same.mpr fun d _ => D.refl d

/-- Only the first item is looked at. -/
def first (D : Likeness) : Likeness where
  Alike := AlikeBy (fun _ _ => True) fun ds ds' => Option.Rel D.Alike ds.head? ds'.head?
  refl := alikeBy_refl (fun _ => trivial) fun ds => rel_refl D.refl ds.head?

/-- Only these fields of a record are looked at. Of a record that is written as the list of its
fields also the number of items is. -/
def record (fields : List (String × Likeness)) : Likeness where
  Alike := AlikeBy
    (fun ms ms' => ∀ f ∈ fields, Option.Rel f.2.Alike (last? f.1 ms) (last? f.1 ms'))
    fun ds ds' => ds.length = ds'.length ∧
      ∀ f ∈ fields.zip (ds.zip ds'), f.1.2.Alike f.2.1 f.2.2
  refl := by
    refine alikeBy_refl (fun ms f _ => rel_refl f.2.refl _) fun ds => ⟨rfl, ?_⟩
    intro f member
    obtain ⟨-, pair⟩ := List.of_mem_zip member
    have same : List.Forall₂ (· = ·) ds ds := List.forall₂_refl ds
    rw [(List.forall₂_iff_zip.mp same).2 pair]
    exact f.1.2.refl f.2.2

/-- Records without repeated names are alike that have the same members of the names that are
looked at, in whatever order and among whatever others. -/
theorem record_of_mem_iff {fields : List (String × Likeness)}
    (distinct : (ms.map Prod.fst).Nodup) (distinct' : (ms'.map Prod.fst).Nodup)
    (same : ∀ f ∈ fields, ∀ d, (f.1, d) ∈ ms ↔ (f.1, d) ∈ ms') :
    (record fields).Alike (.record ms) (.record ms') := by
  intro f listed
  have last : last? f.1 ms = last? f.1 ms' := by
    apply Option.ext
    intro d
    rw [last?_eq_some_iff distinct, last?_eq_some_iff distinct']
    exact same f listed d
  rw [last]
  exact rel_refl f.2.refl _

/-- The plain values of trees that are alike. -/
def Valued (D : Likeness) (v v' : Data) : Prop :=
  ∃ d d', D.Alike d d' ∧ HasValue d v ∧ HasValue d' v'

section Values

variable {P : List (String × Data) → List (String × Data) → Prop}
  {Q : List Data → List Data → Prop}

/-- What the plain values of trees that are alike can be. -/
inductive ValuedOf (P : List (String × Data) → List (String × Data) → Prop)
    (Q : List Data → List Data → Prop) : Data → Data → Prop
  | record {members members' ms ms' : List (String × Data)} (alike : P members members')
    (values : HaveValues members ms) (values' : HaveValues members' ms') :
    ValuedOf P Q (.record ms) (.record ms')
  | list {ds ds' vs vs' : List Data} (alike : Q ds ds') (values : List.Forall₂ HasValue ds vs)
    (values' : List.Forall₂ HasValue ds' vs') : ValuedOf P Q (.list vs) (.list vs')
  | leaf {v : Data} (leaf : v.isLeaf) : ValuedOf P Q v v

theorem eq_of_leaf (alike : AlikeBy P Q d d') (leaf : d.isLeaf) : d = d' := by
  cases d with
  | list | record => cases leaf
  | _ => exact alike

theorem Valued.parts {D : Likeness} (made : D.Alike = AlikeBy P Q) (h : D.Valued v v') :
    ValuedOf P Q v v' := by
  obtain ⟨d, d', alike, value, value'⟩ := h
  rw [made] at alike
  cases leaf : d.isLeaf with
  | true =>
    obtain rfl := eq_of_leaf alike leaf
    obtain rfl := value.leaf leaf
    obtain rfl := value'.leaf leaf
    exact .leaf leaf
  | false =>
    cases d with
    | list ds =>
      cases d' with
      | list ds' =>
        obtain ⟨vs, rfl, values⟩ := value.list
        obtain ⟨vs', rfl, values'⟩ := value'.list
        exact .list alike values values'
      | _ => cases alike
    | record ms =>
      cases d' with
      | record ms' =>
        obtain ⟨vs, rfl, values⟩ := value.record
        obtain ⟨vs', rfl, values'⟩ := value'.record
        exact .record alike values values'
      | _ => cases alike
    | _ => cases leaf

/-- Alike items have alike values. -/
theorem forall₂_valued {D : Likeness} (alike : List.Forall₂ D.Alike ds ds')
    (values : List.Forall₂ HasValue ds vs) (values' : List.Forall₂ HasValue ds' vs') :
    List.Forall₂ D.Valued vs vs' := by
  induction alike generalizing vs vs' with
  | nil =>
    cases values
    cases values'
    exact .nil
  | cons here _ ih =>
    cases values with
    | cons value values =>
      cases values' with
      | cons value' values' => exact .cons ⟨_, _, here, value, value'⟩ (ih values values')

theorem rel_valued {D : Likeness} {o o' w w' : Option Data} (alike : Option.Rel D.Alike o o')
    (value : Option.Rel HasValue o w) (value' : Option.Rel HasValue o' w') :
    Option.Rel D.Valued w w' := by
  cases alike with
  | none =>
    cases value
    cases value'
    exact .none
  | some here =>
    cases value with
    | some value =>
      cases value' with
      | some value' => exact .some ⟨_, _, here, value, value'⟩

theorem rel_head? {α β : Type} {R : α → β → Prop} {as : List α} {bs : List β}
    (h : List.Forall₂ R as bs) : Option.Rel R as.head? bs.head? := by
  cases h with
  | nil => exact .none
  | cons here _ => exact .some here

end Values

end Likeness

end Data

end MeshWatch
