import Mathlib.Data.List.Basic
import MeshWatch.Profile.Store

/-!
# Editing books

The ways a book comes to be and the edits that an operator makes, one after the other. What each
of them does is said once, by the place of the profile it is about. From this follows that the
active id is always the id of a profile, also when several profiles have the same id.
-/
namespace MeshWatch

inductive Edit
  | setActive (id : String)
  | addNew
  | update (p : Profile)
  | delete (id : String)

/-- The profile that was added or taken out, if one was, or why an edit was refused. -/
abbrev EditAnswer := Except BookError (Option Profile)

namespace Book

def ids (b : Book) : List String := b.profiles.map (·.id)

/-- Makes an edit. One that is refused leaves the book as it is. A new profile gets its id from the
supply. -/
def edit (b : Book) (supply : Supply) : Edit → EditAnswer × Book × Supply
  | .setActive id =>
    match b.setActive id with
    | .ok b => (.ok none, b, supply)
    | .error refusal => (.error refusal, b, supply)
  | .addNew =>
    let (b, supply) := b.addNew supply
    (.ok b.profiles.getLast?, b, supply)
  | .update p =>
    match b.update p with
    | .ok b => (.ok none, b, supply)
    | .error refusal => (.error refusal, b, supply)
  | .delete id =>
    match b.delete id with
    | .ok (removed, b) => (.ok (some removed), b, supply)
    | .error refusal => (.error refusal, b, supply)

def editAll (b : Book) (supply : Supply) : List Edit → List EditAnswer × Book × Supply
  | [] => ([], b, supply)
  | e :: es =>
    let (answer, b, supply) := b.edit supply e
    let (answers, last) := b.editAll supply es
    (answer :: answers, last)

/-! ## The operations -/

/-- Where the first profile of an id stands. -/
def place (b : Book) (id : String) : Nat := b.profiles.findIdx (·.id = id)

section Operations

variable {b : Book} {id : String} {p : Profile}

theorem place_lt (member : id ∈ b.ids) : b.place id < b.profiles.length := by
  obtain ⟨p, listed, same⟩ := List.mem_map.mp member
  exact List.findIdx_lt_length_of_exists ⟨p, listed, by simp [same]⟩

theorem place_eq_length (absent : id ∉ b.ids) : b.place id = b.profiles.length := by
  refine List.findIdx_eq_length.mpr ?_
  intro p listed
  rw [decide_eq_false_iff_not]
  intro same
  exact absent (List.mem_map.mpr ⟨p, listed, same⟩)

theorem id_place (inside : b.place id < b.profiles.length) : (b.profiles[b.place id]).id = id :=
  of_decide_eq_true (List.findIdx_getElem (w := inside))

/-- A profile of another id stays when the profile of an id is taken out. -/
theorem mem_eraseIdx_place (listed : p ∈ b.profiles) (other : p.id ≠ id) :
    p ∈ b.profiles.eraseIdx (b.place id) := by
  obtain ⟨i, inside, rfl⟩ := List.getElem_of_mem listed
  refine List.mem_eraseIdx_iff_getElem?.mpr ⟨i, ?_, List.getElem?_eq_getElem inside⟩
  rintro rfl
  exact other (id_place inside)

theorem get?_eq_none_iff : b.get? id = none ↔ id ∉ b.ids := by
  simp [get?, ids]

theorem of_get? (found : b.get? id = some p) : p ∈ b.profiles ∧ p.id = id :=
  ⟨List.mem_of_find?_eq_some found, by simpa using List.find?_some found⟩

theorem setActive_of_mem (member : id ∈ b.ids) :
    b.setActive id = .ok { b with activeId := id } := by
  rw [setActive]
  cases found : b.get? id with
  | none => exact absurd member (get?_eq_none_iff.mp found)
  | some _ => rfl

theorem setActive_of_not_mem (absent : id ∉ b.ids) : b.setActive id = .error (.notFound id) := by
  rw [setActive, get?_eq_none_iff.mpr absent]

/-- The profile that is put at the end; its id is fresh. -/
theorem exists_added (b : Book) (supply : Supply) : ∃ p, p.id = supply.take.1 ∧
    (b.addNew supply).1.profiles = b.profiles ++ [p] ∧ (b.addNew supply).1.activeId = p.id ∧
    (b.addNew supply).2 = supply.take.2 :=
  ⟨_, rfl, rfl, rfl, rfl⟩

theorem replaceFirst_of_mem {ps : List Profile} (member : p.id ∈ ps.map (·.id)) :
    replaceFirst p ps = some (ps.set (ps.findIdx (·.id = p.id)) p) := by
  induction ps with
  | nil => cases member
  | cons q ps ih =>
    by_cases here : q.id = p.id
    · simp [replaceFirst, List.findIdx_cons, here]
    · have later : p.id ∈ ps.map (·.id) := by
        simpa [Ne.symm here] using member
      simp [replaceFirst, List.findIdx_cons, here, ih later]

theorem replaceFirst_of_not_mem {ps : List Profile} (absent : p.id ∉ ps.map (·.id)) :
    replaceFirst p ps = none := by
  induction ps with
  | nil => rfl
  | cons q ps ih =>
    rw [List.map_cons, List.mem_cons, not_or] at absent
    simp [replaceFirst, Ne.symm absent.1, ih absent.2]

theorem update_of_mem (member : p.id ∈ b.ids) : ∃ b', b.update p = .ok b' ∧
    b'.profiles = b.profiles.set (b.place p.id) p ∧ b'.activeId = b.activeId := by
  have replaced := replaceFirst_of_mem member
  rw [update]
  split
  · rename_i none
    rw [none] at replaced
    cases replaced
  · rename_i profiles some
    rw [some] at replaced
    exact ⟨_, rfl, Option.some.inj replaced, rfl⟩

theorem update_of_not_mem (absent : p.id ∉ b.ids) : b.update p = .error (.notFound p.id) := by
  have kept := replaceFirst_of_not_mem absent
  rw [update]
  split
  · rfl
  · rename_i some
    rw [some] at kept
    cases kept

theorem delete_of_last (only : b.profiles.length ≤ 1) (id : String) :
    b.delete id = .error .lastProfile := by
  rw [delete, dif_pos only]

theorem delete_of_not_mem (several : 1 < b.profiles.length) (absent : id ∉ b.ids) :
    b.delete id = .error (.notFound id) := by
  have outside : b.profiles[b.profiles.findIdx (·.id = id)]? = none := by
    rw [show b.profiles.findIdx (·.id = id) = _ from place_eq_length absent,
      List.getElem?_eq_none (Nat.le_refl _)]
  rw [delete, dif_neg (Nat.not_le.mpr several)]
  simp only
  split
  · rfl
  · rename_i some
    rw [some] at outside
    cases outside

/-- What is left when a profile is taken out, and which profile is active then. -/
theorem delete_of_mem (several : 1 < b.profiles.length) (member : id ∈ b.ids) :
    ∃ there : b.place id < b.profiles.length, ∃ b',
      b.delete id = .ok (b.profiles[b.place id], b') ∧
      b'.profiles = b.profiles.eraseIdx (b.place id) ∧
      ∃ inside : b.place id - 1 < b'.profiles.length,
        b'.activeId = if id = b.activeId then (b'.profiles[b.place id - 1]).id else b.activeId := by
  have inside := place_lt member
  have here : b.profiles[b.profiles.findIdx (·.id = id)]? = some (b.profiles[b.place id]) :=
    List.getElem?_eq_getElem inside
  have before : b.place id - 1 < (b.profiles.eraseIdx (b.place id)).length := by
    rw [List.length_eraseIdx_of_lt inside]
    omega
  rw [delete, dif_neg (Nat.not_le.mpr several)]
  simp only
  split
  · rename_i none
    rw [none] at here
    cases here
  · rename_i removed some
    rw [some] at here
    obtain rfl := Option.some.inj here
    refine ⟨inside, _, rfl, rfl, before, ?_⟩
    rw [id_place inside]
    change (if id = b.activeId then
      (((b.profiles.eraseIdx (b.place id))[b.place id - 1]?).getD _).id else b.activeId) = _
    rw [List.getElem?_eq_getElem before, Option.getD_some]
    rfl

end Operations

/-! ## What an edit does -/

/-- What becomes of a book and what is answered, edit by edit. -/
inductive Outcome (b : Book) (supply : Supply) : Edit → EditAnswer → Book → Supply → Prop
  | activated {id : String} (member : id ∈ b.ids) :
    Outcome b supply (.setActive id) (.ok none) { b with activeId := id } supply
  | added {p : Profile} {b' : Book} (id : p.id = supply.take.1)
    (profiles : b'.profiles = b.profiles ++ [p]) (activeId : b'.activeId = p.id) :
    Outcome b supply .addNew (.ok (some p)) b' supply.take.2
  | updated {p : Profile} {b' : Book} (member : p.id ∈ b.ids)
    (profiles : b'.profiles = b.profiles.set (b.place p.id) p)
    (activeId : b'.activeId = b.activeId) :
    Outcome b supply (.update p) (.ok none) b' supply
  | deleted {id : String} {b' : Book} (several : 1 < b.profiles.length)
    (there : b.place id < b.profiles.length)
    (profiles : b'.profiles = b.profiles.eraseIdx (b.place id))
    (inside : b.place id - 1 < b'.profiles.length)
    (activeId : b'.activeId =
      if id = b.activeId then (b'.profiles[b.place id - 1]).id else b.activeId) :
    Outcome b supply (.delete id) (.ok (some (b.profiles[b.place id]))) b' supply
  | notActivated {id : String} (absent : id ∉ b.ids) :
    Outcome b supply (.setActive id) (.error (.notFound id)) b supply
  | notUpdated {p : Profile} (absent : p.id ∉ b.ids) :
    Outcome b supply (.update p) (.error (.notFound p.id)) b supply
  | lastKept {id : String} (only : b.profiles.length ≤ 1) :
    Outcome b supply (.delete id) (.error .lastProfile) b supply
  | notDeleted {id : String} (several : 1 < b.profiles.length) (absent : id ∉ b.ids) :
    Outcome b supply (.delete id) (.error (.notFound id)) b supply

theorem outcome (b : Book) (supply : Supply) (e : Edit) :
    Outcome b supply e (b.edit supply e).1 (b.edit supply e).2.1 (b.edit supply e).2.2 := by
  cases e with
  | setActive id =>
    rw [edit]
    by_cases member : id ∈ b.ids
    · rw [setActive_of_mem member]
      exact .activated member
    · rw [setActive_of_not_mem member]
      exact .notActivated member
  | addNew =>
    obtain ⟨p, id, profiles, activeId, rest⟩ := exists_added b supply
    simp only [edit, profiles, rest, List.getLast?_concat]
    exact .added id profiles activeId
  | update p =>
    rw [edit]
    by_cases member : p.id ∈ b.ids
    · obtain ⟨b', updated, profiles, activeId⟩ := update_of_mem member
      rw [updated]
      exact .updated member profiles activeId
    · rw [update_of_not_mem member]
      exact .notUpdated member
  | delete id =>
    rw [edit]
    by_cases only : b.profiles.length ≤ 1
    · rw [delete_of_last only]
      exact .lastKept only
    · have several := Nat.lt_of_not_le only
      by_cases member : id ∈ b.ids
      · obtain ⟨there, b', deleted, profiles, inside, activeId⟩ := delete_of_mem several member
        rw [deleted]
        exact .deleted several there profiles inside activeId
      · rw [delete_of_not_mem several member]
        exact .notDeleted several member

/-- An edit that is refused leaves the book as it is. -/
theorem edit_of_refused {b : Book} {supply : Supply} {e : Edit} {refusal : BookError}
    (refused : (b.edit supply e).1 = .error refusal) : (b.edit supply e).2 = (b, supply) := by
  have outcome := outcome b supply e
  generalize b.edit supply e = result at refused outcome
  obtain ⟨answer, b', supply'⟩ := result
  obtain rfl : answer = .error refusal := refused
  cases outcome <;> rfl

/-! ## The active id -/

/-- The active id is the id of a profile. -/
def IsSound (b : Book) : Prop := b.activeId ∈ b.ids

theorem isSound_new (supply : Supply) : (new supply).1.IsSound := List.mem_singleton.mpr rfl

theorem any_id_iff {ps : List Profile} {id : String} :
    ps.any (·.id = id) ↔ id ∈ ps.map (·.id) := by
  simp

/-- A book has the wanted active id if one of its profiles does. -/
theorem ofProfiles_of_mem {ps : List Profile} {id : String} (listed : id ∈ ps.map (·.id))
    (supply : Supply) :
    ∃ nonempty, ofProfiles ps (some id) supply = (⟨ps, id, nonempty⟩, supply) := by
  cases ps with
  | nil => cases listed
  | cons first rest =>
    refine ⟨List.cons_ne_nil _ _, ?_⟩
    rw [ofProfiles, Option.filter_some, if_pos (any_id_iff.mpr listed), Option.getD_some]

/-- The first profile of a book is active if no profile has the wanted id. -/
theorem ofProfiles_of_absent {first : Profile} {rest : List Profile} {wanted : Option String}
    (absent : ∀ id ∈ wanted, id ∉ (first :: rest).map (·.id)) (supply : Supply) :
    ofProfiles (first :: rest) wanted supply =
      (⟨first :: rest, first.id, List.cons_ne_nil _ _⟩, supply) := by
  have none : wanted.filter (fun id => (first :: rest).any (·.id = id)) = none := by
    rw [Option.filter_eq_none_iff]
    exact fun id asked found => absent id asked (any_id_iff.mp found)
  simp only [ofProfiles, none, Option.getD_none]

theorem isSound_ofProfiles (ps : List Profile) (wanted : Option String) (supply : Supply) :
    (ofProfiles ps wanted supply).1.IsSound := by
  cases ps with
  | nil => exact isSound_new supply
  | cons first rest =>
    rw [IsSound, ids, ofProfiles]
    cases found : wanted.filter fun id => (first :: rest).any (·.id = id) with
    | none => exact List.mem_cons_self
    | some id =>
      exact any_id_iff.mp (Option.filter_eq_some_iff.mp found).2

theorem map_id_set {ps : List Profile} {i : Nat} {p : Profile} (inside : i < ps.length)
    (same : (ps[i]).id = p.id) : (ps.set i p).map (·.id) = ps.map (·.id) := by
  have inside' : i < (ps.map (·.id)).length := by simpa using inside
  have here : (ps.map (·.id))[i] = p.id := by
    rw [List.getElem_map, same]
  rw [List.map_set, ← here, List.set_getElem_self]

theorem Outcome.isSound {b b' : Book} {supply supply' : Supply} {e : Edit} {answer : EditAnswer}
    (sound : b.IsSound) (h : Outcome b supply e answer b' supply') : b'.IsSound := by
  cases h with
  | activated member => exact member
  | @added p b' id profiles activeId =>
    rw [IsSound, ids, profiles, activeId]
    simp
  | updated member profiles activeId =>
    rw [IsSound, ids, profiles, activeId, map_id_set (place_lt member) (id_place _)]
    exact sound
  | @deleted id b' several there profiles inside activeId =>
    rw [IsSound, activeId]
    split
    · exact List.mem_map_of_mem (List.getElem_mem inside)
    · rename_i other
      obtain ⟨p, listed, same⟩ := List.mem_map.mp sound
      have kept : p ∈ b'.profiles := by
        rw [profiles]
        refine mem_eraseIdx_place listed ?_
        rw [same]
        exact Ne.symm other
      exact List.mem_map.mpr ⟨p, kept, same⟩
  | notActivated | notUpdated | lastKept | notDeleted => exact sound

theorem IsSound.editAll {b : Book} (sound : b.IsSound) (supply : Supply) (es : List Edit) :
    (b.editAll supply es).2.1.IsSound := by
  induction es generalizing b supply with
  | nil => exact sound
  | cons e es ih => exact ih ((outcome b supply e).isSound sound) _

/-- The profiles and the active id that a data directory holds. -/
def saved? (d : Disk) (directory : Path) : Option (List UnnamedProfile × Option String) := do
  let s ← d.readText? (path directory)
  let tree ← Json.tree? s
  (readSaved tree).toOption

theorem bind_ofText? (d : Disk) (directory : Path) (supply : Supply) :
    ((d.readText? (path directory)).bind fun s => ofText? s supply) =
      (saved? d directory).map fun (ps, wanted) =>
        ofProfiles (nameAll supply ps).1 wanted (nameAll supply ps).2 := by
  simp only [saved?, ofText?, Option.bind_eq_bind]
  cases d.readText? (path directory) with
  | none => rfl
  | some s =>
    rw [Option.bind_some, Option.bind_some]
    cases Json.tree? s with
    | none => rfl
    | some tree =>
      rw [Option.bind_some, Option.bind_some]
      cases (readSaved tree).toOption <;> rfl

/-- A loaded book is made of what its directory holds, after ids have been given to the profiles
that lack one. -/
theorem load_of_saved? {d : Disk} {directory : Path} {ps : List UnnamedProfile}
    {wanted : Option String} (saved : saved? d directory = some (ps, wanted)) (supply : Supply) :
    load d directory supply =
      (.read, ofProfiles (nameAll supply ps).1 wanted (nameAll supply ps).2) := by
  rw [load, bind_ofText?, saved]
  cases there : d.item? (path directory) with
  | none =>
    rw [saved?, Disk.readText?, Disk.read?, there] at saved
    cases saved
  | some item => rfl

theorem load_of_not_saved {d : Disk} {directory : Path} (saved : saved? d directory = none)
    (supply : Supply) : load d directory supply =
      (if d.item? (path directory) = none then .noFile else .unreadable, new supply) := by
  rw [load, bind_ofText?, saved]
  cases d.item? (path directory) <;> rfl

end Book

/-! ## Where books come from -/

/-- A book is new, made of some profiles, or loaded from a data directory. -/
inductive Origin
  | new
  | ofProfiles (ps : List Profile) (wanted : Option String)
  | load (d : Disk) (directory : Path)

namespace Origin

def book (supply : Supply) : Origin → Book × Supply
  | .new => Book.new supply
  | .ofProfiles ps wanted => Book.ofProfiles ps wanted supply
  | .load d directory => (Book.load d directory supply).2

/-- The profiles and the active id that are asked for; nothing is asked for by a directory without
a file that can be read. The supply is what is left of it when the profiles have their ids. -/
def request (supply : Supply) : Origin → List Profile × Option String × Supply
  | .new => ([], none, supply)
  | .ofProfiles ps wanted => (ps, wanted, supply)
  | .load d directory =>
    match Book.saved? d directory with
    | none => ([], none, supply)
    | some (ps, wanted) => ((nameAll supply ps).1, wanted, (nameAll supply ps).2)

theorem book_eq (supply : Supply) (o : Origin) :
    o.book supply = Book.ofProfiles (o.request supply).1 (o.request supply).2.1
      (o.request supply).2.2 := by
  cases o with
  | new => rfl
  | ofProfiles ps wanted => rfl
  | load d directory =>
    rw [book, request]
    cases saved : Book.saved? d directory with
    | none => rw [Book.load_of_not_saved saved]; rfl
    | some found => rw [Book.load_of_saved? saved]

theorem isSound_book (supply : Supply) (o : Origin) : (o.book supply).1.IsSound := by
  rw [book_eq]
  exact Book.isSound_ofProfiles _ _ _

end Origin

end MeshWatch
