import MeshWatch.Profile.Basic

/-!
# Books of profiles

An ordered list of profiles of which one is active. A book is never empty. The active profile is
kept by its id; deleting it activates the one before it.
-/
namespace MeshWatch

structure Book where
  profiles : List Profile
  activeId : String
  nonempty : profiles ≠ []

inductive BookError
  | lastProfile
  | notFound (id : String)
deriving DecidableEq

def BookError.message : BookError → String
  | .lastProfile => "Cannot delete the last profile"
  | .notFound id => "Profile not found: " ++ id

namespace Book

def single (p : Profile) : Book := ⟨[p], p.id, List.cons_ne_nil _ _⟩

/-- A book of one standard profile. -/
def new (supply : Supply) : Book × Supply :=
  let (p, supply) := ProfileOf.standard.name supply
  (single p, supply)

def get? (b : Book) (id : String) : Option Profile := b.profiles.find? (·.id = id)

/-- A book of some profiles. The first is active unless one has the wanted id; of no profiles
a book of one standard profile is made. -/
def ofProfiles (profiles : List Profile) (activeId : Option String) (supply : Supply) :
    Book × Supply :=
  match profiles with
  | [] => new supply
  | first :: rest =>
    let wanted := activeId.filter fun id => (first :: rest).any (·.id = id)
    (⟨first :: rest, wanted.getD first.id, List.cons_ne_nil _ _⟩, supply)

def active (b : Book) : Profile := (b.get? b.activeId).getD (b.profiles.head b.nonempty)

def setActive (b : Book) (id : String) : Except BookError Book :=
  match b.get? id with
  | none => .error (.notFound id)
  | some _ => .ok { b with activeId := id }

def numberedName (n : Nat) : String := ProfileOf.standardName ++ "-" ++ toString n

/-- The first number from `n` on whose name is not taken, of at most `tries` numbers refused. -/
def firstFree (taken : List String) : Nat → Nat → Nat
  | 0, n => n
  | tries + 1, n => if numberedName n ∈ taken then firstFree taken tries (n + 1) else n

/-- The name of the next new profile. -/
def freeName (b : Book) : String :=
  let taken := b.profiles.map (·.instanceName)
  numberedName (firstFree taken taken.length (taken.length + 1))

/-- Puts a new profile at the end and makes it the active one. -/
def addNew (b : Book) (supply : Supply) : Book × Supply :=
  let (p, supply) := (UnnamedProfile.name { ProfileOf.standard with instanceName := b.freeName }
    supply)
  (⟨b.profiles ++ [p], p.id, by simp⟩, supply)

/-- Puts a profile in the place of the first one of its id. -/
def replaceFirst (p : Profile) : List Profile → Option (List Profile)
  | [] => none
  | q :: rest =>
    if q.id = p.id then some (p :: rest) else (replaceFirst p rest).map (q :: ·)

theorem replaceFirst_ne_nil {p : Profile} {ps qs : List Profile}
    (h : replaceFirst p ps = some qs) : qs ≠ [] := by
  cases ps with
  | nil => simp [replaceFirst] at h
  | cons q rest =>
    rw [replaceFirst] at h
    split at h
    · obtain rfl := Option.some.inj h
      simp
    · obtain ⟨_, _, rfl⟩ := Option.map_eq_some_iff.mp h
      simp

def update (b : Book) (p : Profile) : Except BookError Book :=
  match h : replaceFirst p b.profiles with
  | none => .error (.notFound p.id)
  | some profiles => .ok ⟨profiles, b.activeId, replaceFirst_ne_nil h⟩

/-- Takes the first profile of an id out of the book. -/
def delete (b : Book) (id : String) : Except BookError (Profile × Book) :=
  if h : b.profiles.length ≤ 1 then .error .lastProfile
  else
    let place := b.profiles.findIdx (·.id = id)
    match b.profiles[place]? with
    | none => .error (.notFound id)
    | some removed =>
      let rest := b.profiles.eraseIdx place
      have nonempty : rest ≠ [] := by
        intro hrest
        have := congrArg List.length hrest
        simp only [rest, List.length_eraseIdx, List.length_nil] at this
        split at this <;> omega
      let activeId :=
        if removed.id = b.activeId then ((rest[place - 1]?).getD (rest.head nonempty)).id
        else b.activeId
      .ok (removed, ⟨rest, activeId, nonempty⟩)

end Book

end MeshWatch
