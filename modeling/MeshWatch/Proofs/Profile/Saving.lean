import MeshWatch.Proofs.Data.Reading
import MeshWatch.Proofs.Disk.Files
import MeshWatch.Proofs.Profile.Editing

/-!
# Saved books are loaded as they were

Each profile is read from what is written of it with all its fields, and as its ids are given no
fresh ones are taken. The active id is that of a profile in every book that can be come by, so it
is still the active one when the book is made again.
-/
namespace MeshWatch

open Data (Fields Reader Restores)
open Data.Fields (Restored)
open Saved (restored_fieldOr)

/-! ## Profiles -/

/-- A port forward whose id is given. -/
def PortForwardOf.given (f : PortForward) : PortForwardOf (Option String) :=
  { f with id := some f.id }

/-- A profile all of whose ids are given. -/
def ProfileOf.given (p : Profile) : UnnamedProfile :=
  { p with id := some p.id, portForwards := p.portForwards.map (·.given) }

theorem restored_idField (id : String) : idField.Restored [("id", Saved.write id)] (some id) :=
  Fields.restored_named ⟨.text id, rfl⟩

theorem PortForwardOf.restores (f : PortForward) : f.write.Restores read f.given := by
  refine Restores.record ?_ (by decide +kernel) _ _
  rw [given]
  apply Restored.congr
  case restored =>
    repeat
      apply Restored.seq
      case second => exact restored_fieldOr _ _ _
    exact (restored_idField f.id).map mk
  case same => rfl

theorem Switches.restored (s : Switches) : fields.Restored s.members s := by
  obtain ⟨⟩ := s
  rw [fields]
  apply Restored.congr
  case restored =>
    repeat
      apply Restored.seq
      case second => exact restored_fieldOr _ _ _
    exact Fields.restored_ofValue mk
  case same =>
    simp only [List.nil_append, List.cons_append]
    rfl

theorem ProfileOf.restores (p : Profile) : p.write.Restores read p.given := by
  refine Restores.record ?_ (by decide +kernel) _ _
  rw [given]
  apply Restored.congr
  case restored =>
    apply Restored.seq
    case second => exact p.switches.restored
    apply Restored.seq
    case second => exact Fields.restored_named (Restores.list PortForwardOf.restores _)
    repeat
      apply Restored.seq
      case second => exact restored_fieldOr _ _ _
    exact (restored_idField p.id).map mk
  case same => simp only [List.nil_append, List.cons_append]

/-! ## Ids that are given -/

theorem nameForwards_given (supply : Supply) (fs : List PortForward) :
    nameForwards supply (fs.map (·.given)) = (fs, supply) := by
  induction fs with
  | nil => rfl
  | cons f fs ih =>
    simp only [List.map_cons, nameForwards, PortForwardOf.given, Supply.idOr] at ih ⊢
    rw [ih]

theorem ProfileOf.name_given (p : Profile) (supply : Supply) :
    UnnamedProfile.name p.given supply = (p, supply) := by
  simp only [UnnamedProfile.name, given, Supply.idOr, nameForwards_given]

theorem nameAll_given (supply : Supply) (ps : List Profile) :
    nameAll supply (ps.map (·.given)) = (ps, supply) := by
  induction ps with
  | nil => rfl
  | cons p ps ih => simp only [List.map_cons, nameAll, ProfileOf.name_given, ih]

/-! ## Books -/

namespace Book

variable {b : Book}

theorem restores (b : Book) :
    b.write.Restores readSaved (b.profiles.map (·.given), some b.activeId) := by
  refine Restores.record ?_ (by decide +kernel) _ _
  apply Restored.congr
  case restored =>
    apply Restored.seq
    case second => exact restored_fieldOr "active_id" (some b.activeId) none
    exact (Fields.restored_named (Restores.list ProfileOf.restores b.profiles)).map Prod.mk
  case same => rfl

/-- A book is made again of its profiles and its active id. -/
theorem ofProfiles_self (sound : b.IsSound) (supply : Supply) :
    ofProfiles b.profiles (some b.activeId) supply = (b, supply) := by
  obtain ⟨_, made⟩ := ofProfiles_of_mem sound supply
  exact made

theorem saved?_of_readText? {d : Disk} {directory : Path}
    (text : d.readText? (path directory) = some b.toText) :
    saved? d directory = some (b.profiles.map (·.given), some b.activeId) := by
  have tree : Json.tree? b.toText = some b.write := Json.tree?_indented b.restores.plain
  simp only [saved?, text, tree, b.restores.found, Option.bind_eq_bind, Option.bind_some,
    Except.toOption]

theorem load_of_readText? (sound : b.IsSound) {d : Disk} {directory : Path}
    (text : d.readText? (path directory) = some b.toText) (supply : Supply) :
    load d directory supply = (.read, b, supply) := by
  rw [load_of_saved? (saved?_of_readText? text), nameAll_given, ofProfiles_self sound]

theorem readText?_of_save {d d' : Disk} {directory : Path}
    (saved : b.save d directory = some d') : d'.readText? (path directory) = some b.toText := by
  rw [save] at saved
  split at saved
  · cases saved
  · exact Disk.readText?_write saved

/-- A book that is come by in one of the ways and edited. -/
def Reachable (b : Book) : Prop := ∃ (o : Origin) (supply : Supply) (es : List Edit),
  ((o.book supply).1.editAll (o.book supply).2 es).2.1 = b

theorem Reachable.isSound (reachable : b.Reachable) : b.IsSound := by
  obtain ⟨o, supply, es, rfl⟩ := reachable
  exact (o.isSound_book supply).editAll _ es

/-- A saved book is loaded as it was, with all its profiles, from every disk on which the file has
the text that was written; one of them is the disk it was saved to. -/
theorem load_saved (reachable : b.Reachable) {d d' : Disk} {directory : Path}
    (saved : b.save d directory = some d') (supply : Supply) :
    load d' directory supply = (.read, b, supply) ∧
    ∀ d'' : Disk, d''.readText? (path directory) = some b.toText →
      load d'' directory supply = (.read, b, supply) := by
  have loaded (d'' : Disk) (text : d''.readText? (path directory) = some b.toText) :
      load d'' directory supply = (.read, b, supply) :=
    load_of_readText? reachable.isSound text supply
  exact ⟨loaded d' (readText?_of_save saved), loaded⟩

/-- A profile whose texts have quotes, line ends and control characters. -/
def unprintable : Profile :=
  { (UnnamedProfile.name { ProfileOf.standard with id := some "\u0000" } (.ofSeed 0)).1 with
    networkName := "\"a\\b\"\u001f\r\n"
    networkSecret := "\u0007π\u2028"
    peers := "tcp://a:1\n\n udp://b:2 "
    portForwards := [⟨"", "udp", "", some 65535, "192.0.2.1", none⟩] }

def fourEdits : List Edit :=
  [.update unprintable, .addNew, .addNew, .delete (uuidText 1)]

/-- Such a profile is put in the place of a plain one, and of two new ones the first is kept. -/
def afterEdits : Book :=
  let origin := Origin.ofProfiles [{ unprintable with portForwards := [] }] none
  ((origin.book (.ofSeed 0)).1.editAll (origin.book (.ofSeed 0)).2 fourEdits).2.1

theorem load_saved_afterEdits : ∃ d' : Disk,
    afterEdits.Reachable ∧
    afterEdits.save .empty (.ofText "data") = some d' ∧
    (load d' (.ofText "data") (.ofSeed 0) = (.read, afterEdits, .ofSeed 0) ∧
    ∀ d'' : Disk, d''.readText? (path (.ofText "data")) = some afterEdits.toText →
      load d'' (.ofText "data") (.ofSeed 0) = (.read, afterEdits, .ofSeed 0)) := by
  have reachable : afterEdits.Reachable := ⟨_, .ofSeed 0, fourEdits, rfl⟩
  obtain ⟨d', saved⟩ : ∃ d', afterEdits.save .empty (.ofText "data") = some d' :=
    Option.isSome_iff_exists.mp (by decide +kernel)
  exact ⟨d', reachable, saved, load_saved reachable saved (.ofSeed 0)⟩

end Book

end MeshWatch
