import MeshWatch.Logging.Setup
import MeshWatch.Proofs.Disk.Directories

/-!
# What a refused set-up leaves on the disk

A set-up prepares its file before it asks for the process's logger, and nothing is taken back when
it is refused. What was there stays, except that a file that is kept for good is emptied when the
logger is what refuses; new are at most the directories on the way and the empty file.
-/
namespace MeshWatch.Logging

variable {c : Config} {f : FileOutput} {t : Stamp} {d d' : Disk} {e : SetupError}
  {hasLogger : Bool} {target q : Location}

namespace FileOutput

/-- The directories that are made before the file is opened. -/
def missing (f : FileOutput) (t : Stamp) (d : Disk) : List Location :=
  d.missing (.ofText f.directory) ++
    if f.rotation = .never then [] else d.missing (Path.parent (.ofText (f.pathAt t)))

/-- The file once it is opened, by what was in its place: one that is kept for good starts empty,
any other is continued. -/
def opened (f : FileOutput) (before : Option Item) : Item :=
  if f.rotation = .never then .file (.text "") else before.getD (.file (.text ""))

/-- The second disk is the first one with the missing directories made and the file opened. -/
structure IsOpened (f : FileOutput) (t : Stamp) (d d' : Disk) (target : Location) : Prop where
  leads : d'.location? (.ofText (f.pathAt t)) = some target
  free : d.itemAt? target ≠ some .directory
  absent : ∀ q ∈ f.missing t d, d.itemAt? q = none
  items : ∀ q, d'.itemAt? q =
    if q = target then some (f.opened (d.itemAt? target))
    else if q ∈ f.missing t d then some .directory
    else d.itemAt? q

/-- Opening a file on a disk that has got its directories. -/
theorem IsOpened.of_gains {d₁ : Disk} (gains : d.Gains (f.missing t d) d₁)
    (leads : d'.location? (.ofText (f.pathAt t)) = some target)
    (free : d₁.itemAt? target ≠ some .directory)
    (items : ∀ q, d'.itemAt? q =
      if q = target then some (f.opened (d₁.itemAt? target)) else d₁.itemAt? q) :
    f.IsOpened t d d' target := by
  have apart : target ∉ f.missing t d := fun member => free (by rw [gains.items, if_pos member])
  have same : d₁.itemAt? target = d.itemAt? target := by rw [gains.items, if_neg apart]
  refine ⟨leads, same ▸ free, gains.free, fun q => ?_⟩
  rw [items, same, gains.items]

/-- Preparing a file opens it or fails, and then only the directories of its own directory have
been made, unless it is a file that cannot be continued. -/
theorem prepare_cases {result : Except SetupError Unit} (prepared : f.prepare t d = (result, d')) :
    (∃ target, result = .ok () ∧ f.IsOpened t d d' target) ∨
      (result = .error .files ∧ d.Gains (d.missing (.ofText f.directory)) d') ∨
      result = .error .continuation := by
  have directory := (Disk.Gains.refl d).makeDirectory (.ofText f.directory)
  rw [List.nil_append] at directory
  unfold prepare at prepared
  split at prepared
  · rename_i d₁ stopped
    rw [stopped] at directory
    cases prepared
    exact .inr (.inl ⟨rfl, directory⟩)
  rename_i d₁ made
  rw [made] at directory
  dsimp only at prepared
  split at prepared
  · rename_i never
    cases written : d₁.write (.ofText (f.pathAt t)) (.text "") with
    | none =>
      rw [written] at prepared
      cases prepared
      exact .inr (.inl ⟨rfl, directory⟩)
    | some d₂ =>
      rw [written] at prepared
      cases prepared
      obtain ⟨target, leads, -, free, items⟩ := Disk.write_cases written
      have gains : d.Gains (f.missing t d) d₁ := by
        rwa [missing, if_pos never, List.append_nil]
      have opening : f.IsOpened t d d' target :=
        .of_gains gains leads free fun q => by rw [items, opened, if_pos never]
      exact .inl ⟨target, rfl, opening⟩
  · rename_i rolling
    have parent := directory.makeDirectory (Path.parent (.ofText (f.pathAt t)))
    revert prepared
    generalize (d₁.makeDirectory (Path.parent (.ofText (f.pathAt t)))).1 = d₂ at parent ⊢
    intro prepared
    cases touched : d₂.touch (.ofText (f.pathAt t)) with
    | none =>
      rw [touched] at prepared
      cases prepared
      exact .inr (.inr rfl)
    | some d₃ =>
      rw [touched] at prepared
      cases prepared
      obtain ⟨target, leads, free, items⟩ := Disk.touch_cases touched
      have gains : d.Gains (f.missing t d) d₂ := by rwa [missing, if_neg rolling]
      have opening : f.IsOpened t d d' target :=
        .of_gains gains leads free fun q => by rw [items, opened, if_neg rolling]
      exact .inl ⟨target, rfl, opening⟩

/-- An opened file is all that can be different of what was there, and only if it is emptied. -/
theorem IsOpened.keeps {i : Item} (opening : f.IsOpened t d d' target)
    (was : d.itemAt? q = some i) :
    d'.itemAt? q = some i ∨
      f.rotation = .never ∧ q = target ∧ d'.itemAt? q = some (.file (.text "")) := by
  rw [opening.items]
  by_cases here : q = target
  · subst here
    rw [if_pos rfl, was, opened]
    by_cases never : f.rotation = .never
    · exact .inr ⟨never, rfl, by rw [if_pos never]⟩
    · exact .inl (by rw [if_neg never, Option.getD_some])
  · have old : q ∉ f.missing t d := fun member => by simp [opening.absent q member] at was
    exact .inl (by rw [if_neg here, if_neg old, was])

theorem IsOpened.unchanged_iff (opening : f.IsOpened t d d' target) :
    (∀ q, d'.itemAt? q = d.itemAt? q) ↔
      f.missing t d = [] ∧ d.itemAt? target = some (f.opened (d.itemAt? target)) := by
  constructor
  · intro same
    have there : d.itemAt? target = some (f.opened (d.itemAt? target)) := by
      rw [← opening.items target |>.trans (if_pos rfl), same]
    refine ⟨List.eq_nil_iff_forall_not_mem.mpr fun q member => ?_, there⟩
    have absent := opening.absent q member
    have elsewhere : q ≠ target := fun here => by
      rw [← here, absent] at there
      cases there
    have made := same q
    rw [opening.items, if_neg elsewhere, if_pos member, absent] at made
    cases made
  · rintro ⟨none, there⟩ q
    rw [opening.items]
    by_cases here : q = target
    · rw [if_pos here, here, ← there]
    · simp [here, none]

end FileOutput

/-- A set-up with a file is refused by the file or, once that is open, by the process's logger. -/
theorem setUp_error (file : c.file = some f) (refused : setUp c t hasLogger d = (.error e, d')) :
    f.prepare t d = (.error e, d') ∨
      f.prepare t d = (.ok (), d') ∧ hasLogger = true ∧ e = .installed := by
  rw [setUp, file] at refused
  dsimp only at refused
  split at refused
  · rename_i failed
    cases refused
    exact .inl failed
  · rename_i ready
    cases hasLogger <;> cases refused
    exact .inr ⟨ready, rfl, rfl⟩

/-- What a refused set-up leaves: everything that was there with its content, except that the file
that is kept for good is emptied if the process has a logger; and beside it exactly the missing
directories and, for the logger's refusal, the file. So it leaves the disk as it was exactly if no
directory was missing and the file, if it came to be opened, was there, empty if kept for good. -/
theorem refused_setUp_leaves (file : c.file = some f)
    (refused : setUp c t hasLogger d = (.error e, d')) (returned : e ≠ .continuation) :
    (∀ q i, d.itemAt? q = some i →
      d'.itemAt? q = some i ∨
        e = .installed ∧ f.rotation = .never ∧
          d'.location? (.ofText f.fixedPath) = some q ∧
          d'.itemAt? q = some (.file (.text ""))) ∧
    (e = .files ∧
        d.Gains (d.missing (.ofText f.directory)) d' ∧
        ((∀ q, d'.itemAt? q = d.itemAt? q) ↔ d.missing (.ofText f.directory) = []) ∨
      e = .installed ∧ hasLogger = true ∧
        ∃ target, f.IsOpened t d d' target ∧
          ((∀ q, d'.itemAt? q = d.itemAt? q) ↔
            f.missing t d = [] ∧ d.itemAt? target = some (f.opened (d.itemAt? target)))) := by
  rcases setUp_error file refused with failed | ⟨ready, logger, rfl⟩
  · rcases FileOutput.prepare_cases failed with ⟨-, opened, -⟩ | ⟨files, gains⟩ | continuation
    · cases opened
    · cases files
      exact ⟨fun q i was => .inl (gains.keeps was), .inl ⟨rfl, gains, gains.unchanged_iff⟩⟩
    · exact absurd (Except.error.inj continuation) returned
  · obtain ⟨target, opening⟩ : ∃ target, f.IsOpened t d d' target := by
      rcases FileOutput.prepare_cases ready with ⟨target, -, opening⟩ | ⟨stopped, -⟩ | stopped
      · exact ⟨target, opening⟩
      all_goals cases stopped
    refine ⟨fun q i was => ?_, .inr ⟨rfl, logger, target, opening, opening.unchanged_iff⟩⟩
    rcases opening.keeps was with same | ⟨never, rfl, emptied⟩
    · exact .inl same
    · have leads := opening.leads
      rw [FileOutput.pathAt, never] at leads
      exact .inr ⟨rfl, never, leads, emptied⟩

/-- A log that is kept for good. -/
def keptLog : FileOutput := ⟨"logs", "p", .never, false⟩

def keptLogConfig : Config := ⟨"info", .off, some keptLog⟩

/-- A disk on which the log holds a text already. -/
def keptLogDisk (s : String) : Disk :=
  ⟨[(["logs", "p.log"], .file (.text s)), (["logs"], .directory)]⟩

def keptLogTime : Stamp := ⟨"2024-01-01", "00"⟩

theorem refused_setUp_leaves_keptLog :
    setUp keptLogConfig keptLogTime true (keptLogDisk "old") =
        (.error .installed, keptLogDisk "") ∧
      ∃ target, keptLog.IsOpened keptLogTime (keptLogDisk "old") (keptLogDisk "") target ∧
        ((∀ q, (keptLogDisk "").itemAt? q = (keptLogDisk "old").itemAt? q) ↔
          keptLog.missing keptLogTime (keptLogDisk "old") = [] ∧
            (keptLogDisk "old").itemAt? target =
              some (keptLog.opened ((keptLogDisk "old").itemAt? target))) := by
  have refused : setUp keptLogConfig keptLogTime true (keptLogDisk "old") =
      (.error .installed, keptLogDisk "") := rfl
  rcases (refused_setUp_leaves rfl refused (by decide)).2 with ⟨files, -⟩ | ⟨-, -, found⟩
  · cases files
  · exact ⟨refused, found⟩

/-- A process that has a logger already loses what the log that is kept for good held. -/
theorem refused_setUp_not_unchanged :
    ¬ ∀ (c : Config) (f : FileOutput) (t : Stamp) (hasLogger : Bool) (d d' : Disk)
        (e : SetupError),
      c.file = some f → setUp c t hasLogger d = (.error e, d') → e ≠ .continuation →
        ∀ q, d'.itemAt? q = d.itemAt? q := by
  intro unchanged
  have same := unchanged keptLogConfig keptLog keptLogTime true (keptLogDisk "old")
    (keptLogDisk "") .installed rfl rfl (by decide) ["logs", "p.log"]
  exact absurd same (by decide)

end MeshWatch.Logging
