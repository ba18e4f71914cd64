import MeshWatch.Event.History
import MeshWatch.Logging.Config
import MeshWatch.Monitor.Config
import MeshWatch.Proofs.Engine.Document
import MeshWatch.Proofs.Topology.Saving

/-!
# Saved values are read from their text

Every value that is published or kept is written as compact JSON text and read from it: what is
said of the mesh, log entries and histories, and the settings of the engine, of a monitor and of
logging. Members that are left out come back as what the reader falls back on, and a console as
the format and the members beside it.
-/
namespace MeshWatch

open Data (Fields Restores kept)
open Saved (restored_field restored_fieldOr)

/-- A value of a lawful type is read from its text. -/
theorem Saved.ofText?_toText {α : Type} [Saved α] [LawfulSaved α] (a : α) :
    ofText? (toText a) = some a := by
  obtain ⟨plain, found⟩ := LawfulSaved.restores a
  rw [ofText?, toText, Json.tree?_compact plain, Option.bind_eq_bind, Option.bind_some, found]
  rfl

/-! ## Entries and histories -/

instance : LawfulSaved Level := ⟨fun l => by cases l <;> exact ⟨.text _, rfl⟩⟩

instance : LawfulSaved LogEntry where
  restores e :=
    have restored := (restored_field "time" e.time).map LogEntry.mk
      |>.seq (restored_field "message" e.message)
      |>.seq (restored_field "level" e.level)
      |>.seq (restored_field "raw_time" e.rawTime)
    Restores.record restored (by decide +kernel) _ _

instance : LawfulSaved History where
  restores h :=
    have restored := (restored_field "events" h.records).map History.mk
    Restores.record restored (by decide +kernel) _ _

/-! ## Documents as trees -/

namespace Toml

variable {d : Data} {values tables ms : List (String × Data)}

theorem IsScalar.plain (scalar : IsScalar d) : d.IsPlain := by
  cases scalar with
  | bool b => exact .bool b
  | int fits =>
    have limit : Nat.pow 2 63 = 9223372036854775808 := rfl
    exact .int ⟨by omega, by omega⟩
  | text s => exact .text s

theorem IsInline.plain (inline : IsInline d) : d.IsPlain := by
  cases inline with
  | scalar scalar => exact scalar.plain
  | list scalars => exact .list fun item member => (scalars item member).plain

theorem IsFlat.plain (flat : IsFlat ms) : (Data.record ms).IsPlain :=
  .record fun m member => (flat.lines m member).2.plain

theorem IsSection.plain (isSection : IsSection d) : d.IsPlain := by
  cases isSection with
  | table flat => exact flat.plain
  | tables _ flat =>
    refine .list ?_
    intro row member
    obtain ⟨ms, listed, rfl⟩ := List.mem_map.mp member
    exact (flat ms listed).plain

/-- What a document can hold a JSON text can hold as well. -/
theorem IsDocument.plain (document : IsDocument values tables) :
    (Data.record (values ++ tables)).IsPlain := by
  refine .record (List.forall_mem_append.mpr ⟨?_, ?_⟩)
  · exact fun m member => (document.lines m member).2.plain
  · exact fun m member => (document.sections m member).2.plain

end Toml

/-! ## Settings -/

instance : LawfulSaved EngineConfig where
  restores c := by
    refine ⟨?_, EngineConfig.read_write_self _ c⟩
    change c.write.IsPlain
    rw [EngineConfig.write_eq]
    exact (EngineConfig.isDocument_write c).plain

instance : LawfulSaved Monitor.Config where
  restores c :=
    have restored := (restored_fieldOr "poll_interval_ms" c.pollIntervalMs _).map Monitor.Config.mk
      |>.seq (restored_fieldOr "snapshot_timeout_secs" c.snapshotTimeoutSecs _)
    Restores.record restored (by decide +kernel) _ _

namespace Logging

/-- The format is told apart from the members beside it, which are read on their own. -/
instance : LawfulSaved Console where
  restores c := by
    cases c with
    | off => exact ⟨.record (by simp), rfl⟩
    | human colored => exact ⟨.record (by simp), rfl⟩
    | json => exact ⟨.record (by simp), rfl⟩

instance : LawfulSaved Rotation := ⟨fun r => by cases r <;> exact ⟨.text _, rfl⟩⟩

instance : LawfulSaved FileOutput where
  restores f :=
    have restored := (restored_field "directory" f.directory).map FileOutput.mk
      |>.seq (restored_fieldOr "prefix" f.stem _)
      |>.seq (restored_fieldOr "rotation" f.rotation _)
      |>.seq (restored_fieldOr "with_location" f.withLocation _)
    Restores.record restored (by decide +kernel) _ _

instance : NonNullSaved FileOutput := ⟨fun _ => nofun⟩

instance : LawfulSaved Config where
  restores c :=
    have restored := (restored_fieldOr "level" c.level _).map Config.mk
      |>.seq (restored_fieldOr "console" c.console _)
      |>.seq (restored_fieldOr "file" c.file _)
    Restores.record restored (by decide +kernel) _ _

end Logging

/-- Every value that is published or kept is read from its own text. -/
theorem saved_values_restored :
    (∀ t : Topology, Saved.ofText? (Saved.toText t) = some t) ∧
    (∀ n : Node, Saved.ofText? (Saved.toText n) = some n) ∧
    (∀ v : VirtualAddress, Saved.ofText? (Saved.toText v) = some v) ∧
    (∀ p : Peer, Saved.ofText? (Saved.toText p) = some p) ∧
    (∀ c : NatClass, Saved.ofText? (Saved.toText c) = some c) ∧
    (∀ r : Route, Saved.ofText? (Saved.toText r) = some r) ∧
    (∀ l : Link, Saved.ofText? (Saved.toText l) = some l) ∧
    (∀ e : LogEntry, Saved.ofText? (Saved.toText e) = some e) ∧
    (∀ h : History, Saved.ofText? (Saved.toText h) = some h) ∧
    (∀ s : EngineStatus, Saved.ofText? (Saved.toText s) = some s) ∧
    (∀ c : EngineConfig, Saved.ofText? (Saved.toText c) = some c) ∧
    (∀ c : Monitor.Config, Saved.ofText? (Saved.toText c) = some c) ∧
    ∀ c : Logging.Config, Saved.ofText? (Saved.toText c) = some c := by
  refine ⟨?topology, ?node, ?address, ?peer, ?nat, ?route, ?link, ?entry, ?history, ?status,
    ?engine, ?monitor, ?logging⟩
  all_goals exact Saved.ofText?_toText

end MeshWatch
