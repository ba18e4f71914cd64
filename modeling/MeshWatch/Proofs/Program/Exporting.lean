import MeshWatch.Program.Run
import MeshWatch.Proofs.Disk.Files
import MeshWatch.Proofs.Text.Lines

/-!
# Exporting a history as text

What is reported is the number of records, and what is written are the entries of those that can
be translated, one after the other with line breaks between them. So the report counts the lines
that are written exactly if every record can be translated and no entry has a line break of its
own. An empty history is not written at all.
-/
namespace MeshWatch

/-- Neither the clock nor the message goes on in another line. -/
def LogEntry.IsOneLine (e : LogEntry) : Prop := '\n' ∉ e.time.toList ∧ '\n' ∉ e.message.toList

instance (e : LogEntry) : Decidable e.IsOneLine := inferInstanceAs (Decidable (_ ∧ _))

theorem LogEntry.exportLine_ne_empty (e : LogEntry) : e.exportLine ≠ "" := by
  intro empty
  have blank := congrArg String.toList empty
  simp [exportLine, String.toList_append] at blank

theorem LogEntry.not_mem_exportLine (e : LogEntry) :
    '\n' ∉ e.exportLine.toList ↔ e.IsOneLine := by
  have label : '\n' ∉ e.level.label.toList := by
    cases e.level <;> decide
  simp [exportLine, String.toList_append, IsOneLine, label]

namespace History

variable {h : History}

/-- No record is left out of the entries exactly if all of them can be translated. -/
theorem length_entries_iff :
    h.length = h.entries.length ↔ ∀ raw ∈ h.records, ∃ e, Event.translate raw = .ok e := by
  rw [eq_comm, length, entries, Event.translateAll, List.filterMap_length_eq_length]
  refine forall₂_congr fun raw _ => ?_
  cases Event.translate raw <;> simp [Except.toOption]

theorem lines_entries_iff :
    Text.lines (Text.joinLines (h.entries.map LogEntry.exportLine)) =
      h.entries.map LogEntry.exportLine ↔ ∀ e ∈ h.entries, e.IsOneLine := by
  rw [Text.lines_joinLines_iff]
  · simp [LogEntry.not_mem_exportLine]
  · simp [LogEntry.exportLine_ne_empty]

end History

namespace Program

variable {d : Disk} {path : String} {h : History}

/-- What is said of an export of `n` events. -/
def exportReport (n : Nat) (path : String) : String :=
  "Exported " ++ toString n ++ " events to " ++ path ++ "\n"

/-- Nothing is written of an empty history. -/
theorem exportTo_empty (format : Watch.Format) :
    exportTo d path .empty format =
      ⟨"No events collected, nothing exported\n", none, [], d⟩ := by
  cases format <;> rfl

/-- What is written of a history with a record, if a file can be written. -/
theorem exportTo_text (filled : h.records ≠ []) (done : (exportTo d path h .text).failure = none) :
    (exportTo d path h .text).printed = exportReport h.length path ∧
    (exportTo d path h .text).disk.readText? (.ofText path) =
      some (Text.joinLines (h.entries.map LogEntry.exportLine)) := by
  have content : Watch.exported? h .text =
      some (Text.joinLines (h.entries.map LogEntry.exportLine)) := if_neg filled
  simp only [exportTo, content] at done ⊢
  split at done
  · cases done
  · rename_i written
    exact ⟨rfl, Disk.readText?_write written⟩

/-- Of an empty history nothing is written. Of any other the number of its records is reported,
and that is the number of entries exported, each of which is one line of the file, exactly if
every record can be translated and every entry stays on one line. -/
theorem exported_lines_counted_iff (done : (exportTo d path h .text).failure = none) :
    (h = .empty ∧
      exportTo d path h .text = ⟨"No events collected, nothing exported\n", none, [], d⟩) ∨
    (h ≠ .empty ∧ ∃ text,
      (exportTo d path h .text).printed = exportReport h.length path ∧
      (exportTo d path h .text).disk.readText? (.ofText path) = some text ∧
      (h.length = h.entries.length ∧ Text.lines text = h.entries.map LogEntry.exportLine ↔
        (∀ raw ∈ h.records, ∃ e, Event.translate raw = .ok e) ∧
          ∀ e ∈ h.entries, e.IsOneLine)) := by
  by_cases none : h = .empty
  · subst none
    exact .inl ⟨rfl, exportTo_empty .text⟩
  · have filled : h.records ≠ [] := fun blank => none (congrArg History.mk blank)
    obtain ⟨reported, written⟩ := exportTo_text filled done
    exact .inr ⟨none, _, reported, written,
      and_congr History.length_entries_iff History.lines_entries_iff⟩

/-- A record of a new listener. -/
def listenerRecord (url : String) : RawRecord :=
  "\x7b\"time\":\"2024-05-01T12:00:00Z\",\"event\":\x7b\"ListenerAdded\":\"" ++ url ++ "\"\x7d\x7d"

/-- Two records that are counted and written as they should be. -/
def twoListeners : History := ⟨[listenerRecord "tcp://a", listenerRecord "tcp://b"]⟩

theorem exported_lines_counted_iff_listeners :
    (exportTo .empty "events.txt" twoListeners .text).failure = none ∧
    ∃ text,
      (exportTo .empty "events.txt" twoListeners .text).printed = exportReport 2 "events.txt" ∧
      (exportTo .empty "events.txt" twoListeners .text).disk.readText? (.ofText "events.txt") =
        some text ∧
      Text.lines text = twoListeners.entries.map LogEntry.exportLine := by
  have done : (exportTo .empty "events.txt" twoListeners .text).failure = none := by
    decide +kernel
  have translated : ∀ raw ∈ twoListeners.records, ∃ e, Event.translate raw = .ok e := by
    refine History.length_entries_iff.mp ?_
    decide +kernel
  have oneLine : ∀ e ∈ twoListeners.entries, e.IsOneLine := by
    decide +kernel
  obtain ⟨none, -⟩ | ⟨-, text, reported, written, counted⟩ := exported_lines_counted_iff done
  · cases none
  · exact ⟨done, text, reported, written, (counted.mpr ⟨translated, oneLine⟩).2⟩

/-- Two records of which one cannot be translated. -/
def oneUnreadable : History := ⟨["garbage", listenerRecord "tcp://a"]⟩

/-- A record whose message has a line break. -/
def oneBroken : History := ⟨[listenerRecord "tcp://a\\nb"]⟩

/-- Two events are reported where one line is written, and one where two lines are. -/
theorem exported_lines_miscounted :
    ((exportTo .empty "events.txt" oneUnreadable .text).printed = exportReport 2 "events.txt" ∧
      (exportTo .empty "events.txt" oneUnreadable .text).disk.readText? (.ofText "events.txt") =
        some "[12:00:00] [INFO] listening on tcp://a" ∧
      Text.lines "[12:00:00] [INFO] listening on tcp://a" =
        ["[12:00:00] [INFO] listening on tcp://a"]) ∧
    (exportTo .empty "events.txt" oneBroken .text).printed = exportReport 1 "events.txt" ∧
      (exportTo .empty "events.txt" oneBroken .text).disk.readText? (.ofText "events.txt") =
        some "[12:00:00] [INFO] listening on tcp://a\nb" ∧
      Text.lines "[12:00:00] [INFO] listening on tcp://a\nb" =
        ["[12:00:00] [INFO] listening on tcp://a", "b"] := by
  decide +kernel

end Program

end MeshWatch
