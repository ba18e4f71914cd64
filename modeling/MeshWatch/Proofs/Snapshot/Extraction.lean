import MeshWatch.Proofs.Snapshot.Reading

/-!
# Records without their snapshot

The records of an instance are also read alone, without a look at the other sections. That agrees
with reading the whole snapshot: the records are the same, a fault before the first section is the
same fault, and a text whose records cannot be read has no snapshot either. Only faults of the other
sections stop the snapshot and not the records.
-/
namespace MeshWatch.Snapshot

open Data (Reader)

variable {α : Type} {text name : String} {members : List (String × Data)} {s : Snapshot}
  {e : SnapshotError}

/-! ## Where a fault lies -/

/-- The section that a fault lies in; none if it comes before all sections. -/
def SnapshotError.section? : SnapshotError → Option Section
  | .notJson | .missingMap | .instanceNotRecord | .noInstance _ => none
  | .missingSection part | .malformed part _ => some part

theorem section?_of_readSection {part : Section} {read : Reader α}
    (h : readSection members part read = .error e) : e.section? = some part := by
  rw [readSection] at h
  repeat' split at h
  all_goals cases h <;> rfl

theorem section?_of_ofSections {parts : Sections} (h : ofSections parts = .error e) :
    e.section? = some .peers := by
  rw [ofSections] at h
  split at h <;> cases h
  rfl

theorem error_or_of_bind {ε β γ : Type} {x : Except ε β} {f : β → Except ε γ} {e : ε}
    (h : x.bind f = .error e) : x = .error e ∨ ∃ b, x = .ok b ∧ f b = .error e := by
  cases x with
  | error e' => exact .inl (congrArg _ (Except.error.inj h))
  | ok b => exact .inr ⟨b, rfl, h⟩

theorem error_of_map {ε β γ : Type} {x : Except ε β} {f : β → γ} {e : ε}
    (h : x.map f = .error e) : x = .error e := by
  cases x with
  | error e' => exact congrArg _ (Except.error.inj h)
  | ok b => cases h

/-- Sections are read one after the other, the records last. -/
theorem fault_of_sections (h : sections members = .error e) :
    (∃ part, e.section? = some part ∧ part ≠ .records) ∨ readRecords members = .error e := by
  rcases error_or_of_bind h with node | ⟨node, -, h⟩
  · exact .inl ⟨.node, section?_of_readSection node, nofun⟩
  rcases error_or_of_bind h with routes | ⟨routes, -, h⟩
  · exact .inl ⟨.routes, section?_of_readSection routes, nofun⟩
  rcases error_or_of_bind h with peers | ⟨peers, -, h⟩
  · exact .inl ⟨.peers, section?_of_readSection peers, nofun⟩
  rcases error_or_of_bind h with records | ⟨records, -, h⟩
  · exact .inr records
  · cases h

theorem readRecords_of_sections {parts : Sections} (h : sections members = .ok parts) :
    readRecords members = .ok parts.records := by
  obtain ⟨node, -, h⟩ := exists_of_bind h
  obtain ⟨routes, -, h⟩ := exists_of_bind h
  obtain ⟨peers, -, h⟩ := exists_of_bind h
  obtain ⟨records, read, h⟩ := exists_of_bind h
  obtain rfl := Except.ok.inj h
  exact read

/-! ## Both ways of reading -/

theorem extractRecords_eq (text name : String) : extractRecords text name =
    (report text name).bind fun members => (readRecords members).map List.reverse := by
  rw [extractRecords]
  cases report text name with
  | error e => rfl
  | ok members =>
    change (readRecords members >>= fun newest => pure newest.reverse) = _
    rw [bind_pure_comp]
    rfl

/-- A snapshot has the records that stand in its report, turned round. -/
theorem exists_newest_of_decode (h : decode text name = .ok s) :
    ∃ members newest, report text name = .ok members ∧ readRecords members = .ok newest ∧
      s.records = newest.reverse := by
  obtain ⟨members, parts, links, reported, divided, -, rfl⟩ := exists_of_decode h
  exact ⟨members, parts.records, reported, readRecords_of_sections divided, rfl⟩

theorem extractRecords_of_decode (h : decode text name = .ok s) :
    extractRecords text name = .ok s.records := by
  obtain ⟨members, newest, reported, read, turned⟩ := exists_newest_of_decode h
  rw [extractRecords_eq, reported, Except.bind, read, turned]
  rfl

/-- What stops the snapshot stops the records, unless it lies in another section. -/
theorem fault_of_decode (h : decode text name = .error e) :
    (∃ part, e.section? = some part ∧ part ≠ .records) ∨
      extractRecords text name = .error e := by
  rw [extractRecords_eq]
  rcases error_or_of_bind h with reported | ⟨members, reported, h⟩
  · exact .inr (by rw [reported]; rfl)
  rcases error_or_of_bind h with divided | ⟨parts, -, linked⟩
  · refine (fault_of_sections divided).imp_right ?_
    intro read
    rw [reported, Except.bind, read]
    rfl
  · exact .inl ⟨.peers, section?_of_ofSections linked, nofun⟩

/-- A fault before the first section stops the snapshot as well. -/
theorem decode_of_early_fault (h : extractRecords text name = .error e)
    (early : e.section? = none) : decode text name = .error e := by
  rw [extractRecords_eq] at h
  rcases error_or_of_bind h with reported | ⟨members, -, h⟩
  · rw [decode, reported]
    rfl
  · have late : e.section? = some .records := section?_of_readSection (error_of_map h)
    rw [early] at late
    cases late

/-- Reading the records alone agrees with reading the snapshot. -/
theorem extractRecords_agrees (text name : String) :
    (∀ s, decode text name = .ok s → extractRecords text name = .ok s.records ∧
      ∃ members newest, report text name = .ok members ∧
        Reads members .records Reader.text newest ∧ s.records = newest.reverse) ∧
    (∀ e, extractRecords text name = .error e → ∃ e', decode text name = .error e') ∧
    (∀ e, e.section? = none →
      (decode text name = .error e ↔ extractRecords text name = .error e)) ∧
    (∀ e, e.section? = some .records → decode text name = .error e →
      extractRecords text name = .error e) := by
  refine ⟨?_, ?_, ?_, ?_⟩
  · intro s h
    obtain ⟨members, newest, reported, read, turned⟩ := exists_newest_of_decode h
    exact ⟨extractRecords_of_decode h, members, newest, reported, reads_of_readSection read,
      turned⟩
  · intro e failed
    cases decoded : decode text name with
    | error e' => exact ⟨e', rfl⟩
    | ok s => cases failed.symm.trans (extractRecords_of_decode decoded)
  · intro e early
    refine ⟨?_, fun h => decode_of_early_fault h early⟩
    intro h
    rcases fault_of_decode h with ⟨part, late, -⟩ | failed
    · cases early.symm.trans late
    · exact failed
  · intro e late h
    rcases fault_of_decode h with ⟨part, other, ne⟩ | failed
    · exact absurd (Option.some.inj (other.symm.trans late)) ne
    · exact failed

end MeshWatch.Snapshot
