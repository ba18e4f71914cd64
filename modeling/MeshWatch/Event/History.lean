import MeshWatch.Event.Translate

/-!
# History of records

The engine keeps a bounded ring of its latest records and shows all of it in every snapshot. The
history takes over only what comes after its own last record, or everything if that record has
left the ring.
-/
namespace MeshWatch

inductive Absorption
  | nothing
  /-- The batch continues the history by `count` records. -/
  | new (count : Nat)
  /-- The history's last record is not in the batch; records in between may be lost. -/
  | gap (count : Nat)
deriving DecidableEq

def Absorption.appended : Absorption → Nat
  | nothing => 0
  | new count | gap count => count

structure History where
  records : List RawRecord
deriving DecidableEq

namespace History

def empty : History := ⟨[]⟩

def last? (h : History) : Option RawRecord := h.records.getLast?

def length (h : History) : Nat := h.records.length

/-- What follows the last occurrence of `raw`, if there is one. -/
def afterLast? (raw : RawRecord) : List RawRecord → Option (List RawRecord)
  | [] => none
  | r :: rest =>
    match afterLast? raw rest with
    | some after => some after
    | none => if r = raw then some rest else none

/-- The records of a batch, oldest first, that are new to the history. -/
def fresh (h : History) (batch : List RawRecord) : Absorption × List RawRecord :=
  if batch = [] then (.nothing, [])
  else
    match h.last? with
    | none => (.new batch.length, batch)
    | some last =>
      match afterLast? last batch with
      | some [] => (.nothing, [])
      | some after => (.new after.length, after)
      | none => (.gap batch.length, batch)

def absorb (h : History) (batch : List RawRecord) : Absorption × History :=
  let (absorption, records) := h.fresh batch
  (absorption, ⟨h.records ++ records⟩)

def seeded : Note :=
  ⟨.debug, "meshlens_events::history", "Seeded event history", ["appended"], none⟩

def wrapped : Note :=
  ⟨.warn, "meshlens_events::history",
    "Event buffer wrapped around since the last poll, some events may be lost",
    ["appended", "history"], none⟩

def absorbNotes (h : History) (batch : List RawRecord) : List Note :=
  match h.last?, (h.fresh batch).1 with
  | none, .new _ => [seeded]
  | _, .gap _ => [wrapped]
  | _, _ => []

def entries (h : History) : List LogEntry := Event.translateAll h.records

def entriesSince (h : History) (offset : Nat) : List LogEntry :=
  Event.translateAll (h.records.drop offset)

/-- The records as they are, one to a line, as the items of a JSON list. -/
def exportJson (h : History) : Option String :=
  if h.records = [] then none
  else some ("[\n" ++ Text.joinWith ",\n" (h.records.map ("    " ++ ·)) ++ "\n]")

/-- The translatable records, one to a line. -/
def exportText (h : History) : Option String :=
  if h.records = [] then none
  else some (Text.joinLines (h.entries.map LogEntry.exportLine))

instance : Saved History where
  write h := .record [("events", Saved.write h.records)]
  read := .record "a history" (History.mk <$> Saved.field "events")

end History

end MeshWatch
