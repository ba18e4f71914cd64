import MeshWatch.Event.Translate
import MeshWatch.Proofs.Data.Arrangement
import MeshWatch.Snapshot.Draft

/-!
# Written events are translated back

A record is written of a time, a tag and a payload, with everything in them escaped as JSON wants
it. Translating the record comes to the same as looking at the clock of the time and then taking
the event of the tag and the payload themselves. The record and its event are two levels of the
nesting that is allowed. A tag that is not listed is no fault.
-/
namespace MeshWatch.Event

open Data (IsArranged Reader)
open Data.Fields (gives_required)
open Snapshot (recordOf)

variable {payload : Data} {tag : String}

/-! ## Reading a record -/

/-- The tree of a record, its members in the order in which they are written. -/
def recordTree (time tag : String) (payload : Data) : Data :=
  .record [("event", .record [(tag, payload)]), ("time", .text time)]

theorem tree?_recordOf (plain : payload.IsPlain) (time tag : String) :
    Json.tree? (recordOf time tag payload) = some (recordTree time tag payload) := by
  have plainTree : (recordTree time tag payload).IsPlain := by
    simpa [recordTree] using plain
  exact Json.tree?_compact plainTree

theorem readTagged_record (arranged : payload.IsArranged 125) (tag : String) :
    readTagged (.record [(tag, payload)]) = .ok [(tag, payload)] := by
  have inOrder : Data.InOrder [(tag, payload)] := List.pairwise_singleton _ _
  have members : ∀ m ∈ [(tag, payload)], m.2.IsArranged 125 :=
    List.forall_mem_singleton.mpr arranged
  rw [readTagged, Json.depthLimit, (IsArranged.record inOrder members).value?_eq]

theorem readWritten_recordTree (arranged : payload.IsArranged 125) (time tag : String) :
    readWritten (recordTree time tag payload) = .ok (time, [(tag, payload)]) := by
  have gives := ((gives_required "time" (Saved.read_write time)).map
      fun time (event : List (String × Data)) => (time, event))
    |>.seq (gives_required "event" (readTagged_record arranged tag))
  have distinct : ["event", "time"].Nodup := by decide
  refine Reader.record_written gives ?_ ?_ _ _
  · simp [Data.written, Saved.write]
  · exact distinct

theorem translate_eq (arranged : payload.IsArranged 125) (time tag : String) :
    translate (recordOf time tag payload) = ofWritten time [(tag, payload)] := by
  rw [translate, tree?_recordOf arranged.isPlain, Option.map_some,
    readWritten_recordTree arranged]

/-! ## Tags that are not listed -/

def listedTags : List String :=
  ["PeerConnAdded", "PeerConnRemoved", "PeerAdded", "PeerRemoved", "ConnectionAccepted",
    "ConnectionError", "ListenerAdded", "Connecting", "TunDeviceReady", "DhcpIpv4Changed"]

theorem ofTagged_of_unlisted (other : tag ∉ listedTags) (payload : Data) :
    ofTagged tag payload = .ok (unlisted tag payload) := by
  rw [ofTagged]
  all_goals
    rintro rfl
    exact other (by decide)

/-- How a payload is shown whose tag says nothing about it. -/
def shown : Data → String
  | .text s => s
  | payload => Json.compact payload

theorem message_unlisted (tag : String) (payload : Data) :
    (unlisted tag payload).message = tag ++ ": " ++ shown payload := by
  cases payload <;> rfl

/-! ## Translation -/

theorem ofWritten_singleton (time tag : String) (payload : Data) :
    ofWritten time [(tag, payload)] =
      match clock? time with
      | none => .error (.invalidTime time)
      | some clock => (ofTagged tag payload).map (entry clock time) := by
  unfold ofWritten
  cases clock? time <;> rfl

/-- A record of a time, a tag and a payload is translated as they say: a time without a clock is
an error, and otherwise the event of the tag and the payload is one or makes the entry. So a
tag that is not listed makes an entry whatever its payload is. -/
theorem translate_recordOf (arranged : payload.IsArranged 125) (time tag : String) :
    (translate (recordOf time tag payload) =
      match clock? time with
      | none => .error (.invalidTime time)
      | some clock => (ofTagged tag payload).map fun e => ⟨clock, e.message, e.level, time⟩) ∧
    (tag ∉ listedTags → ∀ clock, clock? time = some clock →
      translate (recordOf time tag payload) =
        .ok ⟨clock, tag ++ ": " ++ shown payload, .info, time⟩) := by
  have translated := (translate_eq arranged time tag).trans (ofWritten_singleton time tag payload)
  refine ⟨translated, ?_⟩
  intro other clock labelled
  rw [translated, labelled, ofTagged_of_unlisted other]
  simp only [Except.map, entry, message_unlisted]
  rfl

/-- A tag with a quotation mark and a payload that is no text. -/
theorem translate_recordOf_unlisted :
    translate (recordOf "2024-05-01 07:08:09.5" "Route\"Lost" (.list [.int (-1), .text "é\n"])) =
      .ok ⟨"07:08:09", "Route\"Lost: [-1,\"é\\n\"]", .info, "2024-05-01 07:08:09.5"⟩ := by
  have arranged : (Data.list [.int (-1), .text "é\n"]).IsArranged 125 := by
    refine .list ?_
    simp only [List.forall_mem_cons]
    exact ⟨.int (by simp [Json.Fits64]), .text _, nofun⟩
  have translated := (translate_recordOf arranged "2024-05-01 07:08:09.5" "Route\"Lost").2
    (by decide) "07:08:09" (by decide)
  exact translated.trans rfl

end MeshWatch.Event
