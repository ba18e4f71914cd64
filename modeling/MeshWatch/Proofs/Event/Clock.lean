import MeshWatch.Proofs.Event.Translation
import MeshWatch.Proofs.Text.Digits

/-!
# Clock labels

The label of an entry is what stands in the bytes 11 to 18 of its time. Of a time that begins with
a date and a clock, as internet times do, the label is that clock. Of any other time only the colon
in the third byte is known, and the label is a clock exactly if the time has one at that place.
-/
namespace MeshWatch.Event

open Text (byteCount cutBytes digitsValue)
open Snapshot (recordOf)

variable {raw : RawRecord} {e : LogEntry} {time : String}

/-! ## Clocks -/

structure Clock where
  hour : Nat
  minute : Nat
  second : Nat
deriving DecidableEq

namespace Clock

/-- A time of a day. The sixty-first second of a minute is a leap second. -/
structure IsReal (c : Clock) : Prop where
  hour : c.hour < 24
  minute : c.minute < 60
  second : c.second ≤ 60

/-- A clock as `HH:MM:SS`. -/
def text (c : Clock) : String :=
  Logging.padded 2 c.hour ++ ":" ++ Logging.padded 2 c.minute ++ ":" ++ Logging.padded 2 c.second

/-- The clock that two digits, a colon, two digits, a colon and two digits show. -/
def ofChars? : List Char → Option Clock
  | [h, h', ':', m, m', ':', s, s'] =>
    if [h, h', m, m', s, s'].all Char.isDigit then
      some ⟨digitsValue 0 [h, h'], digitsValue 0 [m, m'], digitsValue 0 [s, s']⟩
    else none
  | _ => none

variable {c : Clock} {t : List Char}

theorem ofChars?_eq_some (shown : ofChars? t = some c) :
    ∃ h h' m m' s s', t = [h, h', ':', m, m', ':', s, s'] ∧
      (∀ x ∈ [h, h', m, m', s, s'], x.isDigit) ∧
      c = ⟨digitsValue 0 [h, h'], digitsValue 0 [m, m'], digitsValue 0 [s, s']⟩ := by
  unfold ofChars? at shown
  split at shown
  · rename_i h h' m m' s s'
    split at shown
    · rename_i digits
      exact ⟨h, h', m, m', s, s', rfl, List.all_eq_true.mp digits, (Option.some.inj shown).symm⟩
    · cases shown
  · cases shown

/-- A clock is written in one way only. -/
theorem toList_text (shown : ofChars? t = some c) : c.text.toList = t := by
  obtain ⟨h, h', m, m', s, s', rfl, digits, rfl⟩ := ofChars?_eq_some shown
  simp only [List.forall_mem_cons] at digits
  obtain ⟨dh, dh', dm, dm', ds, ds', -⟩ := digits
  have pair {x y : Char} (first : x.isDigit) (second : y.isDigit) :
      (Logging.padded 2 (digitsValue 0 [x, y])).toList = [x, y] := by
    have row := Text.toList_padded (List.cons_ne_nil x [y]) (by simp [first, second])
    rw [List.length_cons, List.length_singleton] at row
    exact row
  simp [text, String.toList_append, pair dh dh', pair dm dm', pair ds ds']

/-- A clock has its first colon after two bytes, and eight bytes in all. -/
theorem bytes_of_ofChars? (shown : ofChars? t = some c) :
    byteCount t = 8 ∧ ∃ two rest, cutBytes 2 t = some (two, ':' :: rest) := by
  obtain ⟨h, h', m, m', s, s', rfl, digits, -⟩ := ofChars?_eq_some shown
  simp only [List.forall_mem_cons] at digits
  obtain ⟨dh, dh', dm, dm', ds, ds', -⟩ := digits
  have pair {x y : Char} (first : x.isDigit) (second : y.isDigit) : byteCount [x, y] = 2 := by
    refine Text.byteCount_of_digits ?_
    simp [first, second]
  have colon : byteCount [':'] = 1 := rfl
  refine ⟨?_, [h, h'], [m, m', ':', s, s'], ?_⟩
  · have parts : [h, h', ':', m, m', ':', s, s'] =
        [h, h'] ++ ([':'] ++ ([m, m'] ++ ([':'] ++ [s, s']))) := rfl
    rw [parts]
    simp only [Text.byteCount_append, pair dh dh', pair dm dm', pair ds ds', colon]
  · exact Text.cutBytes_eq_some_iff.mpr ⟨rfl, pair dh dh'⟩

/-- A time shows a clock behind its first `place` bytes. -/
def StandsAt (place : Nat) (time : String) (c : Clock) : Prop :=
  ∃ front clock back, time.toList = front ++ (clock ++ back) ∧ byteCount front = place ∧
    ofChars? clock = some c

/-- A time begins with a date, a separator and a clock of the day, as every internet time does.
What follows, a fraction of the second and an offset, may be anything. -/
def IsDated (time : String) (c : Clock) : Prop :=
  ∃ year month day separator clock rest,
    time.toList = year ++ '-' :: month ++ '-' :: day ++ separator :: (clock ++ rest) ∧
    (year.length = 4 ∧ month.length = 2 ∧ day.length = 2) ∧
    (∀ x ∈ year ++ month ++ day, x.isDigit) ∧ separator ∈ ['T', 't', ' '] ∧
    ofChars? clock = some c ∧ c.IsReal

theorem IsDated.standsAt (dated : IsDated time c) : StandsAt 11 time c := by
  obtain ⟨year, month, day, separator, clock, rest, written, ⟨four, two, two'⟩, digits, between,
    shown, -⟩ := dated
  have yearDigits : byteCount year = year.length :=
    Text.byteCount_of_digits fun x member => digits x (by simp [member])
  have monthDigits : byteCount month = month.length :=
    Text.byteCount_of_digits fun x member => digits x (by simp [member])
  have dayDigits : byteCount day = day.length :=
    Text.byteCount_of_digits fun x member => digits x (by simp [member])
  have mark : byteCount ['-'] = 1 := rfl
  have separatorByte : byteCount [separator] = 1 := by
    simp only [List.mem_cons, List.not_mem_nil, or_false] at between
    rcases between with rfl | rfl | rfl <;> rfl
  refine ⟨year ++ (['-'] ++ (month ++ (['-'] ++ (day ++ [separator])))), clock, rest, ?_, ?_, shown⟩
  · rw [written]
    simp
  · simp only [Text.byteCount_append]
    omega

end Clock

/-- The form that a label is to have. -/
def IsClock (label : String) : Prop := ∃ c : Clock, c.IsReal ∧ Clock.ofChars? label.toList = some c

/-! ## Labels -/

theorem clockChars_eq_some_iff {t clock : List Char} :
    clockChars t = some clock ↔ ∃ front back two rest, t = front ++ (clock ++ back) ∧
      byteCount front = 11 ∧ byteCount clock = 8 ∧ cutBytes 2 clock = some (two, ':' :: rest) := by
  constructor
  · intro taken
    simp only [clockChars, bind, Option.bind_eq_some_iff] at taken
    obtain ⟨⟨front, fromClock⟩, start, ⟨label, back⟩, stop, ⟨two, others⟩, third, same⟩ := taken
    obtain ⟨whole, eleven⟩ := Text.cutBytes_eq_some_iff.mp start
    obtain ⟨behind, eight⟩ := Text.cutBytes_eq_some_iff.mp stop
    split at same
    · cases same
      rename_i colon
      cases colon
      exact ⟨front, back, two, _, behind ▸ whole, eleven, eight, third⟩
    · cases same
  · rintro ⟨front, back, two, rest, rfl, eleven, eight, third⟩
    have start : cutBytes 11 (front ++ (clock ++ back)) = some (front, clock ++ back) :=
      Text.cutBytes_eq_some_iff.mpr ⟨rfl, eleven⟩
    have stop : cutBytes 8 (clock ++ back) = some (clock, back) :=
      Text.cutBytes_eq_some_iff.mpr ⟨rfl, eight⟩
    simp [clockChars, start, stop, third]

theorem clock?_eq_some_iff {label : String} :
    clock? time = some label ↔ clockChars time.toList = some label.toList := by
  rw [clock?, Option.map_eq_some_iff]
  constructor
  · rintro ⟨clock, taken, rfl⟩
    rw [taken, String.toList_ofList]
  · intro taken
    exact ⟨label.toList, taken, String.ofList_toList⟩

theorem clock?_of_standsAt {c : Clock} (stands : Clock.StandsAt 11 time c) :
    clock? time = some c.text := by
  obtain ⟨front, clock, back, whole, eleven, shown⟩ := stands
  obtain ⟨eight, two, rest, third⟩ := Clock.bytes_of_ofChars? shown
  rw [clock?_eq_some_iff, clockChars_eq_some_iff, Clock.toList_text shown]
  exact ⟨front, back, two, rest, whole, eleven, eight, third⟩

/-- The label of an entry is taken from its time. -/
theorem clock?_of_translate (accepted : translate raw = .ok e) : clock? e.rawTime = some e.time := by
  have written {time : String} {event : List (String × Data)} (h : ofWritten time event = .ok e) :
      clock? e.rawTime = some e.time := by
    unfold ofWritten at h
    split at h
    · cases h
    · cases h
    · rename_i clock tag payload rest labelled
      cases tagged : ofTagged tag payload with
      | error cause =>
        rw [tagged] at h
        cases h
      | ok event =>
        rw [tagged] at h
        cases h
        exact labelled
  unfold translate at accepted
  split at accepted
  · exact written accepted
  · cases accepted

/-- The label that is made with a reader of internet times: the clock that is read, and if nothing
is read, what stands at the place of a clock. -/
def labelBy? (read : String → Option Clock) (time : String) : Option String :=
  match read time with
  | some c => some c.text
  | none => clock? time

/-- Whatever reader of internet times the label is made with, it is the bytes 11 to 18 of the time.
It is a clock exactly if the time shows a clock of the day at that place, and so for every time
that begins with a date and a clock. -/
theorem label_is_clock_iff {read : String → Option Clock} (accepted : translate raw = .ok e)
    (reads : ∀ time c, read time = some c → Clock.IsDated time c) :
    labelBy? read e.rawTime = some e.time ∧
    Text.betweenBytes? 11 19 e.rawTime.toList = some e.time.toList ∧
    (IsClock e.time ↔ ∃ c : Clock, c.IsReal ∧ Clock.StandsAt 11 e.rawTime c) ∧
    ∀ c, Clock.IsDated e.rawTime c → IsClock e.time ∧ e.time = c.text := by
  have labelled := clock?_of_translate accepted
  have label_of {c : Clock} (stands : Clock.StandsAt 11 e.rawTime c) : e.time = c.text := by
    have same := (clock?_of_standsAt stands).symm.trans labelled
    exact (Option.some.inj same).symm
  have shows {c : Clock} (stands : Clock.StandsAt 11 e.rawTime c) :
      Clock.ofChars? e.time.toList = some c := by
    have label := label_of stands
    obtain ⟨front, clock, back, -, -, shown⟩ := stands
    rw [label, Clock.toList_text shown, shown]
  obtain ⟨front, back, two, rest, whole, eleven, eight, -⟩ :=
    clockChars_eq_some_iff.mp (clock?_eq_some_iff.mp labelled)
  refine ⟨?_, ?_, ⟨?_, ?_⟩, ?_⟩
  · rw [labelBy?]
    split
    · rename_i c found
      rw [label_of (reads _ _ found).standsAt]
    · exact labelled
  · have stop : cutBytes 19 e.rawTime.toList = some (front ++ e.time.toList, back) := by
      refine Text.cutBytes_eq_some_iff.mpr ⟨?_, ?_⟩
      · rw [whole, List.append_assoc]
      · rw [Text.byteCount_append, eleven, eight]
    have start : cutBytes 11 (front ++ e.time.toList) = some (front, e.time.toList) :=
      Text.cutBytes_eq_some_iff.mpr ⟨rfl, eleven⟩
    simp [Text.betweenBytes?, stop, start]
  · rintro ⟨c, real, shown⟩
    exact ⟨c, real, front, e.time.toList, back, whole, eleven, shown⟩
  · rintro ⟨c, real, stands⟩
    exact ⟨c, real, shows stands⟩
  · intro c dated
    have stands := dated.standsAt
    obtain ⟨_, _, _, _, _, _, _, _, _, _, _, real⟩ := dated
    exact ⟨⟨c, real, shows stands⟩, label_of stands⟩

/-- A record of one tag, written with a given time. -/
def readyAt (time : String) : RawRecord := recordOf time "TunDeviceReady" .null

theorem translate_readyAt {label : String} (labelled : clock? time = some label) :
    translate (readyAt time) = .ok ⟨label, "virtual device ready", .success, time⟩ := by
  rw [readyAt, translate_eq .null, ofWritten_singleton, labelled]
  rfl

def leapSecond : String := "2016-12-31T23:59:60Z"

/-- A reader that knows one time, the last second of a year with a leap second. -/
def readLeapSecond (time : String) : Option Clock :=
  if time = leapSecond then some ⟨23, 59, 60⟩ else none

theorem label_is_clock_iff_leapSecond :
    translate (readyAt leapSecond) =
      .ok ⟨"23:59:60", "virtual device ready", .success, leapSecond⟩ ∧
    (∀ time c, readLeapSecond time = some c → Clock.IsDated time c) ∧
    labelBy? readLeapSecond leapSecond = some "23:59:60" ∧ IsClock "23:59:60" := by
  have labelled : clock? leapSecond = some "23:59:60" := by decide
  have accepted := translate_readyAt labelled
  have dated : Clock.IsDated leapSecond ⟨23, 59, 60⟩ := by
    have digits : ∀ x ∈ ['2', '0', '1', '6'] ++ ['1', '2'] ++ ['3', '1'], x.isDigit :=
      List.all_eq_true.mp rfl
    have shown : Clock.ofChars? ['2', '3', ':', '5', '9', ':', '6', '0'] = some ⟨23, 59, 60⟩ := rfl
    exact ⟨['2', '0', '1', '6'], ['1', '2'], ['3', '1'], 'T', _, ['Z'], by decide,
      ⟨rfl, rfl, rfl⟩, digits, by decide, shown, ⟨by decide, by decide, by decide⟩⟩
  have reads (time : String) (c : Clock) (found : readLeapSecond time = some c) :
      Clock.IsDated time c := by
    rw [readLeapSecond] at found
    split at found
    · rename_i same
      cases found
      exact same ▸ dated
    · cases found
  obtain ⟨same, -, -, clock⟩ := label_is_clock_iff accepted reads
  exact ⟨accepted, reads, same, (clock _ dated).1⟩

/-- Words with a colon in the right place are accepted, and so is an hour that no day has. -/
theorem labels_without_clock :
    (translate (readyAt "2024-05-01 at: noon") =
        .ok ⟨"at: noon", "virtual device ready", .success, "2024-05-01 at: noon"⟩ ∧
      ¬ IsClock "at: noon") ∧
    translate (readyAt "2024-05-01T24:00:00Z") =
        .ok ⟨"24:00:00", "virtual device ready", .success, "2024-05-01T24:00:00Z"⟩ ∧
      ¬ IsClock "24:00:00" := by
  refine ⟨⟨translate_readyAt (by decide), ?_⟩, translate_readyAt (by decide), ?_⟩
  · rintro ⟨c, -, shown⟩
    have none : Clock.ofChars? "at: noon".toList = none := by decide
    rw [none] at shown
    cases shown
  · rintro ⟨c, real, shown⟩
    have shows : Clock.ofChars? "24:00:00".toList = some ⟨24, 0, 0⟩ := by decide
    rw [shows] at shown
    cases shown
    exact absurd real.hour (by decide)

end MeshWatch.Event
