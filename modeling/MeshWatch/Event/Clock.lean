import MeshWatch.Text.Bytes

/-!
# The clock in a time

An ISO 8601 time shows its clock in the bytes 11 to 18. The clock is taken from there, in the
time's own offset; of a text that is no such time only the colon after the first two bytes of the
clock is checked.
-/
namespace MeshWatch.Event

def clockChars (time : List Char) : Option (List Char) := do
  let (_, fromClock) ← Text.cutBytes 11 time
  let (clock, _) ← Text.cutBytes 8 fromClock
  match ← Text.cutBytes 2 clock with
  | (_, ':' :: _) => some clock
  | _ => none

/-- The clock of a time, if the time has one. -/
def clock? (time : String) : Option String := (clockChars time.toList).map String.ofList

end MeshWatch.Event
