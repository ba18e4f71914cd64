import MeshWatch.Logging.Setup

/-!
# Dates

The date of a moment that is counted in seconds since the first of January 1970, in universal
time. Years are counted from March on, so that a leap day is the last day of its year; 400 years
have 146097 days.
-/
namespace MeshWatch.Logging

structure Date where
  year : Nat
  month : Nat
  day : Nat
deriving DecidableEq

/-- The date of a day, counted from the first of January 1970. -/
def Date.ofDays (days : Nat) : Date :=
  let days := days + 719468
  let inEra := days % 146097
  let yearOfEra := (inEra - inEra / 1460 + inEra / 36524 - inEra / 146096) / 365
  let inYear := inEra - (365 * yearOfEra + yearOfEra / 4 - yearOfEra / 100)
  let fromMarch := (5 * inYear + 2) / 153
  let month := if fromMarch < 10 then fromMarch + 3 else fromMarch - 9
  { year := yearOfEra + days / 146097 * 400 + if month ≤ 2 then 1 else 0
    month := month
    day := inYear - (153 * fromMarch + 2) / 5 + 1 }

example : Date.ofDays 0 = ⟨1970, 1, 1⟩ := by decide
example : Date.ofDays 11016 = ⟨2000, 2, 29⟩ := by decide
example : Date.ofDays 19844 = ⟨2024, 5, 1⟩ := by decide

/-- A number with zeros in front up to a width. -/
def padded (width n : Nat) : String :=
  let digits := toString n
  String.ofList (List.replicate (width - digits.length) '0') ++ digits

def Date.text (d : Date) : String :=
  padded 4 d.year ++ "-" ++ padded 2 d.month ++ "-" ++ padded 2 d.day

def Stamp.ofSeconds (seconds : Nat) : Stamp :=
  ⟨(Date.ofDays (seconds / 86400)).text, padded 2 (seconds / 3600 % 24)⟩

/-- A moment in the form of ISO 8601. -/
def momentText (seconds : Nat) : String :=
  (Date.ofDays (seconds / 86400)).text ++ "T" ++ padded 2 (seconds / 3600 % 24) ++ ":" ++
    padded 2 (seconds / 60 % 60) ++ ":" ++ padded 2 (seconds % 60) ++ "Z"

end MeshWatch.Logging
