import MeshWatch.Note
import MeshWatch.Text.Alphanumeric
import MeshWatch.Text.Bytes
import MeshWatch.Text.Decimal
import MeshWatch.Text.Lines

/-!
# Directives of a filter

A directive has up to three parts: a place, a scope in square brackets and a level.
`place[activity{value}]=level` is the full form; a scope has an activity, a value in braces or
both.

* A directive with an activity lets through what is noted during that activity.
* Any other directive covers the notes that come from its place and, if it names a value, tell a
  value of that name.

The parts are looked for in the text without the blanks around it, and where they lie is counted in
bytes. They are then taken from the text as it stands. Blanks in front of a directive therefore
move all its parts, and a part that is moved into the middle of a character makes the directive
unusable, which is worse than unreadable: no filter is made with it.
-/
namespace MeshWatch.Logging

/-- The least severe notes that pass; 0 lets nothing pass. -/
abbrev Level := Nat

/-- A value that a directive asks for. -/
structure Demand where
  name : String
  /-- Whether the value itself is given, beside its name. -/
  isExact : Bool
deriving DecidableEq

structure Directive where
  /-- What the origin of a note starts with. -/
  place : Option String
  activity : Option String
  demand : Option Demand
  level : Level
deriving DecidableEq

namespace Level

def all : Level := Severity.trace.rank

def names : List (String × Level) :=
  [("off", 0), ("error", 1), ("warn", 2), ("info", 3), ("debug", 4), ("trace", 5)]

/-- A level by its number, or by its name in any case. -/
def ofText? (s : List Char) : Option Level :=
  (Text.readBounded? all s).or (names.lookup (String.ofList (s.map Char.toLower)))

end Level

namespace Demand

/-- A name, or a name and a value. -/
def ofText (s : List Char) : Demand :=
  match Text.cutFirst '=' s with
  | none => ⟨String.ofList s, false⟩
  | some (name, _) => ⟨String.ofList name, true⟩

end Demand

namespace Directive

/-- Why there is no directive in a text. -/
inductive Fault
  /-- The text has another form. -/
  | unreadable
  /-- A part of it begins or ends inside a character. -/
  | unusable
deriving DecidableEq

/-- What asks for nothing and lets everything pass. -/
def any : Directive := ⟨none, none, none, Level.all⟩

/-- Whether a place may start with this character. -/
def opens (c : Char) : Bool := Text.isAlphanumeric c || c == '-' || c == ':' || c == '_'

/-- The part of a text from one byte to another. -/
def part (text : List Char) (start stop : Nat) : Except Fault (List Char) :=
  (Text.betweenBytes? start stop text).elim (.error .unusable) .ok

/-- The level of a directive, from a byte to the end of the text. Without a level everything
passes. -/
def withLevel (d : Directive) (text : List Char) (start : Nat) : Except Fault Directive := do
  match ← part text start (Text.byteCount text) with
  | [] => return { d with level := Level.all }
  | level => (Level.ofText? level).elim (.error .unreadable) fun level =>
    return { d with level := level }

/-- What follows the scope at a byte: a level or nothing. -/
def afterScope (d : Directive) (text : List Char) (start : Nat) :
    List Char → Except Fault Directive
  | [] => return d
  | '=' :: _ => d.withLevel text (start + 1)
  | _ => .error .unreadable

/-- The value of a scope, after its opening brace at a byte, and what follows the scope. -/
def withDemand (d : Directive) (text : List Char) (start : Nat) (s : List Char) :
    Except Fault Directive := do
  let (demand, rest) := s.span (· != '\x7d')
  let stop := start + Text.byteCount demand
  match rest with
  | '\x7d' :: rest =>
    match ← part text start stop, rest with
    | [], _ => .error .unreadable
    | demand, ']' :: rest =>
      let d := { d with demand := some (.ofText demand) }
      d.afterScope text (stop + 2) rest
    | _, _ => .error .unreadable
  | _ => .error .unreadable

/-- A scope, after its opening bracket at a byte, and what follows it. -/
def withScope (d : Directive) (text : List Char) (start : Nat) (s : List Char) :
    Except Fault Directive := do
  let (activity, rest) := s.span fun c => c != ']' && c != '\x7b'
  let stop := start + Text.byteCount activity
  match rest with
  | ']' :: rest =>
    let activity ← part text start stop
    let d := { d with activity := some (String.ofList activity) }
    d.afterScope text (stop + 1) rest
  | '\x7b' :: rest =>
    let activity ← part text start stop
    let d := { d with activity := if activity = [] then none else some (String.ofList activity) }
    d.withDemand text (stop + 1) rest
  | _ => .error .unreadable

/-- A directive that starts with a place or is a level. -/
def ofPlace (text s : List Char) : Except Fault Directive := do
  let (place, rest) := s.span fun c => c != '=' && c != '['
  let stop := Text.byteCount place
  match rest with
  | '=' :: _ =>
    let place ← part text 0 stop
    let d := { any with place := some (String.ofList place) }
    d.withLevel text (stop + 1)
  | '[' :: rest =>
    let place ← part text 0 stop
    let d := { any with place := some (String.ofList place) }
    d.withScope text (stop + 1) rest
  | _ => return match Level.ofText? text with
    | some level => { any with level := level }
    | none => { any with place := some (String.ofList text) }

def ofText (text : List Char) : Except Fault Directive :=
  match Text.trim text with
  | '[' :: rest => any.withScope text 1 rest
  | c :: rest => if opens c then ofPlace text (c :: rest) else .error .unreadable
  | [] => .error .unreadable

/-- Whether a note comes from the place of a directive. -/
def reaches (d : Directive) (n : Note) : Bool :=
  match d.place with
  | none => true
  | some place => place.toList.isPrefixOf n.origin.toList

/-- Whether a note is made during the activity of a directive. An activity tells no values. -/
def follows (d : Directive) (n : Note) : Bool :=
  d.activity.isSome && d.activity == n.activity && d.demand.isNone && d.reaches n

/-- Whether a directive is one of those that may decide about a note. -/
def covers (d : Directive) (n : Note) : Bool :=
  d.activity.isNone && d.reaches n &&
    match d.demand with
    | none => true
    | some demand => !demand.isExact && n.tells demand.name

/-- How much of an origin a directive names; naming nothing counts least. -/
def weight (d : Directive) : Nat := (d.place.map (·.utf8ByteSize + 1)).getD 0

/-- Whether the demand of a directive comes after that of another one; none comes first. -/
def isFiner (d d' : Directive) : Bool :=
  match d.demand, d'.demand with
  | none, _ => false
  | some _, none => true
  | some demand, some demand' => demand'.name < demand.name

def lets (d : Directive) (n : Note) : Bool := n.severity.rank ≤ d.level

end Directive

end MeshWatch.Logging
