import MeshWatch.Toml.Scalar
import MeshWatch.Toml.Table

/-!
# Values of TOML

Lists may run over several lines, with comments and a final comma. A table in braces stays on one
line and is complete where it stands.
-/
namespace MeshWatch.Toml

/-- A value without parts. -/
def scanScalar (s : List Char) : Option (Data × List Char) :=
  match s with
  | '"' :: _ | '\x27' :: _ => (scanString s).map fun (text, rest) => (.text text, rest)
  | 't' :: rest => (Json.after? "rue".toList rest).map (.bool true, ·)
  | 'f' :: rest => (Json.after? "alse".toList rest).map (.bool false, ·)
  | s => scanNumeric s

mutual

/-- A value. Lists and tables may be nested less than `room` deep in it. -/
def scanValue : Nat → Nat → List Char → Option (Data × List Char)
  | 0, _, _ => none
  | fuel + 1, room, s =>
    match s, room with
    | '[' :: _, 0 => none
    | '\x7b' :: _, 0 => none
    | '[' :: rest, room + 1 =>
      match rest with
      | ']' :: rest => some (.list [], rest)
      | rest =>
        match skipLines (rest.length + 1) rest with
        | ']' :: after => some (.list [], after)
        | rest => (scanItems fuel room rest).map fun (items, rest) => (.list items, rest)
    | '\x7b' :: rest, room + 1 =>
      match skipSpace rest with
      | '\x7d' :: rest => some (.record [], rest)
      | rest =>
        (scanPairs fuel room rest []).map fun (entries, rest) =>
          (.record (membersOf entries), rest)
    | s, _ => scanScalar s

/-- The items of a list from one of them to the closing bracket. -/
def scanItems : Nat → Nat → List Char → Option (List Data × List Char)
  | 0, _, _ => none
  | fuel + 1, room, s => do
    let (item, rest) ← scanValue fuel room s
    match skipLines (rest.length + 1) rest with
    | ',' :: rest =>
      match skipLines (rest.length + 1) rest with
      | ']' :: rest => return ([item], rest)
      | rest =>
        let (items, rest) ← scanItems fuel room rest
        return (item :: items, rest)
    | ']' :: rest => return ([item], rest)
    | _ => none

/-- The pairs of a table in braces from one of them to the closing brace. -/
def scanPairs : Nat → Nat → List Char → Entries → Option (Entries × List Char)
  | 0, _, _, _ => none
  | fuel + 1, room, s, entries => do
    let (path, rest) ← key? s
    match rest with
    | '=' :: rest =>
      let (value, rest) ← scanValue fuel room (skipSpace rest)
      let entries ← Entries.assign value path entries
      match skipSpace rest with
      | ',' :: rest => scanPairs fuel room rest entries
      | '\x7d' :: rest => return (entries, rest)
      | _ => none
    | _ => none

end

/-- A value at the front of a text. -/
def value? (s : List Char) : Option (Data × List Char) :=
  scanValue (2 * s.length + 2) (nestingLimit - 1) s

end MeshWatch.Toml
