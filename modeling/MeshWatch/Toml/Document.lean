import MeshWatch.Toml.Value

/-!
# Documents

A document is a row of lines: pairs of a key and a value, and headers that open a table for the
pairs that follow. It stands for the record of its tables and values.
-/
namespace MeshWatch.Toml

inductive Line
  | pair (path : List String) (value : Data)
  /-- A header in single brackets, or in double ones if there are several tables of its name. -/
  | header (several : Bool) (path : List String)

/-- A header line after its opening brackets. -/
def scanHeader (several : Bool) (s : List Char) : Option (Line × List Char) := do
  let (path, rest) ← key? s
  let rest ← Json.after? (if several then [']', ']'] else [']']) rest
  return (.header several path, rest)

def scanLine (s : List Char) : Option (Line × List Char) :=
  match s with
  | '[' :: '[' :: rest => scanHeader true rest
  | '[' :: rest => scanHeader false rest
  | s => do
    let (path, rest) ← key? s
    match rest with
    | '=' :: rest =>
      let (value, rest) ← value? (skipSpace rest)
      return (.pair path value, rest)
    | _ => none

/-- The lines of a document, blank lines and comments left out. -/
def scanLines : Nat → List Char → Option (List Line)
  | 0, _ => none
  | fuel + 1, s =>
    match skipSpace s with
    | [] => some []
    | s =>
      match endLine? s with
      | some rest => scanLines fuel rest
      | none => do
        let (line, rest) ← scanLine s
        let rest ← endLine? rest
        let lines ← scanLines fuel rest
        return line :: lines

/-- The pairs up to the next header, and the lines from there on. -/
def takePairs : List Line → List (List String × Data) × List Line
  | .pair path value :: rest =>
    let (pairs, rest) := takePairs rest
    ((path, value) :: pairs, rest)
  | lines => ([], lines)

def assignAll (pairs : List (List String × Data)) (entries : Entries) : Option Entries :=
  pairs.foldlM (fun entries (path, value) => Entries.assign value path entries) entries

/-- The tables of a document's lines. -/
def assemble : Nat → List Line → Entries → Option Entries
  | _, [], entries => some entries
  | 0, _, _ => none
  | fuel + 1, .header several path :: rest, entries => do
    let (pairs, rest) := takePairs rest
    let entries ← Entries.openWith several (assignAll pairs) path entries
    assemble fuel rest entries
  | fuel + 1, lines, entries => do
    let (pairs, rest) := takePairs lines
    let entries ← assignAll pairs entries
    assemble fuel rest entries

/-- A byte order mark in front does not belong to the document. -/
def withoutMark : List Char → List Char
  | '\ufeff' :: rest => rest
  | s => s

/-- The record that a document stands for. -/
def document? (s : String) : Option Data := do
  let chars := withoutMark s.toList
  let lines ← scanLines (chars.length + 1) chars
  let entries ← assemble (lines.length + 1) lines []
  return .record (membersOf entries)

end MeshWatch.Toml
