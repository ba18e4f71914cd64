import MeshWatch.Text.Blank

/-!
# Pieces of a text

Cutting a text at a character, joining texts, and the settings that are written one to a line.
-/
namespace MeshWatch.Text

/-- The pieces between the places where `c` stands. There is always at least one piece. -/
def splitOn (c : Char) : List Char → List (List Char)
  | [] => [[]]
  | x :: rest =>
    if x = c then [] :: splitOn c rest
    else match splitOn c rest with
      | [] => [[x]]
      | piece :: pieces => (x :: piece) :: pieces

/-- What stands before the first `c` and what stands after it, if `c` occurs. -/
def cutFirst (c : Char) : List Char → Option (List Char × List Char)
  | [] => none
  | x :: rest =>
    if x = c then some ([], rest)
    else (cutFirst c rest).map fun (before, after) => (x :: before, after)

/-- What stands before the last `c` and what stands after it, if `c` occurs. -/
def cutLast (c : Char) : List Char → Option (List Char × List Char)
  | [] => none
  | x :: rest =>
    match cutLast c rest with
    | some (before, after) => some (x :: before, after)
    | none => if x = c then some ([], rest) else none

/-- The texts one after the other with `sep` between neighbours. -/
def joinWith (sep : String) : List String → String
  | [] => ""
  | [s] => s
  | s :: rest => s ++ sep ++ joinWith sep rest

/-- The settings of a multi-line text: each line trimmed, blank lines left out. -/
def items (t : String) : List String :=
  (((splitOn '\n' t.toList).map trim).filter (· ≠ [])).map String.ofList

/-- Settings written one to a line. -/
def joinLines (settings : List String) : String := joinWith "\n" settings

end MeshWatch.Text
