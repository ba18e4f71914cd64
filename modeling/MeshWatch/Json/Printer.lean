import MeshWatch.Data
import MeshWatch.Number.Shortest

/-!
# Writing JSON

Two layouts of one value: compact, without any space, and indented by two spaces a level.
-/
namespace MeshWatch.Json

/-- Doubles are written without an exponent from 0.00001 up to, but not including, 10^16. -/
def doubleLayout : Number.Layout := ⟨-5, 15, "e+", "e-"⟩

/-- Quotes, backslashes and the control characters below U+0020 are escaped, nothing else. -/
def escapeChar (c : Char) : List Char :=
  match c with
  | '"' => ['\\', '"']
  | '\\' => ['\\', '\\']
  | '\x08' => ['\\', 'b']
  | '\x0c' => ['\\', 'f']
  | '\n' => ['\\', 'n']
  | '\r' => ['\\', 'r']
  | '\t' => ['\\', 't']
  | c =>
    if c.toNat < 0x20 then
      ['\\', 'u', '0', '0', (c.toNat / 16).digitChar, (c.toNat % 16).digitChar]
    else [c]

def quote (s : String) : List Char := '"' :: s.toList.flatMap escapeChar ++ ['"']

def scalar : Data → List Char
  | .null => "null".toList
  | .bool true => "true".toList
  | .bool false => "false".toList
  | .int n => (toString n).toList
  | .double x => (doubleLayout.text x).toList
  | .text s => quote s
  | _ => "null".toList

mutual

def compactChars : Data → List Char
  | .list [] => ['[', ']']
  | .list (item :: rest) => '[' :: (compactChars item ++ compactItems rest)
  | .record [] => ['\x7b', '\x7d']
  | .record ((name, value) :: rest) =>
    '\x7b' :: (quote name ++ ':' :: (compactChars value ++ compactMembers rest))
  | other => scalar other

/-- The items after the first, and the closing bracket. -/
def compactItems : List Data → List Char
  | [] => [']']
  | item :: rest => ',' :: (compactChars item ++ compactItems rest)

def compactMembers : List (String × Data) → List Char
  | [] => ['\x7d']
  | (name, value) :: rest =>
    ',' :: (quote name ++ ':' :: (compactChars value ++ compactMembers rest))

end

def compact (d : Data) : String := String.ofList (compactChars d)

/-- A line break and the indentation of a level. -/
def newline (level : Nat) : List Char := '\n' :: List.replicate (2 * level) ' '

mutual

def indentedChars (level : Nat) : Data → List Char
  | .list [] => ['[', ']']
  | .list (item :: rest) =>
    '[' :: (newline (level + 1) ++ indentedChars (level + 1) item ++ indentedItems level rest)
  | .record [] => ['\x7b', '\x7d']
  | .record ((name, value) :: rest) =>
    '\x7b' :: (newline (level + 1) ++ quote name ++ ':' :: ' ' ::
      (indentedChars (level + 1) value ++ indentedMembers level rest))
  | other => scalar other

def indentedItems (level : Nat) : List Data → List Char
  | [] => newline level ++ [']']
  | item :: rest =>
    ',' :: (newline (level + 1) ++ indentedChars (level + 1) item ++ indentedItems level rest)

def indentedMembers (level : Nat) : List (String × Data) → List Char
  | [] => newline level ++ ['\x7d']
  | (name, value) :: rest =>
    ',' :: (newline (level + 1) ++ quote name ++ ':' :: ' ' ::
      (indentedChars (level + 1) value ++ indentedMembers level rest))

end

def indented (d : Data) : String := String.ofList (indentedChars 0 d)

end MeshWatch.Json
