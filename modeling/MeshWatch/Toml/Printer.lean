import MeshWatch.Data

/-!
# Writing TOML

Values come first, then tables, each after an empty line. Every string is written in the plainest
of the forms that can hold it.
-/
namespace MeshWatch.Toml

/-- A control character that no form but the escaped one can hold. -/
def isControl (c : Char) : Bool :=
  (c.toNat < 0x20 && c ≠ '\t' && c ≠ '\n') || c.toNat == 0x7F

/-- The longest row of `c`. -/
def longestRun (c : Char) (run best : Nat) : List Char → Nat
  | [] => max run best
  | x :: rest =>
    if x = c then longestRun c (run + 1) best rest else longestRun c 0 (max run best) rest

inductive Style
  | basic
  | literal
  | longBasic
  | longLiteral
deriving DecidableEq

/-- The first style in this order that can hold the text without an escape; with one if none
can. -/
def styleOf (s : List Char) : Style :=
  let controls := s.any isControl
  let backslashes := s.contains '\\'
  let breaks := s.contains '\n'
  let double := longestRun '"' 0 0 s
  let single := longestRun '\x27' 0 0 s
  if ¬ controls ∧ ¬ backslashes ∧ double = 0 ∧ ¬ breaks then .basic
  else if ¬ controls ∧ single = 0 ∧ ¬ breaks then .literal
  else if ¬ controls ∧ ¬ backslashes ∧ double ≤ 2 then .longBasic
  else if ¬ controls ∧ single ≤ 2 then .longLiteral
  else if breaks then .longBasic
  else .basic

def upperDigit (n : Nat) : Char := (n.digitChar).toUpper

/-- A character inside double quotes, line breaks and quotes apart. -/
def basicChar (c : Char) : List Char :=
  match c with
  | '\t' => ['\\', 't']
  | '\x08' => ['\\', 'b']
  | '\x0c' => ['\\', 'f']
  | '\r' => ['\\', 'r']
  | '\\' => ['\\', '\\']
  | c =>
    if isControl c then
      ['\\', 'u', '0', '0', upperDigit (c.toNat / 16), upperDigit (c.toNat % 16)]
    else [c]

def basicChars (s : List Char) : List Char :=
  s.flatMap fun c =>
    match c with
    | '"' => ['\\', '"']
    | '\n' => ['\\', 'n']
    | c => basicChar c

/-- The text inside three double quotes. Of three quotes in a row the third is escaped; `run` is
the number of quotes just written as they are. -/
def longChars (run : Nat) : List Char → List Char
  | [] => []
  | '"' :: rest =>
    if run = 2 then '\\' :: '"' :: longChars 0 rest else '"' :: longChars (run + 1) rest
  | '\n' :: rest => '\n' :: longChars 0 rest
  | c :: rest => basicChar c ++ longChars 0 rest

/-- A line break after the opening quotes is not part of the text. -/
def opening (s : List Char) : List Char := if s.contains '\n' then ['\n'] else []

def stringChars (s : List Char) : List Char :=
  match styleOf s with
  | .basic => '"' :: basicChars s ++ ['"']
  | .literal => '\x27' :: s ++ ['\x27']
  | .longBasic => ['"', '"', '"'] ++ opening s ++ longChars 0 s ++ ['"', '"', '"']
  | .longLiteral => ['\x27', '\x27', '\x27'] ++ opening s ++ s ++ ['\x27', '\x27', '\x27']

mutual

/-- A value on one line. -/
def valueChars : Data → List Char
  | .bool true => "true".toList
  | .bool false => "false".toList
  | .int n => (toString n).toList
  | .text s => stringChars s.toList
  | .list [] => ['[', ']']
  | .list (item :: rest) => '[' :: (valueChars item ++ itemChars rest)
  | _ => "\"\"".toList

/-- The items after the first, and the closing bracket. -/
def itemChars : List Data → List Char
  | [] => [']']
  | item :: rest => ',' :: ' ' :: (valueChars item ++ itemChars rest)

end

def pairChars (name : String) (value : Data) : List Char :=
  name.toList ++ " = ".toList ++ valueChars value ++ ['\n']

def isTable : Data → Bool
  | .record _ => true
  | .list (.record _ :: _) => true
  | _ => false

def pairsChars (members : List (String × Data)) : List Char :=
  members.flatMap fun (name, value) => pairChars name value

/-- One table with its header. -/
def tableChars (opening closing : String) (name : String) : Data → List Char
  | .record members =>
    '\n' :: (opening.toList ++ name.toList ++ closing.toList ++ ['\n'] ++ pairsChars members)
  | _ => []

/-- A table, or several of one name. -/
def tablesChars (name : String) : Data → List Char
  | .list items => items.flatMap (tableChars "[[" "]]" name)
  | d => tableChars "[" "]" name d

/-- A document of some members, whose tables hold no further tables. -/
def documentChars (members : List (String × Data)) : List Char :=
  let (tables, values) := members.partition fun (_, value) => isTable value
  pairsChars values ++ tables.flatMap fun (name, value) => tablesChars name value

def document : Data → String
  | .record members => String.ofList (documentChars members)
  | _ => ""

end MeshWatch.Toml
