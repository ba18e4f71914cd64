import MeshWatch.Data
import MeshWatch.Number.Literal

/-!
# Reading JSON

`Json.tree?` reads a text into a tree and checks the grammar only. `Json.value?` also asks every
token for its value and bounds the nesting. The grammar is strict: no comments, no final commas,
no control characters in strings, one value with blanks around it.
-/
namespace MeshWatch.Json

/-- Lists and records of a value may nest this deep. -/
def depthLimit : Nat := 127

def isSpace (c : Char) : Bool := c == ' ' || c == '\n' || c == '\t' || c == '\r'

def skipSpace (s : List Char) : List Char := s.dropWhile isSpace

/-- A piece of a string: a character, or a 16-bit code given by its number. -/
inductive Piece
  | char (c : Char)
  | code (n : Nat)

def hexValue? (c : Char) : Option Nat :=
  if c.isDigit then some (c.toNat - '0'.toNat)
  else if 'a' ≤ c ∧ c ≤ 'f' then some (c.toNat - 'a'.toNat + 10)
  else if 'A' ≤ c ∧ c ≤ 'F' then some (c.toNat - 'A'.toNat + 10)
  else none

def hexCode? (a b c d : Char) : Option Nat := do
  return (((← hexValue? a) * 16 + (← hexValue? b)) * 16 + (← hexValue? c)) * 16 + (← hexValue? d)

/-- The character that a letter after a backslash stands for. -/
def escaped? : Char → Option Char
  | '"' => some '"'
  | '\\' => some '\\'
  | '/' => some '/'
  | 'b' => some '\x08'
  | 'f' => some '\x0c'
  | 'n' => some '\n'
  | 'r' => some '\r'
  | 't' => some '\t'
  | _ => none

/-- The pieces of a string whose opening quote has been read, and what follows its closing quote. -/
def scanString : List Char → Option (List Piece × List Char)
  | [] => none
  | '"' :: rest => some ([], rest)
  | '\\' :: 'u' :: a :: b :: c :: d :: rest => do
    let n ← hexCode? a b c d
    let (pieces, rest) ← scanString rest
    return (.code n :: pieces, rest)
  | '\\' :: c :: rest => do
    let c ← escaped? c
    let (pieces, rest) ← scanString rest
    return (.char c :: pieces, rest)
  | c :: rest =>
    if c.toNat < 0x20 then none
    else do
      let (pieces, rest) ← scanString rest
      return (.char c :: pieces, rest)

/-- The text of the pieces, if the codes of surrogates come in pairs. -/
def decode? : List Piece → Option (List Char)
  | [] => some []
  | .char c :: rest => (decode? rest).map (c :: ·)
  | .code n :: rest =>
    if 0xD800 ≤ n ∧ n < 0xDC00 then
      match rest with
      | .code m :: rest =>
        if 0xDC00 ≤ m ∧ m < 0xE000 then
          (decode? rest).map (Char.ofNat (0x10000 + (n - 0xD800) * 0x400 + (m - 0xDC00)) :: ·)
        else none
      | _ => none
    else if 0xDC00 ≤ n ∧ n < 0xE000 then none
    else (decode? rest).map (Char.ofNat n :: ·)

/-- A number as written; `power` is absent if there is no exponent. -/
structure Numeral where
  negative : Bool
  whole : List Char
  fraction : List Char
  power : Option Int

/-- Digits of an exponent after its mark. -/
def scanPower (s : List Char) : Option (Int × List Char) :=
  let (negative, s) := match s with
    | '-' :: rest => (true, rest)
    | '+' :: rest => (false, rest)
    | s => (false, s)
  let digits := s.takeWhile Char.isDigit
  if digits = [] then none
  else
    let n : Int := Text.digitsValue 0 digits
    some (if negative then -n else n, s.dropWhile Char.isDigit)

/-- The part of a number from its decimal point on. -/
def scanFraction : List Char → Option (List Char × List Char)
  | '.' :: rest =>
    let digits := rest.takeWhile Char.isDigit
    if digits = [] then none else some (digits, rest.dropWhile Char.isDigit)
  | s => some ([], s)

def scanExponent : List Char → Option (Option Int × List Char)
  | 'e' :: rest | 'E' :: rest => (scanPower rest).map fun (power, rest) => (some power, rest)
  | s => some (none, s)

/-- A number of at least one digit, without superfluous zeros in front. -/
def scanNumber (s : List Char) : Option (Numeral × List Char) := do
  let (negative, s) := match s with
    | '-' :: rest => (true, rest)
    | s => (false, s)
  let whole := s.takeWhile Char.isDigit
  if whole = [] ∨ (1 < whole.length ∧ whole.head? = some '0') then none
  else
    let (fraction, rest) ← scanFraction (s.dropWhile Char.isDigit)
    let (power, rest) ← scanExponent rest
    return (⟨negative, whole, fraction, power⟩, rest)

/-- Whole numbers that fit 64 bits, signed or unsigned, are kept exactly. Any other number,
negative zero among them, is a double. -/
def Numeral.data (n : Numeral) : Data :=
  let whole := Text.digitsValue 0 n.whole
  if n.fraction = [] ∧ n.power = none ∧ ¬ n.negative ∧ whole < Nat.pow 2 64 then .int whole
  else if n.fraction = [] ∧ n.power = none ∧ n.negative ∧ 0 < whole ∧ whole ≤ Nat.pow 2 63 then
    .int (-whole)
  else
    match (Number.Literal.mk n.negative n.whole n.fraction (n.power.getD 0)).double with
    | some x => .double x
    | none => .unreadable

/-- The characters after `word`, if the text starts with it. -/
def after? : List Char → List Char → Option (List Char)
  | [], s => some s
  | _ :: _, [] => none
  | w :: word, c :: rest => if c = w then after? word rest else none

def scanScalar (s : List Char) : Option (Data × List Char) :=
  match s with
  | '"' :: rest => (scanString rest).map fun (pieces, rest) =>
    match decode? pieces with
    | some chars => (.text (String.ofList chars), rest)
    | none => (.unreadable, rest)
  | 'n' :: rest => (after? "ull".toList rest).map (.null, ·)
  | 't' :: rest => (after? "rue".toList rest).map (.bool true, ·)
  | 'f' :: rest => (after? "alse".toList rest).map (.bool false, ·)
  | s => (scanNumber s).map fun (n, rest) => (n.data, rest)

/-- Puts a member in front. A record one of whose keys has no value has none itself. -/
def consMember (key : List Piece) (value : Data) : Data → Data
  | .record members =>
    match decode? key with
    | some chars => .record ((String.ofList chars, value) :: members)
    | none => .unreadable
  | other => other

mutual

/-- A value and what follows it. The fuel bounds the number of values and separators. -/
def scanValue : Nat → List Char → Option (Data × List Char)
  | 0, _ => none
  | fuel + 1, s =>
    match skipSpace s with
    | '[' :: rest =>
      match skipSpace rest with
      | ']' :: rest => some (.list [], rest)
      | rest => (scanItems fuel rest).map fun (items, rest) => (.list items, rest)
    | '\x7b' :: rest =>
      match skipSpace rest with
      | '\x7d' :: rest => some (.record [], rest)
      | rest => scanMembers fuel rest
    | s => scanScalar s

/-- The items of a list from one of them to the closing bracket. -/
def scanItems : Nat → List Char → Option (List Data × List Char)
  | 0, _ => none
  | fuel + 1, s => do
    let (item, rest) ← scanValue fuel s
    match skipSpace rest with
    | ',' :: rest =>
      let (items, rest) ← scanItems fuel rest
      return (item :: items, rest)
    | ']' :: rest => return ([item], rest)
    | _ => none

/-- The members of a record from one of them to the closing brace. -/
def scanMembers : Nat → List Char → Option (Data × List Char)
  | 0, _ => none
  | fuel + 1, s =>
    match skipSpace s with
    | '"' :: rest => do
      let (key, rest) ← scanString rest
      match skipSpace rest with
      | ':' :: rest =>
        let (value, rest) ← scanValue fuel rest
        match skipSpace rest with
        | ',' :: rest =>
          let (members, rest) ← scanMembers fuel rest
          return (consMember key value members, rest)
        | '\x7d' :: rest => return (consMember key value (.record []), rest)
        | _ => none
      | _ => none
    | _ => none

end

def treeOfChars? (s : List Char) : Option Data :=
  match scanValue (2 * s.length + 2) s with
  | some (tree, rest) => if skipSpace rest = [] then some tree else none
  | none => none

/-- The tree of a JSON text. -/
def tree? (s : String) : Option Data := treeOfChars? s.toList

/-- The value of a JSON text. -/
def value? (s : String) : Option Data := (tree? s).bind (Data.value? depthLimit)

end MeshWatch.Json
