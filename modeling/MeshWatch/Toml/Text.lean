import MeshWatch.Json.Parser

/-!
# Characters, strings and keys of TOML

Scanners for the smallest parts of a document. Each takes what stands at the front of a text and
gives back the rest; `none` means that the text is not a document.
-/
namespace MeshWatch.Toml

def isSpace (c : Char) : Bool := c == ' ' || c == '\t'

def skipSpace (s : List Char) : List Char := s.dropWhile isSpace

/-- A character that may stand in a line: a tab, or no control character. -/
def isLineChar (c : Char) : Bool := c == '\t' || (0x20 ≤ c.toNat && c.toNat ≠ 0x7F)

/-- The text after a line break, if it starts with one. -/
def newline? : List Char → Option (List Char)
  | '\n' :: rest => some rest
  | '\r' :: '\n' :: rest => some rest
  | _ => none

/-- What follows the characters of a comment. -/
def skipComment : List Char → List Char
  | '#' :: rest => rest.dropWhile isLineChar
  | s => s

/-- Blanks, comments and line breaks between the parts of a list. -/
def skipLines : Nat → List Char → List Char
  | 0, s => s
  | fuel + 1, s =>
    let s' := skipSpace s
    match s' with
    | '#' :: rest =>
      match newline? (rest.dropWhile isLineChar) with
      | some rest => skipLines fuel rest
      | none => s'
    | s' =>
      match newline? s' with
      | some rest => skipLines fuel rest
      | none => s'

/-- The end of a line: blanks, a comment, and a line break or the end of the text. -/
def endLine? (s : List Char) : Option (List Char) :=
  match skipComment (skipSpace s) with
  | [] => some []
  | rest => newline? rest

def hexNumber? (digits : List Char) : Option Nat :=
  digits.foldlM (fun n c => (Json.hexValue? c).map (16 * n + ·)) 0

/-- The character of a number, unless it is a surrogate or too large. -/
def scalar? (n : Nat) : Option Char := if n.isValidChar then some (Char.ofNat n) else none

/-- The character that an escape stands for, after its backslash. -/
def scanEscape : List Char → Option (Char × List Char)
  | 'b' :: rest => some ('\x08', rest)
  | 't' :: rest => some ('\t', rest)
  | 'n' :: rest => some ('\n', rest)
  | 'f' :: rest => some ('\x0c', rest)
  | 'r' :: rest => some ('\r', rest)
  | '"' :: rest => some ('"', rest)
  | '\\' :: rest => some ('\\', rest)
  | 'u' :: a :: b :: c :: d :: rest => do
    return (← scalar? (← hexNumber? [a, b, c, d]), rest)
  | 'U' :: a :: b :: c :: d :: e :: f :: g :: h :: rest => do
    return (← scalar? (← hexNumber? [a, b, c, d, e, f, g, h]), rest)
  | _ => none

/-- A one-line string after its opening double quote. -/
def scanBasic : Nat → List Char → Option (List Char × List Char)
  | 0, _ => none
  | _, [] => none
  | _, '"' :: rest => some ([], rest)
  | fuel + 1, '\\' :: rest => do
    let (c, rest) ← scanEscape rest
    let (chars, rest) ← scanBasic fuel rest
    return (c :: chars, rest)
  | fuel + 1, c :: rest =>
    if isLineChar c then (scanBasic fuel rest).map fun (chars, rest) => (c :: chars, rest)
    else none

/-- A one-line string after its opening single quote. -/
def scanLiteral : List Char → Option (List Char × List Char)
  | [] => none
  | '\x27' :: rest => some ([], rest)
  | c :: rest =>
    if isLineChar c then (scanLiteral rest).map fun (chars, rest) => (c :: chars, rest)
    else none

/-- Blanks and line breaks. -/
def skipBreaks : Nat → List Char → List Char
  | 0, s => s
  | fuel + 1, s =>
    match newline? (skipSpace s) with
    | some rest => skipBreaks fuel rest
    | none => skipSpace s

/-- The text after a backslash that ends its line, without the blank lines and blanks between. -/
def continuation? (fuel : Nat) (s : List Char) : Option (List Char) :=
  (newline? (skipSpace s)).map (skipBreaks fuel)

/-- A string of several lines after its opening quotes. Up to two quotes may stand before the
three that close it; line breaks are kept as line feeds. -/
def scanLong (quote : Char) (escapes : Bool) : Nat → List Char → Option (List Char × List Char)
  | 0, _ => none
  | _, [] => none
  | fuel + 1, '\r' :: '\n' :: rest =>
    (scanLong quote escapes fuel rest).map fun (chars, rest) => ('\n' :: chars, rest)
  | fuel + 1, c :: rest =>
    if c = quote then
      match Json.after? [quote, quote, quote, quote] rest with
      | some after => some ([quote, quote], after)
      | none =>
        match Json.after? [quote, quote, quote] rest with
        | some after => some ([quote], after)
        | none =>
          match Json.after? [quote, quote] rest with
          | some after => some ([], after)
          | none => (scanLong quote escapes fuel rest).map fun (chars, rest) => (c :: chars, rest)
    else if escapes && c == '\\' then
      match continuation? fuel rest with
      | some rest => scanLong quote escapes fuel rest
      | none => do
        let (c, rest) ← scanEscape rest
        let (chars, rest) ← scanLong quote escapes fuel rest
        return (c :: chars, rest)
    else if isLineChar c || c == '\n' then
      (scanLong quote escapes fuel rest).map fun (chars, rest) => (c :: chars, rest)
    else none

/-- The text of a long string without the line break right after its opening quotes. -/
def afterOpening (s : List Char) : List Char := (newline? s).getD s

def scanString : List Char → Option (String × List Char)
  | '"' :: '"' :: '"' :: rest =>
    (scanLong '"' true (rest.length + 1) (afterOpening rest)).map fun (chars, rest) =>
      (String.ofList chars, rest)
  | '\x27' :: '\x27' :: '\x27' :: rest =>
    (scanLong '\x27' false (rest.length + 1) (afterOpening rest)).map fun (chars, rest) =>
      (String.ofList chars, rest)
  | '"' :: rest =>
    (scanBasic (rest.length + 1) rest).map fun (chars, rest) => (String.ofList chars, rest)
  | '\x27' :: rest => (scanLiteral rest).map fun (chars, rest) => (String.ofList chars, rest)
  | _ => none

def isKeyChar (c : Char) : Bool := c.isAlphanum || c == '_' || c == '-'

/-- One part of a key: bare or quoted on one line. -/
def scanKeyPart : List Char → Option (String × List Char)
  | '"' :: rest =>
    (scanBasic (rest.length + 1) rest).map fun (chars, rest) => (String.ofList chars, rest)
  | '\x27' :: rest => (scanLiteral rest).map fun (chars, rest) => (String.ofList chars, rest)
  | s =>
    let chars := s.takeWhile isKeyChar
    if chars = [] then none else some (String.ofList chars, s.dropWhile isKeyChar)

/-- Keys have fewer parts than this, and lists and tables in values are nested less deep. -/
def nestingLimit : Nat := 80

/-- A key of some parts with points between them, and blanks around each. -/
def scanKey : Nat → List Char → Option (List String × List Char)
  | 0, _ => none
  | fuel + 1, s => do
    let (part, rest) ← scanKeyPart (skipSpace s)
    match skipSpace rest with
    | '.' :: rest =>
      let (parts, rest) ← scanKey fuel rest
      return (part :: parts, rest)
    | rest => return ([part], rest)

/-- A key with fewer parts than the limit. -/
def key? (s : List Char) : Option (List String × List Char) := scanKey (nestingLimit - 1) s

end MeshWatch.Toml
