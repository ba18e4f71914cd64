import MeshWatch.Number.Rounding
import MeshWatch.Toml.Text

/-!
# Numbers and times of TOML

Whole numbers fit 64 bits with a sign. Other numbers, dates and times are checked for their form
and not kept: no setting has a value of these kinds. A date or a time counts as a record, one
without a member of any known name.
-/
namespace MeshWatch.Toml

/-- Further digits, with single underscores between them. -/
def moreDigits (isDigit : Char → Bool) : List Char → Option (List Char × List Char)
  | [] => some ([], [])
  | '_' :: c :: rest =>
    if isDigit c then (moreDigits isDigit rest).map fun (digits, rest) => (c :: digits, rest)
    else none
  | c :: rest =>
    if isDigit c then (moreDigits isDigit rest).map fun (digits, rest) => (c :: digits, rest)
    else if c = '_' then none
    else some ([], c :: rest)

def scanDigits (isDigit : Char → Bool) : List Char → Option (List Char × List Char)
  | c :: rest =>
    if isDigit c then (moreDigits isDigit rest).map fun (digits, rest) => (c :: digits, rest)
    else none
  | [] => none

/-- A whole decimal number; a zero in front stands alone. -/
def scanWhole : List Char → Option (List Char × List Char)
  | '0' :: rest => some (['0'], rest)
  | s => scanDigits Char.isDigit s

def scanSign : List Char → Bool × List Char
  | '-' :: rest => (true, rest)
  | '+' :: rest => (false, rest)
  | s => (false, s)

/-- A positive number that does not fit a double is refused. Its digits before and after the
point, as one number, are `digits`, to be multiplied by a power of ten. -/
def isTooLarge (digits : Nat) (power : Int) : Bool :=
  let length : Int := (Nat.toDigits 10 digits).length
  if digits = 0 ∨ length + power < 308 then false
  else if 310 < length + power then true
  else
    let bound := (Nat.pow 2 54 - 1) * Nat.pow 2 970
    if 0 ≤ power then bound ≤ digits * Nat.pow 10 power.toNat
    else bound * Nat.pow 10 (-power).toNat ≤ digits

/-- A number after its sign: whole, or with a fraction or an exponent. -/
def scanDecimal (negative : Bool) (s : List Char) : Option (Data × List Char) := do
  let (whole, rest) ← scanWhole s
  let (fraction, rest) ← match rest with
    | '.' :: rest => scanDigits Char.isDigit rest
    | rest => some ([], rest)
  let (power, rest) ← match rest with
    | 'e' :: rest | 'E' :: rest =>
      let (down, rest) := scanSign rest
      (scanDigits Char.isDigit rest).map fun (digits, rest) =>
        let n : Int := Text.digitsValue 0 digits
        (some (if down then -n else n), rest)
    | rest => some (none, rest)
  if fraction = [] ∧ power = none then
    let n := Text.digitsValue 0 whole
    if negative then
      if n ≤ Nat.pow 2 63 then some (.int (-n), rest) else none
    else if n < Nat.pow 2 63 then some (.int n, rest)
    else none
  else
    let power := power.getD 0 - fraction.length
    if ¬ negative ∧ isTooLarge (Text.digitsValue 0 (whole ++ fraction)) power then none
    else some (.unreadable, rest)

def isOctal (c : Char) : Bool := '0' ≤ c && c ≤ '7'

def isBinary (c : Char) : Bool := c == '0' || c == '1'

def isHex (c : Char) : Bool := (Json.hexValue? c).isSome

/-- Digits in another base, after its letter. -/
def scanBased (base : Nat) (isDigit : Char → Bool) (s : List Char) :
    Option (Data × List Char) := do
  let (digits, rest) ← scanDigits isDigit s
  let n := digits.foldl (fun n c => base * n + (Json.hexValue? c).getD 0) 0
  if n < Nat.pow 2 63 then some (.int n, rest) else none

/-- Exactly `count` digits, as a number between `low` and `high`. -/
def scanPart (count low high : Nat) (s : List Char) : Option (Nat × List Char) :=
  let digits := s.take count
  let n := Text.digitsValue 0 digits
  if digits.length = count ∧ digits.all Char.isDigit ∧ low ≤ n ∧ n ≤ high then
    some (n, s.drop count)
  else none

def isLeapYear (year : Nat) : Bool := year % 4 = 0 && (year % 100 ≠ 0 || year % 400 = 0)

def daysIn (year month : Nat) : Nat :=
  if month = 2 then if isLeapYear year then 29 else 28
  else if month = 4 ∨ month = 6 ∨ month = 9 ∨ month = 11 then 30
  else 31

def scanMark (mark : Char) : List Char → Option (List Char)
  | c :: rest => if c = mark then some rest else none
  | [] => none

/-- A clock after its hour. -/
def scanClock (s : List Char) : Option (List Char) := do
  let (_, rest) ← scanPart 2 0 59 (← scanMark ':' s)
  let (_, rest) ← scanPart 2 0 60 (← scanMark ':' rest)
  match rest with
  | '.' :: rest =>
    if rest.takeWhile Char.isDigit = [] then some ('.' :: rest)
    else some (rest.dropWhile Char.isDigit)
  | rest => some rest

/-- The distance of a clock from universal time, if one is given. -/
def scanOffset : List Char → Option (List Char)
  | 'Z' :: rest | 'z' :: rest => some rest
  | '+' :: rest | '-' :: rest => do
    let (_, rest) ← scanPart 2 0 23 rest
    let (_, rest) ← scanPart 2 0 59 (← scanMark ':' rest)
    return rest
  | s => some s

/-- What follows a date: a time of that day, or nothing that belongs to it. -/
def scanTimeOfDay (s : List Char) : Option (List Char) :=
  match s with
  | 'T' :: rest | 't' :: rest | ' ' :: rest =>
    match scanPart 2 0 23 rest with
    | some (_, ':' :: rest) => (scanClock (':' :: rest)).bind scanOffset
    | _ => some s
  | s => some s

def scanDate (s : List Char) : Option (List Char) := do
  let (year, rest) ← scanPart 4 0 9999 s
  let (month, rest) ← scanPart 2 1 12 (← scanMark '-' rest)
  let (_, rest) ← scanPart 2 1 (daysIn year month) (← scanMark '-' rest)
  scanTimeOfDay rest

/-- Whether the text starts with `count` digits and `mark`. -/
def startsWith (count : Nat) (mark : Char) (s : List Char) : Bool :=
  (s.take count).length = count && (s.take count).all Char.isDigit && s[count]? == some mark

/-- What a date or a time stands for. -/
def moment : Data := .record []

/-- A number, a date or a time. -/
def scanNumeric (s : List Char) : Option (Data × List Char) :=
  if startsWith 4 '-' s then (scanDate s).map (moment, ·)
  else if startsWith 2 ':' s then
    (scanPart 2 0 23 s).bind fun (_, rest) => (scanClock rest).map (moment, ·)
  else
    match s with
    | '0' :: 'x' :: rest => scanBased 16 isHex rest
    | '0' :: 'o' :: rest => scanBased 8 isOctal rest
    | '0' :: 'b' :: rest => scanBased 2 isBinary rest
    | s =>
      let (negative, rest) := scanSign s
      match rest with
      | 'i' :: 'n' :: 'f' :: rest | 'n' :: 'a' :: 'n' :: rest => some (.unreadable, rest)
      | rest => scanDecimal negative rest

end MeshWatch.Toml
