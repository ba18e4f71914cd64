/-!
# Blank characters and trimming

Blank means the Unicode property White_Space: the no-break spaces and the line and paragraph
separators are blank, the zero-width space and the byte order mark are not.
-/
namespace MeshWatch.Text

def isBlank (c : Char) : Bool :=
  let n := c.toNat
  (9 ≤ n && n ≤ 13) || n == 0x20 || n == 0x85 || n == 0xA0 || n == 0x1680 ||
    (0x2000 ≤ n && n ≤ 0x200A) || n == 0x2028 || n == 0x2029 || n == 0x202F || n == 0x205F ||
    n == 0x3000

def trimStart (s : List Char) : List Char := s.dropWhile isBlank

def trimEnd (s : List Char) : List Char := (s.reverse.dropWhile isBlank).reverse

def trim (s : List Char) : List Char := trimEnd (trimStart s)

/-- The text without the blank characters at its two ends. -/
def trimmed (s : String) : String := String.ofList (trim s.toList)

/-- The text without the blank characters at its end. -/
def trimmedEnd (s : String) : String := String.ofList (trimEnd s.toList)

def allBlank (s : String) : Bool := s.toList.all isBlank

/-- The trimmed text, unless nothing is left of it. -/
def nonBlank (s : String) : Option String :=
  let t := trimmed s
  if t = "" then none else some t

end MeshWatch.Text
