/-!
# White space, lines and their edges

Text is handled as a list of characters.

* `isBlank` — the white space of the Unicode standard, not only that of ASCII.
* `splitLines` — lines end in a line feed or in a carriage return and a line feed; a last line
  without an end counts when it is not empty.
* `trimStart`, `trimEnd`, `isBlankLine` — the blank edges of a line.
* `byteLength`, `dropBytes?` — a column is counted in bytes of the UTF-8 form, and a cut that falls
  inside a character is no cut at all.
-/

namespace ShaderWeave.Text

/-- White space in the sense of the Unicode standard. -/
def isBlank (c : Char) : Bool :=
  let point := c.toNat
  (decide (9 ≤ point) && decide (point ≤ 13)) || point == 0x20 || point == 0x85 || point == 0xA0
    || point == 0x1680 || (decide (0x2000 ≤ point) && decide (point ≤ 0x200A))
    || point == 0x2028 || point == 0x2029 || point == 0x202F || point == 0x205F || point == 0x3000

/-- The lines of a text, without their ends. -/
def splitLines : List Char → List (List Char)
  | [] => []
  | '\n' :: rest => [] :: splitLines rest
  | '\r' :: '\n' :: rest => [] :: splitLines rest
  | c :: rest =>
    match splitLines rest with
    | [] => [[c]]
    | line :: lines => (c :: line) :: lines

/-- Drops the blanks at the start. -/
def trimStart (line : List Char) : List Char := line.dropWhile isBlank

/-- Drops the blanks at the end. -/
def trimEnd (line : List Char) : List Char := (line.reverse.dropWhile isBlank).reverse

/-- A line of white space only. -/
def isBlankLine (line : List Char) : Bool := line.all isBlank

/-- Bytes of the UTF-8 form. -/
def byteLength : List Char → Nat
  | [] => 0
  | c :: rest => c.utf8Size + byteLength rest

/-- What is left after exactly `count` bytes; `none` if the line is shorter or the cut would fall
inside a character. -/
def dropBytes? : Nat → List Char → Option (List Char)
  | 0, line => some line
  | _ + 1, [] => none
  | count + 1, c :: rest =>
    if c.utf8Size ≤ count + 1 then dropBytes? (count + 1 - c.utf8Size) rest else none

/-- The text `needle` stands somewhere in the list. -/
def occursIn (needle : List Char) : List Char → Bool
  | [] => needle.isEmpty
  | c :: rest => needle.isPrefixOf (c :: rest) || occursIn needle rest

end ShaderWeave.Text
