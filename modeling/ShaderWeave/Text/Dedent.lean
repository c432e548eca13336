import ShaderWeave.Text.Blank

/-!
# Removing shared indentation

Code is written inside indented text blocks.  `dedent` strips the indentation that every line with
something on it shares, the blank lines before the first and after the last such line, and the
blanks at the end of each line.  **Every kept line ends in a line feed,** so pieces of code can be
put one after the other.
-/

namespace ShaderWeave.Text

/-- Bytes of white space before the first other character. -/
def indentWidth (line : List Char) : Nat := byteLength line - byteLength (trimStart line)

/-- The narrowest indentation among the lines that are not blank; zero if all are. -/
def sharedIndent (lines : List (List Char)) : Nat :=
  ((lines.filter fun line => !isBlankLine line).map indentWidth).min?.getD 0

/-- Drops the blank lines at both ends. -/
def trimBlankLines (lines : List (List Char)) : List (List Char) :=
  ((lines.dropWhile isBlankLine).reverse.dropWhile isBlankLine).reverse

/-- A line without its first `width` bytes and without the blanks at its end.  A line that cannot
be cut there becomes empty. -/
def dedentLine (width : Nat) (line : List Char) : List Char :=
  trimEnd ((dropBytes? width line).getD [])

/-- The lines that `dedent` writes. -/
def dedentLines (lines : List (List Char)) : List (List Char) :=
  (trimBlankLines lines).map (dedentLine (sharedIndent lines))

/-- Strips shared indentation and surrounding blank lines. -/
def dedent (text : String) : String :=
  String.ofList ((dedentLines (splitLines text.toList)).flatMap (· ++ ['\n']))

end ShaderWeave.Text
