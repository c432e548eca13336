import ShaderWeave.Text.Blank

/-!
# Version texts

A graphics context tells its version as a text: `4.6.0 Vendor`, `OpenGL ES 3.1 Vendor`, or, in a
browser, `WebGL 2.0 Vendor`.  A mark in the text says which kind of context it is; behind the mark
stands the version up to the next space, and then the vendor.

* `Version.split` — the kind of context and what stands behind its mark.
* `Version.minor?` — **zeros at the end of the minor number do not count,** so `4.30` is 4.3.
* `Version.parse?` — the whole text.  A browser context has the abilities of the embedded context one
  major version above its own, and is reported as such.
-/

namespace ShaderWeave

/-- A parsed version text. -/
structure Version where
  major : Nat
  minor : Nat
  embedded : Bool
  vendor : String
deriving DecidableEq, Repr

namespace Version

/-- What follows the first occurrence of a mark. -/
def afterFirst? (mark : List Char) : List Char → Option (List Char)
  | [] => none
  | c :: rest =>
    if mark.isPrefixOf (c :: rest) then some ((c :: rest).drop mark.length)
    else afterFirst? mark rest

/-- What follows the last occurrence of a mark. -/
def afterLast? (mark : List Char) : List Char → Option (List Char)
  | [] => none
  | c :: rest =>
    match afterLast? mark rest with
    | some found => some found
    | none =>
      if mark.isPrefixOf (c :: rest) then some ((c :: rest).drop mark.length) else none

/-- The mark of a context for embedded systems. -/
def embeddedMark : List Char := [' ', 'E', 'S', ' ']

/-- The mark at the start of the text of a browser context. -/
def browserMark : List Char := ['W', 'e', 'b', 'G', 'L', ' ']

/-- The mark of a shading language version in the text of a browser context. -/
def languageMark : List Char := ['G', 'L', 'S', 'L', ' ', 'E', 'S', ' ']

/-- The kinds of context, by the numbers their texts give. -/
inductive Kind where
  | desktop
  | embedded
  /-- A browser context that gives its own version. -/
  | browser
  /-- A browser context that gives the version of the embedded shading language. -/
  | browserLanguage
deriving DecidableEq, Repr

/-- The kind of context, and the text behind the marks of the kind. -/
def split (text : List Char) : Kind × List Char :=
  if browserMark.isPrefixOf text then
    let own := (afterLast? browserMark text).getD text
    match afterFirst? languageMark own with
    | some rest => (.browserLanguage, rest)
    | none => (.browser, own)
  else
    match afterLast? embeddedMark text with
    | some rest => (.embedded, rest)
    | none => (.desktop, text)

/-- The major version of a context, from the number its text gives. -/
def Kind.major (kind : Kind) (given : Nat) : Nat :=
  match kind with
  | browser => given + 1
  | _ => given

/-- Digits without a sign: an ASCII decimal number of 32 bits. -/
def digits? (digits : List Char) : Option Nat :=
  if digits.isEmpty || !digits.all Char.isDigit then none
  else
    let value := digits.foldl (fun n c => n * 10 + (c.toNat - 48)) 0
    if value < 4294967296 then some value else none

/-- A number; a plus sign may stand before its digits. -/
def number? : List Char → Option Nat
  | '+' :: digits => digits? digits
  | digits => digits? digits

/-- The minor number: zero if it starts so, else without the zeros at its end. -/
def minor? (digits : List Char) : Option Nat :=
  if digits.head? = some '0' then some 0
  else number? (digits.reverse.dropWhile (· == '0')).reverse

/-- Reads a version text. -/
def parse? (text : String) : Option Version := do
  let (kind, rest) := split text.toList
  let version := rest.takeWhile (· != ' ')
  let vendor := (rest.dropWhile (· != ' ')).drop 1
  let major ← number? (version.takeWhile (· != '.'))
  let minor ← minor? (((version.dropWhile (· != '.')).drop 1).takeWhile (· != '.'))
  return {
    major := kind.major major
    minor
    embedded := kind != .desktop
    vendor := String.ofList vendor }

end Version

end ShaderWeave
