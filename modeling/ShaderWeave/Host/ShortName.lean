import ShaderWeave.Text.Alphanumeric

/-!
# Short names of host types

A qualified name is a text in which names stand behind paths: `a::b::Pair<c::Vec4, f32>`.  The
short name keeps of every path only what follows its last `::` and all other characters as they
are: `Pair<Vec4, f32>`.
-/

namespace ShaderWeave.Host

/-- Characters that names and paths are made of. -/
def isPathChar (c : Char) : Bool := Text.isAlphanumeric c || c == '_' || c == ':'

/-- What follows the last `::`, if there is one. -/
def afterPath? : List Char → Option (List Char)
  | [] => none
  | c :: rest =>
    match afterPath? rest with
    | some found => some found
    | none =>
      match c, rest with
      | ':', ':' :: found => some found
      | _, _ => none

/-- The last segment of a path. -/
def lastSegment (path : List Char) : List Char := (afterPath? path).getD path

/-- Shortens the rest of a text, `path` being the path read so far. -/
def shortenFrom (path : List Char) : List Char → List Char
  | [] => lastSegment path
  | c :: rest =>
    if isPathChar c then shortenFrom (path ++ [c]) rest
    else lastSegment path ++ c :: shortenFrom [] rest

/-- The name with every path removed. -/
def shortName (name : String) : String := String.ofList (shortenFrom [] name.toList)

end ShaderWeave.Host
