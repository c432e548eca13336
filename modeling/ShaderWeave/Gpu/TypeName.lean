import ShaderWeave.Digest
import ShaderWeave.Text.Hexadecimal

/-!
# GLSL names for host types

A struct is named after its host type.  Brackets, stars and commas become digits and underscores,
and other characters that GLSL does not take in a name are dropped.  **A name that had to change gets
the digest of the whole name behind it,** so that names that only look alike stay apart.
-/

namespace ShaderWeave.TypeName

/-- Characters that stay as they are. -/
def isKept (c : Char) : Bool := c.isAlphanum

/-- What stands for a character of the host name. -/
def mangleChar (c : Char) : List Char :=
  if isKept c then [c]
  else
    match c with
    | '<' => ['4']
    | '>' => ['7']
    | '*' => ['2']
    | ',' => ['_', '_']
    | _ => []

/-- The characters of the GLSL name, without the digest. -/
def mangle (name : String) : List Char := name.toList.flatMap mangleChar

/-- The digest of a name. -/
def nameDigest (name : String) : UInt64 := (Digest.empty.text name).finish

/-- The GLSL name of a host type. -/
def ofHostName (name : String) : String :=
  let mangled := String.ofList (mangle name)
  if name.toList.all isKept then mangled
  else mangled ++ "_" ++ Text.hex (nameDigest name).toNat

end ShaderWeave.TypeName
