/-!
# What a device can do

`DeviceInfo` is what a graphics context tells about itself: its version, its vendor, its extensions
and its limits.  From the version follow the GLSL version to generate and whether the context has
what programs need at all: compute shaders, storage buffers and explicit bindings.
-/

namespace ShaderWeave

/-- What a graphics context tells about itself. -/
structure DeviceInfo where
  major : Nat
  minor : Nat
  /-- The context is one for embedded systems. -/
  embedded : Bool
  vendor : String
  extensions : List String
  maxTextureUnits : Nat
  maxUniformBlockSize : Nat
  maxStorageBuffers : Nat
  maxGroupInvocations : Nat
deriving DecidableEq, Repr

namespace DeviceInfo

/-- The capabilities of an ideal desktop context. -/
def ideal : DeviceInfo where
  major := 4
  minor := 6
  embedded := false
  vendor := "headless"
  extensions := []
  maxTextureUnits := 32
  maxUniformBlockSize := 65536
  maxStorageBuffers := 16
  maxGroupInvocations := 1024

/-- The version is at least the given one. -/
def atLeast (info : DeviceInfo) (major minor : Nat) : Bool :=
  decide (major < info.major) || (info.major == major && decide (minor ≤ info.minor))

/-- The GLSL version to generate. -/
def glslVersion (info : DeviceInfo) : Nat :=
  let own := info.major * 100 + info.minor * 10
  if info.embedded then
    if info.atLeast 3 0 then own else 100
  else if info.atLeast 3 3 then own
  else if info.atLeast 3 2 then 150
  else if info.atLeast 3 1 then 140
  else 130

/-- The context has compute shaders, storage buffers and explicit bindings. -/
def isSupported (info : DeviceInfo) : Bool :=
  if info.embedded then info.atLeast 3 1
  else info.atLeast 4 3 || info.extensions.contains "GL_ARB_compute_shader"

end DeviceInfo

end ShaderWeave
