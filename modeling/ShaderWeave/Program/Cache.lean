import ShaderWeave.Program.Compile

/-!
# The program cache

A `ProgramCache` holds programs by everything that shaped them (`ProgramKey`).  It owns its programs:
an entry that is evicted takes its device program with it.  **A compile that fails leaves no entry**, so
it is tried again when it is asked for again.
-/

namespace ShaderWeave

/-- Programs by key. -/
structure ProgramCache where
  entries : List (ProgramKey × Program) := []
  /-- Number of compiles that were tried. -/
  compileCount : Nat := 0

/-- A cache, and what it compiles with. -/
structure CachedWorkshop (σ : Type) where
  cache : ProgramCache := {}
  workshop : Workshop σ

namespace ProgramCache

variable {σ : Type} [Device σ]

/-- The cache without programs. -/
def empty : ProgramCache := {}

/-- The program of a key, if it is there. -/
def get? (cache : ProgramCache) (key : ProgramKey) : Option Program :=
  (cache.entries.find? (·.1 == key)).map (·.2)

/-- Number of programs. -/
def size (cache : ProgramCache) : Nat := cache.entries.length

/-- The program of a key, compiled if it is not there. -/
def retrieve (setting : Setting) (key : ProgramKey) :
    EStateM ShaderError (CachedWorkshop σ) Program := fun state =>
  match state.cache.get? key with
  | some program =>
    let workshop := state.workshop
    .ok program { state with workshop := { workshop with
      events := workshop.events ++ [.cacheHit] } }
  | none =>
    let tried := { state.cache with compileCount := state.cache.compileCount + 1 }
    match compile setting key.stages key.desired state.workshop with
    | .error error workshop => .error error { cache := tried, workshop }
    | .ok program workshop =>
      .ok program { cache := { tried with entries := tried.entries ++ [(key, program)] }, workshop }

/-- Deletes a program on the device. -/
def delete (workshop : Workshop σ) (program : Program) : Workshop σ :=
  { workshop with device := (ask (.deleteProgram program.name) workshop.device).2 }

/-- Drops the entry of a key with its program; says whether there was one. -/
def evict (key : ProgramKey) (state : CachedWorkshop σ) : Bool × CachedWorkshop σ :=
  match state.cache.get? key with
  | none => (false, state)
  | some program =>
    (true,
      { cache := { state.cache with entries := state.cache.entries.filter (·.1 != key) }
        workshop := delete state.workshop program })

/-- Drops all entries with their programs. -/
def clear (state : CachedWorkshop σ) : CachedWorkshop σ where
  cache := { state.cache with entries := [] }
  workshop := (state.cache.entries.map (·.2)).foldl delete state.workshop

end ProgramCache

end ShaderWeave
