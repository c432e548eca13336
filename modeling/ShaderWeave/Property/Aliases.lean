import ShaderWeave.Digest
import ShaderWeave.Property.NameMap
import ShaderWeave.Text.Quoted

/-!
# Layered aliases

An alias table renames properties.  It has a layer of its own and, below it, parent tables in
order: a name is looked up in the own layer first, then in the first parent with all its ancestors,
then in the second, and so on (`Aliases.direct?`).

The choice for a name (`Aliases.choice`) follows the mappings from the top again and again, until a
name has none.  **A cycle stops at the last name not met before,** so every chain has an end.
-/

namespace ShaderWeave

/-- A layered table of aliases. -/
inductive Aliases where
  | layered (parents : List Aliases) (own : NameMap)

namespace Aliases

/-- The table without aliases. -/
def empty : Aliases := layered [] .empty

/-- A table of one layer. -/
def ofList (pairs : List (String × String)) : Aliases := layered [] (.ofList pairs)

/-- The parent tables. -/
def parents : Aliases → List Aliases
  | layered parents _ => parents

/-- The own layer. -/
def own : Aliases → NameMap
  | layered _ own => own

/-! ## Looking up a name -/

mutual

/-- The mapping of a name: that of the own layer, else that of the first parent that has one. -/
def direct? (name : String) : Aliases → Option String
  | layered parents own =>
    match own.get? name with
    | some choice => some choice
    | none => directOf? name parents
termination_by structural aliases => aliases

/-- The mapping of a name in the first of several tables that has one. -/
def directOf? (name : String) : List Aliases → Option String
  | [] => none
  | table :: rest =>
    match direct? name table with
    | some choice => some choice
    | none => directOf? name rest
termination_by structural tables => tables

end

mutual

/-- Number of pairs in all layers; no chain of mappings is longer. -/
def size : Aliases → Nat
  | layered parents own => own.size + sizeAll parents
termination_by structural aliases => aliases

/-- Number of pairs in several tables. -/
def sizeAll : List Aliases → Nat
  | [] => 0
  | table :: rest => size table + sizeAll rest
termination_by structural tables => tables

end

/-- Follows at most `fuel` mappings from `current`; `seen` are the names met so far. -/
def follow (aliases : Aliases) : Nat → List String → String → String
  | 0, _, current => current
  | fuel + 1, seen, current =>
    match aliases.direct? current with
    | none => current
    | some next =>
      if next ∈ seen then current else follow aliases fuel (next :: seen) next

/-- The name that stands for `name` in the end. -/
def choice (aliases : Aliases) (name : String) : String :=
  aliases.follow aliases.size [name] name

/-! ## Equality, digest and text -/

mutual

/-- Two tables are the same when their own layers are and their parents are, one by one. -/
def same : Aliases → Aliases → Bool
  | layered parents own, layered parents' own' => own == own' && sameAll parents parents'
termination_by structural aliases => aliases

/-- The same tables one by one. -/
def sameAll : List Aliases → List Aliases → Bool
  | [], [] => true
  | table :: rest, table' :: rest' => same table table' && sameAll rest rest'
  | _, _ => false
termination_by structural tables => tables

end

mutual

theorem eq_of_same : ∀ {a b : Aliases}, same a b = true → a = b
  | layered parents own, layered parents' own', h => by
    rw [same, Bool.and_eq_true] at h
    rw [eq_of_beq h.1, eq_of_sameAll h.2]

theorem eq_of_sameAll : ∀ {as bs : List Aliases}, sameAll as bs = true → as = bs
  | [], [], _ => rfl
  | a :: as, b :: bs, h => by
    rw [sameAll, Bool.and_eq_true] at h
    rw [eq_of_same h.1, eq_of_sameAll h.2]
  | [], _ :: _, h => by simp [sameAll] at h
  | _ :: _, [], h => by simp [sameAll] at h

end

mutual

theorem same_refl : ∀ a : Aliases, same a a = true
  | layered parents own => by simp [same, sameAll_refl parents]

theorem sameAll_refl : ∀ as : List Aliases, sameAll as as = true
  | [] => rfl
  | a :: as => by simp [sameAll, same_refl a, sameAll_refl as]

end

instance : DecidableEq Aliases := fun a b =>
  if h : same a b = true then .isTrue (eq_of_same h)
  else .isFalse fun heq => h (heq ▸ same_refl a)

mutual

/-- No layer has a pair. -/
def isEmpty : Aliases → Bool
  | layered parents own => own.pairs.isEmpty && allEmpty parents
termination_by structural aliases => aliases

/-- No layer of several tables has a pair. -/
def allEmpty : List Aliases → Bool
  | [] => true
  | table :: rest => isEmpty table && allEmpty rest
termination_by structural tables => tables

end

mutual

/-- Adds a table to a digest: the parents first, then the pairs of the own layer in order. -/
def digest : Aliases → Digest → Digest
  | layered parents own, d =>
    own.pairs.foldl (fun d pair => (d.text pair.1).text pair.2)
      ((digestAll parents (d.size parents.length)).size own.size)
termination_by structural aliases => aliases

/-- Adds several tables to a digest. -/
def digestAll : List Aliases → Digest → Digest
  | [], d => d
  | table :: rest, d => digestAll rest (digest table d)
termination_by structural tables => tables

end

/-- The digest of a whole table. -/
def hash (aliases : Aliases) : UInt64 := (aliases.digest .empty).finish

/-- A pair as a text. -/
def describePair (pair : String × String) : String :=
  "(" ++ Text.quote pair.1 ++ ", " ++ Text.quote pair.2 ++ ")"

mutual

/-- The table as a text. -/
def describe : Aliases → String
  | layered parents own =>
    "ParamAliases \x7b own: [" ++ String.intercalate ", " (own.pairs.map describePair)
      ++ "], parents: [" ++ String.intercalate ", " (describeAll parents) ++ "] \x7d"
termination_by structural aliases => aliases

/-- Several tables as texts. -/
def describeAll : List Aliases → List String
  | [] => []
  | table :: rest => describe table :: describeAll rest
termination_by structural tables => tables

end

end Aliases

end ShaderWeave
