/-!
# Maps between names

A `NameMap` sends names to names.  Its pairs are kept in ascending order of their keys, **so there is
one representation per map:** maps are equal exactly when they agree on every name, whatever the
order in which their pairs were inserted.
-/

namespace ShaderWeave

/-- Puts a pair at its place, instead of a pair with the same key. -/
def insertPair (key value : String) : List (String × String) → List (String × String)
  | [] => [(key, value)]
  | pair :: rest =>
    if key < pair.1 then (key, value) :: pair :: rest
    else if key = pair.1 then (key, value) :: rest
    else pair :: insertPair key value rest

theorem mem_insertPair {key value : String} {pairs : List (String × String)}
    {p : String × String} (h : p ∈ insertPair key value pairs) : p = (key, value) ∨ p ∈ pairs := by
  induction pairs with
  | nil => simp [insertPair] at h; exact .inl h
  | cons pair rest ih =>
    rw [insertPair] at h
    split at h
    · rcases List.mem_cons.1 h with h | h
      · exact .inl h
      · exact .inr h
    · split at h
      · rcases List.mem_cons.1 h with h | h
        · exact .inl h
        · exact .inr (List.mem_cons_of_mem _ h)
      · rcases List.mem_cons.1 h with h | h
        · exact .inr (h ▸ List.mem_cons_self)
        · rcases ih h with h | h
          · exact .inl h
          · exact .inr (List.mem_cons_of_mem _ h)

theorem pairwise_insertPair {key value : String} {pairs : List (String × String)}
    (h : pairs.Pairwise (·.1 < ·.1)) : (insertPair key value pairs).Pairwise (·.1 < ·.1) := by
  induction pairs with
  | nil => simp [insertPair]
  | cons pair rest ih =>
    obtain ⟨hhead, htail⟩ := List.pairwise_cons.1 h
    rw [insertPair]
    split
    · next hlt =>
      refine List.pairwise_cons.2 ⟨?_, h⟩
      intro p hp
      rcases List.mem_cons.1 hp with rfl | hp
      · exact hlt
      · exact String.lt_trans hlt (hhead p hp)
    · next hlt =>
      split
      · next heq => exact List.pairwise_cons.2 ⟨fun p hp => heq ▸ hhead p hp, htail⟩
      · next hne =>
        refine List.pairwise_cons.2 ⟨?_, ih htail⟩
        intro p hp
        rcases mem_insertPair hp with rfl | hp
        · rcases String.le_total pair.1 key with hle | hle
          · exact Decidable.not_not.1 fun hnot =>
              hne (String.le_antisymm (String.not_lt.1 hnot) hle)
          · exact absurd (String.le_antisymm hle (String.not_lt.1 hlt)) hne
        · exact hhead p hp

/-- A map from names to names. -/
structure NameMap where
  pairs : List (String × String)
  ascending : pairs.Pairwise (·.1 < ·.1)
deriving DecidableEq

namespace NameMap

/-- The map without pairs. -/
def empty : NameMap := ⟨[], .nil⟩

/-- What a name is sent to. -/
def get? (map : NameMap) (name : String) : Option String :=
  (map.pairs.find? (·.1 == name)).map (·.2)

/-- Sends a name to another one, whatever it was sent to before. -/
def insert (map : NameMap) (key value : String) : NameMap :=
  ⟨insertPair key value map.pairs, pairwise_insertPair map.ascending⟩

/-- A map from pairs, of which a later one replaces an earlier one with the same key. -/
def ofList (pairs : List (String × String)) : NameMap :=
  pairs.foldl (fun map pair => map.insert pair.1 pair.2) empty

/-- Number of pairs. -/
def size (map : NameMap) : Nat := map.pairs.length

end NameMap

end ShaderWeave
