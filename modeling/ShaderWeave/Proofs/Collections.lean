import Mathlib.Data.List.Nodup
import Mathlib.Tactic.Common
import ShaderWeave.Pipeline.Collection

/-!
# What the small collections hold

Facts about the collections that resolving and storing are built on, so that no later proof has to
open them.

**Property lists.**  Which names a list holds after `insert`, `extend` and `erase`, and where its
entries come from.  A name stands for one entry (`PropertyList.eq_of_name_eq`).

**Name maps.**  `NameMap.get?_insert`: a map answers for the last name inserted and is unchanged
elsewhere.  Maps that agree on every name are equal (`NameMap.eq_of_get?`), so the order in which
pairs with different keys come does not matter (`NameMap.ofList_eq_of_perm`).

**Type sets.**  Which types a set holds after `insert` and `insertAll`.

**Task collections.**  No two entries share a key, so a key and its entry determine each other
(`TaskCollection.entry?_eq_some_iff`).
-/

namespace ShaderWeave

namespace PropertyList

variable {list : PropertyList} {property : Property} {name : String}

@[simp] lemma contains_iff : list.contains name = true ↔ name ∈ list.names := by
  simp [contains]

@[simp] lemma names_empty : empty.names = [] := rfl

@[simp] lemma entries_empty : empty.entries = [] := rfl

lemma mem_names : name ∈ list.names ↔ ∃ p ∈ list.entries, p.name = name := by
  simp [names]

lemma name_mem_names (h : property ∈ list.entries) : property.name ∈ list.names :=
  mem_names.2 ⟨property, h, rfl⟩

/-- A name stands for one entry. -/
lemma eq_of_name_eq {p q : Property} (hp : p ∈ list.entries) (hq : q ∈ list.entries)
    (h : p.name = q.name) : p = q :=
  List.inj_on_of_nodup_map list.nodup hp hq h

lemma mem_solid : property ∈ list.solid ↔ property ∈ list.entries ∧ property.isVoid = false := by
  simp [solid]

/-- An insertion adds the property or changes nothing. -/
lemma entries_insert (list : PropertyList) (property : Property) :
    (list.insert property).entries = list.entries ∨
      (list.insert property).entries = list.entries ++ [property] := by
  unfold insert
  split
  · exact Or.inl rfl
  · exact Or.inr rfl

lemma entries_subset_insert (list : PropertyList) (property : Property) :
    list.entries ⊆ (list.insert property).entries := by
  rcases entries_insert list property with heq | heq
  · exact heq ▸ List.Subset.refl _
  · exact heq ▸ List.subset_append_left _ _

lemma mem_entries_of_insert {p : Property} (h : p ∈ (list.insert property).entries) :
    p ∈ list.entries ∨ p = property := by
  rcases entries_insert list property with heq | heq
  · exact Or.inl (heq ▸ h)
  · rw [heq, List.mem_append, List.mem_singleton] at h
    exact h

@[simp] lemma mem_names_insert :
    name ∈ (list.insert property).names ↔ name ∈ list.names ∨ name = property.name := by
  unfold insert
  split
  · next h =>
      constructor
      · exact Or.inl
      · rintro (hname | rfl)
        · exact hname
        · exact h
  · simp [names]

/-- Inserting a new name adds its property. -/
lemma mem_entries_insert {p : Property} (hnew : property.name ∉ list.names) :
    p ∈ (list.insert property).entries ↔ p ∈ list.entries ∨ p = property := by
  rw [insert, dif_neg hnew, List.mem_append, List.mem_singleton]

lemma mem_names_extend {properties : List Property} :
    name ∈ (list.extend properties).names ↔
      name ∈ list.names ∨ ∃ p ∈ properties, p.name = name := by
  unfold extend
  induction properties generalizing list with
  | nil => simp
  | cons p rest ih =>
      rw [List.foldl_cons, ih, mem_names_insert]
      simp only [List.mem_cons, exists_eq_or_imp, or_assoc, eq_comm (a := name)]

lemma mem_entries_of_extend {properties : List Property} {p : Property}
    (h : p ∈ (list.extend properties).entries) : p ∈ list.entries ∨ p ∈ properties := by
  unfold extend at h
  induction properties generalizing list with
  | nil => exact Or.inl h
  | cons q rest ih =>
      rcases ih h with hp | hp
      · rcases mem_entries_of_insert hp with hp | rfl
        · exact Or.inl hp
        · exact Or.inr List.mem_cons_self
      · exact Or.inr (List.mem_cons_of_mem _ hp)

lemma entries_erase (list : PropertyList) (name : String) :
    (list.erase name).entries = list.entries.filter (·.name != name) := rfl

lemma mem_entries_erase {p : Property} :
    p ∈ (list.erase name).entries ↔ p ∈ list.entries ∧ p.name ≠ name := by
  simp [erase]

@[simp] lemma mem_names_erase {other : String} :
    other ∈ (list.erase name).names ↔ other ∈ list.names ∧ other ≠ name := by
  simp only [mem_names, mem_entries_erase]
  constructor
  · rintro ⟨p, ⟨hp, hne⟩, rfl⟩
    exact ⟨⟨p, hp, rfl⟩, hne⟩
  · rintro ⟨⟨p, hp, rfl⟩, hne⟩
    exact ⟨p, ⟨hp, hne⟩, rfl⟩

lemma get?_eq_none : list.get? name = none ↔ name ∉ list.names := by
  simp [get?, mem_names]

lemma get?_eq_some (h : list.get? name = some property) :
    property ∈ list.entries ∧ property.name = name := by
  unfold get? at h
  exact ⟨List.mem_of_find?_eq_some h, by simpa using List.find?_some h⟩

lemma get?_eq_some_iff :
    list.get? name = some property ↔ property ∈ list.entries ∧ property.name = name := by
  refine ⟨get?_eq_some, ?_⟩
  rintro ⟨hmem, rfl⟩
  cases hget : list.get? property.name with
  | none => exact absurd (name_mem_names hmem) (get?_eq_none.1 hget)
  | some found =>
      obtain ⟨hfound, hname⟩ := get?_eq_some hget
      rw [eq_of_name_eq hfound hmem hname]

lemma eq_of_entries {first second : PropertyList} (h : first.entries = second.entries) :
    first = second := by
  cases first
  cases second
  cases h
  rfl

lemma insert_of_mem (h : property.name ∈ list.names) : list.insert property = list := dif_pos h

lemma entries_insert_of_notMem (h : property.name ∉ list.names) :
    (list.insert property).entries = list.entries ++ [property] := by
  rw [insert, dif_neg h]

/-- Where no name comes twice, everything is appended. -/
lemma entries_extend {properties : List Property}
    (h : ((list.entries ++ properties).map Property.name).Nodup) :
    (list.extend properties).entries = list.entries ++ properties := by
  induction properties generalizing list with
  | nil => exact (List.append_nil _).symm
  | cons property rest ih =>
      have hnew : property.name ∉ list.names := by
        rw [List.map_append, List.map_cons, List.nodup_middle, List.nodup_cons] at h
        exact fun hmem => h.1 (List.mem_append_left _ hmem)
      have hinsert := entries_insert_of_notMem hnew
      have hrest : ((list.insert property).extend rest).entries =
          (list.insert property).entries ++ rest :=
        ih (by rw [hinsert, List.append_assoc]; exact h)
      rw [hinsert, List.append_assoc] at hrest
      exact hrest

lemma entries_ofList {properties : List Property} (h : (properties.map Property.name).Nodup) :
    (ofList properties).entries = properties :=
  entries_extend h

end PropertyList

namespace NameMap

/-- Inserting a pair leaves no earlier pair with its key. -/
lemma find?_insertPair {key value name : String} (pairs : List (String × String)) :
    (insertPair key value pairs).find? (·.1 == name)
      = if name = key then some (key, value) else pairs.find? (·.1 == name) := by
  induction pairs with
  | nil =>
      by_cases h : name = key
      · simp [insertPair, h]
      · simp [insertPair, h, Ne.symm h]
  | cons pair rest ih =>
      unfold insertPair
      split
      · by_cases h : name = key
        · simp [h]
        · simp [h, List.find?_cons, Ne.symm h]
      · split
        · next heq =>
            by_cases h : name = key
            · simp [h]
            · simp [h, Ne.symm h, ← heq]
        · next hne =>
            by_cases h : name = key
            · subst h
              simpa [Ne.symm hne] using ih
            · simp [h, List.find?_cons, ih]

/-- A map answers for the last name inserted and is unchanged elsewhere. -/
lemma get?_insert (map : NameMap) (key value name : String) :
    (map.insert key value).get? name = if name = key then some value else map.get? name := by
  unfold get? insert
  rw [find?_insertPair]
  split_ifs with h
  · rfl
  · rfl

lemma get?_eq_some_mem {map : NameMap} {name value : String} (h : map.get? name = some value) :
    name ∈ map.pairs.map Prod.fst := by
  obtain ⟨pair, hfind, rfl⟩ := Option.map_eq_some_iff.1 h
  have hname : pair.1 = name := by simpa using List.find?_some hfind
  exact List.mem_map.2 ⟨pair, List.mem_of_find?_eq_some hfind, hname⟩

lemma nodup_keys (map : NameMap) : (map.pairs.map Prod.fst).Nodup := by
  refine List.pairwise_map.2 (map.ascending.imp ?_)
  intro a b hlt heq
  exact String.lt_irrefl _ (heq ▸ hlt)

/-- Where keys are different, the pair found under a key is the one that is there. -/
lemma find?_eq_some_iff {α : Type} {pairs : List (String × α)}
    (hnodup : (pairs.map Prod.fst).Nodup) {name : String} {value : α} :
    (pairs.find? (·.1 == name)).map (·.2) = some value ↔ (name, value) ∈ pairs := by
  constructor
  · intro h
    obtain ⟨⟨key, found⟩, hfind, rfl⟩ := Option.map_eq_some_iff.1 h
    obtain rfl : key = name := by simpa using List.find?_some hfind
    exact List.mem_of_find?_eq_some hfind
  · intro hmem
    cases hfind : pairs.find? (·.1 == name) with
    | none => simpa using List.find?_eq_none.1 hfind _ hmem
    | some pair =>
        have hname : pair.1 = name := by simpa using List.find?_some hfind
        rw [List.inj_on_of_nodup_map hnodup (List.mem_of_find?_eq_some hfind) hmem hname]
        rfl

lemma get?_eq_some_iff {map : NameMap} {name value : String} :
    map.get? name = some value ↔ (name, value) ∈ map.pairs :=
  find?_eq_some_iff map.nodup_keys

/-- **Maps that agree on every name are equal,** because ascending lists with the same members are. -/
lemma eq_of_get? {map other : NameMap} (h : ∀ name, map.get? name = other.get? name) :
    map = other := by
  have hperm : map.pairs.Perm other.pairs := by
    refine (List.perm_ext_iff_of_nodup map.nodup_keys.of_map other.nodup_keys.of_map).2 ?_
    rintro ⟨name, value⟩
    rw [← get?_eq_some_iff, ← get?_eq_some_iff, h name]
  have heq : map.pairs = other.pairs := by
    refine hperm.eq_of_pairwise ?_ map.ascending other.ascending
    intro a b _ _ hlt hgt
    exact absurd (String.lt_trans hlt hgt) (String.lt_irrefl _)
  cases map
  cases other
  cases heq
  rfl

/-- A map made from pairs answers with the last pair that has the name. -/
lemma get?_ofList (pairs : List (String × String)) (name : String) :
    (ofList pairs).get? name = (pairs.reverse.find? (·.1 == name)).map (·.2) := by
  suffices h : ∀ map : NameMap, (pairs.foldl (fun map pair => map.insert pair.1 pair.2) map).get? name
      = ((pairs.reverse.find? (·.1 == name)).map (·.2)).or (map.get? name) by
    rw [ofList, h, show empty.get? name = none from rfl, Option.or_none]
  induction pairs with
  | nil => exact fun map => rfl
  | cons pair rest ih =>
      intro map
      rw [List.foldl_cons, ih, get?_insert, List.reverse_cons, List.find?_append, Option.map_or,
        Option.or_assoc]
      congr 1
      by_cases heq : name = pair.1
      · simp [heq]
      · simp [heq, Ne.symm heq]

/-- Pairs with different keys make the same map in whatever order they come. -/
lemma ofList_eq_of_perm {pairs pairs' : List (String × String)}
    (hnodup : (pairs.map Prod.fst).Nodup) (hperm : pairs.Perm pairs') :
    ofList pairs = ofList pairs' := by
  have hmem : ∀ {list : List (String × String)} {name value : String}, (list.map Prod.fst).Nodup →
      ((ofList list).get? name = some value ↔ (name, value) ∈ list) := by
    intro list name value hlist
    rw [get?_ofList, find?_eq_some_iff, List.mem_reverse]
    rw [List.map_reverse, List.nodup_reverse]
    exact hlist
  refine eq_of_get? fun name => Option.ext fun value => ?_
  rw [hmem hnodup, hmem ((hperm.map Prod.fst).nodup_iff.1 hnodup), hperm.mem_iff]

end NameMap

namespace TaskCollection

variable {collection : TaskCollection} {entry : TaskEntry} {key : TaskKey} {task : Task}

/-- No two entries share a key. -/
lemma eq_of_key_eq {e e' : TaskEntry} (he : e ∈ collection.entries)
    (he' : e' ∈ collection.entries) (h : e.key = e'.key) : e = e' := by
  have hslots := (List.nodup_append.1 collection.nodup).1
  exact List.inj_on_of_nodup_map hslots he he' (congrArg TaskKey.slot h)

lemma entry?_eq_some_iff :
    collection.entry? key = some entry ↔ entry ∈ collection.entries ∧ entry.key = key := by
  unfold entry?
  constructor
  · intro h
    exact ⟨List.mem_of_find?_eq_some h, by simpa using List.find?_some h⟩
  · rintro ⟨hmem, rfl⟩
    cases hfind : collection.entries.find? (·.key == entry.key) with
    | none => simpa using List.find?_eq_none.1 hfind entry hmem
    | some found =>
        have hkey : found.key = entry.key := by simpa using List.find?_some hfind
        rw [eq_of_key_eq (List.mem_of_find?_eq_some hfind) hmem hkey]

lemma task?_eq_some_iff :
    collection.task? key = some task ↔
      ∃ entry ∈ collection.entries, entry.key = key ∧ entry.task = task := by
  unfold task?
  simp only [Option.map_eq_some_iff, entry?_eq_some_iff, and_assoc]

lemma task?_key (h : entry ∈ collection.entries) :
    collection.task? entry.key = some entry.task :=
  task?_eq_some_iff.2 ⟨entry, h, rfl, rfl⟩

end TaskCollection

/-! ## Sets of types -/

namespace TypeSet

lemma mem_insert {set : TypeSet} {type other : HostType} :
    other ∈ (set.insert type).order ↔ other ∈ set.order ∨ other = type := by
  rw [insert]
  split
  · next h =>
      constructor
      · exact Or.inl
      · rintro (hother | rfl)
        · exact hother
        · exact h
  · simp

lemma mem_insertAll {set : TypeSet} {types : List HostType} {other : HostType} :
    other ∈ (set.insertAll types).order ↔ other ∈ set.order ∨ other ∈ types := by
  induction types generalizing set with
  | nil => simp [insertAll]
  | cons type types ih =>
      rw [insertAll, List.foldl_cons, ← insertAll, ih, mem_insert, List.mem_cons, or_assoc]

end TypeSet

end ShaderWeave
