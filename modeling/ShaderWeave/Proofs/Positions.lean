import ShaderWeave.Property.Indexed
import ShaderWeave.Proofs.Collections

/-!
# Where the properties of a list stand

An indexed list notes the position of every name.  The note has to be right after every edit, and a
removal changes the positions of all properties behind the hole.

* `IndexedList.Exact` — **the index holds the names with their positions and nothing else.**  So names
  are different (`IndexedList.Exact.nodup_names`), and what the index finds is what a search finds.
* `IndexedList.Exact.insert`, `IndexedList.Exact.remove` — the two edits that change something keep
  this; the others are insertions one after the other.
* `Edit.view_indexed` — an edit of the list is the edit of what it shows.
* `IndexedList.Answers` — what the operations answer, told from the properties in order alone.
* `IndexedList.answers_of_edits` — **after any edits the index is exact,** the answers are right and
  the list is the `PropertyList` that the same edits make.
-/

namespace ShaderWeave

/-! ## Indexes -/

namespace Index

variable {index : Index} {name other : String} {i hole : Nat}

/-- Positions behind a hole move one place up. -/
def closed (hole position : Nat) : Nat := if hole < position then position - 1 else position

lemma mem_erase : (other, i) ∈ index.erase name ↔ (other, i) ∈ index ∧ other ≠ name := by
  simp [erase]

lemma mem_insert {position : Nat} : (other, i) ∈ index.insert name position ↔
    other = name ∧ i = position ∨ (other, i) ∈ index ∧ other ≠ name := by
  rw [insert, List.mem_cons, Prod.mk.injEq, mem_erase]

lemma mem_close : (other, i) ∈ index.close hole ↔
    ∃ position, (other, position) ∈ index ∧ closed hole position = i := by
  simp [close, closed]

lemma keys_close (index : Index) (hole : Nat) :
    (index.close hole).map Prod.fst = index.map Prod.fst := by
  simp [close, Function.comp_def]

lemma nodup_erase (h : (index.map Prod.fst).Nodup) (name : String) :
    ((index.erase name).map Prod.fst).Nodup :=
  h.sublist (List.filter_sublist.map _)

lemma nodup_insert (h : (index.map Prod.fst).Nodup) (name : String) (position : Nat) :
    ((index.insert name position).map Prod.fst).Nodup := by
  rw [insert, List.map_cons, List.nodup_cons]
  refine ⟨fun hmem => ?_, nodup_erase h name⟩
  obtain ⟨⟨other, i⟩, hpair, rfl⟩ := List.mem_map.1 hmem
  exact (mem_erase.1 hpair).2 rfl

/-- An index answers with the position that it holds. -/
lemma position?_eq_some_iff (h : (index.map Prod.fst).Nodup) :
    index.position? name = some i ↔ (name, i) ∈ index :=
  NameMap.find?_eq_some_iff h

end Index

namespace IndexedList

variable {list other : IndexedList} {property : Property} {name : String} {i j : Nat}

/-- The name of the property at a place. -/
def nameAt? (list : IndexedList) (i : Nat) : Option String := list.entries[i]?.map Property.name

/-- **The index holds the names with their positions and nothing else.** -/
structure Exact (list : IndexedList) : Prop where
  nodup : (list.index.map Prod.fst).Nodup
  mem_iff : ∀ {name : String} {i : Nat}, (name, i) ∈ list.index ↔ list.nameAt? i = some name

lemma nameAt?_eq_some_iff :
    list.nameAt? i = some name ↔ ∃ property, list.entries[i]? = some property ∧ property.name = name :=
  Option.map_eq_some_iff

lemma exact_empty : empty.Exact := ⟨List.nodup_nil, by simp [empty, nameAt?]⟩

/-! ## What an exact index finds -/

namespace Exact

lemma position?_eq_some_iff (h : list.Exact) :
    list.position? name = some i ↔ list.nameAt? i = some name :=
  (Index.position?_eq_some_iff h.nodup).trans h.mem_iff

/-- A name stands at one place. -/
lemma place_unique (h : list.Exact) (hi : list.nameAt? i = some name)
    (hj : list.nameAt? j = some name) : i = j := by
  rw [← h.position?_eq_some_iff] at hi hj
  rw [hi] at hj
  exact Option.some.inj hj

lemma nodup_names (h : list.Exact) : (list.entries.map Property.name).Nodup := by
  rw [List.nodup_iff_getElem?_ne_getElem?]
  intro i j hlt hj heq
  have hname : (list.entries.map Property.name)[i]? = some (list.entries.map Property.name)[j] := by
    rw [heq, List.getElem?_eq_getElem hj]
  rw [hname] at heq
  rw [List.getElem?_map] at hname heq
  exact Nat.ne_of_lt hlt (h.place_unique hname heq.symm)

/-- Whoever finds a name by its position finds it by a search. -/
lemma position?_eq (h : list.Exact) (name : String) :
    list.position? name = list.entries.findIdx? (·.name == name) := by
  refine Option.ext fun i => ?_
  rw [h.position?_eq_some_iff, nameAt?_eq_some_iff, List.findIdx?_eq_some_iff_getElem]
  constructor
  · rintro ⟨property, hi, hname⟩
    obtain ⟨hlt, rfl⟩ := List.getElem?_eq_some_iff.1 hi
    refine ⟨hlt, by simpa using hname, fun j hj hother => Nat.ne_of_lt hj ?_⟩
    have hother : list.nameAt? j = some name :=
      nameAt?_eq_some_iff.2 ⟨_, List.getElem?_eq_getElem _, by simpa using hother⟩
    exact h.place_unique hother (nameAt?_eq_some_iff.2 ⟨_, hi, hname⟩)
  · rintro ⟨hlt, hname, -⟩
    exact ⟨_, List.getElem?_eq_getElem hlt, by simpa using hname⟩

lemma contains_eq (h : list.Exact) (name : String) :
    list.contains name = list.entries.any (·.name == name) := by
  rw [contains, h.position?_eq, List.findIdx?_isSome]

lemma contains_iff (h : list.Exact) :
    list.contains name = true ↔ name ∈ list.entries.map Property.name := by
  simp [h.contains_eq]

lemma entries_view (h : list.Exact) : list.view.entries = list.entries :=
  PropertyList.entries_ofList h.nodup_names

lemma names_view (h : list.Exact) : list.view.names = list.entries.map Property.name := by
  rw [PropertyList.names, h.entries_view]

lemma get?_eq (h : list.Exact) (name : String) : list.get? name = list.view.get? name := by
  refine Option.ext fun property => ?_
  rw [PropertyList.get?_eq_some_iff, h.entries_view, get?, Option.bind_eq_some_iff,
    List.mem_iff_getElem?]
  constructor
  · rintro ⟨i, hi, hproperty⟩
    obtain ⟨found, hfound, hname⟩ := nameAt?_eq_some_iff.1 (h.position?_eq_some_iff.1 hi)
    rw [hproperty] at hfound
    cases hfound
    exact ⟨⟨i, hproperty⟩, hname⟩
  · rintro ⟨⟨i, hi⟩, hname⟩
    exact ⟨i, h.position?_eq_some_iff.2 (nameAt?_eq_some_iff.2 ⟨property, hi, hname⟩), hi⟩

end Exact

/-! ## Insertions -/

lemma insert_of_contains (h : list.contains property.name = true) :
    list.insert property = (false, list) :=
  if_pos h

lemma insert_of_not_contains (h : ¬ list.contains property.name = true) :
    list.insert property = (true, ⟨list.entries ++ [property],
      list.index.insert property.name list.entries.length⟩) :=
  if_neg h

/-- A name of a longer list is an old one or stands at the end. -/
lemma nameAt?_append (list : IndexedList) (property : Property) (index : Index) :
    nameAt? ⟨list.entries ++ [property], index⟩ i = some name ↔
      list.nameAt? i = some name ∨ name = property.name ∧ i = list.entries.length := by
  rcases Nat.lt_trichotomy i list.entries.length with hlt | rfl | hgt
  · rw [nameAt?, List.getElem?_append_left hlt]
    simp [nameAt?, Nat.ne_of_lt hlt]
  · simp [nameAt?, eq_comm]
  · have hlength : (list.entries ++ [property]).length ≤ i := by
      rw [List.length_append, List.length_singleton]
      exact hgt
    rw [nameAt?, List.getElem?_eq_none hlength, nameAt?, List.getElem?_eq_none (Nat.le_of_lt hgt)]
    simp [Nat.ne_of_gt hgt]

namespace Exact

/-- An insertion keeps the index exact. -/
lemma insert (h : list.Exact) (property : Property) : (list.insert property).2.Exact := by
  by_cases hcontains : list.contains property.name = true
  · rw [insert_of_contains hcontains]
    exact h
  · rw [insert_of_not_contains hcontains]
    refine ⟨Index.nodup_insert h.nodup _ _, fun {name i} => ?_⟩
    rw [nameAt?_append, Index.mem_insert, h.mem_iff, or_comm]
    -- a name that was there is not the new one
    refine or_congr_left (and_iff_left_of_imp fun hi hname => hcontains ?_)
    rw [contains, h.position?_eq_some_iff.2 (hname ▸ hi), Option.isSome_some]

lemma view_insert (h : list.Exact) (property : Property) :
    (list.insert property).2.view = list.view.insert property := by
  by_cases hcontains : list.contains property.name = true
  · have hmem := h.contains_iff.1 hcontains
    rw [← h.names_view] at hmem
    rw [insert_of_contains hcontains, PropertyList.insert_of_mem hmem]
  · have hnew := mt h.contains_iff.2 hcontains
    rw [← h.names_view] at hnew
    refine PropertyList.eq_of_entries ?_
    rw [(h.insert property).entries_view, insert_of_not_contains hcontains,
      PropertyList.entries_insert_of_notMem hnew, h.entries_view]

lemma extend (h : list.Exact) (properties : List Property) : (list.extend properties).Exact :=
  List.foldlRecOn properties _ h fun _ hlist property _ => hlist.insert property

lemma view_extend (h : list.Exact) (properties : List Property) :
    (list.extend properties).view = list.view.extend properties := by
  induction properties generalizing list with
  | nil => rfl
  | cons property rest ih =>
      have hrest := ih (h.insert property)
      rw [h.view_insert] at hrest
      exact hrest

end Exact

/-! ## Removals -/

lemma remove_of_none (h : list.position? name = none) : list.remove name = (none, list) := by
  rw [remove, h]

lemma remove_of_some {hole : Nat} (h : list.position? name = some hole) :
    list.remove name = (list.entries[hole]?,
      ⟨list.entries.eraseIdx hole, (list.index.erase name).close hole⟩) := by
  rw [remove, h]

/-- The place before the removal of what now stands at `i`. -/
def opened (hole i : Nat) : Nat := if i < hole then i else i + 1

lemma opened_ne (hole i : Nat) : opened hole i ≠ hole := by
  rw [opened]
  split_ifs <;> omega

lemma closed_eq_iff {hole position : Nat} (hne : position ≠ hole) :
    Index.closed hole position = i ↔ position = opened hole i := by
  rw [Index.closed, opened]
  split_ifs <;> omega

lemma nameAt?_eraseIdx (list : IndexedList) (hole i : Nat) (index : Index) :
    nameAt? ⟨list.entries.eraseIdx hole, index⟩ i = list.nameAt? (opened hole i) := by
  rw [nameAt?, List.getElem?_eraseIdx, nameAt?, opened]
  split_ifs <;> rfl

/-- Where names are different, to drop a place is to drop its name. -/
lemma eraseIdx_eq_filter {properties : List Property} {hole : Nat}
    (hnodup : (properties.map Property.name).Nodup) (hget : properties[hole]? = some property) :
    properties.eraseIdx hole = properties.filter (·.name != property.name) := by
  induction properties generalizing hole with
  | nil => simp at hget
  | cons first rest ih =>
      obtain ⟨hfirst, hrest⟩ := List.nodup_cons.1 hnodup
      cases hole with
      | zero =>
          obtain rfl : first = property := by simpa using hget
          rw [List.eraseIdx_cons_zero, List.filter_cons_of_neg (by simp), List.filter_eq_self.2]
          intro other hother
          exact bne_iff_ne.2 fun heq => hfirst (heq ▸ List.mem_map_of_mem hother)
      | succ hole =>
          rw [List.getElem?_cons_succ] at hget
          have hne : first.name ≠ property.name := fun heq =>
            hfirst (heq ▸ List.mem_map_of_mem (List.mem_of_getElem? hget))
          rw [List.eraseIdx_cons_succ, List.filter_cons_of_pos (by simpa using hne), ih hrest hget]

namespace Exact

/-- A removal keeps the index exact: no other name stood at the hole. -/
lemma remove (h : list.Exact) (name : String) : (list.remove name).2.Exact := by
  cases hposition : list.position? name with
  | none =>
      rw [remove_of_none hposition]
      exact h
  | some hole =>
      have hhole := h.position?_eq_some_iff.1 hposition
      rw [remove_of_some hposition]
      refine ⟨?_, fun {other i} => ?_⟩
      · rw [Index.keys_close]
        exact Index.nodup_erase h.nodup name
      · rw [nameAt?_eraseIdx, Index.mem_close]
        -- `closed` and `opened` undo each other only off the hole, so both ways have to show that
        -- the name at hand is not the one that goes
        constructor
        · rintro ⟨position, hmem, hclosed⟩
          obtain ⟨hmem, hother⟩ := Index.mem_erase.1 hmem
          have hname := h.mem_iff.1 hmem
          have hne : position ≠ hole := by
            rintro rfl
            rw [hhole] at hname
            exact hother (Option.some.inj hname).symm
          rw [← (closed_eq_iff hne).1 hclosed]
          exact hname
        · intro hname
          have hother : other ≠ name := by
            rintro rfl
            exact opened_ne hole i (h.place_unique hname hhole)
          exact ⟨_, Index.mem_erase.2 ⟨h.mem_iff.2 hname, hother⟩,
            (closed_eq_iff (opened_ne hole i)).2 rfl⟩

/-- What is left are the properties with other names, in the same order. -/
lemma entries_remove (h : list.Exact) (name : String) :
    (list.remove name).2.entries = list.entries.filter (·.name != name) := by
  cases hposition : list.position? name with
  | none =>
      have habsent : name ∉ list.entries.map Property.name := by
        rw [← h.contains_iff, contains, hposition]
        exact Bool.false_ne_true
      rw [remove_of_none hposition, List.filter_eq_self.2]
      intro property hproperty
      exact bne_iff_ne.2 fun heq => habsent (heq ▸ List.mem_map_of_mem hproperty)
  | some hole =>
      obtain ⟨property, hget, rfl⟩ := nameAt?_eq_some_iff.1 (h.position?_eq_some_iff.1 hposition)
      rw [remove_of_some hposition, eraseIdx_eq_filter h.nodup_names hget]

lemma view_remove (h : list.Exact) (name : String) :
    (list.remove name).2.view = list.view.erase name := by
  refine PropertyList.eq_of_entries ?_
  rw [(h.remove name).entries_view, h.entries_remove, PropertyList.entries_erase, h.entries_view]

end Exact

/-! ## Answers -/

/-- What the operations answer, told from the properties in order alone. -/
structure Answers (list : IndexedList) : Prop where
  position? : ∀ name, list.position? name = list.entries.findIdx? (·.name == name)
  contains : ∀ name, list.contains name = list.entries.any (·.name == name)
  get? : ∀ name, list.get? name = list.entries.find? (·.name == name)
  insert_present : ∀ property, property.name ∈ list.entries.map Property.name →
    list.insert property = (false, list)
  insert_new : ∀ property, property.name ∉ list.entries.map Property.name →
    (list.insert property).1 = true ∧ (list.insert property).2.entries = list.entries ++ [property]
  remove_absent : ∀ name, name ∉ list.entries.map Property.name → list.remove name = (none, list)
  remove_present : ∀ name, name ∈ list.entries.map Property.name →
    (list.remove name).1 = list.entries.find? (·.name == name) ∧
      (list.remove name).2.entries = list.entries.filter (·.name != name)

lemma Exact.answers (h : list.Exact) : list.Answers where
  position? := h.position?_eq
  contains := h.contains_eq
  get? name := by rw [h.get?_eq, PropertyList.get?, h.entries_view]
  insert_present property hmem := insert_of_contains (h.contains_iff.2 hmem)
  insert_new property hnew := by
    rw [insert_of_not_contains (mt h.contains_iff.1 hnew)]
    exact ⟨rfl, rfl⟩
  remove_absent name habsent := by
    rw [← h.contains_iff, contains, Option.not_isSome_iff_eq_none] at habsent
    exact remove_of_none habsent
  remove_present name hmem := by
    refine ⟨?_, h.entries_remove name⟩
    rw [← h.contains_iff, contains, Option.isSome_iff_exists] at hmem
    obtain ⟨hole, hhole⟩ := hmem
    have hget := h.get?_eq name
    rw [PropertyList.get?, h.entries_view, get?, hhole, Option.bind_some] at hget
    rw [remove_of_some hhole, hget]

end IndexedList

/-! ## Runs -/

/-- One edit of a list. -/
inductive Edit
  | insert (property : Property)
  | extend (properties : List Property)
  | merge (other : IndexedList)
  | remove (name : String)

namespace Edit

/-- The edit of a list with an index. -/
def indexed (list : IndexedList) : Edit → IndexedList
  | .insert property => (list.insert property).2
  | .extend properties => list.extend properties
  | .merge other => list.merge other
  | .remove name => (list.remove name).2

/-- The edit of a list without one. -/
def plain (list : PropertyList) : Edit → PropertyList
  | .insert property => list.insert property
  | .extend properties => list.extend properties
  | .merge other => list.extend other.entries
  | .remove name => list.erase name

variable {list : IndexedList}

lemma exact_indexed (h : list.Exact) (edit : Edit) : (edit.indexed list).Exact := by
  cases edit with
  | insert property => exact h.insert property
  | extend properties => exact h.extend properties
  | merge other => exact h.extend other.entries
  | remove name => exact h.remove name

lemma view_indexed (h : list.Exact) (edit : Edit) :
    (edit.indexed list).view = edit.plain list.view := by
  cases edit with
  | insert property => exact h.view_insert property
  | extend properties => exact h.view_extend properties
  | merge other => exact h.view_extend other.entries
  | remove name => exact h.view_remove name

end Edit

namespace IndexedList

/-- The list that edits make of an empty one. -/
def afterEdits (edits : List Edit) : IndexedList :=
  edits.foldl (fun list edit => edit.indexed list) empty

lemma exact_afterEdits (edits : List Edit) : (afterEdits edits).Exact :=
  List.foldlRecOn edits _ exact_empty fun _ hlist edit _ => edit.exact_indexed hlist

lemma view_foldl {list : IndexedList} (h : list.Exact) (edits : List Edit) :
    (edits.foldl (fun list edit => edit.indexed list) list).view =
      edits.foldl (fun list edit => edit.plain list) list.view := by
  induction edits generalizing list with
  | nil => rfl
  | cons edit rest ih =>
      rw [List.foldl_cons, List.foldl_cons, ih (edit.exact_indexed h), edit.view_indexed h]

/-- **After any edits the index is exact:** it holds every name with its position and nothing else, no
name comes twice, the operations answer as a search through the list would, and the properties are
those of the list without an index after the same edits. -/
theorem answers_of_edits (edits : List Edit) :
    (afterEdits edits).Exact ∧
      ((afterEdits edits).entries.map Property.name).Nodup ∧
      (afterEdits edits).Answers ∧
      (afterEdits edits).view.entries = (afterEdits edits).entries ∧
      (afterEdits edits).view = edits.foldl (fun list edit => edit.plain list) .empty := by
  have hexact := exact_afterEdits edits
  exact ⟨hexact, hexact.nodup_names, hexact.answers, hexact.entries_view, view_foldl exact_empty edits⟩

end IndexedList

end ShaderWeave
