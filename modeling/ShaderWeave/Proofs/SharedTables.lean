import Mathlib.Data.List.Forall2
import Mathlib.Data.List.Perm.Subperm
import ShaderWeave.Proofs.Collections

/-!
# Tables in memory

An `Aliases` is a value: its maps list their pairs in ascending order, and a table that is a parent of
two others is there twice.  In memory a map lists its pairs in an order of its own, which depends on
how it was filled, and a parent is a place that others may point to as well.

* `Memory` — **layers by place.**  The parents of a layer are at earlier places, so there are no
  cycles.
* `Memory.table` — the value that stands at a place.
* `Memory.same` — equality as memory allows it: maps are compared without regard to order, and parents
  at one place are equal without a look at them.  It is equality of the values
  (`Memory.same_iff_table_eq`).
* `Memory.writes`, `Memory.describe` — what a table hands to a hasher, and its text.  Both sort the
  pairs first, so both are those of the value (`Memory.writes_eq`, `Memory.describe_eq`).
* `Memory.Alike` — what equal tables have in common (`Memory.alike_of_same`).
-/

namespace ShaderWeave

/-! ## What a hasher is given -/

/-- One thing that a hasher takes up. -/
inductive Feed where
  /-- A length, or the number of a case. -/
  | size (n : Nat)
  | bytes (bytes : List UInt8)
  | byte (b : UInt8)
  | word (w : UInt32)
  | long (w : UInt64)

/-- A digest is a hasher: it takes up one thing after the other. -/
def Digest.take (digest : Digest) : Feed → Digest
  | .size n => digest.size n
  | .bytes bytes => digest.word (condense bytes)
  | .byte b => digest.word b.toUInt64
  | .word w => digest.word w.toUInt64
  | .long w => digest.word w

namespace Feed

/-- A text is its bytes, and a byte that occurs in no text. -/
def text (t : String) : List Feed := [bytes t.toUTF8.toList, byte 0xff]

/-- Pairs of names are their number and then the pairs. -/
def pairs (list : List (String × String)) : List Feed :=
  size list.length :: list.flatMap fun pair => text pair.1 ++ text pair.2

lemma foldl_text (t : String) (digest : Digest) : (text t).foldl Digest.take digest = digest.text t :=
  rfl

lemma foldl_pairs (list : List (String × String)) (digest : Digest) :
    (pairs list).foldl Digest.take digest
      = list.foldl (fun d pair => (d.text pair.1).text pair.2) (digest.size list.length) := by
  rw [pairs, List.foldl_cons, Digest.take]
  generalize digest.size list.length = start
  induction list generalizing start with
  | nil => rfl
  | cons pair rest ih =>
      rw [List.flatMap_cons, List.foldl_append, List.foldl_append, foldl_text, foldl_text,
        List.foldl_cons, ih]

end Feed

namespace Aliases

mutual

/-- What a table hands to a hasher: the parents first, then the pairs of the own layer. -/
def writes : Aliases → List Feed
  | layered parents own => .size parents.length :: (writesAll parents ++ Feed.pairs own.pairs)
termination_by structural aliases => aliases

/-- What several tables hand to a hasher. -/
def writesAll : List Aliases → List Feed
  | [] => []
  | table :: rest => writes table ++ writesAll rest
termination_by structural tables => tables

end

mutual

/-- The digest of a table takes up what the table hands out. -/
lemma foldl_writes : ∀ (aliases : Aliases) (d : Digest),
    (writes aliases).foldl Digest.take d = digest aliases d
  | layered parents own, d => by
      rw [writes, List.foldl_cons, List.foldl_append, foldl_writesAll parents, Feed.foldl_pairs,
        digest]
      rfl

lemma foldl_writesAll : ∀ (tables : List Aliases) (d : Digest),
    (writesAll tables).foldl Digest.take d = digestAll tables d
  | [], d => by rw [writesAll, digestAll, List.foldl_nil]
  | table :: rest, d => by
      rw [writesAll, List.foldl_append, foldl_writes table, foldl_writesAll rest, digestAll]

end

lemma writesAll_eq (tables : List Aliases) : writesAll tables = tables.flatMap writes := by
  induction tables with
  | nil => rw [writesAll, List.flatMap_nil]
  | cons table rest ih => rw [writesAll, List.flatMap_cons, ih]

lemma describeAll_eq (tables : List Aliases) : describeAll tables = tables.map describe := by
  induction tables with
  | nil => rw [describeAll, List.map_nil]
  | cons table rest ih => rw [describeAll, List.map_cons, ih]

/-- A layer as a text, from the pairs it lists and the texts of its parents. -/
def describeLayer (pairs : List (String × String)) (parents : List String) : String :=
  "ParamAliases \x7b own: [" ++ String.intercalate ", " (pairs.map describePair)
    ++ "], parents: [" ++ String.intercalate ", " parents ++ "] \x7d"

lemma describe_layered (parents : List Aliases) (own : NameMap) :
    describe (layered parents own) = describeLayer own.pairs (parents.map describe) := by
  rw [← describeAll_eq]
  unfold describe
  rfl

end Aliases

/-! ## Layers by place -/

/-- **A layer in memory.**  It was made from the pairs `inserted`, of which a later one replaces an
earlier one with the same key.  `listed` are the pairs that it holds then, in whatever order it lists
them. -/
structure Cell (place : Nat) where
  parents : List (Fin place)
  inserted : List (String × String)
  listed : List (String × String)
  perm : listed.Perm (NameMap.ofList inserted).pairs

namespace Cell

variable {place place' : Nat}

/-- The map of the layer. -/
def own (cell : Cell place) : NameMap := .ofList cell.inserted

/-- What a name is sent to. -/
def get? (cell : Cell place) (name : String) : Option String :=
  (cell.listed.find? (·.1 == name)).map (·.2)

/-- The pairs of one layer are as many as those of the other, and each is found there. -/
def sameOwn (cell : Cell place) (other : Cell place') : Bool :=
  cell.listed.length == other.listed.length &&
    cell.listed.all fun pair => other.get? pair.1 == some pair.2

/-- The order in which pairs are sorted: by key, and by value where keys are equal. -/
def pairLe (a b : String × String) : Bool := decide (a.1 < b.1 ∨ a.1 = b.1 ∧ a.2 ≤ b.2)

/-- The pairs in order. -/
def sorted (cell : Cell place) : List (String × String) := cell.listed.mergeSort pairLe

lemma nodup_listed (cell : Cell place) : (cell.listed.map Prod.fst).Nodup :=
  (cell.perm.map Prod.fst).nodup_iff.2 (NameMap.nodup_keys _)

lemma get?_eq (cell : Cell place) (name : String) : cell.get? name = cell.own.get? name := by
  refine Option.ext fun value => ?_
  rw [get?, NameMap.find?_eq_some_iff cell.nodup_listed, cell.perm.mem_iff, ← NameMap.get?_eq_some_iff,
    own]

/-- **Equal numbers of pairs, all found in the other layer, make equal maps,** whatever the order. -/
lemma sameOwn_iff {cell : Cell place} {other : Cell place'} :
    cell.sameOwn other = true ↔ cell.own = other.own := by
  have hfound : (∀ pair ∈ cell.listed, other.get? pair.1 = some pair.2) ↔
      cell.listed ⊆ other.listed := by
    simp only [get?, NameMap.find?_eq_some_iff other.nodup_listed]
    rfl
  simp only [sameOwn, Bool.and_eq_true, beq_iff_eq, List.all_eq_true, hfound]
  constructor
  · rintro ⟨hlength, hsubset⟩
    have hperm : cell.listed.Perm other.listed :=
      (cell.nodup_listed.of_map.subperm hsubset).perm_of_length_le (Nat.le_of_eq hlength.symm)
    refine NameMap.eq_of_get? fun name => Option.ext fun value => ?_
    rw [NameMap.get?_eq_some_iff, NameMap.get?_eq_some_iff, own, own, ← cell.perm.mem_iff,
      ← other.perm.mem_iff, hperm.mem_iff]
  · intro heq
    have hperm : cell.listed.Perm other.listed := by
      refine cell.perm.trans (List.Perm.trans ?_ other.perm.symm)
      rw [← own, ← own, heq]
    exact ⟨hperm.length_eq, hperm.subset⟩

lemma pairLe_trans (a b c : String × String) (hab : pairLe a b = true) (hbc : pairLe b c = true) :
    pairLe a c = true := by
  simp only [pairLe, decide_eq_true_eq] at hab hbc ⊢
  rcases hab with hab | ⟨hab, hab'⟩
  · rcases hbc with hbc | ⟨hbc, -⟩
    · exact Or.inl (String.lt_trans hab hbc)
    · exact Or.inl (hbc ▸ hab)
  · rcases hbc with hbc | ⟨hbc, hbc'⟩
    · exact Or.inl (hab ▸ hbc)
    · exact Or.inr ⟨hab.trans hbc, String.le_trans hab' hbc'⟩

lemma pairLe_total (a b : String × String) : (pairLe a b || pairLe b a) = true := by
  simp only [pairLe, Bool.or_eq_true, decide_eq_true_eq]
  by_cases hab : a.1 < b.1
  · exact Or.inl (Or.inl hab)
  · by_cases hba : b.1 < a.1
    · exact Or.inr (Or.inl hba)
    · have heq : a.1 = b.1 := String.le_antisymm (String.not_lt.1 hba) (String.not_lt.1 hab)
      rcases String.le_total a.2 b.2 with hle | hle
      · exact Or.inl (Or.inr ⟨heq, hle⟩)
      · exact Or.inr (Or.inr ⟨heq.symm, hle⟩)

/-- **Sorted, the pairs are those of the map.**  Keys are different, so there is one way to sort. -/
lemma sorted_eq (cell : Cell place) : cell.sorted = cell.own.pairs := by
  have hperm : cell.sorted.Perm cell.own.pairs := (List.mergeSort_perm _ _).trans cell.perm
  refine hperm.eq_of_pairwise ?_ (List.pairwise_mergeSort pairLe_trans pairLe_total _)
    (cell.own.ascending.imp ?_)
  · rintro ⟨k, v⟩ ⟨k', v'⟩ - - h h'
    simp only [pairLe, decide_eq_true_eq] at h h'
    rcases h with h | ⟨rfl, hle⟩
    · rcases h' with h' | ⟨rfl, -⟩
      · exact absurd (String.lt_trans h h') (String.lt_irrefl _)
      · exact absurd h (String.lt_irrefl _)
    · rcases h' with h' | ⟨-, hle'⟩
      · exact absurd h' (String.lt_irrefl _)
      · rw [String.le_antisymm hle hle']
  · intro a b hlt
    exact decide_eq_true (Or.inl hlt)

end Cell

/-- **Layers by place.**  Tables that share a parent point to one place. -/
def Memory : Type := (place : Nat) → Cell place

namespace Memory

/-- The value that stands at a place. -/
def table (memory : Memory) (place : Nat) : Aliases :=
  .layered ((memory place).parents.map fun parent => memory.table parent.val) (memory place).own
termination_by place
decreasing_by exact parent.isLt

/-- **Equality of the tables at two places.**  The own maps are equal, and the parents one by one are at
one place or equal again. -/
def same (memory : Memory) (a b : Nat) : Bool :=
  (memory a).sameOwn (memory b) && (memory a).parents.length == (memory b).parents.length &&
    ((memory a).parents.zip (memory b).parents).all fun pair =>
      pair.1.val == pair.2.val || memory.same pair.1.val pair.2.val
termination_by a
decreasing_by exact pair.1.isLt

/-- What the table at a place hands to a hasher. -/
def writes (memory : Memory) (place : Nat) : List Feed :=
  .size (memory place).parents.length ::
    (((memory place).parents.flatMap fun parent => memory.writes parent.val)
      ++ Feed.pairs (memory place).sorted)
termination_by place
decreasing_by exact parent.isLt

/-- The digest of the table at a place. -/
def hash (memory : Memory) (place : Nat) : UInt64 :=
  ((memory.writes place).foldl Digest.take .empty).finish

/-- The table at a place as a text. -/
def describe (memory : Memory) (place : Nat) : String :=
  Aliases.describeLayer (memory place).sorted
    ((memory place).parents.map fun parent => memory.describe parent.val)
termination_by place
decreasing_by exact parent.isLt

/-! ## Memory and values -/

variable {memory : Memory} {a b : Nat}

/-- Values are equal when the values at the parents are, one by one, and the own maps are. -/
lemma table_eq_iff : memory.table a = memory.table b ↔
    List.Forall₂ (fun p q => memory.table p.val = memory.table q.val) (memory a).parents
      (memory b).parents ∧ (memory a).own = (memory b).own := by
  rw [table, table, Aliases.layered.injEq, ← List.forall₂_eq_eq_eq, List.forall₂_map_left_iff,
    List.forall₂_map_right_iff]

/-- **Equality in memory is equality of the values.**  By induction on the first place: parents are at
earlier ones, and what is at one place is one value. -/
lemma same_iff_table_eq : memory.same a b = true ↔ memory.table a = memory.table b := by
  induction a using Nat.strongRecOn generalizing b with
  | ind a ih =>
      have hparents : ∀ (p : Fin a) (q : Fin b),
          (p.val == q.val || memory.same p.val q.val) = true ↔
            memory.table p.val = memory.table q.val := by
        intro p q
        rw [Bool.or_eq_true, ih p.val p.isLt, beq_iff_eq]
        exact ⟨fun h => h.elim (fun heq => heq ▸ rfl) id, Or.inr⟩
      rw [same, table_eq_iff, Bool.and_eq_true, Bool.and_eq_true, Cell.sameOwn_iff, beq_iff_eq,
        List.all_eq_true, List.forall₂_iff_zip, and_assoc, and_comm]
      simp only [Prod.forall, hparents]

/-- Two layers that were filled differently and list their pairs differently, and two tables on top of
them that share the first one. -/
def swatches : Memory
  | 0 => ⟨[], [("x", "y"), ("z", "w")], [("z", "w"), ("x", "y")], by decide +kernel⟩
  | 1 => ⟨[], [("z", "v"), ("x", "y"), ("z", "w")], [("x", "y"), ("z", "w")], by decide +kernel⟩
  | 2 => ⟨[0, 0], [("a", "b")], [("a", "b")], .refl _⟩
  | 3 => ⟨[0, 1], [("a", "b")], [("a", "b")], .refl _⟩
  | _ => ⟨[], [], [], .nil⟩

example : swatches.same 2 3 = true ∧ swatches.same 2 0 = false := by decide +kernel

/-- The values are compared to the same effect. -/
lemma same_eq (memory : Memory) (a b : Nat) :
    memory.same a b = (memory.table a).same (memory.table b) := by
  rw [Bool.eq_iff_iff, same_iff_table_eq]
  exact ⟨fun h => h ▸ Aliases.same_refl _, Aliases.eq_of_same⟩

/-- **What equality means, layer by layer:** the own maps answer alike for every name, and the parents
are equal one by one. -/
lemma same_iff_layers : memory.same a b = true ↔
    (∀ name, (memory a).get? name = (memory b).get? name) ∧
      List.Forall₂ (fun p q => memory.same p.val q.val = true) (memory a).parents
        (memory b).parents := by
  have hown : (∀ name, (memory a).get? name = (memory b).get? name) ↔
      (memory a).own = (memory b).own := by
    simp only [Cell.get?_eq]
    exact ⟨NameMap.eq_of_get?, fun heq name => heq ▸ rfl⟩
  rw [hown, same_iff_table_eq, table_eq_iff, and_comm]
  simp only [same_iff_table_eq]

/-- A layer that was filled in another order, on top of the same places, is equal. -/
lemma same_of_perm (hparents : (memory a).parents.map Fin.val = (memory b).parents.map Fin.val)
    (hnodup : ((memory a).inserted.map Prod.fst).Nodup)
    (hperm : (memory a).inserted.Perm (memory b).inserted) : memory.same a b = true := by
  have htables : ∀ place, (memory place).parents.map (fun parent => memory.table parent.val)
      = ((memory place).parents.map Fin.val).map memory.table := by
    intro place
    rw [List.map_map]
    rfl
  rw [same_iff_table_eq, table, table, htables a, htables b, hparents, Cell.own, Cell.own,
    NameMap.ofList_eq_of_perm hnodup hperm]

lemma equivalence_same (memory : Memory) : Equivalence fun a b => memory.same a b = true := by
  simp only [same_iff_table_eq]
  exact ⟨fun _ => rfl, Eq.symm, Eq.trans⟩

/-- A look at the places first changes nothing. -/
lemma place_or_same_iff : (a == b || memory.same a b) = true ↔ memory.same a b = true := by
  rw [Bool.or_eq_true, beq_iff_eq]
  constructor
  · rintro (rfl | h)
    · exact memory.equivalence_same.refl a
    · exact h
  · exact Or.inr

lemma writes_eq (memory : Memory) (place : Nat) :
    memory.writes place = (memory.table place).writes := by
  induction place using Nat.strongRecOn with
  | ind place ih =>
      rw [writes, table, Aliases.writes, Aliases.writesAll_eq, List.length_map, List.flatMap_map,
        Cell.sorted_eq]
      simp only [ih _ (Fin.isLt _)]

lemma describe_eq (memory : Memory) (place : Nat) :
    memory.describe place = (memory.table place).describe := by
  induction place using Nat.strongRecOn with
  | ind place ih =>
      rw [describe, table, Aliases.describe_layered, List.map_map, Cell.sorted_eq]
      simp only [ih _ (Fin.isLt _), Function.comp_def]

lemma hash_eq (memory : Memory) (place : Nat) : memory.hash place = (memory.table place).hash := by
  rw [hash, writes_eq, Aliases.foldl_writes, Aliases.hash]

/-! ## What equal tables have in common -/

lemma writes_eq_of_same (h : memory.same a b = true) : memory.writes a = memory.writes b := by
  rw [writes_eq, writes_eq, same_iff_table_eq.1 h]

/-- Nothing tells the tables at two places apart: no hasher, whatever its state and however it takes
things up, neither their hashes nor their texts, and no name. -/
structure Alike (memory : Memory) (a b : Nat) : Prop where
  hashers : ∀ {σ : Type} (hasher : σ → Feed → σ) (state : σ),
    (memory.writes a).foldl hasher state = (memory.writes b).foldl hasher state
  hash : memory.hash a = memory.hash b
  describe : memory.describe a = memory.describe b
  choice : ∀ name, (memory.table a).choice name = (memory.table b).choice name

lemma alike_of_same (h : memory.same a b = true) : memory.Alike a b := by
  have htable := same_iff_table_eq.1 h
  have hwrites := writes_eq_of_same h
  refine ⟨?_, ?_, ?_, ?_⟩
  · intro σ hasher state
    rw [hwrites]
  · rw [Memory.hash, Memory.hash, hwrites]
  · rw [describe_eq, describe_eq, htable]
  · intro name
    rw [htable]

end Memory

end ShaderWeave
