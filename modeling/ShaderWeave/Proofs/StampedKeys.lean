import ShaderWeave.Program.Request
import ShaderWeave.Proofs.SharedTables

/-!
# Keys with a hash

A key says what a program is asked to be, with its aliases at a place in memory.  Its hash is computed
once, when it is made, and compared before anything else.  **That this first comparison never tells
equal keys apart** is what the cache rests on.

* `Asked`, `Key` — the parts of a key, and a key with its hash.  `Key.ofAsked` makes it.
* `Asked.Matches` — the parts are the same one by one.
* `Asked.matches_iff_key_eq` — this is equality of the `ProgramKey`s that programs are cached by.
* `same_tables_alike` — equality of tables and of keys: it is an equivalence, and equal ones cannot be
  told apart by a hasher, by their texts or by what they choose.
-/

namespace ShaderWeave

/-- The numbers that stand for names and for types while a program runs. -/
structure Numbering where
  name : String → UInt32
  type : HostType → UInt64

namespace Feed

variable (numbering : Numbering)

/-- A property is its name and its type. -/
def property (p : Property) : List Feed := [word (numbering.name p.name), long (numbering.type p.type)]

/-- Properties are their number and then the properties. -/
def properties (list : PropertyList) : List Feed :=
  size list.size :: list.entries.flatMap (property numbering)

/-- A count is the number of its case and what the case holds. -/
def count : InvocationCount → List Feed
  | .fixed n => [size 0, word n.toUInt32]
  | .property p => size 1 :: property numbering p

/-- The four bytes of a word, the lowest first. -/
def wordBytes (n : Nat) : List UInt8 :=
  [n.toUInt8, (n / 256).toUInt8, (n / 65536).toUInt8, (n / 16777216).toUInt8]

/-- The counts one by one, the group sizes in one piece, and the flag. -/
def dispatch (d : Dispatch) : List Feed :=
  (size 3 :: d.counts.toList.flatMap (count numbering))
    ++ [size 3, bytes (d.group.toList.flatMap wordBytes)]
    ++ [byte (if d.allowOutOfBounds then 1 else 0)]

end Feed

/-- What a program is asked to be, with its aliases at a place in memory. -/
inductive Asked where
  | surface (aliases : Nat) (position : String) (outputs : PropertyList)
  | compute (aliases : Nat) (outputs : PropertyList) (dispatch : Dispatch)

namespace Asked

/-- The same with the value of its aliases. -/
def key (memory : Memory) : Asked → ProgramKey
  | surface aliases position outputs => .surface { aliases := memory.table aliases, outputs, position }
  | compute aliases outputs dispatch => .compute { aliases := memory.table aliases, outputs, dispatch }

/-- Equality of the parts.  Aliases at one place are equal without a look at them. -/
def same (memory : Memory) : Asked → Asked → Bool
  | surface a position outputs, surface b position' outputs' =>
    (a == b || memory.same a b) && position == position' && outputs == outputs'
  | compute a outputs dispatch, compute b outputs' dispatch' =>
    (a == b || memory.same a b) && outputs == outputs' && dispatch == dispatch'
  | _, _ => false

/-- What is handed to a hasher: the number of the case and then the parts. -/
def writes (numbering : Numbering) (memory : Memory) : Asked → List Feed
  | surface aliases position outputs =>
    .size 0 :: (memory.writes aliases ++ [.word (numbering.name position)]
      ++ Feed.properties numbering outputs)
  | compute aliases outputs dispatch =>
    .size 1 :: (memory.writes aliases ++ Feed.properties numbering outputs
      ++ Feed.dispatch numbering dispatch)

/-- The digest of all parts. -/
def digest (numbering : Numbering) (memory : Memory) (asked : Asked) : UInt64 :=
  ((asked.writes numbering memory).foldl Digest.take .empty).finish

/-- **The same, part by part.** -/
inductive Matches (memory : Memory) : Asked → Asked → Prop where
  | surface {a b : Nat} {position : String} {outputs : PropertyList}
      (aliases : memory.same a b = true) :
      Matches memory (surface a position outputs) (surface b position outputs)
  | compute {a b : Nat} {outputs : PropertyList} {dispatch : Dispatch}
      (aliases : memory.same a b = true) :
      Matches memory (compute a outputs dispatch) (compute b outputs dispatch)

variable {memory : Memory} {asked asked' : Asked}

lemma same_iff_matches : asked.same memory asked' = true ↔ asked.Matches memory asked' := by
  constructor
  · intro h
    cases asked with
    | surface a position outputs =>
        cases asked' with
        | surface b position' outputs' =>
            simp only [same, Bool.and_eq_true, Memory.place_or_same_iff, beq_iff_eq] at h
            obtain ⟨⟨haliases, rfl⟩, rfl⟩ := h
            exact Matches.surface haliases
        | compute b outputs' dispatch' => exact absurd h (by simp [same])
    | compute a outputs dispatch =>
        cases asked' with
        | surface b position' outputs' => exact absurd h (by simp [same])
        | compute b outputs' dispatch' =>
            simp only [same, Bool.and_eq_true, Memory.place_or_same_iff, beq_iff_eq] at h
            obtain ⟨⟨haliases, rfl⟩, rfl⟩ := h
            exact Matches.compute haliases
  · intro h
    cases h with
    | surface haliases => simp [same, haliases]
    | compute haliases => simp [same, haliases]

lemma matches_iff_key_eq : asked.Matches memory asked' ↔ asked.key memory = asked'.key memory := by
  constructor
  · intro h
    cases h with
    | surface haliases => rw [key, key, Memory.same_iff_table_eq.1 haliases]
    | compute haliases => rw [key, key, Memory.same_iff_table_eq.1 haliases]
  · intro h
    cases asked with
    | surface a position outputs =>
        cases asked' with
        | surface b position' outputs' =>
            simp only [key, ProgramKey.surface.injEq, SurfaceKey.mk.injEq] at h
            obtain ⟨haliases, rfl, rfl⟩ := h
            exact Matches.surface (Memory.same_iff_table_eq.2 haliases)
        | compute b outputs' dispatch' => exact absurd h (by simp [key])
    | compute a outputs dispatch =>
        cases asked' with
        | surface b position' outputs' => exact absurd h (by simp [key])
        | compute b outputs' dispatch' =>
            simp only [key, ProgramKey.compute.injEq, ComputeKey.mk.injEq] at h
            obtain ⟨haliases, rfl, rfl⟩ := h
            exact Matches.compute (Memory.same_iff_table_eq.2 haliases)

/-- What is hashed of matching keys is the same, so their digests are. -/
lemma digest_eq_of_matches (numbering : Numbering) (h : asked.Matches memory asked') :
    asked.digest numbering memory = asked'.digest numbering memory := by
  cases h with
  | surface haliases => rw [digest, digest, writes, writes, Memory.writes_eq_of_same haliases]
  | compute haliases => rw [digest, digest, writes, writes, Memory.writes_eq_of_same haliases]

end Asked

/-- A key: what is asked for, and its hash. -/
structure Key (numbering : Numbering) (memory : Memory) where
  asked : Asked
  hash : UInt64
  made : hash = asked.digest numbering memory

namespace Key

variable {numbering : Numbering} {memory : Memory}

/-- The key of what is asked for, with the hash computed from all its parts. -/
def ofAsked (numbering : Numbering) (memory : Memory) (asked : Asked) : Key numbering memory where
  asked
  hash := asked.digest numbering memory
  made := rfl

/-- There is no other way to make a key. -/
lemma eq_ofAsked (key : Key numbering memory) : key = ofAsked numbering memory key.asked := by
  obtain ⟨asked, hash, rfl⟩ := key
  rfl

/-- Keys with different hashes are different; otherwise every part is compared. -/
def same (key key' : Key numbering memory) : Bool :=
  key.hash == key'.hash && key.asked.same memory key'.asked

/-- **The hash never decides:** keys are equal exactly when their parts are. -/
lemma same_iff_matches {key key' : Key numbering memory} :
    key.same key' = true ↔ key.asked.Matches memory key'.asked := by
  rw [same, Bool.and_eq_true, beq_iff_eq, Asked.same_iff_matches, key.made, key'.made]
  exact ⟨And.right, fun h => ⟨Asked.digest_eq_of_matches numbering h, h⟩⟩

end Key

/-- **Equal tables and keys are alike.**  Tables are equal when their own maps answer alike and their
parents are equal one by one; this is an equivalence, the order in which pairs were inserted does not
matter to it, and equal tables cannot be told apart.  A key is what is made of its parts; keys are
equal exactly when they match part by part, which is when programs are cached under one `ProgramKey`,
and then they have one hash.  What is said here of memory holds of the values that stand there. -/
theorem same_tables_alike (memory : Memory) (numbering : Numbering) :
    (∀ a b, memory.same a b = true ↔
      (∀ name, (memory a).get? name = (memory b).get? name) ∧
        List.Forall₂ (fun p q => memory.same p.val q.val = true) (memory a).parents
          (memory b).parents) ∧
    Equivalence (fun a b => memory.same a b = true) ∧
    (∀ a b, (memory a).parents.map Fin.val = (memory b).parents.map Fin.val →
      ((memory a).inserted.map Prod.fst).Nodup → (memory a).inserted.Perm (memory b).inserted →
      memory.same a b = true) ∧
    (∀ a b, memory.same a b = true → memory.Alike a b) ∧
    (∀ key : Key numbering memory, key = .ofAsked numbering memory key.asked) ∧
    (∀ asked asked' : Asked,
      (Key.ofAsked numbering memory asked).same (.ofAsked numbering memory asked') = true ↔
        asked.Matches memory asked') ∧
    (∀ key key' : Key numbering memory,
      (key.same key' = true ↔ key.asked.Matches memory key'.asked) ∧
      (key.same key' = true ↔ key.asked.key memory = key'.asked.key memory) ∧
      (key.same key' = true → key.hash = key'.hash)) ∧
    (∀ a b, memory.same a b = (memory.table a).same (memory.table b)) ∧
    ∀ a, memory.hash a = (memory.table a).hash ∧ memory.describe a = (memory.table a).describe := by
  refine ⟨fun _ _ => Memory.same_iff_layers, memory.equivalence_same,
    fun _ _ => Memory.same_of_perm, fun _ _ => Memory.alike_of_same, Key.eq_ofAsked,
    fun _ _ => Key.same_iff_matches, ?_, memory.same_eq, fun a => ⟨memory.hash_eq a, memory.describe_eq a⟩⟩
  intro key key'
  refine ⟨Key.same_iff_matches, Key.same_iff_matches.trans Asked.matches_iff_key_eq, ?_⟩
  intro h
  rw [key.made, key'.made, Asked.digest_eq_of_matches numbering (Key.same_iff_matches.1 h)]

end ShaderWeave
