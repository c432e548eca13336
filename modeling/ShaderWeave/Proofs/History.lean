import Mathlib.Data.List.Perm.Subperm
import ShaderWeave.Proofs.Growth

/-!
# Registries of different histories

Two registries that have grown from one base by the same catalogue may know different host types and
have them under different keys.  What they both know they know alike.

**Equal answers.**  `Registry.answer_eq`: a host type that both know has one GPU type in both, up to
the keys in it, because both hold what its recipe gives.  Keys of the two correspond
(`Registry.Linked`), one to one, and so do the types under them (`Registry.Linked.alike`).

**Equal outcomes.**  `Registry.convert_same`: a conversion succeeds in both or fails in both with
the same error.  Where neither knows the type the two runs go side by side.  Where one knows it the
other cannot fail, because what the first has registered shows that the recipe can be carried out
(`Registry.convertWithin_of_known`).
-/

namespace ShaderWeave

namespace Registry

variable {base registry registry' : Registry} {catalogue : Catalogue} {host : HostType}

/-! ## Equal answers -/

lemma answer_eq_some (hclosed : registry.Closed) {type : GpuType} :
    registry.answer host = some type ↔
      ∃ key found, registry.typeKey? host = some key ∧ registry.types[key.index]? = some found ∧
        found.bare = type := by
  rw [answer, Option.map_eq_some_iff]
  constructor
  · rintro ⟨found, hfound, rfl⟩
    obtain ⟨key, hkey, htype⟩ := (typeOf?_eq_some hclosed).1 hfound
    exact ⟨key, found, hkey, htype, rfl⟩
  · rintro ⟨key, found, hkey, htype, rfl⟩
    exact ⟨found, (typeOf?_eq_some hclosed).2 ⟨key, hkey, htype⟩, rfl⟩

section Two

variable (hgrown : Grown base catalogue registry) (hgrown' : Grown base catalogue registry')
include hgrown hgrown'

lemma lookup?_eq_of_base (hbase : base.key? host ≠ none) :
    registry.lookup? host = registry'.lookup? host := by
  cases hlookup : base.lookup? host with
  | none => exact absurd (Option.map_eq_none_iff.1 hlookup) hbase
  | some conversion =>
      rw [hgrown.extends_base.lookup? hgrown.closed_base hlookup,
        hgrown'.extends_base.lookup? hgrown'.closed_base hlookup]

lemma answer_eq_of_base (hbase : base.key? host ≠ none) :
    registry.answer host = registry'.answer host := by
  cases hanswer : base.answer host with
  | none =>
      have hnone : base.key? host = none := by simpa [answer, typeOf?, lookup?] using hanswer
      exact absurd hnone hbase
  | some type =>
      rw [hgrown.extends_base.answer hgrown.closed_base hanswer,
        hgrown'.extends_base.answer hgrown'.closed_base hanswer]

/-- **A host type that both registries know has the same type in both, up to keys.** -/
theorem answer_eq {type type' : GpuType} (h : registry.answer host = some type)
    (h' : registry'.answer host = some type') : type = type' := by
  -- Induction on the place of the type in the first registry: its recipe asks for types before it.
  suffices hbelow : ∀ bound, ∀ host key type type', registry.typeKey? host = some key →
      key.index < bound → registry.answer host = some type → registry'.answer host = some type' →
      type = type' by
    obtain ⟨key, -, hkey, -⟩ := (answer_eq_some hgrown.closed).1 h
    exact hbelow (key.index + 1) host key type type' hkey (Nat.lt_succ_self _) h h'
  intro bound
  induction bound with
  | zero => exact fun _ _ _ _ _ hlt => absurd hlt (Nat.not_lt_zero _)
  | succ bound ih =>
      intro host key type type' hkey hlt h h'
      by_cases hbase : base.key? host = none
      · obtain ⟨_, found, hkey₁, hfound, rfl⟩ := (answer_eq_some hgrown.closed).1 h
        obtain ⟨key', found', hkey', hfound', rfl⟩ := (answer_eq_some hgrown'.closed).1 h'
        obtain rfl := Option.some.inj (hkey.symm.trans hkey₁)
        obtain ⟨asked, form, keys, hderives⟩ := hgrown.derived hbase hkey
        obtain ⟨asked', form', keys', hderives'⟩ := hgrown'.derived hbase hkey'
        obtain ⟨rfl, rfl⟩ := hderives.gives.unique hderives'.gives (by
          intro other hother type type' hanswer hanswer'
          obtain ⟨otherKey, hotherKey, hbefore⟩ := hderives.lt hgrown.closed hother
          exact ih other otherKey type type' hotherKey (by omega) hanswer hanswer')
        rw [hderives.type] at hfound
        rw [hderives'.type] at hfound'
        cases hfound
        cases hfound'
        exact form.bare_type (hderives.known.length_eq.symm.trans hderives'.known.length_eq)
      · rw [answer_eq_of_base hgrown hgrown' hbase, h'] at h
        exact (Option.some.inj h).symm

/-- Two derivations of one host type ask for the same types and end in the same form. -/
lemma derives_unique {key key' : TypeKey} {asked asked' : List HostType} {form form' : Form}
    {keys keys' : List TypeKey} (h : Derives catalogue registry host key asked form keys)
    (h' : Derives catalogue registry' host key' asked' form' keys') :
    asked = asked' ∧ form = form' :=
  h.gives.unique h'.gives fun _ _ _ _ => answer_eq hgrown hgrown'

/-- A host type that both registries know has the same conversion in both, up to its key. -/
lemma lookup?_alike {conversion conversion' : Conversion}
    (h : registry.lookup? host = some conversion)
    (h' : registry'.lookup? host = some conversion') :
    conversion' = { conversion with type := conversion'.type } := by
  by_cases hbase : base.key? host = none
  · obtain ⟨asked, form, keys, hderives⟩ := hgrown.derived hbase (typeKey?_of_lookup? h)
    obtain ⟨asked', form', keys', hderives'⟩ := hgrown'.derived hbase (typeKey?_of_lookup? h')
    obtain ⟨-, rfl⟩ := derives_unique hgrown hgrown' hderives hderives'
    have hconversion := hderives.conversion
    have hconversion' := hderives'.conversion
    rw [h] at hconversion
    rw [h'] at hconversion'
    rw [Option.some.inj hconversion, Option.some.inj hconversion']
    rfl
  · rw [lookup?_eq_of_base hgrown hgrown' hbase, h'] at h
    cases h
    rfl

end Two

/-! ## Corresponding keys -/

/-- Keys of two registries that stand for one type: a type of the base, or the types of one host
type. -/
inductive Linked (base registry registry' : Registry) : TypeKey → TypeKey → Prop where
  | given {key : TypeKey} (h : key.index < base.types.size) : Linked base registry registry' key key
  | derived {host : HostType} {key key' : TypeKey} (hnew : base.key? host = none)
      (h : registry.typeKey? host = some key) (h' : registry'.typeKey? host = some key') :
      Linked base registry registry' key key'

namespace Linked

variable {key key' key₁ key₂ : TypeKey} {after after' : Registry}

lemma symm (h : Linked base registry registry' key key') :
    Linked base registry' registry key' key := by
  cases h with
  | given h => exact .given h
  | derived hnew h h' => exact .derived hnew h' h

lemma right_unique (hgrown : Grown base catalogue registry)
    (h₁ : Linked base registry registry' key key₁)
    (h₂ : Linked base registry registry' key key₂) : key₁ = key₂ := by
  cases h₁ with
  | given hgiven =>
      cases h₂ with
      | given => rfl
      | derived hnew h _ => exact absurd (hgrown.above hnew h) (Nat.not_le.2 hgiven)
  | derived hnew h h' =>
      cases h₂ with
      | given hgiven => exact absurd (hgrown.above hnew h) (Nat.not_le.2 hgiven)
      | derived hnew₂ h₂ h₂' =>
          obtain rfl := hgrown.distinct hnew hnew₂ h h₂
          exact Option.some.inj (h'.symm.trans h₂')

lemma biUnique (hgrown : Grown base catalogue registry) (hgrown' : Grown base catalogue registry') :
    Relator.BiUnique (Linked base registry registry') :=
  ⟨fun _ _ _ h₁ h₂ => h₁.symm.right_unique hgrown' h₂.symm, fun _ _ _ => right_unique hgrown⟩

lemma mono (h : Linked base registry registry' key key') (hclosed : registry.Closed)
    (hclosed' : registry'.Closed) (hextends : registry.Extends after)
    (hextends' : registry'.Extends after') : Linked base after after' key key' := by
  cases h with
  | given h => exact .given h
  | derived hnew h h' =>
      exact .derived hnew (hextends.typeKey? hclosed h) (hextends'.typeKey? hclosed' h')

end Linked

/-- The keys of a host type that both registries know correspond. -/
lemma linked_of_typeKey? (hgrown : Grown base catalogue registry)
    (hgrown' : Grown base catalogue registry') {key key' : TypeKey}
    (h : registry.typeKey? host = some key) (h' : registry'.typeKey? host = some key') :
    Linked base registry registry' key key' := by
  by_cases hbase : base.key? host = none
  · exact .derived hbase h h'
  · cases hkey : base.typeKey? host with
    | none => exact absurd (typeKey?_eq_none.1 hkey) hbase
    | some baseKey =>
        have hsame := hgrown.extends_base.typeKey? hgrown.closed_base hkey
        have hsame' := hgrown'.extends_base.typeKey? hgrown'.closed_base hkey
        rw [h] at hsame
        rw [h'] at hsame'
        cases hsame
        cases hsame'
        exact .given (typeKey?_lt hgrown.closed_base hkey)

lemma forall₂_linked (hgrown : Grown base catalogue registry)
    (hgrown' : Grown base catalogue registry') {hosts : List HostType} {keys keys' : List TypeKey}
    (h : registry.Known hosts keys) (h' : registry'.Known hosts keys') :
    List.Forall₂ (Linked base registry registry') keys keys' := by
  induction h generalizing keys' with
  | nil =>
      cases h'
      exact .nil
  | cons head _ ih =>
      cases h' with
      | cons head' tail' => exact .cons (linked_of_typeKey? hgrown hgrown' head head') (ih tail')

end Registry

/-- Types that are the same up to corresponding keys. -/
structure GpuType.Alike (link : TypeKey → TypeKey → Prop) (type type' : GpuType) : Prop where
  bare : type.bare = type'.bare
  dependencies : List.Forall₂ link type.dependencies type'.dependencies
  element {flexible flexible' : FlexibleMember} : type.flexible = some flexible →
    type'.flexible = some flexible' → link flexible.element flexible'.element

namespace GpuType.Alike

variable {link : TypeKey → TypeKey → Prop} {type type' : GpuType}

lemma valueName_eq (h : type.Alike link type') : type.valueName = type'.valueName := by
  rw [← valueName_bare, h.bare, valueName_bare]

lemma handleName_eq (h : type.Alike link type') : type.handleName = type'.handleName := by
  rw [← handleName_bare, h.bare, handleName_bare]

lemma body_eq (h : type.Alike link type') : type.body = type'.body := by
  rw [← body_bare, h.bare, body_bare]

lemma layout_eq (h : type.Alike link type') : type.layout = type'.layout := by
  rw [← layout_bare, h.bare, layout_bare]

lemma isStorable_eq (h : type.Alike link type') : type.isStorable = type'.isStorable := by
  rw [← isStorable_bare, h.bare, isStorable_bare]

lemma imp {link' : TypeKey → TypeKey → Prop} (h : type.Alike link type')
    (himp : ∀ {key key' : TypeKey}, link key key' → link' key key') : type.Alike link' type' where
  bare := h.bare
  dependencies := h.dependencies.imp fun _ _ => himp
  element hflexible hflexible' := himp (h.element hflexible hflexible')

end GpuType.Alike

namespace Form

variable {link : TypeKey → TypeKey → Prop} {keys keys' : List TypeKey}

lemma forall₂_foldl_addKey (hlink : Relator.BiUnique link) (h : List.Forall₂ link keys keys')
    {found found' : List TypeKey} (hfound : List.Forall₂ link found found') :
    List.Forall₂ link (keys.foldl Registry.addKey found) (keys'.foldl Registry.addKey found') := by
  induction h generalizing found found' with
  | nil => exact hfound
  | @cons key key' _ _ hkey _ ih =>
      apply ih
      have hmem : key ∈ found ↔ key' ∈ found' := List.rel_mem hlink hkey hfound
      rw [Registry.addKey, Registry.addKey]
      by_cases hkeyMem : key ∈ found
      · rw [if_pos hkeyMem, if_pos (hmem.1 hkeyMem)]
        exact hfound
      · rw [if_neg hkeyMem, if_neg (mt hmem.2 hkeyMem)]
        exact List.rel_append hfound (.cons hkey .nil)

lemma link_getLast? (h : List.Forall₂ link keys keys') {key key' : TypeKey}
    (hkey : keys.getLast? = some key) (hkey' : keys'.getLast? = some key') : link key key' := by
  induction h with
  | nil => cases hkey
  | cons head tail ih =>
      cases tail with
      | nil =>
          cases hkey
          cases hkey'
          exact head
      | cons second rest =>
          rw [List.getLast?_cons_cons] at hkey hkey'
          exact ih hkey hkey'

/-- Corresponding keys make a form into corresponding types. -/
lemma alike (form : Form) (hlink : Relator.BiUnique link) (h : List.Forall₂ link keys keys') :
    (form.type keys).Alike link (form.type keys') where
  bare := form.bare_type h.length_eq
  dependencies := by
    cases form with
    | struct name body layout => exact forall₂_foldl_addKey hlink h .nil
    | block body layout shape => exact h
  element {flexible flexible'} hflexible hflexible' := by
    cases form with
    | struct name body layout => cases hflexible
    | block body layout shape =>
        simp only [Form.type, Option.bind_eq_some_iff, Option.map_eq_some_iff]
          at hflexible hflexible'
        obtain ⟨_, -, last, hlast, rfl⟩ := hflexible
        obtain ⟨_, -, last', hlast', rfl⟩ := hflexible'
        exact link_getLast? h hlast hlast'

end Form

namespace Registry

variable {base registry registry' : Registry} {catalogue : Catalogue} {host : HostType}

/-- **Types under corresponding keys are the same up to corresponding keys.** -/
theorem Linked.alike (hgrown : Grown base catalogue registry)
    (hgrown' : Grown base catalogue registry') {key key' : TypeKey}
    (h : Linked base registry registry' key key') :
    (registry.type key).Alike (Linked base registry registry') (registry'.type key') := by
  cases h with
  | given hgiven =>
      rw [hgrown.extends_base.type hgiven, hgrown'.extends_base.type hgiven]
      have hsome : base.types[key.index]? = some (base.type key) := by
        rw [Registry.type, Array.getElem?_eq_getElem hgiven, Option.getD_some]
      have hbelow : ∀ other ∈ (base.type key).references, other.index < base.types.size :=
        fun other hother => Nat.lt_trans (hgrown.closed_base.references hsome other hother) hgiven
      refine ⟨rfl, ?_, ?_⟩
      · exact List.forall₂_same.2 fun other hother =>
          .given (hbelow other (List.mem_append_left _ hother))
      · intro flexible flexible' hflexible hflexible'
        rw [hflexible] at hflexible'
        cases hflexible'
        exact .given (hbelow _ (List.mem_append_right _ (by simp [hflexible])))
  | derived hnew hkey hkey' =>
      obtain ⟨asked, form, keys, hderives⟩ := hgrown.derived hnew hkey
      obtain ⟨asked', form', keys', hderives'⟩ := hgrown'.derived hnew hkey'
      obtain ⟨rfl, rfl⟩ := derives_unique hgrown hgrown' hderives hderives'
      rw [Registry.type, hderives.type, Registry.type, hderives'.type]
      exact form.alike (biUnique hgrown hgrown')
        (forall₂_linked hgrown hgrown' hderives.known hderives'.known)

/-! ## Equal outcomes -/

/-- A type that is not plain is listed. -/
lemma mem_described (h : catalogue.shape host ≠ .plain) :
    host ∈ catalogue.described.map (·.1) := by
  rw [Catalogue.shape] at h
  cases hfind : catalogue.described.find? (·.1 == host) with
  | none => simp [hfind] at h
  | some entry =>
      have heq : entry.1 = host := by simpa using List.find?_some hfind
      exact List.mem_map.2 ⟨entry, List.mem_of_find?_eq_some hfind, heq⟩

/-- The pending types are different described ones, and the depth that is left counts the others. -/
structure Ready (catalogue : Catalogue) (depth : Nat) (pending : List HostType) : Prop where
  nodup : pending.Nodup
  described : ∀ host ∈ pending, catalogue.shape host ≠ .plain
  depth_eq : pending.length + depth = catalogue.described.length + 1

namespace Ready

variable {depth : Nat} {pending : List HostType}

lemma nil : Ready catalogue (catalogue.described.length + 1) [] :=
  ⟨List.nodup_nil, by simp, by simp⟩

/-- There are no more described types than the catalogue has entries, so the depth never runs
out. -/
lemma depth_pos (h : Ready catalogue depth pending) : 0 < depth := by
  have hsubset : pending ⊆ catalogue.described.map (·.1) :=
    fun host hhost => mem_described (h.described host hhost)
  have hlength := (List.subperm_of_subset h.nodup hsubset).length_le
  rw [List.length_map] at hlength
  have := h.depth_eq
  omega

lemma cons (h : Ready catalogue (depth + 1) pending) (hnot : host ∉ pending)
    (hshape : catalogue.shape host ≠ .plain) : Ready catalogue depth (host :: pending) where
  nodup := List.nodup_cons.2 ⟨hnot, h.nodup⟩
  described := by
    intro other hother
    rcases List.mem_cons.1 hother with rfl | hother
    · exact hshape
    · exact h.described other hother
  depth_eq := by
    have := h.depth_eq
    rw [List.length_cons]
    omega

end Ready

lemma answer_of_typeKey? {key : TypeKey} (h : registry.typeKey? host = some key) :
    registry.answer host = some (registry.type key).bare := by
  obtain ⟨conversion, hconversion, rfl⟩ := Option.map_eq_some_iff.1 h
  rw [answer, typeOf?, hconversion]
  rfl

lemma typeKey_of_ok {convert : HostType → Action ConversionKey} {key : ConversionKey}
    (h : convert host registry = .ok key registry') :
    typeKey convert host registry = .ok (registry'.conversion key).type registry' :=
  Outcome.bind_of_ok h _

lemma typeKey_of_error {convert : HostType → Action ConversionKey} {error : SpecificationError}
    (h : convert host registry = .error error registry') :
    typeKey convert host registry = .error error registry' :=
  Outcome.bind_of_error h _

/-- A recipe that one registry shows to succeed succeeds on another where its questions do. -/
lemma follow_of_gives {convert : HostType → Action ConversionKey} {r : Recipe}
    {asked : List HostType} {form : Form} (keys : List TypeKey)
    (hlawful : Lawful base catalogue convert) (hgrown : Grown base catalogue registry)
    (hgrown' : Grown base catalogue registry') (hgives : r.Gives registry.answer asked form)
    (hconvert : ∀ other ∈ asked, ∀ middle, Grows base catalogue registry' middle →
      ∃ key after, convert other middle = .ok key after) :
    ∃ key after, r.follow convert keys registry' = .ok key after := by
  induction r generalizing asked keys registry' with
  | fail error => exact hgives.elim
  | done form => exact ⟨_, _, rfl⟩
  | ask other next ih =>
      obtain ⟨type, rest, hanswer, rfl, hgives⟩ := hgives
      obtain ⟨key, after, hok⟩ :=
        hconvert other List.mem_cons_self registry' (Grows.refl hgrown')
      have htypeKey := typeKey_of_ok hok
      obtain ⟨hgrows, hkey⟩ := typeKey_ok hlawful hgrown' htypeKey
      obtain rfl := answer_eq hgrown hgrows.grown hanswer (answer_of_typeKey? hkey)
      have hrest : ∀ host ∈ rest, ∀ middle, Grows base catalogue after middle →
          ∃ key after, convert host middle = .ok key after :=
        fun host hhost middle hmiddle =>
          hconvert host (List.mem_cons_of_mem _ hhost) middle (hgrows.trans hmiddle)
      obtain ⟨result, last, hfollow⟩ := ih _ _ hgrows.grown hgives hrest
      exact ⟨result, last, (Outcome.bind_of_ok htypeKey _).trans hfollow⟩

/-- **What one registry knows another can convert.**  The pending types must stand behind the host
type in the first registry, if they are there at all. -/
theorem convertWithin_of_known {depth : Nat} {key : TypeKey}
    (hgrown : Grown base catalogue registry) (hgrown' : Grown base catalogue registry')
    (hready : Ready catalogue depth registry'.pending)
    (hkey : registry.typeKey? host = some key)
    (hpending : ∀ other ∈ registry'.pending, ∀ otherKey, registry.typeKey? other = some otherKey →
      key.index < otherKey.index) :
    ∃ result after, convertWithin catalogue depth host registry' = .ok result after := by
  induction depth generalizing host key registry' with
  | zero => exact absurd hready.depth_pos (Nat.lt_irrefl 0)
  | succ depth ih =>
      cases hknown : registry'.key? host with
      | some result => exact ⟨result, registry', convertWithin_of_some hknown⟩
      | none =>
          have hnot : host ∉ registry'.pending :=
            fun hmem => Nat.lt_irrefl _ (hpending host hmem key hkey)
          have hnew : base.key? host = none := by
            cases hbase : base.key? host with
            | none => rfl
            | some given => rw [hgrown'.extends_base.keys hbase] at hknown; cases hknown
          obtain ⟨asked, form, keys, hderives⟩ := hgrown.derived hnew hkey
          have hshape : catalogue.shape host ≠ .plain := by
            intro hplain
            have hgives := hderives.gives
            rw [hplain] at hgives
            exact hgives.elim
          obtain ⟨result, after, hfollow⟩ := follow_of_gives [] (convertWithin_lawful depth) hgrown
            (hgrown'.begin host) hderives.gives (by
              intro other hother middle hmiddle
              obtain ⟨otherKey, hotherKey, hbefore⟩ := hderives.lt hgrown.closed hother
              refine ih hmiddle.grown ?_ hotherKey ?_
              · rw [hmiddle.pending]
                exact hready.cons hnot hshape
              · rw [hmiddle.pending]
                intro waiting hwaiting waitingKey hwaitingKey
                rcases List.mem_cons.1 hwaiting with rfl | hwaiting
                · rw [hkey] at hwaitingKey
                  cases hwaitingKey
                  exact hbefore
                · exact Nat.lt_trans hbefore (hpending waiting hwaiting waitingKey hwaitingKey))
          exact ⟨result, after.finish.assign host result, by
            rw [convertWithin_succ hknown hnot, hfollow]⟩

/-- A recipe has the same outcome on both registries if its questions have. -/
lemma follow_same {convert : HostType → Action ConversionKey} (r : Recipe)
    (keys keys' : List TypeKey) (hlawful : Lawful base catalogue convert)
    (hgrown : Grown base catalogue registry)
    (hgrown' : Grown base catalogue registry')
    (hconvert : ∀ other middle middle', Grows base catalogue registry middle →
      Grows base catalogue registry' middle' →
      Outcome.Same (convert other middle) (convert other middle')) :
    Outcome.Same (r.follow convert keys registry) (r.follow convert keys' registry') := by
  induction r generalizing keys keys' registry registry' with
  | fail error => rfl
  | done form => trivial
  | ask other next ih =>
      have hsame := hconvert other registry registry' (Grows.refl hgrown) (Grows.refl hgrown')
      rw [Recipe.follow, Recipe.follow]
      cases hok : convert other registry with
      | error error after =>
          cases hok' : convert other registry' with
          | error error' after' =>
              rw [hok, hok'] at hsame
              rw [Outcome.bind_of_error (typeKey_of_error hok),
                Outcome.bind_of_error (typeKey_of_error hok')]
              exact hsame
          | ok key' after' => rw [hok, hok'] at hsame; exact hsame.elim
      | ok key after =>
          cases hok' : convert other registry' with
          | error error' after' => rw [hok, hok'] at hsame; exact hsame.elim
          | ok key' after' =>
              obtain ⟨hgrows, hkey⟩ := typeKey_ok hlawful hgrown (typeKey_of_ok hok)
              obtain ⟨hgrows', hkey'⟩ := typeKey_ok hlawful hgrown' (typeKey_of_ok hok')
              have hanswer := answer_eq hgrows.grown hgrows'.grown (answer_of_typeKey? hkey)
                (answer_of_typeKey? hkey')
              rw [Outcome.bind_of_ok (typeKey_of_ok hok), Outcome.bind_of_ok (typeKey_of_ok hok')]
              change Outcome.Same (Recipe.follow convert (next _) _ after)
                (Recipe.follow convert (next _) _ after')
              rw [hanswer]
              exact ih _ _ _ hgrows.grown hgrows'.grown fun host middle middle' hmiddle hmiddle' =>
                hconvert host middle middle' (hgrows.trans hmiddle) (hgrows'.trans hmiddle')

/-- The step of `convertWithin_same`: a type that neither registry knows. -/
lemma recipe_same (hgrown : Grown base catalogue registry)
    (hgrown' : Grown base catalogue registry') {depth : Nat}
    (hpending : registry'.pending = registry.pending)
    (hready : Ready catalogue (depth + 1) registry.pending)
    (hwaiting : ∀ other ∈ registry.pending, registry.key? other = none)
    (hwaiting' : ∀ other ∈ registry.pending, registry'.key? other = none)
    (hkey : registry.key? host = none) (hkey' : registry'.key? host = none)
    (hnot : host ∉ registry.pending)
    (ih : ∀ other middle middle', Grown base catalogue middle → Grown base catalogue middle' →
      middle'.pending = middle.pending → Ready catalogue depth middle.pending →
      (∀ waiting ∈ middle.pending, middle.key? waiting = none) →
      (∀ waiting ∈ middle.pending, middle'.key? waiting = none) →
      Outcome.Same (convertWithin catalogue depth other middle)
        (convertWithin catalogue depth other middle')) :
    Outcome.Same
      ((recipe host (catalogue.shape host)).follow (convertWithin catalogue depth) []
        (registry.begin host))
      ((recipe host (catalogue.shape host)).follow (convertWithin catalogue depth) []
        (registry'.begin host)) := by
  by_cases hshape : catalogue.shape host = .plain
  · rw [hshape]
    rfl
  · apply follow_same _ [] [] (convertWithin_lawful depth) (hgrown.begin host) (hgrown'.begin host)
    intro other middle middle' hmiddle hmiddle'
    have hmiddlePending : middle.pending = host :: registry.pending := hmiddle.pending
    have hmiddlePending' : middle'.pending = host :: registry.pending :=
      hmiddle'.pending.trans (congrArg _ hpending)
    refine ih other middle middle' hmiddle.grown hmiddle'.grown
      (hmiddlePending'.trans hmiddlePending.symm) (hmiddlePending ▸ hready.cons hnot hshape) ?_ ?_
    · intro waiting hmem
      apply hmiddle.waiting waiting (hmiddle.pending ▸ hmem)
      rcases List.mem_cons.1 (hmiddlePending ▸ hmem) with rfl | hmem
      · exact hkey
      · exact hwaiting waiting hmem
    · intro waiting hmem
      apply hmiddle'.waiting waiting
      · rw [← hmiddle'.pending, hmiddlePending', ← hmiddlePending]
        exact hmem
      · rcases List.mem_cons.1 (hmiddlePending ▸ hmem) with rfl | hmem
        · exact hkey'
        · exact hwaiting' waiting hmem

/-- **Conversions in registries of different histories have the same outcome.** -/
theorem convertWithin_same (hgrown : Grown base catalogue registry)
    (hgrown' : Grown base catalogue registry') {depth : Nat}
    (hpending : registry'.pending = registry.pending)
    (hready : Ready catalogue depth registry.pending)
    (hwaiting : ∀ other ∈ registry.pending, registry.key? other = none)
    (hwaiting' : ∀ other ∈ registry.pending, registry'.key? other = none) :
    Outcome.Same (convertWithin catalogue depth host registry)
      (convertWithin catalogue depth host registry') := by
  induction depth generalizing host registry registry' with
  | zero => exact absurd hready.depth_pos (Nat.lt_irrefl 0)
  | succ depth ih =>
      cases hkey : registry.key? host with
      | some key =>
          obtain ⟨result, after, hok⟩ := convertWithin_of_known hgrown hgrown' (hpending ▸ hready)
            (typeKey?_of_key? hkey) (by
              intro other hother otherKey hotherKey
              rw [typeKey?_eq_none.2 (hwaiting other (hpending ▸ hother))] at hotherKey
              cases hotherKey)
          rw [convertWithin_of_some hkey, hok]
          trivial
      | none =>
          cases hkey' : registry'.key? host with
          | some key' =>
              obtain ⟨result, after, hok⟩ := convertWithin_of_known hgrown' hgrown hready
                (typeKey?_of_key? hkey') (by
                  intro other hother otherKey hotherKey
                  rw [typeKey?_eq_none.2 (hwaiting' other hother)] at hotherKey
                  cases hotherKey)
              rw [convertWithin_of_some hkey', hok]
              trivial
          | none =>
              by_cases hmem : host ∈ registry.pending
              · rw [convertWithin_of_pending hkey hmem,
                  convertWithin_of_pending hkey' (hpending ▸ hmem)]
                rfl
              · have hsame := recipe_same hgrown hgrown' hpending hready hwaiting hwaiting' hkey
                  hkey' hmem fun other middle middle' => ih
                rw [convertWithin_succ hkey hmem, convertWithin_succ hkey' (hpending ▸ hmem)]
                generalize (recipe host (catalogue.shape host)).follow _ _ (registry.begin host) =
                  result at hsame ⊢
                generalize (recipe host (catalogue.shape host)).follow _ _ (registry'.begin host) =
                  result' at hsame ⊢
                cases result <;> cases result' <;> exact hsame

theorem convert_same (hgrown : Grown base catalogue registry)
    (hgrown' : Grown base catalogue registry') (hpending : registry.pending = [])
    (hpending' : registry'.pending = []) :
    Outcome.Same (convert catalogue host registry) (convert catalogue host registry') := by
  apply convertWithin_same hgrown hgrown' (hpending'.trans hpending.symm)
  · rw [hpending]
    exact Ready.nil
  · simp [hpending]
  · simp [hpending]

end Registry

end ShaderWeave
