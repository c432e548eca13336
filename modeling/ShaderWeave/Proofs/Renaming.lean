import ShaderWeave.Proofs.Consistency
import ShaderWeave.Proofs.History

/-!
# Answers up to the names of keys

The keys of a registry tell in which order its types came.  So what a conversion answers after other
conversions differs from what it answers without them, but **only by a renaming of keys**:
`Registry.convert_renamed`.

The keys of all types that the two answers are made of correspond by `Registry.Linked`, one to one.
Such a correspondence is part of an injective map of all keys (`relabel`), and types that are alike
up to it are renamed to each other by that map (`GpuType.Alike.rename_eq`).
-/

namespace ShaderWeave

/-! ## Renaming -/

/-- The type with other keys in it. -/
def GpuType.rename (map : TypeKey → TypeKey) (type : GpuType) : GpuType :=
  { type with
    flexible := type.flexible.map fun flexible => { flexible with element := map flexible.element }
    dependencies := type.dependencies.map map }

/-- The conversion to another key. -/
def Conversion.rename (map : TypeKey → TypeKey) (conversion : Conversion) : Conversion :=
  { conversion with type := map conversion.type }

section Relabel

variable {link : TypeKey → TypeKey → Prop} {bound : Nat} {key key' : TypeKey}

open Classical in
/-- The map of a correspondence.  Keys that correspond to none go above a bound. -/
noncomputable def relabel (link : TypeKey → TypeKey → Prop) (bound : Nat) (key : TypeKey) :
    TypeKey :=
  if h : ∃ key', link key key' then h.choose else ⟨bound + key.index⟩

lemma relabel_of_link (hlink : Relator.BiUnique link) (h : link key key') :
    relabel link bound key = key' := by
  have hexists : ∃ key', link key key' := ⟨key', h⟩
  rw [relabel, dif_pos hexists]
  exact hlink.2 hexists.choose_spec h

lemma relabel_injective (hlink : Relator.BiUnique link)
    (hbound : ∀ {key key'}, link key key' → key'.index < bound) :
    Function.Injective (relabel link bound) := by
  have hother : ∀ {key}, (¬ ∃ key', link key key') →
      relabel link bound key = ⟨bound + key.index⟩ := fun h => dif_neg h
  -- A key that corresponds to one stays below the bound, where no other key goes.
  have hmixed : ∀ {key other}, (∃ key', link key key') → (¬ ∃ key', link other key') →
      relabel link bound key ≠ relabel link bound other := by
    rintro key other ⟨key', h⟩ hnone heq
    have hlt := hbound h
    rw [relabel_of_link hlink h, hother hnone] at heq
    rw [heq] at hlt
    exact Nat.not_lt.2 (Nat.le_add_right _ _) hlt
  intro key other heq
  by_cases hkey : ∃ key', link key key'
  · by_cases hcorresponds : ∃ key', link other key'
    · obtain ⟨key', hkey⟩ := hkey
      obtain ⟨other', hcorresponds⟩ := hcorresponds
      rw [relabel_of_link hlink hkey, relabel_of_link hlink hcorresponds] at heq
      exact hlink.1 hkey (heq ▸ hcorresponds)
    · exact absurd heq (hmixed hkey hcorresponds)
  · by_cases hcorresponds : ∃ key', link other key'
    · exact absurd heq.symm (hmixed hcorresponds hkey)
    · rw [hother hkey, hother hcorresponds, TypeKey.mk.injEq] at heq
      exact congrArg TypeKey.mk (Nat.add_left_cancel heq)

end Relabel

namespace GpuType.Alike

variable {link : TypeKey → TypeKey → Prop} {type type' : GpuType}

lemma flexible_bare_eq (h : type.Alike link type') : type.bare.flexible = type'.bare.flexible :=
  congrArg GpuType.flexible h.bare

/-- If a type has elements, so has one that is alike. -/
lemma exists_flexible (h : type.Alike link type') {flexible : FlexibleMember}
    (hflexible : type.flexible = some flexible) :
    ∃ element, type'.flexible = some { flexible with element } ∧ link flexible.element element := by
  have hbare := h.flexible_bare_eq
  simp only [GpuType.bare, hflexible, Option.map_some] at hbare
  obtain ⟨flexible', hflexible', heq⟩ := Option.map_eq_some_iff.1 hbare.symm
  refine ⟨flexible'.element, hflexible'.trans (congrArg some ?_), h.element hflexible hflexible'⟩
  cases flexible
  cases flexible'
  cases heq
  rfl

/-- Every key in a type corresponds to one in a type that is alike. -/
lemma exists_reference (h : type.Alike link type') {key : TypeKey} (hkey : key ∈ type.references) :
    ∃ key', link key key' := by
  rcases List.mem_append.1 hkey with hkey | hkey
  · obtain ⟨index, hindex, rfl⟩ := List.getElem_of_mem hkey
    exact ⟨_, h.dependencies.get hindex (h.dependencies.length_eq ▸ hindex)⟩
  · rw [Option.mem_toList, Option.map_eq_some_iff] at hkey
    obtain ⟨flexible, hflexible, rfl⟩ := hkey
    obtain ⟨element, -, hlink⟩ := h.exists_flexible hflexible
    exact ⟨element, hlink⟩

/-- Types that are alike up to a map of keys are renamed to each other. -/
lemma rename_eq (h : type.Alike link type') {map : TypeKey → TypeKey}
    (hmap : ∀ {key key'}, link key key' → map key = key') : type.rename map = type' := by
  have hdependencies : (type.rename map).dependencies = type'.dependencies := by
    rw [← List.forall₂_eq_eq_eq]
    exact List.forall₂_map_left_iff.2 (h.dependencies.imp fun _ _ => hmap)
  have hflexible : (type.rename map).flexible = type'.flexible := by
    cases hsome : type.flexible with
    | none =>
        have hbare := h.flexible_bare_eq
        simp only [GpuType.bare, hsome, Option.map_none] at hbare
        rw [rename, hsome, Option.map_eq_none_iff.1 hbare.symm, Option.map_none]
    | some flexible =>
        obtain ⟨element, helement, hlink⟩ := h.exists_flexible hsome
        rw [rename, hsome, helement, Option.map_some, hmap hlink]
  calc type.rename map
    _ = { type with flexible := type'.flexible, dependencies := type'.dependencies } := by
        rw [← hflexible, ← hdependencies]
        rfl
    _ = type' := by
        have hvalue := h.valueName_eq
        have hhandle := h.handleName_eq
        have hbody := h.body_eq
        have hlayout := h.layout_eq
        cases type
        cases type'
        cases hvalue
        cases hhandle
        cases hbody
        cases hlayout
        rfl

end GpuType.Alike

namespace Registry

variable {base registry registry' : Registry} {catalogue : Catalogue} {host : HostType}

/-- The same error, or conversions that are the same up to a renaming of keys, and so are all the
types that theirs are made of. -/
def Renamed : EStateM.Result SpecificationError Registry ConversionKey →
    EStateM.Result SpecificationError Registry ConversionKey → Prop
  | .error error _, .error error' _ => error = error'
  | .ok key registry, .ok key' registry' =>
    ∃ map : TypeKey → TypeKey, Function.Injective map ∧ ∃ conversion,
      registry.conversions[key.index]? = some conversion ∧
        registry'.conversions[key'.index]? = some (conversion.rename map) ∧
        ∀ part, Relation.ReflTransGen registry.DependsOn conversion.type part → ∃ type,
          registry.types[part.index]? = some type ∧
            registry'.types[(map part).index]? = some (type.rename map)
  | _, _ => False

namespace Linked

variable {key key' part : TypeKey} (hgrown : Grown base catalogue registry)
  (hgrown' : Grown base catalogue registry')

include hgrown' in
lemma lt_size (h : Linked base registry registry' key key') :
    key'.index < registry'.types.size := by
  cases h with
  | given h => exact Nat.lt_of_lt_of_le h hgrown'.extends_base.size_types_le
  | derived _ _ h' => exact typeKey?_lt hgrown'.closed h'

include hgrown hgrown'

/-- What a type is made of corresponds to something, if the type does. -/
lemma of_dependsOn (h : Linked base registry registry' key key')
    (hpart : Relation.ReflTransGen registry.DependsOn key part) :
    ∃ part', Linked base registry registry' part part' := by
  induction hpart with
  | refl => exact ⟨key', h⟩
  | tail _ hstep ih =>
      obtain ⟨middle', hmiddle⟩ := ih
      exact (hmiddle.alike hgrown hgrown').exists_reference hstep

end Linked

lemma getElem?_types {key : TypeKey} (h : key.index < registry.types.size) :
    registry.types[key.index]? = some (registry.type key) := by
  rw [Registry.type, Array.getElem?_eq_getElem h, Option.getD_some]

/-- Conversions that two grown registries know differ by a renaming of keys. -/
lemma renamed_of_key? (hgrown : Grown base catalogue registry)
    (hgrown' : Grown base catalogue registry') {key key' : ConversionKey}
    (h : registry.key? host = some key) (h' : registry'.key? host = some key') :
    Renamed (.ok key registry) (.ok key' registry') := by
  have hbiUnique := Linked.biUnique hgrown hgrown'
  have hmap : ∀ {part part'}, Linked base registry registry' part part' →
      relabel (Linked base registry registry') registry'.types.size part = part' :=
    relabel_of_link hbiUnique
  have hconversion := Array.getElem?_eq_getElem (hgrown.closed.keys h)
  have hconversion' := Array.getElem?_eq_getElem (hgrown'.closed.keys h')
  have hlookup := (lookup?_eq_some hgrown.closed).2 ⟨key, h, hconversion⟩
  have hlookup' := (lookup?_eq_some hgrown'.closed).2 ⟨key', h', hconversion'⟩
  have hlinked := linked_of_typeKey? hgrown hgrown'
    (congrArg (Option.map Conversion.type) hlookup) (congrArg (Option.map Conversion.type) hlookup')
  refine ⟨_, relabel_injective hbiUnique (Linked.lt_size hgrown'), _, hconversion, ?_, ?_⟩
  · rw [hconversion', lookup?_alike hgrown hgrown' hlookup hlookup', Conversion.rename,
      hmap hlinked]
  · intro part hpart
    obtain ⟨part', hlinkedPart⟩ := hlinked.of_dependsOn hgrown hgrown' hpart
    have halike := hlinkedPart.alike hgrown hgrown'
    refine ⟨registry.type part, getElem?_types (hlinkedPart.symm.lt_size hgrown), ?_⟩
    rw [hmap hlinkedPart, halike.rename_eq hmap]
    exact getElem?_types (hlinkedPart.lt_size hgrown')

lemma pending_after (hgrown : Grown base catalogue registry) (hosts : List HostType) :
    (after catalogue registry hosts).pending = registry.pending := by
  induction hosts generalizing registry with
  | nil => rfl
  | cons host hosts ih =>
      obtain ⟨hafter, -, hpending, -⟩ :
        Grows base catalogue registry (afterConvert catalogue registry host) :=
        grows_afterConvert hgrown
      exact (ih hafter).trans hpending

/-- **Answers do not depend on history.**  Take a registry that came about by any calls, by hand or
not, and the same registry after any conversions, whether they succeeded or failed.  A conversion
fails on both with the same error, or gives the same on both up to a renaming of keys. -/
theorem convert_renamed (catalogue : Catalogue) (calls : List RegistryCall)
    (hissued : KeysIssued catalogue ofBasics calls) (hosts : List HostType) (host : HostType) :
    Renamed
      (convert catalogue host (after catalogue (afterCalls catalogue ofBasics calls) hosts))
      (convert catalogue host (afterCalls catalogue ofBasics calls)) := by
  obtain ⟨hidle, hclosed, -⟩ := consistent_ofBasics.afterCalls hissued
  generalize afterCalls catalogue ofBasics calls = base at hidle hclosed ⊢
  have hbase : Grown base catalogue base := Grown.refl hclosed
  have hgrown := hbase.after hosts
  have hsame : Outcome.Same (convert catalogue host (after catalogue base hosts))
      (convert catalogue host base) :=
    convert_same hgrown hbase ((pending_after hbase hosts).trans hidle) hidle
  have hlands := convert_lawful host _ hgrown
  have hlands' := convert_lawful host _ hbase
  generalize convert catalogue host (after catalogue base hosts) = result at hsame hlands ⊢
  generalize convert catalogue host base = result' at hsame hlands' ⊢
  cases result with
  | error error registry =>
      cases result' with
      | error error' registry' => exact hsame
      | ok key' registry' => exact hsame
  | ok key registry =>
      cases result' with
      | error error' registry' => exact hsame
      | ok key' registry' =>
          exact renamed_of_key? hlands.1.grown hlands'.1.grown hlands.2 hlands'.2

/-- After a chain of torches was refused, torches have another key than without it: lanterns came
first. -/
theorem convert_renamed_torch :
    (after torches (afterCalls torches ofBasics tintCalls) [torchChain, torch]).typeKey? torch ≠
        (after torches (afterCalls torches ofBasics tintCalls) [torch]).typeKey? torch ∧
      Outcome.succeeds (convert torches torch (afterCalls torches ofBasics tintCalls)) = true ∧
      Renamed
        (convert torches torch (after torches (afterCalls torches ofBasics tintCalls) [torchChain]))
        (convert torches torch (afterCalls torches ofBasics tintCalls)) :=
  ⟨by decide +kernel, by decide +kernel,
    convert_renamed torches tintCalls (by decide +kernel) [torchChain] torch⟩

end Registry

end ShaderWeave
