import ShaderWeave.Proofs.Beside
import ShaderWeave.Proofs.Effects
import ShaderWeave.Proofs.History

/-!
# Drafts of different histories

Drafting reads and extends the registry.  Two drafts whose registries have grown from one base run
side by side (`Drafting.bond`).

**What both have met.**  A type may be read without being converted first, so a draft can see that
another has more types than itself.  It only looks at types that it has converted before or that
carry no data, and of those both drafts know the same (`Draft.Met`).

**Storage.**  Every stage gets the same storage in both drafts.  Only the keys of its types differ,
and they correspond, in the same order: `Drafting.beside_assignStages`.
-/

namespace ShaderWeave

open Registry

/-! ## Types in order -/

namespace Registry

variable {base registry registry' : Registry} {catalogue : Catalogue}

lemma Closed.index_lt (hclosed : registry.Closed) {key dependency : TypeKey}
    (h : dependency ∈ (registry.type key).dependencies) : dependency.index < key.index := by
  rw [Registry.type] at h
  cases htype : registry.types[key.index]? with
  | none => simp [htype] at h
  | some type =>
      rw [htype, Option.getD_some] at h
      exact hclosed.references htype dependency (List.mem_append_left _ h)

/-- Corresponding types are put in order alike. -/
lemma forall₂_declare (hgrown : Grown base catalogue registry)
    (hgrown' : Grown base catalogue registry') {depth depth' : Nat} {order order' : List TypeKey}
    {key key' : TypeKey} (horder : List.Forall₂ (Linked base registry registry') order order')
    (hkey : Linked base registry registry' key key') (hdepth : key.index < depth)
    (hdepth' : key'.index < depth') :
    List.Forall₂ (Linked base registry registry') (registry.declare depth order key)
      (registry'.declare depth' order' key') := by
  induction depth generalizing depth' order order' key key' with
  | zero => omega
  | succ depth ih =>
      cases depth' with
      | zero => omega
      | succ depth' =>
          have hmem : key ∈ order ↔ key' ∈ order' :=
            List.rel_mem (Linked.biUnique hgrown hgrown') hkey horder
          rw [declare, declare]
          by_cases hin : key ∈ order
          · rw [if_pos hin, if_pos (hmem.1 hin)]
            exact horder
          · rw [if_neg hin, if_neg (mt hmem.2 hin)]
            refine List.rel_append ?_ (.cons hkey .nil)
            -- Dependencies are earlier types, so the depth that is left is enough for them.
            obtain ⟨hlength, hzip⟩ :=
              List.forall₂_iff_zip.1 (hkey.alike hgrown hgrown').dependencies
            have hbelow : List.Forall₂ (fun d d' => Linked base registry registry' d d' ∧
                d.index < depth ∧ d'.index < depth') (registry.type key).dependencies
                (registry'.type key').dependencies := by
              refine List.forall₂_iff_zip.2 ⟨hlength, fun {d d'} hd => ⟨hzip hd, ?_, ?_⟩⟩
              · have := hgrown.closed.index_lt (List.of_mem_zip hd).1
                omega
              · have := hgrown'.closed.index_lt (List.of_mem_zip hd).2
                omega
            exact List.rel_foldl (fun _ _ horder _ _ hd => ih horder hd.1 hd.2.1 hd.2.2) horder
              hbelow

end Registry

/-! ## Pairs of drafts -/

namespace Draft

/-- Both drafts know the type, or it carries no data. -/
def Met (draft draft' : Draft) (type : HostType) : Prop :=
  type = .void ∨ draft.registry.key? type ≠ none ∧ draft'.registry.key? type ≠ none

/-- Two drafts of the same program so far, with registries that have grown from one base.  Growing
never gives the void type a conversion. -/
structure Paired (base : Registry) (catalogue : Catalogue) (draft draft' : Draft) : Prop where
  void : base.key? .void ≠ none ∨ catalogue.shape .void = .plain
  grown : Grown base catalogue draft.registry
  grown' : Grown base catalogue draft'.registry
  pending : draft.registry.pending = []
  pending' : draft'.registry.pending = []
  program : draft.program = draft'.program
  met : ∀ cls, ∀ property ∈ (draft.program.list cls).entries, Met draft draft' property.type

/-- Both registries have gone on. -/
structure Onward (draft draft' after after' : Draft) : Prop where
  registry : draft.registry.Extends after.registry
  registry' : draft'.registry.Extends after'.registry

variable {draft draft' after after' : Draft} {type : HostType}

lemma Met.onward (h : Met draft draft' type) (honward : Onward draft draft' after after') :
    Met after after' type := by
  rcases h with h | ⟨h, h'⟩
  · exact Or.inl h
  · exact Or.inr ⟨honward.registry.key?_ne_none h, honward.registry'.key?_ne_none h'⟩

/-- Two storages of a stage before its types are put in order.  Both drafts have met what is handed
on and what is copied. -/
structure Assigned (draft draft' : Draft) (storage storage' : StageStorage) : Prop where
  eq : storage = storage'
  outputs : ∀ property ∈ storage.outputs.entries, Met draft draft' property.type
  innerCopies : ∀ property ∈ storage.innerCopies.entries, Met draft draft' property.type

namespace Assigned

variable {storage storage' : StageStorage} {property : Property}

lemma onward (h : Assigned draft draft' storage storage')
    (honward : Onward draft draft' after after') : Assigned after after' storage storage' where
  eq := h.eq
  outputs property hproperty := (h.outputs property hproperty).onward honward
  innerCopies property hproperty := (h.innerCopies property hproperty).onward honward

/-- A storage that differs only in what is not handed on and not copied. -/
lemma change (h : Assigned draft draft' storage storage)
    (houtputs : storage'.outputs = storage.outputs)
    (hcopies : storage'.innerCopies = storage.innerCopies) :
    Assigned draft draft' storage' storage' where
  eq := rfl
  outputs := houtputs ▸ h.outputs
  innerCopies := hcopies ▸ h.innerCopies

lemma addOutput (h : Assigned draft draft' storage storage)
    (hmet : Met draft draft' property.type) :
    Assigned draft draft' (storage.addOutput property) (storage.addOutput property) where
  eq := rfl
  outputs := by
    intro p hp
    rcases PropertyList.mem_entries_of_insert hp with hp | rfl
    · exact h.outputs p hp
    · exact hmet
  innerCopies := h.innerCopies

end Assigned

/-- Two storages of a stage.  They differ in the keys of the types, which correspond, and both
drafts have met every type that the stage mentions. -/
structure Stored (base : Registry) (plan : StagePlan) (draft draft' : Draft)
    (storage storage' : StageStorage) : Prop where
  eq : storage' = { storage with types := storage'.types }
  types : List.Forall₂ (Linked base draft.registry draft'.registry) storage.types storage'.types
  mentioned : ∀ type ∈ (Drafting.stageTypes plan storage).order, Met draft draft' type
  innerCopies : ∀ property ∈ storage.innerCopies.entries, Met draft draft' property.type

end Draft

namespace Drafting

/-- The pairs of drafts that run side by side. -/
def bond (base : Registry) (catalogue : Catalogue) : Bond Draft where
  Rel := Draft.Paired base catalogue
  Goes := Draft.Onward
  refl _ _ := ⟨Extends.refl _, Extends.refl _⟩
  trans h h' := ⟨h.registry.trans h'.registry, h.registry'.trans h'.registry'⟩

variable {base : Registry} {setting : Setting} {draft draft' : Draft} {type : HostType}

/-! ## Conversions -/

/-- Both drafts have the conversion of a type. -/
def Converted (type : HostType) (draft draft' : Draft) (conversion conversion' : Conversion) :
    Prop :=
  draft.registry.lookup? type = some conversion ∧ draft'.registry.lookup? type = some conversion'

/-- Both drafts have the GPU type of a type. -/
def Typed (type : HostType) (draft draft' : Draft) (gpuType gpuType' : GpuType) : Prop :=
  draft.registry.typeOf? type = some gpuType ∧ draft'.registry.typeOf? type = some gpuType'

lemma beside_onRegistry (h : Draft.Paired base setting.catalogue draft draft') :
    (bond base setting.catalogue).Beside
      (fun after after' key key' => after.registry.key? type = some key ∧
        after'.registry.key? type = some key')
      (onRegistry (Registry.convert setting.catalogue type))
      (onRegistry (Registry.convert setting.catalogue type)) draft draft' := by
  have hsame : Outcome.Same (Registry.convert setting.catalogue type draft.registry)
    (Registry.convert setting.catalogue type draft'.registry) :=
    convert_same h.grown h.grown' h.pending h.pending'
  have hlands := convert_lawful type draft.registry h.grown
  have hlands' := convert_lawful type draft'.registry h.grown'
  have hpaired : ∀ {registry registry'}, Grows base setting.catalogue draft.registry registry →
      Grows base setting.catalogue draft'.registry registry' →
      Draft.Paired base setting.catalogue (settle draft registry) (settle draft' registry') := by
    intro registry registry' hgrows hgrows'
    refine ⟨h.void, hgrows.grown, hgrows'.grown, hgrows.pending.trans h.pending,
      hgrows'.pending.trans h.pending', h.program, fun cls property hproperty => ?_⟩
    exact (h.met cls property hproperty).onward ⟨hgrows.extends_start, hgrows'.extends_start⟩
  rw [Bond.Beside, onRegistry, onRegistry]
  generalize Registry.convert setting.catalogue type draft.registry = result at *
  generalize Registry.convert setting.catalogue type draft'.registry = result' at *
  cases result with
  | ok key registry =>
      cases result' with
      | ok key' registry' =>
          exact ⟨hpaired hlands.1 hlands'.1, ⟨hlands.1.extends_start, hlands'.1.extends_start⟩,
            hlands.2, hlands'.2⟩
      | error error' registry' => exact hsame.elim
  | error error registry =>
      cases result' with
      | ok key' registry' => exact hsame.elim
      | error error' registry' =>
          exact ⟨hsame, hpaired hlands hlands', ⟨hlands.extends_start, hlands'.extends_start⟩⟩

lemma beside_convert (h : Draft.Paired base setting.catalogue draft draft') :
    (bond base setting.catalogue).Beside (Converted type) (convert setting type)
      (convert setting type) draft draft' := by
  refine (beside_onRegistry h).bind fun key key' after after' hrel _ hkeys => ?_
  refine ⟨hrel, Bond.refl _ _ _, ?_, ?_⟩
  · rw [lookup?, hkeys.1]
    rfl
  · rw [lookup?, hkeys.2]
    rfl

lemma beside_gpuType (h : Draft.Paired base setting.catalogue draft draft') :
    (bond base setting.catalogue).Beside (Typed type) (gpuType setting type)
      (gpuType setting type) draft draft' := by
  refine (beside_convert h).bind fun conversion conversion' after after' hrel _ hfound => ?_
  refine ⟨hrel, Bond.refl _ _ _, ?_, ?_⟩
  · rw [typeOf?, hfound.1]
    rfl
  · rw [typeOf?, hfound.2]
    rfl

/-! ## What both drafts see -/

lemma linked_onward {key key' : TypeKey} {after after' : Draft}
    (hpaired : Draft.Paired base setting.catalogue draft draft')
    (honward : Draft.Onward draft draft' after after')
    (h : Linked base draft.registry draft'.registry key key') :
    Linked base after.registry after'.registry key key' :=
  h.mono hpaired.grown.closed hpaired.grown'.closed honward.registry honward.registry'

lemma Converted.met {conversion conversion' : Conversion}
    (h : Converted type draft draft' conversion conversion') : Draft.Met draft draft' type := by
  refine Or.inr ⟨fun hnone => ?_, fun hnone => ?_⟩
  · have := h.1
    simp [lookup?, hnone] at this
  · have := h.2
    simp [lookup?, hnone] at this

lemma Typed.met {gpuType gpuType' : GpuType} (h : Typed type draft draft' gpuType gpuType') :
    Draft.Met draft draft' type := by
  refine Or.inr ⟨fun hnone => ?_, fun hnone => ?_⟩
  · have := h.1
    simp [typeOf?, lookup?, hnone] at this
  · have := h.2
    simp [typeOf?, lookup?, hnone] at this

lemma Typed.alike (hpaired : Draft.Paired base setting.catalogue draft draft')
    {gpuType gpuType' : GpuType} (h : Typed type draft draft' gpuType gpuType') :
    gpuType.Alike (Linked base draft.registry draft'.registry) gpuType' := by
  obtain ⟨conversion, hconversion, rfl⟩ := Option.map_eq_some_iff.1 h.1
  obtain ⟨conversion', hconversion', rfl⟩ := Option.map_eq_some_iff.1 h.2
  have hlinked : Linked base draft.registry draft'.registry conversion.type conversion'.type := by
    apply linked_of_typeKey? hpaired.grown hpaired.grown'
    · rw [typeKey?, hconversion, Option.map_some]
    · rw [typeKey?, hconversion', Option.map_some]
  exact hlinked.alike hpaired.grown hpaired.grown'

/-- A type that both have met has a conversion in both or in neither. -/
lemma key?_of_met (hpaired : Draft.Paired base setting.catalogue draft draft')
    (h : Draft.Met draft draft' type) :
    (draft.registry.key? type = none ∧ draft'.registry.key? type = none) ∨
      (∃ key, draft.registry.key? type = some key) ∧
        ∃ key', draft'.registry.key? type = some key' := by
  rw [← Option.ne_none_iff_exists', ← Option.ne_none_iff_exists']
  rcases h with rfl | h
  · by_cases hbase : base.key? .void = none
    · have hplain := hpaired.void.resolve_left (not_not_intro hbase)
      exact Or.inl ⟨hpaired.grown.key?_of_plain hplain hbase,
        hpaired.grown'.key?_of_plain hplain hbase⟩
    · exact Or.inr ⟨hpaired.grown.extends_base.key?_ne_none hbase,
        hpaired.grown'.extends_base.key?_ne_none hbase⟩
  · exact Or.inr h

lemma lookup?_of_met (hpaired : Draft.Paired base setting.catalogue draft draft')
    (h : Draft.Met draft draft' type) :
    (draft.registry.lookup? type = none ∧ draft'.registry.lookup? type = none) ∨
      ∃ conversion conversion', Converted type draft draft' conversion conversion' := by
  rcases key?_of_met hpaired h with ⟨hkey, hkey'⟩ | ⟨⟨key, hkey⟩, key', hkey'⟩
  · simp [lookup?, hkey, hkey']
  · exact Or.inr ⟨_, _, by rw [lookup?, hkey]; rfl, by rw [lookup?, hkey']; rfl⟩

lemma typeOf?_of_met (hpaired : Draft.Paired base setting.catalogue draft draft')
    (h : Draft.Met draft draft' type) :
    (draft.registry.typeOf? type = none ∧ draft'.registry.typeOf? type = none) ∨
      ∃ gpuType gpuType', Typed type draft draft' gpuType gpuType' := by
  rcases lookup?_of_met hpaired h with ⟨hnone, hnone'⟩ | ⟨conversion, conversion', hfound, hfound'⟩
  · simp [typeOf?, hnone, hnone']
  · exact Or.inr ⟨_, _, by rw [typeOf?, hfound]; rfl, by rw [typeOf?, hfound']; rfl⟩

/-! ## Storage of a stage -/

/-- Changes of the drafts that leave the registries alone. -/
lemma beside_modify {change change' : Draft → Draft}
    (h : Draft.Paired base setting.catalogue draft draft')
    (hregistry : (change draft).registry = draft.registry)
    (hregistry' : (change' draft').registry = draft'.registry)
    (hprogram : (change draft).program = (change' draft').program)
    (hmet : ∀ cls, ∀ property ∈ ((change draft).program.list cls).entries,
      Draft.Met draft draft' property.type) :
    (bond base setting.catalogue).Beside Bond.Equal (modify change : Drafting PUnit)
      (modify change') draft draft' := by
  have honward : Draft.Onward draft draft' (change draft) (change' draft') :=
    ⟨hregistry ▸ Extends.refl _, hregistry' ▸ Extends.refl _⟩
  refine ⟨⟨h.void, hregistry ▸ h.grown, hregistry' ▸ h.grown', hregistry ▸ h.pending,
    hregistry' ▸ h.pending', hprogram, fun cls property hproperty => ?_⟩, honward, rfl⟩
  exact (hmet cls property hproperty).onward honward

lemma beside_report (h : Draft.Paired base setting.catalogue draft draft') (events : List Event) :
    (bond base setting.catalogue).Beside Bond.Equal (report events) (report events) draft draft' :=
  beside_modify h rfl rfl h.program h.met

lemma beside_sourceConversion (h : Draft.Paired base setting.catalogue draft draft')
    (property : Property) :
    (bond base setting.catalogue).Beside (Converted property.type)
      (sourceConversion setting property) (sourceConversion setting property) draft draft' := by
  have hconvert : (bond base setting.catalogue).Beside (Converted property.type)
      (convert setting property.type) (convert setting property.type) draft draft' :=
    beside_convert h
  rw [Bond.Beside] at hconvert
  rw [Bond.Beside, sourceConversion, sourceConversion]
  generalize convert setting property.type draft = result at hconvert ⊢
  generalize convert setting property.type draft' = result' at hconvert ⊢
  cases result with
  | ok conversion after =>
      cases result' with
      | ok conversion' after' => exact hconvert
      | error error' after' => exact hconvert.elim
  | error error after =>
      cases result' with
      | ok conversion' after' => exact hconvert.elim
      | error error' after' =>
          obtain ⟨rfl, hrel, hgoes⟩ := hconvert
          cases error <;> exact ⟨rfl, hrel, hgoes⟩

/-- The storage class of a property is the same in both drafts. -/
lemma beside_classify (h : Draft.Paired base setting.catalogue draft draft') (property : Property) :
    (bond base setting.catalogue).Beside Bond.Equal (classify setting property)
      (classify setting property) draft draft' := by
  apply Bond.beside_get_bind
  rw [← h.program]
  cases draft.program.class? property.name with
  | some cls => exact Bond.beside_pure h rfl
  | none =>
      refine (beside_sourceConversion h property).bind fun conversion conversion' t t' hrel _
        hfound => ?_
      have hclass : conversion'.storageClass? = conversion.storageClass? := by
        rw [lookup?_alike hrel.grown hrel.grown' hfound.1 hfound.2]
        rfl
      rw [hclass]
      cases conversion.storageClass? with
      | none => exact Bond.beside_throw _ hrel
      | some cls =>
          refine (beside_report hrel _).bind fun _ _ u u' hrel hgoes _ => ?_
          refine (beside_modify hrel rfl rfl ?_ ?_).bind fun _ _ _ _ hrel _ _ => ?_
          · rw [hrel.program]
          · intro cls' p hp
            rcases ProgramStorage.mem_list_insert hp with hp | ⟨-, rfl⟩
            · exact hrel.met cls' p hp
            · exact hfound.met.onward hgoes
          · exact Bond.beside_pure hrel rfl

lemma beside_hasValueName (h : Draft.Paired base setting.catalogue draft draft')
    (property : Property) :
    (bond base setting.catalogue).Beside
      (fun after after' named named' => named = named' ∧ Draft.Met after after' property.type)
      (hasValueName setting property) (hasValueName setting property) draft draft' := by
  refine (beside_gpuType h).bind fun type type' _ _ hrel _ htyped => ?_
  exact Bond.beside_pure hrel ⟨by rw [(htyped.alike hrel).valueName_eq], htyped.met⟩

/-- Storage is assigned property by property. -/
lemma beside_assign {step : StageStorage → Property → Drafting StageStorage}
    {properties : List Property} {storage : StageStorage}
    (h : Draft.Paired base setting.catalogue draft draft')
    (hassigned : Draft.Assigned draft draft' storage storage)
    (hstep : ∀ storage property after after', Draft.Paired base setting.catalogue after after' →
      Draft.Assigned after after' storage storage →
      (bond base setting.catalogue).Beside Draft.Assigned (step storage property)
        (step storage property) after after') :
    (bond base setting.catalogue).Beside Draft.Assigned (properties.foldlM step storage)
      (properties.foldlM step storage) draft draft' := by
  apply Bond.beside_foldlM (A := fun _ => Draft.Assigned) h hassigned
  intro _ property storage storage' after after' _ hrel _ hassigned
  obtain rfl := hassigned.eq
  exact hstep storage property after after' hrel hassigned

lemma beside_assignSource {storage : StageStorage} {property : Property} {plan : StagePlan}
    {previous : Option Handover} (h : Draft.Paired base setting.catalogue draft draft')
    (hassigned : Draft.Assigned draft draft' storage storage) :
    (bond base setting.catalogue).Beside Draft.Assigned
      (assignSource setting plan previous storage property)
      (assignSource setting plan previous storage property) draft draft' := by
  refine Bond.beside_ite (fun _ => ?_) fun _ => Bond.beside_ite (fun _ => ?_) fun _ => ?_
  · refine (beside_modify h rfl rfl ?_ ?_).bind fun _ _ _ _ hrel hgoes _ => ?_
    · rw [h.program]
    · exact fun cls => h.met cls
    · exact Bond.beside_pure hrel ((hassigned.onward hgoes).change rfl rfl)
  · exact Bond.beside_pure h (hassigned.change rfl rfl)
  · refine (beside_classify h property).bind fun cls cls' _ _ hrel hgoes hcls => ?_
    obtain rfl := hcls
    refine Bond.beside_pure hrel ((hassigned.onward hgoes).change ?_ ?_)
    · cases cls <;> rfl
    · cases cls <;> rfl

lemma beside_assignFilter {storage : StageStorage} {property : Property} {plan : StagePlan}
    (h : Draft.Paired base setting.catalogue draft draft')
    (hassigned : Draft.Assigned draft draft' storage storage) :
    (bond base setting.catalogue).Beside Draft.Assigned
      (assignFilter setting plan storage property)
      (assignFilter setting plan storage property) draft draft' := by
  refine Bond.beside_ite (fun _ => Bond.beside_pure h hassigned) fun _ => ?_
  refine (beside_hasValueName h property).bind fun named named' _ _ hrel hgoes hnamed => ?_
  obtain ⟨rfl, hmet⟩ := hnamed
  have hstill := hassigned.onward hgoes
  refine Bond.beside_ite (fun _ => Bond.beside_throw _ hrel) fun _ =>
    Bond.beside_ite (fun _ => ?_) fun _ => ?_
  · exact Bond.beside_pure hrel ((hstill.addOutput hmet).change rfl rfl)
  · refine Bond.beside_pure hrel ⟨rfl, hstill.outputs, fun p hp => ?_⟩
    rcases PropertyList.mem_entries_of_insert hp with hp | rfl
    · exact hstill.innerCopies p hp
    · exact hmet

lemma beside_assignThrough {storage : StageStorage} {property : Property} {plan : StagePlan}
    {last : Bool} (h : Draft.Paired base setting.catalogue draft draft')
    (hassigned : Draft.Assigned draft draft' storage storage) :
    (bond base setting.catalogue).Beside Draft.Assigned
      (assignThrough setting plan last storage property)
      (assignThrough setting plan last storage property) draft draft' := by
  refine Bond.beside_ite (fun _ => Bond.beside_pure h hassigned) fun _ => ?_
  refine (beside_hasValueName h property).bind fun named named' _ _ hrel hgoes hnamed => ?_
  obtain ⟨rfl, hmet⟩ := hnamed
  refine Bond.beside_ite (fun _ => Bond.beside_throw _ hrel) fun _ => ?_
  exact Bond.beside_pure hrel (((hassigned.onward hgoes).addOutput hmet).change rfl rfl)

lemma beside_assignOutput {storage : StageStorage} {property : Property} {plan : StagePlan}
    (h : Draft.Paired base setting.catalogue draft draft')
    (hassigned : Draft.Assigned draft draft' storage storage) :
    (bond base setting.catalogue).Beside Draft.Assigned
      (assignOutput setting plan storage property)
      (assignOutput setting plan storage property) draft draft' := by
  refine (beside_gpuType h).bind fun type type' _ _ hrel hgoes htyped => ?_
  rw [(htyped.alike hrel).isStorable_eq]
  refine Bond.beside_ite (fun _ => Bond.beside_throw _ hrel) fun _ => ?_
  exact Bond.beside_pure hrel (((hassigned.onward hgoes).addOutput htyped.met).change rfl rfl)

lemma beside_assignInner {storage : StageStorage} {property : Property}
    (h : Draft.Paired base setting.catalogue draft draft')
    (hassigned : Draft.Assigned draft draft' storage storage) :
    (bond base setting.catalogue).Beside Draft.Assigned (assignInner setting storage property)
      (assignInner setting storage property) draft draft' := by
  refine (beside_gpuType h).bind fun type type' _ _ hrel hgoes htyped => ?_
  rw [(htyped.alike hrel).isStorable_eq]
  refine Bond.beside_ite (fun _ => Bond.beside_throw _ hrel) fun _ => ?_
  exact Bond.beside_pure hrel ((hassigned.onward hgoes).change rfl rfl)

/-! ## The order of types -/

lemma Converted.typeKey? {conversion conversion' : Conversion}
    (h : Converted type draft draft' conversion conversion') :
    draft.registry.typeKey? type = some conversion.type ∧
      draft'.registry.typeKey? type = some conversion'.type := by
  exact ⟨typeKey?_of_lookup? h.1, typeKey?_of_lookup? h.2⟩

lemma beside_checkVarying {property : Property}
    (h : Draft.Paired base setting.catalogue draft draft')
    (hmet : Draft.Met draft draft' property.type) :
    (bond base setting.catalogue).Beside Bond.Equal (checkVarying property)
      (checkVarying property) draft draft' := by
  apply Bond.beside_get_bind
  have hformat : (draft.registry.lookup? property.type).any (fun c => c.format.isSome) =
      (draft'.registry.lookup? property.type).any fun c => c.format.isSome := by
    rcases lookup?_of_met h hmet with ⟨hnone, hnone'⟩ | ⟨c, c', hfound, hfound'⟩
    · rw [hnone, hnone']
    · rw [hfound, hfound', lookup?_alike h.grown h.grown' hfound hfound', Option.any_some,
        Option.any_some]
  rw [hformat]
  exact Bond.beside_ite (fun _ => Bond.beside_throw _ h) fun _ => Bond.beside_pure h rfl

lemma beside_declarationOrder (plan : StagePlan) (storage : StageStorage)
    (h : Draft.Paired base setting.catalogue draft draft') :
    (bond base setting.catalogue).Beside
      (fun after after' order order' =>
        List.Forall₂ (Linked base after.registry after'.registry) order order' ∧
          ∀ type ∈ (stageTypes plan storage).order, Draft.Met after after' type)
      (declarationOrder setting plan storage) (declarationOrder setting plan storage)
      draft draft' := by
  have hloop : (bond base setting.catalogue).Beside
      (fun after after' order order' =>
        List.Forall₂ (Linked base after.registry after'.registry) order order' ∧
          ∀ type ∈ (stageTypes plan storage).order.filter fun type => !type.isVoid,
            Draft.Met after after' type)
      (declarationOrder setting plan storage) (declarationOrder setting plan storage)
      draft draft' := by
    apply Bond.beside_foldlM (A := fun done after after' order order' =>
      List.Forall₂ (Linked base after.registry after'.registry) order order' ∧
        ∀ type ∈ done, Draft.Met after after' type) h ⟨.nil, by simp⟩
    rintro done type order order' after after' - hrel - ⟨horder, hmet⟩
    refine (beside_convert hrel).bind fun conversion conversion' t t' hrel₁ hgoes hfound => ?_
    apply Bond.beside_get_bind
    obtain ⟨hkey, hkey'⟩ := hfound.typeKey?
    refine Bond.beside_pure hrel₁ ⟨?_, ?_⟩
    · apply forall₂_declare hrel₁.grown hrel₁.grown'
        (horder.imp fun _ _ => linked_onward hrel hgoes)
      · exact linked_of_typeKey? hrel₁.grown hrel₁.grown' hkey hkey'
      · exact typeKey?_lt hrel₁.grown.closed hkey
      · exact typeKey?_lt hrel₁.grown'.closed hkey'
    · intro other hother
      rcases List.mem_append.1 hother with hother | hother
      · exact (hmet other hother).onward hgoes
      · rw [List.mem_singleton.1 hother]
        exact hfound.met
  refine hloop.imp fun order order' after after' _ hdone => ⟨hdone.1, fun type htype => ?_⟩
  by_cases hvoid : type.isVoid
  · exact Or.inl (beq_iff_eq.1 hvoid)
  · exact hdone.2 type (List.mem_filter.2 ⟨htype, by simpa using hvoid⟩)

lemma Stored.onward {plan : StagePlan} {storage storage' : StageStorage} {after after' : Draft}
    (h : Draft.Stored base plan draft draft' storage storage')
    (hpaired : Draft.Paired base setting.catalogue draft draft')
    (honward : Draft.Onward draft draft' after after') :
    Draft.Stored base plan after after' storage storage' where
  eq := h.eq
  types := h.types.imp fun _ _ => linked_onward hpaired honward
  mentioned type htype := (h.mentioned type htype).onward honward
  innerCopies property hproperty := (h.innerCopies property hproperty).onward honward

/-- A stage gets corresponding storages in both drafts. -/
lemma beside_assignStage (plan : StagePlan) (previous : Option Handover) (last : Bool)
    (h : Draft.Paired base setting.catalogue draft draft') :
    (bond base setting.catalogue).Beside (Draft.Stored base plan)
      (assignStage setting plan previous last) (assignStage setting plan previous last)
      draft draft' := by
  have hstart : Draft.Assigned draft draft' { inMark := plan.request.inMark previous }
      { inMark := plan.request.inMark previous } := ⟨rfl, by simp, by simp⟩
  refine (beside_assign h hstart fun _ _ _ _ => beside_assignSource).bind
    fun storage _ _ _ hrel _ hassigned => ?_
  obtain rfl := hassigned.eq
  refine (beside_assign hrel hassigned fun _ _ _ _ => beside_assignFilter).bind
    fun storage _ _ _ hrel _ hassigned => ?_
  obtain rfl := hassigned.eq
  refine (beside_assign hrel hassigned fun _ _ _ _ => beside_assignThrough).bind
    fun storage _ _ _ hrel _ hassigned => ?_
  obtain rfl := hassigned.eq
  refine (beside_assign hrel hassigned fun _ _ _ _ => beside_assignOutput).bind
    fun storage _ _ _ hrel _ hassigned => ?_
  obtain rfl := hassigned.eq
  refine (beside_assign hrel hassigned fun _ _ _ _ => beside_assignInner).bind
    fun storage _ t t' hrel _ hassigned => ?_
  obtain rfl := hassigned.eq
  have hrest : ∀ u u', Draft.Paired base setting.catalogue u u' → Draft.Onward t t' u u' →
      (bond base setting.catalogue).Beside (Draft.Stored base plan)
        (do
          let types ← declarationOrder setting plan storage
          return { storage with
            aliases := .layered [plan.request.aliases] storage.renames
            types })
        (do
          let types ← declarationOrder setting plan storage
          return { storage with
            aliases := .layered [plan.request.aliases] storage.renames
            types }) u u' := by
    intro u u' hrel hgoes
    refine (beside_declarationOrder plan storage hrel).bind
      fun types types' _ _ hrel hgoes' hdone => ?_
    refine Bond.beside_pure hrel ⟨rfl, hdone.1, hdone.2, ?_⟩
    exact ((hassigned.onward hgoes).onward hgoes').innerCopies
  refine Bond.beside_ite (fun _ => ?_)
    fun _ => hrest t t' hrel ((bond base setting.catalogue).refl t t')
  refine (Bond.beside_forM hrel fun property hproperty u u' hrel hgoes => ?_).bind
    fun _ _ u u' hrel hgoes _ => hrest u u' hrel hgoes
  exact beside_checkVarying hrel ((hassigned.outputs property hproperty).onward hgoes)

/-- The stages of a program get corresponding storages in both drafts. -/
theorem beside_assignStages (previous : Option Handover) (plans : List StagePlan)
    (h : Draft.Paired base setting.catalogue draft draft') :
    (bond base setting.catalogue).Beside
      (fun after after' storages storages' => List.Forall₂
        (fun stage stage' => stage.1 = stage'.1 ∧
          Draft.Stored base stage.1 after after' stage.2 stage'.2)
        (plans.zip storages) (plans.zip storages'))
      (assignStages setting previous plans) (assignStages setting previous plans)
      draft draft' := by
  induction plans generalizing previous draft draft' with
  | nil => exact Bond.beside_pure h .nil
  | cons plan rest ih =>
      refine (beside_assignStage plan previous rest.isEmpty h).bind
        fun storage storage' _ _ hrel _ hstored => ?_
      have houtputs : storage'.outputs = storage.outputs := by rw [hstored.eq]
      rw [houtputs]
      refine (ih _ hrel).bind fun storages storages' _ _ hrel' hgoes hstages => ?_
      exact Bond.beside_pure hrel' (.cons ⟨rfl, Stored.onward hstored hrel hgoes⟩ hstages)

end Drafting

end ShaderWeave
