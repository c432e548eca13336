import ShaderWeave.Device.Headless
import ShaderWeave.Program.Compile
import ShaderWeave.Proofs.Forms
import ShaderWeave.Proofs.TypeNames
import ShaderWeave.Proofs.TypeOrder

/-!
# Names of structs

An aggregate that is registered on first use becomes a struct, named after the short name of its host
type.  A short name has no paths in it, so types of different modules may have one short name.

* `Registry.Aggregate.valueName_eq_iff` — **two aggregates have one struct name exactly if they have
  one short name,** as long as the digest tells their short names apart.
* `StageStorage.nodup_structs_iff` — the structs of a stage have different names exactly if its
  aggregates have different short names.
* `valueName_eq_iff_shortName_eq` — both, for every registry that conversions lead to from the basic
  types and every source drafted from it.
-/

namespace ShaderWeave

open Registry (Grown Linked InOrder)

/-- The digest tells the short names of two host types apart. -/
def HostType.ToldApart (host host' : HostType) : Prop :=
  TypeName.nameDigest host.shortName = TypeName.nameDigest host'.shortName →
    host.shortName = host'.shortName

/-! ## Aggregates -/

namespace Registry

variable {catalogue : Catalogue} {registry : Registry} {host host' : HostType}
  {type type' : GpuType} {key : TypeKey}

/-- A host type that was registered as an aggregate on first use, with its GPU type. -/
structure Aggregate (registry : Registry) (catalogue : Catalogue) (host : HostType)
    (type : GpuType) : Prop where
  new : ofBasics.key? host = none
  shape : (∃ fields, catalogue.shape host = .fields fields) ∨
    ∃ layout, catalogue.shape host = .layout layout
  typeOf : registry.typeOf? host = some type

lemma Aggregate.valueName (hgrown : Grown ofBasics catalogue registry)
    (h : registry.Aggregate catalogue host type) :
    type.valueName = TypeName.ofHostName host.shortName := by
  obtain ⟨conversion, hlookup, rfl⟩ := Option.map_eq_some_iff.1 h.typeOf
  rcases hgrown.lookup?_cases hlookup with ⟨_, -, hbasic⟩ | ⟨-, form, keys, hsuits, -, htype⟩
  · simp [lookup?, h.new] at hbasic
  · rw [htype]
    cases form with
    | struct name body layout => exact hsuits.1
    | block body layout buffer =>
        have hbuffer : catalogue.shape host = .buffer buffer := hsuits
        rcases h.shape with ⟨fields, hfields⟩ | ⟨layout, hlayout⟩
        · simp [hfields] at hbuffer
        · simp [hlayout] at hbuffer

/-- **Aggregates have one struct name exactly if they have one short name.** -/
lemma Aggregate.valueName_eq_iff (hgrown : Grown ofBasics catalogue registry)
    (h : registry.Aggregate catalogue host type) (h' : registry.Aggregate catalogue host' type')
    (htold : host.ToldApart host') :
    type.valueName = type'.valueName ↔ host.shortName = host'.shortName := by
  rw [h.valueName hgrown, h'.valueName hgrown, TypeName.ofHostName_eq_iff]
  constructor
  · rintro (hshort | ⟨-, -, -, hdigest⟩)
    · exact hshort
    · exact htold hdigest
  · exact Or.inl

/-! ## Structs -/

/-- Types with a name and a body are declared as structs. -/
def isStruct (registry : Registry) (key : TypeKey) : Bool :=
  (registry.type key).valueName ≠ "" && (registry.type key).body ≠ ""

/-- The GLSL of the basic types needs no declarations. -/
lemma body_ofBasics (key : TypeKey) : (ofBasics.type key).body = "" := by
  have hall : ∀ type ∈ ofBasics.types.toList, type.body = "" := by decide +kernel
  rw [Registry.type]
  cases htype : ofBasics.types[key.index]? with
  | none => rfl
  | some type => exact hall type (Array.mem_toList_iff.2 (Array.mem_of_getElem? htype))

/-- A struct is none of the basic types. -/
lemma size_le_of_isStruct (hgrown : Grown ofBasics catalogue registry)
    (h : registry.isStruct key = true) : ofBasics.types.size ≤ key.index := by
  by_contra hbelow
  simp [isStruct, hgrown.extends_base.type (Nat.lt_of_not_le hbelow), body_ofBasics] at h

/-- A struct that the registry knows has a host type. -/
lemma host_of_isStruct (hgrown : Grown ofBasics catalogue registry)
    (hlinked : Linked ofBasics registry registry key key) (h : registry.isStruct key = true) :
    ∃ host, registry.typeKey? host = some key := by
  cases hlinked with
  | given hbelow => exact absurd (size_le_of_isStruct hgrown h) (Nat.not_le.2 hbelow)
  | derived _ hkey _ => exact ⟨_, hkey⟩

/-- **Every struct is one of an aggregate.** -/
lemma aggregate_of_isStruct (hgrown : Grown ofBasics catalogue registry)
    (hkey : registry.typeKey? host = some key) (h : registry.isStruct key = true) :
    registry.Aggregate catalogue host (registry.type key) := by
  obtain ⟨conversion, hlookup, rfl⟩ := Option.map_eq_some_iff.1 hkey
  have htypeOf : registry.typeOf? host = some (registry.type conversion.type) := by
    rw [typeOf?, hlookup]
    rfl
  rcases hgrown.lookup?_cases hlookup with ⟨_, -, hbasic⟩ | ⟨hnew, form, keys, hsuits, -, htype⟩
  · have hbelow := typeKey?_lt closed_ofBasics (typeKey?_of_lookup? hbasic)
    exact absurd (size_le_of_isStruct hgrown h) (Nat.not_le.2 hbelow)
  · cases form with
    | struct name body layout => exact ⟨hnew, hsuits.2, htypeOf⟩
    | block body layout buffer => simp [isStruct, htype, Form.type] at h

end Registry

/-! ## The structs of a stage -/

/-- The name of a struct that is declared. -/
def Declaration.structName? : Declaration → Option String
  | struct name _ => some name
  | _ => none

/-- The names of the structs that a source defines, in order. -/
def StageSource.structNames (source : StageSource) : List String :=
  source.declarations.filterMap Declaration.structName?

/-- The struct of a host type is among the types of a stage. -/
def StageStorage.Defines (storage : StageStorage) (registry : Registry) (host : HostType) : Prop :=
  ∃ key ∈ storage.types, registry.typeKey? host = some key ∧ registry.isStruct key = true

namespace Registry

lemma structs_eq (registry : Registry) (types : List TypeKey) :
    registry.structs types = (types.filter registry.isStruct).map fun key =>
      .struct (registry.type key).valueName (registry.type key).body := by
  induction types with
  | nil => rfl
  | cons key types ih =>
      by_cases hstruct : registry.isStruct key = true
      · rw [List.filter_cons_of_pos hstruct, List.map_cons, ← ih]
        exact List.filterMap_cons_some (if_pos hstruct)
      · rw [List.filter_cons_of_neg hstruct, ← ih]
        exact List.filterMap_cons_none (if_neg hstruct)

end Registry

namespace Draft

/-- Only structs have the names of structs. -/
lemma structNames_declared (draft : Draft) (setting : Setting) (plans : List StagePlan)
    (plan : StagePlan) (storage : StageStorage) :
    (draft.declared setting plans plan storage).filterMap Declaration.structName? =
      (storage.types.filter draft.registry.isStruct).map fun key =>
        (draft.registry.type key).valueName := by
  have hresource : ∀ cls p, (draft.resource plans p cls).structName? = none := by
    intro cls p
    cases cls <;> rfl
  have hhanded : ∀ p, (draft.handed plan p).structName? = none := by
    intro p
    unfold handed
    cases plan.request.stage <;> rfl
  have htaken : ∀ p, (draft.taken setting plan storage p).structName? = none := by
    intro p
    unfold taken
    cases plan.request.stage <;> rfl
  rw [draft.filterMap_declared setting storage hresource hhanded, Registry.structs_eq,
    List.filterMap_map]
  simp only [htaken, List.filterMap_none, List.append_nil]
  exact congrFun List.filterMap_eq_map _

end Draft

/-- Only described types have structs. -/
lemma StageStorage.Defines.mem_described {storage : StageStorage} {catalogue : Catalogue}
    {registry : Registry} {host : HostType} (hgrown : Grown .ofBasics catalogue registry)
    (h : storage.Defines registry host) : host ∈ catalogue.described.map (·.1) := by
  obtain ⟨key, -, hkey, hstruct⟩ := h
  apply Registry.mem_described
  rcases (Registry.aggregate_of_isStruct hgrown hkey hstruct).shape with ⟨_, h⟩ | ⟨_, h⟩ <;>
    simp [h]

/-- **The structs of a stage have different names exactly if its aggregates have different short
names.** -/
lemma StageStorage.nodup_structs_iff {storage : StageStorage} {catalogue : Catalogue}
    {registry : Registry} (hgrown : Grown .ofBasics catalogue registry)
    (horder : InOrder .ofBasics registry storage.types)
    (htold : ∀ host host', storage.Defines registry host → storage.Defines registry host' →
      host.ToldApart host') :
    ((storage.types.filter registry.isStruct).map fun key =>
        (registry.type key).valueName).Nodup ↔
      ∀ host host', storage.Defines registry host → storage.Defines registry host' →
        host.shortName = host'.shortName → host = host' := by
  rw [List.nodup_map_iff_inj_on (horder.nodup.filter _)]
  constructor
  · rintro hnodup host host' ⟨key, hmem, hkey, hstruct⟩ ⟨key', hmem', hkey', hstruct'⟩ hshort
    have haggregate := Registry.aggregate_of_isStruct hgrown hkey hstruct
    have haggregate' := Registry.aggregate_of_isStruct hgrown hkey' hstruct'
    obtain rfl : key = key' := by
      refine hnodup key (List.mem_filter.2 ⟨hmem, hstruct⟩) key'
        (List.mem_filter.2 ⟨hmem', hstruct'⟩) ?_
      rw [haggregate.valueName hgrown, haggregate'.valueName hgrown, hshort]
    exact hgrown.distinct haggregate.new haggregate'.new hkey hkey'
  · intro hshort key hkey key' hkey' hname
    obtain ⟨hmem, hstruct⟩ := List.mem_filter.1 hkey
    obtain ⟨hmem', hstruct'⟩ := List.mem_filter.1 hkey'
    obtain ⟨host, hhost⟩ := Registry.host_of_isStruct hgrown (horder.issued key hmem) hstruct
    obtain ⟨host', hhost'⟩ := Registry.host_of_isStruct hgrown (horder.issued key' hmem') hstruct'
    have hdefines : storage.Defines registry host := ⟨key, hmem, hhost, hstruct⟩
    have hdefines' : storage.Defines registry host' := ⟨key', hmem', hhost', hstruct'⟩
    have heq : host.shortName = host'.shortName :=
      ((Registry.aggregate_of_isStruct hgrown hhost hstruct).valueName_eq_iff hgrown
        (Registry.aggregate_of_isStruct hgrown hhost' hstruct') (htold _ _ hdefines hdefines')).1
        hname
    obtain rfl := hshort host host' hdefines hdefines' heq
    exact Option.some.inj (hhost.symm.trans hhost')

/-- **When structs have different names.**  Take any registry that conversions lead to from the basic
types.

* Two aggregates that were registered on the way have one struct name exactly if they have one short
  name, provided that the digest tells their short names apart.
* A source that is drafted with that registry defines no struct name twice exactly if the aggregates
  whose structs are in it have different short names, with the same proviso for them. -/
theorem valueName_eq_iff_shortName_eq (setting : Setting) (hosts : List HostType) :
    (∀ host host' type type',
      (Registry.after setting.catalogue .ofBasics hosts).Aggregate setting.catalogue host type →
      (Registry.after setting.catalogue .ofBasics hosts).Aggregate setting.catalogue host' type' →
      host.ToldApart host' →
        (type.valueName = type'.valueName ↔ host.shortName = host'.shortName)) ∧
    ∀ info requests desired draft draft' made,
      draft.registry = Registry.after setting.catalogue .ofBasics hosts →
      Drafting.blueprint setting info requests desired draft = .ok made draft' →
      ∀ i plan storage source, made.At i plan storage source →
        (∀ host host', storage.Defines draft'.registry host →
          storage.Defines draft'.registry host' → host.ToldApart host') →
        (source.structNames.Nodup ↔
          ∀ host host', storage.Defines draft'.registry host →
            storage.Defines draft'.registry host' →
              host.shortName = host'.shortName → host = host') := by
  have hgrown : Grown .ofBasics setting.catalogue (Registry.after setting.catalogue .ofBasics hosts) :=
    (Grown.refl Registry.closed_ofBasics).after hosts
  refine ⟨fun host host' type type' h h' htold => h.valueName_eq_iff hgrown h' htold, ?_⟩
  intro info requests desired draft draft' made hregistry hmade i plan storage source hat htold
  rw [← hregistry] at hgrown
  obtain ⟨_, _, _, hparts⟩ := Drafting.parts_of_blueprint hmade
  obtain ⟨_, _, _, hcourse⟩ := Drafting.course_of_blueprint hmade
  have horder := Drafting.inOrder_of_course hgrown hcourse storage (List.mem_of_getElem? hat.storage)
  rw [StageSource.structNames, (Drafting.finished_of_parts hparts).declared hat,
    Draft.structNames_declared]
  exact StageStorage.nodup_structs_iff (hcourse.grown hgrown) horder htold

/-- A dot has a place. -/
def dotType : HostType := .declared "shapes::Dot" 16 16

/-- Two dots. -/
def dotPair : HostType := .declared "shapes::Pair<shapes::Dot>" 32 16

/-- Two dots are made in one task, and a value of another type in another.  Both are used. -/
def dotted (other : HostType) : Setting where
  catalogue := ⟨[(dotType, .fields [⟨"place", .vec4⟩]),
    (dotPair, .fields [⟨"first", dotType⟩, ⟨"second", dotType⟩]),
    (other, .fields [⟨"turn", .basic (.matrix .four)⟩])]⟩
  vertexLayout := {}
  resolver := (((TaskCollection.empty.register
    (.call "first" { outputs := .ofList [⟨"dots", dotPair⟩] }) [.compute]).register
    (.call "second" { outputs := .ofList [⟨"other", other⟩] }) [.compute]).register
    (.call "shade"
      { inputs := .ofList [⟨"dots", dotPair⟩, ⟨"other", other⟩]
        outputs := .ofList [⟨"color", .vec4⟩] }) [.compute]).resolver
  options := {}

/-- A turn, with a name of its own. -/
def turnType : HostType := .declared "motions::Turn" 64 16

/-- One of the names is rewritten, and has its digest behind it. -/
theorem valueName_eq_iff_shortName_eq_dotted :
    let setting := dotted turnType
    let registry := Registry.after setting.catalogue .ofBasics [dotPair, turnType]
    (∀ type type', registry.Aggregate setting.catalogue dotPair type →
      registry.Aggregate setting.catalogue turnType type' → type.valueName ≠ type'.valueName) ∧
    ∃ made draft' plan storage source,
      Drafting.blueprint setting .ideal [.compute .empty {}] (.ofList [⟨"color", .vec4⟩])
        { registry := registry } = .ok made draft' ∧
      made.At 0 plan storage source ∧
      source.structNames = ["Dot", "Pair4Dot7_d23b622eb6914b9e", "Turn"] ∧
      ∀ host host', storage.Defines draft'.registry host → storage.Defines draft'.registry host' →
        host.shortName = host'.shortName → host = host' := by
  intro setting registry
  obtain ⟨hnames, hsources⟩ := valueName_eq_iff_shortName_eq setting [dotPair, turnType]
  have htold : ∀ host ∈ setting.catalogue.described.map (·.1),
      ∀ host' ∈ setting.catalogue.described.map (·.1),
        TypeName.nameDigest host.shortName = TypeName.nameDigest host'.shortName →
          host.shortName = host'.shortName := by decide +kernel
  refine ⟨fun type type' h h' heq => ?_, ?_⟩
  · have hshort := (hnames _ _ _ _ h h' (htold _ (by decide) _ (by decide))).1 heq
    exact absurd hshort (by decide)
  · have htest : Outcome.passes (Blueprint.stageTest 0 fun _ _ source =>
          decide (source.structNames = ["Dot", "Pair4Dot7_d23b622eb6914b9e", "Turn"]))
        (Drafting.blueprint setting .ideal [.compute .empty {}] (.ofList [⟨"color", .vec4⟩])
          { registry := registry }) = true := by decide +kernel
    obtain ⟨made, draft', hmade, htest⟩ := Outcome.exists_of_passes htest
    obtain ⟨plan, storage, source, hat, htest⟩ := Blueprint.exists_of_stageTest htest
    have hsource := of_decide_eq_true htest
    obtain ⟨_, _, _, hcourse⟩ := Drafting.course_of_blueprint hmade
    have hgrown := hcourse.grown ((Grown.refl Registry.closed_ofBasics).after [dotPair, turnType])
    refine ⟨made, draft', plan, storage, source, hmade, hat, hsource, ?_⟩
    refine (hsources _ _ _ _ _ _ rfl hmade 0 plan storage source hat ?_).1 (hsource ▸ by decide)
    exact fun host host' h h' => htold _ (h.mem_described hgrown) _ (h'.mem_described hgrown)

/-- **Two aggregates can have one struct name.**  Dots of another module have the short name of the
dots: both become `Dot`.  The program compiles, with two structs of one name in its source. -/
theorem not_forall_valueName_ne :
    let other : HostType := .declared "motions::Dot" 64 16
    let registry := Registry.after (dotted other).catalogue .ofBasics [dotType, other]
    let desired := PropertyList.ofList [⟨"color", .vec4⟩]
    (¬ ∀ host host' type type', registry.Aggregate (dotted other).catalogue host type →
      registry.Aggregate (dotted other).catalogue host' type' → host.ToldApart host' →
        host ≠ host' → type.valueName ≠ type'.valueName) ∧
    (∃ program workshop', compile (dotted other) [.compute .empty {}] desired
      (⟨{}, registry, [], []⟩ : Workshop Headless) = .ok program workshop') ∧
    ∃ made draft', Drafting.blueprint (dotted other) .ideal [.compute .empty {}] desired
        { registry := registry } = .ok made draft' ∧
      ¬ ∀ i plan storage source, made.At i plan storage source → source.structNames.Nodup := by
  intro other registry desired
  refine ⟨fun hall => ?_, ?_, ?_⟩
  · have hgrown : Grown .ofBasics (dotted other).catalogue registry :=
      (Grown.refl Registry.closed_ofBasics).after [dotType, other]
    obtain ⟨type, htype⟩ : ∃ type, registry.typeOf? dotType = some type :=
      Option.isSome_iff_exists.1 (by decide +kernel)
    obtain ⟨type', htype'⟩ : ∃ type, registry.typeOf? other = some type :=
      Option.isSome_iff_exists.1 (by decide +kernel)
    have haggregate : registry.Aggregate (dotted other).catalogue dotType type :=
      ⟨Registry.key?_ofBasics_declared _ _ _, Or.inl ⟨_, rfl⟩, htype⟩
    have haggregate' : registry.Aggregate (dotted other).catalogue other type' :=
      ⟨Registry.key?_ofBasics_declared _ _ _, Or.inl ⟨_, rfl⟩, htype'⟩
    have hshort : dotType.shortName = other.shortName := by decide
    refine hall _ _ _ _ haggregate haggregate' (fun _ => hshort) (by decide) ?_
    exact (haggregate.valueName_eq_iff hgrown haggregate' fun _ => hshort).2 hshort
  · have hcompiles : Outcome.succeeds (compile (dotted other) [.compute .empty {}] desired
        (⟨{}, registry, [], []⟩ : Workshop Headless)) = true := by decide +kernel
    exact Outcome.exists_of_succeeds hcompiles
  · have htest : Outcome.passes (Blueprint.stageTest 0 fun _ _ source =>
          decide (¬ source.structNames.Nodup))
        (Drafting.blueprint (dotted other) .ideal [.compute .empty {}] desired
          { registry := registry }) = true := by decide +kernel
    obtain ⟨made, draft', hmade, htest⟩ := Outcome.exists_of_passes htest
    obtain ⟨plan, storage, source, hat, htest⟩ := Blueprint.exists_of_stageTest htest
    exact ⟨made, draft', hmade, fun hall => of_decide_eq_true htest (hall 0 plan storage source hat)⟩

end ShaderWeave
