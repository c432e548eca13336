import Mathlib.Algebra.GroupWithZero.Nat
import Mathlib.Order.Interval.Finset.Nat
import ShaderWeave.Proofs.CacheTransparency
import ShaderWeave.Proofs.TypeOrder
import ShaderWeave.Renderer

/-!
# Attributes of a vertex stage

Vertex components get their locations one after the other, each as many slots as its type takes.  A
vertex stage takes a property in from the mesh if a component has its name, whatever its type.

* `VertexLayout.InRow` — **what calls keep:** the location of a component is the number of slots that
  the components before it were given.  `VertexLayout.InRow.add` is the step, `Renderer.Reached.laidOut`
  the run, in which calls may fail.
* `Draft.vertexInputs_declared` — the attributes that a vertex stage declares are those of its inputs.
* `attributes_disjoint` — **attributes share no slot if none takes more than its component was
  given.**  Between neighbours this is needed (`not_forall_attributes_disjoint` has two that overlap).
-/

namespace ShaderWeave

open Registry (Grown Grows)

/-! ## Slots -/

namespace Registry

variable {registry registry' : Registry} {type : HostType}

/-- The attribute slots that values of a host type take. -/
def slotsFor (registry : Registry) (type : HostType) : Nat := (registry.typeFor type).layout.slots

lemma slotsFor_of_typeKey? {key : TypeKey} (h : registry.typeKey? type = some key) :
    registry.slotsFor type = (registry.type key).layout.slots := by
  obtain ⟨conversion, hlookup, rfl⟩ := Option.map_eq_some_iff.1 h
  simp [slotsFor, typeFor, typeOf?, hlookup]

/-- A type that is known keeps its slots. -/
lemma Extends.slotsFor (hextends : registry.Extends registry') (hclosed : registry.Closed)
    (hknown : registry.key? type ≠ none) : registry'.slotsFor type = registry.slotsFor type := by
  cases htype : registry.typeOf? type with
  | none => exact absurd (by simpa [Registry.typeOf?, Registry.lookup?] using htype) hknown
  | some found =>
      simp [Registry.slotsFor, typeFor, htype, hextends.typeOf? hclosed htype]

end Registry

/-- **Words of 32 bits add up as numbers do,** as long as the sum fits into a word. -/
lemma toNat_foldl_word {counts : List Nat} (h : counts.sum < UInt32.size) :
    ((counts.map Nat.toUInt32).foldl (· + ·) 0).toNat = counts.sum := by
  have hwrap : ∀ start : Nat,
      (counts.map Nat.toUInt32).foldl (· + ·) start.toUInt32 = (start + counts.sum).toUInt32 := by
    clear h
    induction counts with
    | nil => exact fun start => rfl
    | cons count rest ih =>
        intro start
        have hadd : (start + count).toUInt32 = start.toUInt32 + count.toUInt32 :=
          UInt32.ofNat_add start count
        rw [List.map_cons, List.foldl_cons, List.sum_cons, ← Nat.add_assoc, ← ih, hadd]
  have hsum := hwrap 0
  rw [Nat.zero_add] at hsum
  exact (congrArg UInt32.toNat hsum).trans (UInt32.toNat_ofNat_of_lt' h)

/-! ## Layouts -/

namespace VertexLayout

variable {layout layout' : VertexLayout} {registry registry' : Registry} {property : Property}
  {component : Property × Nat} {i j : Nat}

/-- The slots that the first components were given. -/
def given (layout : VertexLayout) (registry : Registry) (count : Nat) : Nat :=
  ((layout.components.take count).map fun component => registry.slotsFor component.1.type).sum

/-- The same counted in words of 32 bits. -/
def givenWord (layout : VertexLayout) (registry : Registry) (count : Nat) : UInt32 :=
  ((layout.components.take count).map fun component =>
    (registry.slotsFor component.1.type).toUInt32).foldl (· + ·) 0

lemma given_succ (h : layout.components[i]? = some component) :
    layout.given registry (i + 1) =
      layout.given registry i + registry.slotsFor component.1.type := by
  simp [given, List.take_add_one, h]

lemma given_mono (h : i ≤ j) : layout.given registry i ≤ layout.given registry j := by
  refine monotone_nat_of_le_succ (fun n => ?_) h
  cases hn : layout.components[n]? with
  | none => simp [given, List.take_add_one, hn]
  | some component =>
      rw [given_succ hn]
      omega

/-- **Components in a row:** different names, known types, and locations that are the number of slots
given before. -/
structure InRow (layout : VertexLayout) (registry : Registry) : Prop where
  nodup : (layout.components.map (·.1.name)).Nodup
  known : ∀ component ∈ layout.components, registry.key? component.1.type ≠ none
  location : ∀ {i : Nat} {component : Property × Nat},
    layout.components[i]? = some component → component.2 = layout.given registry i
  next : layout.next = layout.given registry layout.components.length

/-- As long as the slots fit into a word of 32 bits, the locations are what words count. -/
lemma InRow.toNat_givenWord (h : layout.InRow registry) (hfits : layout.next < UInt32.size) :
    (∀ i component, layout.components[i]? = some component →
      (layout.givenWord registry i).toNat = component.2) ∧
    (layout.givenWord registry layout.components.length).toNat = layout.next := by
  have hword : ∀ i ≤ layout.components.length,
      (layout.givenWord registry i).toNat = layout.given registry i := by
    intro i hi
    have hle : layout.given registry i ≤ layout.next := by
      rw [h.next]
      exact given_mono hi
    rw [givenWord, given, ← toNat_foldl_word (Nat.lt_of_le_of_lt hle hfits), List.map_map]
    rfl
  refine ⟨fun i component hi => ?_, ?_⟩
  · rw [hword i (Nat.le_of_lt (List.getElem?_eq_some_iff.1 hi).1), h.location hi]
  · rw [hword _ (Nat.le_refl _), h.next]

lemma inRow_empty : InRow .empty registry where
  nodup := List.nodup_nil
  known := List.forall_mem_nil _
  location h := by simp [empty] at h
  next := rfl

lemma given_extends (hextends : registry.Extends registry') (hclosed : registry.Closed)
    (hknown : ∀ component ∈ layout.components, registry.key? component.1.type ≠ none) (count : Nat) :
    layout.given registry' count = layout.given registry count := by
  unfold given
  congr 1
  refine List.map_congr_left fun component hcomponent => ?_
  exact hextends.slotsFor hclosed (hknown component (List.mem_of_mem_take hcomponent))

lemma InRow.mono (h : layout.InRow registry) (hextends : registry.Extends registry')
    (hclosed : registry.Closed) : layout.InRow registry' where
  nodup := h.nodup
  known component hcomponent := hextends.key?_ne_none (h.known component hcomponent)
  location hi := by
    rw [given_extends hextends hclosed h.known]
    exact h.location hi
  next := by
    rw [given_extends hextends hclosed h.known]
    exact h.next

lemma given_add_of_le {slots : Nat} (h : i ≤ layout.components.length) :
    (layout.add property slots).given registry i = layout.given registry i := by
  simp [given, add, List.take_append_of_le_length h]

/-- **A component that is added stands behind the others.** -/
lemma InRow.add (h : layout.InRow registry) (hnew : layout.location? property.name = none)
    (hknown : registry.key? property.type ≠ none) :
    (layout.add property (registry.slotsFor property.type)).InRow registry := by
  have hlast : (layout.add property (registry.slotsFor property.type)).components[
      layout.components.length]? = some (property, layout.next) := by simp [VertexLayout.add]
  refine ⟨?_, ?_, fun {i component} hi => ?_, ?_⟩
  · have hname : property.name ∉ layout.components.map (·.1.name) := by
      simpa [location?] using hnew
    simp only [VertexLayout.add, List.map_append, List.map_cons, List.map_nil]
    rw [← List.concat_eq_append]
    exact h.nodup.concat hname
  · intro component hcomponent
    rcases List.mem_append.1 hcomponent with hcomponent | hcomponent
    · exact h.known component hcomponent
    · rw [List.mem_singleton.1 hcomponent]
      exact hknown
  · rcases Nat.lt_trichotomy i layout.components.length with hlt | rfl | hgt
    · rw [VertexLayout.add, List.getElem?_append_left hlt] at hi
      rw [given_add_of_le (Nat.le_of_lt hlt)]
      exact h.location hi
    · rw [hlast] at hi
      cases hi
      rw [given_add_of_le (Nat.le_refl _)]
      exact h.next
    · have hnone : (layout.add property (registry.slotsFor property.type)).components[i]? = none :=
        List.getElem?_eq_none (by simp [VertexLayout.add]; omega)
      rw [hnone] at hi
      cases hi
  · have hlength : (layout.add property (registry.slotsFor property.type)).components.length =
        layout.components.length + 1 := by simp [VertexLayout.add]
    rw [hlength, given_succ hlast, given_add_of_le (Nat.le_refl _), ← h.next]
    rfl

lemma exists_of_location? {name : String} {location : Nat}
    (h : layout.location? name = some location) : ∃ (i : Nat) (component : Property × Nat),
      layout.components[i]? = some component ∧ component.1.name = name ∧ component.2 = location := by
  obtain ⟨component, hfind, rfl⟩ := Option.map_eq_some_iff.1 h
  obtain ⟨i, hi⟩ := List.mem_iff_getElem?.1 (List.mem_of_find?_eq_some hfind)
  exact ⟨i, component, hi, by simpa using List.find?_some hfind, rfl⟩

/-- The location under a name is that of the one component with this name. -/
lemma InRow.location?_eq (h : layout.InRow registry) (hi : layout.components[i]? = some component) :
    layout.location? component.1.name = some component.2 := by
  cases hlocation : layout.location? component.1.name with
  | none =>
      simp only [location?, Option.map_eq_none_iff, List.find?_eq_none] at hlocation
      exact absurd (beq_self_eq_true _) (hlocation component (List.mem_of_getElem? hi))
  | some location =>
      obtain ⟨j, found, hj, hname, rfl⟩ := exists_of_location? hlocation
      have hsame : (layout.components.map (·.1.name))[j]? = (layout.components.map (·.1.name))[i]? := by
        simp [hi, hj, hname]
      have hlt : j < (layout.components.map (·.1.name)).length := by
        simpa using (List.getElem?_eq_some_iff.1 hj).1
      obtain rfl := (List.getElem?_inj hlt h.nodup).1 hsame
      rw [hi] at hj
      cases hj
      rfl

/-- Specifying a component keeps the row. -/
lemma InRow.specify_ok {catalogue : Catalogue} {location : Nat} (h : layout.InRow registry)
    (hclosed : registry.Closed)
    (hok : specify catalogue layout property registry = .ok (location, layout') registry') :
    registry'.Closed ∧ layout'.InRow registry' := by
  obtain ⟨key, after, hkey, hok⟩ := Outcome.bind_ok hok
  obtain ⟨hgrows, htype⟩ := Registry.typeKey_ok Registry.convert_lawful (Grown.refl hclosed) hkey
  have hrow := h.mono hgrows.extends_start hclosed
  cases hlocation : layout.location? property.name with
  | some found =>
      rw [hlocation] at hok
      cases hok
      exact ⟨hgrows.grown.closed, hrow⟩
  | none =>
      rw [hlocation] at hok
      cases hok
      rw [← Registry.slotsFor_of_typeKey? htype]
      refine ⟨hgrows.grown.closed, hrow.add hlocation fun hnone => ?_⟩
      simp [Registry.typeKey?, Registry.lookup?, hnone] at htype

/-- A call that fails leaves the components as they are. -/
lemma InRow.specify_error {catalogue : Catalogue} {error : SpecificationError}
    (h : layout.InRow registry) (hclosed : registry.Closed)
    (herror : specify catalogue layout property registry = .error error registry') :
    registry'.Closed ∧ layout.InRow registry' := by
  rcases Outcome.bind_error herror with herror | ⟨key, after, -, herror⟩
  · have hgrows := Registry.typeKey_error Registry.convert_lawful (Grown.refl hclosed) herror
    exact ⟨hgrows.grown.closed, h.mono hgrows.extends_start hclosed⟩
  · cases hlocation : layout.location? property.name with
    | some found =>
        rw [hlocation] at herror
        cases herror
    | none =>
        rw [hlocation] at herror
        cases herror

end VertexLayout

/-! ## Renderers -/

namespace Renderer

variable {σ : Type} {renderer renderer' : Renderer σ}

/-- The components of a renderer are in a row. -/
structure LaidOut (renderer : Renderer σ) : Prop where
  closed : renderer.registry.Closed
  inRow : renderer.vertexLayout.InRow renderer.registry

/-- The state after work on the registry: the rest of the renderer is as before. -/
lemma onRegistry_ok {α : Type} {action : Registry.Action α} {a : α} {registry : Registry}
    (h : action renderer.registry = .ok a registry) : ∃ after,
      onRegistry action renderer = .ok a after ∧ after.registry = registry ∧
        after.vertexLayout = renderer.vertexLayout := by
  rw [onRegistry, h]
  exact ⟨_, rfl, rfl, rfl⟩

lemma onRegistry_error {α : Type} {action : Registry.Action α} {error : SpecificationError}
    {registry : Registry} (h : action renderer.registry = .error error registry) : ∃ after,
      onRegistry action renderer = .error error after ∧ after.registry = registry ∧
        after.vertexLayout = renderer.vertexLayout := by
  rw [onRegistry, h]
  exact ⟨_, rfl, rfl, rfl⟩

/-- Specifying a component keeps the row, whether it succeeds or fails. -/
lemma LaidOut.specified (h : renderer.LaidOut) (property : Property) :
    (Outcome.state (specifyVertexBuffer property renderer)).LaidOut := by
  unfold specifyVertexBuffer
  rw [Outcome.get_bind]
  cases hspecify : VertexLayout.specify renderer.catalogue renderer.vertexLayout property
      renderer.registry with
  | ok found registry =>
      obtain ⟨location, layout⟩ := found
      obtain ⟨after, hafter, rfl, -⟩ := onRegistry_ok hspecify
      obtain ⟨hclosed, hrow⟩ := h.inRow.specify_ok h.closed hspecify
      rw [Outcome.bind_of_ok hafter]
      exact ⟨hclosed, hrow⟩
  | error error registry =>
      obtain ⟨after, hafter, rfl, hlayout⟩ := onRegistry_error hspecify
      obtain ⟨hclosed, hrow⟩ := h.inRow.specify_error h.closed hspecify
      rw [Outcome.bind_of_error hafter]
      exact ⟨hclosed, hlayout ▸ hrow⟩

/-- Converting a host type keeps the row, whether it succeeds or fails. -/
lemma LaidOut.converted (h : renderer.LaidOut) (type : HostType) :
    (Outcome.state (convert type renderer)).LaidOut := by
  have hlands : Registry.Lands renderer.registry renderer.catalogue renderer.registry type
      (Registry.convert renderer.catalogue type renderer.registry) :=
    Registry.convert_lawful type renderer.registry (Grown.refl h.closed)
  unfold convert
  rw [Outcome.get_bind]
  cases hconvert : Registry.convert renderer.catalogue type renderer.registry with
  | ok key registry =>
      rw [hconvert] at hlands
      obtain ⟨hgrows, -⟩ := hlands
      obtain ⟨after, hafter, rfl, hlayout⟩ := onRegistry_ok hconvert
      rw [hafter]
      exact ⟨hgrows.grown.closed, hlayout ▸ h.inRow.mono hgrows.extends_start h.closed⟩
  | error error registry =>
      rw [hconvert] at hlands
      have hgrows : Grows _ _ renderer.registry registry := hlands
      obtain ⟨after, hafter, rfl, hlayout⟩ := onRegistry_error hconvert
      rw [hafter]
      exact ⟨hgrows.grown.closed, hlayout ▸ h.inRow.mono hgrows.extends_start h.closed⟩

lemma laidOut_ofParts (catalogue : Catalogue) (options : Options) (device : σ) {registry : Registry}
    (hclosed : registry.Closed) : (ofParts catalogue options registry device).LaidOut :=
  ⟨hclosed, VertexLayout.inRow_empty⟩

lemma LaidOut.specifyStandard {names : List String} (h : renderer.LaidOut)
    (hok : specifyStandard names renderer = .ok renderer') : renderer'.LaidOut := by
  induction names generalizing renderer with
  | nil =>
      cases hok
      exact h
  | cons name names ih =>
      have hnext := h.specified ⟨name, .vec3⟩
      rw [Renderer.specifyStandard] at hok
      cases hspecify : specifyVertexBuffer ⟨name, .vec3⟩ renderer with
      | ok location after =>
          rw [hspecify] at hok hnext
          exact ih hnext hok
      | error error after =>
          rw [hspecify] at hok
          cases hok

lemma laidOut_of_create [Device σ] {catalogue : Catalogue} {options : Options} {device : σ}
    (h : create catalogue options device = .ok renderer) : renderer.LaidOut := by
  unfold create at h
  dsimp only at h
  split at h
  · cases h
  · obtain ⟨standard, hstandard, h⟩ := Outcome.of_bind h
    cases h
    have hstart := laidOut_ofParts catalogue options device Registry.closed_ofBasics
    have hlaid := hstart.specifyStandard hstandard
    exact ⟨hlaid.closed, hlaid.inRow⟩

/-- **The states of a renderer.**  It is opened, or put together with a registry whose keys are its
own.  Then components are specified and host types are converted, with or without success. -/
inductive Reached [Device σ] : Renderer σ → Prop where
  | created {catalogue : Catalogue} {options : Options} {device : σ} {renderer : Renderer σ}
      (h : create catalogue options device = .ok renderer) : Reached renderer
  | parts (catalogue : Catalogue) (options : Options) {registry : Registry} (device : σ)
      (closed : registry.Closed) : Reached (ofParts catalogue options registry device)
  | specified {renderer : Renderer σ} (h : Reached renderer) (property : Property) :
      Reached (Outcome.state (specifyVertexBuffer property renderer))
  | converted {renderer : Renderer σ} (h : Reached renderer) (type : HostType) :
      Reached (Outcome.state (convert type renderer))

/-- Whatever is called, the components stay in a row. -/
lemma Reached.laidOut [Device σ] (h : renderer.Reached) : renderer.LaidOut := by
  induction h with
  | created h => exact laidOut_of_create h
  | parts catalogue options device closed => exact laidOut_ofParts catalogue options device closed
  | specified _ property ih => exact ih.specified property
  | converted _ type ih => exact ih.converted type

end Renderer

/-! ## Attributes -/

/-- An attribute that a vertex stage takes in. -/
structure VertexInput where
  location : Nat
  type : GpuType
  name : String

namespace VertexInput

/-- The declaration of an attribute. -/
def declaration (input : VertexInput) : Declaration :=
  .vertexInput input.location input.type.valueName (Mark.element ++ input.name)

/-- The slots of an attribute: as many as its type takes, from its location on. -/
def slots (input : VertexInput) : Finset Nat :=
  .Ico input.location (input.location + input.type.layout.slots)

end VertexInput

namespace VertexLayout

variable {layout : VertexLayout} {registry : Registry} {p q : Property}

/-- The attribute for a property that has the name of a component. -/
def inputFor (layout : VertexLayout) (registry : Registry) (property : Property) : VertexInput where
  location := (layout.location? property.name).getD 0
  type := registry.typeFor property.type
  name := property.name

/-- The property takes no more slots than the component of its name was given. -/
def Holds (layout : VertexLayout) (registry : Registry) (property : Property) : Prop :=
  ∀ component ∈ layout.components, component.1.name = property.name →
    registry.slotsFor property.type ≤ registry.slotsFor component.1.type

instance : Decidable (layout.Holds registry p) :=
  inferInstanceAs (Decidable (∀ component ∈ layout.components, component.1.name = p.name →
    registry.slotsFor p.type ≤ registry.slotsFor component.1.type))

lemma exists_component (h : layout.contains p.name = true) :
    ∃ (i : Nat) (component : Property × Nat),
      layout.components[i]? = some component ∧ component.1.name = p.name := by
  obtain ⟨location, hlocation⟩ := Option.isSome_iff_exists.1 h
  obtain ⟨i, component, hi, hname, -⟩ := exists_of_location? hlocation
  exact ⟨i, component, hi, hname⟩

section InRow

variable (h : layout.InRow registry) {i : Nat} {component : Property × Nat}
include h

/-- The attribute of a property starts where the component of its name does. -/
lemma InRow.slots_inputFor (hi : layout.components[i]? = some component)
    (hname : component.1.name = p.name) :
    (layout.inputFor registry p).slots =
      .Ico (layout.given registry i) (layout.given registry i + registry.slotsFor p.type) := by
  rw [← h.location hi]
  simp [VertexInput.slots, inputFor, ← hname, h.location?_eq hi, Registry.slotsFor]

/-- **Attributes that their components hold are apart.** -/
lemma InRow.disjoint (hp : layout.contains p.name = true) (hq : layout.contains q.name = true)
    (hne : p.name ≠ q.name) (hholds : layout.Holds registry p) (hholds' : layout.Holds registry q) :
    Disjoint (layout.inputFor registry p).slots (layout.inputFor registry q).slots := by
  -- The attribute that comes first ends where the next component starts, or before.
  have hbefore : ∀ {i j : Nat} {component : Property × Nat} {r : Property},
      layout.components[i]? = some component → component.1.name = r.name →
        layout.Holds registry r → i < j →
          layout.given registry i + registry.slotsFor r.type ≤ layout.given registry j := by
    intro i j component r hi hname hholds hlt
    have hfits := hholds component (List.mem_of_getElem? hi) hname
    calc layout.given registry i + registry.slotsFor r.type
        ≤ layout.given registry i + registry.slotsFor component.1.type := by omega
      _ = layout.given registry (i + 1) := (given_succ hi).symm
      _ ≤ layout.given registry j := given_mono hlt
  obtain ⟨i, component, hi, hname⟩ := exists_component hp
  obtain ⟨j, component', hj, hname'⟩ := exists_component hq
  rw [h.slots_inputFor hi hname, h.slots_inputFor hj hname', Finset.disjoint_left]
  intro slot hslot hslot'
  rw [Finset.mem_Ico] at hslot hslot'
  rcases Nat.lt_trichotomy i j with hlt | rfl | hlt
  · have := hbefore hi hname hholds hlt
    omega
  · rw [hi] at hj
    cases hj
    exact hne (hname.symm.trans hname')
  · have := hbefore hj hname' hholds' hlt
    omega

/-- An attribute is apart from the next one, if that has a slot, only if its component holds it. -/
lemma InRow.disjoint_next_iff {next : Property × Nat} (hi : layout.components[i]? = some component)
    (hnext : layout.components[i + 1]? = some next) (hp : component.1.name = p.name)
    (hq : next.1.name = q.name) (hslot : 0 < registry.slotsFor q.type) :
    Disjoint (layout.inputFor registry p).slots (layout.inputFor registry q).slots ↔
      registry.slotsFor p.type ≤ registry.slotsFor component.1.type := by
  rw [h.slots_inputFor hi hp, h.slots_inputFor hnext hq, given_succ hi, Finset.disjoint_left]
  simp only [Finset.mem_Ico]
  constructor
  · intro hdisjoint
    by_contra hmore
    -- The first slot of the next attribute is in both.
    exact hdisjoint (a := layout.given registry i + registry.slotsFor component.1.type)
      ⟨by omega, by omega⟩ ⟨by omega, by omega⟩
  · intro hle slot hslot hslot'
    omega

end InRow

end VertexLayout

/-! ## Sources -/

/-- The declaration is one of an attribute. -/
def Declaration.isVertexInput : Declaration → Bool
  | vertexInput .. => true
  | _ => false

/-- The attributes that a source declares, in order. -/
def StageSource.vertexInputs (source : StageSource) : List Declaration :=
  source.declarations.filter Declaration.isVertexInput

/-- **A vertex stage declares the attributes of its inputs.** -/
lemma Draft.vertexInputs_declared (draft : Draft) (setting : Setting) (plans : List StagePlan)
    {plan : StagePlan} (storage : StageStorage) (hvertex : plan.request.stage = .vertex) :
    (draft.declared setting plans plan storage).filter Declaration.isVertexInput =
      (storage.inputs.entries.map (setting.vertexLayout.inputFor draft.registry)).map
        VertexInput.declaration := by
  have hresource : ∀ cls p, Option.guard Declaration.isVertexInput (draft.resource plans p cls) = none := by
    intro cls p
    cases cls <;> rfl
  have hhanded : ∀ p, Option.guard Declaration.isVertexInput (draft.handed plan p) = none := by
    intro p
    simp [handed, hvertex, Declaration.isVertexInput]
  have hstructs : (draft.registry.structs storage.types).filterMap
      (Option.guard Declaration.isVertexInput) = [] := by
    rw [List.filterMap_eq_nil_iff]
    intro declaration h
    obtain ⟨name, body, rfl⟩ := Registry.struct_of_mem_structs h
    rfl
  have htaken : ∀ p, Option.guard Declaration.isVertexInput (draft.taken setting plan storage p) =
      some (setting.vertexLayout.inputFor draft.registry p).declaration := by
    intro p
    simp only [taken, hvertex]
    rfl
  rw [← List.filterMap_eq_filter, draft.filterMap_declared setting storage hresource hhanded,
    hstructs, List.nil_append, List.map_map]
  simp only [htaken]
  exact congrFun List.filterMap_eq_map _

/-- **When attributes share no slot.**  Take any state of a renderer, and any vertex stage of a program
that is drafted from it.

* The attributes in its source are those of its inputs, at the locations of the components with their
  names.  As long as the slots of all components fit into a word of 32 bits, words count these locations.
* They share no slot, if none takes more slots than the component of its name was given.
* If one is named after the component right before that of another, which has a slot, then the two
  are apart exactly if the first takes no more slots than its component was given. -/
theorem attributes_disjoint {σ : Type} [Device σ] (renderer : Renderer σ)
    (hreached : renderer.Reached) (resolver : Resolver) (info : DeviceInfo)
    (requests : List StageRequest) (desired : PropertyList) {draft draft' : Draft} {made : Blueprint}
    (hdraft : draft.registry = renderer.registry)
    (hmade : Drafting.blueprint (renderer.setting resolver) info requests desired draft =
      .ok made draft') {i : Nat} {plan : StagePlan} {storage : StageStorage} {source : StageSource}
    (hat : made.At i plan storage source) (hvertex : plan.request.stage = .vertex) :
    source.vertexInputs =
      (storage.inputs.entries.map (renderer.vertexLayout.inputFor draft'.registry)).map
        VertexInput.declaration ∧
    (renderer.vertexLayout.next < UInt32.size →
      (∀ j component, renderer.vertexLayout.components[j]? = some component →
        (renderer.vertexLayout.givenWord renderer.registry j).toNat = component.2) ∧
      (renderer.vertexLayout.givenWord renderer.registry
        renderer.vertexLayout.components.length).toNat = renderer.vertexLayout.next) ∧
    ((∀ p ∈ storage.inputs.entries, renderer.vertexLayout.Holds draft'.registry p) →
      (storage.inputs.entries.map (renderer.vertexLayout.inputFor draft'.registry)).Pairwise
        fun input other => Disjoint input.slots other.slots) ∧
    ∀ (j : Nat) (component next : Property × Nat),
      renderer.vertexLayout.components[j]? = some component →
      renderer.vertexLayout.components[j + 1]? = some next →
      ∀ p ∈ storage.inputs.entries, ∀ q ∈ storage.inputs.entries, component.1.name = p.name →
        next.1.name = q.name → 0 < draft'.registry.slotsFor q.type →
          (Disjoint (renderer.vertexLayout.inputFor draft'.registry p).slots
              (renderer.vertexLayout.inputFor draft'.registry q).slots ↔
            draft'.registry.slotsFor p.type ≤ draft'.registry.slotsFor component.1.type) := by
  obtain ⟨hclosed, hrow⟩ := hreached.laidOut
  obtain ⟨_, _, _, hparts⟩ := Drafting.parts_of_blueprint hmade
  obtain ⟨_, _, _, hcourse⟩ := Drafting.course_of_blueprint hmade
  have hfinished := Drafting.finished_of_parts hparts
  have hstart : Grown renderer.registry (renderer.setting resolver).catalogue draft.registry := by
    rw [hdraft]
    exact Grown.refl hclosed
  have hrow' := hrow.mono (hcourse.grown hstart).extends_base hclosed
  have hcomponent : ∀ p ∈ storage.inputs.entries, renderer.vertexLayout.contains p.name = true := by
    intro p hp
    have htakes := (((hfinished.sorted hat.plan hat.storage).inputs p).1 hp).2
    rwa [StagePlan.takesIn, if_pos hvertex] at htakes
  refine ⟨?_, hrow.toNat_givenWord, fun hholds => ?_, ?_⟩
  · rw [StageSource.vertexInputs, hfinished.declared hat]
    exact draft'.vertexInputs_declared _ made.plans storage hvertex
  · rw [List.pairwise_map]
    refine (List.pairwise_map.1 storage.inputs.nodup).imp_of_mem fun {p q} hp hq hne => ?_
    exact hrow'.disjoint (hcomponent p hp) (hcomponent q hq) hne (hholds p hp) (hholds q hq)
  · intro j component next hj hnext p _ q _ hp hq hslot
    exact hrow'.disjoint_next_iff hj hnext hp hq hslot

/-- A renderer for which components were specified. -/
def meshed (components : List Property) : Renderer Headless :=
  components.foldl (fun renderer property => Outcome.state (renderer.specifyVertexBuffer property))
    (.ofParts .empty {} .ofBasics {})

lemma reached_meshed (components : List Property) : (meshed components).Reached :=
  List.foldlRecOn components _ (.parts .empty {} ({} : Headless) Registry.closed_ofBasics)
    fun _ h property _ => h.specified property

/-- Vertices are placed by some inputs. -/
def placedBy (inputs : List Property) : Resolver :=
  ((TaskCollection.empty.register (.call "place"
      { inputs := .ofList inputs, outputs := .ofList [⟨vertexPosition, .vec4⟩] }) [.vertex]).register
    (.call "shade" { outputs := .ofList [⟨"color", .vec4⟩] }) [.fragment]).resolver

/-- Three components, of which one is specified again with another type.  One call fails. -/
def meshComponents : List Property :=
  [⟨"position", .vec3⟩, ⟨"instance", .basic (.matrix .four)⟩, ⟨"ghost", .declared "Ghost" 4 4⟩,
    ⟨"position", .vec4⟩, ⟨"weight", .float⟩]

/-- The inputs are asked for in another order, and one takes fewer slots than its component has. -/
theorem attributes_disjoint_meshed :
    let renderer := meshed meshComponents
    let inputs := [⟨"weight", .float⟩, ⟨"instance", .vec4⟩, ⟨"position", .vec3⟩]
    renderer.Reached ∧ renderer.vertexLayout.next = 6 ∧
      (renderer.vertexLayout.givenWord renderer.registry 3).toNat = 6 ∧
    ∃ made draft' plan storage source,
      Drafting.blueprint (renderer.setting (placedBy inputs)) .ideal
        [.vertex .empty, .fragment .empty] (.ofList [⟨"color", .vec4⟩])
        { registry := renderer.registry } = .ok made draft' ∧
      made.At 0 plan storage source ∧ plan.request.stage = .vertex ∧
      (∀ p ∈ storage.inputs.entries, renderer.vertexLayout.Holds draft'.registry p) ∧
      source.vertexInputs = [.vertexInput 5 "float" "elem_weight",
        .vertexInput 1 "vec4" "elem_instance", .vertexInput 0 "vec3" "elem_position"] ∧
      (storage.inputs.entries.map (renderer.vertexLayout.inputFor draft'.registry)).Pairwise
        fun input other => Disjoint input.slots other.slots := by
  intro renderer inputs
  have hreached : renderer.Reached := reached_meshed meshComponents
  have htest : Outcome.ends (fun made draft => made.stageTest 0 fun plan storage source =>
        decide (plan.request.stage = .vertex ∧
          (∀ p ∈ storage.inputs.entries, renderer.vertexLayout.Holds draft.registry p) ∧
          source.vertexInputs = [.vertexInput 5 "float" "elem_weight",
            .vertexInput 1 "vec4" "elem_instance", .vertexInput 0 "vec3" "elem_position"]))
      (Drafting.blueprint (renderer.setting (placedBy inputs)) .ideal
        [.vertex .empty, .fragment .empty] (.ofList [⟨"color", .vec4⟩])
        { registry := renderer.registry }) = true := by decide +kernel
  obtain ⟨made, draft', hmade, htest⟩ := Outcome.exists_of_ends htest
  obtain ⟨plan, storage, source, hat, htest⟩ := Blueprint.exists_of_stageTest htest
  obtain ⟨hvertex, hholds, hsource⟩ := of_decide_eq_true htest
  obtain ⟨-, hwords, hdisjoint, -⟩ :=
    attributes_disjoint renderer hreached _ _ _ _ rfl hmade hat hvertex
  have hnext : renderer.vertexLayout.next = 6 := by decide +kernel
  have hlength : renderer.vertexLayout.components.length = 3 := by decide +kernel
  have hword := (hwords (by rw [hnext]; decide)).2
  rw [hlength, hnext] at hword
  exact ⟨hreached, hnext, hword, made, draft', plan, storage, source, hmade, hat, hvertex, hholds,
    hsource, hdisjoint hholds⟩

/-- **Attributes can share slots.**  Positions and normals are components of three floats each.  A
task that asks for a matrix by the name of positions gets four slots from the first on, and the
normals are in the second. -/
theorem not_forall_attributes_disjoint :
    let renderer := meshed [⟨"position", .vec3⟩, ⟨"normal", .vec3⟩]
    let setting := renderer.setting
      (placedBy [⟨"position", .basic (.matrix .four)⟩, ⟨"normal", .vec3⟩])
    let requests := [StageRequest.vertex .empty, .fragment .empty]
    let desired := PropertyList.ofList [⟨"color", .vec4⟩]
    renderer.Reached ∧
    (∃ program workshop', compile setting requests desired renderer.state.workshop =
      .ok program workshop') ∧
    ∃ made draft', Drafting.blueprint setting .ideal requests desired
        { registry := renderer.registry } = .ok made draft' ∧
      ¬ ∀ i plan storage source, made.At i plan storage source → plan.request.stage = .vertex →
        (storage.inputs.entries.map (renderer.vertexLayout.inputFor draft'.registry)).Pairwise
          fun input other => Disjoint input.slots other.slots := by
  intro renderer setting requests desired
  have hcompiles : Outcome.succeeds (compile setting requests desired renderer.state.workshop) = true := by
    decide +kernel
  have htest : Outcome.ends (fun made draft => made.stageTest 0 fun plan storage _ =>
        decide (plan.request.stage = .vertex ∧
          ¬ (storage.inputs.entries.map (renderer.vertexLayout.inputFor draft.registry)).Pairwise
            fun input other => Disjoint input.slots other.slots))
      (Drafting.blueprint setting .ideal requests desired { registry := renderer.registry })
        = true := by decide +kernel
  refine ⟨reached_meshed _, Outcome.exists_of_succeeds hcompiles, ?_⟩
  obtain ⟨made, draft', hmade, htest⟩ := Outcome.exists_of_ends htest
  obtain ⟨plan, storage, source, hat, htest⟩ := Blueprint.exists_of_stageTest htest
  obtain ⟨hvertex, hoverlap⟩ := of_decide_eq_true htest
  exact ⟨made, draft', hmade, fun hall => hoverlap (hall 0 plan storage source hat hvertex)⟩

end ShaderWeave
