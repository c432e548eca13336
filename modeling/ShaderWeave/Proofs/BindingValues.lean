import ShaderWeave.Device.Headless
import ShaderWeave.Program.Bind
import ShaderWeave.Proofs.DraftSteps
import ShaderWeave.Proofs.Forms
import ShaderWeave.Proofs.Needs

/-!
# Binding the values of a compiled program

Storage classes are chosen while a program is compiled, and setters are looked up again when values
are bound.  In between the registry may have grown.

**Slots.**  The four kinds of record are one list of `Slot`s, and binding goes through it from the
first to the last (`Binding.bindValues_eq`).

**Setters.**  A slot has the class for which the conversion of its type had a setter.  Conversions
stay, so the setter is still there.  Among conversions that nobody registered by hand it accepts a
value exactly if the value fits the slot (`Slot.settled_of_grown`).

**Programs.**  `binds_of_compile`: binding never lacks a setter, succeeds exactly if every value
that is found fits, and then tells the device to use the program and hands it one value for each
slot that has one.
-/

namespace ShaderWeave

open Registry (Grown ofBasics)

/-! ## Slots -/

/-- A resource of a linked program, and where values for it go: the location of a uniform, the
binding point of anything else. -/
structure Slot where
  cls : StorageClass
  property : Property
  place : Nat

/-- The slots of a linked program, in the order in which they are bound. -/
def LinkedStorage.slots (linked : LinkedStorage) : List Slot :=
  linked.uniforms.map (fun record => ⟨.uniform, record.property, record.location⟩)
    ++ linked.samplers.map (fun record => ⟨.sampler, record.property, record.binding⟩)
    ++ linked.uniformBlocks.map (fun record => ⟨.uniformBlock, record.property, record.binding⟩)
    ++ linked.storageBlocks.map (fun record => ⟨.storageBlock, record.property, record.binding⟩)

/-- The slots for which a source has a value, with the values. -/
def Slot.found (values : ValueSource) (slots : List Slot) : List (Slot × Value) :=
  slots.filterMap fun slot => (values slot.property.name).map (slot, ·)

/-- The value of the material, else of the environment. -/
def ValueSource.chosen (environment : ValueSource) (material : Option ValueSource) : ValueSource :=
  fun name => (material.bind fun material => material name).or (environment name)

/-- The texture in a value, if it is one. -/
def Value.texture? : Value → Option Nat
  | texture name => some name
  | _ => none

namespace Slot

/-- The value has the type of the slot, and if it is a buffer, no host writes are pending. -/
def Accepts (slot : Slot) (value : Value) : Prop :=
  value.type = slot.property.type ∧ ∀ handle, value.handle? = some handle → handle.synchronized = true

/-- The call that hands a value to a slot, if the value holds what the slot takes. -/
def call? (slot : Slot) (value : Value) : Option BindCall :=
  match slot.cls with
  | .uniform => value.uniform?.map (.uniform slot.place)
  | .sampler => value.texture?.map (.texture slot.place)
  | .uniformBlock => value.handle?.map fun handle => .buffer .uniform slot.place handle.buffer
  | .storageBlock => value.handle?.map fun handle => .buffer .storage slot.place handle.buffer

/-- The setter that a conversion has for a slot. -/
def setter? (slot : Slot) (conversion : Conversion) : Option Setter :=
  match slot.cls with
  | .uniform => conversion.uniform
  | .sampler => conversion.sampler
  | .uniformBlock => conversion.uniformBlock
  | .storageBlock => conversion.storageBlock

variable {σ : Type} [Device σ]

/-- Hands a value to a slot. -/
def hand (registry : Registry) (pair : Slot × Value) : Binding σ Unit :=
  Binding.bindValue pair.1.property.name pair.1.cls
    ((registry.lookup? pair.1.property.type).bind pair.1.setter?) pair.1.place pair.2

/-- Binds a slot, if there is a value for it. -/
def bind (registry : Registry) (values : ValueSource) (slot : Slot) : Binding σ Unit :=
  match values slot.property.name with
  | none => pure ()
  | some value => hand registry (slot, value)

end Slot

namespace Binding

variable {σ : Type} [Device σ]

/-- A device after bind calls, one after the other. -/
def told (calls : List BindCall) (device : σ) : σ :=
  calls.foldl (fun device call => (ask (.bind call) device).2) device

lemma told_cons (call : BindCall) (calls : List BindCall) (device : σ) :
    told (call :: calls) device = told calls (told [call] device) := rfl

/-- Binding goes through the slots, from the first to the last. -/
lemma bindValues_eq (program : Program) (registry : Registry) (values : ValueSource) :
    (bindValues program registry values : Binding σ Unit) =
      program.storage.slots.forM (Slot.bind registry values) := by
  rw [bindValues, LinkedStorage.slots]
  simp only [List.forM_eq_forM, List.forM_append, List.forM_map, bind_assoc]
  rfl

end Binding

/-! ## Setters -/

/-- The handle functions of buffers succeed on the value exactly if it has the type of the
buffer. -/
def Catalogue.Handles (catalogue : Catalogue) (value : Value) : Prop :=
  ∀ host shape, catalogue.shape host = .buffer shape →
    ((shape.handle? value).isSome = true ↔ value.type = host)

/-- If the values of a buffer type are the bearers of its handle, it is enough that they carry
one. -/
lemma Catalogue.handles_of_bearer {catalogue : Catalogue} {value : Value}
    (hbearer : ∀ host shape, catalogue.shape host = .buffer shape → shape.bearer = some host)
    (hcarries : ∀ shape, catalogue.shape value.type = .buffer shape → value.handle? ≠ none) :
    catalogue.Handles value := by
  intro host shape hshape
  rw [BufferShape.handle?, hbearer host shape hshape]
  by_cases h : value.type = host
  · subst h
    simpa [Option.isSome_iff_ne_none] using hcarries shape hshape
  · simp [h, Ne.symm h]

namespace Value

variable {value : Value} {basic : BasicType}

lemma handle?_of_basic (h : value.type = .basic basic) : value.handle? = none := by
  cases value with
  | declared name size align handle => cases h
  | _ => rfl

lemma exists_uniform (h : value.type = .basic basic) (hvoid : basic ≠ .void)
    (htexture : basic ≠ .texture) : ∃ sent, value.uniform? = some sent := by
  cases value with
  | void =>
      cases h
      exact absurd rfl hvoid
  | scalar kind component => cases kind <;> exact ⟨_, rfl⟩
  | vector kind dim components => cases kind <;> exact ⟨_, rfl⟩
  | matrix dim columns => exact ⟨_, rfl⟩
  | texture name =>
      cases h
      exact absurd rfl htexture
  | declared name size align handle => cases h

end Value

namespace Slot

variable {slot : Slot} {registry : Registry} {conversion : Conversion} {value : Value}

/-- There is a setter for the slot, and it makes the call for the value and no other exactly if the
value fits. -/
def Settled (slot : Slot) (registry : Registry) (value : Value) : Prop :=
  ∃ setter, (registry.lookup? slot.property.type).bind slot.setter? = some setter ∧
    (slot.Accepts value ∧
        (∃ call, slot.call? value = some call ∧ setter slot.place value = Setter.tell call) ∨
      ¬ slot.Accepts value ∧ ∃ reason, setter slot.place value = Setter.refuse reason)

lemma accepts_iff_of_basic {basic : BasicType} (htype : slot.property.type = .basic basic) :
    slot.Accepts value ↔ value.type = .basic basic := by
  rw [Accepts, htype]
  refine and_iff_left_of_imp fun h handle hhandle => ?_
  rw [Value.handle?_of_basic h] at hhandle
  cases hhandle

lemma settled_uniform {basic : BasicType} (hlookup : registry.lookup? slot.property.type =
      some conversion) (hclass : slot.cls = .uniform) (htype : slot.property.type = .basic basic)
    (hvoid : basic ≠ .void) (htexture : basic ≠ .texture)
    (hsetter : conversion.uniform = some (Setter.uniform basic)) (value : Value) :
    slot.Settled registry value := by
  refine ⟨_, by rw [hlookup, Option.bind_some, setter?, hclass, hsetter], ?_⟩
  rw [accepts_iff_of_basic htype]
  by_cases h : value.type = .basic basic
  · obtain ⟨sent, hsent⟩ := Value.exists_uniform h hvoid htexture
    refine Or.inl ⟨h, .uniform slot.place sent, ?_, ?_⟩
    · rw [call?, hclass, hsent]
      rfl
    · simp only [Setter.uniform, if_pos h, hsent]
  · refine Or.inr ⟨h, .typeMismatch (.basic basic) value.type.shortName, ?_⟩
    simp only [Setter.uniform, if_neg h, Setter.mismatch]

lemma settled_texture (hlookup : registry.lookup? slot.property.type = some conversion)
    (hclass : slot.cls = .sampler) (htype : slot.property.type = .texture)
    (hsetter : conversion.sampler = some Setter.texture) (value : Value) :
    slot.Settled registry value := by
  refine ⟨_, by rw [hlookup, Option.bind_some, setter?, hclass, hsetter], ?_⟩
  rw [accepts_iff_of_basic htype]
  cases value with
  | texture name =>
      refine Or.inl ⟨rfl, .texture slot.place name, ?_, rfl⟩
      rw [call?, hclass]
      rfl
  | _ => exact Or.inr ⟨nofun, _, rfl⟩

lemma settled_buffer {catalogue : Catalogue} {shape : BufferShape}
    (hlookup : registry.lookup? slot.property.type = some conversion)
    (hclass : slot.cls = .storageBlock)
    (hshape : catalogue.shape slot.property.type = .buffer shape)
    (hsetter : conversion.storageBlock = some (Setter.buffer .storage shape))
    (hhandles : catalogue.Handles value) : slot.Settled registry value := by
  refine ⟨_, by rw [hlookup, Option.bind_some, setter?, hclass, hsetter], ?_⟩
  have hsome := hhandles _ _ hshape
  cases hhandle : shape.handle? value with
  | none =>
      rw [hhandle] at hsome
      refine Or.inr ⟨fun haccepts => Bool.noConfusion (hsome.2 haccepts.1), ?_⟩
      simp only [Setter.buffer, hhandle]
      exact ⟨_, rfl⟩
  | some handle =>
      rw [hhandle] at hsome
      have htype : value.type = slot.property.type := hsome.1 rfl
      have hcarried : value.handle? = some handle := by
        rw [BufferShape.handle?] at hhandle
        split at hhandle
        · exact hhandle
        · cases hhandle
      by_cases hsynchronized : handle.synchronized = true
      · refine Or.inl ⟨⟨htype, ?_⟩, .buffer .storage slot.place handle.buffer, ?_, ?_⟩
        · intro other hother
          rw [hcarried] at hother
          cases hother
          exact hsynchronized
        · rw [call?, hclass, hcarried]
          rfl
        · simp only [Setter.buffer, hhandle, if_pos hsynchronized]
      · refine Or.inr ⟨fun haccepts => hsynchronized (haccepts.2 handle hcarried), ?_⟩
        simp only [Setter.buffer, hhandle, if_neg hsynchronized]
        exact ⟨_, rfl⟩

/-- **A slot whose class was chosen by the conversion of its type is settled,** if the conversion is
that of a basic type or was registered on first use. -/
lemma settled_of_grown {catalogue : Catalogue} (hgrown : Grown ofBasics catalogue registry)
    (hlookup : registry.lookup? slot.property.type = some conversion)
    (hclass : conversion.storageClass? = some slot.cls) (hhandles : catalogue.Handles value) :
    slot.Settled registry value := by
  rcases hgrown.lookup?_cases hlookup with ⟨basic, htype, hbasic⟩ | ⟨-, form, keys, hsuits, hform, -⟩
  · obtain ⟨found, hfound, huniform, hsampler, hblock, hstorage⟩ := Registry.lookup?_basic basic
    rw [htype, hfound] at hbasic
    cases hbasic
    by_cases hvoid : basic = .void
    · simp [Conversion.storageClass?, huniform, hsampler, hblock, hstorage, hvoid] at hclass
    · by_cases htexture : basic = .texture
      · rw [if_pos (Or.inr htexture)] at huniform
        rw [if_pos htexture] at hsampler
        have hcls : slot.cls = .sampler := by
          simpa [Conversion.storageClass?, huniform, hsampler, eq_comm] using hclass
        exact settled_texture hlookup hcls (by rw [htype, htexture]; rfl) hsampler value
      · rw [if_neg (by simp [hvoid, htexture])] at huniform
        have hcls : slot.cls = .uniform := by
          simpa [Conversion.storageClass?, huniform, eq_comm] using hclass
        exact settled_uniform hlookup hcls htype hvoid htexture huniform value
  · cases form with
    | struct name body layout =>
        rw [hform] at hclass
        cases hclass
    | block body layout shape =>
        rw [hform] at hclass
        have hcls : slot.cls = .storageBlock := (Option.some.inj hclass).symm
        refine settled_buffer hlookup hcls hsuits ?_ hhandles
        rw [hform]
        rfl

end Slot

/-! ## Binding slot by slot -/

namespace Slot

variable {σ : Type} [Device σ] {registry : Registry} {values : ValueSource} {slot : Slot}
  {value : Value}

lemma bind_of_none (h : values slot.property.name = none) (device : σ) :
    bind registry values slot device = .ok () device := by
  rw [bind, h]
  rfl

/-- A value that fits is handed to the device. -/
lemma bind_of_accepts (h : values slot.property.name = some value)
    (hsettled : slot.Settled registry value) (haccepts : slot.Accepts value) (device : σ) :
    ∃ call, slot.call? value = some call ∧
      bind registry values slot device = .ok () (Binding.told [call] device) := by
  obtain ⟨setter, hsetter, ⟨-, call, hcall, hok⟩ | ⟨hrefused, -⟩⟩ := hsettled
  · refine ⟨call, hcall, ?_⟩
    rw [bind, h]
    simp only [hand, Binding.bindValue, hsetter, hok]
    rfl
  · exact absurd haccepts hrefused

/-- A value that does not fit ends the work. -/
lemma bind_of_not_accepts (h : values slot.property.name = some value)
    (hsettled : slot.Settled registry value) (hrefused : ¬ slot.Accepts value) (device : σ) :
    ∃ reason, bind registry values slot device =
      .error (.property slot.property.name reason) device := by
  obtain ⟨setter, hsetter, ⟨haccepts, -⟩ | ⟨-, reason, herror⟩⟩ := hsettled
  · exact absurd haccepts hrefused
  · refine ⟨reason, ?_⟩
    rw [bind, h]
    simp only [hand, Binding.bindValue, hsetter, herror]
    rfl

lemma mem_found {slots : List Slot} :
    (slot, value) ∈ found values slots ↔ slot ∈ slots ∧ values slot.property.name = some value := by
  simp [found]

/-- Calls that hand values to slots, one for each. -/
abbrev Calls (found : List (Slot × Value)) (calls : List BindCall) : Prop :=
  List.Forall₂ (fun pair call => pair.1.call? pair.2 = some call) found calls

/-- Slots are bound one after the other, until a value does not fit. -/
lemma forM_bind {slots : List Slot} (device : σ)
    (hsettled : ∀ pair ∈ found values slots, pair.1.Settled registry pair.2) :
    (∀ pair ∈ found values slots, pair.1.Accepts pair.2) ∧
        (∃ calls, Calls (found values slots) calls ∧
          slots.forM (bind registry values) device = .ok () (Binding.told calls device)) ∨
      ¬ (∀ pair ∈ found values slots, pair.1.Accepts pair.2) ∧
        ∃ name reason device', slots.forM (bind registry values) device =
          .error (.property name reason) device' := by
  induction slots generalizing device with
  | nil => exact Or.inl ⟨List.forall_mem_nil _, [], .nil, rfl⟩
  | cons slot slots ih =>
      rw [List.forM_eq_forM, List.forM_cons, ← List.forM_eq_forM]
      cases hvalue : values slot.property.name with
      | none =>
          have hfound : found values (slot :: slots) = found values slots := by
            simp [found, hvalue]
          rw [hfound] at hsettled ⊢
          rw [Outcome.bind_of_ok (bind_of_none hvalue device)]
          exact ih device hsettled
      | some value =>
          have hfound : found values (slot :: slots) = (slot, value) :: found values slots := by
            simp [found, hvalue]
          rw [hfound] at hsettled ⊢
          obtain ⟨hfirst, hrest⟩ := List.forall_mem_cons.1 hsettled
          by_cases haccepts : slot.Accepts value
          · obtain ⟨call, hcall, hbind⟩ := bind_of_accepts hvalue hfirst haccepts device
            rw [Outcome.bind_of_ok hbind]
            rcases ih (Binding.told [call] device) hrest with ⟨hall, calls, hcalls, hok⟩ | ⟨hnot, herror⟩
            · refine Or.inl ⟨List.forall_mem_cons.2 ⟨haccepts, hall⟩, call :: calls,
                .cons hcall hcalls, ?_⟩
              rw [hok, ← Binding.told_cons]
            · exact Or.inr ⟨fun hall => hnot (List.forall_mem_cons.1 hall).2, herror⟩
          · obtain ⟨reason, hbind⟩ := bind_of_not_accepts hvalue hfirst haccepts device
            rw [Outcome.bind_of_error hbind]
            exact Or.inr ⟨fun hall => haccepts (List.forall_mem_cons.1 hall).1, _, reason, _, rfl⟩

end Slot

/-! ## Programs -/

section Programs

variable {σ τ : Type} [Device σ] [Device τ]

/-- **How binding goes,** for the values that are found for the slots of a program. -/
structure Program.Binds (program : Program) (values : ValueSource) (device : σ)
    (result : EStateM.Result BindError σ Unit) : Prop where
  /-- Every slot has a setter. -/
  equipped : ∀ name cls device', result ≠ .error (.missingSetter name cls) device'
  /-- Exactly fitting values are accepted. -/
  ok_iff : (∃ device', result = .ok () device') ↔
    ∀ pair ∈ Slot.found values program.storage.slots, pair.1.Accepts pair.2
  /-- The device is told to use the program, then it is handed one value for each slot that has
  one. -/
  calls : ∀ device', result = .ok () device' → ∃ calls,
    Slot.Calls (Slot.found values program.storage.slots) calls ∧
      device' = Binding.told (.program (some program.name) :: calls) device

lemma Binding.all_eq (program : Program) (registry : Registry) (environment : ValueSource)
    (material : Option ValueSource) (device : σ) :
    all program registry environment material device =
      program.storage.slots.forM (Slot.bind registry (environment.chosen material))
        (told [.program (some program.name)] device) := by
  cases material with
  | none =>
      have hchosen : environment.chosen none = environment := funext fun _ => Option.none_or
      rw [hchosen, ← bindValues_eq]
      rfl
  | some material =>
      rw [← bindValues_eq]
      rfl

lemma binds_of_settled {program : Program} {registry : Registry} {environment : ValueSource}
    {material : Option ValueSource} (device : σ)
    (h : ∀ pair ∈ Slot.found (environment.chosen material) program.storage.slots,
      pair.1.Settled registry pair.2) :
    program.Binds (environment.chosen material) device
      (Binding.all program registry environment material device) := by
  rw [Binding.all_eq]
  rcases Slot.forM_bind (Binding.told [.program (some program.name)] device) h with
    ⟨hall, calls, hcalls, hok⟩ | ⟨hnot, name, reason, device', herror⟩
  · rw [hok]
    refine ⟨nofun, ⟨fun _ => hall, fun _ => ⟨_, rfl⟩⟩, ?_⟩
    rintro _ ⟨⟩
    exact ⟨calls, hcalls, (Binding.told_cons _ calls device).symm⟩
  · rw [herror]
    exact ⟨nofun, ⟨nofun, fun hall => absurd hall hnot⟩, nofun⟩

/-- The slots are the resources that the device knows. -/
lemma map_slots (linked : LinkedStorage) :
    linked.slots.map (fun slot => (slot.cls, slot.property)) =
      linked.findings.map fun finding => (finding.cls, finding.property) := by
  simp only [LinkedStorage.slots, LinkedStorage.findings, List.map_append, List.map_map]
  rfl

lemma Program.Queried.mem_list_of_slot {made : Blueprint} {told : List Finding} {program : Program}
    (h : program.Queried made told) {slot : Slot} (hslot : slot ∈ program.storage.slots) :
    slot.property ∈ (made.program.list slot.cls).entries := by
  have hresource : (slot.cls, slot.property) ∈
      program.storage.findings.map fun finding => (finding.cls, finding.property) := by
    rw [← map_slots]
    exact List.mem_map_of_mem hslot
  obtain ⟨finding, hfinding, heq⟩ := List.mem_map.1 hresource
  rw [h.records, Finding.mem_present] at hfinding
  refine ProgramStorage.mem_resources.1 ?_
  rw [← h.asked, ← heq]
  exact List.mem_map_of_mem hfinding.1

lemma blueprint_of_compile {setting : Setting} {requests : List StageRequest}
    {desired : PropertyList} {workshop workshop' : Workshop σ} {program : Program}
    (h : compile setting requests desired workshop = .ok program workshop') :
    ∃ made draft, Drafting.blueprint setting (Device.info workshop.device) requests desired
      workshop.draft = .ok made draft ∧ workshop'.registry = draft.registry := by
  rw [compile] at h
  cases hmade : Drafting.blueprint setting (Device.info workshop.device) requests desired
      workshop.draft with
  | error error draft =>
      rw [hmade] at h
      cases h
  | ok made draft =>
      refine ⟨made, draft, rfl, ?_⟩
      rw [hmade] at h
      dsimp only at h
      split at h
      · cases h
      · cases h
        rfl

/-- The registry after conversions has only grown. -/
lemma Registry.grows_after {base registry : Registry} {catalogue : Catalogue}
    (hgrown : Grown base catalogue registry) (hosts : List HostType) :
    Grows base catalogue registry (after catalogue registry hosts) := by
  induction hosts generalizing registry with
  | nil => exact Grows.refl hgrown
  | cons host hosts ih =>
      have hfirst : Grows base catalogue registry (afterConvert catalogue registry host) :=
        grows_afterConvert hgrown
      exact hfirst.trans (ih hfirst.grown)

/-- A slot of a compiled program has the class for which the conversion of its type has a setter. -/
lemma bindable_of_compile {base : Registry} {setting : Setting} {requests : List StageRequest}
    {desired : PropertyList} {workshop workshop' : Workshop σ} {program : Program}
    (hgrown : Grown base setting.catalogue workshop.registry)
    (h : compile setting requests desired workshop = .ok program workshop') :
    Grown base setting.catalogue workshop'.registry ∧
      ∀ slot ∈ program.storage.slots, ∃ conversion,
        workshop'.registry.lookup? slot.property.type = some conversion ∧
          conversion.storageClass? = some slot.cls := by
  obtain ⟨made, draft, hmade, hregistry⟩ := blueprint_of_compile h
  obtain ⟨site, -, hqueried⟩ := queried_of_compile hmade h
  obtain ⟨start, planned, assigned, hcourse⟩ := Drafting.course_of_blueprint hmade
  rw [hregistry]
  exact ⟨hcourse.grown hgrown, fun slot hslot =>
    hcourse.bindable hgrown slot.cls slot.property (hqueried.mem_list_of_slot hslot)⟩

/-- **Binding a compiled program succeeds exactly on values that fit.**  The registry the program was
compiled with knew the basic types and what was converted before; the values are bound with the
registry that the compile left, after any more conversions.  A buffer type yields a handle for
exactly its own values. -/
theorem binds_of_compile (setting : Setting) (requests : List StageRequest)
    (desired : PropertyList) (earlier later : List HostType) (workshop workshop' : Workshop σ)
    (program : Program)
    (hregistry : workshop.registry = Registry.after setting.catalogue ofBasics earlier)
    (h : compile setting requests desired workshop = .ok program workshop')
    (environment : ValueSource) (material : Option ValueSource)
    (hhandles : ∀ name value, environment.chosen material name = some value →
      setting.catalogue.Handles value) (device : τ) :
    program.Binds (environment.chosen material) device
      (Binding.all program (Registry.after setting.catalogue workshop'.registry later)
        environment material device) := by
  have hstart : Grown ofBasics setting.catalogue workshop.registry := by
    rw [hregistry]
    exact (Grown.refl Registry.closed_ofBasics).after earlier
  obtain ⟨hgrown, hslots⟩ := bindable_of_compile hstart h
  have hlater := Registry.grows_after hgrown later
  refine binds_of_settled device ?_
  rintro ⟨slot, value⟩ hpair
  obtain ⟨hslot, hvalue⟩ := Slot.mem_found.1 hpair
  obtain ⟨conversion, hlookup, hclass⟩ := hslots slot hslot
  exact Slot.settled_of_grown hlater.grown
    (hlater.extends_start.lookup? hgrown.closed hlookup) hclass (hhandles _ value hvalue)

/-- A task that moves points by a gain and shades them with a texture. -/
def moving : Setting where
  catalogue := ⟨[(pointCloud, .buffer (.pointer pointCloud .void .vec4))]⟩
  vertexLayout := {}
  resolver := (TaskCollection.empty.register (.call "move"
      { inputs := .ofList [⟨"cover", .texture⟩, ⟨"gain", .float⟩]
        filters := .ofList [⟨"points", pointCloud⟩]
        outputs := .ofList [⟨"color", .vec4⟩] }) [.compute]).resolver
  options := {}

/-- A workshop in which point clouds were converted before. -/
def movingWorkshop : Workshop Headless where
  device := {}
  registry := Registry.after moving.catalogue ofBasics [pointCloud]

/-- The environment has points that are up to date, and a gain. -/
def cloudy : ValueSource := fun name =>
  if name = "points" then some (.declared "PointCloud" 8 8 (some ⟨7, true⟩))
  else if name = "gain" then some (.scalar .float ⟨0⟩) else none

/-- The material has a cover and a gain of its own. -/
def covered : ValueSource := fun name =>
  if name = "cover" then some (.texture 3)
  else if name = "gain" then some (.scalar .float ⟨1065353216⟩) else none

lemma handles_moving {name : String} {value : Value}
    (h : cloudy.chosen (some covered) name = some value) : moving.catalogue.Handles value := by
  refine Catalogue.handles_of_bearer (fun host shape hshape => ?_) fun shape hshape => ?_
  · by_cases hhost : pointCloud = host
    · rw [← hhost] at hshape ⊢
      cases hshape
      rfl
    · simp [moving, Catalogue.shape, hhost] at hshape
  · have hvalue : value = .texture 3 ∨ value.type = .float ∨ value.handle? ≠ none := by
      simp only [ValueSource.chosen, covered, cloudy, Option.bind_some] at h
      split_ifs at h <;> cases h <;> simp [Value.type, Value.handle?, HostType.float]
    rcases hvalue with rfl | hfloat | hhandle
    · cases hshape
    · rw [hfloat] at hshape
      cases hshape
    · exact hhandle

/-- A uniform whose value the material overrides, a texture and a buffer.  Between the compile and
the binding another type is converted. -/
theorem binds_of_compile_moving : ∃ program workshop',
    compile moving [.compute .empty {}] (.ofList [⟨"color", .vec4⟩]) movingWorkshop =
      .ok program workshop' ∧
    program.storage.slots.map (fun slot => (slot.property.name, slot.place)) =
      [("gain", 0), ("cover", 0), ("points", 1)] ∧
    program.Binds (cloudy.chosen (some covered)) ({} : Headless)
      (Binding.all program (Registry.after moving.catalogue workshop'.registry [.void, lampType])
        cloudy (some covered) {}) := by
  have htest : Outcome.passes (fun program : Program =>
        decide (program.storage.slots.map (fun slot => (slot.property.name, slot.place)) =
          [("gain", 0), ("cover", 0), ("points", 1)]))
      (compile moving [.compute .empty {}] (.ofList [⟨"color", .vec4⟩]) movingWorkshop) = true := by
    decide +kernel
  obtain ⟨program, workshop', hprogram, htest⟩ := Outcome.exists_of_passes htest
  exact ⟨program, workshop', hprogram, of_decide_eq_true htest,
    binds_of_compile moving _ _ [pointCloud] [.void, lampType] movingWorkshop workshop' program rfl
      hprogram cloudy (some covered) (fun _ _ => handles_moving) _⟩

end Programs

end ShaderWeave
