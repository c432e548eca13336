import Mathlib.Tactic.MkIffOfInductiveProp
import ShaderWeave.Proofs.Failures
import ShaderWeave.Proofs.Needs
import ShaderWeave.Proofs.Traces

/-!
# Limits of a device

Before a device is asked for anything, the drafted program is compared with what the device has room
for.  The comparison is made with numbers that stop at `maxWord`, of what the program storage says and
not of what the sources say.

* `checkLimits_eq_ok_iff` — below `maxWord` the numbers could as well be unbounded: the check passes
  exactly if everything is `Within` the limits.
* `Blueprint.Fits` — what it is about: the binding points that stand in the sources, the blocks that
  they declare, and the work groups.
* `Drafting.Parts.fits_iff` — a draft is within the limits exactly if its sources fit.  A uniform
  block has the size of the type that the first stage with its name has for it.
* `fits_of_compile` — **a program reaches the device only if it fits,** and is refused for a limit only
  if it does not.
-/

namespace ShaderWeave

/-! ## Checks one after the other -/

namespace Outcome

variable {ε α : Type}

lemma bind_eq_ok_iff {x y : Except ε Unit} :
    (x >>= fun _ => y) = .ok () ↔ x = .ok () ∧ y = .ok () := by
  cases x with
  | ok u => simp [Bind.bind, Except.bind]
  | error e => simp [Bind.bind, Except.bind]

lemma forM_eq_ok_iff {f : α → Except ε Unit} {xs : List α} :
    xs.forM f = .ok () ↔ ∀ x ∈ xs, f x = .ok () := by
  induction xs with
  | nil => simp [Pure.pure, Except.pure]
  | cons x xs ih =>
      change (f x >>= fun _ => xs.forM f) = .ok () ↔ _
      rw [bind_eq_ok_iff, ih, List.forall_mem_cons]

end Outcome

lemma checkLimit_eq_ok_iff {limit : Limit} {value bound : Nat} :
    checkLimit limit value bound = .ok () ↔ value ≤ bound := by
  unfold checkLimit
  split_ifs with hlt
  · simp [Nat.not_le.2 hlt]
  · simp [Nat.not_lt.1 hlt]

/-! ## Numbers that stop -/

/-- The number of invocations in a work group. -/
def Axes.volume (group : Axes Nat) : Nat := group.x * group.y * group.z

lemma min_mul_stop (product n stop : Nat) :
    min (min product stop * n) stop = min (product * n) stop := by
  rcases Nat.eq_zero_or_pos n with rfl | hpos
  · simp
  · rcases Nat.le_total product stop with hle | hle
    · rw [Nat.min_eq_left hle]
    · have hstop : stop ≤ stop * n := Nat.le_mul_of_pos_right stop hpos
      rw [Nat.min_eq_right hle, Nat.min_eq_right hstop,
        Nat.min_eq_right (hstop.trans (Nat.mul_le_mul_right n hle))]

/-- Stopping on the way is stopping at the end, because a product that has stopped can only become
zero. -/
lemma groupInvocations_eq (group : Axes Nat) : groupInvocations group = min group.volume maxWord := by
  simp only [groupInvocations, Axes.toList, List.foldl_cons, List.foldl_nil, min_mul_stop, Axes.volume,
    Nat.one_mul]

lemma stopped_le_iff {value bound : Nat} (h : bound < maxWord) :
    min value maxWord ≤ bound ↔ value ≤ bound := by omega

/-! ## The check -/

/-- Everything that is counted is within the limits of the device. -/
@[mk_iff]
structure Within (info : DeviceInfo) (plans : List StagePlan) (program : ProgramStorage)
    (registry : Registry) : Prop where
  samplers : ∀ property ∈ program.samplers.entries, ∀ binding,
    program.binding? property.name = some binding → binding < info.maxTextureUnits
  storageBlocks : ∀ property ∈ program.storageBlocks.entries, ∀ binding,
    program.binding? property.name = some binding → binding < info.maxStorageBuffers
  uniformBlocks : ∀ property ∈ program.uniformBlocks.entries, ∀ type,
    registry.typeOf? property.type = some type → type.layout.size ≤ info.maxUniformBlockSize
  groups : ∀ plan ∈ plans, ∀ dispatch, plan.request.dispatch = some dispatch →
    dispatch.group.volume ≤ info.maxGroupInvocations

section Check

variable {info : DeviceInfo} {plans : List StagePlan} {program : ProgramStorage}
  {registry : Registry}

/-- **The check is exact,** although it stops counting. -/
lemma checkLimits_eq_ok_iff (hsize : info.maxUniformBlockSize < maxWord)
    (hgroup : info.maxGroupInvocations < maxWord) :
    checkLimits info plans program registry = .ok () ↔ Within info plans program registry := by
  unfold checkLimits
  simp only [within_iff, Outcome.bind_eq_ok_iff, Outcome.forM_eq_ok_iff]
  refine and_congr ?_ (and_congr ?_ (and_congr ?_ ?_))
  · refine forall₂_congr fun property _ => ?_
    cases program.binding? property.name with
    | none => simp
    | some binding => exact (checkLimit_eq_ok_iff.trans Nat.add_one_le_iff).trans (by simp)
  · refine forall₂_congr fun property _ => ?_
    cases program.binding? property.name with
    | none => simp
    | some binding => exact (checkLimit_eq_ok_iff.trans Nat.add_one_le_iff).trans (by simp)
  · refine forall₂_congr fun property _ => ?_
    cases registry.typeOf? property.type with
    | none => simp
    | some type => simp [checkLimit_eq_ok_iff, stopped_le_iff hsize]
  · refine forall₂_congr fun plan _ => ?_
    cases plan.request.dispatch with
    | none => simp
    | some dispatch => simp [checkLimit_eq_ok_iff, groupInvocations_eq, stopped_le_iff hgroup]

end Check

/-! ## What stands in the sources -/

/-- **The sources of a program and its work groups fit a device.**  A uniform block has the size of the
type that its property has in the first stage it comes to. -/
structure Blueprint.Fits (info : DeviceInfo) (registry : Registry) (made : Blueprint) : Prop where
  samplers : ∀ source ∈ made.sources, ∀ binding type name,
    .sampler binding type name ∈ source.declarations → binding < info.maxTextureUnits
  storageBlocks : ∀ source ∈ made.sources, ∀ binding readOnly writeOnly block name content,
    .storageBlock binding readOnly writeOnly block name content ∈ source.declarations →
      binding < info.maxStorageBuffers
  uniformBlocks : ∀ source ∈ made.sources, ∀ binding block name content,
    .uniformBlock binding block name content ∈ source.declarations →
      ∃ property type, Drafting.Introduced made.storages .uniformBlock property ∧
        name = Mark.uniformContent ++ property.name ∧
        registry.typeOf? property.type = some type ∧ type.layout.size ≤ info.maxUniformBlockSize
  groups : ∀ plan ∈ made.plans, ∀ dispatch, plan.request.dispatch = some dispatch →
    dispatch.group.volume ≤ info.maxGroupInvocations

namespace Drafting

/-- A name is introduced once. -/
lemma Introduced.eq {storages : List StageStorage} {cls : StorageClass} {p q : Property}
    (hp : Introduced storages cls p) (hq : Introduced storages cls q) (hname : p.name = q.name) :
    p = q := by
  obtain ⟨earlier, storage, later, rfl, hmem, hbefore⟩ := hp
  obtain ⟨earlier', storage', later', heq, hmem', hbefore'⟩ := hq
  have hin := PropertyList.name_mem_names hmem
  have hin' := PropertyList.name_mem_names hmem'
  rcases List.append_eq_append_iff.1 heq with ⟨between, rfl, hcut⟩ | ⟨between, rfl, hcut⟩
  · cases between with
    | nil =>
        obtain ⟨rfl, -⟩ := List.cons.inj hcut
        exact PropertyList.eq_of_name_eq hmem hmem' hname
    | cons other between =>
        obtain ⟨rfl, -⟩ := List.cons.inj hcut
        exact absurd (hname ▸ hin) (hbefore' storage (by simp))
  · cases between with
    | nil =>
        obtain ⟨rfl, -⟩ := List.cons.inj hcut
        exact PropertyList.eq_of_name_eq hmem hmem' hname
    | cons other between =>
        obtain ⟨rfl, -⟩ := List.cons.inj hcut
        exact absurd (hname ▸ hin') (hbefore storage' (by simp))

variable {setting : Setting} {requests : List StageRequest} {desired : PropertyList}
  {info : DeviceInfo} {made : Blueprint} {draft start planned assigned final : Draft} {i : Nat}

/-- A loop of work that leaves the registry alone, at a place. -/
lemma step_of_mapM {α β : Type} {f : α → Drafting β} {names : α → List String}
    (hf : ∀ x, Yields (names x) (fun _ _ => True) (f x)) {xs : List α} {ys : List β}
    {before after : Draft} (h : xs.mapM f before = .ok ys after) {x : α} (hx : x ∈ xs) :
    ∃ y middle middle', f x middle = .ok y middle' ∧ middle.registry = before.registry := by
  induction xs generalizing ys before after with
  | nil => exact absurd hx List.not_mem_nil
  | cons first rest ih =>
      rw [List.mapM_cons] at h
      obtain ⟨y, next, hfirst, h⟩ := Outcome.bind_ok h
      obtain ⟨ys, last, hrest, -⟩ := Outcome.bind_ok h
      rcases List.mem_cons.1 hx with rfl | hx
      · exact ⟨y, before, next, hfirst, rfl⟩
      · obtain ⟨y', middle, middle', hstep, hregistry⟩ := ih hrest hx
        exact ⟨y', middle, middle', hstep, hregistry.trans (hf first before y next hfirst).1⟩

/-- The type of a uniform block that a source declares is known. -/
lemma typeOf?_of_writeStage {plans : List StagePlan} {plan : StagePlan} {storage : StageStorage}
    {source : StageSource} {before after : Draft}
    (h : writeStage setting plans (plan, storage) before = .ok source after) {property : Property}
    (hproperty : property ∈ storage.uniformBlocks.entries) :
    ∃ type, before.registry.typeOf? property.type = some type := by
  obtain ⟨made, draft₁, hgenerate, -⟩ := Outcome.bind_ok h
  obtain ⟨declared, draft₂, hdeclarations, -⟩ := Outcome.bind_ok hgenerate
  obtain ⟨structs, draft₃, hstructs, hrest⟩ := Outcome.bind_ok hdeclarations
  obtain ⟨uniforms, draft₄, huniforms, hrest⟩ := Outcome.bind_ok hrest
  obtain ⟨samplers, draft₅, hsamplers, hrest⟩ := Outcome.bind_ok hrest
  obtain ⟨blocks, draft₆, hblocks, -⟩ := Outcome.bind_ok hrest
  have hregistry : draft₅.registry = before.registry :=
    (Yields.mapM (yields_declareSampler plans) _ draft₄ _ draft₅ hsamplers).1.trans <|
      (Yields.mapM (yields_declareUniform plans) _ draft₃ _ draft₄ huniforms).1.trans
        (yields_structDeclarations storage before _ draft₃ hstructs).1
  obtain ⟨block, middle, middle', hblock, hsame⟩ := step_of_mapM
    (fun p => (yields_declareUniformBlock plans p).imp fun _ _ _ => trivial) hblocks hproperty
  obtain ⟨type, _, htype, -⟩ := Outcome.bind_ok hblock
  obtain ⟨_, _, ⟨⟩, htype⟩ := Outcome.bind_ok htype
  rw [← hregistry, ← hsame]
  cases hfound : middle.registry.typeOf? property.type with
  | some found => exact ⟨found, rfl⟩
  | none =>
      simp only [hfound] at htype
      exact absurd htype (by rintro ⟨⟩)

namespace Parts

/-- The last registry knows the type of a uniform block of any stage. -/
lemma typeOf?_of_mem (h : Parts setting requests desired made start planned assigned final)
    {storage : StageStorage} (hstorage : storage ∈ made.storages) {property : Property}
    (hproperty : property ∈ storage.uniformBlocks.entries) :
    ∃ type, final.registry.typeOf? property.type = some type := by
  obtain ⟨i, hi⟩ := List.mem_iff_getElem?.1 hstorage
  obtain ⟨plan, source, hat⟩ := h.exists_at hi
  have hstage : (plan, storage) ∈ made.plans.zip made.storages :=
    List.mem_of_getElem? (List.getElem?_zip_eq_some.2 ⟨hat.plan, hat.storage⟩)
  obtain ⟨written, before, after, hwrite, hbefore⟩ := step_of_mapM
    (fun stage => (yields_writeStage setting made.plans stage).imp fun _ _ _ => trivial) h.write
    hstage
  have hfinal : final.registry = assigned.registry :=
    (Yields.mapM (yields_writeStage setting made.plans) _ assigned _ final h.write).1
  rw [hfinal, ← hbefore]
  exact typeOf?_of_writeStage hwrite hproperty

/-- Some source declares what the program has in a class, with the number that it has for it. -/
lemma exists_resource (h : Parts setting requests desired made start planned assigned final)
    (cls : StorageClass) {property : Property}
    (hproperty : property ∈ (made.program.list cls).entries) :
    ∃ source ∈ made.sources, ∃ declaration ∈ source.declarations, declaration.resource?
      = some (cls, cls.mark ++ property.name, made.program.binding? property.name) := by
  have hfinished := finished_of_parts h
  obtain ⟨storage, hstorage, hname⟩ :=
    hfinished.added cls property.name (PropertyList.name_mem_names hproperty)
  obtain ⟨i, hi⟩ := List.mem_iff_getElem?.1 hstorage
  obtain ⟨plan, source, hat⟩ := h.exists_at hi
  exact ⟨source, List.mem_of_getElem? hat.source,
    (hfinished.declares_resource_iff hat).2 ⟨property.name, hname, rfl, rfl⟩⟩

/-- What a source declares in a class, the program has in that class. -/
lemma property_of_resource (h : Parts setting requests desired made start planned assigned final)
    {source : StageSource} (hsource : source ∈ made.sources) {declaration : Declaration}
    (hdeclaration : declaration ∈ source.declarations) {cls : StorageClass} {holder : String}
    {binding : Option Nat} (htold : declaration.resource? = some (cls, holder, binding)) :
    ∃ property ∈ (made.program.list cls).entries, holder = cls.mark ++ property.name ∧
      binding = made.program.binding? property.name := by
  have hfinished := finished_of_parts h
  obtain ⟨i, hi⟩ := List.mem_iff_getElem?.1 hsource
  obtain ⟨plan, storage, hat⟩ := h.exists_at_source hi
  obtain ⟨name, hname, rfl, rfl⟩ :=
    (hfinished.declares_resource_iff hat).1 ⟨declaration, hdeclaration, htold⟩
  obtain ⟨property, hproperty, rfl⟩ := PropertyList.mem_names.1
    (hfinished.names_subset (List.mem_of_getElem? hat.storage) cls hname)
  exact ⟨property, hproperty, rfl, rfl⟩

/-- **A draft is within the limits exactly if its sources fit.** -/
lemma fits_iff (h : Parts setting requests desired made start planned assigned final) :
    made.Fits info final.registry ↔ Within info made.plans made.program final.registry := by
  have hfinished := finished_of_parts h
  constructor
  · intro hfits
    refine ⟨?_, ?_, ?_, hfits.groups⟩
    · intro property hproperty binding hbinding
      obtain ⟨source, hsource, declaration, hmem, htold⟩ :=
        h.exists_resource .sampler hproperty
      rw [hbinding] at htold
      cases declaration <;> cases htold
      exact hfits.samplers source hsource _ _ _ hmem
    · intro property hproperty binding hbinding
      obtain ⟨source, hsource, declaration, hmem, htold⟩ :=
        h.exists_resource .storageBlock hproperty
      rw [hbinding] at htold
      cases declaration <;> cases htold
      exact hfits.storageBlocks source hsource _ _ _ _ _ _ hmem
    · intro property hproperty type htype
      obtain ⟨source, hsource, declaration, hmem, htold⟩ :=
        h.exists_resource .uniformBlock hproperty
      generalize made.program.binding? property.name = number at htold
      cases declaration <;> cases htold
      obtain ⟨first, known, hfirst, hname, hknown, hle⟩ :=
        hfits.uniformBlocks source hsource _ _ _ _ hmem
      have hsame := (hfinished.introduced .uniformBlock property hproperty).eq hfirst
        (String.append_right_inj _ |>.1 hname)
      rw [← hsame, htype] at hknown
      cases hknown
      exact hle
  · intro hwithin
    refine ⟨?_, ?_, ?_, hwithin.groups⟩
    · intro source hsource binding type name hmem
      obtain ⟨property, hproperty, -, hbinding⟩ := h.property_of_resource hsource hmem rfl
      exact hwithin.samplers property hproperty binding hbinding.symm
    · intro source hsource binding readOnly writeOnly block name content hmem
      obtain ⟨property, hproperty, -, hbinding⟩ := h.property_of_resource hsource hmem rfl
      exact hwithin.storageBlocks property hproperty binding hbinding.symm
    · intro source hsource binding block name content hmem
      obtain ⟨property, hproperty, hname, -⟩ := h.property_of_resource hsource hmem rfl
      have hfirst := hfinished.introduced .uniformBlock property hproperty
      obtain ⟨earlier, storage, later, hstorages, hown, -⟩ := hfirst
      obtain ⟨type, htype⟩ :=
        h.typeOf?_of_mem (hstorages ▸ List.mem_append_right _ List.mem_cons_self) hown
      exact ⟨property, type, hfinished.introduced .uniformBlock property hproperty, hname, htype,
        hwithin.uniformBlocks property hproperty type htype⟩

end Parts

/-- **Devices differ in the last check only.**  What was drafted for one device is drafted for another
until the limits are checked. -/
lemma blueprint_of_drafted (info : DeviceInfo) {other : DeviceInfo}
    (h : blueprint setting other requests desired draft = .ok made final) :
    blueprint setting info requests desired draft =
      (ofExcept (checkLimits info made.plans made.program final.registry) >>= fun _ => pure made)
        final ∧
    checkLimits other made.plans made.program final.registry = .ok () := by
  unfold blueprint at h ⊢
  obtain ⟨_, start, hstart, h⟩ := Outcome.bind_ok h
  obtain ⟨plans, planned, hplans, h⟩ := Outcome.bind_ok h
  obtain ⟨_, checked, hchecks, h⟩ := Outcome.bind_ok h
  obtain ⟨storages, assigned, hstorages, h⟩ := Outcome.bind_ok h
  obtain ⟨sources, written, hsources, h⟩ := Outcome.bind_ok h
  obtain ⟨_, _, ⟨⟩, h⟩ := Outcome.bind_ok h
  obtain ⟨_, limited, hlimits, h⟩ := Outcome.bind_ok h
  obtain ⟨rfl, rfl⟩ := Outcome.pure_ok h
  obtain rfl := same_of_ofExcept hlimits
  refine ⟨?_, StagePlan.ofExcept_ok hlimits⟩
  rw [Outcome.bind_of_ok hstart, Outcome.bind_of_ok hplans, Outcome.bind_of_ok hchecks,
    Outcome.bind_of_ok hstorages, Outcome.bind_of_ok hsources, Outcome.get_bind]

end Drafting

/-- **What was drafted is accepted exactly if it fits.** -/
lemma Drafting.fits_of_drafted {setting : Setting} {info other : DeviceInfo}
    {requests : List StageRequest} {desired : PropertyList} {draft final : Draft} {made : Blueprint}
    (hsize : info.maxUniformBlockSize < maxWord) (hgroup : info.maxGroupInvocations < maxWord)
    (h : blueprint setting other requests desired draft = .ok made final) :
    made.Fits info final.registry ∧ blueprint setting info requests desired draft = .ok made final ∨
    ¬ made.Fits info final.registry ∧ ∃ limit value bound, bound < value ∧
      blueprint setting info requests desired draft
        = .error (.limitExceeded limit value bound) final := by
  obtain ⟨start, planned, assigned, hparts⟩ := parts_of_blueprint h
  obtain ⟨hdrafted, -⟩ := blueprint_of_drafted info h
  rw [hparts.fits_iff, ← checkLimits_eq_ok_iff hsize hgroup, hdrafted]
  cases hchecked : checkLimits info made.plans made.program final.registry with
  | ok u => exact Or.inl ⟨rfl, rfl⟩
  | error error =>
      obtain ⟨limit, value, bound, hlt, rfl⟩ := checkLimits_error hchecked
      exact Or.inr ⟨by rintro ⟨⟩, limit, value, bound, hlt, rfl⟩

/-- **Limits are checked exactly.**  Let the limits of a device be below the largest number of 32 bits.

* If a compile asks the device for anything, then a program was drafted that fits it.
* Take a program that can be drafted for some device, this one or another.  It is drafted for this
  device exactly if it fits, and otherwise it is refused for a limit.
* Whatever is checked: the check passes exactly if everything is within the limits, and fails for a
  limit that is exceeded. -/
theorem fits_of_compile {σ : Type} [Device σ] (setting : Setting) (requests : List StageRequest)
    (desired : PropertyList) (workshop : Workshop σ) (info : DeviceInfo)
    (hinfo : Device.info workshop.device = info) (hsize : info.maxUniformBlockSize < maxWord)
    (hgroup : info.maxGroupInvocations < maxWord) :
    ((Outcome.state (compile setting requests desired workshop.traced)).device.calls ≠ [] →
      ∃ made final, Drafting.blueprint setting info requests desired workshop.draft = .ok made final ∧
        made.Fits info final.registry) ∧
    (∀ other made final,
      Drafting.blueprint setting other requests desired workshop.draft = .ok made final →
        (Drafting.blueprint setting info requests desired workshop.draft = .ok made final ↔
          made.Fits info final.registry) ∧
        (¬ made.Fits info final.registry → ∃ limit value bound, bound < value ∧
          compile setting requests desired workshop
            = .error (.specification (.limitExceeded limit value bound)) (workshop.settle final))) ∧
    ∀ plans program registry,
      (checkLimits info plans program registry = .ok () ↔ Within info plans program registry) ∧
      ∀ error, checkLimits info plans program registry = .error error →
        (∃ limit value bound, bound < value ∧ error = .limitExceeded limit value bound) ∧
          ¬ Within info plans program registry := by
  refine ⟨?_, ?_, ?_⟩
  · intro hcalls
    have htraced : Device.info workshop.traced.device = info := hinfo
    cases hmade : Drafting.blueprint setting info requests desired workshop.draft with
    | error error draft =>
        have hdraft : workshop.traced.draft = workshop.draft := rfl
        rw [compile, htraced, hdraft, hmade] at hcalls
        exact absurd rfl hcalls
    | ok made final =>
        rcases Drafting.fits_of_drafted hsize hgroup hmade with ⟨hfits, -⟩ | ⟨-, _, _, _, -, herror⟩
        · exact ⟨made, final, rfl, hfits⟩
        · rw [hmade] at herror
          cases herror
  · intro other made final hmade
    rcases Drafting.fits_of_drafted hsize hgroup hmade with
      ⟨hfits, hok⟩ | ⟨hnot, limit, value, bound, hlt, herror⟩
    · exact ⟨iff_of_true hok hfits, fun hnot => absurd hfits hnot⟩
    · refine ⟨iff_of_false (by rw [herror]; rintro ⟨⟩) hnot, fun _ => ⟨limit, value, bound, hlt, ?_⟩⟩
      rw [compile, hinfo, herror]
  · intro plans program registry
    have hiff : checkLimits info plans program registry = .ok () ↔ _ :=
      checkLimits_eq_ok_iff hsize hgroup
    refine ⟨hiff, fun error herror => ⟨checkLimits_error herror, ?_⟩⟩
    rw [← hiff, herror]
    rintro ⟨⟩

/-- The basic types and lamps of a size. -/
def sizedLamps (size : Nat) : Registry :=
  let specified := Registry.ofBasics.specify
    { valueName := "Lamp", body := "\tvec4 tint;\n", layout := { size, align := 16 } }
  (specified.2.register lampType
    { type := specified.1, uniformBlock := some (Setter.buffer .uniform (.pointer lampType .vec4 .void)) }).2

/-- Lamps of just the size that the device takes are sent to it, and with lamps whose size has more
than 32 bits it is not asked for anything. -/
theorem fits_of_compile_lamps :
    let requests := [StageRequest.vertex .empty, .fragment .empty]
    let desired := PropertyList.ofList [⟨"color", .vec4⟩]
    (∃ made final, Drafting.blueprint cloudScene .ideal requests desired
        { registry := sizedLamps 65536 } = .ok made final ∧ made.Fits .ideal final.registry) ∧
    ∃ limit value bound workshop, bound < value ∧
      compile cloudScene requests desired
          (⟨{}, sizedLamps (UInt32.size + 16), [], []⟩ : Workshop Headless)
        = .error (.specification (.limitExceeded limit value bound)) workshop := by
  intro requests desired
  obtain ⟨hreached, -, -⟩ := fits_of_compile cloudScene requests desired
    (⟨{}, sizedLamps 65536, [], []⟩ : Workshop Headless) .ideal rfl (by decide) (by decide)
  obtain ⟨-, hrefused, -⟩ := fits_of_compile cloudScene requests desired
    (⟨{}, sizedLamps (UInt32.size + 16), [], []⟩ : Workshop Headless) .ideal rfl (by decide)
    (by decide)
  refine ⟨hreached ?_, ?_⟩
  · have hasked : ((Outcome.state (compile cloudScene requests desired
        (⟨{}, sizedLamps 65536, [], []⟩ : Workshop Headless).traced)).device.calls).isEmpty
          = false := by
      decide +kernel
    exact List.isEmpty_eq_false_iff.1 hasked
  · -- A device with limits above the largest number of 32 bits would take them.
    obtain ⟨made, final, hmade⟩ := Outcome.exists_of_succeeds (r := Drafting.blueprint cloudScene
      { DeviceInfo.ideal with maxUniformBlockSize := maxWord } requests desired
      { registry := sizedLamps (UInt32.size + 16) }) (by decide +kernel)
    obtain ⟨hiff, hnot⟩ := hrefused _ made final hmade
    have hfails : Outcome.succeeds (Drafting.blueprint cloudScene .ideal requests desired
        { registry := sizedLamps (UInt32.size + 16) }) = false := by decide +kernel
    obtain ⟨limit, value, bound, hlt, herror⟩ := hnot fun hfits => by
      have hok := hiff.2 hfits
      have hsucceeds : Outcome.succeeds (Drafting.blueprint cloudScene .ideal requests desired
          { registry := sizedLamps (UInt32.size + 16) }) = true := congrArg Outcome.succeeds hok
      rw [hfails] at hsucceeds
      cases hsucceeds
    exact ⟨limit, value, bound, _, hlt, herror⟩

end ShaderWeave
