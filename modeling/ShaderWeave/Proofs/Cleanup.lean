import ShaderWeave.Proofs.Traces

/-!
# Objects of a compile

A compile asks for shaders and for a program, and may be refused at every step: a shader or the
program cannot be created, a text is not accepted, the program does not link.  Whatever a device
answers, **the shaders are given back, and nothing is left but a program that linked.**

* `Ledger` — the shaders and programs that calls create, delete and link.
* `GivenBack` — one deletion for each shader that was created, and no use of it after that.
* `Delivered`, `Abandoned` — the calls of a compile that succeeds, and of one that fails.
* `Building.leaves_build` — every way through compiling and linking ends in one of the two.
* `objects_of_compile` — so does every compile, on every device.
-/

namespace ShaderWeave

/-! ## Objects in calls -/

namespace Call

/-- The shader that the call created. -/
def createdShader? : Call → Option ShaderName
  | createShader _ answer => answer.toOption
  | _ => none

/-- The shader that the call deletes. -/
def deletedShader? : Call → Option ShaderName
  | deleteShader shader => some shader
  | _ => none

/-- The shader that the call works with, apart from deleting it. -/
def usedShader? : Call → Option ShaderName
  | createShader _ answer => answer.toOption
  | compileShader shader _ _ => some shader
  | shaderLog shader _ => some shader
  | attachShader _ shader => some shader
  | detachShader _ shader => some shader
  | _ => none

/-- The program that the call created. -/
def createdProgram? : Call → Option ProgramName
  | createProgram answer => answer.toOption
  | _ => none

/-- The program that the call deletes. -/
def deletedProgram? : Call → Option ProgramName
  | deleteProgram program => some program
  | _ => none

/-- The program that the call links, and whether it linked. -/
def link? : Call → Option (ProgramName × Bool)
  | linkProgram program linked => some (program, linked)
  | _ => none

/-- The call asks a program something. -/
def isQuestion : Call → Bool
  | programLog .. => true
  | uniformLocation .. => true
  | blockIndex .. => true
  | _ => false

/-- A later call does not work with a shader that an earlier one deleted. -/
def Spares (earlier later : Call) : Prop :=
  ∀ shader, earlier.deletedShader? = some shader → later.usedShader? ≠ some shader

end Call

/-- What calls do to shaders and programs, each in order. -/
structure Ledger where
  createdShaders : List ShaderName := []
  deletedShaders : List ShaderName := []
  createdPrograms : List ProgramName := []
  deletedPrograms : List ProgramName := []
  /-- The programs that were linked, and whether they did. -/
  links : List (ProgramName × Bool) := []

/-- The ledger of calls. -/
def ledger (calls : List Call) : Ledger where
  createdShaders := calls.filterMap Call.createdShader?
  deletedShaders := calls.filterMap Call.deletedShader?
  createdPrograms := calls.filterMap Call.createdProgram?
  deletedPrograms := calls.filterMap Call.deletedProgram?
  links := calls.filterMap Call.link?

lemma ledger_append (first second : List Call) :
    ledger (first ++ second) =
      { createdShaders := (ledger first).createdShaders ++ (ledger second).createdShaders
        deletedShaders := (ledger first).deletedShaders ++ (ledger second).deletedShaders
        createdPrograms := (ledger first).createdPrograms ++ (ledger second).createdPrograms
        deletedPrograms := (ledger first).deletedPrograms ++ (ledger second).deletedPrograms
        links := (ledger first).links ++ (ledger second).links } := by
  simp only [ledger, List.filterMap_append]

lemma ledger_singleton (call : Call) :
    ledger [call] =
      { createdShaders := call.createdShader?.toList
        deletedShaders := call.deletedShader?.toList
        createdPrograms := call.createdProgram?.toList
        deletedPrograms := call.deletedProgram?.toList
        links := call.link?.toList } := by
  cases call with
  | createShader stage answer => cases answer <;> rfl
  | createProgram answer => cases answer <;> rfl
  | _ => rfl

/-- Calls that change nothing one by one change nothing together. -/
lemma ledger_map_idle {call : ShaderName → Call} (h : ∀ shader, ledger [call shader] = {})
    (shaders : List ShaderName) : ledger (shaders.map call) = {} := by
  induction shaders with
  | nil => rfl
  | cons shader shaders ih =>
      rw [List.map_cons, ← List.singleton_append, ledger_append, h, ih]
      rfl

lemma ledger_delete (shaders : List ShaderName) :
    ledger (shaders.map Call.deleteShader) = { deletedShaders := shaders } := by
  induction shaders with
  | nil => rfl
  | cons shader shaders ih =>
      rw [List.map_cons, ← List.singleton_append, ledger_append, ih]
      rfl

/-- **The shaders are given back.**  For each shader that was created there is one deletion, in the
same order, so a device that gives different names sees each of them deleted once.  No shader is
created, compiled, attached, detached or asked about after it was deleted. -/
structure GivenBack (calls : List Call) : Prop where
  deleted : (ledger calls).deletedShaders = (ledger calls).createdShaders
  spared : calls.Pairwise Call.Spares

/-- The calls of a compile that makes a program. -/
structure Delivered (program : ProgramName) (calls : List Call) : Prop where
  shaders : GivenBack calls
  created : (ledger calls).createdPrograms = [program]
  linked : (ledger calls).links = [(program, true)]
  kept : (ledger calls).deletedPrograms = []

/-- The calls of a compile that fails.  If a program was created its deletion is the last call. -/
structure Abandoned (calls : List Call) : Prop where
  shaders : GivenBack calls
  deleted : (ledger calls).deletedPrograms = (ledger calls).createdPrograms
  last : calls.Pairwise fun earlier _ => earlier.deletedProgram? = none

/-! ## Shaders that are given back -/

lemma deletedShader?_eq_none {calls : List Call} (h : (ledger calls).deletedShaders = [])
    {call : Call} (hcall : call ∈ calls) : call.deletedShader? = none :=
  List.filterMap_eq_nil_iff.1 h call hcall

lemma deletedProgram?_eq_none {calls : List Call} (h : (ledger calls).deletedPrograms = [])
    {call : Call} (hcall : call ∈ calls) : call.deletedProgram? = none :=
  List.filterMap_eq_nil_iff.1 h call hcall

/-- Without deletions of programs nothing comes after one. -/
lemma pairwise_of_kept {calls : List Call} (h : (ledger calls).deletedPrograms = []) :
    calls.Pairwise fun earlier _ => earlier.deletedProgram? = none :=
  List.pairwise_of_forall_mem_list fun _ hearlier _ _ => deletedProgram?_eq_none h hearlier

/-- Deleting all shaders that were created gives them back. -/
lemma givenBack_delete {calls : List Call} {shaders : List ShaderName}
    (hcreated : (ledger calls).createdShaders = shaders)
    (h : (ledger calls).deletedShaders = []) :
    GivenBack (calls ++ shaders.map Call.deleteShader) where
  deleted := by simp [ledger_append, ledger_delete, hcreated, h]
  spared := by
    refine List.pairwise_append.2 ⟨?_, ?_, ?_⟩
    · refine List.pairwise_of_forall_mem_list fun earlier hearlier later _ shader hshader => ?_
      rw [deletedShader?_eq_none h hearlier] at hshader
      cases hshader
    · exact List.pairwise_map.2 (List.pairwise_of_forall fun _ _ _ _ h => nomatch h)
    · intro earlier hearlier later _ shader hshader
      rw [deletedShader?_eq_none h hearlier] at hshader
      cases hshader

/-- A call that has nothing to do with shaders changes nothing. -/
lemma GivenBack.append {calls : List Call} (h : GivenBack calls) {call : Call}
    (hused : call.usedShader? = none) (hdeleted : call.deletedShader? = none) :
    GivenBack (calls ++ [call]) where
  deleted := by
    have hcreated : call.createdShader? = none := by
      cases call with
      | createShader stage answer => exact hused
      | _ => rfl
    simp [ledger_append, ledger_singleton, hdeleted, hcreated, h.deleted]
  spared := by
    refine List.pairwise_append.2 ⟨h.spared, List.pairwise_singleton _ _, ?_⟩
    intro earlier _ later hlater shader _
    rw [List.mem_singleton.1 hlater, hused]
    exact (Option.some_ne_none shader).symm

/-! ## Compiling and linking -/

section Question

variable {call : Call} (h : call.isQuestion = true)
include h

lemma ledger_question : ledger [call] = {} := by
  cases call with
  | programLog program log => rfl
  | uniformLocation program name location => rfl
  | blockIndex kind program name index => rfl
  | _ => cases h

lemma GivenBack.question {calls : List Call} (hback : GivenBack calls) :
    GivenBack (calls ++ [call]) := by
  cases call with
  | programLog program log => exact hback.append rfl rfl
  | uniformLocation program name location => exact hback.append rfl rfl
  | blockIndex kind program name index => exact hback.append rfl rfl
  | _ => cases h

/-- A question about a program changes nothing. -/
lemma Delivered.question {program : ProgramName} {calls : List Call}
    (hdelivered : Delivered program calls) : Delivered program (calls ++ [call]) where
  shaders := hdelivered.shaders.question h
  created := by simp [ledger_append, ledger_question h, hdelivered.created]
  linked := by simp [ledger_append, ledger_question h, hdelivered.linked]
  kept := by simp [ledger_append, ledger_question h, hdelivered.kept]

end Question

namespace Building

variable {σ α : Type} [Device σ] {start : σ} {Q : α → List Call → Prop} {calls : List Call}
  {shaders : List ShaderName}

/-- How compiling and linking fail. -/
def Refused (error : ShaderError) (calls : List Call) : Prop :=
  Abandoned calls ∧ ∀ cause, error ≠ .specification cause

/-- Shaders that were created and not yet given back, and no program. -/
abbrev Open (shaders : List ShaderName) (calls : List Call) : Prop :=
  ledger calls = { createdShaders := shaders }

lemma Open.append {more : List Call} {others : List ShaderName} (h : Open shaders calls)
    (hmore : Open others more) : Open (shaders ++ others) (calls ++ more) := by
  rw [Open, ledger_append, h, hmore]
  rfl

lemma Open.append_empty {more : List Call} (h : Open shaders calls) (hmore : Open [] more) :
    Open shaders (calls ++ more) := by
  have hopen := h.append hmore
  rw [List.append_nil] at hopen
  exact hopen

/-- A refusal before there is a program. -/
lemma leaves_release_throw (h : Open shaders calls) {error : ShaderError}
    (herror : ∀ cause, error ≠ .specification cause) :
    Leaves calls Q Refused
      (release shaders >>= fun _ => throw error : Building (Traced start) α) := by
  refine leaves_requests_bind _ shaders (leaves_throw ⟨?_, herror⟩)
  have hledger : ledger (calls ++ shaders.map Call.deleteShader) =
      { createdShaders := shaders, deletedShaders := shaders } := by
    rw [ledger_append, h, ledger_delete]
    simp
  have hkept := congrArg Ledger.deletedPrograms hledger
  refine ⟨?_, hkept.trans (congrArg Ledger.createdPrograms hledger).symm, pairwise_of_kept hkept⟩
  exact givenBack_delete (congrArg Ledger.createdShaders h) (congrArg Ledger.deletedShaders h)

/-- One more shader, or none is left. -/
lemma leaves_compileStage (h : Open shaders calls) (text : Stage × String) :
    Leaves calls Open Refused (compileStage shaders text : Building (Traced start) _) := by
  refine leaves_request_bind _ fun answer => ?_
  cases answer with
  | error message => exact leaves_release_throw (h.append_empty rfl) (by rintro _ ⟨⟩)
  | ok shader =>
      have hcreated : Open (shaders ++ [shader]) (calls ++ [.createShader text.1 (.ok shader)]) :=
        h.append rfl
      refine leaves_request_bind _ fun accepted => ?_
      have hcompiled := hcreated.append_empty
        (rfl : Open [] [.compileShader shader text.2 accepted])
      cases accepted with
      | true => exact leaves_report_bind _ (leaves_pure hcompiled)
      | false =>
          refine leaves_request_bind _ fun log => leaves_report_bind _ ?_
          exact leaves_release_throw (hcompiled.append_empty rfl) (by rintro _ ⟨⟩)

/-- The calls up to the point where a program was linked and its shaders are detached again. -/
lemma ledger_linked (h : Open shaders calls) (program : ProgramName) (linked : Bool) :
    ledger (calls ++ [.createProgram (.ok program)] ++ shaders.map (.attachShader program) ++
        [.linkProgram program linked] ++ shaders.map (.detachShader program)) =
      { createdShaders := shaders
        createdPrograms := [program]
        links := [(program, linked)] } := by
  rw [ledger_append, ledger_append, ledger_append, ledger_append, h,
    ledger_map_idle fun _ => rfl, ledger_map_idle fun _ => rfl]
  simp [ledger_singleton, Call.createdShader?, Call.deletedShader?, Call.createdProgram?,
    Call.deletedProgram?, Call.link?, Except.toOption]

/-- The ledger when the shaders are given back too. -/
lemma ledger_released {program : ProgramName} {linked : Bool}
    (h : ledger calls =
      { createdShaders := shaders, createdPrograms := [program], links := [(program, linked)] }) :
    ledger (calls ++ shaders.map .deleteShader) =
      { createdShaders := shaders
        deletedShaders := shaders
        createdPrograms := [program]
        links := [(program, linked)] } := by
  rw [ledger_append, h, ledger_delete]
  simp

lemma givenBack_released {program : ProgramName} {linked : Bool}
    (h : ledger calls =
      { createdShaders := shaders, createdPrograms := [program], links := [(program, linked)] }) :
    GivenBack (calls ++ shaders.map .deleteShader) :=
  givenBack_delete (congrArg Ledger.createdShaders h) (congrArg Ledger.deletedShaders h)

/-- A program that does not link is deleted after everything else. -/
lemma abandoned_unlinked {program : ProgramName} (log : String)
    (h : ledger calls =
      { createdShaders := shaders, createdPrograms := [program], links := [(program, false)] }) :
    Abandoned (calls ++ shaders.map .deleteShader ++ [.programLog program log] ++
      [.deleteProgram program]) := by
  have hasked : ledger (calls ++ shaders.map .deleteShader ++ [.programLog program log]) =
      { createdShaders := shaders
        deletedShaders := shaders
        createdPrograms := [program]
        links := [(program, false)] } := by
    rw [ledger_append, ledger_released h, ledger_question rfl]
    simp
  have hkept := congrArg Ledger.deletedPrograms hasked
  refine ⟨((givenBack_released h).question rfl).append rfl rfl, ?_, ?_⟩
  · rw [ledger_append, hasked]
    rfl
  · refine List.pairwise_append.2 ⟨pairwise_of_kept hkept, List.pairwise_singleton _ _, ?_⟩
    exact fun earlier hearlier _ _ => deletedProgram?_eq_none hkept hearlier

lemma leaves_linkShaders (h : Open shaders calls) :
    Leaves calls Delivered Refused (linkShaders shaders : Building (Traced start) _) := by
  refine leaves_request_bind _ fun answer => ?_
  cases answer with
  | error message => exact leaves_release_throw (h.append_empty rfl) (by rintro _ ⟨⟩)
  | ok program =>
      refine leaves_requests_bind _ shaders (leaves_request_bind _ fun linked => ?_)
      refine leaves_requests_bind _ shaders (leaves_requests_bind _ shaders ?_)
      have hlinked := ledger_linked h program linked
      cases linked with
      | true =>
          have hreleased := ledger_released hlinked
          refine leaves_report_bind _ (leaves_pure ⟨givenBack_released hlinked, ?_, ?_, ?_⟩)
          · exact congrArg Ledger.createdPrograms hreleased
          · exact congrArg Ledger.links hreleased
          · exact congrArg Ledger.deletedPrograms hreleased
      | false =>
          refine leaves_request_bind _ fun log => leaves_report_bind _ ?_
          refine leaves_request_bind _ fun _ => leaves_throw ⟨?_, by rintro _ ⟨⟩⟩
          exact abandoned_unlinked log hlinked

/-- **Every way through compiling and linking** gives the shaders back, and leaves a program only if
it linked. -/
lemma leaves_build (texts : List (Stage × String)) :
    Leaves [] Delivered Refused (build texts : Building (Traced start) _) := by
  have hcompiled : Leaves [] Open Refused
      (texts.foldlM compileStage [] : Building (Traced start) _) :=
    leaves_foldlM (fun shaders text calls h => leaves_compileStage h text) texts rfl
  exact hcompiled.bind fun shaders calls h => leaves_linkShaders h

/-! ## Querying -/

/-- A question leaves a program as it is. -/
lemma leaves_question_bind {program : ProgramName} {r : Request (Option Nat)}
    {f : Option Nat → Building (Traced start) α} (hdelivered : Delivered program calls)
    (hr : ∀ answer, (r.answered answer).isQuestion = true)
    (hf : ∀ answer calls, Delivered program calls →
      Leaves calls (fun _ => Delivered program) Refused (f answer)) :
    Leaves calls (fun _ => Delivered program) Refused (request r >>= f) :=
  leaves_request_bind r fun answer => hf answer _ (hdelivered.question (hr answer))

lemma leaves_queryUniform {program : ProgramName} (hdelivered : Delivered program calls)
    (linked : LinkedStorage) (property : Property) :
    Leaves calls (fun _ => Delivered program) Refused
      (queryUniform program linked property : Building (Traced start) _) := by
  refine leaves_question_bind hdelivered (fun _ => rfl) fun location calls hdelivered => ?_
  cases location with
  | some location => exact leaves_pure hdelivered
  | none => exact leaves_report_bind _ (leaves_pure hdelivered)

lemma leaves_queryBindings {program : ProgramName} (hdelivered : Delivered program calls)
    (storage : ProgramStorage) {locate : String → Request (Option Nat)}
    (hlocate : ∀ name answer, ((locate name).answered answer).isQuestion = true)
    (properties : List Property) :
    Leaves calls (fun _ => Delivered program) Refused
      (queryBindings storage locate properties : Building (Traced start) _) := by
  refine leaves_foldlM (fun found property calls hdelivered => ?_) properties hdelivered
  refine leaves_question_bind hdelivered (hlocate _) fun location calls hdelivered => ?_
  cases location with
  | none => exact leaves_pure hdelivered
  | some location =>
      cases storage.binding? property.name with
      | none => exact leaves_pure hdelivered
      | some binding => exact leaves_pure hdelivered

lemma leaves_query {program : ProgramName} (hdelivered : Delivered program calls)
    (storage : ProgramStorage) :
    Leaves calls (fun _ => Delivered program) Refused
      (query program storage : Building (Traced start) _) := by
  have huniforms : Leaves calls (fun _ => Delivered program) Refused
      (storage.uniforms.entries.foldlM (queryUniform program) {} : Building (Traced start) _) :=
    leaves_foldlM (fun linked property _ h => leaves_queryUniform h linked property) _ hdelivered
  refine huniforms.bind fun linked _ h => ?_
  refine (leaves_queryBindings h storage (fun _ _ => rfl) _).bind fun samplers _ h => ?_
  refine (leaves_queryBindings h storage (fun _ _ => rfl) _).bind fun uniformBlocks _ h => ?_
  refine (leaves_queryBindings h storage (fun _ _ => rfl) _).bind fun storageBlocks _ h => ?_
  exact leaves_reports_bind _ _ (leaves_pure h)

/-- The calls of making a program from its blueprint. -/
lemma leaves_program (blueprint : Blueprint) (desired : PropertyList) :
    Leaves [] (fun program => Delivered program.name) Refused
      (program blueprint desired : Building (Traced start) _) := by
  refine (leaves_build blueprint.texts).bind fun name calls h => ?_
  exact (leaves_query h blueprint.program).bind fun linked calls h => leaves_pure h

end Building

/-! ## Whole compiles -/

/-- **What a compile does with objects of a device.**  If it succeeds, exactly one program was
created: the one it gives, which linked and was not deleted.  If it fails, each program that was
created was deleted.  If what was asked for was wrong, the device was not asked for anything. -/
def Tidy {σ : Type} [Device σ] {start : σ} :
    EStateM.Result ShaderError (Workshop (Traced start)) Program → Prop
  | .ok program workshop => Delivered program.name workshop.device.calls
  | .error error workshop => Abandoned workshop.device.calls ∧
      ∀ cause, error = .specification cause → workshop.device.calls = []

theorem tidy_compile {σ : Type} [Device σ] (setting : Setting) (requests : List StageRequest)
    (desired : PropertyList) (workshop : Workshop σ) :
    Tidy (compile setting requests desired workshop.traced) := by
  rw [compile]
  cases Drafting.blueprint setting (Device.info workshop.traced.device) requests desired
      workshop.traced.draft with
  | error error draft => exact ⟨⟨⟨rfl, .nil⟩, rfl, .nil⟩, fun _ _ => rfl⟩
  | ok blueprint draft =>
      have hends := Building.leaves_program blueprint desired
        ⟨(workshop.traced.settle draft).device, (workshop.traced.settle draft).events⟩ rfl
      dsimp only
      cases hprogram : Building.program blueprint desired
          (⟨(workshop.traced.settle draft).device, (workshop.traced.settle draft).events⟩ :
            Site (Traced workshop.device)) with
      | ok program site =>
          rw [hprogram] at hends
          exact hends
      | error error site =>
          rw [hprogram] at hends
          exact ⟨hends.1, fun cause heq => absurd heq (hends.2 cause)⟩

/-- **No object is left behind or used after its end, whatever the device answers.**  The calls are
those of the compile itself, because the trace changes nothing. -/
theorem objects_of_compile {σ : Type} [Device σ] (setting : Setting) (requests : List StageRequest)
    (desired : PropertyList) (workshop : Workshop σ) :
    Tidy (compile setting requests desired workshop.traced) ∧
      Outcome.view Workshop.untraced (compile setting requests desired workshop.traced) =
        compile setting requests desired workshop :=
  ⟨tidy_compile setting requests desired workshop,
    compile_traced setting requests desired workshop⟩

end ShaderWeave
