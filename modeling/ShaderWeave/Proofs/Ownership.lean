import Mathlib.Data.List.Induction
import Mathlib.Data.List.Nodup
import ShaderWeave.Proofs.CacheTransparency
import ShaderWeave.Proofs.Cleanup

/-!
# What a cache owns

A program cache and a headless device change together: a retrieve may add a program, an eviction
deletes one, and in between the device may be told to refuse sources or links.  **After any steps
the live programs of the device are those of the entries,** each entry has its own, and no shader is
left.

* `Headless.Tracked` — what calls do to the live objects of a headless device.
* `CachedWorkshop.Owned` — what every step keeps.
* `CacheStep` — anything that may happen to a cache and its device; every retrieve may come with
  another setting and another registry.
* `CachedWorkshop.owned_of_steps` — the state after any steps.
-/

namespace ShaderWeave

/-! ## Live objects -/

section Live

variable {α : Type} [DecidableEq α]

/-- The live objects after one was created or deleted, or neither. -/
def liveAfter (live : List α) (created deleted : Option α) : List α :=
  (live ++ created.toList).filter fun object => deleted ≠ some object

lemma mem_liveAfter {live : List α} {created deleted : Option α} {object : α} :
    object ∈ liveAfter live created deleted ↔
      (object ∈ live ∨ created = some object) ∧ deleted ≠ some object := by
  simp [liveAfter, or_and_right]

lemma liveAfter_none (live : List α) (created : Option α) :
    liveAfter live created none = live ++ created.toList := by
  simp [liveAfter]

lemma liveAfter_same (live : List α) : liveAfter live none none = live := by
  simp [liveAfter]

lemma liveAfter_some (live : List α) (object : α) :
    liveAfter live none (some object) = live.filter (· != object) := by
  simp only [liveAfter, Option.toList_none, List.append_nil]
  congr 1
  funext other
  grind

end Live

/-- The live shaders after a call. -/
def Call.onShaders (live : List ShaderName) (call : Call) : List ShaderName :=
  liveAfter live call.createdShader? call.deletedShader?

/-- The live programs after a call. -/
def Call.onPrograms (live : List ProgramName) (call : Call) : List ProgramName :=
  liveAfter live call.createdProgram? call.deletedProgram?

lemma Call.usedShader?_of_created {call : Call} {shader : ShaderName}
    (h : call.createdShader? = some shader) : call.usedShader? = some shader := by
  cases call with
  | createShader stage answer => exact h
  | _ => cases h

/-- A shader that is live after calls was live before or was created, and was not deleted. -/
lemma mem_foldl_onShaders {calls : List Call} {live : List ShaderName} {shader : ShaderName}
    (hspared : calls.Pairwise Call.Spares) (h : shader ∈ calls.foldl Call.onShaders live) :
    (shader ∈ live ∨ shader ∈ (ledger calls).createdShaders) ∧
      shader ∉ (ledger calls).deletedShaders := by
  induction calls using List.reverseRecOn with
  | nil => exact ⟨Or.inl h, List.not_mem_nil⟩
  | append_singleton calls call ih =>
      obtain ⟨hcalls, -, hcall⟩ := List.pairwise_append.1 hspared
      rw [List.foldl_append, List.foldl_cons, List.foldl_nil, Call.onShaders, mem_liveAfter] at h
      obtain ⟨hlive, hkept⟩ := h
      simp only [ledger_append, ledger_singleton, List.mem_append, Option.mem_toList, hkept,
        or_false]
      rcases hlive with hlive | hcreated
      · obtain ⟨hbefore, hdeleted⟩ := ih hcalls hlive
        exact ⟨hbefore.imp_right Or.inl, hdeleted⟩
      · refine ⟨Or.inr (Or.inr hcreated), fun hdeleted => ?_⟩
        obtain ⟨earlier, hearlier, hshader⟩ := List.mem_filterMap.1 hdeleted
        exact hcall earlier hearlier call (List.mem_singleton_self call) shader hshader
          (Call.usedShader?_of_created hcreated)

/-- If the shaders are given back, none is live that was not live before. -/
lemma GivenBack.foldl_onShaders {calls : List Call} (h : GivenBack calls) :
    calls.foldl Call.onShaders [] = [] := by
  refine List.eq_nil_iff_forall_not_mem.2 fun shader hshader => ?_
  obtain ⟨hbefore, hdeleted⟩ := mem_foldl_onShaders h.spared hshader
  rw [h.deleted] at hdeleted
  exact hbefore.elim List.not_mem_nil hdeleted

/-- Without deletions the created programs come on top. -/
lemma foldl_onPrograms {calls : List Call} (live : List ProgramName)
    (h : (ledger calls).deletedPrograms = []) :
    calls.foldl Call.onPrograms live = live ++ (ledger calls).createdPrograms := by
  induction calls generalizing live with
  | nil => exact (List.append_nil live).symm
  | cons call calls ih =>
      have hcall : call.deletedProgram? = none := deletedProgram?_eq_none h List.mem_cons_self
      rw [← List.singleton_append, ledger_append, ledger_singleton] at h ⊢
      obtain ⟨-, hcalls⟩ := List.append_eq_nil_iff.1 h
      rw [List.singleton_append, List.foldl_cons, ih _ hcalls, Call.onPrograms, hcall,
        liveAfter_none, List.append_assoc]

/-- After a compile that fails the same programs are live as before, if its own was a new one. -/
lemma Abandoned.foldl_onPrograms {calls : List Call} {live : List ProgramName}
    (h : Abandoned calls) (hnew : ∀ program ∈ (ledger calls).createdPrograms, program ∉ live) :
    calls.foldl Call.onPrograms live = live := by
  have hdeleted := h.deleted
  have hlast := h.last
  cases calls using List.reverseRecOn with
  | nil => rfl
  | append_singleton calls call =>
      obtain ⟨-, -, hlast⟩ := List.pairwise_append.1 hlast
      have hkept : (ledger calls).deletedPrograms = [] :=
        List.filterMap_eq_nil_iff.2 fun earlier hearlier =>
          hlast earlier hearlier call (List.mem_singleton_self call)
      cases hcall : call.deletedProgram? with
      | none =>
          have hnone : (ledger (calls ++ [call])).deletedPrograms = [] := by
            simp [ledger_append, ledger_singleton, hkept, hcall]
          rw [ShaderWeave.foldl_onPrograms live hnone, ← hdeleted, hnone, List.append_nil]
      | some program =>
          have hcreated : call.createdProgram? = none := by
            cases call with
            | createProgram answer => cases hcall
            | _ => rfl
          have hone : (ledger calls).createdPrograms = [program] := by
            simpa [ledger_append, ledger_singleton, hkept, hcall, hcreated] using hdeleted.symm
          have hfresh : program ∉ live :=
            hnew program (by simp [ledger_append, hone])
          rw [List.foldl_append, ShaderWeave.foldl_onPrograms live hkept, hone, List.foldl_cons,
            List.foldl_nil, Call.onPrograms, hcall, hcreated, liveAfter_some, List.filter_append,
            List.filter_bne_eq_self_of_not_mem hfresh]
          simp

namespace Headless

variable {device start : Headless} {α : Type}

/-- The names of the live shaders. -/
def liveShaders (device : Headless) : List ShaderName := device.shaders.map (·.1)

/-- The names of the live programs. -/
def livePrograms (device : Headless) : List ProgramName := device.programs.map (·.1)

/-- What calls do to the objects of a device: those that were created and not deleted are live, and
new programs have new names. -/
structure Tracked (start : Headless) (calls : List Call) (device : Headless) : Prop where
  shaders : device.liveShaders = calls.foldl Call.onShaders start.liveShaders
  programs : device.livePrograms = calls.foldl Call.onPrograms start.livePrograms
  lastName_le : start.lastName ≤ device.lastName
  fresh : ∀ program ∈ (ledger calls).createdPrograms, start.lastName < program.id
  named : start.Named → device.Named

section Names

variable {κ ν : Type} [DecidableEq κ] (entries : List (κ × ν)) (name : κ)

lemma map_fst_change (change : ν → ν) :
    (entries.map fun (n, v) => if n = name then (n, change v) else (n, v)).map (·.1) =
      entries.map (·.1) := by
  rw [List.map_map]
  refine List.map_congr_left fun entry _ => ?_
  obtain ⟨n, v⟩ := entry
  by_cases h : n = name <;> simp [h]

lemma map_fst_remove :
    (entries.filter (·.1 != name)).map (·.1) = (entries.map (·.1)).filter (· != name) := by
  rw [List.filter_map]
  rfl

end Names

lemma livePrograms_updateProgram (name : ProgramName)
    (change : HeadlessProgram → HeadlessProgram) :
    (device.updateProgram name change).livePrograms = device.livePrograms :=
  map_fst_change device.programs name change

lemma live_locate (name : ProgramName) (resource : String) :
    (device.locate name resource).2.liveShaders = device.liveShaders ∧
      (device.locate name resource).2.livePrograms = device.livePrograms := by
  unfold locate
  split
  · exact ⟨rfl, rfl⟩
  · split
    · exact ⟨rfl, rfl⟩
    · split
      · exact ⟨rfl, rfl⟩
      · dsimp only
        exact ⟨rfl, livePrograms_updateProgram name _⟩

lemma live_compile (name : ShaderName) (source : String) :
    (device.compile name source).2.liveShaders = device.liveShaders ∧
      (device.compile name source).2.livePrograms = device.livePrograms := by
  unfold compile
  split
  · exact ⟨rfl, rfl⟩
  · exact ⟨map_fst_change device.shaders name fun shader => { shader with source }, rfl⟩

lemma liveShaders_answer (request : Request α) :
    (device.answer request).2.liveShaders =
      (request.answered (device.answer request).1).onShaders device.liveShaders := by
  cases request with
  | createShader stage =>
      have hnew : (device.answer (.createShader stage)).2.liveShaders =
          device.liveShaders ++ [⟨device.lastName + 1⟩] := List.map_append
      exact hnew.trans (liveAfter_none _ (some _)).symm
  | compileShader shader source =>
      exact (live_compile shader source).1.trans (liveAfter_same _).symm
  | deleteShader shader =>
      exact (map_fst_remove device.shaders shader).trans (liveAfter_some _ shader).symm
  | uniformLocation program name => exact (live_locate program name).1.trans (liveAfter_same _).symm
  | blockIndex kind program name => exact (live_locate program name).1.trans (liveAfter_same _).symm
  | _ => exact (liveAfter_same _).symm

lemma livePrograms_answer (request : Request α) :
    (device.answer request).2.livePrograms =
      (request.answered (device.answer request).1).onPrograms device.livePrograms := by
  cases request with
  | createProgram =>
      have hnew : (device.answer .createProgram).2.livePrograms =
          device.livePrograms ++ [⟨device.lastName + 1⟩] := List.map_append
      exact hnew.trans (liveAfter_none _ (some _)).symm
  | compileShader shader source =>
      exact (live_compile shader source).2.trans (liveAfter_same _).symm
  | deleteProgram program =>
      exact (map_fst_remove device.programs program).trans (liveAfter_some _ program).symm
  | attachShader program shader =>
      exact (livePrograms_updateProgram program fun p =>
        { p with attached := p.attached ++ [shader] }).trans (liveAfter_same _).symm
  | detachShader program shader =>
      exact (livePrograms_updateProgram program fun p =>
        { p with attached := p.attached.filter (· != shader) }).trans (liveAfter_same _).symm
  | uniformLocation program name => exact (live_locate program name).2.trans (liveAfter_same _).symm
  | blockIndex kind program name => exact (live_locate program name).2.trans (liveAfter_same _).symm
  | _ => exact (liveAfter_same _).symm

lemma lastName_locate (name : ProgramName) (resource : String) :
    (device.locate name resource).2.lastName = device.lastName := by
  unfold locate
  split
  · rfl
  · split
    · rfl
    · split <;> rfl

lemma lastName_le_answer (request : Request α) :
    device.lastName ≤ (device.answer request).2.lastName := by
  cases request with
  | createShader stage => exact Nat.le_succ _
  | createProgram => exact Nat.le_succ _
  | compileShader shader source =>
      change _ ≤ (device.compile shader source).2.lastName
      unfold compile
      split <;> exact Nat.le_refl _
  | uniformLocation program name => exact Nat.le_of_eq (lastName_locate program name).symm
  | blockIndex kind program name => exact Nat.le_of_eq (lastName_locate program name).symm
  | _ => exact Nat.le_refl _

lemma lt_of_created {request : Request α} {program : ProgramName}
    (h : (request.answered (device.answer request).1).createdProgram? = some program) :
    device.lastName < program.id := by
  cases request with
  | createProgram =>
      cases h
      exact Nat.lt_succ_self _
  | _ => cases h

/-- Every sequence of calls changes the objects of a device as its answers say. -/
theorem tracked_of_follows {calls : List Call} (h : Follows start calls device) :
    Tracked start calls device := by
  induction h with
  | nil => exact ⟨rfl, rfl, Nat.le_refl _, fun _ h => absurd h List.not_mem_nil, id⟩
  | @ask calls device α h request ih =>
      constructor
      · rw [List.foldl_append, ← ih.shaders]
        exact liveShaders_answer request
      · rw [List.foldl_append, ← ih.programs]
        exact livePrograms_answer request
      · exact Nat.le_trans ih.lastName_le (lastName_le_answer request)
      · intro program hprogram
        rw [ledger_append, ledger_singleton] at hprogram
        rcases List.mem_append.1 hprogram with hprogram | hprogram
        · exact ih.fresh program hprogram
        · exact Nat.lt_of_le_of_lt ih.lastName_le (lt_of_created (Option.mem_toList.1 hprogram))
      · exact fun hnamed => (keeps_answer request).named (ih.named hnamed)

lemma Named.not_mem_livePrograms (h : device.Named) {program : ProgramName}
    (hprogram : device.lastName < program.id) : program ∉ device.livePrograms := by
  intro hmem
  obtain ⟨entry, hentry, rfl⟩ := List.mem_map.1 hmem
  exact Nat.not_lt.2 (h.programs entry hentry) hprogram

end Headless

/-- A compile on a headless device without live shaders adds the program that it makes, if it makes
one, and changes no other object. -/
lemma live_of_compile (setting : Setting) (requests : List StageRequest) (desired : PropertyList)
    {workshop : Workshop Headless} (hnamed : workshop.device.Named)
    (hshaders : workshop.device.liveShaders = []) :
    Outcome.Ends
      (fun program after => after.device.Named ∧ after.device.liveShaders = [] ∧
        after.device.livePrograms = workshop.device.livePrograms ++ [program.name] ∧
        program.name ∉ workshop.device.livePrograms)
      (fun _ after => after.device.Named ∧ after.device.liveShaders = [] ∧
        after.device.livePrograms = workshop.device.livePrograms)
      (compile setting requests desired workshop) := by
  have htidy := tidy_compile setting requests desired workshop
  rw [← compile_traced]
  cases hcompiled : compile setting requests desired workshop.traced with
  | ok program after =>
      rw [hcompiled] at htidy
      have htracked := Headless.tracked_of_follows after.device.follows
      refine ⟨htracked.named hnamed, ?_, ?_, ?_⟩
      · rw [Workshop.untraced, htracked.shaders, hshaders, htidy.shaders.foldl_onShaders]
      · rw [Workshop.untraced, htracked.programs, foldl_onPrograms _ htidy.kept, htidy.created]
      · exact hnamed.not_mem_livePrograms (htracked.fresh _ (by simp [htidy.created]))
  | error error after =>
      rw [hcompiled] at htidy
      have htracked := Headless.tracked_of_follows after.device.follows
      refine ⟨htracked.named hnamed, ?_, ?_⟩
      · rw [Workshop.untraced, htracked.shaders, hshaders, htidy.1.shaders.foldl_onShaders]
      · rw [Workshop.untraced, htracked.programs, htidy.1.foldl_onPrograms]
        exact fun program hprogram => hnamed.not_mem_livePrograms (htracked.fresh program hprogram)

/-! ## What every step keeps -/

namespace CachedWorkshop

/-- **What a cache owns.**  No shader is live, the live programs are those of the entries, no two
entries share a program, and no two have the same key. -/
structure Owned (state : CachedWorkshop Headless) : Prop where
  named : state.workshop.device.Named
  shaders : state.workshop.device.liveShaders = []
  programs : state.workshop.device.livePrograms.Perm (state.cache.entries.map (·.2.name))
  unshared : (state.cache.entries.map (·.2.name)).Nodup
  keys : (state.cache.entries.map (·.1)).Nodup

lemma owned_start (base : Registry) (setup : Headless) : (start base setup).Owned :=
  ⟨Headless.named_fresh setup, rfl, .nil, .nil, .nil⟩

/-- The state with another registry to compile with. -/
def equip {σ : Type} (state : CachedWorkshop σ) (registry : Registry) : CachedWorkshop σ :=
  { state with workshop := { state.workshop with registry } }

/-- The state with a trace of its device that begins now. -/
def traced {σ : Type} [Device σ] (state : CachedWorkshop σ) :
    CachedWorkshop (Traced state.workshop.device) :=
  { cache := state.cache, workshop := state.workshop.traced }

end CachedWorkshop

namespace ProgramCache

open CachedWorkshop (Owned)

variable {state : CachedWorkshop Headless} {key : ProgramKey} {setting : Setting}

/-- The calls of a retrieve. -/
def calls {σ : Type} [Device σ] (setting : Setting) (key : ProgramKey) (state : CachedWorkshop σ) :
    List Call :=
  (Outcome.state (retrieve setting key state.traced)).workshop.device.calls

lemma not_mem_keys {cache : ProgramCache} (h : cache.get? key = none) :
    key ∉ cache.entries.map (·.1) := by
  intro hmem
  obtain ⟨entry, hentry, rfl⟩ := List.mem_map.1 hmem
  rw [get?, Option.map_eq_none_iff, List.find?_eq_none] at h
  exact h entry hentry (beq_self_eq_true _)

/-- A retrieve of a key that is there changes nothing, and the device is not asked. -/
lemma retrieve_present {program : Program} (h : state.cache.get? key = some program) :
    retrieve setting key state = .ok program { state with workshop :=
        { state.workshop with events := state.workshop.events ++ [.cacheHit] } } ∧
      calls setting key state = [] := by
  have htraced : state.traced.cache.get? key = some program := h
  rw [calls, retrieve, h, retrieve, htraced]
  exact ⟨rfl, rfl⟩

lemma owned_retrieve (h : state.Owned) :
    (Outcome.state (retrieve setting key state)).Owned := by
  cases hget : state.cache.get? key with
  | some program =>
      rw [(retrieve_present hget).1]
      exact ⟨h.named, h.shaders, h.programs, h.unshared, h.keys⟩
  | none =>
      have hends := live_of_compile setting key.stages key.desired h.named h.shaders
      cases hcompiled : compile setting key.stages key.desired state.workshop with
      | error error after =>
          rw [hcompiled] at hends
          rw [retrieve_of_error hget hcompiled]
          obtain ⟨hnamed, hshaders, hprograms⟩ := hends
          exact ⟨hnamed, hshaders, hprograms ▸ h.programs, h.unshared, h.keys⟩
      | ok program after =>
          rw [hcompiled] at hends
          rw [retrieve_of_ok hget hcompiled]
          obtain ⟨hnamed, hshaders, hprograms, hnew⟩ := hends
          have hunshared : program.name ∉ state.cache.entries.map (·.2.name) :=
            fun hmem => hnew (h.programs.mem_iff.2 hmem)
          refine ⟨hnamed, hshaders, ?_, ?_, ?_⟩ <;> dsimp only [Outcome.state]
          · rw [hprograms, List.map_append]
            exact h.programs.append_right _
          · rw [List.map_append, List.map_singleton, ← List.concat_eq_append]
            exact h.unshared.concat hunshared
          · rw [List.map_append, List.map_singleton, ← List.concat_eq_append]
            exact h.keys.concat (not_mem_keys hget)

lemma entries_of_error {error : ShaderError} {after : CachedWorkshop Headless}
    (h : retrieve setting key state = .error error after) :
    after.cache.entries = state.cache.entries := by
  cases hget : state.cache.get? key with
  | some program =>
      rw [(retrieve_present hget).1] at h
      cases h
  | none =>
      cases hcompiled : compile setting key.stages key.desired state.workshop with
      | ok program workshop =>
          rw [retrieve_of_ok hget hcompiled] at h
          cases h
      | error error workshop =>
          rw [retrieve_of_error hget hcompiled] at h
          cases h
          rfl

lemma live_delete (workshop : Workshop Headless) (program : Program) :
    (delete workshop program).device.liveShaders = workshop.device.liveShaders ∧
      (delete workshop program).device.livePrograms =
        workshop.device.livePrograms.filter (· != program.name) :=
  ⟨rfl, Headless.map_fst_remove workshop.device.programs program.name⟩

lemma named_delete {workshop : Workshop Headless} (h : workshop.device.Named) (program : Program) :
    (delete workshop program).device.Named :=
  (Headless.keeps_answer (.deleteProgram program.name)).named h

/-- Programs deleted one after the other: none of them is live, and nothing else becomes so. -/
lemma live_foldl_delete (programs : List Program) {workshop : Workshop Headless}
    (h : workshop.device.Named) :
    (programs.foldl delete workshop).device.Named ∧
      (programs.foldl delete workshop).device.liveShaders = workshop.device.liveShaders ∧
      ∀ name ∈ (programs.foldl delete workshop).device.livePrograms,
        name ∈ workshop.device.livePrograms ∧ name ∉ programs.map (·.name) := by
  induction programs generalizing workshop with
  | nil => exact ⟨h, rfl, fun name hname => ⟨hname, List.not_mem_nil⟩⟩
  | cons program programs ih =>
      obtain ⟨hnamed, hshaders, hlive⟩ := ih (named_delete h program)
      refine ⟨hnamed, hshaders, fun name hname => ?_⟩
      obtain ⟨hbefore, hothers⟩ := hlive name hname
      rw [(live_delete workshop program).2, List.mem_filter, bne_iff_ne] at hbefore
      exact ⟨hbefore.1, List.not_mem_cons_of_ne_of_not_mem hbefore.2 hothers⟩

/-- An entry and the others. -/
lemma entries_perm {entries : List (ProgramKey × Program)} {program : Program}
    (hkeys : (entries.map (·.1)).Nodup) (hmem : (key, program) ∈ entries) :
    entries.Perm ((key, program) :: entries.filter (·.1 != key)) := by
  obtain ⟨front, back, rfl⟩ := List.append_of_mem hmem
  rw [List.map_append, List.map_cons, List.nodup_middle, List.nodup_cons, List.mem_append] at hkeys
  have hothers : ∀ part : List (ProgramKey × Program), key ∉ part.map (·.1) →
      part.filter (·.1 != key) = part := by
    intro part hpart
    refine List.filter_eq_self.2 fun entry hentry => bne_iff_ne.2 ?_
    rintro rfl
    exact hpart (List.mem_map_of_mem hentry)
  rw [List.filter_append, List.filter_cons_of_neg (by simp),
    hothers front fun hfront => hkeys.1 (Or.inl hfront),
    hothers back fun hback => hkeys.1 (Or.inr hback)]
  exact List.perm_middle

lemma owned_evict (h : state.Owned) : (evict key state).2.Owned := by
  rw [evict]
  cases hget : state.cache.get? key with
  | none => exact h
  | some program =>
      have hentries := entries_perm h.keys (mem_of_get? hget)
      have hnames := hentries.map (·.2.name)
      rw [List.map_cons] at hnames
      obtain ⟨hnew, hunshared⟩ := List.nodup_cons.1 (hnames.nodup_iff.1 h.unshared)
      refine ⟨named_delete h.named program, h.shaders, ?_, hunshared, ?_⟩
      · -- Without the program of the entry, the live programs are those of the other entries.
        have hlive := (h.programs.trans hnames).filter (· != program.name)
        rw [List.filter_cons_of_neg (by simp), List.filter_bne_eq_self_of_not_mem hnew] at hlive
        rw [(live_delete state.workshop program).2]
        exact hlive
      · exact h.keys.sublist (List.filter_sublist.map _)

lemma owned_clear (h : state.Owned) : (clear state).Owned := by
  obtain ⟨hnamed, hshaders, hlive⟩ := live_foldl_delete (state.cache.entries.map (·.2)) h.named
  refine ⟨hnamed, hshaders.trans h.shaders, ?_, .nil, .nil⟩
  refine List.Perm.of_eq (List.eq_nil_iff_forall_not_mem.2 fun name hname => ?_)
  obtain ⟨hbefore, hothers⟩ := hlive name hname
  rw [List.map_map] at hothers
  exact hothers (h.programs.mem_iff.1 hbefore)

end ProgramCache

/-! ## Whole runs -/

/-- Anything that may happen to a cache and its headless device. -/
inductive CacheStep where
  /-- A retrieve with what it compiles with. -/
  | retrieve (setting : Setting) (registry : Registry) (key : ProgramKey)
  | evict (key : ProgramKey)
  | clear
  /-- The device is told which sources to refuse, whether to refuse links, and which names linked
  programs do not have. -/
  | adjust (failingText : Option String) (failingLink : Bool) (eliminated : List String)

namespace CacheStep

/-- The state after a step, whether it succeeds or fails. -/
def run (state : CachedWorkshop Headless) : CacheStep → CachedWorkshop Headless
  | retrieve setting registry key =>
    Outcome.state (ProgramCache.retrieve setting key (state.equip registry))
  | evict key => (ProgramCache.evict key state).2
  | clear => ProgramCache.clear state
  | adjust failingText failingLink eliminated =>
    { state with workshop := { state.workshop with
      device := { state.workshop.device with failingText, failingLink, eliminated } } }

/-- The step is a retrieve of a key that is not there. -/
def misses (state : CachedWorkshop Headless) : CacheStep → Bool
  | retrieve _ _ key => (state.cache.get? key).isNone
  | _ => false

end CacheStep

namespace CachedWorkshop

variable {state : CachedWorkshop Headless}

/-- The state after steps. -/
def afterSteps (state : CachedWorkshop Headless) (steps : List CacheStep) :
    CachedWorkshop Headless :=
  steps.foldl CacheStep.run state

/-- Number of retrieves among the steps that find their key missing. -/
def missed : CachedWorkshop Headless → List CacheStep → Nat
  | _, [] => 0
  | state, step :: steps => (step.misses state).toNat + missed (step.run state) steps

lemma Owned.run (h : state.Owned) (step : CacheStep) : (step.run state).Owned := by
  cases step with
  | retrieve setting registry key =>
      exact ProgramCache.owned_retrieve ⟨h.named, h.shaders, h.programs, h.unshared, h.keys⟩
  | evict key => exact ProgramCache.owned_evict h
  | clear => exact ProgramCache.owned_clear h
  | adjust failingText failingLink eliminated =>
      exact ⟨⟨h.named.shaders, h.named.programs⟩, h.shaders, h.programs, h.unshared, h.keys⟩

lemma owned_afterSteps (h : state.Owned) (steps : List CacheStep) :
    (state.afterSteps steps).Owned := by
  induction steps generalizing state with
  | nil => exact h
  | cons step steps ih => exact ih (h.run step)

lemma compileCount_run (step : CacheStep) :
    (step.run state).cache.compileCount =
      state.cache.compileCount + (step.misses state).toNat := by
  cases step with
  | retrieve setting registry key =>
      rw [CacheStep.run, CacheStep.misses, ProgramCache.retrieve]
      have hcache : (state.equip registry).cache = state.cache := rfl
      rw [hcache]
      cases state.cache.get? key with
      | some program => rfl
      | none =>
          dsimp only
          cases compile setting key.stages key.desired (state.equip registry).workshop with
          | ok program after => rfl
          | error error after => rfl
  | evict key =>
      rw [CacheStep.run, ProgramCache.evict]
      cases state.cache.get? key with
      | none => rfl
      | some program => rfl
  | clear => rfl
  | adjust failingText failingLink eliminated => rfl

lemma compileCount_afterSteps (steps : List CacheStep) :
    (state.afterSteps steps).cache.compileCount =
      state.cache.compileCount + state.missed steps := by
  induction steps generalizing state with
  | nil => rfl
  | cons step steps ih =>
      rw [afterSteps, List.foldl_cons, ← afterSteps, ih, compileCount_run, missed, Nat.add_assoc]

/-- **A cache owns the programs of its device.**  Start with an empty cache and a new headless
device and take any steps: retrieves with any settings and registries, which succeed or fail,
evictions, clearings, and changes of what the device refuses.  Then the cache owns what is live, the
compiles that were tried are the retrieves that missed, a retrieve of a key that is there gives its
program without a call to the device, and a retrieve that fails changes no entry.

Names are numbers without a bound here, so this holds as long as a device with words for names has
names left. -/
theorem owned_of_steps (base : Registry) (setup : Headless) (steps : List CacheStep) :
    let state := (start base setup).afterSteps steps
    state.Owned ∧ state.cache.compileCount = (start base setup).missed steps ∧
      (∀ setting registry key program, state.cache.get? key = some program →
        ProgramCache.calls setting key (state.equip registry) = [] ∧
          ∃ after, ProgramCache.retrieve setting key (state.equip registry) = .ok program after ∧
            after.cache = state.cache ∧ after.workshop.device = state.workshop.device) ∧
      ∀ setting registry key error after,
        ProgramCache.retrieve setting key (state.equip registry) = .error error after →
          after.cache.entries = state.cache.entries := by
  intro state
  refine ⟨owned_afterSteps (owned_start base setup) steps, ?_, ?_, ?_⟩
  · exact (compileCount_afterSteps steps).trans (Nat.zero_add _)
  · intro setting registry key program hget
    have hpresent : (state.equip registry).cache.get? key = some program := hget
    obtain ⟨hretrieve, hcalls⟩ := ProgramCache.retrieve_present hpresent
    exact ⟨hcalls, _, hretrieve, rfl, rfl⟩
  · intro setting registry key error after herror
    have hentries := ProgramCache.entries_of_error herror
    exact hentries

open ProgramCache (lightingSetting yielding)

/-- A link that the device refuses, the same program when it no longer does, a program that no task
can yield, and the first one again. -/
def lightingSteps : List CacheStep :=
  [.adjust none true [], .retrieve lightingSetting .ofBasics (yielding "color"),
    .adjust none false [], .retrieve lightingSetting .ofBasics (yielding "color"),
    .retrieve lightingSetting .ofBasics (yielding "glow"),
    .retrieve lightingSetting .ofBasics (yielding "color")]

theorem owned_of_steps_lighting :
    ((start .ofBasics {}).afterSteps lightingSteps).Owned ∧
      ((start .ofBasics {}).afterSteps lightingSteps).cache.compileCount = 3 ∧
      ((start .ofBasics {}).afterSteps lightingSteps).cache.entries.map (·.1) =
        [yielding "color"] ∧
      ((start .ofBasics {}).afterSteps lightingSteps).workshop.device.livePrograms.length = 1 := by
  obtain ⟨howned, hcount, -, -⟩ := owned_of_steps .ofBasics {} lightingSteps
  exact ⟨howned, hcount.trans (by decide +kernel), by decide +kernel, by decide +kernel⟩

end CachedWorkshop

end ShaderWeave
