import Mathlib.Data.List.Nodup
import ShaderWeave.Device.Headless
import ShaderWeave.Proofs.Collections
import ShaderWeave.Proofs.Outcome
import ShaderWeave.Renderer

/-!
# Negotiation ends after one round

A caller declares what it supplies, and the answer is the program, or the full list of what the
program needs.

**Lists.**  Merging keeps the list it starts from in front (`PropertyList.begins_merge`) and brings
in the names of the other list (`PropertyList.mem_names_merge`); the same holds of several lists in
a row.

**The cache.**  A program that was given out is in the cache (`ProgramCache.get?_of_retrieve`), and
a program in the cache is given out without asking the device (`Renderer.program_of_get?`).

**Rounds.**  `Renderer.negotiate_again`: a caller that is told new requirements and comes back with
all of them gets the program, and nothing is compiled for it.
-/

namespace ShaderWeave

namespace PropertyList

variable {list other : PropertyList} {property : Property} {name : String}

lemma begins_insert : list.entries <+: (list.insert property).entries := by
  rcases entries_insert list property with heq | heq
  · simp only [heq, List.prefix_rfl]
  · simp only [heq, List.prefix_append]

lemma begins_extend {properties : List Property} :
    list.entries <+: (list.extend properties).entries := by
  unfold extend
  induction properties generalizing list with
  | nil => exact List.prefix_rfl
  | cons property rest ih => exact begins_insert.trans ih

/-- A merged list begins with the list it was merged into. -/
lemma begins_merge : list.entries <+: (list.merge other).entries := begins_extend

lemma mem_names_merge :
    name ∈ (list.merge other).names ↔ name ∈ list.names ∨ name ∈ other.names := by
  rw [merge, mem_names_extend]
  exact or_congr_right mem_names.symm

lemma begins_foldl_merge (lists : List PropertyList) :
    list.entries <+: (lists.foldl merge list).entries := by
  induction lists generalizing list with
  | nil => exact List.prefix_rfl
  | cons other lists ih => exact begins_merge.trans ih

lemma mem_names_foldl_merge (lists : List PropertyList) :
    name ∈ (lists.foldl merge list).names ↔
      name ∈ list.names ∨ ∃ other ∈ lists, name ∈ other.names := by
  induction lists generalizing list with
  | nil => simp
  | cons other lists ih =>
      rw [List.foldl_cons, ih, mem_names_merge]
      simp only [List.mem_cons, exists_eq_or_imp, or_assoc]

/-- A name is in a list at most once, so a name that is there is there exactly once. -/
lemma count_names (h : name ∈ list.names) : list.names.count name = 1 :=
  List.count_eq_one_of_mem list.nodup h

end PropertyList

namespace ProgramCache

variable {σ : Type} [Device σ] {setting : Setting} {key : ProgramKey} {state : CachedWorkshop σ}
  {program : Program}

lemma get?_append {cache : ProgramCache} (h : cache.get? key = none) (program : Program)
    (count : Nat) :
    ProgramCache.get? { entries := cache.entries ++ [(key, program)], compileCount := count } key =
      some program := by
  have hnone : cache.entries.find? (·.1 == key) = none := Option.map_eq_none_iff.1 h
  simp [get?, List.find?_append, hnone]

/-- A program that was given out is in the cache. -/
lemma get?_of_retrieve {later : CachedWorkshop σ}
    (h : retrieve setting key state = .ok program later) : later.cache.get? key = some program := by
  rw [retrieve] at h
  cases hget : state.cache.get? key with
  | some cached =>
      rw [hget] at h
      cases h
      exact hget
  | none =>
      rw [hget] at h
      dsimp only at h
      cases hcompiled : compile setting key.stages key.desired state.workshop with
      | error error workshop =>
          rw [hcompiled] at h
          cases h
      | ok compiled workshop =>
          rw [hcompiled] at h
          cases h
          exact get?_append hget program _

end ProgramCache

namespace NegotiationOutcome

/-- New requirements with these names. -/
def asksFor (names : List String) : NegotiationOutcome → Bool
  | requirementsChanged requirements => requirements.names = names
  | _ => false

lemma exists_of_asksFor {names : List String} {outcome : NegotiationOutcome}
    (h : outcome.asksFor names = true) :
    ∃ requirements, outcome = .requirementsChanged requirements ∧ requirements.names = names := by
  cases outcome with
  | requirementsChanged requirements => exact ⟨requirements, rfl, of_decide_eq_true h⟩
  | compiled program => cases h
  | failed diagnostics => cases h

end NegotiationOutcome

namespace Renderer

variable {σ : Type} {renderer renderer' : Renderer σ} {resolver : Resolver} {key : ProgramKey}
  {program : Program} {declared requirements : PropertyList} {name : String}

/-! ## What a program needs -/

/-- New requirements are the declared list with the lists of the program merged into it, and one of
their names was not declared. -/
lemma compareNeeds_eq_requirementsChanged
    (h : compareNeeds program declared = .requirementsChanged requirements) :
    requirements = (requiredLists program).foldl PropertyList.merge declared ∧
      ∃ list ∈ requiredLists program, ∃ name ∈ list.names, name ∉ declared.names := by
  rw [compareNeeds] at h
  split at h
  · next hmissing =>
      cases h
      exact ⟨rfl, by simpa [PropertyList.contains] using hmissing⟩
  · cases h

/-- A program whose needs are all declared is accepted. -/
lemma compareNeeds_eq_compiled
    (h : ∀ list ∈ requiredLists program, ∀ name ∈ list.names, name ∈ declared.names) :
    compareNeeds program declared = .compiled program := by
  rw [compareNeeds]
  refine if_neg ?_
  simpa using h

/-! ## Rounds -/

section Programs

variable [Device σ]

lemma get?_of_program {before : Renderer σ}
    (h : Renderer.program resolver key renderer = .ok program before) :
    before.cache.get? key = some program := by
  rw [Renderer.program] at h
  cases hretrieved : ProgramCache.retrieve (renderer.setting resolver) key renderer.state with
  | error error state =>
      rw [hretrieved] at h
      cases h
  | ok found state =>
      rw [hretrieved] at h
      cases h
      exact ProgramCache.get?_of_retrieve hretrieved

/-- A program that is in the cache is given out, whatever the tasks are now. -/
lemma program_of_get? (resolver : Resolver) (h : renderer.cache.get? key = some program) :
    Renderer.program resolver key renderer = .ok program (renderer.report [.cacheHit]) := by
  have hcached : renderer.state.cache.get? key = some program := h
  rw [Renderer.program, ProgramCache.retrieve, hcached]
  rfl

lemma negotiate_of_program {before : Renderer σ}
    (h : Renderer.program resolver key renderer = .ok program before)
    (hneeds : compareNeeds program declared = .compiled program) :
    negotiate resolver key declared renderer = .ok (.compiled program) before := by
  rw [negotiate, h]
  dsimp only
  rw [hneeds]

/-- New requirements come from a program that was compiled or found. -/
lemma program_of_negotiate
    (h : negotiate resolver key declared renderer =
      .ok (.requirementsChanged requirements) renderer') :
    ∃ program before, Renderer.program resolver key renderer = .ok program before ∧
      compareNeeds program declared = .requirementsChanged requirements ∧
      renderer' = before.report [.requires requirements.size declared.size] := by
  rw [negotiate] at h
  cases hprogram : Renderer.program resolver key renderer with
  | error error before =>
      rw [hprogram] at h
      cases error with
      | specification error => cases h
      | compile diagnostics => cases h
      | link diagnostics => cases h
      | device object message => cases h
  | ok program before =>
      rw [hprogram] at h
      dsimp only at h
      cases hneeds : compareNeeds program declared with
      | compiled accepted =>
          rw [hneeds] at h
          cases h
      | failed diagnostics =>
          rw [hneeds] at h
          cases h
      | requirementsChanged found =>
          rw [hneeds] at h
          cases h
          exact ⟨program, before, rfl, hneeds, rfl⟩

/-- **Negotiation ends after one round.**  New requirements begin with what was declared, hold every
name that the program needs exactly once, and hold nothing else; one of them is new.  Whoever comes
back with all their names gets the same program from the cache, also when the tasks have changed:
only the hit is reported, so the device and the count of compiles are left as they were.  The device
may be any, such as one that keeps a record of its calls. -/
theorem negotiate_again (resolver : Resolver) (key : ProgramKey)
    (declared requirements : PropertyList) (renderer renderer' : Renderer σ)
    (h : negotiate resolver key declared renderer =
      .ok (.requirementsChanged requirements) renderer') :
    ∃ program before, Renderer.program resolver key renderer = .ok program before ∧
      renderer'.cache = before.cache ∧ renderer'.device = before.device ∧
      declared.entries <+: requirements.entries ∧
      (∀ list ∈ requiredLists program, ∀ name ∈ list.names, requirements.names.count name = 1) ∧
      (∀ name ∈ requirements.names, name ∈ declared.names ∨
        ∃ list ∈ requiredLists program, name ∈ list.names) ∧
      (∃ name ∈ requirements.names, name ∉ declared.names) ∧
      ∀ (resolver' : Resolver) (supplied : PropertyList),
        requirements.names ⊆ supplied.names →
        ∃ later, negotiate resolver' key supplied renderer' = .ok (.compiled program) later ∧
          later = renderer'.report [.cacheHit] ∧ later.device = renderer'.device ∧
          later.cache = renderer'.cache := by
  obtain ⟨program, before, hprogram, hneeds, rfl⟩ := program_of_negotiate h
  obtain ⟨rfl, list, hlist, name, hname, hnew⟩ := compareNeeds_eq_requirementsChanged hneeds
  have hneeded : ∀ list ∈ requiredLists program, ∀ name ∈ list.names,
      name ∈ ((requiredLists program).foldl PropertyList.merge declared).names :=
    fun list hlist name hname => (PropertyList.mem_names_foldl_merge _).2 (Or.inr ⟨list, hlist, hname⟩)
  refine ⟨program, before, hprogram, rfl, rfl, PropertyList.begins_foldl_merge _, ?_, ?_, ?_, ?_⟩
  · exact fun list hlist name hname => PropertyList.count_names (hneeded list hlist name hname)
  · exact fun name hname => (PropertyList.mem_names_foldl_merge _).1 hname
  · exact ⟨name, hneeded list hlist name hname, hnew⟩
  · intro resolver' supplied hsupplied
    have hcached := get?_of_program hprogram
    refine ⟨_, negotiate_of_program (program_of_get? resolver' ?_) ?_, rfl, rfl, rfl⟩
    · exact hcached
    · exact compareNeeds_eq_compiled fun list hlist name hname =>
        hsupplied (hneeded list hlist name hname)

/-- One task that paints with a tint and a gain. -/
def painting : TaskCollection :=
  TaskCollection.empty.register
    (.call "paint" { inputs := .ofList [⟨"tint", .vec4⟩, ⟨"gain", .float⟩]
                     outputs := .ofList [⟨"color", .vec4⟩] }) [.compute]

/-- A sun that is declared and not needed stays in front, and the gain is new.  The second round
gives the names in another order, and there is no task any more. -/
theorem negotiate_again_painting :
    ∃ requirements renderer' program later,
      negotiate painting.resolver
          (.compute ⟨.empty, .ofList [⟨"color", .vec4⟩], {}⟩)
          (.ofList [⟨"sun", .vec3⟩, ⟨"tint", .vec4⟩])
          (ofParts ⟨[]⟩ {} .ofBasics ({} : Headless)) =
        .ok (.requirementsChanged requirements) renderer' ∧
      requirements.names = ["sun", "tint", "gain"] ∧
      negotiate TaskCollection.empty.resolver
          (.compute ⟨.empty, .ofList [⟨"color", .vec4⟩], {}⟩)
          (.ofList [⟨"gain", .float⟩, ⟨"moon", .vec3⟩, ⟨"tint", .vec4⟩, ⟨"sun", .vec3⟩]) renderer' =
        .ok (.compiled program) later ∧
      later.device = renderer'.device ∧ later.cache = renderer'.cache := by
  have htest : Outcome.passes (NegotiationOutcome.asksFor ["sun", "tint", "gain"])
      (negotiate painting.resolver
        (.compute ⟨.empty, .ofList [⟨"color", .vec4⟩], {}⟩)
        (.ofList [⟨"sun", .vec3⟩, ⟨"tint", .vec4⟩])
        (ofParts ⟨[]⟩ {} .ofBasics ({} : Headless))) = true := by decide +kernel
  obtain ⟨outcome, renderer', hasked, htest⟩ := Outcome.exists_of_passes htest
  obtain ⟨requirements, rfl, hnames⟩ := NegotiationOutcome.exists_of_asksFor htest
  obtain ⟨program, -, -, -, -, -, -, -, -, hagain⟩ := negotiate_again _ _ _ _ _ _ hasked
  obtain ⟨later, hlater, -, hdevice, hcache⟩ := hagain TaskCollection.empty.resolver
    (.ofList [⟨"gain", .float⟩, ⟨"moon", .vec3⟩, ⟨"tint", .vec4⟩, ⟨"sun", .vec3⟩])
    (by rw [hnames]; decide)
  exact ⟨requirements, renderer', program, later, hasked, hnames, hlater, hdevice, hcache⟩

end Programs

end Renderer

end ShaderWeave
