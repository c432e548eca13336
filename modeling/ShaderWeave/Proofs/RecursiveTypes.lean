import Mathlib.Logic.Relation
import ShaderWeave.Proofs.History

/-!
# Types that contain themselves

Registering a host type asks for the types in it, these for the types in them, and so on through
every type without a conversion (`Registry.Opens`).  Types may share parts, and a type may contain
itself.  Two things stop the search: a type that has a conversion by now is not opened again, and a
pending type that is needed again is called recursive.

* `Registry.Returns` — the calls of a registration and what they return.  **The rules know no bound
  on how deep calls nest,** so a result stands for a finite tree of calls.
  `Registry.Returns.convertWithin` says that a conversion has such a tree: pending types differ and
  are described, and a catalogue describes finitely many.
* `Registry.Returns.cycle` — a type that is called recursive is reached from the type asked for and
  contains itself.  Every pending type leads to every type asked for, so a pending type that is
  needed again closes a cycle.
* `Registry.Returns.acc` — below a type that got a conversion every descent ends.  Types get theirs
  after their parts, so shared parts do no harm.
-/

namespace ShaderWeave

/-- The types in a shape, in the order in which they are asked for. -/
def TypeShape.parts : TypeShape → List HostType
  | .plain => []
  | .fields members => members.map Field.type
  | .layout body => body.dependencies
  | .buffer shape => shape.header.toList ++ shape.element.toList

/-! ## What a recipe asks for -/

namespace Recipe

/-- The recipe asks for these types, unless it fails before, and calls no type recursive. -/
def Asks : Recipe → List HostType → Prop
  | fail error, _ => ∀ host, error ≠ .recursiveType host
  | done _, parts => parts = []
  | ask host next, parts => ∃ rest, parts = host :: rest ∧ ∀ type, (next type).Asks rest

lemma asks_struct (host : HostType) (layout : StructLayout) : (struct host layout).Asks [] := by
  unfold struct
  split_ifs
  · intro other
    simp
  · rfl

lemma asks_fields (host : HostType) (members : Registry.Members) (rest : List Field) :
    (fields host members rest).Asks (rest.map Field.type) := by
  induction rest generalizing members with
  | nil => exact asks_struct host members.layout
  | cons field rest ih =>
      refine ⟨rest.map Field.type, rfl, fun type => ?_⟩
      dsimp only
      split_ifs
      · intro other
        simp
      · exact ih _

lemma asks_layout (host : HostType) (body : StructLayout) (rest : List HostType) :
    (layout host body rest).Asks rest := by
  induction rest with
  | nil => exact asks_struct host body
  | cons dependency rest ih => exact ⟨rest, rfl, fun _ => ih⟩

lemma asks_elements (host : HostType) (shape : BufferShape) (body : String) (layout : GpuLayout) :
    (elements host shape body layout).Asks shape.element.toList := by
  unfold elements
  cases shape.element with
  | none => rfl
  | some element =>
      refine ⟨[], rfl, fun type => ?_⟩
      dsimp only
      split_ifs
      · intro other
        simp
      · intro other
        simp
      · rfl

lemma asks_buffer (host : HostType) (shape : BufferShape) :
    (buffer host shape).Asks (shape.header.toList ++ shape.element.toList) := by
  unfold buffer
  cases shape.header with
  | none => exact asks_elements ..
  | some header =>
      refine ⟨shape.element.toList, rfl, fun type => ?_⟩
      dsimp only
      split_ifs
      · intro other
        simp
      · intro other
        simp
      all_goals exact asks_elements ..

lemma asks_recipe (host : HostType) (shape : TypeShape) :
    (recipe host shape).Asks shape.parts := by
  cases shape with
  | plain =>
      intro other
      simp
  | fields fields => exact asks_fields ..
  | layout layout => exact asks_layout ..
  | buffer shape => exact asks_buffer ..

end Recipe

namespace Registry

variable {catalogue : Catalogue} {base registry : Registry} {host : HostType}

/-! ## Calls -/

/-- A call of a registration. -/
inductive Call where
  | convert (host : HostType)
  /-- Carries out a recipe; the keys are those of the types that were asked for before. -/
  | follow (r : Recipe) (keys : List TypeKey)

/-- What a call comes to, with the registry that it leaves. -/
abbrev CallResult := EStateM.Result SpecificationError Registry ConversionKey

/-- The registry that a call leaves. -/
def CallResult.left : CallResult → Registry
  | .ok _ registry => registry
  | .error _ registry => registry

/-- A call on a registry returns, with this result.  There is one rule for each way a call can go,
and the calls inside it return by the same rules.  Registering a shape is carrying out its recipe
(`Recipe.addShape_eq_follow`). -/
inductive Returns (catalogue : Catalogue) : Call → Registry → CallResult → Prop where
  | known {host : HostType} {registry : Registry} {key : ConversionKey}
      (hkey : registry.key? host = some key) :
      Returns catalogue (.convert host) registry (.ok key registry)
  | recursive {host : HostType} {registry : Registry} (hnone : registry.key? host = none)
      (hpending : host ∈ registry.pending) :
      Returns catalogue (.convert host) registry (.error (.recursiveType host) registry)
  | registered {host : HostType} {registry after : Registry} {key : ConversionKey}
      (hnone : registry.key? host = none) (hnot : host ∉ registry.pending)
      (hfollow : Returns catalogue (.follow (recipe host (catalogue.shape host)) [])
        (registry.begin host) (.ok key after)) :
      Returns catalogue (.convert host) registry (.ok key (after.finish.assign host key))
  | refused {host : HostType} {registry after : Registry} {error : SpecificationError}
      (hnone : registry.key? host = none) (hnot : host ∉ registry.pending)
      (hfollow : Returns catalogue (.follow (recipe host (catalogue.shape host)) [])
        (registry.begin host) (.error error after)) :
      Returns catalogue (.convert host) registry (.error error after.finish)
  | fail {error : SpecificationError} {keys : List TypeKey} {registry : Registry} :
      Returns catalogue (.follow (.fail error) keys) registry (.error error registry)
  | done {form : Form} {keys : List TypeKey} {registry : Registry} :
      Returns catalogue (.follow (.done form) keys) registry
        (.ok ⟨registry.conversions.size⟩ (registry.put form keys))
  | answered {host : HostType} {next : GpuType → Recipe} {keys : List TypeKey}
      {registry middle : Registry} {key : ConversionKey} {type : TypeKey} {result : CallResult}
      (hconvert : Returns catalogue (.convert host) registry (.ok key middle))
      (htype : (middle.conversion key).type = type)
      (hrest : Returns catalogue (.follow (next (middle.type type).bare) (keys ++ [type])) middle
        result) :
      Returns catalogue (.follow (.ask host next) keys) registry result
  | unanswered {host : HostType} {next : GpuType → Recipe} {keys : List TypeKey}
      {registry middle : Registry} {error : SpecificationError}
      (hconvert : Returns catalogue (.convert host) registry (.error error middle)) :
      Returns catalogue (.follow (.ask host next) keys) registry (.error error middle)

namespace Returns

variable {call : Call} {result : CallResult}

lemma pending_left (h : Returns catalogue call registry result) :
    result.left.pending = registry.pending := by
  induction h with
  | known _ => rfl
  | recursive _ _ => rfl
  | registered _ _ _ ih => exact congrArg List.tail ih
  | refused _ _ _ ih => exact congrArg List.tail ih
  | fail => rfl
  | done => rfl
  | answered _ _ _ ihconvert ihrest => exact ihrest.trans ihconvert
  | unanswered _ ih => exact ih

/-- A host type that has a conversion keeps having one. -/
lemma key?_left (h : Returns catalogue call registry result) {other : HostType}
    (hother : registry.key? other ≠ none) : result.left.key? other ≠ none := by
  induction h with
  | known _ => exact hother
  | recursive _ _ => exact hother
  | @registered host registry after key _ _ _ ih =>
      change (after.finish.assign host key).key? other ≠ none
      rw [key?_assign]
      split_ifs with heq
      · simp
      · exact ih hother
  | refused _ _ _ ih => exact ih hother
  | fail => exact hother
  | done => exact hother
  | answered _ _ _ ihconvert ihrest => exact ihrest (ihconvert hother)
  | unanswered _ ih => exact ih hother

/-! ## Every call returns -/

lemma of_follow {convert : HostType → Action ConversionKey} (r : Recipe) (keys : List TypeKey)
    (hconvert : ∀ host middle, middle.pending = registry.pending →
      Returns catalogue (.convert host) middle (convert host middle)) :
    Returns catalogue (.follow r keys) registry (r.follow convert keys registry) := by
  induction r generalizing keys registry with
  | fail error => exact .fail
  | done form => exact .done
  | ask host next ih =>
      have hfirst := hconvert host registry rfl
      rw [Recipe.follow]
      cases hresult : convert host registry with
      | error error middle =>
          rw [Outcome.bind_of_error (typeKey_of_error hresult)]
          exact .unanswered (hresult ▸ hfirst)
      | ok key middle =>
          rw [hresult] at hfirst
          rw [Outcome.bind_of_ok (typeKey_of_ok hresult), Outcome.get_bind]
          have hpending : middle.pending = registry.pending := hfirst.pending_left
          exact .answered hfirst rfl (ih _ _ (by rwa [hpending]))

/-- **A conversion returns.**  Each call inside it has one more pending type, and there are only so
many described types. -/
theorem convertWithin {depth : Nat} (hready : Ready catalogue depth registry.pending) :
    Returns catalogue (.convert host) registry
      (Registry.convertWithin catalogue depth host registry) := by
  induction depth generalizing host registry with
  | zero => exact absurd hready.depth_pos (Nat.lt_irrefl 0)
  | succ depth ih =>
      cases hkey : registry.key? host with
      | some key =>
          rw [convertWithin_of_some hkey]
          exact .known hkey
      | none =>
          by_cases hpending : host ∈ registry.pending
          · rw [convertWithin_of_pending hkey hpending]
            exact .recursive hkey hpending
          · rw [convertWithin_succ hkey hpending]
            have hfollow : Returns catalogue (.follow (recipe host (catalogue.shape host)) [])
                (registry.begin host)
                ((recipe host (catalogue.shape host)).follow
                  (Registry.convertWithin catalogue depth) [] (registry.begin host)) := by
              cases hshape : catalogue.shape host with
              | plain => exact .fail
              | _ =>
                  refine of_follow _ _ fun other middle hmiddle => ih ?_
                  rw [hmiddle]
                  exact hready.cons hpending (by simp [hshape])
            cases hresult : (recipe host (catalogue.shape host)).follow
                (Registry.convertWithin catalogue depth) [] (registry.begin host) with
            | ok key after => exact .registered hkey hpending (hresult ▸ hfollow)
            | error error after => exact .refused hkey hpending (hresult ▸ hfollow)

end Returns

/-! ## Cycles -/

/-- A type without a conversion is opened, and the second type is in it. -/
def Opens (registry : Registry) (catalogue : Catalogue) (host part : HostType) : Prop :=
  registry.key? host = none ∧ part ∈ (catalogue.shape host).parts

/-- The call asks for these types, unless it fails before. -/
def Call.Asks : Call → List HostType → Prop
  | .convert host, roots => roots = [host]
  | .follow r _, roots => r.Asks roots

namespace Returns

variable {call : Call} {result : CallResult} {roots : List HostType}

/-- **Types that are called recursive are recursive.**  The calls may have begun on a later registry
than the one whose types are followed, if pending types lead to all that is asked for. -/
theorem cycle (base : Registry) (h : Returns catalogue call registry result)
    (hasks : call.Asks roots)
    (hkept : ∀ other, base.key? other ≠ none → registry.key? other ≠ none)
    (hpending : ∀ waiting ∈ registry.pending, ∀ root ∈ roots,
      Relation.TransGen (base.Opens catalogue) waiting root)
    {culprit : HostType} {after : Registry}
    (hresult : result = .error (.recursiveType culprit) after) :
    ∃ root ∈ roots, Relation.ReflTransGen (base.Opens catalogue) root culprit ∧
      Relation.TransGen (base.Opens catalogue) culprit culprit := by
  induction h generalizing roots after with
  | known _ => cases hresult
  | recursive hnone hwaiting =>
      cases hresult
      obtain rfl := hasks
      exact ⟨_, List.mem_singleton_self _, .refl, hpending _ hwaiting _ (List.mem_singleton_self _)⟩
  | registered _ _ _ _ => cases hresult
  | @refused host registry after error hnone hnot hfollow ih =>
      obtain rfl := hasks
      have hopens : ∀ part ∈ (catalogue.shape host).parts, base.Opens catalogue host part :=
        fun part hpart => ⟨by_contra fun hbase => hkept host hbase hnone, hpart⟩
      obtain ⟨part, hpart, hreaches, hcycle⟩ := ih (Recipe.asks_recipe host _) hkept (by
        intro waiting hwaiting part hpart
        rcases List.mem_cons.1 hwaiting with rfl | hwaiting
        · exact .single (hopens part hpart)
        · exact .tail (hpending waiting hwaiting host (List.mem_singleton_self _))
            (hopens part hpart)) (by cases hresult; rfl)
      exact ⟨host, List.mem_singleton_self _, .head (hopens part hpart) hreaches, hcycle⟩
  | fail =>
      cases hresult
      exact absurd rfl (hasks culprit)
  | done => cases hresult
  | answered hconvert _ _ _ ihrest =>
      obtain ⟨rest, rfl, hnext⟩ := hasks
      obtain ⟨root, hroot, hfound⟩ := ihrest (hnext _)
        (fun other hbase => hconvert.key?_left (hkept other hbase))
        (fun waiting hwaiting root hroot => hpending waiting (hconvert.pending_left ▸ hwaiting) root
          (List.mem_cons_of_mem _ hroot)) hresult
      exact ⟨root, List.mem_cons_of_mem _ hroot, hfound⟩
  | unanswered _ ih =>
      obtain ⟨rest, rfl, -⟩ := hasks
      obtain ⟨root, hroot, hfound⟩ := ih rfl hkept (by
        intro waiting hwaiting root hroot
        obtain rfl := List.mem_singleton.1 hroot
        exact hpending waiting hwaiting root List.mem_cons_self) hresult
      obtain rfl := List.mem_singleton.1 hroot
      exact ⟨root, List.mem_cons_self, hfound⟩

/-- **Below a type that has a conversion every descent ends,** if that is so of the conversions at
the start. -/
theorem acc (h : Returns catalogue call registry result) (hasks : call.Asks roots)
    (hknown : ∀ other, registry.key? other ≠ none → Acc (flip (base.Opens catalogue)) other)
    {key : ConversionKey} {after : Registry} (hresult : result = .ok key after) :
    (∀ root ∈ roots, Acc (flip (base.Opens catalogue)) root) ∧
      ∀ other, after.key? other ≠ none → Acc (flip (base.Opens catalogue)) other := by
  induction h generalizing roots key after with
  | @known host registry key hkey =>
      cases hresult
      obtain rfl := hasks
      refine ⟨fun root hroot => ?_, hknown⟩
      obtain rfl := List.mem_singleton.1 hroot
      exact hknown root (by simp [hkey])
  | recursive _ _ => cases hresult
  | @registered host registry middle key _ _ _ ih =>
      cases hresult
      obtain rfl := hasks
      obtain ⟨hparts, hmiddle⟩ := ih (Recipe.asks_recipe host _) hknown rfl
      have hhost : Acc (flip (base.Opens catalogue)) host :=
        ⟨host, fun part hpart => hparts part hpart.2⟩
      refine ⟨fun root hroot => List.mem_singleton.1 hroot ▸ hhost, fun other hother => ?_⟩
      rw [key?_assign] at hother
      split_ifs at hother with heq
      · exact heq ▸ hhost
      · exact hmiddle other hother
  | refused _ _ _ _ => cases hresult
  | fail => cases hresult
  | done =>
      cases hresult
      obtain rfl := hasks
      exact ⟨by simp, hknown⟩
  | answered _ _ _ ihconvert ihrest =>
      obtain ⟨rest, rfl, hnext⟩ := hasks
      obtain ⟨hfirst, hmiddle⟩ := ihconvert rfl hknown rfl
      obtain ⟨hothers, hafter⟩ := ihrest (hnext _) hmiddle hresult
      exact ⟨List.forall_mem_cons.2 ⟨hfirst _ (List.mem_singleton_self _), hothers⟩, hafter⟩
  | unanswered _ _ => cases hresult

end Returns

lemma not_cycle_of_acc {α : Type} {r : α → α → Prop} {a b : α} (h : Acc (flip r) a)
    (hreaches : Relation.ReflTransGen r a b) : ¬ Relation.TransGen r b b := by
  induction h with
  | intro a _ ih =>
      intro hcycle
      rcases hreaches.cases_head with rfl | ⟨c, hstep, hreaches⟩
      · obtain ⟨c, hstep, hback⟩ := Relation.TransGen.head'_iff.1 hcycle
        exact ih c hstep hback hcycle
      · exact ih c hstep hreaches hcycle

/-- **Recursive types are found, and no other type is called recursive.**  Between calls nothing is
pending (`Registry.Consistent.idle`).  Then a conversion returns.  A type that it calls recursive
is reached from the type asked for, through types without a conversion, and contains itself.  A
conversion that succeeds reached no such type. -/
theorem convert_returns_and_finds_cycles (catalogue : Catalogue) (host : HostType)
    {registry : Registry} (hidle : registry.pending = []) :
    Returns catalogue (.convert host) registry (convert catalogue host registry) ∧
      (∀ culprit after,
        convert catalogue host registry = .error (.recursiveType culprit) after →
          Relation.ReflTransGen (registry.Opens catalogue) host culprit ∧
            Relation.TransGen (registry.Opens catalogue) culprit culprit) ∧
      ∀ key after, convert catalogue host registry = .ok key after →
        ∀ type, Relation.ReflTransGen (registry.Opens catalogue) host type →
          ¬ Relation.TransGen (registry.Opens catalogue) type type := by
  have hreturns : Returns catalogue (.convert host) registry (convert catalogue host registry) :=
    Returns.convertWithin (hidle ▸ Ready.nil)
  refine ⟨hreturns, fun culprit after hresult => ?_, fun key after hresult type hreaches => ?_⟩
  · obtain ⟨root, hroot, hfound⟩ :=
      hreturns.cycle registry rfl (fun _ => id) (by simp [hidle]) hresult
    exact List.mem_singleton.1 hroot ▸ hfound
  · -- A type with a conversion is not opened, so no descent from it begins.
    have hknown : ∀ other, registry.key? other ≠ none →
        Acc (flip (registry.Opens catalogue)) other :=
      fun other hother => ⟨other, fun part hpart => absurd hpart.1 hother⟩
    have hacc := (hreturns.acc rfl hknown hresult).1 host (List.mem_singleton_self _)
    exact not_cycle_of_acc hacc hreaches

/-- The type that a result calls recursive. -/
def CallResult.culprit? : CallResult → Option HostType
  | .error (.recursiveType culprit) _ => some culprit
  | _ => none

lemma CallResult.exists_of_culprit? {result : CallResult} (h : result.culprit? = some host) :
    ∃ after, result = .error (.recursiveType host) after := by
  unfold culprit? at h
  split at h
  · cases h
    exact ⟨_, rfl⟩
  · cases h

def ember : HostType := .declared "Ember" 16 16

/-- A bracket holds two embers. -/
def bracket : HostType := .declared "Bracket" 32 16

/-- A hearth has embers of its own beside those in its bracket. -/
def hearth : HostType := .declared "Hearth" 48 16

/-- Links and rings contain each other. -/
def link : HostType := .declared "Link" 16 16

def ring : HostType := .declared "Ring" 32 16

/-- A gate stands before the cycle and is not on it. -/
def gate : HostType := .declared "Gate" 80 16

def hearths : Catalogue :=
  ⟨[(ember, .fields [⟨"color", .vec4⟩]),
    (bracket, .fields [⟨"left", ember⟩, ⟨"right", ember⟩]),
    (hearth, .fields [⟨"bracket", bracket⟩, ⟨"ember", ember⟩]),
    (link, .fields [⟨"ring", ring⟩]),
    (ring, .fields [⟨"ember", ember⟩, ⟨"link", link⟩]),
    (gate, .layout { body := "", size := 80, align := 16, dependencies := [hearth, ring] })]⟩

/-- Hearths share embers and are registered; behind a gate the cycle is found. -/
theorem convert_returns_and_finds_cycles_hearths :
    ofBasics.pending = [] ∧
      (∃ key after, convert hearths hearth ofBasics = .ok key after ∧
        ¬ Relation.TransGen (ofBasics.Opens hearths) ember ember) ∧
      ∃ after, convert hearths gate ofBasics = .error (.recursiveType ring) after ∧
        Returns hearths (.convert gate) ofBasics (.error (.recursiveType ring) after) ∧
        Relation.ReflTransGen (ofBasics.Opens hearths) gate ring ∧
        Relation.TransGen (ofBasics.Opens hearths) ring ring := by
  have hidle : ofBasics.pending = [] := by decide +kernel
  obtain ⟨key, after, hok⟩ :
      ∃ key after, convert hearths hearth ofBasics = .ok key after :=
    Outcome.exists_of_succeeds (by decide +kernel)
  obtain ⟨after', herror⟩ :
      ∃ after, convert hearths gate ofBasics = .error (.recursiveType ring) after :=
    CallResult.exists_of_culprit? (by decide +kernel)
  have hember : ofBasics.Opens hearths hearth ember := by
    refine ⟨?_, ?_⟩ <;> decide +kernel
  obtain ⟨-, -, hacyclic⟩ := convert_returns_and_finds_cycles hearths hearth hidle
  obtain ⟨hreturns, hfound, -⟩ := convert_returns_and_finds_cycles hearths gate hidle
  obtain ⟨hreaches, hcycle⟩ := hfound ring after' herror
  exact ⟨hidle, ⟨key, after, hok, hacyclic key after hok ember (.single hember)⟩,
    after', herror, herror ▸ hreturns, hreaches, hcycle⟩

end Registry

end ShaderWeave
