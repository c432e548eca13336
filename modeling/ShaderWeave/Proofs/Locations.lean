import Mathlib.Data.List.Induction
import ShaderWeave.Proofs.Attributes

/-!
# Where vertex components go

Locations are handed out by calls, and every call brings the registry along that it is made with.
Between two calls the registry may have become any other, so nothing is assumed about it.

* `VertexLayout.Call.slots?` — the slots that a call asks for.  Without a conversion for the type
  there are none, and the call fails.
* `VertexLayout.introduced?` — the name that a call brings in, with its slots: **the first call for a
  name that does not fail.**
* `VertexLayout.slotsBefore` — the slots that calls before some call were given.  This and the two
  above are told from the calls alone, without a layout.
* `VertexLayout.location?_afterCalls` — **the location of a component is the number of slots before
  the call that brought it in.**  One call more is `VertexLayout.location?_after`.
* `VertexLayout.locations_of_calls` — all that follows: components share no slot, they do not move,
  a name that comes again keeps its location, and a call that fails changes nothing.
-/

namespace ShaderWeave

namespace VertexLayout

/-! ## Calls -/

/-- A call that makes a property a vertex component, with what it is made with. -/
structure Call where
  catalogue : Catalogue
  registry : Registry
  property : Property

/-- The slots that values of the property take; none if its type has no conversion. -/
def Call.slots? (call : Call) : Option Nat :=
  match Registry.typeKey (Registry.convert call.catalogue) call.property.type call.registry with
  | .ok key registry => some (registry.type key).layout.slots
  | .error .. => none

/-- What a call answers, and the layout it yields. -/
def Call.outcome (call : Call) (layout : VertexLayout) :
    EStateM.Result SpecificationError Registry (Nat × VertexLayout) :=
  specify call.catalogue layout call.property call.registry

/-- The layout after a call, whether it succeeds or fails. -/
def after (layout : VertexLayout) (call : Call) : VertexLayout :=
  match call.outcome layout with
  | .ok (_, layout) _ => layout
  | .error .. => layout

/-- The layout that calls make of the empty one. -/
def afterCalls (calls : List Call) : VertexLayout := calls.foldl after empty

/-- One of the calls brings the name in. -/
def known (calls : List Call) (name : String) : Bool :=
  calls.any fun call => call.property.name == name && call.slots?.isSome

/-- The name that the call at a place brings in, and the slots for it. -/
def introduced? (calls : List Call) (i : Nat) : Option (String × Nat) :=
  calls[i]?.bind fun call =>
    if known (calls.take i) call.property.name then none
    else call.slots?.map fun slots => (call.property.name, slots)

/-- The slots that the call at a place is given. -/
def taken (calls : List Call) (i : Nat) : Nat := ((introduced? calls i).map (·.2)).getD 0

/-- The slots that the calls before a place were given. -/
def slotsBefore (calls : List Call) (i : Nat) : Nat := ((List.range i).map (taken calls)).sum

/-- The same counted in words of 32 bits. -/
def wordsBefore (calls : List Call) (i : Nat) : UInt32 :=
  ((List.range i).map fun j => (taken calls j).toUInt32).foldl (· + ·) 0

variable {layout : VertexLayout} {call : Call} {calls : List Call} {name : String}
  {property : Property} {location slots i j : Nat}

/-! ## One call -/

lemma outcome_of_none (layout : VertexLayout) (h : call.slots? = none) :
    ∃ error registry, call.outcome layout = .error error registry := by
  rw [Call.slots?] at h
  cases hkey : Registry.typeKey (Registry.convert call.catalogue) call.property.type
      call.registry with
  | ok key registry =>
      rw [hkey] at h
      cases h
  | error error registry => exact ⟨error, registry, Outcome.bind_of_error hkey _⟩

lemma outcome_of_some (layout : VertexLayout) (h : call.slots? = some slots) :
    (∀ found, layout.location? call.property.name = some found →
        ∃ registry, call.outcome layout = .ok (found, layout) registry) ∧
      (layout.location? call.property.name = none →
        ∃ registry, call.outcome layout =
          .ok (layout.next, layout.add call.property slots) registry) := by
  rw [Call.slots?] at h
  cases hkey : Registry.typeKey (Registry.convert call.catalogue) call.property.type
      call.registry with
  | error error registry =>
      rw [hkey] at h
      cases h
  | ok key registry =>
      rw [hkey] at h
      cases h
      refine ⟨fun found hfound => ⟨registry, ?_⟩, fun hnone => ⟨registry, ?_⟩⟩
      · rw [Call.outcome, specify, Outcome.bind_of_ok hkey, hfound]
        rfl
      · rw [Call.outcome, specify, Outcome.bind_of_ok hkey, hnone]
        rfl

/-- A call adds a component if its name is new and its type has a conversion. -/
lemma after_of_new (h : call.slots? = some slots)
    (hnew : layout.location? call.property.name = none) :
    layout.after call = layout.add call.property slots := by
  obtain ⟨registry, houtcome⟩ := (outcome_of_some layout h).2 hnew
  rw [after, houtcome]

/-- Any other call changes nothing. -/
lemma after_of_not_new (h : call.slots? = none ∨ layout.location? call.property.name ≠ none) :
    layout.after call = layout := by
  cases hslots : call.slots? with
  | none =>
      obtain ⟨error, registry, houtcome⟩ := outcome_of_none layout hslots
      rw [after, houtcome]
  | some slots =>
      obtain ⟨found, hfound⟩ := Option.ne_none_iff_exists'.1 (h.resolve_left (by simp [hslots]))
      obtain ⟨registry, houtcome⟩ := (outcome_of_some layout hslots).1 found hfound
      rw [after, houtcome]

lemma location?_add : (layout.add property slots).location? name =
    (layout.location? name).or (if property.name = name then some layout.next else none) := by
  rw [location?, add, List.find?_append, Option.map_or]
  by_cases h : property.name = name
  · simp [location?, h]
  · simp [location?, h]

/-- A call finds the components that were there, and the one that it adds. -/
lemma location?_after : (layout.after call).location? name =
    (layout.location? name).or
      (if call.property.name = name ∧ call.slots? ≠ none then some layout.next else none) := by
  by_cases hnew : call.slots? ≠ none ∧ layout.location? call.property.name = none
  · obtain ⟨slots, hslots⟩ := Option.ne_none_iff_exists'.1 hnew.1
    rw [after_of_new hslots hnew.2, location?_add]
    simp [hslots]
  · rw [after_of_not_new (by tauto)]
    by_cases hname : call.property.name = name ∧ call.slots? ≠ none
    · obtain ⟨rfl, hslots⟩ := hname
      obtain ⟨found, hfound⟩ := Option.ne_none_iff_exists'.1 fun hnone => hnew ⟨hslots, hnone⟩
      rw [hfound, Option.some_or]
    · rw [if_neg hname, Option.or_none]

/-! ## Runs -/

lemma afterCalls_snoc (calls : List Call) (call : Call) :
    afterCalls (calls ++ [call]) = (afterCalls calls).after call := by
  rw [afterCalls, List.foldl_append]
  rfl

lemma known_snoc : known (calls ++ [call]) name =
    (known calls name || (call.property.name == name && call.slots?.isSome)) := by
  simp [known]

/-- A component is there as soon as a call has brought its name in. -/
lemma isSome_location?_afterCalls (calls : List Call) (name : String) :
    ((afterCalls calls).location? name).isSome = known calls name := by
  induction calls using List.reverseRecOn with
  | nil => rfl
  | append_singleton calls call ih =>
      rw [afterCalls_snoc, location?_after, known_snoc, Option.isSome_or, ih]
      congr 1
      by_cases hname : call.property.name = name <;> cases call.slots? <;> simp [hname]

lemma location?_eq_none_iff :
    (afterCalls calls).location? name = none ↔ known calls name = false := by
  rw [← isSome_location?_afterCalls, Option.isSome_eq_false_iff, Option.isNone_iff_eq_none]

/-! ### What later calls do not change -/

lemma lt_length_of_introduced? {found : String × Nat} (h : introduced? calls i = some found) :
    i < calls.length := by
  obtain ⟨call, hcall, -⟩ := Option.bind_eq_some_iff.1 h
  exact (List.getElem?_eq_some_iff.1 hcall).1

lemma introduced?_append (later : List Call) (h : i < calls.length) :
    introduced? (calls ++ later) i = introduced? calls i := by
  rw [introduced?, introduced?, List.getElem?_append_left h,
    List.take_append_of_le_length (Nat.le_of_lt h)]

lemma introduced?_length (calls : List Call) (call : Call) :
    introduced? (calls ++ [call]) calls.length =
      if known calls call.property.name then none
      else call.slots?.map fun slots => (call.property.name, slots) := by
  simp [introduced?]

lemma slotsBefore_succ (calls : List Call) (i : Nat) :
    slotsBefore calls (i + 1) = slotsBefore calls i + taken calls i := by
  simp [slotsBefore, List.range_succ]

lemma slotsBefore_mono (h : i ≤ j) : slotsBefore calls i ≤ slotsBefore calls j := by
  refine monotone_nat_of_le_succ (fun n => ?_) h
  rw [slotsBefore_succ]
  omega

lemma slotsBefore_append (later : List Call) (h : i ≤ calls.length) :
    slotsBefore (calls ++ later) i = slotsBefore calls i := by
  unfold slotsBefore
  congr 1
  refine List.map_congr_left fun j hj => ?_
  rw [taken, taken, introduced?_append later (by have := List.mem_range.1 hj; omega)]

/-- A component is given its slots right behind those before it. -/
lemma slotsBefore_succ_of_introduced? (h : introduced? calls i = some (name, slots)) :
    slotsBefore calls (i + 1) = slotsBefore calls i + slots := by
  rw [slotsBefore_succ, taken, h]
  rfl

/-! ### Locations -/

/-- The first free slot comes after all slots that were given. -/
lemma next_afterCalls (calls : List Call) :
    (afterCalls calls).next = slotsBefore calls calls.length := by
  induction calls using List.reverseRecOn with
  | nil => rfl
  | append_singleton calls call ih =>
      have hbefore := slotsBefore_append [call] (Nat.le_refl calls.length)
      rw [afterCalls_snoc, List.length_append, List.length_singleton, slotsBefore_succ, hbefore,
        taken, introduced?_length, ← ih]
      cases hslots : call.slots? with
      | none => simp [after_of_not_new (Or.inl hslots)]
      | some slots =>
          cases hknown : known calls call.property.name with
          | true =>
              have hfound : (afterCalls calls).location? call.property.name ≠ none := by
                simp [location?_eq_none_iff, hknown]
              simp [after_of_not_new (Or.inr hfound)]
          | false =>
              rw [after_of_new hslots (location?_eq_none_iff.2 hknown)]
              simp [add]

/-- **The location of a component is the number of slots before the call that brought it in.** -/
lemma location?_afterCalls : (afterCalls calls).location? name = some location ↔
    ∃ i slots, introduced? calls i = some (name, slots) ∧ location = slotsBefore calls i := by
  induction calls using List.reverseRecOn generalizing location with
  | nil =>
      constructor
      · intro h
        cases h
      · rintro ⟨i, slots, h, -⟩
        exact absurd (lt_length_of_introduced? h) (Nat.not_lt_zero i)
  | append_singleton calls call ih =>
      rw [afterCalls_snoc, location?_after, Option.or_eq_some_iff, ih, location?_eq_none_iff,
        next_afterCalls]
      constructor
      · rintro (⟨i, slots, hi, rfl⟩ | ⟨hnew, hlast⟩)
        · have hlt := lt_length_of_introduced? hi
          exact ⟨i, slots, by rw [introduced?_append _ hlt, hi],
            (slotsBefore_append _ (Nat.le_of_lt hlt)).symm⟩
        · obtain ⟨⟨rfl, hslots⟩, hlocation⟩ := Option.ite_none_right_eq_some.1 hlast
          obtain ⟨slots, hslots⟩ := Option.ne_none_iff_exists'.1 hslots
          refine ⟨calls.length, slots, by simp [introduced?_length, hnew, hslots], ?_⟩
          rw [slotsBefore_append _ (Nat.le_refl _)]
          exact (Option.some.inj hlocation).symm
      · rintro ⟨i, slots, hi, rfl⟩
        have hlt : i < calls.length + 1 := by simpa using lt_length_of_introduced? hi
        rcases Nat.lt_succ_iff_lt_or_eq.1 hlt with hlt | rfl
        · rw [introduced?_append _ hlt] at hi
          exact Or.inl ⟨i, slots, hi, slotsBefore_append _ (Nat.le_of_lt hlt)⟩
        · rw [introduced?_length] at hi
          obtain ⟨hnew, hslots⟩ := Option.ite_none_left_eq_some.1 hi
          obtain ⟨found, hfound, heq⟩ := Option.map_eq_some_iff.1 hslots
          cases heq
          refine Or.inr ⟨by simpa using hnew, ?_⟩
          simp [hfound, slotsBefore_append]

/-- Components share no slots. -/
lemma disjoint_of_introduced? {other : String} {slots' : Nat}
    (hi : introduced? calls i = some (name, slots))
    (hj : introduced? calls j = some (other, slots')) (hne : name ≠ other) :
    Disjoint (Finset.Ico (slotsBefore calls i) (slotsBefore calls i + slots))
      (Finset.Ico (slotsBefore calls j) (slotsBefore calls j + slots')) := by
  rw [← slotsBefore_succ_of_introduced? hi, ← slotsBefore_succ_of_introduced? hj,
    Finset.disjoint_left]
  intro slot hslot hslot'
  rw [Finset.mem_Ico] at hslot hslot'
  rcases Nat.lt_trichotomy i j with hlt | rfl | hlt
  · have hnext : slotsBefore calls (i + 1) ≤ slotsBefore calls j := slotsBefore_mono hlt
    omega
  · rw [hi] at hj
    cases hj
    exact hne rfl
  · have hnext : slotsBefore calls (j + 1) ≤ slotsBefore calls i := slotsBefore_mono hlt
    omega

/-- Later calls do not move a component. -/
lemma location?_afterCalls_append (later : List Call)
    (h : (afterCalls calls).location? name = some location) :
    (afterCalls (calls ++ later)).location? name = some location := by
  obtain ⟨i, slots, hi, rfl⟩ := location?_afterCalls.1 h
  have hlt := lt_length_of_introduced? hi
  exact location?_afterCalls.2 ⟨i, slots, by rw [introduced?_append _ hlt, hi],
    (slotsBefore_append _ (Nat.le_of_lt hlt)).symm⟩

/-- Words of 32 bits count the slots as long as there are fewer than 2 ^ 32 of them. -/
lemma toNat_wordsBefore (h : slotsBefore calls i < 2 ^ 32) :
    (wordsBefore calls i).toNat = slotsBefore calls i := by
  rw [wordsBefore, slotsBefore, ← toNat_foldl_word h, List.map_map]
  rfl

end VertexLayout

/-! ## Renderers -/

namespace Renderer

variable {σ : Type} {renderer : Renderer σ} {property : Property}

/-- The call that a renderer makes for a property. -/
def callFor (renderer : Renderer σ) (property : Property) : VertexLayout.Call :=
  ⟨renderer.catalogue, renderer.registry, property⟩

@[simp] lemma callFor_property : (renderer.callFor property).property = property := rfl

lemma specifyVertexBuffer_ok {location : Nat} {layout : VertexLayout} {registry : Registry}
    (h : (renderer.callFor property).outcome renderer.vertexLayout =
      .ok (location, layout) registry) :
    ∃ after, specifyVertexBuffer property renderer = .ok location after ∧
      after.vertexLayout = layout := by
  have hspecify : VertexLayout.specify renderer.catalogue renderer.vertexLayout property
      renderer.registry = .ok (location, layout) registry := h
  obtain ⟨after, hafter, -, -⟩ := onRegistry_ok hspecify
  unfold specifyVertexBuffer
  rw [Outcome.get_bind, Outcome.bind_of_ok hafter]
  exact ⟨_, rfl, rfl⟩

lemma specifyVertexBuffer_error {error : SpecificationError} {registry : Registry}
    (h : (renderer.callFor property).outcome renderer.vertexLayout = .error error registry) :
    ∃ after, specifyVertexBuffer property renderer = .error error after ∧
      after.vertexLayout = renderer.vertexLayout := by
  have hspecify : VertexLayout.specify renderer.catalogue renderer.vertexLayout property
      renderer.registry = .error error registry := h
  obtain ⟨after, hafter, -, hlayout⟩ := onRegistry_error hspecify
  unfold specifyVertexBuffer
  rw [Outcome.get_bind, Outcome.bind_of_error hafter]
  exact ⟨after, rfl, hlayout⟩

/-- **How a renderer answers a call** for a vertex component. -/
structure Specifies (renderer : Renderer σ) (property : Property)
    (result : EStateM.Result SpecificationError (Renderer σ) Nat) : Prop where
  /-- It is one more call for the layout. -/
  after : (Outcome.state result).vertexLayout =
    renderer.vertexLayout.after (renderer.callFor property)
  /-- It succeeds exactly if the type has a conversion. -/
  succeeds_iff : Outcome.succeeds result = (renderer.callFor property).slots?.isSome
  /-- The answer is the location of the component. -/
  location : ∀ location renderer', result = .ok location renderer' →
    renderer'.vertexLayout.location? property.name = some location
  /-- A name that comes again keeps its first location, and nothing else changes. -/
  again : ∀ location renderer' first, result = .ok location renderer' →
    renderer.vertexLayout.location? property.name = some first →
      location = first ∧ renderer'.vertexLayout = renderer.vertexLayout
  /-- A call that fails leaves the components as they are. -/
  failed : ∀ error renderer', result = .error error renderer' →
    renderer'.vertexLayout = renderer.vertexLayout

lemma specifies (renderer : Renderer σ) (property : Property) :
    renderer.Specifies property (specifyVertexBuffer property renderer) := by
  cases hslots : (renderer.callFor property).slots? with
  | none =>
      have hsame : renderer.vertexLayout.after (renderer.callFor property) = renderer.vertexLayout :=
        VertexLayout.after_of_not_new (Or.inl hslots)
      obtain ⟨error, registry, houtcome⟩ :=
        VertexLayout.outcome_of_none renderer.vertexLayout hslots
      obtain ⟨after, hafter, hlayout⟩ := specifyVertexBuffer_error houtcome
      rw [hafter]
      refine ⟨hlayout.trans hsame.symm, by rw [hslots]; rfl, ?_, ?_, ?_⟩
      · rintro _ _ ⟨⟩
      · rintro _ _ _ ⟨⟩
      · rintro _ _ ⟨⟩
        exact hlayout
  | some slots =>
      obtain ⟨hagain, hnew⟩ := VertexLayout.outcome_of_some renderer.vertexLayout hslots
      rw [callFor_property] at hagain hnew
      cases hlocation : renderer.vertexLayout.location? property.name with
      | some first =>
          have hfound : renderer.vertexLayout.location? (renderer.callFor property).property.name ≠
              none := by simp [hlocation]
          have hsame := VertexLayout.after_of_not_new (Or.inr hfound)
          obtain ⟨registry, houtcome⟩ := hagain first hlocation
          obtain ⟨after, hafter, hlayout⟩ := specifyVertexBuffer_ok houtcome
          rw [hafter]
          refine ⟨hlayout.trans hsame.symm, by rw [hslots]; rfl, ?_, ?_, ?_⟩
          · rintro _ _ ⟨⟩
            rw [hlayout, hlocation]
          · rintro _ _ other ⟨⟩ hother
            rw [hlocation] at hother
            exact ⟨Option.some.inj hother, hlayout⟩
          · rintro _ _ ⟨⟩
      | none =>
          have hadded := VertexLayout.after_of_new hslots
            (by rw [callFor_property]; exact hlocation)
          obtain ⟨registry, houtcome⟩ := hnew hlocation
          obtain ⟨after, hafter, hlayout⟩ := specifyVertexBuffer_ok houtcome
          rw [hafter]
          refine ⟨hlayout.trans hadded.symm, by rw [hslots]; rfl, ?_, ?_, ?_⟩
          · rintro _ _ ⟨⟩
            rw [hlayout, VertexLayout.location?_add, hlocation]
            simp
          · rintro _ _ other ⟨⟩ hother
            rw [hlocation] at hother
            cases hother
          · rintro _ _ ⟨⟩

end Renderer

/-- **Locations are numbers of slots.**  Take any calls for vertex components, each with whatever
registry there is by then.  The location of a component is the number of slots that were given before
the first call for its name that did not fail; words of 32 bits give the same numbers as long as the
total is below 2 ^ 32.  Components share no slots, and later calls do not move them.  Renderers make
such calls: a name that comes again keeps its location, and a call that fails changes nothing. -/
theorem VertexLayout.locations_of_calls (calls later : List Call) :
    let layout := afterCalls calls
    (∀ name location, layout.location? name = some location ↔
        ∃ i slots, introduced? calls i = some (name, slots) ∧ location = slotsBefore calls i) ∧
      (slotsBefore calls calls.length < 2 ^ 32 →
        ∀ i ≤ calls.length, (wordsBefore calls i).toNat = slotsBefore calls i) ∧
      (∀ i j name other slots slots', introduced? calls i = some (name, slots) →
        introduced? calls j = some (other, slots') → name ≠ other →
          Disjoint (Finset.Ico (slotsBefore calls i) (slotsBefore calls i + slots))
            (Finset.Ico (slotsBefore calls j) (slotsBefore calls j + slots'))) ∧
      (∀ name location, layout.location? name = some location →
        (afterCalls (calls ++ later)).location? name = some location) ∧
      ∀ {σ : Type} (renderer : Renderer σ) (property : Property), renderer.vertexLayout = layout →
        (Outcome.state (renderer.specifyVertexBuffer property)).vertexLayout =
            afterCalls (calls ++ [renderer.callFor property]) ∧
          renderer.Specifies property (renderer.specifyVertexBuffer property) := by
  intro layout
  refine ⟨fun _ _ => location?_afterCalls, fun htotal i hi => ?_,
    fun _ _ _ _ _ _ hi hj hne => disjoint_of_introduced? hi hj hne,
    fun _ _ => location?_afterCalls_append later, fun renderer property hlayout => ?_⟩
  · exact toNat_wordsBefore (Nat.lt_of_le_of_lt (slotsBefore_mono hi) htotal)
  · have hspecifies := renderer.specifies property
    refine ⟨?_, hspecifies⟩
    rw [hspecifies.after, hlayout, afterCalls_snoc]

/-- One call fails, and one comes again with another type.  Neither takes a slot. -/
theorem VertexLayout.locations_of_calls_mesh :
    let calls := meshComponents.map (Call.mk .empty .ofBasics)
    slotsBefore calls calls.length = 6 ∧
      (∀ i ≤ calls.length, (wordsBefore calls i).toNat = slotsBefore calls i) ∧
      introduced? calls 2 = none ∧ introduced? calls 3 = none ∧
      (afterCalls calls).location? "position" = some 0 ∧
      (afterCalls calls).location? "instance" = some 1 ∧
      (afterCalls calls).location? "weight" = some 5 ∧
      Disjoint (Finset.Ico (slotsBefore calls 1) (slotsBefore calls 1 + 4))
        (Finset.Ico (slotsBefore calls 4) (slotsBefore calls 4 + 1)) := by
  intro calls
  obtain ⟨hlocations, hwords, hdisjoint, -, -⟩ := locations_of_calls calls []
  have htotal : slotsBefore calls calls.length = 6 := by decide +kernel
  have hinstance : introduced? calls 1 = some ("instance", 4) := by decide +kernel
  have hweight : introduced? calls 4 = some ("weight", 1) := by decide +kernel
  exact ⟨htotal, hwords (by rw [htotal]; decide), by decide +kernel, by decide +kernel,
    (hlocations _ _).2 ⟨0, 1, by decide +kernel, by decide +kernel⟩,
    (hlocations _ _).2 ⟨1, 4, hinstance, by decide +kernel⟩,
    (hlocations _ _).2 ⟨4, 1, hweight, by decide +kernel⟩,
    hdisjoint 1 4 _ _ 4 1 hinstance hweight (by decide)⟩

end ShaderWeave
