import Mathlib.Logic.Relation
import ShaderWeave.Proofs.Growth

/-!
# Consistent registries

A registry changes by three calls: a type is specified, a conversion is registered by hand, or a
host type is converted (`RegistryCall`).  Calls by hand bring keys along, and those must be keys
that the registry has issued by then (`Registry.KeysIssued`).  Any other key stands for nothing yet,
and may come to stand for a type that has nothing to do with it.

* `Registry.Consistent` — between calls no registration is pending, keys point to records, and the
  keys in a type were issued before its own.  So no type contains itself, however deep
  (`Registry.Closed.acyclic`).
* `Registry.Retains` — records stay as they are.  Calls by hand may give a host type another
  conversion, but do not touch the one it had.
* `Registry.consistent_of_calls` — **every call keeps a registry consistent and its records as they
  are; a conversion also keeps which conversion each host type has, and gives its own host type none
  when it fails.**
-/

namespace ShaderWeave

namespace Registry

variable {registry registry' registry'' : Registry} {catalogue : Catalogue} {host : HostType}

/-! ## Types in types -/

/-- The key of the second type is in the first. -/
def DependsOn (registry : Registry) (key other : TypeKey) : Prop :=
  other ∈ (registry.type key).references

/-- Nothing is pending, keys point to records, and no type contains itself. -/
structure Consistent (registry : Registry) : Prop where
  idle : registry.pending = []
  closed : registry.Closed
  acyclic (key : TypeKey) : ¬ Relation.TransGen registry.DependsOn key key

lemma Closed.lt_of_dependsOn (h : registry.Closed) {key other : TypeKey}
    (hdepends : registry.DependsOn key other) : other.index < key.index := by
  rw [DependsOn, Registry.type] at hdepends
  cases htype : registry.types[key.index]? with
  | none =>
      rw [htype] at hdepends
      cases hdepends
  | some type =>
      rw [htype] at hdepends
      exact h.references htype other hdepends

lemma Closed.acyclic (h : registry.Closed) (key : TypeKey) :
    ¬ Relation.TransGen registry.DependsOn key key := by
  intro hcycle
  -- Keys fall along every path.
  have hfalls : ∀ other, Relation.TransGen registry.DependsOn key other →
      other.index < key.index := by
    intro other hpath
    induction hpath with
    | single hstep => exact h.lt_of_dependsOn hstep
    | tail _ hstep ih => exact Nat.lt_trans (h.lt_of_dependsOn hstep) ih
  exact Nat.lt_irrefl _ (hfalls key hcycle)

lemma Closed.consistent (h : registry.Closed) (hidle : registry.pending = []) :
    registry.Consistent :=
  ⟨hidle, h, h.acyclic⟩

/-! ## Records -/

/-- No record is lost or changed. -/
structure Retains (registry registry' : Registry) : Prop where
  types {index : Nat} {type : GpuType} :
    registry.types[index]? = some type → registry'.types[index]? = some type
  conversions {index : Nat} {conversion : Conversion} :
    registry.conversions[index]? = some conversion → registry'.conversions[index]? = some conversion

lemma Retains.refl (registry : Registry) : registry.Retains registry := ⟨id, id⟩

lemma Retains.trans (h : registry.Retains registry') (h' : registry'.Retains registry'') :
    registry.Retains registry'' :=
  ⟨h'.types ∘ h.types, h'.conversions ∘ h.conversions⟩

lemma getElem?_push_of_some {α : Type} {records : Array α} {index : Nat} {record new : α}
    (h : records[index]? = some record) : (records.push new)[index]? = some record := by
  have hlt := (Array.getElem?_eq_some_iff.1 h).1
  rw [Array.getElem?_push, if_neg (Nat.ne_of_lt hlt), h]

lemma Extends.retains (h : registry.Extends registry') : registry.Retains registry' :=
  ⟨h.types, h.conversions⟩

/-! ## One conversion -/

/-- A consistent registry is a base that conversions let grow. -/
lemma Consistent.grows_afterConvert (h : registry.Consistent) (catalogue : Catalogue)
    (host : HostType) :
    Grows registry catalogue registry (afterConvert catalogue registry host) :=
  Registry.grows_afterConvert (Grown.refl h.closed)

/-- A host type whose conversion fails is pending while others are registered, so it gets no
conversion on the way. -/
lemma key?_of_convertWithin_error {base : Registry} {depth : Nat} {error : SpecificationError}
    (hgrown : Grown base catalogue registry)
    (h : convertWithin catalogue depth host registry = .error error registry') :
    registry'.key? host = none := by
  cases hkey : registry.key? host with
  | some key =>
      rw [convertWithin_of_some hkey] at h
      cases h
  | none =>
      by_cases hpending : host ∈ registry.pending
      · rw [convertWithin_of_pending hkey hpending] at h
        cases h
        exact hkey
      · cases depth with
        | zero =>
            rw [convertWithin_zero hkey] at h
            cases h
            exact hkey
        | succ depth =>
            rw [convertWithin_succ hkey hpending] at h
            cases hfollow : (recipe host (catalogue.shape host)).follow
                (convertWithin catalogue depth) [] (registry.begin host) with
            | ok key after =>
                rw [hfollow] at h
                cases h
            | error error after =>
                rw [hfollow] at h
                cases h
                have hgrows := follow_error (convertWithin_lawful depth) (hgrown.begin host) hfollow
                exact hgrows.waiting host List.mem_cons_self hkey

end Registry

/-! ## Calls -/

/-- A call that may change a registry. -/
inductive RegistryCall where
  | specify (type : GpuType)
  | register (host : HostType) (conversion : Conversion)
  | convert (host : HostType)

namespace RegistryCall

variable {registry : Registry} {catalogue : Catalogue}

/-- The registry after a call, whether it succeeds or fails. -/
def run (catalogue : Catalogue) (registry : Registry) : RegistryCall → Registry
  | specify type => (registry.specify type).2
  | register host conversion => (registry.register host conversion).2
  | convert host => Registry.afterConvert catalogue registry host

/-- The keys that a call brings along. -/
def keys : RegistryCall → List TypeKey
  | specify type => type.references
  | register _ conversion => [conversion.type]
  | convert _ => []

lemma consistent_run (h : registry.Consistent) {call : RegistryCall}
    (hissued : ∀ key ∈ call.keys, key.index < registry.types.size) :
    (call.run catalogue registry).Consistent := by
  cases call with
  | specify type => exact (h.closed.specify type hissued).consistent h.idle
  | register host conversion =>
      have htype := hissued conversion.type (List.mem_singleton_self _)
      exact (h.closed.register host conversion htype).consistent h.idle
  | convert host =>
      obtain ⟨hgrown, -, hpending, -⟩ := h.grows_afterConvert catalogue host
      exact hgrown.closed.consistent (hpending.trans h.idle)

lemma retains_run (h : registry.Consistent) (call : RegistryCall) :
    registry.Retains (call.run catalogue registry) := by
  cases call with
  | specify type => exact ⟨Registry.getElem?_push_of_some, id⟩
  | register host conversion => exact ⟨id, Registry.getElem?_push_of_some⟩
  | convert host => exact (h.grows_afterConvert catalogue host).extends_start.retains

end RegistryCall

namespace Registry

variable {registry : Registry} {catalogue : Catalogue}

/-- The registry after calls. -/
def afterCalls (catalogue : Catalogue) (registry : Registry) (calls : List RegistryCall) :
    Registry :=
  calls.foldl (RegistryCall.run catalogue) registry

/-- Each of the calls brings only keys along that the registry has issued by then. -/
def KeysIssued (catalogue : Catalogue) : Registry → List RegistryCall → Prop
  | _, [] => True
  | registry, call :: calls =>
    (∀ key ∈ call.keys, key.index < registry.types.size) ∧
      KeysIssued catalogue (call.run catalogue registry) calls

instance decidableKeysIssued (catalogue : Catalogue) :
    (registry : Registry) → (calls : List RegistryCall) →
      Decidable (KeysIssued catalogue registry calls)
  | _, [] => .isTrue trivial
  | registry, call :: calls =>
    have := decidableKeysIssued catalogue (call.run catalogue registry) calls
    inferInstanceAs (Decidable (_ ∧ _))

lemma keysIssued_append {calls later : List RegistryCall} :
    KeysIssued catalogue registry (calls ++ later) ↔
      KeysIssued catalogue registry calls ∧
        KeysIssued catalogue (afterCalls catalogue registry calls) later := by
  induction calls generalizing registry with
  | nil => exact (true_and _).symm.to_iff
  | cons call calls ih =>
      rw [List.cons_append, KeysIssued, KeysIssued, ih, and_assoc]
      rfl

lemma afterCalls_append (calls later : List RegistryCall) :
    afterCalls catalogue registry (calls ++ later) =
      afterCalls catalogue (afterCalls catalogue registry calls) later :=
  List.foldl_append

lemma consistent_ofBasics : ofBasics.Consistent := closed_ofBasics.consistent rfl

lemma Consistent.afterCalls (h : registry.Consistent) {calls : List RegistryCall}
    (hissued : KeysIssued catalogue registry calls) :
    (afterCalls catalogue registry calls).Consistent := by
  induction calls generalizing registry with
  | nil => exact h
  | cons call calls ih => exact ih (RegistryCall.consistent_run h hissued.1) hissued.2

lemma retains_afterCalls (h : registry.Consistent) {calls : List RegistryCall}
    (hissued : KeysIssued catalogue registry calls) :
    registry.Retains (afterCalls catalogue registry calls) := by
  induction calls generalizing registry with
  | nil => exact Retains.refl registry
  | cons call calls ih =>
      have hrest := ih (RegistryCall.consistent_run h hissued.1) hissued.2
      exact (RegistryCall.retains_run h call).trans hrest

/-- **Registries stay consistent.**  Start with the basic types and take any calls whose keys the
registry has issued.  After each of them the registry is consistent, no later call changes a record,
and no conversion changes which conversion a host type has or gives one to its own host type when it
fails. -/
theorem consistent_of_calls (catalogue : Catalogue) (calls later : List RegistryCall)
    (hissued : KeysIssued catalogue ofBasics (calls ++ later)) :
    let registry := afterCalls catalogue ofBasics calls
    registry.Consistent ∧ registry.Retains (afterCalls catalogue ofBasics (calls ++ later)) ∧
      ∀ host,
        (∀ other key, registry.key? other = some key →
          (afterConvert catalogue registry host).key? other = some key) ∧
        ∀ error after, convert catalogue host registry = .error error after →
          after.key? host = none := by
  intro registry
  obtain ⟨hcalls, hlater⟩ := keysIssued_append.1 hissued
  have hconsistent : registry.Consistent := consistent_ofBasics.afterCalls hcalls
  refine ⟨hconsistent, ?_, fun host => ⟨fun other key => ?_, fun error after => ?_⟩⟩
  · rw [afterCalls_append]
    exact retains_afterCalls hconsistent hlater
  · exact (hconsistent.grows_afterConvert catalogue host).extends_start.keys
  · exact key?_of_convertWithin_error (Grown.refl hconsistent.closed)

/-- A color, which is registered by hand. -/
def tint : HostType := .declared "Tint" 16 16

/-- A lantern has a tint. -/
def lantern : HostType := .declared "Lantern" 16 16

/-- A torch has a place and a tint. -/
def torch : HostType := .declared "Torch" 32 16

/-- A lantern, a torch and what follows.  It contains itself. -/
def torchChain : HostType := .declared "TorchChain" 64 16

def torches : Catalogue :=
  ⟨[(lantern, .fields [⟨"tint", tint⟩]),
    (torch, .fields [⟨"place", .vec4⟩, ⟨"tint", tint⟩]),
    (torchChain, .fields [⟨"end", lantern⟩, ⟨"first", torch⟩, ⟨"rest", torchChain⟩])]⟩

/-- The type of tints has the key of vectors in it. -/
def tintCalls : List RegistryCall :=
  [.specify { valueName := "Tint", body := "\tvec4 color;\n", layout := { size := 16, align := 16 },
              dependencies := (ofBasics.typeKey? .vec4).toList },
    .register tint { type := ⟨ofBasics.types.size⟩ }]

/-- Chains of torches are refused, but lanterns and torches are registered on the way. -/
def torchCalls : List RegistryCall := tintCalls ++ [.convert torchChain]

theorem consistent_of_calls_torches :
    (afterCalls torches ofBasics torchCalls).types.size = ofBasics.types.size + 3 ∧
      Outcome.succeeds (convert torches torchChain (afterCalls torches ofBasics torchCalls)) =
        false ∧
      (afterCalls torches ofBasics torchCalls).Consistent ∧
      (afterCalls torches ofBasics torchCalls).Retains
        (afterCalls torches ofBasics (torchCalls ++ [.convert torchChain])) ∧
      ∀ error after,
        convert torches torchChain (afterCalls torches ofBasics torchCalls) = .error error after →
          after.key? torchChain = none := by
  obtain ⟨hconsistent, hretains, hconvert⟩ :=
    consistent_of_calls torches torchCalls [.convert torchChain] (by decide +kernel)
  exact ⟨by decide +kernel, by decide +kernel, hconsistent, hretains, (hconvert torchChain).2⟩

end Registry

end ShaderWeave
