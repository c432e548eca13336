import Mathlib.Order.Bounds.Basic
import ShaderWeave.Proofs.Consistency
import ShaderWeave.Proofs.StorageLayout

/-!
# Structs in structs

A derived struct is laid out from the sizes and alignments of its members alone, and only the totals
are kept.  Where the numbers in it come to stand, through all the structs inside it, follows from
the totals of each level.

* `Registry.Spread` — the members of a struct, and the basic values that they consist of in the end
  (`Leaf`), each where the running totals put it.
* `Leaf.Row` — values one after the other, each aligned as std140 asks and none over the next.  Rows
  can be put after one another (`Leaf.Row.append`) and **moved by multiples of 16**
  (`Leaf.Row.shift`), because all std140 alignments divide 16.
* `Registry.Nested` — host types that are made of basic values and of aggregates described field by
  field, none of which was registered by hand.  `Registry.Settled` says what a registry holds for
  them, whatever calls came before, and `Registry.Spread.row` that their values form a row.
-/

namespace ShaderWeave

/-! ## Values in a row -/

lemma Extent.widest_le {members : List Extent} {bound : Nat} (hbound : 1 ≤ bound)
    (h : ∀ member ∈ members, member.align ≤ bound) : widest members ≤ bound := by
  suffices hmax : ∀ start ≤ bound, (members.map align).foldl max start ≤ bound from hmax 1 hbound
  induction members with
  | nil => exact fun start hstart => hstart
  | cons member rest ih =>
      obtain ⟨hmember, hrest⟩ := List.forall_mem_cons.1 h
      exact fun start hstart => ih hrest _ (Nat.max_le.2 ⟨hstart, hmember⟩)

/-- The std140 extent of a basic type, if it can be a member. -/
def BasicType.extent140 : BasicType → Option Extent
  | void | texture => none
  | scalar _ => some ⟨4, 4⟩
  | vector _ .two => some ⟨8, 8⟩
  | vector _ .three => some ⟨12, 16⟩
  | vector _ .four => some ⟨16, 16⟩
  | matrix dim => some ⟨16 * dim.toNat, 16⟩

lemma BasicType.align_dvd_of_extent140 {type : BasicType} {extent : Extent}
    (h : type.extent140 = some extent) : extent.align ∣ 16 := by
  unfold extent140 at h
  split at h <;> cases h
  all_goals simp

/-- A basic value inside a struct. -/
structure Leaf where
  type : BasicType
  /-- Where it starts. -/
  offset : Nat
deriving DecidableEq, Repr

namespace Leaf

/-- The value in a struct that itself stands at an offset. -/
def shift (start : Nat) (leaf : Leaf) : Leaf := { leaf with offset := start + leaf.offset }

/-- Values in order of their offsets, from one offset to another.  Each is aligned as std140 asks,
and the next starts where it has ended. -/
inductive Row : Nat → List Leaf → Nat → Prop where
  | nil {low high : Nat} (hle : low ≤ high) : Row low [] high
  | cons {low high : Nat} {leaf : Leaf} {rest : List Leaf} {extent : Extent}
      (hextent : leaf.type.extent140 = some extent) (hdvd : extent.align ∣ leaf.offset)
      (hle : low ≤ leaf.offset) (hrest : Row (leaf.offset + extent.size) rest high) :
      Row low (leaf :: rest) high

namespace Row

variable {low middle high : Nat} {leaves leaves' : List Leaf}

lemma le (h : Row low leaves high) : low ≤ high := by
  induction h with
  | nil hle => exact hle
  | cons _ _ hle _ ih => omega

lemma widen (h : Row low leaves middle) (hle : middle ≤ high) : Row low leaves high := by
  induction h with
  | nil hle' => exact .nil (Nat.le_trans hle' hle)
  | cons hextent hdvd hle' _ ih => exact .cons hextent hdvd hle' (ih hle)

lemma of_le (h : Row middle leaves high) (hle : low ≤ middle) : Row low leaves high := by
  cases h with
  | nil hle' => exact .nil (Nat.le_trans hle hle')
  | cons hextent hdvd hle' hrest => exact .cons hextent hdvd (Nat.le_trans hle hle') hrest

lemma append (h : Row low leaves middle) (h' : Row middle leaves' high) :
    Row low (leaves ++ leaves') high := by
  induction h with
  | nil hle => exact h'.of_le hle
  | cons hextent hdvd hle _ ih => exact .cons hextent hdvd hle (ih h')

lemma shift (h : Row low leaves high) {start : Nat} (hstart : 16 ∣ start) :
    Row (start + low) (leaves.map (Leaf.shift start)) (start + high) := by
  induction h with
  | nil hle => exact .nil (Nat.add_le_add_left hle start)
  | cons hextent hdvd hle _ ih =>
      have halign := BasicType.align_dvd_of_extent140 hextent
      refine .cons hextent (Nat.dvd_add (Nat.dvd_trans halign hstart) hdvd)
        (Nat.add_le_add_left hle start) ?_
      rw [Leaf.shift, Nat.add_assoc]
      exact ih

/-- Each value in a row is aligned and stands between the ends of the row. -/
lemma mem (h : Row low leaves high) {leaf : Leaf} (hleaf : leaf ∈ leaves) :
    ∃ extent, leaf.type.extent140 = some extent ∧ extent.align ∣ leaf.offset ∧
      low ≤ leaf.offset ∧ leaf.offset + extent.size ≤ high := by
  induction h with
  | nil _ => cases hleaf
  | @cons low high first rest extent hextent hdvd hle hrest ih =>
      rcases List.mem_cons.1 hleaf with rfl | hleaf
      · exact ⟨extent, hextent, hdvd, hle, hrest.le⟩
      · obtain ⟨other, hother, hdvd, hlow, hhigh⟩ := ih hleaf
        exact ⟨other, hother, hdvd, by omega, hhigh⟩

/-- No value in a row reaches into a later one. -/
lemma pairwise (h : Row low leaves high) :
    leaves.Pairwise fun leaf later => ∀ extent, leaf.type.extent140 = some extent →
      leaf.offset + extent.size ≤ later.offset := by
  induction h with
  | nil _ => exact .nil
  | cons hextent _ _ hrest ih =>
      refine .cons (fun later hlater extent hextent' => ?_) ih
      rw [hextent] at hextent'
      cases hextent'
      obtain ⟨-, -, -, hlow, -⟩ := hrest.mem hlater
      exact hlow

end Row

end Leaf

/-- The host type that a call registers by hand. -/
def RegistryCall.given? : RegistryCall → Option HostType
  | register host _ => some host
  | _ => none

namespace Registry

variable {catalogue : Catalogue} {registry registry' : Registry} {given : List HostType}
  {host : HostType} {fields : List Field} {types : List GpuType} {struct : GpuType}

/-! ## Types made of basic values -/

/-- A host type is a basic value, or an aggregate that describes its fields and has only such types
in them.  None of them is among the given ones. -/
inductive Nested (catalogue : Catalogue) (given : List HostType) : HostType → Prop where
  | basic {type : BasicType} {extent : Extent} (hextent : type.extent140 = some extent)
      (hnot : .basic type ∉ given) : Nested catalogue given (.basic type)
  | declared {name : String} {size align : Nat} {fields : List Field}
      (hshape : catalogue.shape (.declared name size align) = .fields fields)
      (hnot : .declared name size align ∉ given)
      (hfields : ∀ field ∈ fields, Nested catalogue given field.type) :
      Nested catalogue given (.declared name size align)

namespace Nested

lemma not_mem (h : Nested catalogue given host) : host ∉ given := by
  cases h with
  | basic _ hnot => exact hnot
  | declared _ hnot _ => exact hnot

lemma field {name : String} {size align : Nat}
    (h : Nested catalogue given (.declared name size align))
    (hshape : catalogue.shape (.declared name size align) = .fields fields) :
    ∀ field ∈ fields, Nested catalogue given field.type := by
  cases h with
  | declared hshape' _ hfields =>
      rw [hshape'] at hshape
      cases hshape
      exact hfields

end Nested

/-- What a registry holds for types that were not registered by hand: basic types as at the start,
and structs of their fields. -/
structure Settled (catalogue : Catalogue) (given : List HostType) (registry : Registry) : Prop where
  basic {type : BasicType} {extent : Extent} (hextent : type.extent140 = some extent)
    (hnot : .basic type ∉ given) :
    ∃ gpu, registry.typeOf? (.basic type) = some gpu ∧ gpu.extent = extent
  declared {name : String} {size align : Nat} {fields : List Field} {struct : GpuType}
    (hnested : Nested catalogue given (.declared name size align))
    (hshape : catalogue.shape (.declared name size align) = .fields fields)
    (hstruct : registry.typeOf? (.declared name size align) = some struct) :
    ∃ types, Accepted registry (.declared name size align) fields types struct

lemma Accepted.of_typeOf? (h : Accepted registry host fields types struct)
    (hhost : registry'.typeOf? host = some struct)
    (hfields : ∀ field ∈ fields, ∀ type, registry.typeOf? field.type = some type →
      registry'.typeOf? field.type = some type) :
    Accepted registry' host fields types struct := by
  refine { h with members := ?_, registered := hhost }
  have hmembers := h.members
  clear h hhost
  induction hmembers with
  | nil => exact .nil
  | cons hfirst _ ih =>
      refine .cons ⟨hfields _ List.mem_cons_self _ hfirst.1, hfirst.2⟩ (ih ?_)
      exact fun field hfield => hfields field (List.mem_cons_of_mem _ hfield)

/-- A host type whose conversion and records are kept keeps its GPU type. -/
lemma Retains.typeOf? (h : registry.Retains registry') (hclosed : registry.Closed)
    (hkeys : ∀ key, registry.key? host = some key → registry'.key? host = some key)
    {type : GpuType} (htype : registry.typeOf? host = some type) :
    registry'.typeOf? host = some type := by
  obtain ⟨conversion, hlookup, rfl⟩ := Option.map_eq_some_iff.1 htype
  obtain ⟨key, hkey, hconversion⟩ := (lookup?_eq_some hclosed).1 hlookup
  have hsome := Array.getElem?_eq_getElem (hclosed.conversions hconversion)
  rw [Registry.typeOf?, lookup?, hkeys key hkey, Option.map_some, Registry.conversion,
    h.conversions hconversion, Option.getD_some, Option.map_some, Registry.type, Registry.type,
    h.types hsome, hsome]

lemma typeOf?_eq_none : registry.typeOf? host = none ↔ registry.key? host = none := by
  simp [typeOf?, lookup?]

lemma settled_ofBasics : Settled catalogue given ofBasics where
  basic {type extent} hextent _ := by
    have htable : ∀ type ∈ BasicType.all, ∀ extent ∈ type.extent140.toList,
        ∃ gpu ∈ (ofBasics.typeOf? (.basic type)).toList, gpu.extent = extent := by
      decide +kernel
    obtain ⟨gpu, hgpu, hsame⟩ := htable type (BasicType.mem_all type) extent (by simp [hextent])
    exact ⟨gpu, by simpa using hgpu, hsame⟩
  declared _ _ hstruct := by
    rw [typeOf?_eq_none.2 (key?_ofBasics_declared _ _ _)] at hstruct
    cases hstruct

namespace Settled

variable (h : Settled catalogue given registry)
include h

/-- A registry stays settled if types that were not registered by hand keep what they have, and get
what they lack as structs of their fields. -/
lemma step
    (hkeep : ∀ other ∉ given, ∀ type, registry.typeOf? other = some type →
      registry'.typeOf? other = some type)
    (hnew : ∀ other ∉ given, registry.key? other = none → ∀ fields struct,
      catalogue.shape other = .fields fields → registry'.typeOf? other = some struct →
      ∃ types, Accepted registry' other fields types struct) :
    Settled catalogue given registry' where
  basic hextent hnot := by
    obtain ⟨gpu, hgpu, hsame⟩ := h.basic hextent hnot
    exact ⟨gpu, hkeep _ hnot gpu hgpu, hsame⟩
  declared {name size align fields struct} hnested hshape hstruct := by
    cases hbefore : registry.typeOf? (.declared name size align) with
    | none => exact hnew _ hnested.not_mem (typeOf?_eq_none.1 hbefore) fields struct hshape hstruct
    | some struct' =>
        rw [hkeep _ hnested.not_mem _ hbefore] at hstruct
        cases hstruct
        obtain ⟨types, haccepted⟩ := h.declared hnested hshape hbefore
        exact ⟨types, haccepted.of_typeOf? (hkeep _ hnested.not_mem _ hbefore)
          fun field hfield => hkeep _ (hnested.field hshape field hfield).not_mem⟩

/-- A call by hand gives conversions to no other types. -/
lemma of_same_keys (hclosed : registry.Closed) (hretains : registry.Retains registry')
    (hkeys : ∀ other ∉ given, registry'.key? other = registry.key? other) :
    Settled catalogue given registry' := by
  refine h.step (fun other hother type => ?_) fun other hother hnone fields struct _ hstruct => ?_
  · exact hretains.typeOf? hclosed fun key hkey => (hkeys other hother).trans hkey
  · rw [typeOf?_eq_none.2 ((hkeys other hother).trans hnone)] at hstruct
    cases hstruct

/-- What one call keeps. -/
lemma run (hconsistent : registry.Consistent) {call : RegistryCall}
    (hgiven : ∀ host, call.given? = some host → host ∈ given) :
    Settled catalogue given (call.run catalogue registry) := by
  have hretains : registry.Retains (call.run catalogue registry) :=
    RegistryCall.retains_run hconsistent call
  cases call with
  | specify type => exact h.of_same_keys hconsistent.closed hretains fun _ _ => rfl
  | register host conversion =>
      refine h.of_same_keys hconsistent.closed hretains fun other hother => ?_
      have hne : host ≠ other := fun heq => hother (heq ▸ hgiven host rfl)
      exact (key?_assign _ host other _).trans (if_neg hne)
  | convert host =>
      have hgrows := hconsistent.grows_afterConvert catalogue host
      refine h.step (fun other _ type => hgrows.extends_start.typeOf? hconsistent.closed) ?_
      intro other _ hnone fields struct hshape hstruct
      exact accepted_of_new hgrows.grown hnone hshape hstruct

/-- What calls keep. -/
lemma afterCalls (hconsistent : registry.Consistent) {calls : List RegistryCall}
    (hissued : KeysIssued catalogue registry calls)
    (hgiven : ∀ host ∈ calls.filterMap RegistryCall.given?, host ∈ given) :
    Settled catalogue given (Registry.afterCalls catalogue registry calls) := by
  induction calls generalizing registry with
  | nil => exact h
  | cons call calls ih =>
      have hcall : ∀ host, call.given? = some host → host ∈ given :=
        fun host hhost => hgiven host (List.mem_filterMap.2 ⟨call, List.mem_cons_self, hhost⟩)
      refine ih (h.run hconsistent hcall) (RegistryCall.consistent_run hconsistent hissued.1)
        hissued.2 fun host hhost => hgiven host ?_
      obtain ⟨other, hother, hhost⟩ := List.mem_filterMap.1 hhost
      exact List.mem_filterMap.2 ⟨other, List.mem_cons_of_mem _ hother, hhost⟩

end Settled

/-! ## The values in a struct -/

/-- The members of a struct from an offset on, with where each of them starts and with the basic
values in them.  Members go where the running totals of `Members.add` put them. -/
inductive Spread (catalogue : Catalogue) (registry : Registry) :
    Nat → List HostType → List Nat → List Leaf → Prop where
  | nil {offset : Nat} : Spread catalogue registry offset [] [] []
  | value {offset : Nat} {type : BasicType} {gpu : GpuType} {rest : List HostType}
      {starts : List Nat} {leaves : List Leaf}
      (htype : registry.typeOf? (.basic type) = some gpu)
      (hrest : Spread catalogue registry (gpu.layout.place offset + gpu.layout.size) rest starts
        leaves) :
      Spread catalogue registry offset (.basic type :: rest) (gpu.layout.place offset :: starts)
        (⟨type, gpu.layout.place offset⟩ :: leaves)
  | aggregate {offset : Nat} {name : String} {size align : Nat} {fields : List Field}
      {gpu : GpuType} {rest : List HostType} {starts innerStarts : List Nat}
      {leaves inner : List Leaf}
      (hshape : catalogue.shape (.declared name size align) = .fields fields)
      (htype : registry.typeOf? (.declared name size align) = some gpu)
      (hinner : Spread catalogue registry 0 (fields.map Field.type) innerStarts inner)
      (hrest : Spread catalogue registry (gpu.layout.place offset + gpu.layout.size) rest starts
        leaves) :
      Spread catalogue registry offset (.declared name size align :: rest)
        (gpu.layout.place offset :: starts)
        (inner.map (Leaf.shift (gpu.layout.place offset)) ++ leaves)

/-- Each of the members starts at the least multiple of its alignment that the members before it
have left free. -/
def Tight (registry : Registry) : Nat → List HostType → List Nat → Prop
  | _, [], [] => True
  | free, host :: hosts, start :: starts => ∃ gpu, registry.typeOf? host = some gpu ∧
      IsLeast {offset | gpu.layout.align ∣ offset ∧ free ≤ offset} start ∧
      Tight registry (start + gpu.layout.size) hosts starts
  | _, _, _ => False

/-! ## Alignments -/

lemma Accepted.exists_field (h : Accepted registry host fields types struct) :
    ∀ type ∈ types, ∃ field ∈ fields, registry.typeOf? field.type = some type := by
  have hmembers := h.members
  clear h
  induction hmembers with
  | nil => simp
  | @cons field type _ _ hfirst _ ih =>
      intro other hother
      rcases List.mem_cons.1 hother with rfl | hother
      · exact ⟨field, List.mem_cons_self, hfirst.1⟩
      · obtain ⟨found, hfound, htype⟩ := ih other hother
        exact ⟨found, List.mem_cons_of_mem _ hfound, htype⟩

lemma Accepted.reach_le (h : Accepted registry host fields types struct) :
    Extent.reach 0 (gpuMembers types) ≤ struct.layout.size :=
  calc Extent.reach 0 (gpuMembers types) ≤ (Extent.struct 16 (gpuMembers types)).size :=
        Extent.reach_le_size (by decide) _
    _ = struct.layout.size := by rw [← h.extent]; rfl

lemma Accepted.align_dvd_size (h : Accepted registry host fields types struct) :
    struct.layout.align ∣ struct.layout.size := by
  change struct.extent.align ∣ struct.extent.size
  rw [h.extent]
  exact dvd_roundUp _ _

/-- A struct whose members are aligned to 16 bytes at most is aligned to 16 bytes. -/
lemma Accepted.align_eq (h : Accepted registry host fields types struct)
    (hfields : ∀ field ∈ fields, ∀ type, registry.typeOf? field.type = some type →
      type.layout.align ≤ 16) : struct.layout.align = 16 := by
  have hwidest : Extent.widest (gpuMembers types) ≤ 16 := by
    apply Extent.widest_le (by decide)
    intro member hmember
    obtain ⟨type, htype, rfl⟩ := List.mem_map.1 hmember
    obtain ⟨field, hfield, htypeOf⟩ := h.exists_field type htype
    exact hfields field hfield type htypeOf
  calc struct.layout.align = (Extent.struct 16 (gpuMembers types)).align := by rw [← h.extent]; rfl
    _ = roundUp (Extent.widest (gpuMembers types)) 16 := rfl
    _ = 16 := by
      have hpos := Extent.widest_pos (gpuMembers types)
      exact (roundUp_eq_iff (by decide) (Nat.dvd_refl 16) hwidest).2 (by omega)

namespace Settled

variable (h : Settled catalogue given registry)
include h

lemma extent_basic {type : BasicType} {extent : Extent} {gpu : GpuType}
    (hextent : type.extent140 = some extent) (hnot : .basic type ∉ given)
    (hgpu : registry.typeOf? (.basic type) = some gpu) : gpu.extent = extent := by
  obtain ⟨gpu', hgpu', hsame⟩ := h.basic hextent hnot
  rw [hgpu] at hgpu'
  cases hgpu'
  exact hsame

lemma align_dvd (hnested : Nested catalogue given host) {type : GpuType}
    (htype : registry.typeOf? host = some type) : type.layout.align ∣ 16 := by
  induction hnested generalizing type with
  | basic hextent hnot =>
      have hdvd := BasicType.align_dvd_of_extent140 hextent
      rw [← h.extent_basic hextent hnot htype] at hdvd
      exact hdvd
  | declared hshape hnot hfields ih =>
      obtain ⟨types, haccepted⟩ := h.declared (.declared hshape hnot hfields) hshape htype
      have halign : type.layout.align = 16 := haccepted.align_eq fun field hfield type htype =>
        Nat.le_of_dvd (by decide) (ih field hfield htype)
      simp [halign]

lemma align_pos (hnested : Nested catalogue given host) {type : GpuType}
    (htype : registry.typeOf? host = some type) : 0 < type.layout.align :=
  Nat.pos_of_dvd_of_pos (h.align_dvd hnested htype) (by decide)

/-- Structs are accepted with an alignment of 16. -/
lemma accepted {name : String} {size align : Nat}
    (hnested : Nested catalogue given (.declared name size align))
    (hshape : catalogue.shape (.declared name size align) = .fields fields)
    (hstruct : registry.typeOf? (.declared name size align) = some struct) :
    ∃ types, Accepted registry (.declared name size align) fields types struct ∧
      struct.layout.align = 16 := by
  obtain ⟨types, haccepted⟩ := h.declared hnested hshape hstruct
  refine ⟨types, haccepted, haccepted.align_eq fun field hfield type htype => ?_⟩
  exact Nat.le_of_dvd (by decide) (h.align_dvd (hnested.field hshape field hfield) htype)

end Settled

lemma isLeast_place {layout : GpuLayout} (hpos : 0 < layout.align) (free : Nat) :
    IsLeast {offset | layout.align ∣ offset ∧ free ≤ offset} (layout.place free) := by
  have hstep : layout.step = layout.align := Nat.max_eq_left hpos
  rw [GpuLayout.place, hstep]
  refine ⟨⟨dvd_roundUp _ _, le_roundUp hpos⟩, fun offset hoffset => ?_⟩
  exact roundUp_le_of_dvd hoffset.1 hoffset.2

/-! ## Members and values -/

section Spread

variable {offset : Nat} {hosts : List HostType} {starts : List Nat} {leaves : List Leaf}

lemma Spread.tight (h : Spread catalogue registry offset hosts starts leaves)
    (hsettled : Settled catalogue given registry)
    (hnested : ∀ host ∈ hosts, Nested catalogue given host) :
    registry.Tight offset hosts starts := by
  induction h with
  | nil => trivial
  | value htype _ ih =>
      obtain ⟨hfirst, hothers⟩ := List.forall_mem_cons.1 hnested
      exact ⟨_, htype, isLeast_place (hsettled.align_pos hfirst htype) _, ih hothers⟩
  | aggregate _ htype _ _ _ ih =>
      obtain ⟨hfirst, hothers⟩ := List.forall_mem_cons.1 hnested
      exact ⟨_, htype, isLeast_place (hsettled.align_pos hfirst htype) _, ih hothers⟩

/-- **The values in members form a row.**  A struct starts at a multiple of 16, so the row in it can
be moved there. -/
theorem Spread.row (h : Spread catalogue registry offset hosts starts leaves)
    (hsettled : Settled catalogue given registry)
    (hnested : ∀ host ∈ hosts, Nested catalogue given host)
    (htypes : List.Forall₂ (fun host type => registry.typeOf? host = some type) hosts types) :
    Leaf.Row offset leaves (Extent.reach offset (gpuMembers types)) := by
  induction h generalizing types with
  | nil =>
      cases htypes
      exact .nil (Nat.le_refl _)
  | @value offset type gpu rest starts leaves htype hrest ih =>
      obtain ⟨hfirst, hothers⟩ := List.forall_mem_cons.1 hnested
      obtain ⟨gpu', others, htype', hrest', rfl⟩ := List.forall₂_cons_left_iff.1 htypes
      rw [htype] at htype'
      cases htype'
      obtain ⟨⟨hdvd, hle⟩, -⟩ := isLeast_place (hsettled.align_pos hfirst htype) offset
      cases hfirst with
      | basic hextent hnot =>
          rw [← hsettled.extent_basic hextent hnot htype] at hextent
          exact .cons hextent hdvd hle (ih hothers hrest')
  | @aggregate offset name size align fields gpu rest starts innerStarts leaves inner hshape htype
      hinner hrest ihinner ih =>
      obtain ⟨hfirst, hothers⟩ := List.forall_mem_cons.1 hnested
      obtain ⟨gpu', others, htype', hrest', rfl⟩ := List.forall₂_cons_left_iff.1 htypes
      rw [htype] at htype'
      cases htype'
      obtain ⟨⟨hdvd, hle⟩, -⟩ := isLeast_place (hsettled.align_pos hfirst htype) offset
      obtain ⟨members, haccepted, halign⟩ := hsettled.accepted hfirst hshape htype
      have hrow : Leaf.Row 0 inner gpu.layout.size := by
        refine (ihinner ?_ ?_).widen (haccepted.reach_le)
        · simpa using hfirst.field hshape
        · exact List.forall₂_map_left_iff.2 (haccepted.members.imp fun _ _ h => h.1)
      rw [halign] at hdvd
      exact ((hrow.shift hdvd).of_le hle).append (ih hothers hrest')

/-- Members can be spread if each of them can be put before others. -/
lemma exists_spread_fields {P : GpuType → Prop}
    (hmembers : List.Forall₂ (fun field type => registry.typeOf? field.type = some type ∧ P type)
      fields types)
    (hcons : ∀ field ∈ fields, ∀ {offset rest starts leaves gpu},
      registry.typeOf? field.type = some gpu →
      Spread catalogue registry (gpu.layout.place offset + gpu.layout.size) rest starts leaves →
      ∃ starts leaves, Spread catalogue registry offset (field.type :: rest) starts leaves)
    (offset : Nat) :
    ∃ starts leaves, Spread catalogue registry offset (fields.map Field.type) starts leaves := by
  induction hmembers generalizing offset with
  | nil => exact ⟨[], [], .nil⟩
  | cons hfirst _ ih =>
      obtain ⟨starts, leaves, hrest⟩ :=
        ih (fun field hfield => hcons field (List.mem_cons_of_mem _ hfield)) _
      exact hcons _ List.mem_cons_self hfirst.1 hrest

lemma Settled.exists_spread_cons (h : Settled catalogue given registry)
    (hnested : Nested catalogue given host) {gpu : GpuType}
    (hgpu : registry.typeOf? host = some gpu)
    (hrest : Spread catalogue registry (gpu.layout.place offset + gpu.layout.size) hosts starts
      leaves) :
    ∃ starts leaves, Spread catalogue registry offset (host :: hosts) starts leaves := by
  induction hnested generalizing gpu offset hosts starts leaves with
  | basic _ _ => exact ⟨_, _, .value hgpu hrest⟩
  | declared hshape hnot hfields ih =>
      obtain ⟨types, haccepted⟩ := h.declared (.declared hshape hnot hfields) hshape hgpu
      obtain ⟨innerStarts, inner, hinner⟩ := exists_spread_fields haccepted.members ih 0
      exact ⟨_, _, .aggregate hshape hgpu hinner hrest⟩

end Spread

/-- **Derived structs obey std140 at every depth.**  Start with the basic types and take any calls.
Of an aggregate that consists of basic values and of such aggregates, none of them registered by
hand, the struct is aligned to 16 bytes, and its size is a multiple of 16 and that of the host type.
Its members start as early as they may.  The basic values in it, in the order of their declaration,
are aligned, do not overlap and end within the size. -/
theorem std140_of_calls (catalogue : Catalogue) (calls : List RegistryCall)
    (hissued : KeysIssued catalogue ofBasics calls) {name : String} {size align : Nat}
    {fields : List Field} {struct : GpuType}
    (hshape : catalogue.shape (.declared name size align) = .fields fields)
    (hnested : Nested catalogue (calls.filterMap RegistryCall.given?) (.declared name size align))
    (hstruct : (afterCalls catalogue ofBasics calls).typeOf? (.declared name size align) =
      some struct) :
    let registry := afterCalls catalogue ofBasics calls
    struct.layout.align = 16 ∧ 16 ∣ struct.layout.size ∧ struct.layout.size = size ∧
      (∃ starts leaves, Spread catalogue registry 0 (fields.map Field.type) starts leaves) ∧
      ∀ starts leaves, Spread catalogue registry 0 (fields.map Field.type) starts leaves →
        registry.Tight 0 (fields.map Field.type) starts ∧
        (∀ leaf ∈ leaves, ∃ extent, leaf.type.extent140 = some extent ∧
          extent.align ∣ leaf.offset ∧ leaf.offset + extent.size ≤ struct.layout.size) ∧
        leaves.Pairwise fun leaf later => ∀ extent, leaf.type.extent140 = some extent →
          leaf.offset + extent.size ≤ later.offset := by
  intro registry
  have hsettled : Settled catalogue (calls.filterMap RegistryCall.given?) registry :=
    settled_ofBasics.afterCalls consistent_ofBasics hissued fun _ => id
  obtain ⟨types, haccepted, halign⟩ := hsettled.accepted hnested hshape hstruct
  have hfields := hnested.field hshape
  have hhosts : ∀ host ∈ fields.map Field.type,
      Nested catalogue (calls.filterMap RegistryCall.given?) host := by
    simpa using hfields
  refine ⟨halign, ?_, haccepted.size, ?_, fun starts leaves hspread => ?_⟩
  · rw [← halign]
    exact haccepted.align_dvd_size
  · exact exists_spread_fields haccepted.members
      (fun field hfield => hsettled.exists_spread_cons (hfields field hfield)) 0
  · have hrow : Leaf.Row 0 leaves struct.layout.size :=
      (hspread.row hsettled hhosts (List.forall₂_map_left_iff.2
        (haccepted.members.imp fun _ _ h => h.1))).widen haccepted.reach_le
    refine ⟨hspread.tight hsettled hhosts, fun leaf hleaf => ?_, hrow.pairwise⟩
    obtain ⟨extent, hextent, hdvd, -, hend⟩ := hrow.mem hleaf
    exact ⟨extent, hextent, hdvd, hend⟩

/-- A tile is three numbers and one more, which fits behind them. -/
def tile : HostType := .declared "Tile" 16 16

/-- A panel has a number, a tile, a matrix and two numbers. -/
def panel : HostType := .declared "Panel" 96 16

def panelFields : List Field :=
  [⟨"gain", .float⟩, ⟨"tile", tile⟩, ⟨"turn", .basic (.matrix .three)⟩,
    ⟨"uv", .basic (.vector .float .two)⟩]

def panels : Catalogue :=
  ⟨[(tile, .fields [⟨"normal", .basic (.vector .float .three)⟩, ⟨"bias", .float⟩]),
    (panel, .fields panelFields)]⟩

/-- Panels are converted after tints were registered by hand. -/
def panelCalls : List RegistryCall := tintCalls ++ [.convert panel]

theorem std140_of_calls_panels :
    KeysIssued panels ofBasics panelCalls ∧
      Nested panels (panelCalls.filterMap RegistryCall.given?) panel ∧
      ∃ struct, (afterCalls panels ofBasics panelCalls).typeOf? panel = some struct ∧
        struct.layout.align = 16 ∧ 16 ∣ struct.layout.size ∧ struct.layout.size = 96 ∧
        ∃ starts leaves,
          Spread panels (afterCalls panels ofBasics panelCalls) 0 (panelFields.map Field.type) starts
            leaves ∧
          (∀ leaf ∈ leaves, ∃ extent, leaf.type.extent140 = some extent ∧
            extent.align ∣ leaf.offset ∧ leaf.offset + extent.size ≤ 96) ∧
          leaves.Pairwise fun leaf later => ∀ extent, leaf.type.extent140 = some extent →
            leaf.offset + extent.size ≤ later.offset := by
  have hissued : KeysIssued panels ofBasics panelCalls := by decide +kernel
  have htile : Nested panels (panelCalls.filterMap RegistryCall.given?) tile := by
    refine .declared rfl (by decide) ?_
    simp only [List.forall_mem_cons, List.not_mem_nil, false_implies, implies_true, and_true]
    exact ⟨.basic rfl (by decide), .basic rfl (by decide)⟩
  have hpanel : Nested panels (panelCalls.filterMap RegistryCall.given?) panel := by
    refine .declared rfl (by decide) ?_
    simp only [panelFields, List.forall_mem_cons, List.not_mem_nil, false_implies, implies_true,
      and_true]
    exact ⟨.basic rfl (by decide), htile, .basic rfl (by decide), .basic rfl (by decide)⟩
  have hsome : ((afterCalls panels ofBasics panelCalls).typeOf? panel).isSome = true := by
    decide +kernel
  obtain ⟨struct, hstruct⟩ := Option.isSome_iff_exists.1 hsome
  obtain ⟨halign, hdvd, hsize, ⟨starts, leaves, hspread⟩, hall⟩ :=
    std140_of_calls panels panelCalls hissued rfl hpanel hstruct
  obtain ⟨-, hleaves, hpairwise⟩ := hall starts leaves hspread
  rw [hsize] at hleaves
  exact ⟨hissued, hpanel, struct, hstruct, halign, hdvd, hsize, starts, leaves, hspread, hleaves,
    hpairwise⟩

end Registry

end ShaderWeave
