import ShaderWeave.Proofs.AggregateLayout

/-!
# Storage blocks and the std430 layout

A buffer is accepted when its elements start at the same byte and lie as far apart in host memory and
in the std140 layout.  A storage block is declared `std430`, though, and there structs are packed
more densely: their alignment is not rounded up, and the fields of the header are members of the
block itself.

**Nothing is further away in std430 than in std140** (`Registry.within_of_extent430`), so an accepted
buffer never starts late.  It can start early.  `Registry.storage_of_convert` gives the std430 offset
and stride against those of the host, and says exactly when each pair is equal.
-/

namespace ShaderWeave

/-! ## The std430 layout -/

/-- The std430 extent of a basic type, if it can be a member. -/
def BasicType.extent430 : BasicType → Option Extent
  | void | texture => none
  | scalar _ => some ⟨4, 4⟩
  | vector _ .two => some ⟨8, 8⟩
  | vector _ .three => some ⟨12, 16⟩
  | vector _ .four => some ⟨16, 16⟩
  | matrix .two => some ⟨16, 8⟩
  | matrix .three => some ⟨48, 16⟩
  | matrix .four => some ⟨64, 16⟩

namespace Catalogue

variable (catalogue : Catalogue)

/-- The std430 extent of a type that is made of basic types and of aggregates described field by
field, at most `depth` deep. -/
def extent430 : Nat → HostType → Option Extent
  | _, .basic type => type.extent430
  | 0, .declared .. => none
  | depth + 1, .declared name size align =>
    match catalogue.shape (.declared name size align) with
    | .fields fields =>
      (fields.mapM fun field => extent430 depth field.type).map (Extent.struct 1)
    | _ => none

/-- The members that a type stands for in a block: those of an aggregate, or itself. -/
def members430 (depth : Nat) : HostType → Option (List Extent)
  | .basic type => type.extent430.map fun extent => [extent]
  | .declared name size align =>
    match catalogue.shape (.declared name size align) with
    | .fields fields => fields.mapM fun field => catalogue.extent430 depth field.type
    | _ => none

/-- The members of a block before its elements. -/
def header430 (depth : Nat) (shape : BufferShape) : Option (List Extent) :=
  match shape.header with
  | none => some []
  | some header => catalogue.members430 depth header

end Catalogue

/-! ## Dense layouts -/

namespace Extent

/-- A std430 extent that goes wherever a std140 extent goes, and takes no more bytes. -/
structure Within (extent extent' : Extent) : Prop where
  dvd_vector : extent.align ∣ 16
  dvd_align : extent.align ∣ extent'.align
  align_pos : 0 < extent'.align
  size_le : extent.size ≤ extent'.size

instance (extent extent' : Extent) : Decidable (extent.Within extent') :=
  decidable_of_iff (extent.align ∣ 16 ∧ extent.align ∣ extent'.align ∧ 0 < extent'.align ∧
      extent.size ≤ extent'.size)
    ⟨fun ⟨a, b, c, d⟩ => ⟨a, b, c, d⟩, fun ⟨a, b, c, d⟩ => ⟨a, b, c, d⟩⟩

lemma Within.step_dvd {extent extent' : Extent} (h : extent.Within extent') :
    extent.step ∣ extent'.step := by
  have hpos : 0 < extent.align := Nat.pos_of_dvd_of_pos h.dvd_align h.align_pos
  have hpos' := h.align_pos
  rw [step, step, Nat.max_eq_left hpos, Nat.max_eq_left hpos']
  exact h.dvd_align

variable {members members' : List Extent}

lemma reach_le (h : List.Forall₂ Within members members') {offset offset' : Nat}
    (hoffset : offset ≤ offset') : reach offset members ≤ reach offset' members' := by
  induction h generalizing offset offset' with
  | nil => exact hoffset
  | @cons member member' _ _ hmember _ ih =>
      apply ih
      have hplace : roundUp offset member.step ≤ roundUp offset' member'.step :=
        roundUp_le_of_dvd (Nat.dvd_trans hmember.step_dvd (dvd_roundUp _ _))
          (Nat.le_trans hoffset (le_roundUp member'.step_pos))
      have := hmember.size_le
      omega

lemma widest_dvd (h : List.Forall₂ Within members members') : widest members ∣ 16 := by
  suffices hmax : ∀ start, start ∣ 16 → (members.map align).foldl max start ∣ 16 from
    hmax 1 (Nat.one_dvd 16)
  induction h with
  | nil => exact fun start hstart => hstart
  | @cons member _ _ _ hmember _ ih =>
      intro start hstart
      apply ih
      rcases Nat.le_total start member.align with hle | hle
      · rw [Nat.max_eq_right hle]
        exact hmember.dvd_vector
      · rw [Nat.max_eq_left hle]
        exact hstart

lemma within_struct (h : List.Forall₂ Within members members') :
    (struct 1 members).Within (struct 16 members') := by
  have hwidest : (struct 1 members).align ∣ 16 := by
    change roundUp (widest members) 1 ∣ 16
    rw [roundUp_one]
    exact widest_dvd h
  have halign : (struct 1 members).align ∣ (struct 16 members').align :=
    Nat.dvd_trans hwidest (dvd_roundUp _ _)
  refine ⟨hwidest, halign, align_struct_pos (by decide) members', ?_⟩
  apply roundUp_le_of_dvd (Nat.dvd_trans halign (dvd_roundUp _ _))
  exact Nat.le_trans (reach_le h (Nat.le_refl 0)) (reach_le_size (by decide) members')

end Extent

/-! ## Registered types -/

lemma forall₂_of_mapM {α β : Type} {f : α → Option β} {xs : List α} {ys : List β}
    (h : xs.mapM f = some ys) : List.Forall₂ (fun x y => f x = some y) xs ys := by
  induction xs generalizing ys with
  | nil =>
      cases h
      exact .nil
  | cons x xs ih =>
      rw [List.mapM_cons] at h
      obtain ⟨y, hy, h⟩ := Option.bind_eq_some_iff.1 h
      obtain ⟨rest, hrest, h⟩ := Option.bind_eq_some_iff.1 h
      cases h
      exact .cons hy (ih hrest)

namespace Registry

variable {registry registry' : Registry} {catalogue : Catalogue} {host : HostType}

/-- The basic types in both layouts. -/
lemma within_basic {basic : BasicType} {extent : Extent} (h : basic.extent430 = some extent) :
    ∃ type, ofBasics.typeOf? (.basic basic) = some type ∧ extent.Within type.extent := by
  have htable : ∀ basic ∈ BasicType.all, ∀ extent ∈ basic.extent430.toList,
      ∃ type ∈ (ofBasics.typeOf? (.basic basic)).toList, extent.Within type.extent := by
    decide +kernel
  obtain ⟨type, htype, hwithin⟩ := htable basic (BasicType.mem_all basic) extent (by simp [h])
  exact ⟨type, by simpa using htype, hwithin⟩

lemma key?_ofBasics_declared (name : String) (size align : Nat) :
    ofBasics.key? (.declared name size align) = none := by
  have hbasic : ∀ entry ∈ ofBasics.byHost, ∃ basic ∈ BasicType.all, entry.1 = .basic basic := by
    decide +kernel
  rw [key?, Option.map_eq_none_iff, List.find?_eq_none]
  intro entry hentry
  obtain ⟨basic, -, heq⟩ := hbasic entry hentry
  simp [heq]

section Grown

variable (hgrown : Grown ofBasics catalogue registry)
include hgrown

lemma within_of_basic {basic : BasicType} {extent : Extent} {type : GpuType}
    (hextent : basic.extent430 = some extent) (htype : registry.typeOf? (.basic basic) = some type) :
    extent.Within type.extent := by
  obtain ⟨type', htype', hwithin⟩ := within_basic hextent
  have hsame := hgrown.extends_base.typeOf? closed_ofBasics htype'
  rw [htype] at hsame
  cases hsame
  exact hwithin

/-- A declared type of the registry that describes its fields was accepted as a struct of them. -/
lemma accepted_of_known {name : String} {size align : Nat} {fields : List Field} {struct : GpuType}
    (hshape : catalogue.shape (.declared name size align) = .fields fields)
    (htype : registry.typeOf? (.declared name size align) = some struct) :
    ∃ types, Accepted registry (.declared name size align) fields types struct :=
  accepted_of_new hgrown (key?_ofBasics_declared name size align) hshape htype

omit hgrown in
lemma within_fields {depth : Nat} {fields : List Field} {members : List Extent}
    {types : List GpuType}
    (hwithin : ∀ host extent type, catalogue.extent430 depth host = some extent →
      registry.typeOf? host = some type → extent.Within type.extent)
    (hmembers : List.Forall₂ (fun field extent => catalogue.extent430 depth field.type = some extent)
      fields members)
    (htypes : List.Forall₂ (fun field type => registry.typeOf? field.type = some type ∧
      type.valueName ≠ "") fields types) :
    List.Forall₂ Extent.Within members (gpuMembers types) := by
  induction hmembers generalizing types with
  | nil =>
      cases htypes
      exact .nil
  | cons hextent _ ih =>
      cases htypes with
      | cons htype hrest => exact .cons (hwithin _ _ _ hextent htype.1) (ih hrest)

/-- **Nothing is further away in std430 than in std140.** -/
theorem within_of_extent430 (depth : Nat) (host : HostType) (extent : Extent) (type : GpuType)
    (hextent : catalogue.extent430 depth host = some extent)
    (htype : registry.typeOf? host = some type) : extent.Within type.extent := by
  induction depth generalizing host extent type with
  | zero =>
      cases host with
      | basic basic => exact within_of_basic hgrown hextent htype
      | declared name size align => cases hextent
  | succ depth ih =>
      cases host with
      | basic basic => exact within_of_basic hgrown hextent htype
      | declared name size align =>
          rw [Catalogue.extent430] at hextent
          split at hextent
          · next fields hshape =>
              obtain ⟨members, hmembers, rfl⟩ := Option.map_eq_some_iff.1 hextent
              obtain ⟨types, haccepted⟩ := accepted_of_known hgrown hshape htype
              rw [haccepted.extent]
              exact Extent.within_struct
                (within_fields ih (forall₂_of_mapM hmembers) haccepted.members)
          · cases hextent

/-- The members of a type reach no further in std430, and their alignment divides that of the type. -/
lemma reach_le_of_members430 {depth : Nat} {members : List Extent} {type : GpuType}
    (hmembers : catalogue.members430 depth host = some members)
    (htype : registry.typeOf? host = some type) :
    Extent.widest members ∣ type.layout.align ∧ 0 < type.layout.align ∧
      Extent.reach 0 members ≤ type.layout.size := by
  cases host with
  | basic basic =>
      obtain ⟨extent, hextent, rfl⟩ := Option.map_eq_some_iff.1 hmembers
      have hwithin := within_of_basic hgrown hextent htype
      have hpos : 0 < extent.align := Nat.pos_of_dvd_of_pos hwithin.dvd_align hwithin.align_pos
      have hwidest : Extent.widest [extent] = extent.align := Nat.max_eq_right hpos
      have hreach : Extent.reach 0 [extent] = extent.size := by
        have hzero := roundUp_eq_of_dvd extent.step_pos (Nat.dvd_zero _)
        simp [Extent.reach, hzero]
      rw [hwidest, hreach]
      exact ⟨hwithin.dvd_align, hwithin.align_pos, hwithin.size_le⟩
  | declared name size align =>
      rw [Catalogue.members430] at hmembers
      split at hmembers
      · next fields hshape =>
          obtain ⟨types, haccepted⟩ := accepted_of_known hgrown hshape htype
          have hwithin := within_fields (within_of_extent430 hgrown depth)
            (forall₂_of_mapM hmembers) haccepted.members
          have halign : type.layout.align = (Extent.struct 16 (gpuMembers types)).align :=
            congrArg Extent.align haccepted.extent
          have hsize : type.layout.size = (Extent.struct 16 (gpuMembers types)).size :=
            congrArg Extent.size haccepted.extent
          rw [halign, hsize]
          refine ⟨Nat.dvd_trans (Extent.widest_dvd hwithin) (dvd_roundUp _ _),
            Extent.align_struct_pos (by decide) _, ?_⟩
          exact Nat.le_trans (Extent.reach_le hwithin (Nat.le_refl 0))
            (Extent.reach_le_size (by decide) _)
      · cases hmembers

end Grown

end Registry

/-! ## What the recipe of a buffer gives -/

namespace Recipe

variable {answer : HostType → Option GpuType} {asked : List HostType} {form : Form}
  {host element : HostType} {shape : BufferShape}

lemma gives_elements {body : String} {layout : GpuLayout} (helement : shape.element = some element)
    (h : (elements host shape body layout).Gives answer asked form) :
    ∃ type, answer element = some type ∧ asked = [element] ∧
      type.layout.place layout.size = shape.firstElementOffset ∧
      type.layout.stride = element.size ∧
      ∃ align, form = .block body { size := shape.firstElementOffset, align } shape := by
  rw [elements, helement] at h
  obtain ⟨type, rest, hanswer, rfl, h⟩ := h
  dsimp only at h
  split at h
  · exact h.elim
  · next hstart =>
      split at h
      · exact h.elim
      · next hstride =>
          obtain ⟨rfl, rfl⟩ := h
          rw [not_not] at hstart hstride
          exact ⟨type, hanswer, rfl, hstart, hstride, _, by rw [hstart]⟩

/-- A buffer is accepted when header, elements and distances have their host sizes in std140. -/
lemma gives_buffer (helement : shape.element = some element)
    (h : (buffer host shape).Gives answer asked form) :
    ∃ type, answer element = some type ∧ asked = shape.header.toList ++ [element] ∧
      type.layout.place shape.headerSize = shape.firstElementOffset ∧
      type.layout.stride = element.size ∧
      (∃ body align, form = .block body { size := shape.firstElementOffset, align } shape) ∧
      ∀ header, shape.header = some header →
        ∃ type, answer header = some type ∧ type.layout.size = header.size := by
  rw [buffer] at h
  cases hheader : shape.header with
  | none =>
      rw [hheader] at h
      obtain ⟨type, hanswer, rfl, hstart, hstride, align, rfl⟩ := gives_elements helement h
      refine ⟨type, hanswer, rfl, ?_, hstride, ⟨_, align, rfl⟩, by simp⟩
      rw [BufferShape.headerSize, hheader]
      exact hstart
  | some header =>
      rw [hheader] at h
      obtain ⟨headerType, rest, hheaderAnswer, rfl, h⟩ := h
      beta_reduce at h
      split at h
      · exact h.elim
      · split at h
        · exact h.elim
        · next hsize =>
            rw [not_not] at hsize
            obtain ⟨type, hanswer, rfl, hstart, hstride, align, rfl⟩ := gives_elements helement h
            refine ⟨type, hanswer, rfl, ?_, hstride, ⟨_, align, rfl⟩, ?_⟩
            · rw [BufferShape.headerSize, hheader, Option.map_some, Option.getD_some, ← hsize]
              exact hstart
            · rintro _ ⟨⟩
              exact ⟨headerType, hheaderAnswer, hsize⟩

end Recipe

namespace Registry

variable {registry : Registry} {catalogue : Catalogue} {host element : HostType}
  {shape : BufferShape} {key : ConversionKey} {depth : Nat} {before members : List Extent}

/-- Where the elements start in std430, after the members before them. -/
def start430 (before members : List Extent) : Nat :=
  roundUp (Extent.reach 0 before) (Extent.widest members)

/-- How far apart the elements are in std430. -/
def stride430 (members : List Extent) : Nat :=
  roundUp (Extent.reach 0 members) (Extent.widest members)

/-- A buffer is registered as a block that ends in an array of its elements, from the byte on where
the host has them. -/
def Blocked (registry : Registry) (host element : HostType) (shape : BufferShape) : Prop :=
  ∃ block elementKey, registry.typeOf? host = some block ∧
    registry.typeKey? element = some elementKey ∧
    block.flexible =
      some { element := elementKey, name := if shape.header.isSome then "elements" else "" } ∧
    block.layout.size = shape.firstElementOffset

lemma blocked_of_derives {typeKey : TypeKey} {asked : List HostType} {form : Form}
    {keys : List TypeKey} (hclosed : registry.Closed) (helement : shape.element = some element)
    (hderives : Derives catalogue registry host typeKey asked form keys)
    (hasked : asked = shape.header.toList ++ [element])
    (hform : ∃ body align, form = .block body { size := shape.firstElementOffset, align } shape) :
    Blocked registry host element shape := by
  obtain ⟨body, align, rfl⟩ := hform
  have hblock := (typeOf?_eq_some hclosed).2 ⟨typeKey, hderives.typeKey?, hderives.type⟩
  have hlast : ∃ elementKey, keys.getLast? = some elementKey ∧
      registry.typeKey? element = some elementKey := by
    have hknown := hderives.known
    rw [hasked] at hknown
    cases hheader : shape.header with
    | none =>
        rw [hheader] at hknown
        obtain ⟨elementKey, rest, hkey, hnone, rfl⟩ := List.forall₂_cons_left_iff.1 hknown
        obtain rfl := List.forall₂_nil_left_iff.1 hnone
        exact ⟨elementKey, rfl, hkey⟩
    | some header =>
        rw [hheader] at hknown
        obtain ⟨headerKey, _, -, htail, rfl⟩ := List.forall₂_cons_left_iff.1 hknown
        obtain ⟨elementKey, rest, hkey, hnone, rfl⟩ := List.forall₂_cons_left_iff.1 htail
        obtain rfl := List.forall₂_nil_left_iff.1 hnone
        exact ⟨elementKey, rfl, hkey⟩
  obtain ⟨elementKey, hlast, hkey⟩ := hlast
  exact ⟨_, elementKey, hblock, hkey, by simp [Form.type, helement, hlast], rfl⟩

lemma reach_le_headerSize (hgrown : Grown ofBasics catalogue registry)
    (hbefore : catalogue.header430 depth shape = some before)
    (hheader : ∀ header, shape.header = some header →
      ∃ type, registry.answer header = some type ∧ type.layout.size = header.size) :
    Extent.reach 0 before ≤ shape.headerSize := by
  rw [Catalogue.header430] at hbefore
  split at hbefore
  · cases hbefore
    exact Nat.zero_le _
  · next header hsome =>
      obtain ⟨type, hanswer, hsize⟩ := hheader header hsome
      obtain ⟨type, htype, rfl⟩ := Option.map_eq_some_iff.1 hanswer
      have hreach := (reach_le_of_members430 hgrown hbefore htype).2.2
      rw [GpuType.layout_bare] at hsize
      rw [BufferShape.headerSize, hsome, Option.map_some, Option.getD_some, ← hsize]
      exact hreach

/-- Start and distance of the elements in std140, counted in words of 64 bits, are those of the host
if these fit into a word.  So is the start as the host counts it. -/
def CountedInWords (registry : Registry) (element : HostType) (shape : BufferShape) : Prop :=
  ∃ type, registry.typeOf? element = some type ∧
    (shape.firstElementOffset < UInt64.size →
      (roundUpWord shape.headerSize.toUInt64 type.layout.step.toUInt64).toNat =
          shape.firstElementOffset ∧
        (roundUpWord shape.headerSize.toUInt64 (max element.align 1).toUInt64).toNat =
          shape.firstElementOffset) ∧
    (element.size < UInt64.size →
      (roundUpWord type.layout.size.toUInt64 type.layout.step.toUInt64).toNat = element.size)

lemma countedInWords_of_accepted {type : GpuType} (helement : shape.element = some element)
    (htype : registry.typeOf? element = some type)
    (hstart : type.layout.place shape.headerSize = shape.firstElementOffset)
    (hstride : type.layout.stride = element.size) : registry.CountedInWords element shape := by
  have hstep : 0 < type.layout.step := by
    rw [GpuLayout.step]
    omega
  have hhost : roundUp shape.headerSize (max element.align 1) = shape.firstElementOffset := by
    rw [BufferShape.firstElementOffset, helement]
  refine ⟨type, htype, fun hfits => ⟨?_, ?_⟩, fun hfits => ?_⟩
  · rw [← hstart] at hfits ⊢
    exact toNat_roundUpWord hstep hfits
  · rw [← hhost] at hfits ⊢
    exact toNat_roundUpWord (by omega) hfits
  · rw [← hstride] at hfits ⊢
    exact toNat_roundUpWord hstep hfits

/-- **The elements of an accepted buffer in std430.**  They start no later than on the host and are
no further apart.  Start or distance differs exactly when the host leaves room for one more alignment
of an element. -/
theorem storage_of_convert (depth : Nat) (earlier : List HostType) (hnew : ofBasics.key? host = none)
    (hshape : catalogue.shape host = .buffer shape) (helement : shape.element = some element)
    (hbefore : catalogue.header430 depth shape = some before)
    (hmembers : catalogue.members430 depth element = some members)
    (h : convert catalogue host (after catalogue ofBasics earlier) = .ok key registry) :
    Blocked registry host element shape ∧ registry.CountedInWords element shape ∧
      start430 before members ≤ shape.firstElementOffset ∧
      (start430 before members = shape.firstElementOffset ↔
        shape.firstElementOffset < Extent.reach 0 before + Extent.widest members) ∧
      stride430 members ≤ element.size ∧
      (stride430 members = element.size ↔
        element.size < Extent.reach 0 members + Extent.widest members) := by
  obtain ⟨hgrown, typeKey, asked, form, keys, hderives⟩ :=
    derives_of_convert ((Grown.refl closed_ofBasics).after earlier) hnew h
  have hgives := hderives.gives
  rw [hshape] at hgives
  obtain ⟨_, hanswer, hasked, hstart, hstride, hform, hheader⟩ :=
    Recipe.gives_buffer helement hgives
  obtain ⟨type, htype, rfl⟩ := Option.map_eq_some_iff.1 hanswer
  obtain ⟨hdvd, halign, hreach⟩ := reach_le_of_members430 hgrown hmembers htype
  have hstep : type.layout.step = type.layout.align := Nat.max_eq_left halign
  have hpos := Extent.widest_pos members
  -- Both host numbers are multiples of the std140 alignment.
  have hoffset_dvd : Extent.widest members ∣ shape.firstElementOffset := by
    rw [← hstart, GpuType.layout_bare, GpuLayout.place, hstep]
    exact Nat.dvd_trans hdvd (dvd_roundUp _ _)
  have hsize_dvd : Extent.widest members ∣ element.size := by
    rw [← hstride, GpuType.layout_bare, GpuLayout.stride, hstep]
    exact Nat.dvd_trans hdvd (dvd_roundUp _ _)
  have hoffset_le : Extent.reach 0 before ≤ shape.firstElementOffset := by
    refine Nat.le_trans (reach_le_headerSize hgrown hbefore hheader) ?_
    rw [← hstart, GpuType.layout_bare, GpuLayout.place, hstep]
    exact le_roundUp halign
  have hsize_le : Extent.reach 0 members ≤ element.size := by
    refine Nat.le_trans hreach ?_
    rw [← hstride, GpuType.layout_bare, GpuLayout.stride, hstep]
    exact le_roundUp halign
  exact ⟨blocked_of_derives hgrown.closed helement hderives hasked hform,
    countedInWords_of_accepted helement htype hstart hstride, roundUp_le_of_dvd hoffset_dvd hoffset_le, roundUp_eq_iff hpos hoffset_dvd hoffset_le,
    roundUp_le_of_dvd hsize_dvd hsize_le, roundUp_eq_iff hpos hsize_dvd hsize_le⟩

/-- A header of four numbers and one, padded to two vectors of four. -/
def rangeHeader : HostType := .declared "Range" 32 16

/-- Single numbers after such a header. -/
def spectrum : HostType := .declared "Spectrum" 16 8

/-- The buffer of a spectrum. -/
def spectrumShape : BufferShape := .pointer spectrum rangeHeader .float

/-- The catalogue of both. -/
def spectra : Catalogue :=
  ⟨[(rangeHeader, .fields [⟨"low", .vec4⟩, ⟨"width", .float⟩]), (spectrum, .buffer spectrumShape)]⟩

theorem storage_of_convert_spectrum :
    ∃ key registry, convert spectra spectrum (after spectra ofBasics [rangeHeader]) =
        .ok key registry ∧
      Blocked registry spectrum .float spectrumShape ∧
      registry.CountedInWords .float spectrumShape ∧
      start430 [⟨16, 16⟩, ⟨4, 4⟩] [⟨4, 4⟩] ≤ 32 ∧
      (start430 [⟨16, 16⟩, ⟨4, 4⟩] [⟨4, 4⟩] = 32 ↔ 32 < 20 + 4) ∧
      stride430 [⟨4, 4⟩] ≤ 4 ∧ (stride430 [⟨4, 4⟩] = 4 ↔ 4 < 4 + 4) := by
  obtain ⟨key, registry, h⟩ := Outcome.exists_of_succeeds
    (r := convert spectra spectrum (after spectra ofBasics [rangeHeader])) (by decide +kernel)
  exact ⟨key, registry, h, storage_of_convert 0 [rangeHeader]
    (key?_ofBasics_declared _ _ _) rfl rfl rfl rfl h⟩

/-- The fields of the header are members of the block, and its padding is not: in std430 the numbers
of a spectrum start at byte 20, on the host at byte 32. -/
theorem not_forall_start430_eq : ¬ ∀ (catalogue : Catalogue) (host element : HostType)
    (shape : BufferShape) (key : ConversionKey) (registry : Registry) (depth : Nat)
    (before members : List Extent), ofBasics.key? host = none →
    catalogue.shape host = .buffer shape → shape.element = some element →
    catalogue.header430 depth shape = some before →
    catalogue.members430 depth element = some members →
    convert catalogue host ofBasics = .ok key registry →
    start430 before members = shape.firstElementOffset ∧ stride430 members = element.size := by
  intro hequal
  obtain ⟨key, registry, h⟩ := Outcome.exists_of_succeeds
    (r := convert spectra spectrum ofBasics) (by decide +kernel)
  have hstart := (hequal spectra spectrum .float spectrumShape key registry 0
    [⟨16, 16⟩, ⟨4, 4⟩] [⟨4, 4⟩] (key?_ofBasics_declared _ _ _) rfl rfl rfl rfl h).1
  exact absurd hstart (by decide)

end Registry

end ShaderWeave
