import ShaderWeave.Proofs.Extents
import ShaderWeave.Proofs.Growth

/-!
# The layout of derived aggregates

An aggregate that describes itself field by field gets a GPU struct when its std140 size is its size
on the host.  Nothing else is compared, so **a struct can be accepted although its members stand
elsewhere on the GPU:** padding may sit in different places and add up to the same total.

`Registry.accepted_of_derives` says what an accepted aggregate is registered as, and
`Registry.agree_iff_of_convert` when host and GPU agree on its fields.
-/

namespace ShaderWeave

/-! ## What the recipe of an aggregate gives -/

/-- The line of a member in the body of a struct. -/
def memberLine (field : Field) (type : GpuType) : String :=
  "\t" ++ type.valueName ++ " " ++ field.name ++ ";\n"

namespace Recipe

variable {answer : HostType → Option GpuType} {asked : List HostType} {form : Form}
  {host : HostType}

lemma gives_struct {layout : StructLayout} (h : (struct host layout).Gives answer asked form) :
    layout.size = host.size ∧ asked = [] ∧
      form = .struct (TypeName.ofHostName host.shortName) layout.body
        { size := layout.size, align := layout.align } := by
  rw [struct] at h
  split at h
  · exact h.elim
  · next hsize => exact ⟨not_not.1 hsize, h⟩

/-- A struct under construction after more members. -/
lemma gives_fields {fields : List Field} {members : Registry.Members}
    (h : (Recipe.fields host members fields).Gives answer asked form) :
    ∃ types : List GpuType,
      List.Forall₂ (fun field type => answer field.type = some type ∧ type.valueName ≠ "")
        fields types ∧
      asked = fields.map Field.type ∧
      ∃ layout : GpuLayout,
        layout.align = roundUp ((types.map (·.layout.align)).foldl max members.align) 16 ∧
        layout.size = roundUp (Extent.reach members.offset (types.map GpuType.extent)) layout.align ∧
        layout.size = host.size ∧
        form = .struct (TypeName.ofHostName host.shortName)
          ((List.zipWith memberLine fields types).foldl (· ++ ·) members.body) layout := by
  induction fields generalizing members asked with
  | nil =>
      obtain ⟨hsize, rfl, rfl⟩ := gives_struct h
      exact ⟨[], .nil, rfl, _, rfl, rfl, hsize, rfl⟩
  | cons field rest ih =>
      obtain ⟨type, asked', hanswer, rfl, h⟩ := h
      beta_reduce at h
      split at h
      · exact h.elim
      · next hnamed =>
          obtain ⟨types, htypes, rfl, layout, halign, hsize, hhost, rfl⟩ := ih h
          have hname : type.valueName ≠ "" := by
            intro hempty
            simp [hempty] at hnamed
          refine ⟨type :: types, .cons ⟨hanswer, hname⟩ htypes, rfl, layout, halign, hsize, hhost,
            ?_⟩
          simp [Registry.Members.add, memberLine, String.append_assoc]

end Recipe

namespace Registry

variable {base registry registry' : Registry} {catalogue : Catalogue} {host : HostType}
  {fields : List Field} {key : ConversionKey}

lemma typeOf?_of_answer {P : GpuType → Prop} {types : List GpuType}
    (h : List.Forall₂ (fun field type => registry.answer field.type = some type ∧ P type)
      fields types) :
    ∃ types', List.Forall₂ (fun field type => registry.typeOf? field.type = some type ∧ P type.bare)
        fields types' ∧ types = types'.map GpuType.bare := by
  induction h with
  | nil => exact ⟨[], .nil, rfl⟩
  | cons head _ ih =>
      obtain ⟨hanswer, hP⟩ := head
      obtain ⟨type, htype, rfl⟩ := Option.map_eq_some_iff.1 hanswer
      obtain ⟨types', hrest, rfl⟩ := ih
      exact ⟨type :: types', .cons ⟨htype, hP⟩ hrest, rfl⟩

/-- The fields of an aggregate as the host places them. -/
def hostMembers (fields : List Field) : List Extent := fields.map fun field => field.type.extent

/-- The members of a struct as std140 places them. -/
def gpuMembers (types : List GpuType) : List Extent := types.map GpuType.extent

/-- An aggregate is registered as a struct with these types for its fields, in order, and with the
size that it has on the host. -/
structure Accepted (registry : Registry) (host : HostType) (fields : List Field)
    (types : List GpuType) (struct : GpuType) : Prop where
  members : List.Forall₂ (fun field type => registry.typeOf? field.type = some type ∧
    type.valueName ≠ "") fields types
  registered : registry.typeOf? host = some struct
  name : struct.valueName = TypeName.ofHostName host.shortName
  body : struct.body = String.join (List.zipWith memberLine fields types)
  extent : struct.extent = Extent.struct 16 (gpuMembers types)
  size : struct.layout.size = host.size

/-- Host and GPU agree on where each field is and how many bytes it takes. -/
def Agree (fields : List Field) (types : List GpuType) : Prop :=
  Extent.offsets 0 (gpuMembers types) = Extent.offsets 0 (hostMembers fields) ∧
    (gpuMembers types).map Extent.size = (hostMembers fields).map Extent.size

instance (fields : List Field) (types : List GpuType) : Decidable (Agree fields types) :=
  inferInstanceAs (Decidable (_ ∧ _))

/-- **An aggregate becomes a struct of its fields in order,** and its std140 size is its host
size. -/
theorem accepted_of_derives {typeKey : TypeKey} {asked : List HostType} {form : Form}
    {keys : List TypeKey} (hclosed : registry.Closed)
    (hderives : Derives catalogue registry host typeKey asked form keys)
    (hshape : catalogue.shape host = .fields fields) :
    ∃ types struct, Accepted registry host fields types struct := by
  have hgives := hderives.gives
  rw [hshape] at hgives
  obtain ⟨_, hanswers, -, layout, halign, hsize, hhost, rfl⟩ := Recipe.gives_fields hgives
  obtain ⟨types, htypes, rfl⟩ := typeOf?_of_answer hanswers
  have hstruct := (typeOf?_eq_some hclosed).2 ⟨typeKey, hderives.typeKey?, hderives.type⟩
  refine ⟨types, _, htypes, hstruct, rfl, ?_, ?_, hhost⟩
  · rw [List.zipWith_map_right]
    rfl
  · rw [List.map_map] at halign hsize
    rw [Extent.struct, Extent.widest, gpuMembers, List.map_map, GpuType.extent]
    simp only [Form.type, hsize, halign]
    rfl

/-- An aggregate that was registered since an earlier registry was accepted as a struct. -/
lemma accepted_of_new {struct : GpuType} (hgrown : Grown base catalogue registry)
    (hnew : base.key? host = none) (hshape : catalogue.shape host = .fields fields)
    (hstruct : registry.typeOf? host = some struct) :
    ∃ types, Accepted registry host fields types struct := by
  obtain ⟨key, hkey, -⟩ := (typeOf?_eq_some hgrown.closed).1 hstruct
  obtain ⟨asked, form, keys, hderives⟩ := hgrown.derived hnew hkey
  obtain ⟨types, struct', haccepted⟩ := accepted_of_derives hgrown.closed hderives hshape
  have hsame := haccepted.registered
  rw [hstruct] at hsame
  cases hsame
  exact ⟨types, haccepted⟩

/-- **When host and GPU agree on an accepted aggregate.**  Its totals agree, with the host's that of
the fields one after the other, and if they fit into a word of 64 bits then so does every sum on the
way.  The fields agree exactly when their sizes do and each layout is aligned for the other. -/
theorem agree_iff_of_convert (earlier : List HostType) (hclosed : base.Closed)
    (hnew : base.key? host = none) (hshape : catalogue.shape host = .fields fields)
    (hhost : host.size = roundUp (Extent.reach 0 (hostMembers fields)) host.align)
    (h : convert catalogue host (after catalogue base earlier) = .ok key registry') :
    ∃ types struct, Accepted registry' host fields types struct ∧
      (Extent.struct 16 (gpuMembers types)).size =
        roundUp (Extent.reach 0 (hostMembers fields)) host.align ∧
      (host.size < UInt64.size →
        (Extent.wordOffsets 0 (gpuMembers types)).map UInt64.toNat =
            Extent.offsets 0 (gpuMembers types) ∧
          (Extent.wordSize 16 (gpuMembers types)).toNat = host.size) ∧
      (Agree fields types ↔
        (gpuMembers types).map Extent.size = (hostMembers fields).map Extent.size ∧
          Extent.Aligned (gpuMembers types) (Extent.offsets 0 (hostMembers fields)) ∧
          Extent.Aligned (hostMembers fields) (Extent.offsets 0 (gpuMembers types))) := by
  obtain ⟨hgrown, typeKey, asked, form, keys, hderives⟩ :=
    derives_of_convert ((Grown.refl hclosed).after earlier) hnew h
  obtain ⟨types, struct, haccepted⟩ := accepted_of_derives hgrown.closed hderives hshape
  have hsize : (Extent.struct 16 (gpuMembers types)).size = host.size := by
    rw [← haccepted.size, ← haccepted.extent]
    rfl
  refine ⟨types, struct, haccepted, hsize.trans hhost, fun hfits => ?_, ?_⟩
  · rw [← hsize] at hfits ⊢
    exact Extent.toNat_words (by decide) hfits
  · rw [Agree, and_comm]
    exact and_congr_right fun hsizes => Extent.offsets_eq_iff 0 hsizes

/-! ## An aggregate that is accepted and does not agree -/

/-- A number, two and four more: the host has the two right after the one. -/
def particle : HostType := .declared "Particle" 32 16

/-- The fields of a particle. -/
def particleFields : List Field :=
  [⟨"mass", .float⟩, ⟨"uv", .basic (.vector .float .two)⟩, ⟨"color", .vec4⟩]

/-- An aggregate around another. -/
def lamp : HostType := .declared "Lamp" 48 16

/-- The fields of a lamp. -/
def lampFields : List Field := [⟨"spot", particle⟩, ⟨"gain", .float⟩]

/-- The catalogue of both. -/
def aggregates : Catalogue := ⟨[(particle, .fields particleFields), (lamp, .fields lampFields)]⟩

theorem agree_iff_of_convert_lamp :
    ∃ key registry, convert aggregates lamp (after aggregates ofBasics [particle]) = .ok key registry ∧
      ∃ types struct, Accepted registry lamp lampFields types struct ∧
        (Extent.struct 16 (gpuMembers types)).size = 48 ∧
        (Extent.wordOffsets 0 (gpuMembers types)).map UInt64.toNat =
          Extent.offsets 0 (gpuMembers types) ∧
        (Extent.wordSize 16 (gpuMembers types)).toNat = 48 ∧
        (Agree lampFields types ↔
          (gpuMembers types).map Extent.size = [32, 4] ∧
            Extent.Aligned (gpuMembers types) [0, 32] ∧
            Extent.Aligned (hostMembers lampFields) (Extent.offsets 0 (gpuMembers types))) := by
  obtain ⟨key, registry, h⟩ := Outcome.exists_of_succeeds
    (r := convert aggregates lamp (after aggregates ofBasics [particle])) (by decide +kernel)
  obtain ⟨types, struct, haccepted, hsize, hwords, hagree⟩ :=
    agree_iff_of_convert [particle] closed_ofBasics (by decide) rfl (by decide) h
  obtain ⟨hoffsets, htotal⟩ := hwords (by decide)
  exact ⟨key, registry, h, types, struct, haccepted, hsize, hoffsets, htotal, hagree⟩

/-- The host has the second field of a particle at byte 4, the GPU at byte 8. -/
theorem not_forall_agree : ¬ ∀ (base registry : Registry) (catalogue : Catalogue)
    (host : HostType) (fields : List Field) (key : ConversionKey) (types : List GpuType),
    base.Closed → base.key? host = none → catalogue.shape host = .fields fields →
    host.size = roundUp (Extent.reach 0 (hostMembers fields)) host.align →
    convert catalogue host base = .ok key registry →
    List.Forall₂ (fun field type => registry.typeOf? field.type = some type) fields types →
    Agree fields types := by
  intro hagree
  obtain ⟨key, registry, h⟩ := Outcome.exists_of_succeeds
    (r := convert aggregates particle ofBasics) (by decide +kernel)
  obtain ⟨hgrown, -⟩ := derives_of_convert (Grown.refl closed_ofBasics) (by decide) h
  have hknown {host : HostType} {type : GpuType} (hbasic : ofBasics.typeOf? host = some type) :
      registry.typeOf? host = some type := hgrown.extends_base.typeOf? closed_ofBasics hbasic
  have := hagree _ _ _ _ particleFields _ [.value "float" 4 4 1, vectorType "vec" .two,
    vectorType "vec" .four] closed_ofBasics (by decide) rfl (by decide) h
    (.cons (hknown (by decide +kernel)) (.cons (hknown (by decide +kernel))
      (.cons (hknown (by decide +kernel)) .nil)))
  exact absurd this (by decide)

end Registry

end ShaderWeave
