import Mathlib.Data.List.Forall2
import ShaderWeave.Proofs.Outcome
import ShaderWeave.Proofs.Recipe

/-!
# Growth of a registry

Conversions only ever add to a registry.  `Registry.Extends` says that nothing was lost,
`Registry.Closed` that keys point to records that are there, and those in a type to earlier ones.

A registry that has `Registry.Grown` from a base consists of the base and of what recipes give: each
host type that the base does not know has a type of its own, above those of the base, and **that type
is what the recipe gives again with the answers of the registry** (`Registry.Derives`).  Conversion
keeps this whether it succeeds or fails, because what a failed conversion leaves behind are complete
registrations of other types: `Registry.convertWithin_grows`.
-/

namespace ShaderWeave.Registry

variable {registry registry' registry'' : Registry} {host : HostType}

/-! ## Records that stay -/

/-- Nothing that was registered is lost or changed. -/
structure Extends (registry registry' : Registry) : Prop where
  types {index : Nat} {type : GpuType} :
    registry.types[index]? = some type → registry'.types[index]? = some type
  conversions {index : Nat} {conversion : Conversion} :
    registry.conversions[index]? = some conversion → registry'.conversions[index]? = some conversion
  keys {host : HostType} {key : ConversionKey} :
    registry.key? host = some key → registry'.key? host = some key

/-- Keys point to records, and those in a type to types before it. -/
structure Closed (registry : Registry) : Prop where
  keys {host : HostType} {key : ConversionKey} :
    registry.key? host = some key → key.index < registry.conversions.size
  conversions {index : Nat} {conversion : Conversion} :
    registry.conversions[index]? = some conversion → conversion.type.index < registry.types.size
  references {index : Nat} {type : GpuType} :
    registry.types[index]? = some type → ∀ key ∈ type.references, key.index < index

namespace Extends

lemma refl (registry : Registry) : registry.Extends registry := ⟨id, id, id⟩

lemma trans (h : registry.Extends registry') (h' : registry'.Extends registry'') :
    registry.Extends registry'' :=
  ⟨h'.types ∘ h.types, h'.conversions ∘ h.conversions, h'.keys ∘ h.keys⟩

lemma size_types_le (h : registry.Extends registry') :
    registry.types.size ≤ registry'.types.size := by
  by_contra hlt
  have hlast := h.types (Array.getElem?_eq_getElem (Nat.lt_of_not_le hlt))
  rw [Array.getElem?_eq_none (Nat.le_refl _)] at hlast
  cases hlast

lemma key?_ne_none (h : registry.Extends registry') (hkey : registry.key? host ≠ none) :
    registry'.key? host ≠ none := by
  obtain ⟨key, hkey⟩ := Option.ne_none_iff_exists'.1 hkey
  rw [h.keys hkey]
  exact Option.some_ne_none key

lemma type (h : registry.Extends registry') {key : TypeKey}
    (hkey : key.index < registry.types.size) : registry'.type key = registry.type key := by
  have hsome := Array.getElem?_eq_getElem hkey
  rw [Registry.type, Registry.type, hsome, h.types hsome]

end Extends

/-- The key of the GPU type of a host type. -/
def typeKey? (registry : Registry) (host : HostType) : Option TypeKey :=
  (registry.lookup? host).map Conversion.type

/-- The GPU type of a host type without the keys in it. -/
def answer (registry : Registry) (host : HostType) : Option GpuType :=
  (registry.typeOf? host).map GpuType.bare

lemma lookup?_eq_some (hclosed : registry.Closed) {conversion : Conversion} :
    registry.lookup? host = some conversion ↔
      ∃ key, registry.key? host = some key ∧
        registry.conversions[key.index]? = some conversion := by
  rw [lookup?, Option.map_eq_some_iff]
  refine exists_congr fun key => and_congr_right fun hkey => ?_
  have hsome := Array.getElem?_eq_getElem (hclosed.keys hkey)
  rw [Registry.conversion, hsome, Option.getD_some, Option.some_inj]

lemma typeOf?_eq_some (hclosed : registry.Closed) {type : GpuType} :
    registry.typeOf? host = some type ↔
      ∃ key, registry.typeKey? host = some key ∧ registry.types[key.index]? = some type := by
  constructor
  · intro h
    obtain ⟨conversion, hconversion, rfl⟩ := Option.map_eq_some_iff.1 h
    obtain ⟨key, -, hkey⟩ := (lookup?_eq_some hclosed).1 hconversion
    have hsome := Array.getElem?_eq_getElem (hclosed.conversions hkey)
    refine ⟨conversion.type, by rw [typeKey?, hconversion, Option.map_some], ?_⟩
    rw [Registry.type, hsome, Option.getD_some]
  · rintro ⟨key, hkey, htype⟩
    obtain ⟨conversion, hconversion, rfl⟩ := Option.map_eq_some_iff.1 hkey
    rw [typeOf?, hconversion, Option.map_some, Registry.type, htype, Option.getD_some]

lemma typeKey?_of_lookup? {conversion : Conversion} (h : registry.lookup? host = some conversion) :
    registry.typeKey? host = some conversion.type := by
  rw [typeKey?, h, Option.map_some]

lemma typeKey?_of_key? {key : ConversionKey} (h : registry.key? host = some key) :
    registry.typeKey? host = some (registry.conversion key).type := by
  rw [typeKey?, lookup?, h]
  rfl

lemma typeKey?_lt (hclosed : registry.Closed) {key : TypeKey}
    (h : registry.typeKey? host = some key) : key.index < registry.types.size := by
  obtain ⟨conversion, hconversion, rfl⟩ := Option.map_eq_some_iff.1 h
  obtain ⟨key, -, hkey⟩ := (lookup?_eq_some hclosed).1 hconversion
  exact hclosed.conversions hkey

namespace Extends

variable (h : registry.Extends registry') (hclosed : registry.Closed)
include h hclosed

lemma lookup? {conversion : Conversion} (hlookup : registry.lookup? host = some conversion) :
    registry'.lookup? host = some conversion := by
  obtain ⟨key, hkey, hconversion⟩ := (lookup?_eq_some hclosed).1 hlookup
  rw [Registry.lookup?, h.keys hkey, Option.map_some, Registry.conversion, h.conversions hconversion,
    Option.getD_some]

lemma typeKey? {key : TypeKey} (hkey : registry.typeKey? host = some key) :
    registry'.typeKey? host = some key := by
  obtain ⟨conversion, hconversion, rfl⟩ := Option.map_eq_some_iff.1 hkey
  rw [Registry.typeKey?, h.lookup? hclosed hconversion, Option.map_some]

lemma typeOf? {type : GpuType} (htype : registry.typeOf? host = some type) :
    registry'.typeOf? host = some type := by
  obtain ⟨conversion, hconversion, rfl⟩ := Option.map_eq_some_iff.1 htype
  have hkey : registry.typeKey? host = some conversion.type := by
    rw [Registry.typeKey?, hconversion, Option.map_some]
  rw [Registry.typeOf?, h.lookup? hclosed hconversion, Option.map_some,
    h.type (typeKey?_lt hclosed hkey)]

lemma answer {type : GpuType} (htype : registry.answer host = some type) :
    registry'.answer host = some type := by
  obtain ⟨type, hsome, rfl⟩ := Option.map_eq_some_iff.1 htype
  rw [Registry.answer, h.typeOf? hclosed hsome, Option.map_some]

end Extends

/-! ## Registration by hand -/

lemma closed_empty : empty.Closed := by
  constructor <;> simp [empty, key?]

namespace Closed

variable (hclosed : registry.Closed)
include hclosed

/-- A type may be added if the keys in it are there. -/
lemma specify (type : GpuType) (h : ∀ key ∈ type.references, key.index < registry.types.size) :
    (registry.specify type).2.Closed where
  keys := hclosed.keys
  conversions hconversion := by
    have := hclosed.conversions hconversion
    simp only [Registry.specify, Array.size_push]
    omega
  references {index other} hother key hkey := by
    simp only [Registry.specify, Array.getElem?_push] at hother
    split at hother
    · next hindex =>
        cases hother
        exact hindex ▸ h key hkey
    · exact hclosed.references hother key hkey

/-- A host type may be given any conversion to a type that is there. -/
lemma register (host : HostType) (conversion : Conversion)
    (h : conversion.type.index < registry.types.size) :
    (registry.register host conversion).2.Closed where
  keys {other key} hkey := by
    have hsize : (registry.register host conversion).2.conversions.size =
        registry.conversions.size + 1 := Array.size_push _
    by_cases heq : host = other
    · obtain rfl : key = ⟨registry.conversions.size⟩ := by
        simpa [Registry.register, addConversion, assign, key?, heq, eq_comm] using hkey
      simp [hsize]
    · have hold : registry.key? other = some key := by
        simpa [Registry.register, addConversion, assign, key?, heq] using hkey
      have := hclosed.keys hold
      omega
  conversions {index other} hother := by
    simp only [Registry.register, addConversion, assign, Array.getElem?_push] at hother
    split at hother
    · cases hother
      exact h
    · exact hclosed.conversions hother
  references := hclosed.references

/-- A type without keys, and a conversion of a host type to it. -/
lemma specify_register (host : HostType) {type : GpuType} (h : type.references = [])
    {conversion : Conversion} (hconversion : conversion.type = ⟨registry.types.size⟩) :
    ((registry.specify type).2.register host conversion).2.Closed := by
  have hspecified := hclosed.specify type (by simp [h])
  apply hspecified.register host conversion
  simp [hconversion, Registry.specify]

lemma addScalar (kind : Scalar) (name vector : String) (code : Option Nat) :
    (registry.addScalar kind name vector code).Closed := by
  have hstep : ∀ (dim : Dim) (registry : Registry), registry.Closed →
      ∀ format, (registry.addBasic (.vector kind dim) (vectorType vector dim) format).Closed := by
    intro dim registry hclosed format
    exact hclosed.specify_register _ (by cases dim <;> rfl) rfl
  have hscalar : ∀ format, (registry.addBasic (.scalar kind) (.value name 4 4 1) format).Closed :=
    fun format => hclosed.specify_register _ rfl rfl
  exact hstep _ _ (hstep _ _ (hstep _ _ (hscalar _) _) _) _

end Closed

/-- The registry with the basic types is closed. -/
theorem closed_ofBasics : ofBasics.Closed := by
  have hmatrix : ∀ (dim : Dim) (registry : Registry), registry.Closed →
      ∀ format, (registry.addBasic (.matrix dim) (matrixType dim) format).Closed := by
    intro dim registry hclosed format
    exact hclosed.specify_register _ (by cases dim <;> rfl) rfl
  have hvoid : empty.addVoid.Closed := closed_empty.specify_register _ rfl rfl
  have hscalars := (((hvoid.addScalar .float "float" "vec" (some AttributeFormat.floatCode)).addScalar
    .int "int" "ivec" (some AttributeFormat.intCode)).addScalar
    .uint "uint" "uvec" (some AttributeFormat.uintCode)).addScalar .bool "bool" "bvec" none
  exact (hmatrix _ _ (hmatrix _ _ (hmatrix _ _ hscalars _) _) _).specify_register _ rfl rfl

/-! ## Types that recipes give -/

/-- Host types and the keys of their GPU types, one by one. -/
abbrev Known (registry : Registry) : List HostType → List TypeKey → Prop :=
  List.Forall₂ fun host key => registry.typeKey? host = some key

lemma Known.exists_key {hosts : List HostType} {keys : List TypeKey} {host : HostType}
    (h : registry.Known hosts keys) (hhost : host ∈ hosts) :
    ∃ key ∈ keys, registry.typeKey? host = some key := by
  induction h with
  | nil => cases hhost
  | cons head _ ih =>
      rcases List.mem_cons.1 hhost with rfl | hhost
      · exact ⟨_, List.mem_cons_self, head⟩
      · obtain ⟨key, hkey, hsome⟩ := ih hhost
        exact ⟨key, List.mem_cons_of_mem _ hkey, hsome⟩

lemma Known.exists_host {hosts : List HostType} {keys : List TypeKey} {key : TypeKey}
    (h : registry.Known hosts keys) (hkey : key ∈ keys) :
    ∃ host ∈ hosts, registry.typeKey? host = some key := by
  induction h with
  | nil => cases hkey
  | cons head _ ih =>
      rcases List.mem_cons.1 hkey with rfl | hkey
      · exact ⟨_, List.mem_cons_self, head⟩
      · obtain ⟨host, hhost, hsome⟩ := ih hkey
        exact ⟨host, List.mem_cons_of_mem _ hhost, hsome⟩

/-- The registered type of a host type is what its recipe gives with the answers of the registry. -/
structure Derives (catalogue : Catalogue) (registry : Registry) (host : HostType) (key : TypeKey)
    (asked : List HostType) (form : Form) (keys : List TypeKey) : Prop where
  gives : (recipe host (catalogue.shape host)).Gives registry.answer asked form
  known : registry.Known asked keys
  conversion : registry.lookup? host = some (form.conversion key)
  type : registry.types[key.index]? = some (form.type keys)

section Derives

variable {catalogue : Catalogue} {key : TypeKey} {asked : List HostType} {form : Form}
  {keys : List TypeKey} (h : Derives catalogue registry host key asked form keys)
include h

lemma Derives.typeKey? : registry.typeKey? host = some key := by
  rw [Registry.typeKey?, h.conversion]
  rfl

lemma Derives.extends (hextends : registry.Extends registry') (hclosed : registry.Closed) :
    Derives catalogue registry' host key asked form keys where
  gives := h.gives.mono fun _ _ _ => hextends.answer hclosed
  known := h.known.imp fun _ _ => hextends.typeKey? hclosed
  conversion := hextends.lookup? hclosed h.conversion
  type := hextends.types h.type

/-- The types that are asked for stand before the one that is made of them. -/
lemma Derives.lt (hclosed : registry.Closed) {other : HostType} (hother : other ∈ asked) :
    ∃ otherKey, registry.typeKey? other = some otherKey ∧ otherKey.index < key.index := by
  obtain ⟨otherKey, hmem, hkey⟩ := h.known.exists_key hother
  have hdependency := form.mem_dependencies_type.2 hmem
  exact ⟨otherKey, hkey, hclosed.references h.type otherKey (List.mem_append_left _ hdependency)⟩

end Derives

/-- A registry that consists of a base and of types that recipes gave. -/
structure Grown (base : Registry) (catalogue : Catalogue) (registry : Registry) : Prop where
  closed_base : base.Closed
  extends_base : base.Extends registry
  closed : registry.Closed
  above {host : HostType} {key : TypeKey} : base.key? host = none →
    registry.typeKey? host = some key → base.types.size ≤ key.index
  distinct {host host' : HostType} {key : TypeKey} : base.key? host = none →
    base.key? host' = none → registry.typeKey? host = some key →
    registry.typeKey? host' = some key → host = host'
  derived {host : HostType} {key : TypeKey} : base.key? host = none →
    registry.typeKey? host = some key → ∃ asked form keys,
      Derives catalogue registry host key asked form keys

variable {base : Registry} {catalogue : Catalogue}

lemma typeKey?_eq_none : registry.typeKey? host = none ↔ registry.key? host = none := by
  simp [typeKey?, lookup?]

lemma Grown.refl (hclosed : base.Closed) : Grown base catalogue base where
  closed_base := hclosed
  extends_base := Extends.refl base
  closed := hclosed
  above hnone hkey := by rw [typeKey?_eq_none.2 hnone] at hkey; cases hkey
  distinct hnone _ hkey _ := by rw [typeKey?_eq_none.2 hnone] at hkey; cases hkey
  derived hnone hkey := by rw [typeKey?_eq_none.2 hnone] at hkey; cases hkey

/-- Which registrations are pending is no record. -/
lemma Grown.with_pending (h : Grown base catalogue registry) (pending : List HostType) :
    Grown base catalogue { registry with pending } where
  closed_base := h.closed_base
  extends_base := ⟨h.extends_base.types, h.extends_base.conversions, h.extends_base.keys⟩
  closed := ⟨h.closed.keys, h.closed.conversions, h.closed.references⟩
  above := h.above
  distinct := h.distinct
  derived hnone hkey := by
    obtain ⟨asked, form, keys, hderives⟩ := h.derived hnone hkey
    exact ⟨asked, form, keys, hderives.gives, hderives.known, hderives.conversion, hderives.type⟩

lemma Grown.begin (h : Grown base catalogue registry) (host : HostType) :
    Grown base catalogue (registry.begin host) := h.with_pending _

/-- A plain type has a conversion only if the base has one for it. -/
lemma Grown.key?_of_plain (h : Grown base catalogue registry) (hplain : catalogue.shape host = .plain)
    (hbase : base.key? host = none) : registry.key? host = none := by
  cases hkey : registry.key? host with
  | none => rfl
  | some key =>
      obtain ⟨asked, form, keys, hderives⟩ := h.derived hbase (typeKey?_of_key? hkey)
      have hgives := hderives.gives
      rw [hplain] at hgives
      exact hgives.elim

/-! ## One registration -/

/-- Adds the type of a form and its conversion, without giving it to a host type. -/
def put (registry : Registry) (form : Form) (keys : List TypeKey) : Registry :=
  { registry with
    types := registry.types.push (form.type keys)
    conversions := registry.conversions.push (form.conversion ⟨registry.types.size⟩) }

/-- Registers a host type as a form. -/
def adopt (registry : Registry) (host : HostType) (form : Form) (keys : List TypeKey) : Registry :=
  (registry.put form keys).assign host ⟨registry.conversions.size⟩

lemma key?_assign (registry : Registry) (host other : HostType) (key : ConversionKey) :
    (registry.assign host key).key? other =
      if host = other then some key else registry.key? other := by
  by_cases h : host = other <;> simp [assign, key?, h]

lemma key?_adopt (form : Form) (keys : List TypeKey) (other : HostType) :
    (registry.adopt host form keys).key? other =
      if host = other then some ⟨registry.conversions.size⟩ else registry.key? other := by
  rw [adopt, key?_assign]
  rfl

lemma extends_adopt (form : Form) (keys : List TypeKey) (hnone : registry.key? host = none) :
    registry.Extends (registry.adopt host form keys) where
  types {index type} h := by
    have hlt := (Array.getElem?_eq_some_iff.1 h).1
    rw [← h]
    exact Array.getElem?_push_lt hlt ▸ (Array.getElem?_eq_getElem hlt).symm
  conversions {index conversion} h := by
    have hlt := (Array.getElem?_eq_some_iff.1 h).1
    rw [← h]
    exact Array.getElem?_push_lt hlt ▸ (Array.getElem?_eq_getElem hlt).symm
  keys {other key} h := by
    have hne : host ≠ other := by
      rintro rfl
      rw [hnone] at h
      cases h
    rw [key?_adopt, if_neg hne, h]

lemma lookup?_adopt (form : Form) (keys : List TypeKey) (hclosed : registry.Closed)
    (other : HostType) :
    (registry.adopt host form keys).lookup? other =
      if host = other then some (form.conversion ⟨registry.types.size⟩)
      else registry.lookup? other := by
  rw [lookup?, key?_adopt]
  by_cases h : host = other
  · simp [h, Registry.conversion, adopt, put, assign]
  · rw [if_neg h, if_neg h, lookup?]
    cases hkey : registry.key? other with
    | none => rfl
    | some key =>
        have hlt := hclosed.keys hkey
        simp [Registry.conversion, adopt, put, assign, Array.getElem?_push_lt hlt, hlt]

lemma typeKey?_adopt (form : Form) (keys : List TypeKey) (hclosed : registry.Closed)
    (other : HostType) :
    (registry.adopt host form keys).typeKey? other =
      if host = other then some ⟨registry.types.size⟩ else registry.typeKey? other := by
  rw [typeKey?, lookup?_adopt form keys hclosed]
  split <;> rfl

lemma closed_adopt (form : Form) {keys : List TypeKey} (hclosed : registry.Closed)
    (hkeys : ∀ key ∈ keys, key.index < registry.types.size) :
    (registry.adopt host form keys).Closed := by
  have hspecified := hclosed.specify (form.type keys) fun key hkey =>
    hkeys key (form.mem_of_mem_references hkey)
  apply hspecified.register host (form.conversion ⟨registry.types.size⟩)
  simp [specify]

/-- What a recipe gives can be registered. -/
lemma Grown.adopt {asked : List HostType} {form : Form} {keys : List TypeKey}
    (h : Grown base catalogue registry) (hnone : registry.key? host = none)
    (hgives : (recipe host (catalogue.shape host)).Gives registry.answer asked form)
    (hknown : registry.Known asked keys) :
    Grown base catalogue (registry.adopt host form keys) := by
  have hextends := extends_adopt form keys hnone
  have hkeys : ∀ key ∈ keys, key.index < registry.types.size := by
    intro key hkey
    obtain ⟨other, -, hother⟩ := hknown.exists_host hkey
    exact typeKey?_lt h.closed hother
  have hnew : ∀ other, (registry.adopt host form keys).typeKey? other =
      if host = other then some ⟨registry.types.size⟩ else registry.typeKey? other :=
    typeKey?_adopt form keys h.closed
  refine
    { closed_base := h.closed_base
      extends_base := h.extends_base.trans hextends
      closed := closed_adopt form h.closed hkeys
      above := ?_
      distinct := ?_
      derived := ?_ }
  · intro other key hbase hkey
    rw [hnew] at hkey
    split at hkey
    · cases hkey
      exact h.extends_base.size_types_le
    · exact h.above hbase hkey
  · intro other other' key hbase hbase' hkey hkey'
    rw [hnew] at hkey hkey'
    -- The new type stands above all others.
    split at hkey <;> split at hkey'
    · next h h' => rw [← h, h']
    · cases hkey
      exact absurd (typeKey?_lt h.closed hkey') (Nat.lt_irrefl _)
    · cases hkey'
      exact absurd (typeKey?_lt h.closed hkey) (Nat.lt_irrefl _)
    · exact h.distinct hbase hbase' hkey hkey'
  · intro other key hbase hkey
    rw [hnew] at hkey
    split at hkey
    · next heq =>
        cases hkey
        subst heq
        refine ⟨asked, form, keys, hgives.mono fun _ _ _ => hextends.answer h.closed,
          hknown.imp fun _ _ => hextends.typeKey? h.closed, ?_, ?_⟩
        · rw [lookup?_adopt form keys h.closed, if_pos rfl]
        · exact Array.getElem?_push_size
    · obtain ⟨asked, form, keys, hderives⟩ := h.derived hbase hkey
      exact ⟨asked, form, keys, hderives.extends hextends h.closed⟩

/-! ## Whole conversions -/

/-- A registry went on from another by complete registrations.  None was for a pending type. -/
structure Grows (base : Registry) (catalogue : Catalogue) (registry registry' : Registry) :
    Prop where
  grown : Grown base catalogue registry'
  extends_start : registry.Extends registry'
  pending : registry'.pending = registry.pending
  waiting : ∀ host ∈ registry.pending, registry.key? host = none → registry'.key? host = none

lemma Grows.refl (h : Grown base catalogue registry) : Grows base catalogue registry registry :=
  ⟨h, Extends.refl registry, rfl, fun _ _ => id⟩

lemma Grows.trans (h : Grows base catalogue registry registry')
    (h' : Grows base catalogue registry' registry'') : Grows base catalogue registry registry'' where
  grown := h'.grown
  extends_start := h.extends_start.trans h'.extends_start
  pending := h'.pending.trans h.pending
  waiting host hhost hnone := h'.waiting host (h.pending ▸ hhost) (h.waiting host hhost hnone)

/-- A result leaves a registry that went on from another, and a success is the key of the host
type. -/
def Lands (base : Registry) (catalogue : Catalogue) (registry : Registry) (host : HostType) :
    EStateM.Result SpecificationError Registry ConversionKey → Prop
  | .ok key registry' => Grows base catalogue registry registry' ∧ registry'.key? host = some key
  | .error _ registry' => Grows base catalogue registry registry'

/-- A way to convert host types that only adds complete registrations. -/
def Lawful (base : Registry) (catalogue : Catalogue)
    (convert : HostType → Action ConversionKey) : Prop :=
  ∀ host registry, Grown base catalogue registry →
    Lands base catalogue registry host (convert host registry)

section Follow

variable {convert : HostType → Action ConversionKey} (hlawful : Lawful base catalogue convert)
  (hgrown : Grown base catalogue registry)
include hlawful hgrown

lemma typeKey_ok {key : TypeKey} (h : typeKey convert host registry = .ok key registry') :
    Grows base catalogue registry registry' ∧ registry'.typeKey? host = some key := by
  obtain ⟨conversion, middle, hconvert, h⟩ := Outcome.bind_ok h
  have hlands := hlawful host registry hgrown
  rw [hconvert] at hlands
  obtain ⟨hgrows, hkey⟩ := hlands
  cases h
  exact ⟨hgrows, typeKey?_of_key? hkey⟩

lemma typeKey_error {error : SpecificationError}
    (h : typeKey convert host registry = .error error registry') :
    Grows base catalogue registry registry' := by
  rcases Outcome.bind_error h with h | ⟨conversion, middle, -, h⟩
  · have hlands := hlawful host registry hgrown
    rw [h] at hlands
    exact hlands
  · cases h

/-- What a recipe does to a registry: complete registrations of what it asks for, then its form. -/
lemma follow_ok {r : Recipe} {keys : List TypeKey} {key : ConversionKey}
    (h : r.follow convert keys registry = .ok key registry') :
    ∃ middle asked form keys', Grows base catalogue registry middle ∧
      r.Gives middle.answer asked form ∧ middle.Known asked keys' ∧
      registry' = middle.put form (keys ++ keys') ∧ key = ⟨middle.conversions.size⟩ := by
  induction r generalizing registry keys with
  | fail error => cases h
  | done form =>
      refine ⟨registry, [], form, [], Grows.refl hgrown, ⟨rfl, rfl⟩, .nil, ?_⟩
      rw [List.append_nil]
      cases h
      exact ⟨rfl, rfl⟩
  | ask host next ih =>
      obtain ⟨first, after, hfirst, h⟩ := Outcome.bind_ok h
      obtain ⟨hgrows, hkey⟩ := typeKey_ok hlawful hgrown hfirst
      obtain ⟨middle, asked, form, keys', hgrows', hgives, hknown, rfl, rfl⟩ :=
        ih _ hgrows.grown h
      have hextends := hgrows'.extends_start
      have hanswer : after.answer host = some (after.type first).bare := by
        obtain ⟨conversion, hconversion, rfl⟩ := Option.map_eq_some_iff.1 hkey
        rw [answer, typeOf?, hconversion]
        rfl
      refine ⟨middle, host :: asked, form, first :: keys', hgrows.trans hgrows', ?_, ?_, ?_, rfl⟩
      · exact ⟨_, asked, hextends.answer hgrows.grown.closed hanswer, rfl, hgives⟩
      · exact .cons (hextends.typeKey? hgrows.grown.closed hkey) hknown
      · rw [List.append_assoc, List.singleton_append]

lemma follow_error {r : Recipe} {keys : List TypeKey} {error : SpecificationError}
    (h : r.follow convert keys registry = .error error registry') :
    Grows base catalogue registry registry' := by
  induction r generalizing registry keys with
  | fail error =>
      cases h
      exact Grows.refl hgrown
  | done form => cases h
  | ask host next ih =>
      rcases Outcome.bind_error h with h | ⟨first, after, hfirst, h⟩
      · exact typeKey_error hlawful hgrown h
      · obtain ⟨hgrows, -⟩ := typeKey_ok hlawful hgrown hfirst
        exact hgrows.trans (ih _ hgrows.grown h)

end Follow

section Within

variable {depth : Nat}

lemma convertWithin_of_some {key : ConversionKey} (h : registry.key? host = some key) :
    convertWithin catalogue depth host registry = .ok key registry := by
  cases depth <;> simp [convertWithin, h]

lemma convertWithin_of_pending (hnone : registry.key? host = none) (h : host ∈ registry.pending) :
    convertWithin catalogue depth host registry = .error (.recursiveType host) registry := by
  cases depth <;> simp [convertWithin, hnone, h]

lemma convertWithin_zero (hnone : registry.key? host = none) :
    convertWithin catalogue 0 host registry = .error (.recursiveType host) registry := by
  simp [convertWithin, hnone]

lemma convertWithin_succ (hnone : registry.key? host = none) (h : host ∉ registry.pending) :
    convertWithin catalogue (depth + 1) host registry =
      match (recipe host (catalogue.shape host)).follow (convertWithin catalogue depth) []
          (registry.begin host) with
      | .ok key registry => .ok key (registry.finish.assign host key)
      | .error error registry => .error error registry.finish := by
  rw [← Recipe.addShape_eq_follow, convertWithin]
  dsimp only
  rw [hnone]
  exact if_neg h

end Within

/-- The end of a registration: what happened in it was complete, and its type is pending no more. -/
lemma Grows.finish (h : Grows base catalogue (registry.begin host) registry') :
    Grows base catalogue registry registry'.finish where
  grown := h.grown.with_pending _
  extends_start := ⟨h.extends_start.types, h.extends_start.conversions, h.extends_start.keys⟩
  pending := by rw [Registry.finish, h.pending]; rfl
  waiting other hother hnone := h.waiting other (List.mem_cons_of_mem _ hother) hnone

/-- **Conversion only adds complete registrations,** whether it succeeds or fails. -/
theorem convertWithin_lawful (depth : Nat) :
    Lawful base catalogue (convertWithin catalogue depth) := by
  intro host registry hgrown
  induction depth generalizing host registry with
  | zero =>
      cases hkey : registry.key? host with
      | some key =>
          rw [convertWithin_of_some hkey]
          exact ⟨Grows.refl hgrown, hkey⟩
      | none =>
          rw [convertWithin_zero hkey]
          exact Grows.refl hgrown
  | succ depth ih =>
      cases hkey : registry.key? host with
      | some key =>
          rw [convertWithin_of_some hkey]
          exact ⟨Grows.refl hgrown, hkey⟩
      | none =>
          by_cases hpending : host ∈ registry.pending
          · rw [convertWithin_of_pending hkey hpending]
            exact Grows.refl hgrown
          · have hbegin := hgrown.begin host
            rw [convertWithin_succ hkey hpending]
            cases hfollow : (recipe host (catalogue.shape host)).follow
                (convertWithin catalogue depth) [] (registry.begin host) with
            | error error after => exact (follow_error ih hbegin hfollow).finish
            | ok key after =>
                obtain ⟨middle, asked, form, keys, hgrows, hgives, hknown, rfl, rfl⟩ :=
                  follow_ok ih hbegin hfollow
                -- The type itself was pending, so nothing in between registered it.
                have hnone := hgrows.waiting host List.mem_cons_self hkey
                have hadopt := (hgrows.finish.grown).adopt hnone hgives hknown
                refine ⟨⟨hadopt, ?_, hgrows.finish.pending, ?_⟩, ?_⟩
                · exact hgrows.finish.extends_start.trans (extends_adopt form keys hnone)
                · intro other hother hunknown
                  have hne : host ≠ other := fun heq => hpending (heq ▸ hother)
                  change (middle.finish.adopt host form keys).key? other = none
                  rw [key?_adopt, if_neg hne]
                  exact hgrows.finish.waiting other hother hunknown
                · change (middle.finish.adopt host form keys).key? host = _
                  rw [key?_adopt, if_pos rfl]
                  rfl

lemma convert_lawful : Lawful base catalogue (convert catalogue) :=
  convertWithin_lawful (catalogue.described.length + 1)

/-- The registry that a conversion leaves, whether it succeeds or fails. -/
def afterConvert (catalogue : Catalogue) (registry : Registry) (host : HostType) : Registry :=
  match convert catalogue host registry with
  | .ok _ registry => registry
  | .error _ registry => registry

/-- The registry after conversions, whether they succeed or fail. -/
def after (catalogue : Catalogue) (registry : Registry) (hosts : List HostType) : Registry :=
  hosts.foldl (afterConvert catalogue) registry

lemma grows_afterConvert (hgrown : Grown base catalogue registry) :
    Grows base catalogue registry (afterConvert catalogue registry host) := by
  have hlands := convert_lawful host registry hgrown
  rw [afterConvert]
  cases hconvert : convert catalogue host registry with
  | ok key registry' =>
      rw [hconvert] at hlands
      exact hlands.1
  | error error registry' =>
      rw [hconvert] at hlands
      exact hlands

lemma Grown.after (hgrown : Grown base catalogue registry) (hosts : List HostType) :
    Grown base catalogue (after catalogue registry hosts) := by
  induction hosts generalizing registry with
  | nil => exact hgrown
  | cons host rest ih => exact ih (grows_afterConvert hgrown).grown

/-- **A host type that is converted, now or earlier, is registered as its recipe says,** unless the
base has a conversion for it. -/
theorem derives_of_convert {key : ConversionKey} (hgrown : Grown base catalogue registry)
    (hnew : base.key? host = none) (h : convert catalogue host registry = .ok key registry') :
    Grown base catalogue registry' ∧ ∃ typeKey asked form keys,
      Derives catalogue registry' host typeKey asked form keys := by
  have hlands := convert_lawful host registry hgrown
  rw [h] at hlands
  obtain ⟨hgrows, hkey⟩ := hlands
  exact ⟨hgrows.grown, _, hgrows.grown.derived hnew (typeKey?_of_key? hkey)⟩

end ShaderWeave.Registry
