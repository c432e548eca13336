import ShaderWeave.Proofs.StorageLayout

/-!
# What host types are registered as

A registry that has grown from the basic types knows a host type in one of three ways: it is basic,
it has the struct of an aggregate, or it has the block of a buffer.

* `Recipe.Ends` — every form that a recipe can end in, whatever it is told on the way.
* `Form.Suits` — the form is one for a host type of this shape.  **The shape decides whether a type
  becomes a struct or a block,** and the name of a struct comes from its host type alone
  (`Recipe.ends_recipe`).
* `Registry.Grown.lookup?_cases` — what a registry that has grown from the basic types says of a
  host type.
* `Registry.lookup?_basic` — the setters of the basic types.
-/

namespace ShaderWeave

/-- The form is one for a host type of this shape. -/
def Form.Suits (host : HostType) (shape : TypeShape) : Form → Prop
  | struct name _ _ => name = TypeName.ofHostName host.shortName ∧
      ((∃ fields, shape = .fields fields) ∨ ∃ layout, shape = .layout layout)
  | block _ _ buffer => shape = .buffer buffer

namespace Recipe

variable {P : Form → Prop}

/-- Every form that the recipe can end in has a property. -/
def Ends (P : Form → Prop) : Recipe → Prop
  | fail _ => True
  | done form => P form
  | ask _ next => ∀ type, Ends P (next type)

lemma Gives.of_ends {answer : HostType → Option GpuType} {r : Recipe} {asked : List HostType}
    {form : Form} (h : r.Gives answer asked form) (hends : r.Ends P) : P form := by
  induction r generalizing asked with
  | fail error => exact h.elim
  | done result =>
      obtain ⟨-, rfl⟩ := h
      exact hends
  | ask host next ih =>
      obtain ⟨type, rest, -, -, h⟩ := h
      exact ih type h (hends type)

lemma ends_struct {host : HostType} {layout : StructLayout}
    (h : ∀ body layout, P (.struct (TypeName.ofHostName host.shortName) body layout)) :
    (struct host layout).Ends P := by
  rw [struct]
  split
  · trivial
  · exact h _ _

lemma ends_fields {host : HostType} {members : Registry.Members} {rest : List Field}
    (h : ∀ body layout, P (.struct (TypeName.ofHostName host.shortName) body layout)) :
    (fields host members rest).Ends P := by
  induction rest generalizing members with
  | nil => exact ends_struct h
  | cons field rest ih =>
      intro type
      dsimp only
      split
      · trivial
      · exact ih

lemma ends_layout {host : HostType} {body : StructLayout} {rest : List HostType}
    (h : ∀ body layout, P (.struct (TypeName.ofHostName host.shortName) body layout)) :
    (layout host body rest).Ends P := by
  induction rest with
  | nil => exact ends_struct h
  | cons dependency rest ih => exact fun _ => ih

lemma ends_elements {host : HostType} {shape : BufferShape} {body : String} {layout : GpuLayout}
    (h : ∀ body layout, P (.block body layout shape)) :
    (elements host shape body layout).Ends P := by
  rw [elements]
  cases shape.element with
  | none => exact h _ _
  | some element =>
      intro type
      dsimp only
      split_ifs
      · trivial
      · trivial
      · exact h _ _

lemma ends_buffer {host : HostType} {shape : BufferShape}
    (h : ∀ body layout, P (.block body layout shape)) : (buffer host shape).Ends P := by
  rw [buffer]
  cases shape.header with
  | none => exact ends_elements h
  | some header =>
      intro type
      dsimp only
      split_ifs
      · trivial
      · trivial
      all_goals exact ends_elements h

/-- The shape of a host type decides the kind of its form. -/
lemma ends_recipe (host : HostType) (shape : TypeShape) :
    (recipe host shape).Ends (Form.Suits host shape) := by
  cases shape with
  | plain => trivial
  | fields fields => exact ends_fields fun _ _ => ⟨rfl, Or.inl ⟨fields, rfl⟩⟩
  | layout layout => exact ends_layout fun _ _ => ⟨rfl, Or.inr ⟨layout, rfl⟩⟩
  | buffer shape => exact ends_buffer fun _ _ => rfl

end Recipe

namespace Registry

variable {catalogue : Catalogue} {registry : Registry} {host : HostType} {conversion : Conversion}

/-- The setters of the basic types.  All but the void token and textures are sent as uniforms. -/
lemma lookup?_basic (basic : BasicType) : ∃ conversion,
    ofBasics.lookup? (.basic basic) = some conversion ∧
      conversion.uniform =
        (if basic = .void ∨ basic = .texture then none else some (Setter.uniform basic)) ∧
      conversion.sampler = (if basic = .texture then some Setter.texture else none) ∧
      conversion.uniformBlock = none ∧ conversion.storageBlock = none := by
  cases basic with
  | void => exact ⟨_, rfl, rfl, rfl, rfl, rfl⟩
  | scalar kind => cases kind <;> exact ⟨_, rfl, rfl, rfl, rfl, rfl⟩
  | vector kind dim => cases kind <;> cases dim <;> exact ⟨_, rfl, rfl, rfl, rfl, rfl⟩
  | matrix dim => cases dim <;> exact ⟨_, rfl, rfl, rfl, rfl, rfl⟩
  | texture => exact ⟨_, rfl, rfl, rfl, rfl, rfl⟩

/-- A host type that is known is basic, or it was registered in a form that suits its shape. -/
lemma Grown.lookup?_cases (hgrown : Grown ofBasics catalogue registry)
    (h : registry.lookup? host = some conversion) :
    (∃ basic, host = .basic basic ∧ ofBasics.lookup? host = some conversion) ∨
      ofBasics.key? host = none ∧ ∃ (form : Form) (keys : List TypeKey),
        form.Suits host (catalogue.shape host) ∧
        conversion = form.conversion conversion.type ∧
        registry.type conversion.type = form.type keys := by
  cases host with
  | basic basic =>
      obtain ⟨found, hfound, -⟩ := lookup?_basic basic
      have hsame := hgrown.extends_base.lookup? hgrown.closed_base hfound
      rw [h] at hsame
      cases hsame
      exact Or.inl ⟨basic, rfl, hfound⟩
  | declared name size align =>
      have hnew := key?_ofBasics_declared name size align
      obtain ⟨asked, form, keys, hderives⟩ := hgrown.derived hnew (typeKey?_of_lookup? h)
      refine Or.inr ⟨hnew, form, keys, hderives.gives.of_ends (Recipe.ends_recipe _ _), ?_, ?_⟩
      · exact Option.some.inj (h.symm.trans hderives.conversion)
      · rw [Registry.type, hderives.type, Option.getD_some]

end Registry

end ShaderWeave
