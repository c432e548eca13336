import Mathlib.Tactic.Common
import ShaderWeave.Gpu.Registry

/-!
# Recipes of derived types

Registering a host type on first use asks for the GPU types of the host types in it, one after the
other, and builds a new type from the answers.  Which types are asked for and what comes out depends
on the shape of the host type and on the answers alone; the registry is only a memory of earlier
answers.  `recipe` is that part on its own.

* `Recipe` — the questions and what follows from the answers.  An answer is a GPU type without the
  keys in it (`GpuType.bare`), because keys tell when a type was registered.
* `Form` — what comes out, up to the keys of the types that were asked for.
* `Recipe.follow` — the recipe carried out on a registry.  **It is what registration does:**
  `Registry.addShape_eq_follow`.
* `Recipe.Gives` — the recipe ends in a form if the questions are answered in a given way.  More
  answers change nothing (`Recipe.Gives.mono`), and equal answers give equal forms
  (`Recipe.Gives.unique`).
-/

namespace ShaderWeave

namespace GpuType

/-- The type without the keys in it. -/
def bare (type : GpuType) : GpuType :=
  { type with
    flexible := type.flexible.map fun flexible => { flexible with element := ⟨0⟩ }
    dependencies := [] }

@[simp] lemma valueName_bare (type : GpuType) : type.bare.valueName = type.valueName := rfl

@[simp] lemma handleName_bare (type : GpuType) : type.bare.handleName = type.handleName := rfl

@[simp] lemma body_bare (type : GpuType) : type.bare.body = type.body := rfl

@[simp] lemma layout_bare (type : GpuType) : type.bare.layout = type.layout := rfl

@[simp] lemma isSome_flexible_bare (type : GpuType) :
    type.bare.flexible.isSome = type.flexible.isSome := Option.isSome_map

@[simp] lemma isStorable_bare (type : GpuType) : type.bare.isStorable = type.isStorable := by
  obtain ⟨_, _, _, _, flexible, _⟩ := type
  cases flexible <;> rfl

/-- The keys in the type. -/
def references (type : GpuType) : List TypeKey :=
  type.dependencies ++ (type.flexible.map FlexibleMember.element).toList

end GpuType

lemma Registry.mem_foldl_addKey {keys found : List TypeKey} {key : TypeKey} :
    key ∈ keys.foldl addKey found ↔ key ∈ found ∨ key ∈ keys := by
  induction keys generalizing found with
  | nil => simp
  | cons first rest ih =>
      rw [List.foldl_cons, ih, addKey]
      split <;> grind

/-! ## Forms -/

/-- What a host type is registered as, up to the keys of the types in it. -/
inductive Form where
  /-- A struct.  It depends on each of its types once. -/
  | struct (name body : String) (layout : GpuLayout)
  /-- A block for buffers of a shape.  If it has elements, the last type in it is theirs. -/
  | block (body : String) (layout : GpuLayout) (shape : BufferShape)

namespace Form

/-- The type of a form, with the keys of the types in it. -/
def type : Form → List TypeKey → GpuType
  | struct name body layout, keys =>
    { valueName := name, body, layout, dependencies := keys.foldl Registry.addKey [] }
  | block body layout shape, keys =>
    { body
      layout
      flexible := shape.element.bind fun _ => keys.getLast?.map fun element =>
        { element, name := if shape.header.isSome then "elements" else "" }
      dependencies := keys }

/-- Buffers can be bound to blocks. -/
def setter : Form → Option Setter
  | struct .. => none
  | block _ _ shape => some (Setter.buffer .storage shape)

/-- The conversion of a form whose type has a key. -/
def conversion (form : Form) (key : TypeKey) : Conversion :=
  { type := key, storageBlock := form.setter }

@[simp] lemma type_conversion (form : Form) (key : TypeKey) : (form.conversion key).type = key := rfl

lemma bare_type (form : Form) {keys keys' : List TypeKey} (h : keys.length = keys'.length) :
    (form.type keys).bare = (form.type keys').bare := by
  cases form with
  | struct name body layout => rfl
  | block body layout shape =>
      cases keys with
      | nil =>
          obtain rfl : keys' = [] := List.length_eq_zero_iff.1 h.symm
          rfl
      | cons key keys =>
          obtain ⟨key', keys', rfl⟩ := List.exists_cons_of_length_eq_add_one h.symm
          cases helement : shape.element <;>
            simp [Form.type, GpuType.bare, helement, List.getLast?_cons]

lemma mem_dependencies_type (form : Form) {keys : List TypeKey} {key : TypeKey} :
    key ∈ (form.type keys).dependencies ↔ key ∈ keys := by
  cases form with
  | struct name body layout => simp [Form.type, Registry.mem_foldl_addKey]
  | block body layout shape => rfl

lemma mem_of_mem_references (form : Form) {keys : List TypeKey} {key : TypeKey}
    (h : key ∈ (form.type keys).references) : key ∈ keys := by
  rcases List.mem_append.1 h with h | h
  · exact form.mem_dependencies_type.1 h
  · cases form with
    | struct name body layout => simp [Form.type] at h
    | block body layout shape =>
        simp only [Form.type, Option.mem_toList, Option.map_eq_some_iff, Option.bind_eq_some_iff]
          at h
        obtain ⟨_, ⟨_, -, last, hlast, rfl⟩, rfl⟩ := h
        exact List.mem_of_getLast? hlast

end Form

/-! ## Recipes -/

/-- How a host type is registered. -/
inductive Recipe where
  | fail (error : SpecificationError)
  | done (form : Form)
  /-- Asks for the GPU type of a host type. -/
  | ask (host : HostType) (next : GpuType → Recipe)

namespace Recipe

/-- A struct whose size is that of its host type. -/
def struct (host : HostType) (layout : StructLayout) : Recipe :=
  if layout.size ≠ host.size then
    fail (.layoutMismatch host (.structSize layout.size host.size))
  else
    done (.struct (TypeName.ofHostName host.shortName) layout.body
      { size := layout.size, align := layout.align })

/-- An aggregate, of which some members have been placed. -/
def fields (host : HostType) (members : Registry.Members) : List Field → Recipe
  | [] => struct host members.layout
  | field :: rest => ask field.type fun type =>
    if type.valueName = "" || type.flexible.isSome then
      fail (.unnamedType .structMember field.name field.type)
    else fields host (members.add field.name ⟨0⟩ type) rest

/-- An aggregate with a hand-written body. -/
def layout (host : HostType) (body : StructLayout) : List HostType → Recipe
  | [] => struct host body
  | dependency :: rest => ask dependency fun _ => layout host body rest

/-- The elements of a buffer after its header. -/
def elements (host : HostType) (shape : BufferShape) (body : String) (layout : GpuLayout) : Recipe :=
  match shape.element with
  | none => done (.block body layout shape)
  | some element => ask element fun type =>
    let start := type.layout.place layout.size
    if start ≠ shape.firstElementOffset then
      fail (.layoutMismatch host (.firstElement start shape.firstElementOffset))
    else if type.layout.stride ≠ element.size then
      fail (.layoutMismatch host (.stride type.layout.stride element.size))
    else
      done (.block body { size := start, align := max layout.align type.layout.step } shape)

/-- A buffer. -/
def buffer (host : HostType) (shape : BufferShape) : Recipe :=
  match shape.header with
  | none => elements host shape "" {}
  | some header => ask header fun type =>
    if type.body = "" && type.valueName = "" then
      fail (.layoutMismatch host (.unnamedHeader header))
    else if type.layout.size ≠ header.size then
      fail (.layoutMismatch host (.headerSize type.layout.size header.size))
    else
      elements host shape
        (if type.body ≠ "" then type.body else "\t" ++ type.valueName ++ " header;\n")
        { size := type.layout.size, align := type.layout.align }

end Recipe

/-- The recipe of a host type, from its shape. -/
def recipe (host : HostType) : TypeShape → Recipe
  | .plain => .fail (.unsupported host)
  | .fields fields => .fields host {} fields
  | .layout layout => .layout host layout layout.dependencies
  | .buffer shape => .buffer host shape

/-! ## Carrying out a recipe -/

namespace Recipe

open Registry

variable (convert : HostType → Action ConversionKey)

/-- Carries out a recipe; `keys` are those of the types that were asked for before. -/
def follow : Recipe → List TypeKey → Action ConversionKey
  | fail error, _ => throw error
  | done form, keys => do
    let type ← specifyM (form.type keys)
    addConversionM (form.conversion type)
  | ask host next, keys => do
    let key ← typeKey convert host
    follow (next ((← get).type key).bare) (keys ++ [key])

lemma throw_bind {α β : Type} (error : SpecificationError) (f : α → Action β) :
    (throw error >>= f) = throw error := rfl

lemma addStruct_eq_follow (host : HostType) (layout : StructLayout) (keys : List TypeKey) :
    addStruct host layout (keys.foldl addKey []) = follow convert (struct host layout) keys := by
  by_cases h : layout.size = host.size
  · simp [addStruct, struct, h, follow, Form.type, Form.conversion, Form.setter]
  · simp [addStruct, struct, h, follow, throw_bind]

lemma addFields_eq_follow (host : HostType) (fields : List Field) (members members' : Members)
    (keys : List TypeKey) (hdependencies : members.dependencies = keys.foldl addKey [])
    (hbody : members'.body = members.body) (hoffset : members'.offset = members.offset)
    (halign : members'.align = members.align) :
    (fields.foldlM (addField convert) members >>= fun members =>
      addStruct host members.layout members.dependencies) =
      follow convert (Recipe.fields host members' fields) keys := by
  induction fields generalizing members members' keys with
  | nil =>
      have hlayout : members'.layout = members.layout := by
        simp only [Members.layout, hbody, hoffset, halign]
      rw [Recipe.fields, hlayout, ← addStruct_eq_follow, List.foldlM_nil, pure_bind, hdependencies]
  | cons field rest ih =>
      simp only [List.foldlM_cons, addField, bind_assoc, Recipe.fields, follow]
      refine bind_congr fun key => bind_congr fun registry => ?_
      rw [GpuType.valueName_bare, GpuType.isSome_flexible_bare]
      by_cases hunnamed : (registry.type key).valueName = "" || (registry.type key).flexible.isSome
      · rw [if_pos hunnamed, if_pos hunnamed]
        rfl
      · rw [if_neg hunnamed, if_neg hunnamed, pure_bind]
        apply ih
        · simp [Members.add, hdependencies]
        · simp [Members.add, hbody]
        · simp [Members.add, hoffset]
        · simp [Members.add, halign]

lemma addLayout_eq_follow (host : HostType) (layout : StructLayout) (dependencies : List HostType)
    (keys : List TypeKey) :
    (dependencies.foldlM (fun keys dependency => return addKey keys (← typeKey convert dependency))
      (keys.foldl addKey []) >>= fun keys => addStruct host layout keys) =
      follow convert (Recipe.layout host layout dependencies) keys := by
  induction dependencies generalizing keys with
  | nil => rw [Recipe.layout, ← addStruct_eq_follow, List.foldlM_nil, pure_bind]
  | cons dependency rest ih =>
      simp only [List.foldlM_cons, bind_assoc, Recipe.layout, follow]
      refine bind_congr fun key => ?_
      have hkeys : addKey (keys.foldl addKey []) key = (keys ++ [key]).foldl addKey [] := by simp
      rw [pure_bind, hkeys, ih]
      rfl

/-- The last steps of registering a buffer. -/
lemma bufferElements_eq_follow (host : HostType) (shape : BufferShape) (body : String)
    (layout : GpuLayout) (keys : List TypeKey) :
    (do
      let block : GpuType := { body, layout, dependencies := keys }
      let block ← match shape.element with
        | some element => bufferElements convert host shape block element
        | none => pure block
      let type ← specifyM block
      addConversionM { type, storageBlock := some (Setter.buffer .storage shape) }) =
      follow convert (elements host shape body layout) keys := by
  rw [elements]
  cases helement : shape.element with
  | none => simp [follow, Form.type, Form.conversion, Form.setter, helement]
  | some element =>
      simp only [bufferElements, bind_assoc, follow]
      refine bind_congr fun key => bind_congr fun registry => ?_
      rw [GpuType.layout_bare]
      by_cases hstart : (registry.type key).layout.place layout.size = shape.firstElementOffset
      · by_cases hstride : (registry.type key).layout.stride = element.size
        · simp [hstart, hstride, follow, Form.type, Form.conversion, Form.setter, helement]
        · simp only [hstart, hstride, ne_eq, not_true, not_false_eq_true, if_true, if_false]
          rfl
      · simp only [hstart, ne_eq, not_false_eq_true, if_true]
        rfl

lemma addBuffer_eq_follow (host : HostType) (shape : BufferShape) :
    addBuffer convert host shape = follow convert (buffer host shape) [] := by
  rw [addBuffer, buffer]
  cases shape.header with
  | none => exact bufferElements_eq_follow convert host shape "" {} []
  | some header =>
      simp only [bufferHeader, bind_assoc, follow]
      refine bind_congr fun key => bind_congr fun registry => ?_
      rw [GpuType.layout_bare, GpuType.body_bare, GpuType.valueName_bare]
      generalize registry.type key = type
      by_cases hunnamed : type.body = "" && type.valueName = ""
      · rw [if_pos hunnamed, if_pos hunnamed]
        rfl
      · rw [if_neg hunnamed, if_neg hunnamed]
        by_cases hsize : type.layout.size = header.size
        · rw [if_neg (not_not_intro hsize), if_neg (not_not_intro hsize), pure_bind]
          exact bufferElements_eq_follow convert host shape _ _ [key]
        · rw [if_pos hsize, if_pos hsize]
          rfl

/-- **Registering a host type is carrying out its recipe.** -/
theorem addShape_eq_follow (host : HostType) (shape : TypeShape) :
    addShape convert host shape = follow convert (recipe host shape) [] := by
  cases shape with
  | plain => rfl
  | fields fields => exact addFields_eq_follow convert host fields {} {} [] rfl rfl rfl rfl
  | layout layout => exact addLayout_eq_follow convert host layout layout.dependencies []
  | buffer shape => exact addBuffer_eq_follow convert host shape

/-! ## What a recipe gives -/

/-- With these answers the recipe asks for the types of `asked`, in order, and ends in a form. -/
def Gives (answer : HostType → Option GpuType) : Recipe → List HostType → Form → Prop
  | fail _, _, _ => False
  | done result, asked, form => asked = [] ∧ form = result
  | ask host next, asked, form => ∃ type rest,
      answer host = some type ∧ asked = host :: rest ∧ Gives answer (next type) rest form

variable {answer answer' : HostType → Option GpuType} {asked asked' : List HostType}
  {form form' : Form} {r : Recipe}

lemma Gives.mono (h : r.Gives answer asked form)
    (hsame : ∀ host ∈ asked, ∀ type, answer host = some type → answer' host = some type) :
    r.Gives answer' asked form := by
  induction r generalizing asked with
  | fail error => exact h
  | done result => exact h
  | ask host next ih =>
      obtain ⟨type, rest, hanswer, rfl, hrest⟩ := h
      have hhost := hsame host List.mem_cons_self type hanswer
      refine ⟨type, rest, hhost, rfl, ih type hrest ?_⟩
      intro other hother
      exact hsame other (List.mem_cons_of_mem _ hother)

lemma Gives.unique (h : r.Gives answer asked form) (h' : r.Gives answer' asked' form')
    (hsame : ∀ host ∈ asked, ∀ type type', answer host = some type → answer' host = some type' →
      type = type') : asked = asked' ∧ form = form' := by
  induction r generalizing asked asked' with
  | fail error => exact h.elim
  | done result =>
      obtain ⟨rfl, rfl⟩ := h
      obtain ⟨rfl, rfl⟩ := h'
      exact ⟨rfl, rfl⟩
  | ask host next ih =>
      obtain ⟨type, rest, hanswer, rfl, hrest⟩ := h
      obtain ⟨type', rest', hanswer', rfl, hrest'⟩ := h'
      obtain rfl := hsame host List.mem_cons_self type type' hanswer hanswer'
      obtain ⟨rfl, rfl⟩ := ih type hrest hrest' fun other hother =>
        hsame other (List.mem_cons_of_mem _ hother)
      exact ⟨rfl, rfl⟩

end Recipe

end ShaderWeave
