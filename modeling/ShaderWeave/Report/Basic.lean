import ShaderWeave.Pipeline.Basic

/-!
# Reports

A `Report` is what the library shows of a value: a tree of numbers, texts, lists and records, which
any text format can carry.  `Reported` gives a type its report, and a value of such a type may stand
wherever a report is expected.

A property is reported by its name and the short name of its type, a list of properties in its order.
-/

namespace ShaderWeave

/-- What is shown of a value. -/
inductive Report where
  | nothing
  | flag (value : Bool)
  | number (value : Int)
  | text (value : String)
  | list (items : List Report)
  | record (fields : List (String × Report))

/-- Types whose values can be shown. -/
class Reported (α : Type) where
  report : α → Report

export Reported (report)

instance {α : Type} [Reported α] : CoeOut α Report := ⟨report⟩

namespace Report

/-- The fields of a record. -/
def fields : Report → List (String × Report)
  | record fields => fields
  | _ => []

instance : Reported Unit := ⟨fun _ => nothing⟩
instance : Reported Bool := ⟨flag⟩
instance : Reported Int := ⟨number⟩
instance : Reported Nat := ⟨fun n => number n⟩
instance : Reported String := ⟨text⟩
instance : Reported Report := ⟨id⟩

instance {α : Type} [Reported α] : Reported (List α) := ⟨fun items => list (items.map report)⟩

instance {α : Type} [Reported α] : Reported (Option α) := ⟨fun
  | some a => report a
  | none => nothing⟩

/-- A result is reported as what it holds. -/
instance {ε α : Type} [Reported ε] [Reported α] : Reported (Except ε α) := ⟨fun
  | .ok a => report a
  | .error e => report e⟩

end Report

instance : Reported HostType := ⟨fun type => .text type.shortName⟩
instance : Reported Property := ⟨fun p => .list [p.name, p.type]⟩
instance : Reported PropertyList := ⟨fun list => report list.entries⟩
instance : Reported Stage := ⟨fun stage => .text stage.name⟩
instance : Reported Event := ⟨fun event => .list [event.level.label, event.text]⟩

instance : Reported TaskLists := ⟨fun lists =>
  .record [("inputs", lists.inputs), ("outputs", lists.outputs), ("filters", lists.filters),
    ("consuming", lists.consuming)]⟩

/-- The properties of each class. -/
def Pipeline.classReport (pipeline : Pipeline) : Report :=
  .record (PropertyClass.all.map fun cls => (cls.label, report (pipeline.list cls)))

end ShaderWeave
