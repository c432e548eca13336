import ShaderWeave.Renderer
import ShaderWeave.Report.Basic

/-!
# Reports of errors and of emitted code

An error is reported by its kind, its wording and, if there is one, its cause.  `Task.emitReport` is
what a task writes, with an error in place of a text it could not write.
-/

namespace ShaderWeave

/-- The report of an error. -/
def Report.error (kind message : String) (cause : Option String) : Report :=
  .record ([("error", .text kind), ("message", .text message)]
    ++ cause.toList.map fun cause => ("cause", .text cause))

instance : Reported ResolveError := ⟨fun e => .error e.kind e.message none⟩
instance : Reported EmitError := ⟨fun e => .error e.kind e.message e.cause⟩
instance : Reported SpecificationError := ⟨fun e => .error e.kind e.message e.cause⟩
instance : Reported ShaderError := ⟨fun e => .error e.kind e.message e.cause⟩
instance : Reported RendererError := ⟨fun e => .error e.kind e.message none⟩

/-- A bind error names types as the host program knows them. -/
def BindError.report (names : HostNames) (e : BindError) : Report :=
  .error e.kind e.message (e.cause names)

/-- A file error has no wording of its own. -/
instance : Reported FileError := ⟨fun
  | .notFound => .record [("error", "Io/NotFound")]
  | .invalidData => .record [("error", "Io/InvalidData")]⟩

/-- What a task writes, and what it works on. -/
def Task.emitReport (task : Task) (context : EmitContext) : Report :=
  .record ([("declaration", report (task.declaration context)),
    ("usage", report (task.usage context)), ("friendly", report task.label),
    ("types", report (task.collectTypes .empty).order)]
      ++ (report task.lists).fields)

end ShaderWeave
