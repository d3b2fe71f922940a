import ToolSchema.Convert.Report
import ToolSchema.Proofs.Convert.Assembly
import ToolSchema.Proofs.Convert.Documentation
import ToolSchema.Proofs.Convert.Shape

/-!
# Reports under lenient policies

A lenient conversion of a target with a shape gives a report that can be written down: the
parameters of the signature with what the comment's tags say about them, and the warnings of the
lookup before those of the comment (`report_of_shape`). A target without a shape gives its shape's
error under every configuration, and nothing is looked up (`convert_of_shape_error`).

Whatever the policies are, a report depends on the shape, on the comment that is found, and on what
the lookup warned about, and on nothing else (`report_convert`).
-/

namespace ToolSchema

variable {config : Config} {disk : Disk} {index : DocIndex} {t : Target}

/-- A target without a shape is not looked at any further. -/
theorem convert_of_shape_error {e : ConvertError} (h : t.shape = .error e) :
    t.convert config disk index = ⟨[.started], .error e, index⟩ := by
  rw [Target.convert, h]

/-- The conversion of a target with a shape is its assembly with the comment that is found. -/
theorem convert_of_shape {ps : List Parameter} (h : t.shape = .ok ps) :
    t.convert config disk index = build config t.name ps (t.lookUp disk index) := by
  rw [Target.convert, h]

theorem result_build (name : String) (ps : List Parameter) (found : Lookup) :
    (build config name ps found).result = (assemble config name found.doc ps).result := by
  rw [build]
  rcases assemble config name found.doc ps with ⟨ns, e | tool⟩ <;> rfl

/-- A conversion warns about what its lookup and its assembly warn about. -/
theorem warnings_build (name : String) (ps : List Parameter) (found : Lookup) :
    (build config name ps found).warnings =
      warningsOf found.notes ++ warningsOf (assemble config name found.doc ps).notes := by
  rw [Conversion.warnings, build]
  rcases assemble config name found.doc ps with ⟨ns, e | tool⟩ <;>
    simp [Traced.note, Note.warning?]

/-- The report of an assembly, with the warnings that came up before it. -/
def Traced.report (before : List Warning) (x : Traced Tool) : Except ConvertError Report :=
  x.result.map fun tool ↦ ⟨tool, before ++ warningsOf x.notes⟩

/-- **A report is that of an assembly**, under every configuration, unless the target has no
shape. -/
theorem report_convert (config : Config) (disk : Disk) (index : DocIndex) (t : Target) :
    (t.convert config disk index).report =
      t.shape.bind fun ps ↦
        (assemble config t.name (t.lookUp disk index).doc ps).report
          (t.lookupWarnings disk index) := by
  rcases h : t.shape with e | ps
  · rw [convert_of_shape_error h]
    rfl
  · rw [convert_of_shape h, Conversion.report, result_build, warnings_build, warningsOf_lookUp]
    rfl

/-- What the well-formed tags of a comment make of the seeds of a signature, in the order of the
passes. -/
def documented (mode : ValuesParsing) (doc : DocComment) (ps : List Parameter) : List Parameter :=
  ps.map fun p ↦ (inPasses (doc.parsedTags mode)).foldl Parameter.heed p

/-- **The report of a lenient conversion.** -/
theorem report_of_shape (htag : config.tagPolicy = .lenient) (htype : config.typePolicy = .lenient)
    {ps : List Parameter} (h : t.shape = .ok ps) :
    (t.convert config disk index).report =
      .ok ⟨.ofParameters t.name (t.lookUp disk index).doc.description
          (documented config.valuesParsing (t.lookUp disk index).doc ps),
        t.lookupWarnings disk index ++
          (t.lookUp disk index).doc.warnings config.valuesParsing (t.params.map Param.name)⟩ := by
  obtain ⟨-, -, hnd, rfl⟩ := shape_eq_ok_iff.1 h
  rw [← map_name_seed] at hnd
  rw [convert_of_shape h, Conversion.report, result_build, result_assemble htag htype _ _ hnd,
    warnings_build, warningsOf_lookUp, warningsOf_assemble htag htype _ _ hnd, map_name_seed]
  rfl

end ToolSchema
