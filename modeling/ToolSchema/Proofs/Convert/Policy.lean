import ToolSchema.Proofs.Convert.Report

/-!
# Strict and lenient conversions

Strict policies reject what lenient ones warn about, and else change nothing. Step by step, the run
under a configuration is the run under its lenient form, cut at the first warning that is fatal for
the configuration (`trace_convert`). A lenient conversion only fails on the shape of its target,
before it warns about anything, so the cut also says which error a report is
(`report_eq_of_lenient`).
-/

namespace ToolSchema

/-! ### Fatal warnings -/

/-- The error that a warning becomes where the configuration is strict about its cause. Undeclared
parameters and documentation that is not there are an error under no policy. -/
def Warning.fatal? (config : Config) : Warning → Option ConvertError
  | malformedTag e => if config.tagPolicy = .strict then some (.invalidTag e) else none
  | unknownType parameter typeName =>
    if config.typePolicy = .strict then some (.unsupportedType parameter typeName) else none
  | _ => none

theorem fatal?_of_isAboutPlace {config : Config} {w : Warning} (h : w.isAboutPlace = true) :
    w.fatal? config = none := by
  cases w with
  | docLookupFailed => rfl
  | missingDocs => rfl
  | _ => cases h

/-! ### Assembly, step by step -/

theorem readTags_eq_cut (config : Config) (ts : List Tag) :
    readTags config ts = (readTags config.lenient ts).cut (Warning.fatal? config) := by
  induction ts with
  | nil => rfl
  | cons t ts ih =>
    have hm : config.lenient.valuesParsing = config.valuesParsing := rfl
    rw [readTags, readTags, hm]
    rcases t.parse? config.valuesParsing with - | (e | p)
    · exact ih
    · -- the one place where the policy for tags has a say
      rw [Traced.cut_bind, ← ih]
      exact congrArg (· >>= fun _ ↦ readTags config ts) (Traced.tolerate_eq_cut () rfl)
    · rw [Traced.cut_bind, ← ih]
      rfl

theorem resolveType_eq_cut (config : Config) (parameter n : String) :
    resolveType config.typePolicy parameter n =
      (resolveType .lenient parameter n).cut (Warning.fatal? config) := by
  rw [resolveType, resolveType]
  split
  · rfl
  · exact Traced.tolerate_eq_cut _ rfl

theorem apply_eq_cut (config : Config) (p : Parameter) (tag : ParsedTag) :
    p.apply config.typePolicy tag = (p.apply .lenient tag).cut (Warning.fatal? config) := by
  cases tag with
  | param q types d =>
    cases types with
    | nil => rfl
    | cons n types =>
      rw [Parameter.apply, Parameter.apply, Traced.cut_bind, ← resolveType_eq_cut]
      rfl
  | _ => rfl

/-- A type is only resolved for a tag that names the parameter, under either policy. -/
theorem applyTag_eq_cut (config : Config) (tag : ParsedTag) (ps : List Parameter) :
    applyTag config.typePolicy tag ps =
      (applyTag .lenient tag ps).cut (Warning.fatal? config) := by
  induction ps with
  | nil => rfl
  | cons p ps ih =>
    rw [applyTag, applyTag]
    split
    · rw [Traced.cut_bind, ← apply_eq_cut]
      rfl
    · rw [Traced.cut_bind, ← ih]
      rfl

theorem applyTags_eq_cut (config : Config) (tags : List ParsedTag) (ps : List Parameter) :
    applyTags config.typePolicy ps tags =
      (applyTags .lenient ps tags).cut (Warning.fatal? config) := by
  induction tags generalizing ps with
  | nil => rfl
  | cons tag tags ih =>
    rw [applyTags, applyTags, Traced.cut_bind, ← applyTag_eq_cut]
    exact congrArg (_ >>= ·) (funext fun ps ↦ ih ps)

/-- **A strict assembly is the lenient one, cut.** -/
theorem assemble_eq_cut (config : Config) (name : String) (doc : DocComment)
    (ps : List Parameter) :
    assemble config name doc ps =
      (assemble config.lenient name doc ps).cut (Warning.fatal? config) := by
  rw [assemble, assemble, Traced.cut_bind, ← readTags_eq_cut]
  refine congrArg (_ >>= ·) (funext fun tags ↦ ?_)
  rw [Traced.cut_bind]
  exact congrArg (· >>= _) (applyTags_eq_cut config _ ps)

/-- **When an assembly succeeds**: nothing that its comment warns about is fatal. The policies have
no say in the tool that it gives then. -/
theorem result_assemble_eq_ok_iff {config : Config} {name : String} {doc : DocComment}
    {ps : List Parameter} (hps : (ps.map Parameter.name).Nodup) {tool : Tool} :
    (assemble config name doc ps).result = .ok tool ↔
      (∀ w ∈ doc.warnings config.valuesParsing (ps.map Parameter.name), w.fatal? config = none) ∧
        tool = .ofParameters name doc.description (documented config.valuesParsing doc ps) := by
  -- the lenient run has a result in any case; it is this one's if nothing is fatal
  have hresult : (assemble config.lenient name doc ps).result =
      .ok (.ofParameters name doc.description (documented config.valuesParsing doc ps)) :=
    result_assemble rfl rfl name doc hps
  have hwarnings : warningsOf (assemble config.lenient name doc ps).notes =
      doc.warnings config.valuesParsing (ps.map Parameter.name) :=
    warningsOf_assemble rfl rfl name doc hps
  have hstop : (assemble config.lenient name doc ps).notes.findSome?
        (Note.stop? (Warning.fatal? config)) = none ↔
      ∀ w ∈ doc.warnings config.valuesParsing (ps.map Parameter.name),
        w.fatal? config = none := by
    rw [findSome?_stop?, hwarnings, List.findSome?_eq_none_iff]
  rw [assemble_eq_cut, ← hstop]
  constructor
  · intro h
    have hnone := Traced.findSome?_eq_none_of_result_cut h
    have hlenient := Traced.result_of_result_cut h
    rw [hresult] at hlenient
    exact ⟨hnone, (Except.ok.inj hlenient).symm⟩
  · rintro ⟨hnone, rfl⟩
    rw [Traced.cut_of_none hnone, hresult]

/-! ### Conversions -/

/-- What a conversion notes down and gives, without the index. -/
def Conversion.trace (c : Conversion) : Traced Tool := ⟨c.notes, c.result⟩

/-- Where the lookup notes nothing fatal, building from what it found is cut like the assembly. -/
theorem trace_build {config : Config} {found : Lookup}
    (h : found.notes.findSome? (Note.stop? (Warning.fatal? config)) = none) (name : String)
    (ps : List Parameter) :
    (build config name ps found).trace =
      (build config.lenient name ps found).trace.cut (Warning.fatal? config) := by
  -- what is noted before the assembly does not stop, so the cut is in the assembly
  have hs : (Note.started :: found.notes).findSome? (Note.stop? (Warning.fatal? config)) = none := h
  have hcut := Traced.cut_append (Warning.fatal? config) hs do
    let tool ← assemble config.lenient name found.doc ps
    Traced.note (.assembled tool.parameterCount)
    return tool
  rw [Traced.cut_bind, ← assemble_eq_cut] at hcut
  exact hcut.symm

/-- What a lookup warns about is not fatal. -/
theorem findSome?_lookUp (config : Config) (disk : Disk) (index : DocIndex) (t : Target) :
    (t.lookUp disk index).notes.findSome? (Note.stop? (Warning.fatal? config)) = none := by
  rw [findSome?_stop?, warningsOf_lookUp, List.findSome?_eq_none_iff]
  exact fun w hw ↦ fatal?_of_isAboutPlace (isAboutPlace_of_mem_lookupWarnings hw)

/-- **A conversion is the lenient one, cut at the first fatal warning.** -/
theorem trace_convert (config : Config) (disk : Disk) (index : DocIndex) (t : Target) :
    (t.convert config disk index).trace =
      (t.convert config.lenient disk index).trace.cut (Warning.fatal? config) := by
  rw [Target.convert, Target.convert]
  split
  · rfl
  · exact trace_build (findSome?_lookUp config disk index t) t.name _

/-- The policies have no say in what is looked up. -/
theorem index_convert (config : Config) (disk : Disk) (index : DocIndex) (t : Target) :
    (t.convert config disk index).index = (t.convert config.lenient disk index).index := by
  rw [Target.convert, Target.convert]
  split <;> rfl

/-- The report of a run that was cut: the error of the first fatal warning, if there is one. -/
theorem report_of_trace_eq_cut {stop : Warning → Option ConvertError} {c lenient : Conversion}
    {r : Report} (hc : c.trace = lenient.trace.cut stop) (hr : lenient.report = .ok r) :
    c.report = match r.warnings.findSome? stop with
      | some e => .error e
      | none => .ok r := by
  obtain ⟨ns, e | tool, after⟩ := lenient
  · exact nomatch hr
  · obtain rfl : Report.mk tool (warningsOf ns) = r := Except.ok.inj hr
    show c.result.map (fun t ↦ Report.mk t (warningsOf c.notes)) = _
    have hnotes : c.notes = c.trace.notes := rfl
    have hresult : c.result = c.trace.result := rfl
    rw [← findSome?_stop?, hnotes, hresult, hc, Conversion.trace]
    rcases h : ns.findSome? (Note.stop? stop) with - | e
    · rw [Traced.cut_of_none (x := ⟨ns, .ok tool⟩) h]
      rfl
    · rw [Traced.cut_of_some (x := ⟨ns, .ok tool⟩) h]
      rfl

/-- A conversion that has nothing to warn about is the same under every configuration. -/
theorem report_of_no_warnings {config : Config} {disk : Disk} {index : DocIndex} {t : Target}
    {ps : List Parameter} (h : t.shape = .ok ps)
    (hlookup : t.lookupWarnings disk index = [])
    (hdoc : (t.lookUp disk index).doc.warnings config.valuesParsing
      (t.params.map Param.name) = []) :
    (t.convert config disk index).report =
      .ok ⟨.ofParameters t.name (t.lookUp disk index).doc.description
        (documented config.valuesParsing (t.lookUp disk index).doc ps), []⟩ := by
  have hlenient : (t.convert config.lenient disk index).report = .ok ⟨_, _⟩ :=
    report_of_shape rfl rfl h
  have hm : config.lenient.valuesParsing = config.valuesParsing := rfl
  rw [hm, hlookup, hdoc] at hlenient
  rw [report_of_trace_eq_cut (trace_convert config disk index t) hlenient]
  rfl

/-- **Strict policies reject exactly what lenient ones warn about, and change nothing else.** With
both policies lenient, the same configuration gives an error for the shape of the target only, and
then every configuration gives it. Else its report stands as it is, unless one of its warnings is
fatal: then the first such warning is the error. What is read on the way is the same. -/
theorem report_eq_of_lenient (config : Config) (disk : Disk) (index : DocIndex) (t : Target) :
    (t.convert config disk index).report =
      (match (t.convert config.lenient disk index).report with
      | .error e => .error e
      | .ok r =>
        match r.warnings.findSome? (Warning.fatal? config) with
        | some e => .error e
        | none => .ok r) ∧
    (t.convert config disk index).index = (t.convert config.lenient disk index).index := by
  refine ⟨?_, index_convert config disk index t⟩
  rcases hs : t.shape with e | ps
  · rw [convert_of_shape_error hs, convert_of_shape_error hs]
    rfl
  · -- a lenient conversion of a target with a shape is a report, so only its warnings matter
    obtain ⟨r, hr⟩ : ∃ r, (t.convert config.lenient disk index).report = .ok r :=
      ⟨_, report_of_shape rfl rfl hs⟩
    rw [hr]
    exact report_of_trace_eq_cut (trace_convert config disk index t) hr

end ToolSchema
