import Mathlib.Data.List.Forall2
import ToolSchema.Command.Log
import ToolSchema.Proofs.Convert.TakenUp

/-!
# The log of a conversion

The level of logging says how much of a conversion is told, and has no part in it: the notes are the
same at every level (`convert_loggingAt`), and a line of the log is one of them in words. So what
the log holds at a level is read off the notes: the warnings, the tags that were taken up, and the
two notes that frame a conversion with a schema (`log_convert`).

Whether a line is about a tag is told by its message, which no other line of its level has. The
message of a warning could be anything as far as this module knows, which is why the level is asked
for as well (`LogEntry.isApplied`, `LogEntry.isFrame`).
-/

namespace ToolSchema

/-! ### Levels -/

/-- The configuration with another level of logging. -/
def Config.loggingAt (config : Config) (level : LogLevel) : Config :=
  { config with logLevel := level }

theorem readTags_loggingAt (config : Config) (level : LogLevel) (ts : List Tag) :
    readTags (config.loggingAt level) ts = readTags config ts := by
  induction ts with
  | nil => rfl
  | cons t ts ih =>
    rw [readTags, ih, readTags]
    rfl

/-- **The level of logging has no part in a conversion**, not in what it gives nor in what it notes
down nor in what it reads. -/
theorem convert_loggingAt (config : Config) (level : LogLevel) (disk : Disk) (index : DocIndex)
    (t : Target) :
    t.convert (config.loggingAt level) disk index = t.convert config disk index := by
  have hassemble (doc : DocComment) (ps : List Parameter) :
      assemble (config.loggingAt level) t.name doc ps = assemble config t.name doc ps := by
    rw [assemble, readTags_loggingAt, assemble]
    rfl
  rcases h : t.shape with e | ps
  · rw [convert_of_shape_error h, convert_of_shape_error h]
  · rw [convert_of_shape h, convert_of_shape h, build, hassemble, build]

/-! ### Lines -/

/-- The line about a warning. -/
def Warning.entry (callable : String) (w : Warning) : LogEntry :=
  ⟨.warn, "doctool_schema::report", w.message, [("callable", .plain callable)]⟩

/-- The line about a tag that was taken up, with the type that its parameter has then. -/
def ParsedTag.entry (callable : String) (tag : ParsedTag) (type : JsonType) : LogEntry :=
  ⟨.debug, "doctool_schema::assemble", "Applied documentation tag",
    [("callable", .quoted callable), ("parameter", .quoted tag.parameter),
      ("tag", .plain tag.kind.tagName), ("json_type", .plain type.name)]⟩

namespace LogEntry

/-- The line that says that a conversion starts. -/
def started (callable : String) : LogEntry :=
  ⟨.debug, "doctool_schema::convert", "Converting target", [("callable", .quoted callable)]⟩

/-- The line that says that a schema is complete. -/
def assembled (callable : String) (parameters : Nat) : LogEntry :=
  ⟨.debug, "doctool_schema::convert", "Assembled schema",
    [("callable", .quoted callable), ("parameters", .count parameters)]⟩

/-- The line says that a tag was taken up. -/
def isApplied (e : LogEntry) : Bool :=
  e.level == .debug && e.message == "Applied documentation tag"

/-- The line says that a conversion starts or that its schema is complete. -/
def isFrame (e : LogEntry) : Bool :=
  e.level == .debug && (e.message == "Converting target" || e.message == "Assembled schema")

end LogEntry

/-- The line about a note. -/
def Note.entry (callable : String) (n : Note) : LogEntry := (Event.mk callable n).entry

variable {callable : String}

theorem isApplied_entry (n : Note) : (n.entry callable).isApplied = n.applied?.isSome := by
  cases n <;> rfl

theorem isFrame_entry (n : Note) : (n.entry callable).isFrame = !n.isInner := by
  cases n <;> rfl

theorem level_entry (n : Note) : (n.entry callable).level = n.level := by
  cases n <;> rfl

/-- The lines at a level are those of the notes that are told at it. -/
theorem logEntries_ofNotes (level : LogLevel) (ns : List Note) :
    logEntries level (Event.ofNotes callable ns) =
      (ns.filter fun n ↦ level.enables n.level).map (Note.entry callable) := by
  rw [logEntries, Event.told, Event.ofNotes, List.filter_map, List.map_map]
  rfl

/-- Of the notes, the warnings are told as warnings. -/
theorem map_entry_filter_warn (ns : List Note) :
    (ns.filter fun n ↦ n.level == .warn).map (Note.entry callable) =
      (warningsOf ns).map (Warning.entry callable) := by
  induction ns with
  | nil => rfl
  | cons n ns ih =>
    cases n with
    | warning w =>
      rw [List.filter_cons_of_pos rfl, warningsOf_cons, List.map_cons, ih]
      rfl
    | _ =>
      rw [List.filter_cons_of_neg (by simp [Note.level]), warningsOf_cons, ih]
      rfl

theorem logEntries_silent (ns : List Note) :
    logEntries .silent (Event.ofNotes callable ns) = [] := by
  have htold (n : Note) : LogLevel.silent.enables n.level = false := by cases n <;> rfl
  simp [logEntries_ofNotes, htold]

theorem logEntries_warn (ns : List Note) :
    logEntries .warn (Event.ofNotes callable ns) =
      (warningsOf ns).map (Warning.entry callable) := by
  have htold (n : Note) : LogLevel.warn.enables n.level = (n.level == .warn) := by cases n <;> rfl
  rw [logEntries_ofNotes, ← map_entry_filter_warn]
  simp only [htold]

theorem logEntries_debug (ns : List Note) :
    logEntries .debug (Event.ofNotes callable ns) = ns.map (Note.entry callable) := by
  have htold (n : Note) : LogLevel.debug.enables n.level = true := by cases n <;> rfl
  rw [logEntries_ofNotes, List.filter_eq_self.2 fun n _ ↦ htold n]

/-- Among the lines of all notes, those at the level of warnings are about warnings. -/
theorem filter_warn_map_entry (ns : List Note) :
    (ns.map (Note.entry callable)).filter (fun e ↦ e.level == .warn) =
      (warningsOf ns).map (Warning.entry callable) := by
  rw [List.filter_map, ← map_entry_filter_warn]
  simp only [Function.comp_def, level_entry]

/-- The lines that say that a tag was taken up are one for each such note. -/
theorem forall₂_filter_isApplied {ns : List Note} {tags : List ParsedTag}
    (h : appliedOf ns = tags.map ParsedTag.subject) :
    List.Forall₂ (fun e tag ↦ ∃ type, e = tag.entry callable type)
      ((ns.map (Note.entry callable)).filter LogEntry.isApplied) tags := by
  induction ns generalizing tags with
  | nil =>
    obtain rfl : tags = [] := List.map_eq_nil_iff.1 h.symm
    exact .nil
  | cons n ns ih =>
    rw [appliedOf_cons] at h
    cases n with
    | applied parameter kind type =>
      obtain ⟨tag, tags, rfl, hsubject, hrest⟩ := List.map_eq_cons_iff.1 h.symm
      obtain ⟨rfl, rfl⟩ := Prod.mk.inj hsubject
      rw [List.map_cons, List.filter_cons_of_pos (by rw [isApplied_entry]; rfl)]
      exact .cons ⟨type, rfl⟩ (ih hrest.symm)
    | _ =>
      rw [List.map_cons, List.filter_cons_of_neg (by simp [isApplied_entry, Note.applied?])]
      exact ih h

/-! ### Conversions -/

/-- The lines that a conversion adds to the log. -/
def Target.log (config : Config) (disk : Disk) (index : DocIndex) (t : Target) : List LogEntry :=
  logEntries config.logLevel (Event.ofNotes t.name (t.convert config disk index).notes)

/-- The lines at a level. -/
theorem log_loggingAt (config : Config) (level : LogLevel) (disk : Disk) (index : DocIndex)
    (t : Target) :
    t.log (config.loggingAt level) disk index =
      logEntries level (Event.ofNotes t.name (t.convert config disk index).notes) := by
  rw [Target.log, convert_loggingAt]
  rfl

/-- **Logging observes a conversion and misses no warning.** The level of logging has no part in a
report, nor in what is read for it. Nothing is told silently. At the level of warnings there is a
line for each warning that came up, in their order, whether the conversion fails or not; these are
the warnings of the report, if there is one. With all steps told, the same lines are there in the
same order, among lines about steps only: one of these for each tag that was taken up, in the order
in which they are, and, around the log of a conversion with a schema, the one that it starts and the
one that the schema is complete, which come up nowhere in between. -/
theorem log_convert (config : Config) (disk : Disk) (index : DocIndex) (t : Target) :
    let c := t.convert config disk index
    let warnings := (t.raised config disk index).map (Warning.entry t.name)
    let steps := t.log (config.loggingAt .debug) disk index
    (∀ level, (t.convert (config.loggingAt level) disk index).report = c.report ∧
      (t.convert (config.loggingAt level) disk index).index = c.index) ∧
    t.log (config.loggingAt .silent) disk index = [] ∧
    t.log (config.loggingAt .warn) disk index = warnings ∧
    steps.filter (fun e ↦ e.level == .warn) = warnings ∧
    (∀ e ∈ steps, e.level = .warn ∨ e.level = .debug) ∧
    List.Forall₂ (fun e tag ↦ ∃ type, e = tag.entry t.name type)
      (steps.filter LogEntry.isApplied) (t.takenUp config disk index) ∧
    ∀ r, c.report = .ok r →
      r.warnings = t.raised config disk index ∧
      ∃ inner, steps =
          .started t.name :: (inner ++ [.assembled t.name r.tool.parameterCount]) ∧
        ∀ e ∈ inner, e.isFrame = false := by
  intro c warnings steps
  have hwarnings : warningsOf c.notes = t.raised config disk index :=
    warnings_convert config disk index t
  have hsteps : steps = c.notes.map (Note.entry t.name) := by
    rw [← logEntries_debug, ← log_loggingAt]
  refine ⟨fun level ↦ ?_, ?_, ?_, ?_, fun e he ↦ ?_, ?_, fun r hr ↦ ?_⟩
  · rw [convert_loggingAt]
    exact ⟨rfl, rfl⟩
  · rw [log_loggingAt, logEntries_silent]
  · rw [log_loggingAt, logEntries_warn, hwarnings]
  · rw [hsteps, filter_warn_map_entry, hwarnings]
  · rw [hsteps] at he
    obtain ⟨n, -, rfl⟩ := List.mem_map.1 he
    rw [level_entry]
    cases n with
    | warning w => exact .inl rfl
    | _ => exact .inr rfl
  · rw [hsteps]
    exact forall₂_filter_isApplied (appliedOf_convert config disk index t)
  · obtain ⟨tool, htool, rfl⟩ : ∃ tool, c.result = .ok tool ∧ ⟨tool, c.warnings⟩ = r := by
      rw [Conversion.report] at hr
      rcases hc : c.result with e | tool
      · rw [hc] at hr
        cases hr
      · rw [hc] at hr
        exact ⟨tool, rfl, Except.ok.inj hr⟩
    obtain ⟨inner, hnotes, hinner⟩ := exists_notes_convert htool
    refine ⟨hwarnings, inner.map (Note.entry t.name), ?_, fun e he ↦ ?_⟩
    · rw [hsteps, hnotes, List.map_cons, List.map_append]
      rfl
    · obtain ⟨n, hn, rfl⟩ := List.mem_map.1 he
      rw [isFrame_entry, hinner n hn]
      rfl

/-- A class with a file that is not there, a malformed tag, a type that stands for none and a tag
about an undeclared parameter. Under a strict policy for types the conversion fails at the third of
these, and the first two are told; under lenient policies it goes on. -/
theorem log_convert_refused :
    let file : Path := ⟨"absent.rb"⟩
    let text := "Packs.\n@param p [Widget] A.\n@min_items q 2\n@max_items p 0\n@see q"
    let t : Target := .classType ⟨"Packer", .location ⟨file, 3⟩,
      some ⟨"initialize", [⟨"p", .requiredNamed, none⟩], .inline text⟩⟩
    let disk := Disk.ofReadings []
    let strict : Config := { typePolicy := .strict }
    let early : List Warning :=
      [.docLookupFailed ⟨file, 3⟩ ⟨file, .notFound⟩, .malformedTag ⟨.maxItems, "p 0", .zeroCount⟩]
    (t.convert strict disk {}).report = .error (.unsupportedType "p" "Widget") ∧
      t.log strict disk {} = early.map (Warning.entry "Packer") ∧
      ∃ r, (t.convert {} disk {}).report = .ok r ∧
        r.warnings = early ++ [.unknownType "p" "Widget", .unknownParameter .minItems "q"] ∧
        t.log {} disk {} = r.warnings.map (Warning.entry "Packer") := by
  intro file text t disk strict early
  obtain ⟨-, -, hstrict, -⟩ := log_convert strict disk {} t
  obtain ⟨-, -, hlenient, -, -, -, hok⟩ := log_convert {} disk {} t
  have hraised : t.raised strict disk {} = early := by
    simp only [t, text, file, strict, disk, early]
    rfl
  have hr : (t.convert {} disk {}).report = .ok
      ⟨.ofParameters "Packer" "Packs." [{ name := "p", isRequired := true, description := "A." }],
        early ++ [.unknownType "p" "Widget", .unknownParameter .minItems "q"]⟩ := by
    simp only [t, text, file, disk, early]
    rfl
  obtain ⟨hwarnings, -⟩ := hok _ hr
  rw [hraised] at hstrict
  rw [← hwarnings] at hlenient
  refine ⟨?_, hstrict, _, hr, rfl, hlenient⟩
  simp only [t, text, file, strict, disk]
  rfl

end ToolSchema
