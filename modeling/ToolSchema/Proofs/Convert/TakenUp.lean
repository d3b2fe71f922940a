import ToolSchema.Proofs.Convert.Policy
import ToolSchema.Proofs.Convert.Warnings

/-!
# What comes up in a conversion

A conversion may fail half-way, and what was noted down by then stays noted down. This module says
what that is under any configuration, without running the conversion:

* `warnings_convert`: the warnings that come up are those of the lenient conversion before the first
  fatal one (`Target.raised`). This rests on `trace_convert` alone.
* `appliedOf_convert`: the tags that are taken up are those about declared parameters, in the order
  of the passes, before the first one whose type is refused; there are none if a malformed tag is
  refused, since all tags are read first (`Target.takenUp`). Here the notes of a single tag matter:
  its warning comes before the note that it was taken up, so a tag with a fatal warning leaves none.
-/

namespace ToolSchema

variable {config : Config} {disk : Disk} {index : DocIndex} {t : Target}

/-! ### Warnings -/

/-- **The warnings that come up** when a target is converted: those that a lenient conversion gives,
up to the first fatal one. -/
def Target.raised (config : Config) (disk : Disk) (index : DocIndex) (t : Target) : List Warning :=
  match t.shape with
  | .error _ => []
  | .ok _ =>
    (t.lookupWarnings disk index ++
      (t.lookUp disk index).doc.warnings config.valuesParsing (t.params.map Param.name)).takeWhile
        fun w ↦ (w.fatal? config).isNone

/-- Under lenient policies all of them come up. -/
theorem warnings_convert_lenient (config : Config) (disk : Disk) (index : DocIndex)
    {ps : List Parameter} (h : t.shape = .ok ps) :
    (t.convert config.lenient disk index).warnings =
      t.lookupWarnings disk index ++
        (t.lookUp disk index).doc.warnings config.valuesParsing (t.params.map Param.name) := by
  obtain ⟨-, -, hnd, rfl⟩ := shape_eq_ok_iff.1 h
  rw [← map_name_seed] at hnd
  rw [convert_of_shape h, warnings_build, warningsOf_lookUp, warningsOf_assemble rfl rfl _ _ hnd,
    map_name_seed]
  rfl

theorem warnings_convert (config : Config) (disk : Disk) (index : DocIndex) (t : Target) :
    (t.convert config disk index).warnings = t.raised config disk index := by
  rcases h : t.shape with e | ps
  · rw [convert_of_shape_error h, Target.raised, h]
    rfl
  · have hnotes : (t.convert config disk index).notes =
        Traced.notesBefore (Warning.fatal? config) (t.convert config.lenient disk index).notes := by
      have hcut := congrArg Traced.notes (trace_convert config disk index t)
      rwa [Traced.notes_cut] at hcut
    have hlenient := warnings_convert_lenient config disk index h
    rw [Conversion.warnings] at hlenient
    rw [Conversion.warnings, hnotes, Traced.warningsOf_notesBefore, hlenient, Target.raised, h]

/-! ### Tags -/

/-- The parameter and the kind of a tag that was taken up. -/
def Note.applied? : Note → Option (String × TagKind)
  | applied parameter kind _ => some (parameter, kind)
  | _ => none

/-- The tags among notes that were taken up. -/
def appliedOf (notes : List Note) : List (String × TagKind) := notes.filterMap Note.applied?

@[simp] theorem appliedOf_nil : appliedOf [] = [] := rfl

@[simp] theorem appliedOf_cons (n : Note) (ns : List Note) :
    appliedOf (n :: ns) = n.applied?.toList ++ appliedOf ns := by
  cases h : n.applied? <;> simp [appliedOf, h]

@[simp] theorem appliedOf_append (ns ms : List Note) :
    appliedOf (ns ++ ms) = appliedOf ns ++ appliedOf ms :=
  List.filterMap_append

theorem appliedOf_map_warning (ws : List Warning) : appliedOf (ws.map Note.warning) = [] := by
  rw [appliedOf, List.filterMap_eq_nil_iff]
  rintro n hn
  obtain ⟨w, -, rfl⟩ := List.mem_map.1 hn
  rfl

theorem length_appliedOf (ns : List Note) :
    (appliedOf ns).length = ns.countP Note.isApplied := by
  rw [appliedOf, List.length_filterMap_eq_countP]
  congr 1
  funext n
  cases n <;> rfl

/-- The parameter and the kind of a tag. -/
def ParsedTag.subject (tag : ParsedTag) : String × TagKind := (tag.parameter, tag.kind)

/-- The tag is about one of the parameters. -/
def ParsedTag.isAbout (names : List String) (tag : ParsedTag) : Bool :=
  names.contains tag.parameter

/-- The error that a tag about parameters of these names stops a conversion with. -/
def ParsedTag.refused? (config : Config) (names : List String) (tag : ParsedTag) :
    Option ConvertError :=
  (tag.warning? names).bind (Warning.fatal? config)

/-- **The tags of a comment that are taken up.** Malformed tags are refused before any tag is taken
up. -/
def DocComment.takenUp (config : Config) (names : List String) (doc : DocComment) :
    List ParsedTag :=
  if config.tagPolicy = .strict ∧ doc.tags.filterMap (Tag.malformed? config.valuesParsing) ≠ [] then
    []
  else
    ((inPasses (doc.parsedTags config.valuesParsing)).takeWhile fun tag ↦
      (tag.refused? config names).isNone).filter (ParsedTag.isAbout names)

/-- The tags that are taken up when a target is converted. -/
def Target.takenUp (config : Config) (disk : Disk) (index : DocIndex) (t : Target) :
    List ParsedTag :=
  match t.shape with
  | .error _ => []
  | .ok _ => (t.lookUp disk index).doc.takenUp config (t.params.map Param.name)

/-- **The notes of a tag**: its warning, if it has one, and then that it was taken up, if its
parameter is declared. -/
theorem exists_notes_applyTag (tag : ParsedTag) (ps : List Parameter) :
    ∃ type, (applyTag .lenient tag ps).notes =
      (tag.warning? (ps.map Parameter.name)).toList.map Note.warning ++
        if tag.isAbout (ps.map Parameter.name) then [.applied tag.parameter tag.kind type]
        else [] := by
  induction ps with
  | nil => exact ⟨.string, rfl⟩
  | cons p ps ih =>
    by_cases h : p.name = tag.parameter
    · refine ⟨(p.document tag).type, ?_⟩
      rw [applyTag_cons_self h, ParsedTag.warning?, if_pos (by simp [h]),
        if_pos (by simp [ParsedTag.isAbout, h]), h]
    · obtain ⟨type, hnotes⟩ := ih
      have hwarning : tag.warning? ((p :: ps).map Parameter.name) =
          tag.warning? (ps.map Parameter.name) := by
        simp [ParsedTag.warning?, Ne.symm h]
      have habout : tag.isAbout ((p :: ps).map Parameter.name) =
          tag.isAbout (ps.map Parameter.name) := by
        simp [ParsedTag.isAbout, Ne.symm h]
      rw [hwarning, habout, applyTag_cons_of_ne _ h, Traced.notes_bind_pure]
      exact ⟨type, hnotes⟩

/-- A tag with a fatal warning leaves nothing behind. -/
theorem applyTag_of_refused {tag : ParsedTag} {ps : List Parameter} {e : ConvertError}
    (h : tag.refused? config (ps.map Parameter.name) = some e) :
    applyTag config.typePolicy tag ps = ⟨[], .error e⟩ := by
  obtain ⟨w, hw, hfatal⟩ := Option.bind_eq_some_iff.1 h
  obtain ⟨type, hnotes⟩ := exists_notes_applyTag tag ps
  rw [hw] at hnotes
  have hstop : (Note.warning w).stop? (Warning.fatal? config) = some e := hfatal
  have hsome : (applyTag .lenient tag ps).notes.findSome? (Note.stop? (Warning.fatal? config)) =
      some e := by
    simp [hnotes, hstop]
  rw [applyTag_eq_cut, Traced.cut_of_some hsome, hnotes]
  simp [Traced.notesBefore, hstop]

/-- Any other tag is dealt with as under lenient policies. -/
theorem applyTag_of_not_refused {tag : ParsedTag} {ps : List Parameter}
    (h : tag.refused? config (ps.map Parameter.name) = none) :
    applyTag config.typePolicy tag ps = applyTag .lenient tag ps := by
  rw [applyTag_eq_cut]
  refine Traced.cut_of_none ?_
  rw [findSome?_stop?, warningsOf_applyTag]
  rcases hw : tag.warning? (ps.map Parameter.name) with - | w
  · rfl
  · rw [ParsedTag.refused?, hw, Option.bind_some] at h
    simp [h]

theorem appliedOf_applyTag (tag : ParsedTag) (ps : List Parameter) :
    appliedOf (applyTag .lenient tag ps).notes =
      if tag.isAbout (ps.map Parameter.name) then [tag.subject] else [] := by
  obtain ⟨type, hnotes⟩ := exists_notes_applyTag tag ps
  rw [hnotes, appliedOf_append, appliedOf_map_warning, List.nil_append]
  split <;> rfl

/-- **A run of tags** takes up those about declared parameters, up to the first that is refused. -/
theorem appliedOf_applyTags (tags : List ParsedTag) {ps : List Parameter}
    (hps : (ps.map Parameter.name).Nodup) :
    appliedOf (applyTags config.typePolicy ps tags).notes =
      ((tags.takeWhile fun tag ↦
        (tag.refused? config (ps.map Parameter.name)).isNone).filter
          (ParsedTag.isAbout (ps.map Parameter.name))).map ParsedTag.subject := by
  induction tags generalizing ps with
  | nil => rfl
  | cons tag tags ih =>
    rw [applyTags, List.takeWhile_cons]
    rcases hr : tag.refused? config (ps.map Parameter.name) with - | e
    · rw [applyTag_of_not_refused hr, Traced.notes_bind_of_ok (result_applyTag hps tag),
        appliedOf_append, appliedOf_applyTag, ih (by rwa [map_name_heed]), map_name_heed]
      cases habout : tag.isAbout (ps.map Parameter.name) <;> simp [habout]
    · rw [applyTag_of_refused hr]
      rfl

/-- Under a strict policy a malformed tag is the end, and nothing is noted down before. -/
theorem readTags_of_refused {ts : List Tag} {e : TagError} {es : List TagError}
    (hstrict : config.tagPolicy = .strict)
    (h : ts.filterMap (Tag.malformed? config.valuesParsing) = e :: es) :
    readTags config ts = ⟨[], .error (.invalidTag e)⟩ := by
  have hmode : config.lenient.valuesParsing = config.valuesParsing := rfl
  have hstop : (Note.warning (.malformedTag e)).stop? (Warning.fatal? config) =
      some (.invalidTag e) := if_pos hstrict
  rw [readTags_eq_cut, readTags_lenient rfl, hmode, h]
  have hsome : ((e :: es).map fun e ↦ Note.warning (.malformedTag e)).findSome?
      (Note.stop? (Warning.fatal? config)) = some (.invalidTag e) := by
    simp [hstop]
  refine (Traced.cut_of_some hsome).trans ?_
  simp [Traced.notesBefore, hstop]

/-- Else all tags are read. -/
theorem readTags_of_not_refused {ts : List Tag}
    (h : ¬ (config.tagPolicy = .strict ∧
      ts.filterMap (Tag.malformed? config.valuesParsing) ≠ [])) :
    readTags config ts =
      ⟨(ts.filterMap (Tag.malformed? config.valuesParsing)).map fun e ↦ .warning (.malformedTag e),
        .ok (ts.filterMap (Tag.parsed? config.valuesParsing))⟩ := by
  have hmode : config.lenient.valuesParsing = config.valuesParsing := rfl
  rw [readTags_eq_cut, readTags_lenient rfl, hmode]
  refine Traced.cut_of_none ?_
  rw [List.findSome?_eq_none_iff]
  intro n hn
  obtain ⟨e, he, rfl⟩ := List.mem_map.1 hn
  exact if_neg fun hstrict ↦ h ⟨hstrict, List.ne_nil_of_mem he⟩

/-- **An assembly** takes up what its comment says. -/
theorem appliedOf_assemble (config : Config) (name : String) (doc : DocComment)
    {ps : List Parameter} (hps : (ps.map Parameter.name).Nodup) :
    appliedOf (assemble config name doc ps).notes =
      (doc.takenUp config (ps.map Parameter.name)).map ParsedTag.subject := by
  rw [assemble, DocComment.takenUp]
  split
  · next h =>
    obtain ⟨e, es, hes⟩ := List.exists_cons_of_ne_nil h.2
    rw [readTags_of_refused h.1 hes]
    rfl
  · next h =>
    have hwarnings : appliedOf ((doc.tags.filterMap (Tag.malformed? config.valuesParsing)).map
        fun e ↦ .warning (.malformedTag e)) = [] := by
      have hmap := appliedOf_map_warning
        ((doc.tags.filterMap (Tag.malformed? config.valuesParsing)).map Warning.malformedTag)
      rwa [List.map_map] at hmap
    rw [readTags_of_not_refused h, Traced.ok_bind, appliedOf_append, hwarnings, List.nil_append,
      Traced.notes_bind_pure, appliedOf_applyTags _ hps]
    rfl

/-- A conversion takes up what its assembly takes up. -/
theorem appliedOf_build (config : Config) (name : String) (ps : List Parameter) {found : Lookup}
    (h : appliedOf found.notes = []) :
    appliedOf (build config name ps found).notes =
      appliedOf (assemble config name found.doc ps).notes := by
  rw [build]
  rcases assemble config name found.doc ps with ⟨ns, e | tool⟩
  · simp [Note.applied?, h]
  · simp [Traced.note, Note.applied?, h]

theorem appliedOf_convert (config : Config) (disk : Disk) (index : DocIndex) (t : Target) :
    appliedOf (t.convert config disk index).notes =
      (t.takenUp config disk index).map ParsedTag.subject := by
  rcases h : t.shape with e | ps
  · rw [convert_of_shape_error h, Target.takenUp, h]
    rfl
  · obtain ⟨-, -, hnd, rfl⟩ := shape_eq_ok_iff.1 h
    rw [← map_name_seed] at hnd
    have hlookUp : appliedOf (t.lookUp disk index).notes = [] := by
      rw [← List.length_eq_zero_iff, length_appliedOf, countP_isApplied_lookUp]
    rw [convert_of_shape h, appliedOf_build _ _ _ hlookUp, appliedOf_assemble _ _ _ hnd,
      map_name_seed, Target.takenUp, h]

/-! ### The first note and the last -/

/-- The note is neither that a conversion starts nor that its schema is complete. -/
def Note.isInner : Note → Bool
  | started => false
  | assembled _ => false
  | _ => true

theorem mem_notes_bind {α β : Type} {x : Traced α} {f : α → Traced β} {n : Note}
    (h : n ∈ (x >>= f).notes) : n ∈ x.notes ∨ ∃ a, n ∈ (f a).notes := by
  obtain ⟨ns, e | a⟩ := x
  · exact .inl h
  · exact (List.mem_append.1 h).imp id fun hn ↦ ⟨a, hn⟩

theorem isInner_of_mem_readTags {ts : List Tag} {n : Note} (h : n ∈ (readTags config ts).notes) :
    n.isInner = true := by
  rw [readTags_eq_cut, readTags_lenient rfl, Traced.notes_cut] at h
  obtain ⟨e, -, rfl⟩ := List.mem_map.1 (List.takeWhile_subset _ h)
  rfl

theorem isInner_of_mem_applyTag {tag : ParsedTag} {ps : List Parameter} {n : Note}
    (h : n ∈ (applyTag config.typePolicy tag ps).notes) : n.isInner = true := by
  obtain ⟨type, hnotes⟩ := exists_notes_applyTag tag ps
  rw [applyTag_eq_cut, Traced.notes_cut] at h
  have hn := List.takeWhile_subset _ h
  rw [hnotes, List.mem_append, List.mem_map] at hn
  rcases hn with ⟨w, -, rfl⟩ | hn
  · rfl
  · split at hn
    · obtain rfl := List.mem_singleton.1 hn
      rfl
    · exact nomatch hn

theorem isInner_of_mem_applyTags {tags : List ParsedTag} {ps : List Parameter} {n : Note}
    (h : n ∈ (applyTags config.typePolicy ps tags).notes) : n.isInner = true := by
  induction tags generalizing ps with
  | nil => exact nomatch h
  | cons tag tags ih =>
    rcases mem_notes_bind h with h | ⟨ps, h⟩
    · exact isInner_of_mem_applyTag h
    · exact ih h

theorem isInner_of_mem_assemble {name : String} {doc : DocComment} {ps : List Parameter} {n : Note}
    (h : n ∈ (assemble config name doc ps).notes) : n.isInner = true := by
  rcases mem_notes_bind h with h | ⟨tags, h⟩
  · exact isInner_of_mem_readTags h
  · rw [Traced.notes_bind_pure] at h
    exact isInner_of_mem_applyTags h

theorem isInner_of_mem_docSource {source : DocSource} {n : Note}
    (h : n ∈ (source.lookUp disk index).notes) : n.isInner = true := by
  cases source with
  | none => exact nomatch h
  | inline text => exact nomatch h
  | location l =>
    rw [DocSource.lookUp, Location.lookUp] at h
    split at h <;> obtain rfl := List.mem_singleton.1 h <;> rfl

theorem isInner_of_mem_lookUp {n : Note} (h : n ∈ (t.lookUp disk index).notes) :
    n.isInner = true := by
  cases t with
  | function c => exact isInner_of_mem_docSource h
  | classType c =>
    rw [Target.lookUp] at h
    rcases hc : c.constructor with - | constructor
    · rw [hc] at h
      exact isInner_of_mem_docSource h
    · rw [hc] at h
      rcases List.mem_append.1 h with h | h
      · exact isInner_of_mem_docSource h
      · exact isInner_of_mem_docSource h

/-- **A conversion that gives a schema** starts with the note that it starts and ends with the note
that the schema is complete, and neither comes up in between. -/
theorem exists_notes_convert {tool : Tool} (h : (t.convert config disk index).result = .ok tool) :
    ∃ inner, (t.convert config disk index).notes =
        .started :: (inner ++ [.assembled tool.parameterCount]) ∧
      ∀ n ∈ inner, n.isInner = true := by
  rcases hs : t.shape with e | ps
  · rw [convert_of_shape_error hs] at h
    exact nomatch h
  · rw [convert_of_shape hs, result_build] at h
    refine ⟨(t.lookUp disk index).notes ++
      (assemble config t.name (t.lookUp disk index).doc ps).notes, ?_, ?_⟩
    · rw [convert_of_shape hs, build, Traced.notes_bind_of_ok h, List.append_assoc]
      rfl
    · intro n hn
      rcases List.mem_append.1 hn with hn | hn
      · exact isInner_of_mem_lookUp hn
      · exact isInner_of_mem_assemble hn

end ToolSchema
