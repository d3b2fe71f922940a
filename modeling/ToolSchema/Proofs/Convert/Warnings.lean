import ToolSchema.Proofs.Convert.Report

/-!
# Accounting for tags

Under lenient policies every tag that a schema could be built from leaves one trace: it is
malformed, its parameter is not declared, or it was taken up
(`DocComment.length_relevantTags_eq_countP`). Where the trace is a warning, its place among the
others is known (`warnings_account`).
-/

namespace ToolSchema

/-! ### Tags that could matter -/

/-- The tag is of a kind that schemas are built from. -/
def Tag.isRelevant (t : Tag) : Bool := (TagKind.ofTagName? t.tagName).isSome

/-- The tags of a comment that could matter to a schema. -/
def DocComment.relevantTags (doc : DocComment) : List Tag := doc.tags.filter Tag.isRelevant

theorem parse?_of_not_isRelevant {t : Tag} (h : t.isRelevant = false) (mode : ValuesParsing) :
    t.parse? mode = none := by
  rw [Tag.isRelevant, Option.isSome_eq_false_iff, Option.isNone_iff_eq_none] at h
  rw [Tag.parse?, h, Option.map_none]

theorem exists_parse?_of_isRelevant {t : Tag} (h : t.isRelevant = true) (mode : ValuesParsing) :
    ∃ result, t.parse? mode = some result := by
  obtain ⟨kind, hk⟩ := Option.isSome_iff_exists.1 h
  exact ⟨kind.parse mode t, by rw [Tag.parse?, hk, Option.map_some]⟩

/-- What is read off the results of the grammars is read off the relevant tags. -/
theorem filterMap_relevantTags {α : Type} (mode : ValuesParsing)
    (f : Except TagError ParsedTag → Option α) (doc : DocComment) :
    doc.relevantTags.filterMap (fun t ↦ (t.parse? mode).bind f) =
      doc.tags.filterMap fun t ↦ (t.parse? mode).bind f := by
  rw [DocComment.relevantTags, List.filterMap_filter]
  refine congrArg (List.filterMap · doc.tags) (funext fun t ↦ ?_)
  rcases h : t.isRelevant with - | -
  · rw [parse?_of_not_isRelevant h]
    rfl
  · rfl

/-- A relevant tag follows its grammar or does not. -/
theorem length_relevantTags (mode : ValuesParsing) (doc : DocComment) :
    doc.relevantTags.length =
      (doc.tags.filterMap (Tag.malformed? mode)).length + (doc.parsedTags mode).length := by
  rw [DocComment.parsedTags, DocComment.relevantTags]
  induction doc.tags with
  | nil => rfl
  | cons t ts ih =>
    rcases hr : t.isRelevant with - | -
    · have hp := parse?_of_not_isRelevant hr mode
      have hm : t.malformed? mode = none := by rw [Tag.malformed?, hp, Option.bind_none]
      have hw : t.parsed? mode = none := by rw [Tag.parsed?, hp, Option.bind_none]
      rw [List.filter_cons_of_neg (by simp [hr]), List.filterMap_cons_none hm,
        List.filterMap_cons_none hw, ih]
    · obtain ⟨e | p, hp⟩ := exists_parse?_of_isRelevant hr mode
      · have hm : t.malformed? mode = some e := by rw [Tag.malformed?, hp, Option.bind_some]
        have hw : t.parsed? mode = none := by rw [Tag.parsed?, hp, Option.bind_some]; rfl
        rw [List.filter_cons_of_pos hr, List.filterMap_cons_some hm, List.filterMap_cons_none hw,
          List.length_cons, List.length_cons, ih]
        omega
      · have hm : t.malformed? mode = none := by rw [Tag.malformed?, hp, Option.bind_some]
        have hw : t.parsed? mode = some p := by rw [Tag.parsed?, hp, Option.bind_some]; rfl
        rw [List.filter_cons_of_pos hr, List.filterMap_cons_none hm, List.filterMap_cons_some hw,
          List.length_cons, List.length_cons, ih]
        omega

/-! ### Kinds of warnings -/

/-- The warning is about a malformed tag. -/
def Warning.isMalformedTag : Warning → Bool
  | malformedTag _ => true
  | _ => false

/-- The warning is about an undeclared parameter. -/
def Warning.isUnknownParameter : Warning → Bool
  | unknownParameter .. => true
  | _ => false

/-- The warning that the tag names no parameter. -/
def ParsedTag.unknownParameter (tag : ParsedTag) : Warning :=
  .unknownParameter tag.kind tag.parameter

/-- A tag that is not about types warns about its parameter or about nothing. -/
theorem warning?_of_kind_ne_param {tag : ParsedTag} (h : tag.kind ≠ .param) (names : List String) :
    tag.warning? names =
      if tag.parameter ∈ names then none else some tag.unknownParameter := by
  -- only a tag about a description lists types
  have hu : tag.unknownType? = none := by
    cases tag with
    | param => exact absurd rfl h
    | _ => rfl
  rw [ParsedTag.warning?, hu]
  rfl

/-- Where no type is listed, the warnings of tags are one for each tag without a parameter. -/
theorem filterMap_warning?_of_kind (pass : TagKind → Bool) (hpass : pass .param = false)
    (names : List String) (tags : List ParsedTag) :
    (tags.filter fun t ↦ pass t.kind).filterMap (ParsedTag.warning? names) =
      (tags.filter fun t ↦ pass t.kind && !names.contains t.parameter).map
        ParsedTag.unknownParameter := by
  induction tags with
  | nil => rfl
  | cons tag tags ih =>
    rcases hp : pass tag.kind with - | -
    · simpa [hp] using ih
    · have hk : tag.kind ≠ .param := by
        intro hk
        rw [hk, hpass] at hp
        exact absurd hp Bool.false_ne_true
      by_cases hn : tag.parameter ∈ names <;>
        simpa [hp, warning?_of_kind_ne_param hk, hn] using ih

/-- A tag warns about an undeclared parameter if and only if its own is not declared. -/
theorem isUnknownParameter_warning? (names : List String) (tag : ParsedTag) :
    (tag.warning? names).any Warning.isUnknownParameter = !decide (tag.parameter ∈ names) := by
  by_cases hn : tag.parameter ∈ names
  · rw [ParsedTag.warning?, if_pos hn, decide_eq_true hn]
    rcases hu : tag.unknownType? with - | w
    · rfl
    · obtain ⟨n, -, -, rfl⟩ := ParsedTag.unknownType?_eq_some_iff.1 hu
      rfl
  · rw [ParsedTag.warning?, if_neg hn]
    simp [hn, Warning.isUnknownParameter]

theorem notMem_of_warning? {names : List String} {tag : ParsedTag} {kind : TagKind} {p : String}
    (h : tag.warning? names = some (.unknownParameter kind p)) : p ∉ names := by
  have hany := isUnknownParameter_warning? names tag
  rw [h] at hany
  have hn : tag.parameter ∉ names := by simpa [Warning.isUnknownParameter] using hany
  rw [ParsedTag.warning?, if_neg hn] at h
  obtain ⟨-, rfl⟩ := Warning.unknownParameter.inj (Option.some.inj h)
  exact hn

theorem countP_unknownParameter (names : List String) (tags : List ParsedTag) :
    (tags.filterMap (ParsedTag.warning? names)).countP Warning.isUnknownParameter =
      tags.countP fun tag ↦ !decide (tag.parameter ∈ names) := by
  induction tags with
  | nil => rfl
  | cons tag tags ih =>
    have h := isUnknownParameter_warning? names tag
    rw [List.countP_cons, ← ih]
    rcases hw : tag.warning? names with - | w
    · rw [hw] at h
      rw [List.filterMap_cons_none hw, ← h]
      rfl
    · rw [hw] at h
      rw [List.filterMap_cons_some hw, List.countP_cons, ← h]
      rfl

theorem countP_malformedTag_warning? (names : List String) (tags : List ParsedTag) :
    (tags.filterMap (ParsedTag.warning? names)).countP Warning.isMalformedTag = 0 := by
  rw [List.countP_eq_zero]
  intro w hw
  obtain ⟨tag, -, ht⟩ := List.mem_filterMap.1 hw
  rw [ParsedTag.warning?] at ht
  split at ht
  · obtain ⟨n, -, -, rfl⟩ := ParsedTag.unknownType?_eq_some_iff.1 ht
    exact Bool.false_ne_true
  · obtain rfl := Option.some.inj ht
    exact Bool.false_ne_true

/-! ### The warnings of a comment -/

namespace DocComment

variable (mode : ValuesParsing) (names : List String) (doc : DocComment)

/-- The warnings of a comment, group by group: the malformed tags, the tags about descriptions, and
those about values and about arrays whose parameter is not declared. -/
theorem warnings_eq_groups :
    doc.warnings mode names =
      (doc.tags.filterMap (Tag.malformed? mode)).map .malformedTag ++
        (((doc.parsedTags mode).filter fun t ↦ t.kind == .param).filterMap
            (ParsedTag.warning? names) ++
          ((doc.parsedTags mode).filter fun t ↦
              t.kind == .values && !names.contains t.parameter).map ParsedTag.unknownParameter ++
            ((doc.parsedTags mode).filter fun t ↦
              t.kind.isArrayConstraint && !names.contains t.parameter).map
              ParsedTag.unknownParameter) := by
  rw [DocComment.warnings, inPasses, List.filterMap_append, List.filterMap_append,
    filterMap_warning?_of_kind (· == .values) rfl,
    filterMap_warning?_of_kind TagKind.isArrayConstraint rfl]

/-- A comment never calls a declared parameter unknown. -/
theorem notMem_of_mem_warnings {kind : TagKind} {p : String}
    (h : .unknownParameter kind p ∈ doc.warnings mode names) : p ∉ names := by
  rw [DocComment.warnings, List.mem_append] at h
  rcases h with h | h
  · obtain ⟨e, -, he⟩ := List.mem_map.1 h
    exact nomatch he
  · obtain ⟨tag, -, ht⟩ := List.mem_filterMap.1 h
    exact notMem_of_warning? ht

theorem countP_malformedTag_warnings :
    (doc.warnings mode names).countP Warning.isMalformedTag =
      (doc.tags.filterMap (Tag.malformed? mode)).length := by
  have hm : Warning.isMalformedTag ∘ Warning.malformedTag = fun _ ↦ true := rfl
  rw [DocComment.warnings, List.countP_append, List.countP_map, hm, List.countP_true,
    countP_malformedTag_warning?, Nat.add_zero]

theorem countP_unknownParameter_warnings :
    (doc.warnings mode names).countP Warning.isUnknownParameter =
      (doc.parsedTags mode).countP fun tag ↦ !decide (tag.parameter ∈ names) := by
  have hu : Warning.isUnknownParameter ∘ Warning.malformedTag = fun _ ↦ false := rfl
  rw [DocComment.warnings, List.countP_append, List.countP_map, hu, List.countP_false,
    Function.const_apply, Nat.zero_add, countP_unknownParameter, (inPasses_perm _).countP_eq]

/-- **The account of a comment.** A relevant tag is malformed, or its parameter is unknown, or it is
about a declared parameter. -/
theorem length_relevantTags_eq_countP :
    doc.relevantTags.length =
      (doc.warnings mode names).countP Warning.isMalformedTag +
        (doc.warnings mode names).countP Warning.isUnknownParameter +
          (doc.parsedTags mode).countP fun tag ↦ decide (tag.parameter ∈ names) := by
  -- a well-formed tag is about a declared parameter or about one that is not
  have hsplit := List.length_eq_countP_add_countP
    (fun tag : ParsedTag ↦ decide (tag.parameter ∈ names)) (l := doc.parsedTags mode)
  simp only [decide_eq_true_eq, decide_not] at hsplit
  rw [length_relevantTags mode doc, countP_malformedTag_warnings,
    countP_unknownParameter_warnings, hsplit]
  omega

end DocComment

/-! ### The account of a conversion -/

theorem countP_lookupWarnings {p : Warning → Bool}
    (h : ∀ w : Warning, w.isAboutPlace = true → p w = false) (disk : Disk) (index : DocIndex)
    (t : Target) : (t.lookupWarnings disk index).countP p = 0 := by
  rw [List.countP_eq_zero]
  intro w hw
  rw [h w (isAboutPlace_of_mem_lookupWarnings hw)]
  exact Bool.false_ne_true

theorem not_isMalformedTag_of_isAboutPlace {w : Warning} (h : w.isAboutPlace = true) :
    w.isMalformedTag = false := by
  cases w with
  | malformedTag => cases h
  | _ => rfl

theorem not_isUnknownParameter_of_isAboutPlace {w : Warning} (h : w.isAboutPlace = true) :
    w.isUnknownParameter = false := by
  cases w with
  | unknownParameter => cases h
  | _ => rfl

theorem countP_isApplied_docSource (disk : Disk) (index : DocIndex) (source : DocSource) :
    (source.lookUp disk index).notes.countP Note.isApplied = 0 := by
  cases source with
  | none => rfl
  | inline text => rfl
  | location l =>
    rw [DocSource.lookUp, Location.lookUp]
    split <;> rfl

/-- No tag is taken up by a lookup. -/
theorem countP_isApplied_lookUp (disk : Disk) (index : DocIndex) (t : Target) :
    (t.lookUp disk index).notes.countP Note.isApplied = 0 := by
  cases t with
  | function c => exact countP_isApplied_docSource disk index c.docs
  | classType c =>
    rw [Target.lookUp]
    cases c.constructor with
    | none => exact countP_isApplied_docSource disk index c.docs
    | some constructor => simp only [List.countP_append, countP_isApplied_docSource]

variable {config : Config} {disk : Disk} {index : DocIndex} {t : Target} {r : Report}

theorem countP_isApplied_build (name : String) (ps : List Parameter) (found : Lookup)
    (h : found.notes.countP Note.isApplied = 0) :
    (build config name ps found).notes.countP Note.isApplied =
      (assemble config name found.doc ps).notes.countP Note.isApplied := by
  rw [build]
  rcases assemble config name found.doc ps with ⟨ns, e | tool⟩ <;>
    simp [Traced.note, Note.isApplied, h]

/-- A lenient conversion takes up the well-formed tags about declared parameters. -/
theorem countP_isApplied_convert (htag : config.tagPolicy = .lenient)
    (htype : config.typePolicy = .lenient) {ps : List Parameter} (h : t.shape = .ok ps) :
    (t.convert config disk index).notes.countP Note.isApplied =
      ((t.lookUp disk index).doc.parsedTags config.valuesParsing).countP
        fun tag ↦ decide (tag.parameter ∈ t.params.map Param.name) := by
  obtain ⟨-, -, hnd, rfl⟩ := shape_eq_ok_iff.1 h
  rw [convert_of_shape h, countP_isApplied_build _ _ _ (countP_isApplied_lookUp disk index t),
    countP_assemble htag htype _ _ (by rwa [map_name_seed]), map_name_seed]

theorem exists_shape_of_report (hr : (t.convert config disk index).report = .ok r) :
    ∃ ps, t.shape = .ok ps := by
  rcases hs : t.shape with e | ps
  · rw [convert_of_shape_error hs] at hr
    exact nomatch hr
  · exact ⟨ps, rfl⟩

/-- **Every tag is accounted for once.** The warnings of a lenient report are, in this order, those
of the lookup, one for each malformed tag, those of the well-formed tags about descriptions, and one
for each tag about values, and then for each tag about arrays, whose parameter is not declared;
within each group the order is that of the comment. Only tags of the five kinds have a part in it,
no declared parameter is called unknown, and every such tag is malformed, unknown or taken up. -/
theorem warnings_account (htag : config.tagPolicy = .lenient) (htype : config.typePolicy = .lenient)
    (hr : (t.convert config disk index).report = .ok r) :
    let doc := (t.lookUp disk index).doc
    let names := t.params.map Param.name
    let malformed := doc.relevantTags.filterMap (Tag.malformed? config.valuesParsing)
    let wellFormed := doc.relevantTags.filterMap (Tag.parsed? config.valuesParsing)
    r.warnings =
        t.lookupWarnings disk index ++
          (malformed.map .malformedTag ++
            ((wellFormed.filter fun t ↦ t.kind == .param).filterMap (ParsedTag.warning? names) ++
              (wellFormed.filter fun t ↦ t.kind == .values && !names.contains t.parameter).map
                  ParsedTag.unknownParameter ++
                (wellFormed.filter fun t ↦
                  t.kind.isArrayConstraint && !names.contains t.parameter).map
                  ParsedTag.unknownParameter)) ∧
      (∀ kind p, .unknownParameter kind p ∈ r.warnings → p ∉ names) ∧
      doc.relevantTags.length =
        r.warnings.countP Warning.isMalformedTag + r.warnings.countP Warning.isUnknownParameter +
          (t.convert config disk index).notes.countP Note.isApplied := by
  obtain ⟨ps, hs⟩ := exists_shape_of_report hr
  rw [report_of_shape htag htype hs] at hr
  obtain rfl := Except.ok.inj hr
  intro doc names malformed wellFormed
  refine ⟨?_, fun kind p hp ↦ ?_, ?_⟩
  · -- tags of other names come to nothing, so the relevant ones can be put in the place of all
    have hmalformed : malformed = doc.tags.filterMap (Tag.malformed? config.valuesParsing) :=
      filterMap_relevantTags _ _ doc
    have hwellFormed : wellFormed = doc.parsedTags config.valuesParsing :=
      filterMap_relevantTags _ _ doc
    rw [hmalformed, hwellFormed]
    exact congrArg (_ ++ ·) (doc.warnings_eq_groups config.valuesParsing names)
  · rcases List.mem_append.1 hp with hp | hp
    · cases isAboutPlace_of_mem_lookupWarnings hp
    · exact doc.notMem_of_mem_warnings config.valuesParsing names hp
  · rw [countP_isApplied_convert htag htype hs, List.countP_append, List.countP_append,
      countP_lookupWarnings (fun _ ↦ not_isMalformedTag_of_isAboutPlace),
      countP_lookupWarnings (fun _ ↦ not_isUnknownParameter_of_isAboutPlace), Nat.zero_add,
      Nat.zero_add]
    exact doc.length_relevantTags_eq_countP config.valuesParsing names

/-- A class whose own comment is in a file that is not there, and whose constructor has a tag of
every fate: relevant or not, malformed, about an undeclared parameter, or taken up. -/
theorem warnings_account_mixed :
    let file : Path := ⟨"absent.rb"⟩
    let text := "Packs.\n@param p [Widget] A.\n@min_items q 2\n@max_items p 0\n@see q"
    let t : Target := .classType ⟨"Packer", .location ⟨file, 3⟩,
      some ⟨"initialize", [⟨"p", .requiredNamed, none⟩], .inline text⟩⟩
    let c := t.convert {} (Disk.ofReadings []) {}
    ∃ r, c.report = .ok r ∧
      r.warnings = [.docLookupFailed ⟨file, 3⟩ ⟨file, .notFound⟩,
        .malformedTag ⟨.maxItems, "p 0", .zeroCount⟩, .unknownType "p" "Widget",
        .unknownParameter .minItems "q"] ∧
      3 = r.warnings.countP Warning.isMalformedTag + r.warnings.countP Warning.isUnknownParameter +
        c.notes.countP Note.isApplied := by
  intro file text t c
  have hr : c.report = .ok
      ⟨.ofParameters "Packer" "Packs." [{ name := "p", isRequired := true, description := "A." }],
        [.docLookupFailed ⟨file, 3⟩ ⟨file, .notFound⟩,
          .malformedTag ⟨.maxItems, "p 0", .zeroCount⟩, .unknownType "p" "Widget",
          .unknownParameter .minItems "q"]⟩ := by
    simp only [c, t, text, file]
    rfl
  obtain ⟨-, -, hcount⟩ := warnings_account rfl rfl hr
  have hlength : (t.lookUp (Disk.ofReadings []) {}).doc.relevantTags.length = 3 := by
    simp only [t, text, file]
    rfl
  exact ⟨_, hr, rfl, hlength ▸ hcount⟩

end ToolSchema
