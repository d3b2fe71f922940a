import ToolSchema.Proofs.Convert.LastSaid
import ToolSchema.Proofs.Convert.Warnings
import ToolSchema.Proofs.Tag.Grammar
import ToolSchema.Proofs.Tag.Payload

/-!
# Schemas that hold together

Whatever documentation says, a schema that comes out of a conversion is a proper one
(`wellFormed_of_report`). Two things are behind that.

* Its shape is that of the signature: a tool lists the declared parameters (`tool_of_report`), and
  documentation only fills in what `Tool.skeleton` leaves out.
* What is filled in was read by a grammar. A tag that could say something improper is none of the
  well-formed tags (`ParsedTag.IsSound`), and the last word of sound tags is a proper schema
  (`isWellFormed_documented`), where a bound on the items goes with the type of an array.
-/

namespace ToolSchema

/-! ### Sound tags -/

/-- What the tag says can stand in a schema. -/
structure ParsedTag.IsSound (tag : ParsedTag) : Prop where
  values : ∀ vs ∈ tag.values?, vs ≠ [] ∧ ∀ v ∈ vs, v.isScalar = true
  maxCount : ∀ n ∈ tag.maxCount?, 1 ≤ n

variable {mode : ValuesParsing} {tag : ParsedTag} {tags : List ParsedTag} {p : Param}

/-- **Grammars read sound tags only.** -/
theorem isSound_of_parse {kind : TagKind} {t : Tag} (h : kind.parse mode t = .ok tag) :
    tag.IsSound := by
  cases kind with
  | param =>
    rw [TagKind.parse, parseParam] at h
    split at h <;> cases h
    exact ⟨nofun, nofun⟩
  | values =>
    obtain ⟨⟨parameter, vs⟩, hvs, rfl⟩ := exists_of_map_eq_ok h
    refine ⟨fun ws hws ↦ ?_, nofun⟩
    obtain rfl : vs = ws := Option.some.inj hws
    exact scalar_of_parseValues hvs
  | itemsType =>
    obtain ⟨_, -, rfl⟩ := exists_of_map_eq_ok h
    exact ⟨nofun, nofun⟩
  | minItems =>
    obtain ⟨_, -, rfl⟩ := exists_of_map_eq_ok h
    exact ⟨nofun, nofun⟩
  | maxItems =>
    obtain ⟨⟨parameter, n⟩, hn, rfl⟩ := exists_of_map_eq_ok h
    refine ⟨nofun, fun m hm ↦ ?_⟩
    obtain rfl : n = m := Option.some.inj hm
    exact one_le_of_parseMaxItems hn

theorem isSound_of_mem_parsedTags {doc : DocComment} (h : tag ∈ doc.parsedTags mode) :
    tag.IsSound := by
  obtain ⟨t, -, ht⟩ := List.mem_filterMap.1 h
  rw [Tag.parsed?, Tag.parse?] at ht
  rcases hk : TagKind.ofTagName? t.tagName with - | kind
  · rw [hk] at ht
    cases ht
  · rw [hk] at ht
    rcases hp : kind.parse mode t with e | tag'
    · simp [hp, Except.toOption] at ht
    · obtain rfl : tag' = tag := by simpa [hp, Except.toOption] using ht
      exact isSound_of_parse hp

/-! ### Proper schemas of parameters -/

/-- The schema says nothing that does not go together. -/
structure Property.IsWellFormed (s : Property) : Prop where
  /-- Only an array has items to say something about. -/
  array : s.itemsType.isSome ∨ s.minItems.isSome ∨ s.maxItems.isSome → s.type = .array
  maxItems : ∀ n ∈ s.maxItems, 1 ≤ n
  enumValues : ∀ vs ∈ s.enumValues, vs ≠ [] ∧ ∀ v ∈ vs, v.isScalar = true

/-- A parameter of which tags say something that holds of arrays only is constrained by them. -/
theorem isConstrained_of_lastSaid {α : Type} {kind : TagKind} {respect : ParsedTag → Option α}
    (hs : SpeaksOnly kind respect) (hk : kind.isArrayConstraint = true) {parameter : String}
    (h : (lastSaid respect parameter tags).isSome) : isConstrained parameter tags = true := by
  obtain ⟨a, ha⟩ := Option.isSome_iff_exists.1 h
  obtain ⟨t, ht, hp, hr⟩ := exists_of_lastSaid ha
  -- a tag of another kind would not have spoken
  have htk : t.kind = kind := by
    by_contra hne
    rw [hs t hne] at hr
    cases hr
  refine List.any_eq_true.2 ⟨t, ht, ?_⟩
  rw [hp, htk, hk, beq_self_eq_true, Bool.and_self]

/-- **What sound tags make of a declared parameter** is a proper schema. -/
theorem isWellFormed_documented (h : ∀ t ∈ tags, t.IsSound) (p : Param) :
    (p.documented tags).property.IsWellFormed where
  array := by
    intro hsome
    have hconstrained : isConstrained p.name tags = true := by
      rcases hsome with hitems | hmin | hmax
      · exact isConstrained_of_lastSaid ParsedTag.speaksOnly_itemType? rfl hitems
      · exact isConstrained_of_lastSaid ParsedTag.speaksOnly_minCount? rfl hmin
      · exact isConstrained_of_lastSaid ParsedTag.speaksOnly_maxCount? rfl hmax
    exact if_pos hconstrained
  maxItems := by
    intro n hn
    obtain ⟨t, ht, -, hr⟩ := exists_of_lastSaid hn
    exact (h t ht).maxCount n hr
  enumValues := by
    intro vs hvs
    obtain ⟨t, ht, -, hr⟩ := exists_of_lastSaid hvs
    exact (h t ht).values vs hr

/-! ### The shape of a tool -/

/-- The tool without what documentation has a say in: no descriptions, and nothing said about the
values of a parameter. -/
def Tool.skeleton (tool : Tool) : Tool where
  function :=
    { tool.function with
      description := ""
      parameters :=
        { tool.function.parameters with
          properties := tool.function.parameters.properties.map fun entry ↦
            (entry.1, { type := .string, description := "" }) } }

variable {config : Config} {disk : Disk} {index : DocIndex} {t : Target} {r : Report}

/-- **The tool of a report** lists the parameters of the signature, as the well-formed tags of the
comment that was found document them. -/
theorem tool_of_report (hr : (t.convert config disk index).report = .ok r) :
    (t.params.map Param.name).Nodup ∧
      r.tool =
        { function :=
            { name := t.name
              description := (t.lookUp disk index).doc.description
              parameters :=
                { properties := t.params.map fun p ↦
                    (p.name, (p.documented
                      ((t.lookUp disk index).doc.parsedTags config.valuesParsing)).property)
                  required := (t.params.filter (·.kind.isRequired)).map Param.name } } } := by
  obtain ⟨ps, hs⟩ := exists_shape_of_report hr
  obtain ⟨-, hu, hnd, rfl⟩ := shape_eq_ok_iff.1 hs
  have hps : extractParameters t.name t.params = .ok (t.params.map Param.seed) :=
    extractParameters_eq_ok_iff.2 ⟨hu, hnd, rfl⟩
  rw [report_convert, hs] at hr
  rcases ha : (assemble config t.name (t.lookUp disk index).doc
      (t.params.map Param.seed)).result with e | tool
  · simp [Except.bind, Traced.report, ha, Except.map] at hr
  · obtain ⟨-, rfl⟩ := (assemble_eq_ok_iff hps).1 ha
    obtain rfl : Report.mk _ _ = r := by
      simpa [Except.bind, Traced.report, ha, Except.map] using hr
    exact ⟨hnd, ofParameters_documented _ _ _ hnd⟩

/-- The skeleton of a report's tool can be read off the name and the signature of its target. -/
theorem skeleton_of_report (hr : (t.convert config disk index).report = .ok r) :
    r.tool.skeleton =
      { function :=
          { name := t.name
            parameters :=
              { properties := t.signature.map fun s ↦ (s.1, { type := .string, description := "" })
                required := (t.signature.filter (·.2.isRequired)).map Prod.fst } } } := by
  obtain ⟨-, htool⟩ := tool_of_report hr
  have hproperties : (t.params.map fun p ↦ (p.name, (p.documented
        ((t.lookUp disk index).doc.parsedTags config.valuesParsing)).property)).map
          (fun entry ↦ (entry.1, ({ type := .string, description := "" } : Property))) =
      t.signature.map fun s ↦ (s.1, { type := .string, description := "" }) := by
    rw [Target.signature, List.map_map, List.map_map]
    rfl
  have hrequired : (t.params.filter (·.kind.isRequired)).map Param.name =
      (t.signature.filter (·.2.isRequired)).map Prod.fst := by
    rw [Target.signature, List.filter_map, List.map_map]
    rfl
  rw [htool, Tool.skeleton, hproperties, hrequired]

/-- **A schema holds together, and its shape is that of the signature.** The tool of a report has
the name of its target. Its properties are the declared parameters in their order, each once, and
those that must be supplied are the ones that are required by name. Every schema of a parameter is
proper. Documentation and configuration have a say in nothing but what the skeleton of the tool
leaves out: every report for a target of this name and signature has the same skeleton. -/
theorem wellFormed_of_report (hr : (t.convert config disk index).report = .ok r) :
    let f := r.tool.function
    f.name = t.name ∧
      f.parameters.properties.map Prod.fst = t.params.map Param.name ∧
      (f.parameters.properties.map Prod.fst).Nodup ∧
      f.parameters.required = (t.params.filter (·.kind.isRequired)).map Param.name ∧
      f.parameters.required.Nodup ∧
      (∀ entry ∈ f.parameters.properties, entry.2.IsWellFormed) ∧
      ∀ (t' : Target) (config' : Config) (disk' : Disk) (index' : DocIndex) (r' : Report),
        t'.name = t.name → t'.signature = t.signature →
          (t'.convert config' disk' index').report = .ok r' →
            r'.tool.skeleton = r.tool.skeleton := by
  obtain ⟨hnd, htool⟩ := tool_of_report hr
  have hnames : r.tool.function.parameters.properties.map Prod.fst = t.params.map Param.name := by
    rw [htool, List.map_map]
    rfl
  have hrequired : r.tool.function.parameters.required =
      (t.params.filter (·.kind.isRequired)).map Param.name := by rw [htool]
  intro f
  refine ⟨?_, hnames, hnames ▸ hnd, hrequired, ?_, ?_,
    fun t' config' disk' index' r' hn hs hr' ↦ ?_⟩
  · exact congrArg (·.function.name) htool
  · -- a part of names that differ
    rw [hrequired]
    exact (List.filter_sublist.map Param.name).nodup hnd
  · intro entry hentry
    rw [show f = _ from congrArg Tool.function htool] at hentry
    obtain ⟨p, -, rfl⟩ := List.mem_map.1 hentry
    exact isWellFormed_documented (fun t ht ↦ isSound_of_mem_parsedTags ht) p
  · rw [skeleton_of_report hr', skeleton_of_report hr, hn, hs]

/-- An empty list of values and a bound of zero beside values and a bound that are fine, and the
same signature without documentation, under strict policies. -/
theorem wellFormed_of_report_hostile :
    let t : Target := .function
      ⟨"pack", [⟨"size", .requiredNamed, none⟩, ⟨"unit", .optionalNamed, "A."⟩],
        .inline "@values size []\n@max_items size 0\n@min_items size 2\n@values unit [7]"⟩
    let bare : Target := .function
      ⟨"pack", [⟨"size", .requiredNamed, none⟩, ⟨"unit", .optionalNamed, none⟩], .none⟩
    ∃ r r', (t.convert {} (Disk.ofReadings []) {}).report = .ok r ∧
      (bare.convert (Config.strict {}) (Disk.ofReadings []) {}).report = .ok r' ∧
      r.tool.function.parameters.properties =
        [("size", { type := .array, description := "", minItems := some 2 }),
          ("unit",
            { type := .string
              description := "A."
              enumValues := some [.number (.integer ⟨7, by decide, by decide⟩)] })] ∧
      (∀ entry ∈ r.tool.function.parameters.properties, entry.2.IsWellFormed) ∧
      r'.tool.skeleton = r.tool.skeleton := by
  intro t bare
  let seven : Json := .number (.integer ⟨7, by decide, by decide⟩)
  obtain ⟨r, hr⟩ : ∃ r, (t.convert {} (Disk.ofReadings []) {}).report = .ok r := by
    simp only [t]
    exact ⟨_, report_of_shape rfl rfl rfl⟩
  obtain ⟨r', hr'⟩ : ∃ r', (bare.convert (Config.strict {}) (Disk.ofReadings []) {}).report =
      .ok r' := by
    simp only [bare]
    exact ⟨_, rfl⟩
  obtain ⟨-, -, -, -, -, hproper, hskeleton⟩ := wellFormed_of_report hr
  refine ⟨r, r', hr, hr', ?_, hproper, hskeleton bare _ _ _ r' rfl rfl hr'⟩
  -- two of the four tags are well-formed
  have hempty : parseValues "size []" .permissive = .error ⟨.values, "size []", .emptyList⟩ := by
    have hpayload : Payload.ofChars? "size []".toList = some ⟨"size".toList, "[]".toList⟩ := rfl
    have hlist : readList .permissive "[]".toList = .ok [] := by
      have hread : (Json.Decoder.list .any).readText "[]" = .ok [] :=
        Json.readText_list_any (List.forall_mem_nil _) .compact
      simp only [readList, String.ofList_toList, hread]
    have hvalues : valuesOf .permissive "[]".toList = .error .emptyList := by
      rw [valuesOf_eq, if_pos (by decide), if_pos (by decide), hlist]
      rfl
    simp only [parseValues, hpayload, hvalues]
  have hseven : parseValues "unit [7]" .permissive = .ok ("unit", [seven]) := by
    have htext : "unit [7]" = "unit" ++ " " ++ (Json.array [seven]).compactText := by
      decide +kernel
    rw [htext]
    exact parseValues_compactText .permissive (by decide) (List.cons_ne_nil _ _)
      (by simp [seven, Json.isPlain])
  have htags : (t.lookUp (Disk.ofReadings []) {}).doc.parsedTags .permissive =
      [.minItems "size" 2, .values "unit" [seven]] := by
    have hdoc : (t.lookUp (Disk.ofReadings []) {}).doc.tags =
        [{ tagName := "values", text := "size []" }, { tagName := "max_items", text := "size 0" },
          { tagName := "min_items", text := "size 2" },
          { tagName := "values", text := "unit [7]" }] := by
      simp only [t]
      rfl
    have hparsed (text : String) : Tag.parsed? .permissive { tagName := "values", text } =
        (TagKind.values.parse .permissive { tagName := "values", text }).toOption := rfl
    rw [DocComment.parsedTags, hdoc]
    simp only [List.filterMap, hparsed, TagKind.parse, hempty, hseven]
    rfl
  obtain ⟨-, htool⟩ := tool_of_report hr
  have hproperties : r.tool.function.parameters.properties =
      t.params.map fun p ↦ (p.name, (p.documented
        ((t.lookUp (Disk.ofReadings []) {}).doc.parsedTags .permissive)).property) := by
    rw [htool]
  rw [hproperties, htags]
  rfl

end ToolSchema
