import Mathlib.Data.List.Perm.Basic
import ToolSchema.Proofs.Comment.TagLine
import ToolSchema.Proofs.Convert.LastSaid
import ToolSchema.Proofs.Schema.JsonType

/-!
# Documentation that was written for a signature

The documentation language is complete: whatever a schema can say about the parameters of a
signature can be written in a comment, and is in the schema then. `ParamDocs` is all that can be
written about one parameter, one line for each part (`ParamDocs.lines`). The lines of all parameters
may stand in any order behind a description, because each part of a parameter is said once; every
one of them is read as its tag (`readsAs_lines`), so nothing is warned about and no policy has
anything to refuse.
-/

namespace ToolSchema

/-- **What can be written about a declared parameter**, each part so that it can be read back. -/
structure ParamDocs where
  param : Param
  typeName : String
  type : JsonType
  description : String
  values : Option (List Json) := none
  itemsType : Option String := none
  minItems : Option UInt64 := none
  maxItems : Option UInt64 := none
  isUsable : param.IsUsable
  ofTypeName?_eq : JsonType.ofTypeName? typeName = some type
  typeName_plain : typeName.toList.all isPlainInType = true
  typeName_oneLine : '\n' ∉ typeName.toList
  description_trimmed : trimmed description = description
  description_oneLine : '\n' ∉ description.toList
  values_ne : ∀ vs ∈ values, vs ≠ []
  values_plain : ∀ vs ∈ values, ∀ v ∈ vs, v.isPlain = true
  itemsType_mem : ∀ n ∈ itemsType, n ∈ itemTypeNames
  maxItems_ne : ∀ n ∈ maxItems, n ≠ 0

namespace ParamDocs

/-- The name of the parameter. -/
def name (d : ParamDocs) : String := d.param.name

/-- The lines of the parameter, one for each part. -/
def lines (d : ParamDocs) : List String :=
  TagKind.param.line (d.name ++ " [" ++ d.typeName ++ "] " ++ d.description) ::
    ((d.values.toList.map fun vs ↦
        TagKind.values.line (d.name ++ " " ++ (Json.array vs).compactText)) ++
      (d.itemsType.toList.map fun n ↦ TagKind.itemsType.line (d.name ++ " " ++ n)) ++
      (d.minItems.toList.map fun n ↦ TagKind.minItems.line (d.name ++ " " ++ toString n)) ++
      (d.maxItems.toList.map fun n ↦ TagKind.maxItems.line (d.name ++ " " ++ toString n)))

/-- What the lines say. -/
def tags (d : ParamDocs) : List ParsedTag :=
  .param d.name [trimmed d.typeName] d.description ::
    (d.values.toList.map (.values d.name) ++ d.itemsType.toList.map (.itemsType d.name) ++
      d.minItems.toList.map (.minItems d.name) ++ d.maxItems.toList.map (.maxItems d.name))

/-- The schema of the parameter. A constraint on arrays makes an array of it. -/
def property (d : ParamDocs) : Property where
  type :=
    if d.itemsType.isSome || d.minItems.isSome || d.maxItems.isSome then .array else d.type
  description := d.description
  enumValues := d.values
  itemsType := d.itemsType.bind JsonType.ofTypeName?
  minItems := d.minItems
  maxItems := d.maxItems

/-! ### What was written is read -/

theorem forall₂_toList_map {α β γ : Type} {r : β → γ → Prop} {f : α → β} {g : α → γ}
    {o : Option α} (h : ∀ a ∈ o, r (f a) (g a)) :
    List.Forall₂ r (o.toList.map f) (o.toList.map g) := by
  rcases o with - | a
  · exact .nil
  · exact .cons (h a rfl) .nil

/-- **Every line is read as its tag.** -/
theorem readsAs_lines (mode : ValuesParsing) (d : ParamDocs) :
    List.Forall₂ (ReadsAs mode) d.lines d.tags := by
  have hp : isIdentifier d.name = true := d.isUsable.isIdentifier
  refine .cons ?_ (List.rel_append (List.rel_append (List.rel_append ?_ ?_) ?_) ?_)
  · exact readsAs_param hp d.typeName_plain d.typeName_oneLine
      (trim_ne_nil_of_ofTypeName? d.ofTypeName?_eq) d.description_trimmed d.description_oneLine
  · exact forall₂_toList_map fun vs h ↦ readsAs_values hp (d.values_ne vs h) (d.values_plain vs h)
  · exact forall₂_toList_map fun n h ↦ readsAs_itemsType hp (d.itemsType_mem n h)
  · exact forall₂_toList_map fun n _ ↦ readsAs_minItems hp n
  · exact forall₂_toList_map fun n h ↦ readsAs_maxItems hp (d.maxItems_ne n h)

theorem parameter_of_mem_tags {d : ParamDocs} {t : ParsedTag} (h : t ∈ d.tags) :
    t.parameter = d.name := by
  simp only [tags, List.mem_cons, List.mem_append, List.mem_map] at h
  rcases h with rfl | ((⟨_, -, rfl⟩ | ⟨_, -, rfl⟩) | ⟨_, -, rfl⟩) | ⟨_, -, rfl⟩ <;> rfl

/-- Nothing is wrong with a tag that was written. -/
theorem warning?_of_mem_tags {d : ParamDocs} {names : List String} (hd : d.name ∈ names)
    {t : ParsedTag} (h : t ∈ d.tags) : t.warning? names = none := by
  have hp : t.parameter ∈ names := by rwa [parameter_of_mem_tags h]
  rw [ParsedTag.warning?, if_pos hp]
  simp only [tags, List.mem_cons, List.mem_append, List.mem_map] at h
  rcases h with rfl | ((⟨_, -, rfl⟩ | ⟨_, -, rfl⟩) | ⟨_, -, rfl⟩) | ⟨_, -, rfl⟩
  · rw [ParsedTag.unknownType?, ofTypeName?_trimmed, d.ofTypeName?_eq]
    rfl
  iterate 4 rfl

/-! ### What was read is the schema -/

/-- Each kind of tags is written once at most, in the order of the kinds. -/
theorem map_kind_tags_sublist (d : ParamDocs) :
    (d.tags.map ParsedTag.kind).Sublist TagKind.all := by
  have hpart {α : Type} (o : Option α) (f : α → ParsedTag) {kind : TagKind}
      (h : ∀ a, (f a).kind = kind) : ((o.toList.map f).map ParsedTag.kind).Sublist [kind] := by
    rcases o with - | a
    · exact List.nil_sublist _
    · simp [h]
  have hall : TagKind.all =
      .param :: ([.values] ++ [.itemsType] ++ [.minItems] ++ [.maxItems]) := rfl
  rw [tags, List.map_cons, List.map_append, List.map_append, List.map_append, hall]
  refine .cons_cons _ (((List.Sublist.append ?_ ?_).append ?_).append ?_)
  iterate 4 exact hpart _ _ fun _ ↦ rfl

/-- Of the tags of one kind there is one at most. -/
theorem length_filter_kind_tags_le (d : ParamDocs) (kind : TagKind) :
    (d.tags.filter fun t ↦ t.kind == kind).length ≤ 1 := by
  have hnodup : (d.tags.map ParsedTag.kind).Nodup :=
    d.map_kind_tags_sublist.nodup (by decide)
  have hcount := List.nodup_iff_count.1 hnodup kind
  rwa [List.count, List.countP_map, List.countP_eq_length_filter] at hcount

theorem filter_tags (d : ParamDocs) : d.tags.filter (fun t ↦ t.parameter == d.name) = d.tags :=
  List.filter_eq_self.2 fun t ht ↦ by simpa using parameter_of_mem_tags ht

theorem lastSaid_tags {α : Type} (respect : ParsedTag → Option α) (d : ParamDocs) :
    lastSaid respect d.name d.tags = (d.tags.filterMap respect).getLast? := by
  rw [lastSaid, filter_tags]

theorem isConstrained_tags (d : ParamDocs) :
    isConstrained d.name d.tags =
      (d.itemsType.isSome || d.minItems.isSome || d.maxItems.isSome) := by
  have hpart {α : Type} (o : Option α) (f : α → ParsedTag) (hp : ∀ a, (f a).parameter = d.name)
      {b : Bool} (hk : ∀ a, (f a).kind.isArrayConstraint = b) :
      isConstrained d.name (o.toList.map f) = (o.isSome && b) := by
    rcases o with - | a
    · rfl
    · simp [isConstrained, hp, hk]
  have hvalues := hpart d.values (.values d.name) (fun _ ↦ rfl) (fun _ ↦ rfl)
  have hitems := hpart d.itemsType (.itemsType d.name) (fun _ ↦ rfl) (fun _ ↦ rfl)
  have hmin := hpart d.minItems (.minItems d.name) (fun _ ↦ rfl) (fun _ ↦ rfl)
  have hmax := hpart d.maxItems (.maxItems d.name) (fun _ ↦ rfl) (fun _ ↦ rfl)
  simp only [isConstrained] at hvalues hitems hmin hmax
  rw [isConstrained, tags, List.any_cons, List.any_append, List.any_append, List.any_append,
    hvalues, hitems, hmin, hmax]
  simp [ParsedTag.kind, TagKind.isArrayConstraint]

/-- **The tags of a parameter document it** as its schema says. -/
theorem property_documented (d : ParamDocs) :
    (d.param.documented d.tags).property = d.property := by
  have hdescription : d.tags.filterMap ParsedTag.description? = [d.description] := by
    simp [tags, Function.comp_def, ParsedTag.description?]
  have htype : d.tags.filterMap ParsedTag.typeName? = [trimmed d.typeName] := by
    simp [tags, Function.comp_def, ParsedTag.typeName?]
  have hvalues : d.tags.filterMap ParsedTag.values? = d.values.toList := by
    simp [tags, List.filterMap_cons, Function.comp_def, ParsedTag.values?]
  have hitems : d.tags.filterMap ParsedTag.itemType? =
      d.itemsType.toList.map fun n ↦ (JsonType.ofTypeName? n).getD .string := by
    simp [tags, List.filterMap_cons, Function.comp_def, ParsedTag.itemType?]
  have hmin : d.tags.filterMap ParsedTag.minCount? = d.minItems.toList := by
    simp [tags, List.filterMap_cons, Function.comp_def, ParsedTag.minCount?]
  have hmax : d.tags.filterMap ParsedTag.maxCount? = d.maxItems.toList := by
    simp [tags, List.filterMap_cons, Function.comp_def, ParsedTag.maxCount?]
  -- an item type is one of a few names, and each of them stands for a type
  have hmapped : (d.itemsType.map fun n ↦ (JsonType.ofTypeName? n).getD .string) =
      d.itemsType.bind JsonType.ofTypeName? := by
    rcases hn : d.itemsType with - | n
    · rfl
    · obtain ⟨type, h⟩ := exists_ofTypeName?_of_mem (d.itemsType_mem n hn)
      rw [Option.map_some, Option.bind_some, h, Option.getD_some]
  have hlast {α : Type} (o : Option α) : o.toList.getLast? = o := by cases o <;> rfl
  rw [Param.documented, ← ParamDocs.name, isConstrained_tags]
  simp only [lastSaid_tags, hdescription, htype, hvalues, hitems, hmin, hmax, List.getLast?_map,
    hlast, hmapped, List.getLast?_singleton, ofTypeName?_trimmed, d.ofTypeName?_eq,
    Option.getD_some]
  rfl

/-! ### The parameters of a signature -/

section Signature

variable {docs : List ParamDocs} {d : ParamDocs}

theorem readsAs_flatMap_lines (mode : ValuesParsing) (docs : List ParamDocs) :
    List.Forall₂ (ReadsAs mode) (docs.flatMap lines) (docs.flatMap tags) := by
  induction docs with
  | nil => exact .nil
  | cons d docs ih =>
    rw [List.flatMap_cons, List.flatMap_cons]
    exact List.rel_append (d.readsAs_lines mode) ih

/-- Among the tags of all parameters, those about one of them are its own. -/
theorem filter_flatMap_tags (hnames : (docs.map name).Nodup) (hd : d ∈ docs) :
    (docs.flatMap tags).filter (fun t ↦ t.parameter == d.name) = d.tags := by
  -- names differ, so the tags of the other parameters are about others
  have hother {e : ParamDocs} (he : e.name ≠ d.name) :
      e.tags.filter (fun t ↦ t.parameter == d.name) = [] :=
    List.filter_eq_nil_iff.2 fun t ht ↦ by simp [parameter_of_mem_tags ht, he]
  induction docs with
  | nil => cases hd
  | cons e docs ih =>
    obtain ⟨he, hnames⟩ := List.nodup_cons.1 hnames
    rw [List.flatMap_cons, List.filter_append]
    rcases List.mem_cons.1 hd with rfl | hd
    · have hrest : (docs.flatMap tags).filter (fun t ↦ t.parameter == d.name) = [] := by
        rw [List.filter_flatMap, List.flatMap_eq_nil_iff]
        exact fun e' he' ↦ hother fun h ↦ he (h ▸ List.mem_map_of_mem he')
      rw [filter_tags, hrest, List.append_nil]
    · rw [hother fun h ↦ he (h ▸ List.mem_map_of_mem hd), List.nil_append, ih hnames hd]

/-- **Their order does not matter**, because each kind of tags is there once for each parameter. -/
theorem documented_of_perm (hnames : (docs.map name).Nodup) (hd : d ∈ docs)
    {tags' : List ParsedTag} (hperm : tags'.Perm (docs.flatMap tags)) :
    d.param.documented tags' = d.param.documented d.tags := by
  have habout (kind : TagKind) (ts : List ParsedTag) :
      tagsAbout kind d.name ts =
        (ts.filter fun t ↦ t.parameter == d.name).filter fun t ↦ t.kind == kind := by
    rw [tagsAbout, List.filter_filter]
  refine documented_congr fun kind ↦ ?_
  show tagsAbout kind d.name tags' = tagsAbout kind d.name d.tags
  have hp : (tagsAbout kind d.name tags').Perm (d.tags.filter fun t ↦ t.kind == kind) := by
    rw [habout, ← filter_flatMap_tags hnames hd]
    exact (hperm.filter _).filter _
  rw [habout kind d.tags, filter_tags]
  -- lists of one element at most are equal if they are permutations
  have hle := d.length_filter_kind_tags_le kind
  rcases hone : d.tags.filter fun t ↦ t.kind == kind with - | ⟨t, - | ⟨u, us⟩⟩
  · rw [hone] at hp ⊢
    exact hp.eq_nil
  · rw [hone] at hp ⊢
    exact List.perm_singleton.1 hp
  · rw [hone] at hle
    simp at hle

/-- The schemas of the parameters, one after the other. -/
theorem map_property_of_perm (hnames : (docs.map name).Nodup) {tags' : List ParsedTag}
    (hperm : tags'.Perm (docs.flatMap tags)) :
    ((docs.map param).map fun p ↦ (p.name, (p.documented tags').property)) =
      docs.map fun d ↦ (d.name, d.property) := by
  rw [List.map_map]
  refine List.map_congr_left fun d hd ↦ ?_
  show (d.name, (d.param.documented tags').property) = _
  rw [documented_of_perm hnames hd hperm, d.property_documented]

/-- Nothing is wrong with tags that were written, whatever their order. -/
theorem filterMap_warning?_of_perm {tags' : List ParsedTag}
    (hperm : tags'.Perm (docs.flatMap tags)) :
    (inPasses tags').filterMap (ParsedTag.warning? (docs.map name)) = [] := by
  rw [List.filterMap_eq_nil_iff]
  intro t ht
  have ht : t ∈ docs.flatMap tags := hperm.mem_iff.1 ((inPasses_perm tags').mem_iff.1 ht)
  obtain ⟨d, hd, ht⟩ := List.mem_flatMap.1 ht
  exact warning?_of_mem_tags (List.mem_map_of_mem hd) ht

end Signature

end ParamDocs

/-! ### The comment -/

theorem exists_readsAs_of_mem {mode : ValuesParsing} {lines : List String}
    {tags : List ParsedTag} (h : List.Forall₂ (ReadsAs mode) lines tags) :
    ∀ l ∈ lines, ∃ tag, ReadsAs mode l tag := by
  induction h with
  | nil => exact fun l hl ↦ nomatch hl
  | cons hl _ ih => exact List.forall_mem_cons.2 ⟨⟨_, hl⟩, ih⟩

/-- **Lines that are read as tags** make up a comment of just these tags. -/
theorem parsedTags_of_readsAs {mode : ValuesParsing} {prose lines : List String}
    {tags : List ParsedTag} (hprose : (DocComment.parse (joinLines prose)).tags = [])
    (h : List.Forall₂ (ReadsAs mode) lines tags) :
    (DocComment.parse (joinLines (prose ++ lines))).parsedTags mode = tags ∧
      (DocComment.parse (joinLines (prose ++ lines))).tags.filterMap (Tag.malformed? mode) =
        [] := by
  rw [DocComment.parsedTags, parse_joinLines_append hprose (exists_readsAs_of_mem h)]
  show (lines.filterMap fun l ↦ (Line.ofChars l.toList).tag?).filterMap _ = tags ∧
    (lines.filterMap fun l ↦ (Line.ofChars l.toList).tag?).filterMap _ = []
  induction h with
  | nil => exact ⟨rfl, rfl⟩
  | @cons l tag lines tags hl _ ih =>
    obtain ⟨-, t, ht, hparse⟩ := hl
    obtain ⟨htags, hmalformed⟩ := ih
    have hparsed : t.parsed? mode = some tag := by
      rw [Tag.parsed?, hparse]
      rfl
    have hnone : t.malformed? mode = none := by
      rw [Tag.malformed?, hparse]
      rfl
    have hcons : ((l :: lines).filterMap fun l ↦ (Line.ofChars l.toList).tag?) =
        t :: lines.filterMap fun l ↦ (Line.ofChars l.toList).tag? := List.filterMap_cons_some ht
    rw [hcons, List.filterMap_cons_some hparsed, List.filterMap_cons_none hnone, htags]
    exact ⟨rfl, hmalformed⟩

variable {config : Config} {disk : Disk} {index : DocIndex}

/-- **The documentation language is complete.** Take a description without tags that is its own
reading, and the lines that document the parameters of a function, in any order, each on a line of
its own behind it. Under every configuration the function has a clean report: its schema lists the
parameters in declaration order, each with everything that was written about it. -/
theorem report_of_written {name description text : String} {docs : List ParamDocs}
    {lines : List String} (hname : isIdentifier name = true)
    (hnames : (docs.map ParamDocs.name).Nodup)
    (hdescription : DocComment.parse description = ⟨description, []⟩)
    (hlines : lines.Perm (docs.flatMap ParamDocs.lines))
    (htext : text = joinLines (description :: lines) ∨
      description = "" ∧ text = joinLines lines) :
    ((Target.function ⟨name, docs.map ParamDocs.param, .inline text⟩).convert config disk
        index).report =
      .ok
        { tool :=
            { function :=
                { name
                  description
                  parameters :=
                    { properties := docs.map fun d ↦ (d.name, d.property)
                      required :=
                        (docs.filter (·.param.kind.isRequired)).map ParamDocs.name } } }
          warnings := [] } := by
  -- the description is lines of its own, or no line at all
  obtain ⟨prose, rfl, rfl⟩ : ∃ prose, joinLines prose = description ∧
      joinLines (prose ++ lines) = text := by
    rcases htext with rfl | ⟨rfl, rfl⟩
    · exact ⟨[description], joinLines_singleton description, rfl⟩
    · exact ⟨[], rfl, rfl⟩
  -- the lines are read as tags one by one, so the tags are those of the parameters, reordered alike
  have hprose : (DocComment.parse (joinLines prose)).tags = [] := by rw [hdescription]
  obtain ⟨tags, hread, hperm⟩ := List.perm_comp_forall₂ hlines
    (ParamDocs.readsAs_flatMap_lines config.valuesParsing docs)
  obtain ⟨hparsed, hmalformed⟩ := parsedTags_of_readsAs hprose hread
  have hprosed : (DocComment.parse (joinLines (prose ++ lines))).description =
      joinLines prose := by
    rw [parse_joinLines_append hprose (exists_readsAs_of_mem hread), hdescription]
  have hmap : (docs.map ParamDocs.param).map Param.name = docs.map ParamDocs.name :=
    List.map_map ..
  have hnd : ((docs.map ParamDocs.param).map Param.name).Nodup := by rwa [hmap]
  have hshape : (Target.function ⟨name, docs.map ParamDocs.param,
      .inline (joinLines (prose ++ lines))⟩).shape =
        .ok ((docs.map ParamDocs.param).map Param.seed) :=
    shape_eq_ok_iff.2 ⟨hname, List.forall_mem_map.2 fun d _ ↦ d.isUsable, hnd, rfl⟩
  -- without a warning every policy gives the lenient report
  have hwarnings : (DocComment.parse (joinLines (prose ++ lines))).warnings config.valuesParsing
      ((docs.map ParamDocs.param).map Param.name) = [] := by
    rw [DocComment.warnings, hmalformed, hparsed, hmap]
    exact ParamDocs.filterMap_warning?_of_perm hperm
  have hrequired : ((docs.map ParamDocs.param).filter (·.kind.isRequired)).map Param.name =
      (docs.filter (·.param.kind.isRequired)).map ParamDocs.name := by
    rw [List.filter_map, List.map_map]
    rfl
  rw [report_of_no_warnings hshape rfl hwarnings]
  show Except.ok (Report.mk (Tool.ofParameters name
    (DocComment.parse (joinLines (prose ++ lines))).description
    (documented config.valuesParsing (DocComment.parse (joinLines (prose ++ lines))) _)) []) = _
  rw [documented_map_seed, hprosed, hparsed, ofParameters_documented _ _ _ hnd,
    ParamDocs.map_property_of_perm hnames hperm, hrequired]

/-- Two parameters with their lines in reverse order, under strict policies. A value holds a
bracket, a quote and a backslash, a type name has blanks around it, and a description is empty. -/
theorem report_of_written_reversed :
    ((Target.function ⟨"pack", [⟨"sizes", .requiredNamed, none⟩, ⟨"unit", .optionalNamed, "A."⟩],
      .inline (joinLines ["Packs.", "@values unit [\"]\\\"\\\\\",true,-7]",
        "@param unit [ String ] ", "@max_items sizes 9", "@items_type sizes Integer",
        "@param sizes [Set] Each."])⟩).convert (Config.strict {}) (Disk.ofReadings []) {}).report =
    .ok
      { tool :=
          { function :=
              { name := "pack"
                description := "Packs."
                parameters :=
                  { properties :=
                      [("sizes",
                          { type := .array
                            description := "Each."
                            itemsType := some .integer
                            maxItems := some 9 }),
                        ("unit",
                          { type := .string
                            description := ""
                            enumValues := some [.string "]\"\\", .bool true,
                              .number (.integer ⟨-7, by decide, by decide⟩)] })]
                    required := ["sizes"] } } }
        warnings := [] } := by
  let sizes : ParamDocs :=
    { param := ⟨"sizes", .requiredNamed, none⟩
      typeName := "Set"
      type := .array
      description := "Each."
      itemsType := some "Integer"
      maxItems := some 9
      isUsable := ⟨rfl, rfl⟩
      ofTypeName?_eq := by decide +kernel
      typeName_plain := by decide
      typeName_oneLine := by decide
      description_trimmed := by decide
      description_oneLine := by decide
      values_ne := by simp
      values_plain := by simp
      itemsType_mem := by simp [itemTypeNames]
      maxItems_ne := by simp }
  let unit : ParamDocs :=
    { param := ⟨"unit", .optionalNamed, "A."⟩
      typeName := " String "
      type := .string
      description := ""
      values := some [.string "]\"\\", .bool true, .number (.integer ⟨-7, by decide, by decide⟩)]
      isUsable := ⟨rfl, rfl⟩
      ofTypeName?_eq := by decide +kernel
      typeName_plain := by decide
      typeName_oneLine := by decide
      description_trimmed := by decide
      description_oneLine := by decide
      values_ne := by simp
      values_plain := by simp [Json.isPlain]
      itemsType_mem := by simp
      maxItems_ne := by simp }
  have hnames : ([sizes, unit].map ParamDocs.name).Nodup := by decide
  have hdescription : DocComment.parse "Packs." = ⟨"Packs.", []⟩ := by decide +kernel
  have htext : joinLines ["Packs.", "@values unit [\"]\\\"\\\\\",true,-7]",
      "@param unit [ String ] ", "@max_items sizes 9", "@items_type sizes Integer",
      "@param sizes [Set] Each."] =
        joinLines ("Packs." :: ([sizes, unit].flatMap ParamDocs.lines).reverse) := by
    decide +kernel
  have h : ((Target.function ⟨"pack", [sizes, unit].map ParamDocs.param, .inline _⟩).convert
      (Config.strict {}) (Disk.ofReadings []) {}).report = .ok _ :=
    report_of_written rfl hnames hdescription (List.reverse_perm _) (.inl htext)
  exact h.trans rfl

end ToolSchema
