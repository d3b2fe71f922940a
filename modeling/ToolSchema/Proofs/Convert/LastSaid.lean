import Mathlib.Data.List.Forall2
import ToolSchema.Proofs.Convert.Policy
import ToolSchema.Proofs.Schema.Tool

/-!
# The last word

What a schema says about a parameter, read off the tags in written order: in every respect the last
tag that speaks of it counts, and a constraint on arrays makes an array wherever it stands
(`Param.documented`). The passes of an assembly do not show in this reading, because each respect
but the type belongs to one pass (`filterMap_inPasses`), and the type is settled by the last pass if
that says anything (`lastType_inPasses`).

The reading makes the two independence statements immediate: only the tags of one kind about one
parameter have an order that matters, and a tag has no say about other parameters.
-/

namespace ToolSchema

attribute [ext] Parameter

/-! ### The declarative reading -/

/-- The last thing that tags say about a parameter in one respect. -/
def lastSaid {α : Type} (respect : ParsedTag → Option α) (parameter : String)
    (tags : List ParsedTag) : Option α :=
  ((tags.filter fun t ↦ t.parameter == parameter).filterMap respect).getLast?

/-- A constraint on arrays is among the tags about a parameter. -/
def isConstrained (parameter : String) (tags : List ParsedTag) : Bool :=
  tags.any fun t ↦ t.parameter == parameter && t.kind.isArrayConstraint

/-- **A declared parameter as tags document it.** Where they do not speak of it, the description is
the one beside the declaration, and all else is the plainest. -/
def Param.documented (tags : List ParsedTag) (p : Param) : Parameter where
  name := p.name
  isRequired := p.kind.isRequired
  type :=
    if isConstrained p.name tags then .array
    else
      match lastSaid ParsedTag.typeName? p.name tags with
      | some n => (JsonType.ofTypeName? n).getD .string
      | none => .string
  description := (lastSaid ParsedTag.description? p.name tags).getD (trimmed (p.doc.getD ""))
  enumValues := lastSaid ParsedTag.values? p.name tags
  itemsType := lastSaid ParsedTag.itemType? p.name tags
  minItems := lastSaid ParsedTag.minCount? p.name tags
  maxItems := lastSaid ParsedTag.maxCount? p.name tags

/-- Only the tags of one kind speak of the respect. -/
def SpeaksOnly {α : Type} (kind : TagKind) (respect : ParsedTag → Option α) : Prop :=
  ∀ t : ParsedTag, t.kind ≠ kind → respect t = none

namespace ParsedTag

theorem speaksOnly_description? : SpeaksOnly .param description?
  | param .., h => absurd rfl h
  | values .., _ | itemsType .., _ | minItems .., _ | maxItems .., _ => rfl

theorem speaksOnly_typeName? : SpeaksOnly .param typeName?
  | param .., h => absurd rfl h
  | values .., _ | itemsType .., _ | minItems .., _ | maxItems .., _ => rfl

theorem speaksOnly_values? : SpeaksOnly .values values?
  | values .., h => absurd rfl h
  | param .., _ | itemsType .., _ | minItems .., _ | maxItems .., _ => rfl

theorem speaksOnly_itemType? : SpeaksOnly .itemsType itemType?
  | itemsType .., h => absurd rfl h
  | param .., _ | values .., _ | minItems .., _ | maxItems .., _ => rfl

theorem speaksOnly_minCount? : SpeaksOnly .minItems minCount?
  | minItems .., h => absurd rfl h
  | param .., _ | values .., _ | itemsType .., _ | maxItems .., _ => rfl

theorem speaksOnly_maxCount? : SpeaksOnly .maxItems maxCount?
  | maxItems .., h => absurd rfl h
  | param .., _ | values .., _ | itemsType .., _ | minItems .., _ => rfl

end ParsedTag

/-! ### Heeding tags one by one -/

/-- **The last write wins.** A part of a parameter that every tag either sets or leaves alone is,
after a run of tags, what the last of them about the parameter set. -/
theorem foldl_heed_eq_lastSaid {β : Type} {part : Parameter → β} {respect : ParsedTag → Option β}
    (h : ∀ p tag, part (Parameter.document p tag) = (respect tag).getD (part p))
    (tags : List ParsedTag) (p : Parameter) :
    part (tags.foldl Parameter.heed p) = (lastSaid respect p.name tags).getD (part p) := by
  induction tags generalizing p with
  | nil => rfl
  | cons tag tags ih =>
    rw [List.foldl_cons, ih, Parameter.name_heed, Parameter.heed]
    by_cases hn : p.name = tag.parameter
    · -- what the first tag sets is what stays where the tags behind it say nothing
      rw [if_pos hn, h, lastSaid, lastSaid, List.filter_cons_of_pos (by simp [hn])]
      rcases hr : respect tag with - | b
      · rw [List.filterMap_cons_none hr, Option.getD_none]
      · rw [List.filterMap_cons_some hr, List.getLast?_cons, Option.getD_some, Option.getD_some]
    · rw [if_neg hn, lastSaid, lastSaid,
        List.filter_cons_of_neg (by simpa using Ne.symm hn)]

/-- The same for a part that is absent until a tag sets it. -/
theorem foldl_heed_eq_lastSaid_of_or {β : Type} {part : Parameter → Option β}
    {respect : ParsedTag → Option β}
    (h : ∀ p tag, part (Parameter.document p tag) = (respect tag).or (part p))
    (tags : List ParsedTag) {p : Parameter} (hp : part p = none) :
    part (tags.foldl Parameter.heed p) = lastSaid respect p.name tags := by
  have hsome (p tag) :
      part (Parameter.document p tag) = ((respect tag).map some).getD (part p) := by
    rw [h]
    cases respect tag <;> rfl
  rw [foldl_heed_eq_lastSaid hsome, hp, lastSaid, lastSaid, ← List.map_filterMap, List.getLast?_map]
  cases (List.filterMap respect _).getLast? <;> rfl

/-- What no tag can change stays. -/
theorem foldl_heed_const {β : Type} {part : Parameter → β}
    (h : ∀ p tag, part (Parameter.document p tag) = part p) (tags : List ParsedTag)
    (p : Parameter) : part (tags.foldl Parameter.heed p) = part p := by
  induction tags generalizing p with
  | nil => rfl
  | cons tag tags ih =>
    rw [List.foldl_cons, ih, Parameter.heed]
    split
    · exact h p tag
    · rfl

/-! ### Passes do not show -/

/-- The pass in which tags of a kind are taken up. -/
def TagKind.pass : TagKind → Fin 3
  | param => 0
  | values => 1
  | itemsType => 2
  | minItems => 2
  | maxItems => 2

/-- The tags of a pass. -/
def inPass (n : Fin 3) (tags : List ParsedTag) : List ParsedTag :=
  tags.filter fun t ↦ t.kind.pass == n

theorem TagKind.isArrayConstraint_eq (kind : TagKind) :
    kind.isArrayConstraint = (kind.pass == 2) := by
  cases kind <;> rfl

theorem inPasses_eq (tags : List ParsedTag) :
    inPasses tags = inPass 0 tags ++ inPass 1 tags ++ inPass 2 tags := by
  have h₀ (kind : TagKind) : (kind == .param) = (kind.pass == 0) := by cases kind <;> rfl
  have h₁ (kind : TagKind) : (kind == .values) = (kind.pass == 1) := by cases kind <;> rfl
  simp only [inPasses, inPass, h₀, h₁, TagKind.isArrayConstraint_eq]

section Passes

variable {α : Type} {f : ParsedTag → Option α} {n : Fin 3}

/-- Tags that say nothing in a respect can be left out. -/
theorem filterMap_filter_of_silent {keep : ParsedTag → Bool}
    (h : ∀ t, keep t = false → f t = none) (tags : List ParsedTag) :
    (tags.filter keep).filterMap f = tags.filterMap f := by
  rw [List.filterMap_filter]
  refine congrArg (List.filterMap · tags) (funext fun t ↦ ?_)
  rcases hk : keep t with - | -
  · exact (h t hk).symm
  · rfl

/-- A respect that only the tags of one pass speak of is settled in that pass. -/
theorem filterMap_inPass_self (h : ∀ t, t.kind.pass ≠ n → f t = none) (tags : List ParsedTag) :
    (inPass n tags).filterMap f = tags.filterMap f :=
  filterMap_filter_of_silent (fun t ht ↦ h t (by simpa using ht)) tags

theorem filterMap_inPass_of_ne (h : ∀ t, t.kind.pass ≠ n → f t = none) {m : Fin 3} (hm : m ≠ n)
    (tags : List ParsedTag) : (inPass m tags).filterMap f = [] := by
  rw [List.filterMap_eq_nil_iff]
  intro t ht
  have hp : t.kind.pass = m := by simpa using (List.mem_filter.1 ht).2
  exact h t (hp ▸ hm)

/-- **Passes keep the written order** within everything that belongs to one of them. -/
theorem filterMap_inPasses (h : ∀ t, t.kind.pass ≠ n → f t = none) (tags : List ParsedTag) :
    (inPasses tags).filterMap f = tags.filterMap f := by
  rw [inPasses_eq, List.filterMap_append, List.filterMap_append]
  match n, h with
  | 0, h =>
    rw [filterMap_inPass_self h, filterMap_inPass_of_ne h (m := 1) (by decide),
      filterMap_inPass_of_ne h (m := 2) (by decide), List.append_nil, List.append_nil]
  | 1, h =>
    rw [filterMap_inPass_self h, filterMap_inPass_of_ne h (m := 0) (by decide),
      filterMap_inPass_of_ne h (m := 2) (by decide), List.append_nil, List.nil_append]
  | 2, h =>
    rw [filterMap_inPass_self h, filterMap_inPass_of_ne h (m := 0) (by decide),
      filterMap_inPass_of_ne h (m := 1) (by decide), List.nil_append, List.nil_append]

/-- Sorting tags into passes and leaving tags out go together. -/
theorem filter_inPasses (p : ParsedTag → Bool) (tags : List ParsedTag) :
    (inPasses tags).filter p = inPasses (tags.filter p) := by
  simp only [inPasses, List.filter_append, List.filter_filter, Bool.and_comm]

/-- The last word in a respect of one kind of tags is the last written one. -/
theorem lastSaid_inPasses {kind : TagKind} (h : SpeaksOnly kind f) (parameter : String)
    (tags : List ParsedTag) : lastSaid f parameter (inPasses tags) = lastSaid f parameter tags := by
  have hpass (t : ParsedTag) (ht : t.kind.pass ≠ kind.pass) : f t = none :=
    h t fun hk ↦ ht (congrArg TagKind.pass hk)
  rw [lastSaid, lastSaid, filter_inPasses, filterMap_inPasses hpass]

end Passes

theorem isConstrained_eq (parameter : String) (tags : List ParsedTag) :
    isConstrained parameter tags =
      !(inPass 2 (tags.filter fun t ↦ t.parameter == parameter)).isEmpty := by
  rw [isConstrained, inPass, List.filter_filter]
  induction tags with
  | nil => rfl
  | cons tag tags ih =>
    rw [List.any_cons, ih, List.filter_cons, TagKind.isArrayConstraint_eq]
    cases ht : tag.kind.pass == 2 <;> cases hp : tag.parameter == parameter <;> simp

/-- In the first pass the types are the listed ones. -/
theorem filterMap_type?_inPass_zero (tags : List ParsedTag) :
    (inPass 0 tags).filterMap ParsedTag.type? =
      (tags.filterMap ParsedTag.typeName?).map fun n ↦ (JsonType.ofTypeName? n).getD .string := by
  have hpass (t : ParsedTag) (h : t.kind.pass ≠ 0) : t.typeName? = none :=
    ParsedTag.speaksOnly_typeName? t fun hk ↦ h (congrArg TagKind.pass hk)
  rw [← filterMap_inPass_self hpass, List.map_filterMap]
  refine List.filterMap_congr fun t ht ↦ ?_
  have hp : t.kind.pass = 0 := by simpa using (List.mem_filter.1 ht).2
  cases t with
  | param p types d => cases types <;> rfl
  | _ => cases hp

/-- In the last pass every type is an array. -/
theorem type?_of_mem_inPass_two {t : ParsedTag} {tags : List ParsedTag} (h : t ∈ inPass 2 tags) :
    t.type? = some .array := by
  have hp : t.kind.pass = 2 := by simpa using (List.mem_filter.1 h).2
  cases t with
  | param => cases hp
  | values => cases hp
  | _ => rfl

/-- **Constraints beat declared types.** The last type that tags give a parameter in their passes is
that of a constraint if there is one, and else that of the last listed type. -/
theorem lastType_inPasses (parameter : String) (tags : List ParsedTag) :
    lastSaid ParsedTag.type? parameter (inPasses tags) =
      if isConstrained parameter tags then some .array
      else (lastSaid ParsedTag.typeName? parameter tags).map
        fun n ↦ (JsonType.ofTypeName? n).getD .string := by
  rw [lastSaid, filter_inPasses, isConstrained_eq, lastSaid, inPasses_eq]
  generalize tags.filter (fun t ↦ t.parameter == parameter) = about
  have hvalues : (inPass 1 about).filterMap ParsedTag.type? = [] := by
    rw [List.filterMap_eq_nil_iff]
    intro t ht
    have hp : t.kind.pass = 1 := by simpa using (List.mem_filter.1 ht).2
    cases t with
    | values => rfl
    | _ => cases hp
  rw [List.filterMap_append, List.filterMap_append, hvalues, List.append_nil,
    filterMap_type?_inPass_zero, List.getLast?_append, List.getLast?_map]
  rcases List.eq_nil_or_concat (inPass 2 about) with h | ⟨before, t, h⟩
  · rw [h]
    rfl
  · -- the last pass has the last word, if it has any
    rw [List.concat_eq_append] at h
    have ht : t.type? = some .array := type?_of_mem_inPass_two (h ▸ List.mem_concat_self)
    rw [h, List.filterMap_append, List.filterMap_cons_some ht, List.filterMap_nil,
      List.getLast?_concat]
    simp

/-- A part that the tags of one kind set is, after all passes, what the last written of them set. -/
theorem foldl_inPasses_eq_lastSaid {β : Type} {part : Parameter → Option β} {kind : TagKind}
    {respect : ParsedTag → Option β} (hs : SpeaksOnly kind respect)
    (h : ∀ p tag, part (Parameter.document p tag) = (respect tag).or (part p))
    (tags : List ParsedTag) {p : Parameter} (hp : part p = none) :
    part ((inPasses tags).foldl Parameter.heed p) = lastSaid respect p.name tags := by
  rw [foldl_heed_eq_lastSaid_of_or h _ hp, lastSaid_inPasses hs]

/-- **What becomes of a seed** in an assembly is the declarative reading of the tags. -/
theorem foldl_heed_seed (p : Param) (tags : List ParsedTag) :
    (inPasses tags).foldl Parameter.heed p.seed = p.documented tags := by
  have hname : ((inPasses tags).foldl Parameter.heed p.seed).name = p.name :=
    foldl_heed_const (fun _ _ ↦ rfl) _ _
  have hrequired : ((inPasses tags).foldl Parameter.heed p.seed).isRequired = p.kind.isRequired :=
    foldl_heed_const (fun _ _ ↦ rfl) _ _
  have htype : ((inPasses tags).foldl Parameter.heed p.seed).type =
      (p.documented tags).type := by
    have h : ((inPasses tags).foldl Parameter.heed p.seed).type =
        (lastSaid ParsedTag.type? p.name (inPasses tags)).getD .string :=
      foldl_heed_eq_lastSaid (fun _ _ ↦ rfl) _ _
    rw [h, lastType_inPasses, Param.documented]
    split
    · rfl
    · rcases lastSaid ParsedTag.typeName? p.name tags with - | n
      · rfl
      · rw [Option.map_some, Option.getD_some]
  have hdescription : ((inPasses tags).foldl Parameter.heed p.seed).description =
      (p.documented tags).description := by
    rw [Param.documented, ← lastSaid_inPasses ParsedTag.speaksOnly_description?]
    exact foldl_heed_eq_lastSaid (fun _ _ ↦ rfl) _ _
  have hvalues : ((inPasses tags).foldl Parameter.heed p.seed).enumValues =
      (p.documented tags).enumValues :=
    foldl_inPasses_eq_lastSaid ParsedTag.speaksOnly_values? (fun _ _ ↦ rfl) tags rfl
  have hitems : ((inPasses tags).foldl Parameter.heed p.seed).itemsType =
      (p.documented tags).itemsType :=
    foldl_inPasses_eq_lastSaid ParsedTag.speaksOnly_itemType? (fun _ _ ↦ rfl) tags rfl
  have hmin : ((inPasses tags).foldl Parameter.heed p.seed).minItems =
      (p.documented tags).minItems :=
    foldl_inPasses_eq_lastSaid ParsedTag.speaksOnly_minCount? (fun _ _ ↦ rfl) tags rfl
  have hmax : ((inPasses tags).foldl Parameter.heed p.seed).maxItems =
      (p.documented tags).maxItems :=
    foldl_inPasses_eq_lastSaid ParsedTag.speaksOnly_maxCount? (fun _ _ ↦ rfl) tags rfl
  exact Parameter.ext hname hrequired htype hdescription hvalues hitems hmin hmax

theorem documented_map_seed (mode : ValuesParsing) (doc : DocComment) (params : List Param) :
    documented mode doc (params.map Param.seed) =
      params.map (Param.documented (doc.parsedTags mode)) := by
  rw [documented, List.map_map]
  exact List.map_congr_left fun p _ ↦ foldl_heed_seed p _

/-! ### What the reading depends on -/

/-- The tags of a kind about a parameter, in their order. -/
def tagsAbout (kind : TagKind) (parameter : String) (tags : List ParsedTag) : List ParsedTag :=
  tags.filter fun t ↦ t.kind == kind && t.parameter == parameter

theorem lastSaid_eq_tagsAbout {α : Type} {kind : TagKind} {respect : ParsedTag → Option α}
    (h : SpeaksOnly kind respect) (parameter : String) (tags : List ParsedTag) :
    lastSaid respect parameter tags =
      ((tagsAbout kind parameter tags).filterMap respect).getLast? := by
  have hkind (t : ParsedTag) (ht : (t.kind == kind) = false) : respect t = none :=
    h t (by simpa using ht)
  rw [lastSaid, tagsAbout, ← filterMap_filter_of_silent hkind, List.filter_filter]

theorem isConstrained_iff {parameter : String} {tags : List ParsedTag} :
    isConstrained parameter tags = true ↔
      ∃ kind, kind.isArrayConstraint = true ∧ tagsAbout kind parameter tags ≠ [] := by
  rw [isConstrained, List.any_eq_true]
  constructor
  · rintro ⟨t, ht, h⟩
    obtain ⟨hp, hk⟩ := Bool.and_eq_true_iff.1 h
    refine ⟨t.kind, hk, List.ne_nil_of_mem (List.mem_filter.2 ⟨ht, ?_⟩)⟩
    rw [hp, beq_self_eq_true, Bool.and_self]
  · rintro ⟨kind, hk, hne⟩
    obtain ⟨t, ht⟩ := List.exists_mem_of_ne_nil _ hne
    obtain ⟨ht, h⟩ := List.mem_filter.1 ht
    obtain ⟨hkind, hp⟩ := Bool.and_eq_true_iff.1 h
    exact ⟨t, ht, by rw [hp, eq_of_beq hkind, hk, Bool.and_self]⟩

/-- **Only the order within a kind matters.** Two lists of tags document a parameter alike if they
have the same tags of each kind about it, in the same order. -/
theorem documented_congr {p : Param} {tags others : List ParsedTag}
    (h : ∀ kind, tagsAbout kind p.name others = tagsAbout kind p.name tags) :
    p.documented others = p.documented tags := by
  have hlast {α : Type} {kind : TagKind} {respect : ParsedTag → Option α}
      (hs : SpeaksOnly kind respect) :
      lastSaid respect p.name others = lastSaid respect p.name tags := by
    rw [lastSaid_eq_tagsAbout hs, lastSaid_eq_tagsAbout hs, h]
  have hconstrained : isConstrained p.name others = isConstrained p.name tags := by
    rw [Bool.eq_iff_iff, isConstrained_iff, isConstrained_iff]
    simp only [h]
  simp only [Param.documented, hconstrained, hlast ParsedTag.speaksOnly_description?,
    hlast ParsedTag.speaksOnly_typeName?, hlast ParsedTag.speaksOnly_values?,
    hlast ParsedTag.speaksOnly_itemType?, hlast ParsedTag.speaksOnly_minCount?,
    hlast ParsedTag.speaksOnly_maxCount?]

/-- **A tag has no say about other parameters.** Lists of tags that agree apart from those about `q`
document every parameter but `q` alike. -/
theorem documented_congr_of_ne {p : Param} {q : String} {tags others : List ParsedTag}
    (hq : p.name ≠ q)
    (h : others.filter (·.parameter != q) = tags.filter (·.parameter != q)) :
    p.documented others = p.documented tags := by
  have habout (kind : TagKind) (ts : List ParsedTag) :
      tagsAbout kind p.name (ts.filter (·.parameter != q)) = tagsAbout kind p.name ts := by
    rw [tagsAbout, tagsAbout, List.filter_filter]
    refine List.filter_congr fun t _ ↦ ?_
    by_cases ht : t.parameter = p.name
    · simp [ht, hq]
    · simp [ht]
  exact documented_congr fun kind ↦ by rw [← habout, h, habout]

/-! ### Assemblies -/

/-- Two tools that differ in the schema of one parameter at most. -/
structure Tool.AgreeApartFrom (q : String) (tool other : Tool) : Prop where
  name : other.function.name = tool.function.name
  description : other.function.description = tool.function.description
  type : other.function.parameters.type = tool.function.parameters.type
  required : other.function.parameters.required = tool.function.parameters.required
  /-- The same parameters in the same order, all but the one with the same schema. -/
  properties : List.Forall₂ (fun a b ↦ b.1 = a.1 ∧ (a.1 ≠ q → b.2 = a.2))
    tool.function.parameters.properties other.function.parameters.properties

variable {config : Config} {callable name : String} {doc other : DocComment} {params : List Param}
  {ps : List Parameter} {tool : Tool}

/-- The tool of different parameters lists them as they are. -/
theorem ofParameters_documented (name description : String) (tags : List ParsedTag)
    (h : (params.map Param.name).Nodup) :
    Tool.ofParameters name description (params.map (Param.documented tags)) =
      { function :=
          { name, description
            parameters :=
              { properties := params.map fun p ↦ (p.name, (p.documented tags).property)
                required := (params.filter (·.kind.isRequired)).map Param.name } } } := by
  have hnames : (params.map (Param.documented tags)).map Parameter.name =
      params.map Param.name := by
    rw [List.map_map]
    rfl
  rw [Tool.ofParameters, parameters_addParameters _ (by rw [hnames]; exact h)]
  simp only [List.nil_append, propertiesOf, requiredNames, List.map_map, List.filter_map]
  rfl

/-- **When an assembly succeeds**, under whatever policies, it lists the declared parameters as the
comment's well-formed tags document them. -/
theorem assemble_eq_ok_iff (hps : extractParameters callable params = .ok ps) :
    (assemble config name doc ps).result = .ok tool ↔
      (∀ w ∈ doc.warnings config.valuesParsing (params.map Param.name),
          w.fatal? config = none) ∧
        tool = .ofParameters name doc.description
          (params.map (Param.documented (doc.parsedTags config.valuesParsing))) := by
  obtain ⟨-, hnd, rfl⟩ := extractParameters_eq_ok_iff.1 hps
  rw [result_assemble_eq_ok_iff (by rwa [map_name_seed]), map_name_seed, documented_map_seed]

/-- No warning of a comment is fatal if none of its malformed tags is, and none of its well-formed
tags, whatever their order. -/
theorem forall_mem_warnings_iff {mode : ValuesParsing} {names : List String}
    {fine : Warning → Prop} :
    (∀ w ∈ doc.warnings mode names, fine w) ↔
      (∀ e ∈ doc.tags.filterMap (Tag.malformed? mode), fine (.malformedTag e)) ∧
        ∀ tag ∈ doc.parsedTags mode, ∀ w, tag.warning? names = some w → fine w := by
  rw [DocComment.warnings, List.forall_mem_append, List.forall_mem_map]
  refine and_congr Iff.rfl ⟨fun h tag ht w hw ↦ ?_, fun h w hw ↦ ?_⟩
  · exact h w (List.mem_filterMap.2 ⟨tag, (inPasses_perm _).mem_iff.2 ht, hw⟩)
  · obtain ⟨tag, ht, hw⟩ := List.mem_filterMap.1 hw
    exact h tag ((inPasses_perm _).mem_iff.1 ht) w hw

/-- Lists of tags that agree on every kind and parameter hold the same tags. -/
theorem mem_of_tagsAbout_eq {tags others : List ParsedTag}
    (h : ∀ kind parameter, tagsAbout kind parameter others = tagsAbout kind parameter tags)
    {t : ParsedTag} (ht : t ∈ others) : t ∈ tags := by
  have hmem : t ∈ tagsAbout t.kind t.parameter others :=
    List.mem_filter.2 ⟨ht, by rw [beq_self_eq_true, beq_self_eq_true]; rfl⟩
  rw [h] at hmem
  exact (List.mem_filter.1 hmem).1

/-- The last tag that says something is among those about the parameter. -/
theorem exists_of_lastSaid {α : Type} {respect : ParsedTag → Option α} {parameter : String}
    {tags : List ParsedTag} {a : α} (h : lastSaid respect parameter tags = some a) :
    ∃ t ∈ tags, t.parameter = parameter ∧ respect t = some a := by
  obtain ⟨t, ht, ha⟩ := List.mem_filterMap.1 (List.mem_of_getLast? h)
  obtain ⟨ht, hp⟩ := List.mem_filter.1 ht
  exact ⟨t, ht, eq_of_beq hp, ha⟩

/-- An assembly that succeeds under a strict policy has met no type name that stands for no type. -/
theorem isSome_ofTypeName?_of_assemble (hps : extractParameters callable params = .ok ps)
    (h : (assemble config name doc ps).result = .ok tool) (hstrict : config.typePolicy = .strict)
    {p : Param} (hp : p ∈ params) {n : String}
    (hn : lastSaid ParsedTag.typeName? p.name (doc.parsedTags config.valuesParsing) = some n) :
    (JsonType.ofTypeName? n).isSome = true := by
  obtain ⟨hfatal, -⟩ := (assemble_eq_ok_iff hps).1 h
  obtain ⟨t, ht, htp, htn⟩ := exists_of_lastSaid hn
  rw [Option.isSome_iff_ne_none]
  intro hnone
  -- the tag would warn about the type, which is fatal here
  have hw : t.warning? (params.map Param.name) = some (.unknownType t.parameter n) := by
    rw [ParsedTag.warning?, if_pos (htp ▸ List.mem_map_of_mem hp)]
    exact ParsedTag.unknownType?_eq_some_iff.2 ⟨n, htn, hnone, rfl⟩
  have hfine := (forall_mem_warnings_iff.1 hfatal).2 t ht _ hw
  rw [Warning.fatal?, if_pos hstrict] at hfine
  cases hfine

/-- **The same tags, in another order.** A comment with the same well-formed tags of each kind about
each parameter, in the same order, gives the same tool, unless a malformed tag stops it. -/
theorem assemble_of_tagsAbout_eq (hps : extractParameters callable params = .ok ps)
    (h : (assemble config name doc ps).result = .ok tool)
    (hdescription : other.description = doc.description)
    (htags : ∀ kind parameter,
      tagsAbout kind parameter (other.parsedTags config.valuesParsing) =
        tagsAbout kind parameter (doc.parsedTags config.valuesParsing))
    (hmalformed : config.tagPolicy = .strict →
      other.tags.filterMap (Tag.malformed? config.valuesParsing) = []) :
    (assemble config name other ps).result = .ok tool := by
  obtain ⟨hfatal, rfl⟩ := (assemble_eq_ok_iff hps).1 h
  rw [assemble_eq_ok_iff hps, hdescription, forall_mem_warnings_iff]
  refine ⟨⟨fun e he ↦ ?_, fun tag htag ↦ ?_⟩, congrArg _ (List.map_congr_left fun p _ ↦ ?_)⟩
  · rw [Warning.fatal?]
    split
    · next hstrict =>
      rw [hmalformed hstrict] at he
      exact nomatch he
    · rfl
  · exact (forall_mem_warnings_iff.1 hfatal).2 tag (mem_of_tagsAbout_eq htags htag)
  · exact (documented_congr fun kind ↦ htags kind p.name).symm

/-- **Tags about one parameter do not concern the others.** Comments that differ in tags about `q`
only give tools that differ in the schema of `q` only. -/
theorem agreeApartFrom_of_assemble {q : String} {tool' : Tool}
    (hps : extractParameters callable params = .ok ps)
    (h : (assemble config name doc ps).result = .ok tool)
    (h' : (assemble config name other ps).result = .ok tool')
    (hdescription : other.description = doc.description)
    (htags : (other.parsedTags config.valuesParsing).filter (·.parameter != q) =
      (doc.parsedTags config.valuesParsing).filter (·.parameter != q)) :
    tool.AgreeApartFrom q tool' := by
  obtain ⟨-, hnd, -⟩ := extractParameters_eq_ok_iff.1 hps
  obtain ⟨-, rfl⟩ := (assemble_eq_ok_iff hps).1 h
  obtain ⟨-, rfl⟩ := (assemble_eq_ok_iff hps).1 h'
  rw [ofParameters_documented _ _ _ hnd, ofParameters_documented _ _ _ hnd]
  refine ⟨rfl, hdescription, rfl, rfl, ?_⟩
  rw [List.forall₂_map_left_iff, List.forall₂_map_right_iff, List.forall₂_same]
  refine fun p _ ↦ ⟨rfl, fun hq ↦ ?_⟩
  exact congrArg Parameter.property (documented_congr_of_ne hq htags)

/-- **The last tag wins, and constraints make arrays.** An assembly that succeeds on the seeds of a
signature gives the name, the comment's description, and for each declared parameter, in declaration
order, what the last of the well-formed tags about it say (`Param.documented`); under a strict
policy the last listed type stands for one. So the order of tags matters within one kind and one
parameter only, and tags about a parameter change nothing but its own schema. -/
theorem assemble_last_wins (hps : extractParameters callable params = .ok ps)
    (h : (assemble config name doc ps).result = .ok tool) :
    let tags := doc.parsedTags config.valuesParsing
    tool =
        { function :=
            { name
              description := doc.description
              parameters :=
                { properties := params.map fun p ↦ (p.name, (p.documented tags).property)
                  required := (params.filter (·.kind.isRequired)).map Param.name } } } ∧
      (config.typePolicy = .strict → ∀ p ∈ params, ∀ n,
        lastSaid ParsedTag.typeName? p.name tags = some n →
          (JsonType.ofTypeName? n).isSome = true) ∧
      (∀ other : DocComment, other.description = doc.description →
        (∀ kind parameter, tagsAbout kind parameter (other.parsedTags config.valuesParsing) =
          tagsAbout kind parameter tags) →
        (config.tagPolicy = .strict →
          other.tags.filterMap (Tag.malformed? config.valuesParsing) = []) →
        (assemble config name other ps).result = .ok tool) ∧
      ∀ (q : String) (other : DocComment) (tool' : Tool), other.description = doc.description →
        (other.parsedTags config.valuesParsing).filter (·.parameter != q) =
          tags.filter (·.parameter != q) →
        (assemble config name other ps).result = .ok tool' → tool.AgreeApartFrom q tool' := by
  intro tags
  obtain ⟨-, hnd, -⟩ := extractParameters_eq_ok_iff.1 hps
  refine ⟨?_, fun hstrict p hp n hn ↦ ?_, fun other hd ht hm ↦ ?_, fun q other tool' hd ht h' ↦ ?_⟩
  · obtain ⟨-, rfl⟩ := (assemble_eq_ok_iff hps).1 h
    exact ofParameters_documented _ _ _ hnd
  · exact isSome_ofTypeName?_of_assemble hps h hstrict hp hn
  · exact assemble_of_tagsAbout_eq hps h hd ht hm
  · exact agreeApartFrom_of_assemble hps h h' hd ht

/-- A constraint before the types of its parameter, and a second word on the other one, under strict
policies. -/
theorem assemble_last_wins_strict :
    let params : List Param := [⟨"sizes", .requiredNamed, none⟩, ⟨"unit", .optionalNamed, "A."⟩]
    let doc := DocComment.parse ("Packs.\n@min_items sizes 2\n@param unit [Integer] Old.\n" ++
      "@param sizes [String]\n@param unit New.")
    ∃ ps tool, extractParameters "pack" params = .ok ps ∧
      (assemble (Config.strict {}) "pack" doc ps).result = .ok tool ∧
      tool.function.parameters.properties =
        [("sizes", { type := .array, description := "", minItems := some 2 }),
          ("unit", { type := .integer, description := "New." })] ∧
      tool.function.parameters.required = ["sizes"] := by
  intro params doc
  have hps : extractParameters "pack" params = .ok (params.map Param.seed) := rfl
  have hresult : (assemble (Config.strict {}) "pack" doc (params.map Param.seed)).result =
      .ok (.ofParameters "pack" "Packs." [
        { name := "sizes", isRequired := true, type := .array, minItems := some 2 },
        { name := "unit", isRequired := false, type := .integer, description := "New." }]) := rfl
  obtain ⟨htool, -⟩ := assemble_last_wins hps hresult
  refine ⟨params.map Param.seed, _, hps, hresult, ?_, ?_⟩
  · rw [htool]
    rfl
  · rw [htool]
    rfl

end ToolSchema
