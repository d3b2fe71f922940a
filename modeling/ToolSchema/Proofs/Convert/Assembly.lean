import ToolSchema.Convert.Assembly
import ToolSchema.Proofs.Convert.Trace

/-!
# Assembly under lenient policies

Under lenient policies an assembly does not fail, and what it gives can be read off the tags without
running it. This module has that reading: what a tag says about its parameter
(`Parameter.document`), what it warns about (`ParsedTag.warning?`), and that a run of tags does
to the parameters what every tag does to the parameter that it names.

* `result_applyTags`: every parameter heeds the tags one by one. The names of the parameters must
  differ, since only the first parameter of a name is found.
* `warningsOf_applyTags` and `countP_applyTags`: a tag changes no name, so whether its parameter is
  declared does not depend on the tags before it.

Strict policies are no concern here; their runs are cuts of these.
-/

namespace ToolSchema

/-! ### Reading a comment's tags -/

/-- What a tag says about a parameter, if it follows the grammar of a kind. -/
def Tag.parsed? (mode : ValuesParsing) (t : Tag) : Option ParsedTag :=
  (t.parse? mode).bind Except.toOption

/-- Why a tag does not follow the grammar that its name stands for. -/
def Tag.malformed? (mode : ValuesParsing) (t : Tag) : Option TagError :=
  (t.parse? mode).bind fun
    | .error e => some e
    | .ok _ => none

/-- **Reading tags.** The well-formed tags are kept in their order, and so are the warnings about
the others. -/
theorem readTags_lenient {config : Config} (h : config.tagPolicy = .lenient) (ts : List Tag) :
    readTags config ts =
      ⟨(ts.filterMap (Tag.malformed? config.valuesParsing)).map fun e ↦ .warning (.malformedTag e),
        .ok (ts.filterMap (Tag.parsed? config.valuesParsing))⟩ := by
  induction ts with
  | nil => rfl
  | cons t ts ih =>
    rw [readTags]
    rcases ht : t.parse? config.valuesParsing with - | (e | p)
    · simp [ih, Tag.malformed?, Tag.parsed?, ht]
    · simp [ih, Tag.malformed?, Tag.parsed?, ht, h, Traced.tolerate, Traced.warn, Traced.note,
        Except.toOption]
    · simp [ih, Tag.malformed?, Tag.parsed?, ht, Except.toOption]

/-! ### What a tag says -/

namespace ParsedTag

/-- The description in the tag. -/
def description? : ParsedTag → Option String
  | param _ _ description => some description
  | _ => none

/-- The first type that the tag lists. -/
def typeName? : ParsedTag → Option String
  | param _ types _ => types.head?
  | _ => none

/-- The values in the tag. -/
def values? : ParsedTag → Option (List Json)
  | values _ vs => some vs
  | _ => none

/-- The item type in the tag. -/
def itemType? : ParsedTag → Option JsonType
  | itemsType _ typeName => some ((JsonType.ofTypeName? typeName).getD .string)
  | _ => none

/-- The least number of items in the tag. -/
def minCount? : ParsedTag → Option UInt64
  | minItems _ n => some n
  | _ => none

/-- The greatest number of items in the tag. -/
def maxCount? : ParsedTag → Option UInt64
  | maxItems _ n => some n
  | _ => none

/-- The type that the tag gives to its parameter: a listed type that stands for none is a string,
and a constraint on arrays makes an array. -/
def type? : ParsedTag → Option JsonType
  | param _ (n :: _) _ => some ((JsonType.ofTypeName? n).getD .string)
  | param _ [] _ => none
  | values .. => none
  | itemsType .. => some .array
  | minItems .. => some .array
  | maxItems .. => some .array

/-- The warning that the first type of the tag stands for none. -/
def unknownType? : ParsedTag → Option Warning
  | param p (n :: _) _ =>
    if JsonType.ofTypeName? n = none then some (.unknownType p n) else none
  | _ => none

/-- What the tag warns about where parameters of these names are declared. A type is looked at only
if its parameter is there. -/
def warning? (names : List String) (tag : ParsedTag) : Option Warning :=
  if tag.parameter ∈ names then tag.unknownType?
  else some (.unknownParameter tag.kind tag.parameter)

/-- A warning about a type says that the first listed one stands for none. -/
theorem unknownType?_eq_some_iff {tag : ParsedTag} {w : Warning} :
    tag.unknownType? = some w ↔
      ∃ n, tag.typeName? = some n ∧ JsonType.ofTypeName? n = none ∧
        w = .unknownType tag.parameter n := by
  rcases tag with ⟨p, - | ⟨n, types⟩, d⟩ | _ | _ | _ | _
  -- the one case of interest is that of a description that lists a type
  case param.cons =>
    rw [unknownType?]
    constructor
    · intro h
      split at h
      · next hn => exact ⟨n, rfl, hn, (Option.some.inj h).symm⟩
      · cases h
    · rintro ⟨m, hm, hn, rfl⟩
      obtain rfl : n = m := Option.some.inj hm
      rw [if_pos hn]
      rfl
  all_goals exact ⟨nofun, fun ⟨_, h, _⟩ ↦ nomatch h⟩

end ParsedTag

/-- The parameter with what a tag says about it. -/
def Parameter.document (p : Parameter) (tag : ParsedTag) : Parameter :=
  { p with
    type := tag.type?.getD p.type
    description := tag.description?.getD p.description
    enumValues := tag.values?.or p.enumValues
    itemsType := tag.itemType?.or p.itemsType
    minItems := tag.minCount?.or p.minItems
    maxItems := tag.maxCount?.or p.maxItems }

/-- The parameter with what a tag says, if the tag names it. -/
def Parameter.heed (p : Parameter) (tag : ParsedTag) : Parameter :=
  if p.name = tag.parameter then p.document tag else p

@[simp] theorem Parameter.name_heed (p : Parameter) (tag : ParsedTag) :
    (p.heed tag).name = p.name := by
  rw [Parameter.heed]
  split <;> rfl

/-! ### One tag -/

/-- A type name is resolved with a warning if it stands for no type. -/
theorem resolveType_lenient (parameter n : String) :
    resolveType .lenient parameter n =
      ⟨if JsonType.ofTypeName? n = none then [.warning (.unknownType parameter n)] else [],
        .ok ((JsonType.ofTypeName? n).getD .string)⟩ := by
  rcases h : JsonType.ofTypeName? n with - | type <;>
    simp [resolveType, h, Traced.tolerate, Traced.warn, Traced.note]

/-- A tag documents the parameter that it names, and warns about its type at most. -/
theorem apply_lenient {p : Parameter} {tag : ParsedTag} (h : p.name = tag.parameter) :
    p.apply .lenient tag =
      ⟨tag.unknownType?.toList.map Note.warning, .ok (p.document tag)⟩ := by
  cases tag with
  | param q types d =>
    cases types with
    | nil => rfl
    | cons n types =>
      obtain rfl : p.name = q := h
      have hd : p.document (.param p.name (n :: types) d) =
          { p with description := d, type := (JsonType.ofTypeName? n).getD .string } := by
        simp [Parameter.document, ParsedTag.type?, ParsedTag.description?, ParsedTag.values?,
          ParsedTag.itemType?, ParsedTag.minCount?, ParsedTag.maxCount?]
      rw [hd, Parameter.apply, resolveType_lenient, ParsedTag.unknownType?]
      by_cases ht : JsonType.ofTypeName? n = none <;> simp [ht]
  | itemsType q n =>
    simp [Parameter.apply, Parameter.document, ParsedTag.type?, ParsedTag.description?,
      ParsedTag.values?, ParsedTag.itemType?, ParsedTag.minCount?, ParsedTag.maxCount?,
      ParsedTag.unknownType?]
  | values => rfl
  | minItems => rfl
  | maxItems => rfl

/-- A tag was taken up. -/
def Note.isApplied : Note → Bool
  | applied .. => true
  | _ => false

/-- A tag that names a declared parameter is noted down by its warning, then as taken up. -/
theorem applyTag_cons_self {p : Parameter} {tag : ParsedTag} (h : p.name = tag.parameter)
    (ps : List Parameter) :
    applyTag .lenient tag (p :: ps) =
      ⟨tag.unknownType?.toList.map Note.warning ++
        [.applied p.name tag.kind (p.document tag).type], .ok (p.document tag :: ps)⟩ := by
  rw [applyTag, if_pos h, apply_lenient h]
  rfl

/-- A tag passes a parameter that it does not name by. -/
theorem applyTag_cons_of_ne {p : Parameter} {tag : ParsedTag} (policy : Policy)
    (h : p.name ≠ tag.parameter) (ps : List Parameter) :
    applyTag policy tag (p :: ps) = applyTag policy tag ps >>= fun ps ↦ pure (p :: ps) := by
  rw [applyTag, if_neg h]

/-- A tag that names no parameter of a list leaves each of them alone. -/
theorem map_heed_of_notMem {tag : ParsedTag} {ps : List Parameter}
    (h : tag.parameter ∉ ps.map Parameter.name) : ps.map (·.heed tag) = ps := by
  refine (List.map_congr_left fun p hp ↦ ?_).trans (List.map_id ps)
  have hp' : p.name ≠ tag.parameter := fun hn ↦ h (hn ▸ List.mem_map_of_mem hp)
  rw [Parameter.heed, if_neg hp', id]

/-- **What a tag does.** It documents the parameter that it names. -/
theorem result_applyTag {ps : List Parameter} (hps : (ps.map Parameter.name).Nodup)
    (tag : ParsedTag) : (applyTag .lenient tag ps).result = .ok (ps.map (·.heed tag)) := by
  induction ps with
  | nil => rfl
  | cons p ps ih =>
    rw [List.map_cons, List.nodup_cons] at hps
    by_cases h : p.name = tag.parameter
    · -- no parameter behind it has the name, so all of them stay as they are
      rw [applyTag_cons_self h, List.map_cons, map_heed_of_notMem (h ▸ hps.1), Parameter.heed,
        if_pos h]
    · rw [applyTag_cons_of_ne _ h, Traced.result_bind_of_ok (ih hps.2), List.map_cons,
        Parameter.heed, if_neg h]
      rfl

/-- **What a tag warns about**, whether its parameter is declared more than once or not. -/
theorem warningsOf_applyTag (tag : ParsedTag) (ps : List Parameter) :
    warningsOf (applyTag .lenient tag ps).notes =
      (tag.warning? (ps.map Parameter.name)).toList := by
  induction ps with
  | nil => rfl
  | cons p ps ih =>
    by_cases h : p.name = tag.parameter
    · rw [applyTag_cons_self h, ParsedTag.warning?, if_pos (by simp [h])]
      cases tag.unknownType? <;> rfl
    · have hw : tag.warning? ((p :: ps).map Parameter.name) =
          tag.warning? (ps.map Parameter.name) := by
        simp [ParsedTag.warning?, Ne.symm h]
      rw [applyTag_cons_of_ne _ h, Traced.notes_bind_pure, hw, ih]

/-- A tag is noted down as taken up once if its parameter is declared, and else not. -/
theorem countP_applyTag (tag : ParsedTag) (ps : List Parameter) :
    (applyTag .lenient tag ps).notes.countP Note.isApplied =
      if tag.parameter ∈ ps.map Parameter.name then 1 else 0 := by
  induction ps with
  | nil => rfl
  | cons p ps ih =>
    by_cases h : p.name = tag.parameter
    · rw [applyTag_cons_self h, if_pos (by simp [h])]
      cases tag.unknownType? <;> rfl
    · rw [applyTag_cons_of_ne _ h, Traced.notes_bind_pure, ih]
      simp [Ne.symm h]

/-! ### Runs of tags -/

theorem map_name_heed (tag : ParsedTag) (ps : List Parameter) :
    (ps.map (·.heed tag)).map Parameter.name = ps.map Parameter.name := by
  simp [Function.comp_def]

/-- **What a run of tags does.** Every parameter heeds the tags one by one; those that name another
one make no difference to it. -/
theorem result_applyTags (tags : List ParsedTag) {ps : List Parameter}
    (hps : (ps.map Parameter.name).Nodup) :
    (applyTags .lenient ps tags).result = .ok (ps.map fun p ↦ tags.foldl Parameter.heed p) := by
  induction tags generalizing ps with
  | nil => exact congrArg Except.ok (List.map_id ps).symm
  | cons tag tags ih =>
    rw [applyTags, Traced.result_bind_of_ok (result_applyTag hps tag),
      ih (by rwa [map_name_heed]), List.map_map]
    rfl

/-- **What a run of tags warns about**: what each of them does, in their order. -/
theorem warningsOf_applyTags (tags : List ParsedTag) {ps : List Parameter}
    (hps : (ps.map Parameter.name).Nodup) :
    warningsOf (applyTags .lenient ps tags).notes =
      tags.filterMap (ParsedTag.warning? (ps.map Parameter.name)) := by
  induction tags generalizing ps with
  | nil => rfl
  | cons tag tags ih =>
    rw [applyTags, Traced.notes_bind_of_ok (result_applyTag hps tag), warningsOf_append,
      warningsOf_applyTag, ih (by rwa [map_name_heed]), map_name_heed]
    cases h : tag.warning? (ps.map Parameter.name) <;> simp [h]

/-- A run of tags notes down as taken up those whose parameters are declared. -/
theorem countP_applyTags (tags : List ParsedTag) {ps : List Parameter}
    (hps : (ps.map Parameter.name).Nodup) :
    (applyTags .lenient ps tags).notes.countP Note.isApplied =
      tags.countP fun tag ↦ decide (tag.parameter ∈ ps.map Parameter.name) := by
  induction tags generalizing ps with
  | nil => rfl
  | cons tag tags ih =>
    rw [applyTags, Traced.notes_bind_of_ok (result_applyTag hps tag), List.countP_append,
      countP_applyTag, ih (by rwa [map_name_heed]), map_name_heed, List.countP_cons, Nat.add_comm]
    simp only [decide_eq_true_eq]

/-! ### Whole assemblies -/

/-- The configuration with both policies lenient. -/
def Config.lenient (c : Config) : Config := { c with tagPolicy := .lenient, typePolicy := .lenient }

/-- The well-formed tags of a comment, in written order. -/
def DocComment.parsedTags (mode : ValuesParsing) (doc : DocComment) : List ParsedTag :=
  doc.tags.filterMap (Tag.parsed? mode)

/-- What a comment warns about where parameters of these names are declared: first its malformed
tags in written order, then the well-formed ones in the order in which they are taken up. -/
def DocComment.warnings (mode : ValuesParsing) (names : List String) (doc : DocComment) :
    List Warning :=
  (doc.tags.filterMap (Tag.malformed? mode)).map Warning.malformedTag ++
    (inPasses (doc.parsedTags mode)).filterMap (ParsedTag.warning? names)

variable {config : Config}

/-- **A lenient assembly does not fail**, and gives the tool of the parameters that have heeded the
well-formed tags in the order of the passes. -/
theorem result_assemble (htag : config.tagPolicy = .lenient) (htype : config.typePolicy = .lenient)
    (name : String) (doc : DocComment) {ps : List Parameter}
    (hps : (ps.map Parameter.name).Nodup) :
    (assemble config name doc ps).result =
      .ok (.ofParameters name doc.description (ps.map fun p ↦
        (inPasses (doc.parsedTags config.valuesParsing)).foldl Parameter.heed p)) := by
  rw [assemble, readTags_lenient htag, Traced.ok_bind, htype,
    Traced.result_bind_of_ok (result_applyTags _ hps)]
  rfl

theorem notes_assemble (htag : config.tagPolicy = .lenient) (htype : config.typePolicy = .lenient)
    (name : String) (doc : DocComment) (ps : List Parameter) :
    (assemble config name doc ps).notes =
      (doc.tags.filterMap (Tag.malformed? config.valuesParsing)).map
          (fun e ↦ .warning (.malformedTag e)) ++
        (applyTags .lenient ps (inPasses (doc.parsedTags config.valuesParsing))).notes := by
  rw [assemble, readTags_lenient htag, Traced.ok_bind, htype]
  exact congrArg (_ ++ ·) (Traced.notes_bind_pure _ _)

/-- **A lenient assembly warns about what its comment warns about.** -/
theorem warningsOf_assemble (htag : config.tagPolicy = .lenient)
    (htype : config.typePolicy = .lenient) (name : String) (doc : DocComment) {ps : List Parameter}
    (hps : (ps.map Parameter.name).Nodup) :
    warningsOf (assemble config name doc ps).notes =
      doc.warnings config.valuesParsing (ps.map Parameter.name) := by
  have hw (es : List TagError) :
      warningsOf (es.map fun e ↦ .warning (.malformedTag e)) = es.map Warning.malformedTag := by
    induction es with
    | nil => rfl
    | cons e es ih => simp [ih, Note.warning?]
  rw [notes_assemble htag htype, warningsOf_append, hw, warningsOf_applyTags _ hps]
  rfl

/-- **The passes take up every tag once**: a kind of tags belongs to one of them. -/
theorem inPasses_perm (tags : List ParsedTag) : (inPasses tags).Perm tags := by
  -- what is not about descriptions is taken up in the two passes behind the first
  have hp : (tags.filter fun t ↦ t.kind == .values) ++
        tags.filter (fun t ↦ t.kind.isArrayConstraint)
      |>.Perm (tags.filter fun t ↦ !(t.kind == .param)) := by
    have hv := List.filter_append_perm (fun t : ParsedTag ↦ t.kind == .values)
      (tags.filter fun t ↦ !(t.kind == .param))
    rw [List.filter_filter, List.filter_filter] at hv
    have h₁ (t : ParsedTag) : (t.kind == .values && !(t.kind == .param)) = (t.kind == .values) := by
      cases t <;> rfl
    have h₂ (t : ParsedTag) :
        (!(t.kind == .values) && !(t.kind == .param)) = t.kind.isArrayConstraint := by
      cases t <;> rfl
    simpa only [h₁, h₂] using hv
  rw [inPasses, List.append_assoc]
  exact (hp.append_left _).trans (List.filter_append_perm _ tags)

/-- A lenient assembly notes down as taken up the well-formed tags about declared parameters. -/
theorem countP_assemble (htag : config.tagPolicy = .lenient) (htype : config.typePolicy = .lenient)
    (name : String) (doc : DocComment) {ps : List Parameter}
    (hps : (ps.map Parameter.name).Nodup) :
    (assemble config name doc ps).notes.countP Note.isApplied =
      (doc.parsedTags config.valuesParsing).countP
        fun tag ↦ decide (tag.parameter ∈ ps.map Parameter.name) := by
  have hw (es : List TagError) :
      (es.map fun e ↦ Note.warning (.malformedTag e)).countP Note.isApplied = 0 := by
    simp [List.countP_eq_zero, Note.isApplied]
  rw [notes_assemble htag htype, List.countP_append, hw, countP_applyTags _ hps, Nat.zero_add]
  exact (inPasses_perm _).countP_eq _

end ToolSchema
