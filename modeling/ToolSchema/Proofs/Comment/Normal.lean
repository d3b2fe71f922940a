import ToolSchema.Proofs.Comment.Spelling
import ToolSchema.Proofs.Convert.Shape
import ToolSchema.Proofs.Tag.Count
import ToolSchema.Proofs.Tag.Values

/-!
# What every parsed comment is like

Whatever text a comment is parsed from, the comment is in a normal form (`DocComment.IsNormal`). Its
description has no blank line that parts nothing, and none of its lines would be the head of a tag;
texts like that (`IsDescription`) are the ones that are parsed into themselves. Each tag has only
parts that a tag of its name can have, and each of them is on one line.

Identifiers are read in three places: behind the mark of a tag, as a word of its body, and in front
of a payload. Each of the three readers stops at an identifier of the language that signatures have
their parameters in. So a tag of a parsed comment that follows its grammar is about a parameter that
a signature can declare (`ParsedTag.IsDeclarable`), and if a signature has no such parameter, then
nothing but the parameters that it has is in the way.
-/

namespace ToolSchema

variable {tagName body l : List Char} {ls : List (List Char)}

/-! ### Normal forms -/

/-- **Lines as a description has them**: without blanks at their ends, none of them the head of a
tag, and with blank ones only between others, one at a time. -/
structure AreDescriptionLines (ls : List (List Char)) : Prop where
  trim_eq : ∀ l ∈ ls, trim l = l
  not_isTagHead : ∀ l ∈ ls, ∀ tagName rest, ¬ IsTagHead l tagName rest
  head_ne : ls.head? ≠ some []
  getLast_ne : ls.getLast? ≠ some []
  single : ¬ [[], []] <:+: ls

/-- **A text as a description is**: empty, or made of such lines. -/
def IsDescription (text : String) : Prop :=
  text = "" ∨ AreDescriptionLines (piecesAt '\n' text.toList)

/-- The texts that a tag is made of. -/
def Tag.fields (t : Tag) : List String :=
  t.tagName :: t.text :: (t.name.toList ++ t.types.getD [])

/-- **A tag with parts that fit its name**, each of them on one line. -/
structure Tag.IsNormal (t : Tag) : Prop where
  tagName : isIdentifier t.tagName = true
  name : ∀ n ∈ t.name, t.tagName ∈ ["param", "yieldparam"] ∧ isIdentifier n = true
  types : ∀ ts ∈ t.types,
    t.tagName ∈ ["param", "return", "raise", "yieldparam", "yieldreturn"] ∧
      ∀ type ∈ ts, type ≠ "" ∧ trimmed type = type
  text : trimmed t.text = t.text
  oneLine : ∀ field ∈ t.fields, '\n' ∉ field.toList

/-- **A comment in its normal form.** -/
structure DocComment.IsNormal (d : DocComment) : Prop where
  description : IsDescription d.description
  tags : ∀ t ∈ d.tags, t.IsNormal

/-- **A signature can declare the parameter of the tag**: wherever it is not declared yet, it can be
declared behind the other parameters, by any kind of parameter that is passed by name. -/
def ParsedTag.IsDeclarable (t : ParsedTag) : Prop :=
  isIdentifier t.parameter = true ∧
    ∀ callable params ps kind doc, extractParameters callable params = .ok ps →
      t.parameter ∉ ps.map Parameter.name → kind.isNamed = true →
        ∃ qs, extractParameters callable (params ++ [⟨t.parameter, kind, doc⟩]) = .ok qs

/-! ### Descriptions -/

theorem IsLine.of_text {cs content : List Char} (h : IsLine cs (.text content)) :
    content = trim cs ∧ ∀ tagName rest, ¬ IsTagHead cs tagName rest := by
  cases h with
  | text _ hhead => exact ⟨rfl, hhead⟩

/-- A line of a description is trimmed, and is not read as the head of a tag. -/
theorem trim_eq_of_prose (h : l = [] ∨ Line.ofChars l = .text l) :
    trim l = l ∧ ∀ tagName rest, ¬ IsTagHead l tagName rest := by
  rcases h with rfl | h
  · exact ⟨rfl, fun _ _ ⟨_, _, _, _, _, hspelled⟩ ↦ nomatch hspelled⟩
  · obtain ⟨htrim, hhead⟩ := (isLine_iff.2 h).of_text
    exact ⟨htrim.symm, hhead⟩

/-- A line that is put before others leaves no blank one at the end, and no two of them next to
each other. -/
theorem single_consLine (h : ls.getLast? ≠ some [] ∧ ¬ [[], []] <:+: ls) (l : List Char) :
    (consLine l ls).getLast? ≠ some [] ∧ ¬ [[], []] <:+: consLine l ls := by
  obtain ⟨hlast, hsingle⟩ := h
  rcases l with - | ⟨c, l⟩
  · rcases ls with - | ⟨m, ls⟩
    · exact ⟨nofun, hsingle⟩
    · rcases m with - | ⟨d, m⟩
      · exact ⟨hlast, hsingle⟩
      · -- the blank line stands before a line of text
        show (([] : List Char) :: (d :: m) :: ls).getLast? ≠ _ ∧ ¬ _ <:+: [] :: (d :: m) :: ls
        rw [List.getLast?_cons_cons, List.infix_cons_iff, List.cons_prefix_cons,
          List.cons_prefix_cons]
        exact ⟨hlast, fun h ↦ h.elim (fun h ↦ nomatch h.2.1) hsingle⟩
  · show ((c :: l) :: ls).getLast? ≠ _ ∧ ¬ _ <:+: (c :: l) :: ls
    rw [List.infix_cons_iff, List.cons_prefix_cons]
    refine ⟨?_, fun h ↦ h.elim (fun h ↦ nomatch h.1) hsingle⟩
    rcases ls with - | ⟨m, ls⟩
    · simp
    · rwa [List.getLast?_cons_cons]

/-- **Blank lines are left between others only**, and one at a time. -/
theorem single_collapse (ls : List (List Char)) :
    (collapse ls).head? ≠ some [] ∧ (collapse ls).getLast? ≠ some [] ∧
      ¬ [[], []] <:+: collapse ls := by
  have hfold : (ls.foldr consLine []).getLast? ≠ some [] ∧
      ¬ [[], []] <:+: ls.foldr consLine [] := by
    induction ls with
    | nil => exact ⟨nofun, by decide⟩
    | cons l ls ih => exact single_consLine ih l
  have hsuffix : collapse ls <:+ ls.foldr consLine [] := List.dropWhile_suffix List.isEmpty
  refine ⟨fun hhead ↦ ?_, fun hlast ↦ hfold.1 ?_, fun h ↦ hfold.2 (h.trans hsuffix.isInfix)⟩
  · have hnot := List.head?_dropWhile_not List.isEmpty (ls.foldr consLine [])
    rw [← collapse, hhead] at hnot
    exact absurd hnot (by decide)
  · obtain ⟨before, hbefore⟩ := hsuffix
    rw [← hbefore, List.getLast?_append, hlast]
    rfl

/-- Blank lines and lines of text are those of a description, once they are collapsed. -/
theorem areDescriptionLines_collapse (h : ∀ l ∈ ls, l = [] ∨ Line.ofChars l = .text l) :
    AreDescriptionLines (collapse ls) := by
  have hkept (l : List Char) (hl : l ∈ collapse ls) :
      trim l = l ∧ ∀ tagName rest, ¬ IsTagHead l tagName rest :=
    trim_eq_of_prose (h l ((collapse_sublist ls).subset hl))
  obtain ⟨hhead, hlast, hsingle⟩ := single_collapse ls
  exact ⟨fun l hl ↦ (hkept l hl).1, fun l hl ↦ (hkept l hl).2, hhead, hlast, hsingle⟩

/-- Where blank lines part others one at a time, none is left out. -/
theorem foldr_consLine_of_single (hlast : ls.getLast? ≠ some []) (hsingle : ¬ [[], []] <:+: ls) :
    ls.foldr consLine [] = ls := by
  induction ls with
  | nil => rfl
  | cons l ls ih =>
    rw [List.infix_cons_iff, not_or] at hsingle
    have htail : ls.getLast? ≠ some [] := by
      rcases ls with - | ⟨m, ls⟩
      · simp
      · rwa [List.getLast?_cons_cons] at hlast
    rw [List.foldr_cons, ih htail hsingle.2]
    rcases l with - | ⟨c, l⟩
    · -- a line of text stands behind the blank one
      rcases ls with - | ⟨m, ls⟩
      · exact absurd rfl hlast
      · rcases m with - | ⟨c, m⟩
        · exact absurd ⟨ls, rfl⟩ hsingle.1
        · rfl
    · rfl

theorem AreDescriptionLines.collapse_eq (h : AreDescriptionLines ls) : collapse ls = ls := by
  rw [collapse, foldr_consLine_of_single h.getLast_ne h.single]
  rcases ls with - | ⟨l, ls⟩
  · rfl
  · have hl : l ≠ [] := fun hl ↦ h.head_ne (congrArg some hl)
    exact List.dropWhile_cons_of_neg (by simpa using hl)

/-- **The description of an outline** comes apart into its lines again, if it is there at all. -/
theorem DocComment.isDescription_ofOutline {o : Outline}
    (h : ∀ l ∈ o.prose, '\n' ∉ l ∧ (l = [] ∨ Line.ofChars l = .text l)) :
    IsDescription (ofOutline o).description := by
  have hlines := areDescriptionLines_collapse fun l hl ↦ (h l hl).2
  rw [ofOutline, IsDescription, String.toList_ofList]
  by_cases hne : collapse o.prose = []
  · rw [hne]
    exact .inl rfl
  · have hfeed : ∀ l ∈ collapse o.prose, '\n' ∉ l := fun l hl ↦
      (h l ((collapse_sublist o.prose).subset hl)).1
    rw [piecesAt_joinWith '\n' hne, flatMap_piecesAt_of_notMem hfeed]
    exact .inr hlines

/-- **A text as a description is** makes up a comment that has nothing else. -/
theorem DocComment.parse_of_isDescription {text : String} (h : IsDescription text) :
    parse text = { description := text } := by
  rcases h with rfl | h
  · rfl
  · have hread : ∀ l ∈ piecesAt '\n' text.toList, l = [] ∨ Line.ofChars l = .text l := by
      intro l hl
      have htrim := h.trim_eq l hl
      by_cases hne : l = []
      · exact .inl hne
      · have hline : Line.ofChars l = .text (trim l) :=
          isLine_iff.1 (.text (by rwa [htrim]) (h.not_isTagHead l hl))
        exact .inr (by rw [hline, htrim])
    obtain ⟨hprose, htags⟩ := Outline.prose_ofLines hread
    rw [parse, ofChars_eq_ofOutline, ofOutline, hprose, htags, h.collapse_eq, joinWith_piecesAt,
      String.ofList_toList, List.map_nil]

/-! ### Tags -/

theorem isIdentifier_ofList {name : List Char} :
    isIdentifier (String.ofList name) = isName name := by
  rw [isIdentifier, String.toList_ofList]

/-- Only some tags have a name or types. -/
theorem BodyParts.tagName_of_ofTag (hbody : '\n' ∉ body) (tagName : List Char) :
    (∀ n ∈ (ofTag tagName body).name, String.ofList tagName ∈ namingTags) ∧
      ∀ ts ∈ (ofTag tagName body).types, String.ofList tagName ∈ typedTags := by
  rw [ofTag]
  split
  · next htyped =>
    have hnormal (isNaming : Bool) : (ofBody isNaming (trim body)).IsNormal isNaming :=
      isNormal_ofBody (isLineText_trim hbody)
    exact ⟨fun n hn ↦ List.contains_iff_mem.1 ((hnormal _).naming n hn),
      fun _ _ ↦ List.contains_iff_mem.1 htyped⟩
  · simp

/-- A tag whose parts stand on one line has no text that goes on behind it. -/
theorem BodyParts.OnLine.newline_notMem_fields {p : BodyParts} (h : p.OnLine)
    (hname : isName tagName = true) : ∀ field ∈ (p.toTag tagName).fields, '\n' ∉ field.toList := by
  intro field hfield
  simp only [Tag.fields, toTag, List.mem_cons, List.mem_append, Option.mem_toList] at hfield
  rcases hfield with rfl | rfl | hfield | hfield
  · rw [String.toList_ofList]
    exact newline_notMem_of_isName hname
  · rw [String.toList_ofList, h.text.trim_eq]
    exact h.text.oneLine
  · obtain ⟨name, hname, rfl⟩ := Option.map_eq_some_iff.1 hfield
    rw [String.toList_ofList]
    exact newline_notMem_of_isName (h.name name hname)
  · rcases htypes : p.types with - | types
    · rw [htypes] at hfield
      exact absurd hfield List.not_mem_nil
    · rw [htypes] at hfield
      obtain ⟨t, ht, rfl⟩ := List.mem_map.1 hfield
      rw [String.toList_ofList]
      exact (h.types types htypes t ht).2

/-- **The tag of a name and a body** is in its normal form if the body fits on a line. -/
theorem Tag.isNormal_ofBody (hname : isName tagName = true) (hbody : '\n' ∉ body) :
    (Tag.ofBody tagName body).IsNormal := by
  have hline : (BodyParts.ofTag tagName body).OnLine := BodyParts.onLine_ofTag hbody
  obtain ⟨hnaming, htyped⟩ := BodyParts.tagName_of_ofTag hbody tagName
  rw [Tag.ofBody_eq]
  refine ⟨isIdentifier_ofList.trans hname, ?_, ?_, ?_, hline.newline_notMem_fields hname⟩
  · intro n hn
    obtain ⟨name, hname, rfl⟩ := Option.map_eq_some_iff.1 hn
    exact ⟨hnaming name hname, isIdentifier_ofList.trans (hline.name name hname)⟩
  · intro ts hts
    obtain ⟨types, htypes, rfl⟩ := Option.map_eq_some_iff.1 hts
    refine ⟨htyped types htypes, fun type htype ↦ ?_⟩
    obtain ⟨t, ht, rfl⟩ := List.mem_map.1 htype
    have hlisted := (hline.types types htypes t ht).1
    rw [trimmed, String.toList_ofList, hlisted.trim_eq, Ne, ← String.toList_eq_nil_iff,
      String.toList_ofList]
    exact ⟨hlisted.ne_nil, rfl⟩
  · simp only [BodyParts.toTag, trimmed, String.toList_ofList, trim_trim]

/-! ### Parameters -/

variable {mode : ValuesParsing} {parsed : ParsedTag} {kind : TagKind} {text parameter : String}

/-- In front of a payload stands an identifier. -/
theorem isIdentifier_of_parsePayload {α : Type} {read : List Char → Except TagFault α} {v : α}
    (h : parsePayload kind read text = .ok (parameter, v)) : isIdentifier parameter = true := by
  obtain ⟨-, ⟨-, -, -, -, hname, -⟩, -⟩ := parsePayload_eq_ok_iff.1 h
  exact hname

/-- The name of an item type is a payload with a grammar of its own. -/
theorem parseItemsType_eq (text : String) :
    parseItemsType text =
      parsePayload .itemsType (fun payload ↦
        if itemTypeNames.contains (String.ofList payload) then .ok (String.ofList payload)
        else .error .unknownItemType) text := by
  rw [parseItemsType, parsePayload]
  rcases Payload.ofChars? text.toList with - | p
  · rfl
  · simp only
    split
    · rfl
    · rfl

/-- **Whatever its grammar**, a tag that follows it is about an identifier, if a tag that names a
parameter names one. -/
theorem isIdentifier_of_parse {t : Tag} (hname : ∀ n ∈ t.name, isIdentifier n = true)
    (h : kind.parse mode t = .ok parsed) : isIdentifier parsed.parameter = true := by
  cases kind with
  | param =>
    rw [TagKind.parse, parseParam] at h
    split at h
    · cases h
    · next n hn =>
      obtain rfl := Except.ok.inj h
      exact hname n hn
  | values =>
    obtain ⟨⟨p, vs⟩, hparse, rfl⟩ := exists_of_map_eq_ok h
    exact isIdentifier_of_parsePayload ((parseValues_eq mode t.text).symm.trans hparse)
  | itemsType =>
    obtain ⟨⟨p, typeName⟩, hparse, rfl⟩ := exists_of_map_eq_ok h
    exact isIdentifier_of_parsePayload ((parseItemsType_eq t.text).symm.trans hparse)
  | minItems =>
    obtain ⟨⟨p, n⟩, hparse, rfl⟩ := exists_of_map_eq_ok h
    exact isIdentifier_of_parsePayload ((parseCount_eq .minItems t.text).symm.trans hparse)
  | maxItems =>
    obtain ⟨⟨p, n⟩, hparse, rfl⟩ := exists_of_map_eq_ok h
    have hcount := (parseMaxItems_eq_ok_iff.1 hparse).1
    exact isIdentifier_of_parsePayload ((parseCount_eq .maxItems t.text).symm.trans hcount)

/-- A parameter of another name can stand behind those that a signature has. -/
theorem ParsedTag.isDeclarable_of_isIdentifier (h : isIdentifier parsed.parameter = true) :
    parsed.IsDeclarable := by
  refine ⟨h, fun callable params ps kind doc hps hother hkind ↦ ?_⟩
  obtain ⟨husable, hnodup, rfl⟩ := extractParameters_eq_ok_iff.1 hps
  rw [map_name_seed] at hother
  refine ⟨_, extractParameters_eq_ok_iff.2 ⟨?_, ?_, rfl⟩⟩
  · intro p hp
    rcases List.mem_append.1 hp with hp | hp
    · exact husable p hp
    · obtain rfl := List.mem_singleton.1 hp
      exact ⟨hkind, h⟩
  · rw [List.map_append, List.nodup_append]
    refine ⟨hnodup, List.pairwise_singleton _ _, ?_⟩
    rintro n hn m hm rfl
    obtain rfl := List.mem_singleton.1 hm
    exact hother hn

/-! ### Comments -/

/-- **Whatever is parsed is in its normal form**, and a tag of it that follows its grammar is about
a parameter that a signature can declare, in both modes of reading values. A text is kept as it is,
as a comment without tags, if and only if it is a description already. -/
theorem DocComment.isNormal_parse (text : String) :
    (parse text).IsNormal ∧
      (∀ t ∈ (parse text).tags, ∀ mode parsed,
        t.parse? mode = some (.ok parsed) → parsed.IsDeclarable) ∧
      (parse text = { description := text } ↔ IsDescription text) := by
  have hfeed : ∀ cs ∈ lines text.toList, '\n' ∉ cs := fun _ ↦ newline_notMem_of_mem_lines
  have hdescription : IsDescription (parse text).description :=
    isDescription_ofOutline fun l hl ↦ Outline.of_mem_prose hfeed hl
  have htags : ∀ t ∈ (parse text).tags, t.IsNormal := by
    intro t ht
    obtain ⟨⟨tagName, body⟩, hmem, rfl⟩ := List.mem_map.1 ht
    obtain ⟨hname, hbody⟩ := Outline.of_mem_tags hfeed hmem
    exact Tag.isNormal_ofBody hname hbody
  refine ⟨⟨hdescription, htags⟩, fun t ht mode parsed hparse ↦ ?_, fun h ↦ ?_,
    parse_of_isDescription⟩
  · obtain ⟨kind, -, hkind⟩ := Option.map_eq_some_iff.1 hparse
    exact ParsedTag.isDeclarable_of_isIdentifier
      (isIdentifier_of_parse (fun n hn ↦ ((htags t ht).name n hn).2) hkind)
  · rwa [h] at hdescription

/-- A parameter that is named behind its types, on the line after the mark. -/
theorem DocComment.isNormal_parse_param :
    Tag.IsNormal ⟨"param", some "ids", some ["Array<Integer>", "nil"], "The ids."⟩ ∧
      ParsedTag.IsDeclarable (.param "ids" ["Array<Integer>", "nil"] "The ids.") := by
  have hmem : ⟨"param", some "ids", some ["Array<Integer>", "nil"], "The ids."⟩ ∈
      (parse " Finds.\n\n\n@param\n  [Array<Integer>,, nil ] ids\n  The ids. ").tags := by
    decide +kernel
  obtain ⟨hnormal, hdeclarable, -⟩ :=
    isNormal_parse " Finds.\n\n\n@param\n  [Array<Integer>,, nil ] ids\n  The ids. "
  exact ⟨hnormal.tags _ hmem, hdeclarable _ hmem .strict _ rfl⟩

end ToolSchema
