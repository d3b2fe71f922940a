import ToolSchema.Proofs.Comment.Body
import ToolSchema.Proofs.Tag.Payload
import ToolSchema.Tag.Parsed

/-!
# Lines that document a parameter

A tag is written as one line, and the line is read as that tag (`ReadsAs`), whatever lines stand
around it: there is one such statement for every kind of tag. Behind a text without tags, lines that
are read as tags make up a comment with that text as its description and just those tags
(`parsedTags_of_readsAs`).

On its way a line is taken apart by three readers of names, one for heads, one for parameters and
one for payloads. They agree on identifiers that a blank follows.
-/

namespace ToolSchema

/-- The line of a tag: its name behind the mark, and its text. -/
def TagKind.line (kind : TagKind) (body : String) : String := "@" ++ kind.tagName ++ " " ++ body

/-- **The line is read as the tag**, alone or among other lines. -/
structure ReadsAs (mode : ValuesParsing) (line : String) (tag : ParsedTag) : Prop where
  oneLine : '\n' ∉ line.toList
  isRead : ∃ t, (Line.ofChars line.toList).tag? = some t ∧ t.parse? mode = some (.ok tag)

variable {mode : ValuesParsing} {kind : TagKind}

/-! ### From a line to its tag -/

theorem toList_line (kind : TagKind) (body : String) :
    (kind.line body).toList = '@' :: (kind.tagName.toList ++ ' ' :: body.toList) := by
  simp [TagKind.line]

theorem isName_tagName (kind : TagKind) : isName kind.tagName.toList = true := by
  cases kind <;> decide

theorem tag?_line (kind : TagKind) (body : String) :
    (Line.ofChars (kind.line body).toList).tag? =
      some (.ofBody kind.tagName.toList (trim body.toList)) := by
  rw [toList_line, Line.ofChars_head (isName_tagName kind)]
  rfl

theorem notMem_line {c : Char} {body : String} (hc : isBlank c = true) (hne : c ≠ ' ')
    (h : c ∉ body.toList) : c ∉ (kind.line body).toList := by
  have hname : c ∉ kind.tagName.toList := by
    intro hm
    rw [not_isBlank_of_mem_isName (isName_tagName kind) hm] at hc
    exact absurd hc Bool.false_ne_true
  have hat : c ≠ '@' := by
    rintro rfl
    exact absurd hc (by decide)
  rw [toList_line]
  simp [hat, hname, hne, h]

/-- The tag of a name is read by the grammar of its kind. -/
theorem parse?_of_tagName {t : Tag} (h : t.tagName = kind.tagName) :
    t.parse? mode = some (kind.parse mode t) := by
  rw [Tag.parse?, h, TagKind.ofTagName?_tagName, Option.map_some]

/-! ### Payloads -/

/-- A parameter and its payload have no blanks at their ends. -/
theorem trim_payload {parameter content : List Char} (hp : isName parameter = true)
    (hc : trim content = content) (hne : content ≠ []) :
    trim (parameter ++ ' ' :: content) = parameter ++ ' ' :: content := by
  have hspaced : spaced content = ' ' :: content := if_neg (by simpa using hne)
  rw [← hspaced]
  exact trim_append_spaced (trim_of_isName hp) (ne_nil_of_isName hp) hc

/-- **A tag with a payload.** The line of a parameter and a payload is read as whatever the grammar
of the kind makes of the two. -/
theorem readsAs_payload (hkind : kind ≠ .param) {parameter content : String}
    (hp : isIdentifier parameter = true) (hc : trim content.toList = content.toList)
    (hne : content.toList ≠ []) (hfeed : '\n' ∉ content.toList) {tag : ParsedTag}
    (hparse : kind.parse mode { tagName := kind.tagName, text := parameter ++ " " ++ content } =
      .ok tag) :
    ReadsAs mode (kind.line (parameter ++ " " ++ content)) tag := by
  have hbody : (parameter ++ " " ++ content).toList =
      parameter.toList ++ ' ' :: content.toList := by simp
  have hfeed' : '\n' ∉ (parameter ++ " " ++ content).toList := by
    have hp' : '\n' ∉ parameter.toList := newline_notMem_of_isName hp
    rw [hbody]
    simp [hp', hfeed]
  refine ⟨notMem_line (by decide) (by decide) hfeed', _, tag?_line _ _, ?_⟩
  -- the payload is the text of the tag: only descriptions have types to look for
  have huntyped : typedTags.contains kind.tagName = false := by
    cases kind with
    | param => exact absurd rfl hkind
    | _ => decide
  have htag : Tag.ofBody kind.tagName.toList (trim (parameter ++ " " ++ content).toList) =
      { tagName := kind.tagName, text := parameter ++ " " ++ content } := by
    simp only [Tag.ofBody, String.ofList_toList, huntyped, trim_trim]
    rw [hbody, trim_payload hp hc hne, ← hbody, String.ofList_toList]
    rfl
  rw [htag, parse?_of_tagName rfl, hparse]

/-! ### Descriptions -/

/-- The body of a `@param` tag comes apart into its parameter, its types and its text. -/
theorem ofBody_param {parameter list rest : List Char} {types : List (List Char)}
    (hp : isName parameter = true) (hlist : splitTypeList? ('[' :: list) = some (types, rest)) :
    BodyParts.ofBody true (parameter ++ ' ' :: '[' :: list) =
      ⟨some parameter, some types, rest⟩ := by
  have htrim : trimStart ('[' :: list) = '[' :: list := trimStart_cons_of_not_isBlank (by decide)
  exact BodyParts.ofBody_name_types hp (by rw [htrim]; exact hlist)

/-- Of a line that ends in a description, only the blank before an empty one is lost to trimming. -/
theorem trim_param {parameter : List Char} (hp : isName parameter = true)
    (type description : List Char) :
    trim (parameter ++ ' ' :: '[' :: (type ++ ']' :: ' ' :: description)) =
      parameter ++ ' ' :: '[' :: (type ++ ']' :: trimEnd (' ' :: description)) := by
  -- the bracket is no blank, so trimming does not get past it
  have hclosed : trimEnd (parameter ++ ' ' :: '[' :: (type ++ [']'])) =
      parameter ++ ' ' :: '[' :: (type ++ [']']) := by
    have hconcat : parameter ++ ' ' :: '[' :: (type ++ [']']) =
        (parameter ++ ' ' :: '[' :: type) ++ [']'] := by simp
    rw [hconcat]
    exact trimEnd_concat_of_not_isBlank (by decide) _
  have hparts (after : List Char) : parameter ++ ' ' :: '[' :: (type ++ ']' :: after) =
      (parameter ++ ' ' :: '[' :: (type ++ [']'])) ++ after := by simp
  rw [trim, trimStart_append_of_isName hp, hparts, trimEnd_append_of_eq hclosed, ← hparts]

/-- The tag of a parameter with a list of types. -/
theorem tag?_param {parameter list : String} {types : List (List Char)}
    (hp : isIdentifier parameter = true) (hlist : ∀ rest,
      splitTypeList? ('[' :: (list.toList ++ ']' :: rest)) = some (types, trimStart rest))
    (description : String) :
    (Line.ofChars
        (TagKind.param.line (parameter ++ " [" ++ list ++ "] " ++ description)).toList).tag? =
      some { tagName := "param", name := some parameter, types := some (types.map String.ofList)
             text := trimmed description } := by
  have hbody : (parameter ++ " [" ++ list ++ "] " ++ description).toList =
      parameter.toList ++ ' ' :: '[' :: (list.toList ++ ']' :: ' ' :: description.toList) := by
    simp
  -- nothing but blanks stands between the bracket and the description
  have hafter : trim (trimStart (trimEnd (' ' :: description.toList))) =
      trim description.toList := by
    rw [trimStart_trimEnd, trimStart_cons_of_isBlank (by decide)]
    exact trim_trim _
  have htyped : typedTags.contains "param" = true := by decide
  have hnaming : namingTags.contains "param" = true := by decide
  rw [tag?_line]
  simp only [Tag.ofBody, TagKind.tagName, String.ofList_toList, htyped, hnaming, trim_trim, if_true]
  rw [hbody, trim_param hp, ofBody_param hp (hlist _), hafter]
  simp only [Option.map_some, String.ofList_toList]
  rfl

/-! ### Kinds -/

section Kinds

variable {parameter : String} (hp : isIdentifier parameter = true)
include hp

/-- **Descriptions**, with a list of types. -/
theorem readsAs_param_list {list : String} {types : List (List Char)} (hlist : ∀ rest,
      splitTypeList? ('[' :: (list.toList ++ ']' :: rest)) = some (types, trimStart rest))
    (hlist' : '\n' ∉ list.toList) {description : String} (hfeed : '\n' ∉ description.toList) :
    ReadsAs mode (TagKind.param.line (parameter ++ " [" ++ list ++ "] " ++ description))
      (.param parameter (types.map String.ofList) (trimmed description)) := by
  have hfeed' : '\n' ∉ (parameter ++ " [" ++ list ++ "] " ++ description).toList := by
    have hp' : '\n' ∉ parameter.toList := newline_notMem_of_isName hp
    simp [hp', hlist', hfeed]
  have hname : "param" = TagKind.param.tagName := rfl
  refine ⟨notMem_line (by decide) (by decide) hfeed', _, tag?_param hp hlist description, ?_⟩
  rw [parse?_of_tagName hname]
  rfl

/-- **Descriptions**, with one type that has no brackets and commas in it. -/
theorem readsAs_param {typeName description : String}
    (htype : typeName.toList.all isPlainInType = true) (htype' : '\n' ∉ typeName.toList)
    (hne : trim typeName.toList ≠ []) (hd : trimmed description = description)
    (hfeed : '\n' ∉ description.toList) :
    ReadsAs mode (TagKind.param.line (parameter ++ " [" ++ typeName ++ "] " ++ description))
      (.param parameter [trimmed typeName] description) := by
  have hreads : ReadsAs mode
      (TagKind.param.line (parameter ++ " [" ++ typeName ++ "] " ++ description))
      (.param parameter [trimmed typeName] (trimmed description)) :=
    readsAs_param_list hp (splitTypeList?_bracketed (List.all_eq_true.1 htype) hne) htype' hfeed
  rwa [hd] at hreads

/-- **Values.** -/
theorem readsAs_values {vs : List Json} (hne : vs ≠ []) (hvs : ∀ v ∈ vs, v.isPlain = true) :
    ReadsAs mode (TagKind.values.line (parameter ++ " " ++ (Json.array vs).compactText))
      (.values parameter vs) := by
  obtain ⟨hc, hempty, hfeed⟩ := compactText_array hne hvs
  refine readsAs_payload (by decide) hp hc hempty hfeed ?_
  rw [TagKind.parse, parseValues_compactText mode hp hne hvs]
  rfl

/-- **Item types.** -/
theorem readsAs_itemsType {typeName : String} (h : typeName ∈ itemTypeNames) :
    ReadsAs mode (TagKind.itemsType.line (parameter ++ " " ++ typeName))
      (.itemsType parameter typeName) := by
  have hnames : ∀ n ∈ itemTypeNames,
      trim n.toList = n.toList ∧ n.toList ≠ [] ∧ '\n' ∉ n.toList := by decide
  obtain ⟨hc, hempty, hfeed⟩ := hnames typeName h
  refine readsAs_payload (by decide) hp hc hempty hfeed ?_
  rw [TagKind.parse, parseItemsType, ofChars?_payload hp hc hempty]
  simp only [String.ofList_toList, List.contains_iff_mem.2 h]
  rfl

/-- **Least numbers of items.** -/
theorem readsAs_minItems (n : UInt64) :
    ReadsAs mode (TagKind.minItems.line (parameter ++ " " ++ toString n))
      (.minItems parameter n) := by
  obtain ⟨hc, hempty, hfeed⟩ := toString_word n
  refine readsAs_payload (by decide) hp hc hempty hfeed ?_
  rw [TagKind.parse, parseMinItems, parseCount, ofChars?_payload hp hc hempty]
  rw [toList_toString]
  simp only [countOf_decimalDigits, String.ofList_toList]
  rfl

/-- **Greatest numbers of items.** -/
theorem readsAs_maxItems {n : UInt64} (hn : n ≠ 0) :
    ReadsAs mode (TagKind.maxItems.line (parameter ++ " " ++ toString n))
      (.maxItems parameter n) := by
  obtain ⟨hc, hempty, hfeed⟩ := toString_word n
  refine readsAs_payload (by decide) hp hc hempty hfeed ?_
  rw [TagKind.parse, parseMaxItems, parseCount, ofChars?_payload hp hc hempty]
  rw [toList_toString]
  simp only [countOf_decimalDigits, String.ofList_toList, if_neg hn]
  rfl

end Kinds

/-! ### Lines of a comment -/

/-- The text that lines make up. -/
def joinLines (ls : List String) : String := String.ofList (joinWith ['\n'] (ls.map String.toList))

theorem joinLines_singleton (l : String) : joinLines [l] = l := String.ofList_toList

/-- **Behind a text without tags**, heads of tags make up a comment with that text as its
description, and with their tags in their order. -/
theorem parse_joinLines_append_heads {prose heads : List String}
    (hprose : (DocComment.parse (joinLines prose)).tags = [])
    (hheads : ∀ l ∈ heads, '\n' ∉ l.toList ∧ (Line.ofChars l.toList).isHead = true) :
    DocComment.parse (joinLines (prose ++ heads)) =
      { description := (DocComment.parse (joinLines prose)).description
        tags := heads.filterMap fun l ↦ (Line.ofChars l.toList).tag? } := by
  have hparse (ls : List String) :
      DocComment.parse (joinLines ls) =
        DocComment.ofChars (joinWith ['\n'] (ls.map String.toList)) := by
    rw [DocComment.parse, joinLines, String.toList_ofList]
  rw [hparse] at hprose ⊢
  rw [hparse, List.map_append, DocComment.ofChars_append_heads hprose
    (List.forall_mem_map.2 fun l hl ↦ (hheads l hl).1)
    (List.forall_mem_map.2 fun l hl ↦ (hheads l hl).2), List.filterMap_map]
  rfl

theorem ReadsAs.isHead {line : String} {tag : ParsedTag} (h : ReadsAs mode line tag) :
    (Line.ofChars line.toList).isHead = true := by
  obtain ⟨t, ht, -⟩ := h.isRead
  exact Line.isHead_of_tag? ht

/-- The same for lines that are read as tags. -/
theorem parse_joinLines_append {prose lines : List String}
    (hprose : (DocComment.parse (joinLines prose)).tags = [])
    (hlines : ∀ l ∈ lines, ∃ tag, ReadsAs mode l tag) :
    DocComment.parse (joinLines (prose ++ lines)) =
      { description := (DocComment.parse (joinLines prose)).description
        tags := lines.filterMap fun l ↦ (Line.ofChars l.toList).tag? } := by
  refine parse_joinLines_append_heads hprose fun l hl ↦ ?_
  obtain ⟨tag, h⟩ := hlines l hl
  exact ⟨h.oneLine, h.isHead⟩

end ToolSchema
