import ToolSchema.Proofs.Comment.Place
import ToolSchema.Proofs.Comment.TagLine

/-!
# The spelling of a comment

There are many ways to write the same comment: how its lines are indented and how many blank ones
stand between them, on how many lines a tag stands and where on them its types are. One of them is
taken as its spelling (`DocComment.spelling`), and whatever text a comment was parsed from, its
spelling is parsed into the same comment (`DocComment.parse_spelling`).

This takes three things of what a parse leaves behind. The lines of a description are blank or text,
so none of them is read as the head of a tag (`Outline.of_mem_prose`). The name of a tag is an
identifier, and no line feed is in its body, so the tag fits on one line (`Outline.of_mem_tags`).
And a body that is put together from the parts of another one comes apart into these parts
(`BodyParts.ofTag_joinBody`).
-/

namespace ToolSchema

variable {tagName body l : List Char} {ls : List (List Char)}

/-! ### Spelling -/

/-- A tag on one line: its name behind the mark, and then each of its parts that is there, after a
space. The parameter stands before the types, and the text is last. -/
def Tag.spelling (t : Tag) : String :=
  "@" ++ t.tagName ++ t.name.elim "" (" " ++ ·) ++
    t.types.elim "" (fun ts ↦ " [" ++ ", ".intercalate ts ++ "]") ++
    (if t.text = "" then "" else " " ++ t.text)

/-- A comment as a text: its description, if it has one, and then each tag on a line of its own. -/
def DocComment.spelling (d : DocComment) : String :=
  joinLines ((if d.description = "" then [] else [d.description]) ++ d.tags.map Tag.spelling)

/-! ### What a parse leaves behind -/

theorem LineAt.of_text {i : Nat} (h : LineAt ls i (.text l)) :
    Line.ofChars l = .text l ∧ ∃ cs ∈ ls, ∀ c ∈ l, c ∈ cs := by
  obtain ⟨cs, hcs, hline⟩ := h
  have hread := isLine_iff.1 hline
  cases hline with
  | text =>
    have htrim : Line.ofChars (trim cs) = .text (trim cs) := by
      rw [Line.ofChars_congr (trim_trim cs), hread]
    exact ⟨htrim, cs, List.mem_of_getElem? hcs, fun _ ↦ mem_of_mem_trim⟩

theorem LineAt.of_head {i : Nat} (h : LineAt ls i (.head tagName l)) :
    isName tagName = true ∧ ∃ cs ∈ ls, ∀ c ∈ l, c ∈ cs := by
  obtain ⟨cs, hcs, hline⟩ := h
  cases hline with
  | head hhead =>
    obtain ⟨hname, -, gap, -, -, htrim⟩ := hhead
    refine ⟨hname, cs, List.mem_of_getElem? hcs, fun c hc ↦ mem_of_mem_trim ?_⟩
    rw [htrim]
    simp [hc]

namespace Outline

variable (hfeed : ∀ cs ∈ ls, '\n' ∉ cs)
include hfeed

/-- **The lines of a description** are read as they are. -/
theorem of_mem_prose (h : l ∈ (ofLines (ls.map Line.ofChars)).prose) :
    '\n' ∉ l ∧ (l = [] ∨ Line.ofChars l = .text l) := by
  obtain ⟨p, hp⟩ := exists_placement ls
  have hprose : p.outline.prose = (p.leading ++ p.behind).map Prod.snd := List.map_append.symm
  rw [hp, hprose] at h
  obtain ⟨⟨i, l⟩, hmem, rfl⟩ := List.mem_map.1 h
  rcases (p.prose_all.mem_iff i l).1 hmem with ⟨-, rfl⟩ | ⟨htext, -⟩
  · exact ⟨List.not_mem_nil, .inl rfl⟩
  · obtain ⟨hread, cs, hcs, hsub⟩ := htext.of_text
    exact ⟨fun hl ↦ hfeed cs hcs (hsub _ hl), .inr hread⟩

/-- **A tag fits on one line.** -/
theorem of_mem_tags (h : (tagName, body) ∈ (ofLines (ls.map Line.ofChars)).tags) :
    isName tagName = true ∧ '\n' ∉ body := by
  obtain ⟨p, hp⟩ := exists_placement ls
  rw [hp] at h
  obtain ⟨⟨j, name, rest⟩, hmem, heq⟩ := List.mem_map.1 h
  obtain ⟨rfl, rfl⟩ := Prod.mk.inj heq
  obtain ⟨hname, cs, hcs, hrest⟩ := ((p.heads_all.mem_iff j (name, rest)).1 hmem).of_head
  refine ⟨hname, fun hbody ↦ ?_⟩
  rcases mem_joinBody hbody with hspace | ⟨piece, hpiece, hline⟩
  · exact absurd hspace (by decide)
  · rcases List.mem_cons.1 hpiece with rfl | hpiece
    · exact hfeed cs hcs (hrest _ hline)
    · obtain ⟨⟨i, content⟩, hcontent, rfl⟩ := List.mem_map.1 hpiece
      obtain ⟨-, cs, hcs, hsub⟩ := (((p.body_all j).mem_iff i content).1 hcontent).1.of_text
      exact hfeed cs hcs (hsub _ hline)

end Outline

/-! ### Descriptions -/

/-- Lines that are blank or text are all of an outline's description. -/
theorem Outline.prose_ofLines (h : ∀ l ∈ ls, l = [] ∨ Line.ofChars l = .text l) :
    (ofLines (ls.map Line.ofChars)).prose = ls ∧ (ofLines (ls.map Line.ofChars)).tags = [] := by
  induction ls with
  | nil => exact ⟨rfl, rfl⟩
  | cons l ls ih =>
    obtain ⟨hl, hls⟩ := List.forall_mem_cons.1 h
    obtain ⟨hprose, htags⟩ := ih hls
    have hcons : ofLines ((l :: ls).map Line.ofChars) =
        cons (Line.ofChars l) (ofLines (ls.map Line.ofChars)) := rfl
    rcases hl with rfl | hl
    · exact ⟨congrArg ([] :: ·) hprose, htags⟩
    · rw [hcons, hl]
      exact ⟨congrArg (l :: ·) hprose, htags⟩

/-- **A description is parsed into itself.** -/
theorem DocComment.parse_description (text : String) :
    parse (parse text).description = { description := (parse text).description } := by
  have hfeed : ∀ cs ∈ lines text.toList, '\n' ∉ cs := fun _ ↦ newline_notMem_of_mem_lines
  have hmem : ∀ l ∈ collapse (Outline.ofLines ((lines text.toList).map Line.ofChars)).prose,
      '\n' ∉ l ∧ (l = [] ∨ Line.ofChars l = .text l) := fun l hl ↦
    Outline.of_mem_prose hfeed ((collapse_sublist _).subset hl)
  obtain ⟨hprose, htags⟩ := Outline.prose_ofLines fun l hl ↦ (hmem l hl).2
  have hdescription : (parse text).description.toList =
      joinWith ['\n'] (collapse (Outline.ofLines ((lines text.toList).map Line.ofChars)).prose) :=
    String.toList_ofList
  rw [parse, hdescription, ofChars_joinWith,
    flatMap_piecesAt_of_notMem fun l hl ↦ (hmem l hl).1, ofOutline, hprose, htags,
    collapse_collapse, ← hdescription, String.ofList_toList, List.map_nil]

/-! ### Tags -/

/-- The parts of a body, as the name of its tag has it: all of the body is text if that tag cannot
list types. -/
def BodyParts.ofTag (tagName body : List Char) : BodyParts :=
  if typedTags.contains (String.ofList tagName) then
    ofBody (namingTags.contains (String.ofList tagName)) (trim body)
  else ⟨none, none, trim body⟩

/-- The tag that has these parts. -/
def BodyParts.toTag (tagName : List Char) (p : BodyParts) : Tag where
  tagName := String.ofList tagName
  name := p.name.map String.ofList
  types := p.types.map fun ts ↦ ts.map String.ofList
  text := String.ofList (trim p.text)

/-- The parts of a tag. -/
def Tag.parts (t : Tag) : BodyParts where
  name := t.name.map String.toList
  types := t.types.map fun ts ↦ ts.map String.toList
  text := t.text.toList

theorem Tag.ofBody_eq (tagName body : List Char) :
    Tag.ofBody tagName body = (BodyParts.ofTag tagName body).toTag tagName := by
  rw [Tag.ofBody, BodyParts.ofTag]
  split
  · rfl
  · simp only [BodyParts.toTag, trim_trim, Option.map_none]

namespace BodyParts

theorem parts_toTag {p : BodyParts} (h : p.OnLine) : (p.toTag tagName).parts = p := by
  simp [toTag, Tag.parts, h.text.trim_eq, Function.comp_def]

variable (hbody : '\n' ∉ body)
include hbody

theorem onLine_ofTag : (ofTag tagName body).OnLine := by
  rw [ofTag]
  split
  · exact (isNormal_ofBody (isLineText_trim hbody)).toOnLine
  · exact ⟨nofun, nofun, isLineText_trim hbody⟩

/-- **The parts of a tag, put together, come apart again**, whatever tag it is. -/
theorem ofTag_joinBody :
    ofTag tagName (joinBody (ofTag tagName body).pieces) = ofTag tagName body := by
  have hline : ∀ p ∈ (ofTag tagName body).pieces, IsLineText p := (onLine_ofTag hbody).isLineText
  have htrim := trim_joinBody fun p hp ↦ (hline p hp).trim_eq
  rw [ofTag, htrim, ofTag]
  split
  · exact ofBody_joinBody (isNormal_ofBody (isLineText_trim hbody))
  · have hpieces : (⟨none, none, trim body⟩ : BodyParts).pieces = [trim body] := rfl
    rw [hpieces, joinBody_singleton]

end BodyParts

/-- Behind the name of a tag stand the pieces of its body. -/
theorem Tag.toList_spelling {t : Tag} (h : t.parts.OnLine) :
    t.spelling.toList = '@' :: (t.tagName.toList ++ spaced (joinBody t.parts.pieces)) := by
  have hname : (t.name.elim "" (" " ++ ·)).toList = t.parts.name.toList.flatMap spaced := by
    rcases hn : t.name with - | n
    · simp [parts, hn]
    · have hne : n.toList ≠ [] := ne_nil_of_isName (h.name n.toList (by simp [parts, hn]))
      simpa [parts, hn, spaced] using hne
  have htypes : (t.types.elim "" fun ts ↦ " [" ++ ", ".intercalate ts ++ "]").toList =
      (t.parts.types.map bracketed).toList.flatMap spaced := by
    rcases hts : t.types with - | ts
    · simp [parts, hts]
    · simp [parts, hts, spaced, bracketed, joinWith_eq_intercalate, typeGlue,
        String.toList_intercalate]
  have htext : (if t.text = "" then "" else " " ++ t.text).toList = spaced t.parts.text := by
    by_cases ht : t.text = ""
    · simp [parts, ht, spaced]
    · simp [parts, ht, spaced]
  rw [spaced_joinBody, BodyParts.pieces, List.flatMap_append, List.flatMap_append, ← hname,
    ← htypes, List.flatMap_singleton, ← htext]
  simp [spelling]

/-- **The spelling of a tag is one line, and is read as that tag.** -/
theorem Tag.spelling_ofBody (hname : isName tagName = true) (hbody : '\n' ∉ body) :
    '\n' ∉ (Tag.ofBody tagName body).spelling.toList ∧
      (Line.ofChars (Tag.ofBody tagName body).spelling.toList).tag? =
        some (Tag.ofBody tagName body) := by
  have hline : (BodyParts.ofTag tagName body).OnLine := BodyParts.onLine_ofTag hbody
  have hparts : (Tag.ofBody tagName body).parts = BodyParts.ofTag tagName body := by
    rw [Tag.ofBody_eq, BodyParts.parts_toTag hline]
  have htagName : (Tag.ofBody tagName body).tagName.toList = tagName := by
    rw [Tag.ofBody_eq]
    exact String.toList_ofList
  have hspelling := Tag.toList_spelling (t := Tag.ofBody tagName body) (by rwa [hparts])
  rw [hparts, htagName] at hspelling
  rw [hspelling]
  constructor
  · intro hfeed
    rcases List.mem_cons.1 hfeed with hat | hfeed
    · exact absurd hat (by decide)
    rcases List.mem_append.1 hfeed with hfeed | hfeed
    · exact newline_notMem_of_isName hname hfeed
    rcases mem_spaced hfeed with hspace | hfeed
    · exact absurd hspace (by decide)
    rcases mem_joinBody hfeed with hspace | ⟨piece, hpiece, hfeed⟩
    · exact absurd hspace (by decide)
    · exact (hline.isLineText piece hpiece).oneLine hfeed
  · have hread : Tag.ofBody tagName (joinBody (BodyParts.ofTag tagName body).pieces) =
        Tag.ofBody tagName body := by
      rw [Tag.ofBody_eq, BodyParts.ofTag_joinBody hbody, Tag.ofBody_eq]
    rw [Line.ofChars_head_spaced hname, Line.tag?, Tag.ofBody_trim, hread]

/-! ### Comments -/

/-- **The spelling of a comment is parsed into that comment.** -/
theorem DocComment.parse_spelling (text : String) : parse (parse text).spelling = parse text := by
  have hfeed : ∀ cs ∈ lines text.toList, '\n' ∉ cs := fun _ ↦ newline_notMem_of_mem_lines
  have hprose : parse (joinLines (if (parse text).description = "" then []
      else [(parse text).description])) = { description := (parse text).description } := by
    split
    · next hempty => rw [hempty]; rfl
    · rw [joinLines_singleton, parse_description]
  have htags : ∀ t ∈ (parse text).tags, '\n' ∉ t.spelling.toList ∧
      (Line.ofChars t.spelling.toList).tag? = some t := by
    intro t ht
    obtain ⟨⟨tagName, body⟩, hmem, rfl⟩ := List.mem_map.1 ht
    obtain ⟨hname, hbody⟩ := Outline.of_mem_tags hfeed hmem
    exact Tag.spelling_ofBody hname hbody
  have hread : (parse text).tags.filterMap (fun t ↦ (Line.ofChars t.spelling.toList).tag?) =
      (parse text).tags := by
    rw [List.filterMap_congr fun t ht ↦ (htags t ht).2, List.filterMap_some]
  rw [spelling, parse_joinLines_append_heads (congrArg tags hprose)
    (List.forall_mem_map.2 fun t ht ↦ ⟨(htags t ht).1, Line.isHead_of_tag? (htags t ht).2⟩),
    hprose, List.filterMap_map]
  exact congrArg (DocComment.mk (parse text).description) hread

example : (DocComment.parse " Finds.\n\n\n@param [Integer,Array<String>]  ids\n  The  ids. ").spelling =
    "Finds.\n@param ids [Integer, Array<String>] The  ids." := by decide

end ToolSchema
