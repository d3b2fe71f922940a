import ToolSchema.Comment.Parser
import ToolSchema.Proofs.Text.Lines

/-!
# Outlines of joined lines

What a comment is made of, line by line. A comment is the outline of the pieces between its line
feeds (`ofChars_eq_ofOutline`): blanks at the ends of a line do not show in it, nor does a blank
line at the end. Lines that are no heads leave the tags alone (`ofLines_append_heads`), so a comment
without tags can be followed by the heads of tags, and both are read as if they stood alone
(`ofChars_append_heads`). In the same way a blank line parts the tags of what stands before it from
those of what stands behind it (`tags_parse_append`).
-/

namespace ToolSchema

/-! ### Lines -/

/-- The line is the head of a tag. -/
def Line.isHead : Line → Bool
  | head .. => true
  | _ => false

/-- The tag that a line alone makes up, if it is the head of one. -/
def Line.tag? : Line → Option Tag
  | head tagName rest => some (.ofBody tagName rest)
  | _ => none

theorem Line.isHead_of_tag? {line : Line} {t : Tag} (h : line.tag? = some t) :
    line.isHead = true := by
  cases line with
  | head => rfl
  | blank => exact nomatch h
  | text => exact nomatch h

theorem Line.ofChars_congr {cs ds : List Char} (h : trim cs = trim ds) :
    Line.ofChars cs = Line.ofChars ds := by
  rw [Line.ofChars, Line.ofChars, h]

theorem Line.ofChars_trimEnd (cs : List Char) : Line.ofChars (trimEnd cs) = Line.ofChars cs :=
  Line.ofChars_congr (trim_trimEnd cs)

/-- **A head is read off its line**, with the text behind it trimmed. -/
theorem Line.ofChars_head {tagName : List Char} (h : isName tagName = true) (rest : List Char) :
    Line.ofChars ('@' :: (tagName ++ ' ' :: rest)) = .head tagName (trim rest) := by
  have hword : trimEnd ('@' :: tagName) = '@' :: tagName := by
    rw [trimEnd_cons, trimEnd_of_isName h, if_neg (ne_nil_of_isName h)]
  have hcontent : trim ('@' :: (tagName ++ ' ' :: rest)) =
      '@' :: (tagName ++ trimEnd (' ' :: rest)) := by
    rw [trim_cons_of_not_isBlank (by decide), ← List.cons_append, trimEnd_append_of_eq hword,
      List.cons_append]
  -- all that is left of the text behind the name is blank in front, or nothing
  have hafter : trimEnd (' ' :: rest) = [] ∨ startsBlank (trimEnd (' ' :: rest)) = true := by
    rw [trimEnd_cons]
    split
    · exact .inl rfl
    · exact .inr rfl
  have hrest : trimStart (trimEnd (' ' :: rest)) = trim rest := by
    rw [trimStart_trimEnd, trimStart_cons_of_isBlank (by decide)]
    rfl
  rw [Line.ofChars, hcontent, splitHead?, splitWord?_append h hafter, Option.map_some]
  show Line.head tagName (trimStart _) = _
  rw [hrest]

/-! ### Outlines -/

theorem joinBody_singleton (body : List Char) : joinBody [body] = body := by
  cases body <;> rfl

namespace Outline

/-- The outline with an empty line behind its description. -/
def blankEnded (o : Outline) : Outline := { o with description := o.description ++ [[]] }

/-- The outline with another one behind it, none of whose lines belong to what stands before. -/
def followedBy (o next : Outline) : Outline where
  run := o.run
  description := o.description ++ next.description
  tags := o.tags ++ next.tags

theorem cons_followedBy (line : Line) (o next : Outline) :
    cons line (o.followedBy next) = (cons line o).followedBy next := by
  cases line with
  | head => rfl
  | text => rfl
  | blank =>
    show Outline.mk [] ([] :: (o.run ++ (o.description ++ next.description))) _ = _
    rw [← List.append_assoc]
    rfl

/-- **Outlines go one behind the other** where the second does not start with text. -/
theorem ofLines_append {ls ms : List Line} (h : (ofLines ms).run = []) :
    ofLines (ls ++ ms) = (ofLines ls).followedBy (ofLines ms) := by
  induction ls with
  | nil =>
    show ofLines ms = Outline.mk [] (ofLines ms).description (ofLines ms).tags
    rw [← h]
  | cons line ls ih =>
    show cons line (ofLines (ls ++ ms)) = _
    rw [ih, cons_followedBy]
    rfl

theorem ofLines_append_blank (ls : List Line) :
    ofLines (ls ++ [.blank]) = (ofLines ls).blankEnded := by
  rw [ofLines_append rfl]
  show Outline.mk _ _ ((ofLines ls).tags ++ []) = _
  rw [List.append_nil]
  rfl

/-- **A blank line parts two outlines**: no tag that is open before it gets any of the lines behind
it. -/
theorem ofLines_append_blank_cons (ls ms : List Line) :
    ofLines (ls ++ .blank :: ms) =
      { run := (ofLines ls).run
        description := (ofLines ls).description ++ [] :: (ofLines ms).prose
        tags := (ofLines ls).tags ++ (ofLines ms).tags } := by
  have hrun : (ofLines (.blank :: ms)).run = [] := rfl
  rw [ofLines_append hrun]
  rfl

theorem prose_append_blank_cons (ls ms : List Line) :
    (ofLines (ls ++ .blank :: ms)).prose = (ofLines ls).prose ++ [] :: (ofLines ms).prose := by
  rw [ofLines_append_blank_cons]
  exact (List.append_assoc ..).symm

/-- Heads alone have no text, and every one of them is a tag. -/
theorem ofLines_heads {heads : List Line} (h : ∀ line ∈ heads, line.isHead = true) :
    (ofLines heads).run = [] ∧ (ofLines heads).description = [] ∧
      (ofLines heads).tags.map (fun t ↦ Tag.ofBody t.1 t.2) = heads.filterMap Line.tag? := by
  induction heads with
  | nil => exact ⟨rfl, rfl, rfl⟩
  | cons line heads ih =>
    obtain ⟨hline, hheads⟩ := List.forall_mem_cons.1 h
    obtain ⟨hrun, hdescription, htags⟩ := ih hheads
    cases line with
    | blank => exact nomatch hline
    | text => exact nomatch hline
    | head tagName rest =>
      refine ⟨rfl, hdescription, ?_⟩
      show Tag.ofBody tagName (joinBody (rest :: (ofLines heads).run)) :: List.map _ _ = _
      rw [hrun, joinBody_singleton]
      exact congrArg (Tag.ofBody tagName rest :: ·) htags

/-- Every head is a tag of the outline. -/
theorem tags_ofLines_eq_nil_iff {ls : List Line} :
    (ofLines ls).tags = [] ↔ ∀ line ∈ ls, line.isHead = false := by
  induction ls with
  | nil => exact ⟨fun _ _ hline ↦ (nomatch hline), fun _ ↦ rfl⟩
  | cons line ls ih =>
    rw [List.forall_mem_cons, ← ih]
    cases line with
    | head => exact ⟨nofun, fun h ↦ nomatch h.1⟩
    | blank => exact ⟨fun h ↦ ⟨rfl, h⟩, fun h ↦ h.2⟩
    | text => exact ⟨fun h ↦ ⟨rfl, h⟩, fun h ↦ h.2⟩

/-- **Lines that are no heads** leave the tags behind them alone. -/
theorem ofLines_append_heads {ls heads : List Line} (h : ∀ line ∈ ls, line.isHead = false)
    (hheads : ∀ line ∈ heads, line.isHead = true) :
    ofLines (ls ++ heads) = { ofLines ls with tags := (ofLines heads).tags } := by
  obtain ⟨hrun, hdescription, -⟩ := ofLines_heads hheads
  rw [ofLines_append hrun, followedBy, hdescription, tags_ofLines_eq_nil_iff.2 h, List.append_nil,
    List.nil_append]

end Outline

/-! ### Comments -/

/-- An empty line at the end is left out of a description. -/
theorem collapse_append_empty (ls : List (List Char)) : collapse (ls ++ [[]]) = collapse ls := by
  rw [collapse, List.foldr_append]
  rfl

namespace DocComment

theorem ofOutline_blankEnded (o : Outline) : ofOutline o.blankEnded = ofOutline o := by
  have hprose : o.blankEnded.prose = o.prose ++ [[]] := (List.append_assoc ..).symm
  rw [ofOutline, hprose, collapse_append_empty]
  rfl

/-- **A comment is the outline of its pieces.** -/
theorem ofChars_eq_ofOutline (cs : List Char) :
    ofChars cs = ofOutline (Outline.ofLines ((piecesAt '\n' cs).map Line.ofChars)) := by
  have hmap (ls : List (List Char)) :
      ls.map Line.ofChars = (ls.map trimEnd).map Line.ofChars := by
    rw [List.map_map]
    exact List.map_congr_left fun l _ ↦ (Line.ofChars_trimEnd l).symm
  obtain ⟨last, hlast, h⟩ := map_trimEnd_piecesAt cs
  rw [ofChars, hmap (lines cs), hmap (piecesAt '\n' cs), h]
  rcases hlast with rfl | rfl
  · rw [List.append_nil]
  · -- the piece behind the last line feed is a blank line, which no description keeps
    have hblank : [([] : List Char)].map Line.ofChars = [.blank] := rfl
    rw [List.map_append, hblank, Outline.ofLines_append_blank, ofOutline_blankEnded]

/-- The comment that texts make up when they are joined by line feeds. -/
theorem ofChars_joinWith (ts : List (List Char)) :
    ofChars (joinWith ['\n'] ts) =
      ofOutline (Outline.ofLines ((ts.flatMap (piecesAt '\n')).map Line.ofChars)) := by
  rcases ts with - | ⟨t, ts⟩
  · rfl
  · rw [ofChars_eq_ofOutline, piecesAt_joinWith '\n' (List.cons_ne_nil t ts)]

/-- A text behind another one and a blank line: its lines stand behind the lines of the other. -/
theorem parse_append (x y : String) :
    parse (x ++ "\n\n" ++ y) =
      ofOutline (Outline.ofLines ((piecesAt '\n' x.toList).map Line.ofChars ++
        .blank :: (piecesAt '\n' y.toList).map Line.ofChars)) := by
  have hchars : (x ++ "\n\n" ++ y).toList = x.toList ++ '\n' :: '\n' :: y.toList := by simp
  have hempty : Line.ofChars [] = .blank := rfl
  rw [parse, hchars, ofChars_eq_ofOutline, piecesAt_append_mark, piecesAt_cons_mark,
    List.map_append, List.map_cons, hempty]

/-- The tags of the whole are those of the one text and then those of the other, whatever was left
open at the end of the first. -/
theorem tags_parse_append (x y : String) :
    (parse (x ++ "\n\n" ++ y)).tags = (parse x).tags ++ (parse y).tags := by
  rw [parse_append, parse, parse, ofChars_eq_ofOutline x.toList, ofChars_eq_ofOutline y.toList,
    ofOutline, Outline.ofLines_append_blank_cons]
  exact List.map_append

/-- **Tags behind a description.** A text without tags keeps its description when heads of tags
follow it, each on a line of its own, and every head is a tag. -/
theorem ofChars_append_heads {prose tagLines : List (List Char)}
    (hprose : (ofChars (joinWith ['\n'] prose)).tags = [])
    (hfeed : ∀ l ∈ tagLines, '\n' ∉ l)
    (hheads : ∀ l ∈ tagLines, (Line.ofChars l).isHead = true) :
    ofChars (joinWith ['\n'] (prose ++ tagLines)) =
      { description := (ofChars (joinWith ['\n'] prose)).description
        tags := tagLines.filterMap fun l ↦ (Line.ofChars l).tag? } := by
  rw [ofChars_joinWith] at hprose ⊢
  rw [ofChars_joinWith, List.flatMap_append, List.map_append, flatMap_piecesAt_of_notMem hfeed]
  have hlines := Outline.tags_ofLines_eq_nil_iff.1 (List.map_eq_nil_iff.1 hprose)
  have hheads' : ∀ line ∈ tagLines.map Line.ofChars, line.isHead = true :=
    List.forall_mem_map.2 hheads
  obtain ⟨-, -, htags⟩ := Outline.ofLines_heads hheads'
  rw [Outline.ofLines_append_heads hlines hheads', ofOutline, htags, List.filterMap_map]
  rfl

end DocComment

end ToolSchema
