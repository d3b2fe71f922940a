import ToolSchema.Proofs.Comment.TagLine
import ToolSchema.Proofs.Source.Scan

/-!
# A documented declaration

A source file with a block of documentation lines before a declaration (`DocumentedSource`). The
block is what a scan has found when it comes to the declaration, whatever stands before it and
whatever comments and attributes stand between (`foldl_next_leading`); so it is what the file
documents at the declaration's line, and the comment is that of the texts behind the markers
(`get?_documented`).
-/

namespace ToolSchema

/-- The text is made of the lines: each of them ends at a line feed, with or without a carriage
return before it, or with the text. -/
def IsMadeOf (source : String) (ls : List (List Char)) : Prop :=
  List.Forall₂ (fun piece l ↦ piece = l ∨ piece = l ++ ['\r']) (piecesAt '\n' source.toList) ls

/-- The line is a comment and no documentation. -/
def IsPlainComment (line : List Char) : Prop :=
  ['/', '/'] <+: trimStart line ∧
    (['/', '/', '/'] <+: trimStart line → ['/', '/', '/', '/'] <+: trimStart line)

/-- The line is an attribute from its start to its end. -/
def IsOneLineAttribute (line : List Char) : Prop :=
  ['#', '['] <+: trimStart line ∧ BracketsBalanced line

instance (line : List Char) : Decidable (IsPlainComment line) :=
  inferInstanceAs (Decidable (_ ∧ _))

instance (line : List Char) : Decidable (IsOneLineAttribute line) :=
  inferInstanceAs (Decidable (_ ∧ _))

namespace IsMadeOf

variable {source : String} {ls : List (List Char)}

/-- The pieces of a text are the lines that it is made of, up to carriage returns. -/
theorem sameLine (h : IsMadeOf source ls) :
    List.Forall₂ SameLine (piecesAt '\n' source.toList) ls := by
  refine List.Forall₂.imp ?_ ((List.forall₂_and_left _ _).2 ⟨fun _ ↦ notMem_of_mem_piecesAt, h⟩)
  rintro piece l ⟨hfeed, rfl | rfl⟩
  · exact ⟨rfl, hfeed, hfeed⟩
  · exact ⟨trim_append_return l, hfeed, fun hl ↦ hfeed (List.mem_append_left _ hl)⟩

/-- The lines of a text can be scanned as the lines that it is made of. -/
theorem blocks_eq (h : IsMadeOf source ls) :
    ({} : ScanState).blocks 1 (lines source.toList) = ({} : ScanState).blocks 1 ls := by
  rw [ScanState.blocks_lines, ScanState.blocks_congr 1 ⟨rfl, .nil⟩ h.sameLine]

theorem parse_eq (h : IsMadeOf source ls) :
    FileDocs.parse source = ⟨FileDocs.numbered (({} : ScanState).blocks 1 ls)⟩ := by
  rw [← h.blocks_eq]
  rfl

/-- No block stands behind the end of the text. -/
theorem line_le (h : IsMadeOf source ls) {b : DocBlock}
    (hb : b ∈ ({} : ScanState).blocks 1 ls) : b.line ≤ (lines source.toList).length := by
  rw [← h.blocks_eq] at hb
  have hlt := (ScanState.line_of_mem_blocks hb).2
  omega

end IsMadeOf

/-- Texts that differ from documentation texts in blanks at their ends make up the same comment. -/
theorem DocComment.ofLines_map_toList {docs : List String} (hdocs : ∀ l ∈ docs, '\n' ∉ l.toList)
    {change : List Char → List Char} (htrim : ∀ cs, trim (change cs) = trim cs)
    (hmem : ∀ cs, ∀ c ∈ change cs, c ∈ cs) :
    ofLines (docs.map fun l ↦ change l.toList) = parse (joinLines docs) := by
  have hparse : parse (joinLines docs) = ofLines (docs.map String.toList) := by
    rw [parse, joinLines, String.toList_ofList]
    rfl
  rw [hparse]
  refine ofLines_congr ?_
  rw [List.forall₂_map_left_iff, List.forall₂_map_right_iff, List.forall₂_same]
  intro l hl
  have hfeed := hdocs l hl
  exact ⟨htrim _, fun hc ↦ hfeed (hmem _ _ hc), hfeed⟩

theorem isBlank_of_mem_indent {indent : List Char} (h : ∀ c ∈ indent, c = ' ' ∨ c = '\t')
    {c : Char} (hc : c ∈ indent) : isBlank c = true := by
  rcases h c hc with rfl | rfl <;> rfl

/-- **A source file in which a declaration is documented.** -/
structure DocumentedSource where
  /-- The lines before the block. -/
  before : List (List Char)
  /-- The documentation lines: the indentation of each, and the text behind its marker. -/
  block : List (List Char × String)
  /-- The lines between the block and the declaration. -/
  between : List (List Char)
  declaration : List Char
  /-- The lines behind the declaration. -/
  after : List (List Char)
  /-- What stands before the block ends in a blank line that is not in an attribute. -/
  before_ends : before = [] ∨ ∃ earlier blank, before = earlier ++ [blank] ∧
    trimStart blank = [] ∧ earlier.foldl ScanState.attributeLevel 0 = 0
  block_ne : block ≠ []
  indent_blank : ∀ l ∈ block, ∀ c ∈ l.1, c = ' ' ∨ c = '\t'
  text_head : ∀ l ∈ block, l.2.toList.head? ≠ some '/'
  between_passed : ∀ l ∈ between, IsPlainComment l ∨ IsOneLineAttribute l
  declaration_ne : trimStart declaration ≠ []
  declaration_hash : ¬ ['#'] <+: trimStart declaration
  declaration_slashes : ¬ ['/', '/'] <+: trimStart declaration

namespace DocumentedSource

/-- A line of the block. -/
def docLine (l : List Char × String) : List Char := l.1 ++ '/' :: '/' :: '/' :: l.2.toList

/-- The lines before the declaration. -/
def leading (s : DocumentedSource) : List (List Char) :=
  s.before ++ s.block.map docLine ++ s.between

/-- All lines. -/
def lines (s : DocumentedSource) : List (List Char) := s.leading ++ s.declaration :: s.after

/-- The number of the declaration's line, counted from one. -/
def line (s : DocumentedSource) : Nat := s.leading.length + 1

/-- The documentation texts. -/
def docs (s : DocumentedSource) : List String := s.block.map Prod.snd

/-- Lines without line feeds have no documentation texts with one. -/
theorem newline_notMem_texts {block : List (List Char × String)} {ls : List (List Char)}
    (hls : ∀ l ∈ ls, '\n' ∉ l) (hblock : ∀ l ∈ block.map docLine, l ∈ ls) :
    ∀ l ∈ block.map Prod.snd, '\n' ∉ l.toList := by
  refine List.forall_mem_map.2 fun l hl hfeed ↦ ?_
  exact hls (docLine l) (hblock _ (List.mem_map_of_mem hl)) (by simp [docLine, hfeed])

variable (s : DocumentedSource)

theorem docs_ne_nil : s.docs ≠ [] := by
  rw [docs, Ne, List.map_eq_nil_iff]
  exact s.block_ne

/-! ### What a scan finds -/

/-- Nothing is left of what stands before the block. -/
theorem foldl_next_before : s.before.foldl ScanState.next {} = {} := by
  rcases s.before_ends with h | ⟨earlier, blank, h, hblank, hlevel⟩
  · rw [h]
    rfl
  · have hstate := ScanState.level_foldl_next {} earlier
    rw [h, List.foldl_append, List.foldl_cons, List.foldl_nil]
    rcases hs : earlier.foldl ScanState.next {} with ⟨level, found⟩
    obtain rfl : level = 0 := by
      rw [hs] at hstate
      exact hstate.trans hlevel
    exact ScanState.next_blank hblank found

/-- Every line of a block is found. -/
theorem leads_block {block : List (List Char × String)}
    (hindent : ∀ l ∈ block, ∀ c ∈ l.1, c = ' ' ∨ c = '\t')
    (htext : ∀ l ∈ block, l.2.toList.head? ≠ some '/') (found : List (List Char)) :
    ScanState.Leads { found } (block.map docLine)
      { found := (block.map fun l ↦ dropSpace l.2.toList).reverse ++ found } := by
  induction block generalizing found with
  | nil => exact .nil _
  | cons l block ih =>
    obtain ⟨hl, hindent⟩ := List.forall_mem_cons.1 hindent
    obtain ⟨hslash, htext⟩ := List.forall_mem_cons.1 htext
    have hdoc : SourceLine.ofChars (trimStart (docLine l)) = .doc (dropSpace l.2.toList) :=
      SourceLine.ofChars_trimStart_doc (fun _ ↦ isBlank_of_mem_indent hl) hslash
    have hblock (n : Nat) : ({ found } : ScanState).block? n (docLine l) = none :=
      ScanState.block?_eq_none_of_ne (by simp [hdoc])
    rw [List.map_cons, List.map_cons, List.reverse_cons, List.append_assoc]
    exact .cons (ScanState.next_doc hdoc found) hblock (ih hindent htext _)

/-- Comments and attributes are passed by. -/
theorem foldl_next_between {between : List (List Char)}
    (h : ∀ l ∈ between, IsPlainComment l ∨ IsOneLineAttribute l) (found : List (List Char)) :
    between.foldl ScanState.next { found } = { found } := by
  induction between with
  | nil => rfl
  | cons l between ih =>
    obtain ⟨hl, h⟩ := List.forall_mem_cons.1 h
    have hnext : ({ found } : ScanState).next l = { found } := by
      rcases hl with ⟨hslashes, hthird⟩ | ⟨hstart, hbalanced⟩
      · exact ScanState.next_comment (SourceLine.ofChars_eq_comment hslashes hthird) found
      · exact ScanState.next_attribute (SourceLine.ofChars_eq_attribute_iff.2 hstart) hbalanced
          found
    rw [List.foldl_cons, hnext, ih h]

/-- **The block is what is found** when the declaration comes. -/
theorem foldl_next_leading :
    s.leading.foldl ScanState.next {} =
      { found := (s.docs.map fun l ↦ dropSpace l.toList).reverse } := by
  rw [leading, List.foldl_append, List.foldl_append, foldl_next_before,
    (leads_block s.indent_blank s.text_head []).foldl_next, foldl_next_between s.between_passed,
    docs, List.map_map, List.append_nil]
  rfl

theorem block?_declaration (n : Nat) :
    (s.leading.foldl ScanState.next {}).block? n s.declaration =
      some ⟨n, .ofLines (s.docs.map fun l ↦ dropSpace l.toList)⟩ := by
  have hcode := SourceLine.ofChars_eq_code s.declaration_ne s.declaration_hash s.declaration_slashes
  have hfound : (s.docs.map fun l ↦ dropSpace l.toList).reverse ≠ [] := by
    rw [Ne, List.reverse_eq_nil_iff, List.map_eq_nil_iff]
    exact s.docs_ne_nil
  rw [foldl_next_leading, ScanState.block?, if_pos ⟨rfl, hcode, hfound⟩, List.reverse_reverse]

/-! ### What is documented -/

variable {s} {source : String}

/-- No documentation text has a line feed in it. -/
theorem newline_notMem_docs (h : IsMadeOf source s.lines) : ∀ l ∈ s.docs, '\n' ∉ l.toList := by
  refine newline_notMem_texts (newline_notMem_of_sameLine h.sameLine).2 fun l hl ↦ ?_
  simp only [lines, leading, List.mem_append]
  exact .inl (.inl (.inr hl))

/-- Texts that differ from the documentation texts in blanks at their ends make up the same
comment. -/
theorem ofLines_docs (h : IsMadeOf source s.lines) {change : List Char → List Char}
    (htrim : ∀ cs, trim (change cs) = trim cs) (hmem : ∀ cs, ∀ c ∈ change cs, c ∈ cs) :
    DocComment.ofLines (s.docs.map fun l ↦ change l.toList) =
      DocComment.parse (joinLines s.docs) :=
  DocComment.ofLines_map_toList (newline_notMem_docs h) htrim hmem

/-- The declaration completes a block with the comment of the texts behind the markers. -/
theorem mem_blocks_lines (h : IsMadeOf source s.lines) :
    ⟨s.line, DocComment.parse (joinLines s.docs)⟩ ∈ ({} : ScanState).blocks 1 s.lines := by
  refine ScanState.mem_blocks_iff.2 ⟨s.leading.length, s.declaration, by simp [lines], ?_⟩
  rw [lines, List.take_left, block?_declaration, line, Nat.add_comm,
    ofLines_docs h trim_dropSpace fun _ _ ↦ mem_of_mem_dropSpace]

/-- **What is documented at the declaration** is the comment of the texts behind the markers, if no
line behind the declaration has the number of its line. -/
theorem get?_documented (h : IsMadeOf source s.lines)
    (hline : s.line < lastLine ∨ (ToolSchema.lines source.toList).length ≤ lastLine) :
    (FileDocs.parse source).get? s.line = some (DocComment.parse (joinLines s.docs)) := by
  have hmem := mem_blocks_lines h
  have hbounds {b : DocBlock} (hb : b ∈ ({} : ScanState).blocks 1 s.lines) :
      s.line < lastLine ∨ b.line ≤ lastLine :=
    hline.imp_right (h.line_le hb).trans
  have hnumber : lineNumber s.line = s.line :=
    lineNumber_of_le ((hbounds hmem).elim Nat.le_of_lt id)
  rw [h.parse_eq, FileDocs.get?_numbered_eq_some_iff (ScanState.pairwise_blocks 1 {} _)]
  refine ⟨_, hmem, hnumber, rfl, fun b hb hlt ↦ ?_⟩
  rw [← hnumber]
  exact lineNumber_ne_of_lt (hbounds hb) hlt

end DocumentedSource

end ToolSchema
