import ToolSchema.Proofs.Source.Documented

/-!
# A documented declaration with an attribute

A source file that starts with a block of documentation lines, an attribute on any number of lines,
and a declaration (`AttributedSource`). The attribute is a text in which brackets stand in pairs
(`AttributeText`), where the brackets in its literals and comments are no brackets.

A scan counts them all the same. So it skips the attribute if they are balanced in themselves, and
more generally if they do not mislead the count at the end of a line (`ClosedByCount`): then what is
documented are the declaration, by the block, and what the lines behind it document
(`blocks_attributed`). One bracket in a string is enough to lose the block and all that follows
(`blocks_eq_nil_of_bracket_in_string`).

What stands behind an attribute on its last line is skipped with it (`parse_eq_of_text_behind`). So
a declaration that starts there gets no block, and the next one gets the block that was meant for it
(`blocks_of_declaration_behind_attribute`).
-/

namespace ToolSchema

/-! ### Attributes -/

/-- What can stand between the marks of a string: a quotation mark or a backslash in it stands
behind a backslash. -/
inductive StringBody : List Char → Prop
  | nil : StringBody []
  | char {c : Char} {body : List Char} (hquote : c ≠ '"') (hescape : c ≠ '\\')
      (h : StringBody body) : StringBody (c :: body)
  | escaped (c : Char) {body : List Char} (h : StringBody body) : StringBody ('\\' :: c :: body)

/-- A literal or a comment that can have brackets in it. -/
inductive IsQuoted : List Char → Prop
  | string {body : List Char} (h : StringBody body) : IsQuoted ('"' :: (body ++ ['"']))
  | rawString {hashes body : List Char} (hhashes : ∀ c ∈ hashes, c = '#')
      (h : ¬ ('"' :: hashes) <:+: body) :
      IsQuoted ('r' :: (hashes ++ '"' :: (body ++ '"' :: hashes)))
  | character {c : Char} (hescape : c ≠ '\\') : IsQuoted ['\'', c, '\'']
  | escapedCharacter (c : Char) : IsQuoted ['\'', '\\', c, '\'']
  | lineComment {body : List Char} (h : '\n' ∉ body) : IsQuoted ('/' :: '/' :: (body ++ ['\n']))
  | blockComment {body : List Char} (h : ¬ ['*', '/'] <:+: body) :
      IsQuoted ('/' :: '*' :: (body ++ ['*', '/']))

/-- **The text can stand between the brackets of an attribute.** Brackets in it stand in pairs, and
`quoted` has all its literals and comments, one behind the other. -/
inductive AttributeText : List Char → List Char → Prop
  | nil : AttributeText [] []
  | char {c : Char} {text quoted : List Char} (hopen : c ≠ '[') (hclose : c ≠ ']')
      (hquote : c ≠ '"') (h : AttributeText text quoted) : AttributeText (c :: text) quoted
  | quoted {q text quoted : List Char} (hq : IsQuoted q) (h : AttributeText text quoted) :
      AttributeText (q ++ text) (q ++ quoted)
  | brackets {inner innerQuoted text quoted : List Char} (hinner : AttributeText inner innerQuoted)
      (h : AttributeText text quoted) :
      AttributeText ('[' :: (inner ++ ']' :: text)) (innerQuoted ++ quoted)

variable {c : Char} {cs text quoted : List Char}

/-- Characters that open, close and quote nothing can stand anywhere. -/
theorem AttributeText.append_of_all (hcs : (cs.all fun c ↦ c != '[' && c != ']' && c != '"') = true)
    (h : AttributeText text quoted) : AttributeText (cs ++ text) quoted := by
  induction cs with
  | nil => exact h
  | cons c cs ih =>
    rw [List.all_cons] at hcs
    simp only [Bool.and_eq_true, bne_iff_ne] at hcs
    obtain ⟨⟨⟨hopen, hclose⟩, hquote⟩, hrest⟩ := hcs
    exact .char hopen hclose hquote (ih hrest)

/-- As many brackets are open behind an attribute's text as its literals and comments leave open. -/
theorem AttributeText.count_eq (h : AttributeText text quoted) :
    text.count ']' + quoted.count '[' = text.count '[' + quoted.count ']' := by
  induction h with
  | nil => rfl
  | char hopen hclose _ _ ih =>
    rwa [List.count_cons_of_ne hopen, List.count_cons_of_ne hclose]
  | quoted _ _ ih =>
    simp only [List.count_append]
    omega
  | brackets _ _ ihinner ih =>
    simp
    omega

/-- At no point are fewer brackets open than the literals and comments before it leave open. -/
theorem AttributeText.exists_count_le (h : AttributeText text quoted) {start : List Char}
    (hstart : start <+: text) : ∃ q, q <+: quoted ∧
      start.count ']' + q.count '[' ≤ start.count '[' + q.count ']' := by
  induction h generalizing start with
  | nil => exact ⟨[], List.nil_prefix, by simp [List.prefix_nil.1 hstart]⟩
  | char hopen hclose _ _ ih =>
    rcases List.prefix_cons_iff.1 hstart with rfl | ⟨start, rfl, htext⟩
    · exact ⟨[], List.nil_prefix, Nat.le_refl _⟩
    · rw [List.count_cons_of_ne hopen, List.count_cons_of_ne hclose]
      exact ih htext
  | quoted _ _ ih =>
    obtain ⟨rest, hrest⟩ := hstart
    rcases List.append_eq_append_iff.1 hrest with ⟨more, rfl, -⟩ | ⟨start, rfl, htext⟩
    · -- the point is in the literal
      exact ⟨start, by simp [List.append_assoc], by omega⟩
    · obtain ⟨q, hq, hle⟩ := ih ⟨rest, htext.symm⟩
      refine ⟨_ ++ q, (List.prefix_append_right_inj _).2 hq, ?_⟩
      simp only [List.count_append]
      omega
  | brackets hinner _ ihinner ih =>
    rcases List.prefix_cons_iff.1 hstart with rfl | ⟨start, rfl, rest, hrest⟩
    · exact ⟨[], List.nil_prefix, Nat.le_refl _⟩
    rcases List.append_eq_append_iff.1 hrest with ⟨more, rfl, -⟩ | ⟨start, rfl, htext⟩
    · -- the point is between the brackets
      obtain ⟨q, hq, hle⟩ := ihinner (List.prefix_append _ _)
      refine ⟨q, hq.trans (List.prefix_append _ _), ?_⟩
      simp
      omega
    · have hcount := hinner.count_eq
      rcases List.prefix_cons_iff.1 ⟨rest, htext.symm⟩ with rfl | ⟨start, rfl, hbehind⟩
      · refine ⟨_, List.prefix_append _ _, ?_⟩
        simp
        omega
      · obtain ⟨q, hq, hle⟩ := ih hbehind
        refine ⟨_ ++ q, (List.prefix_append_right_inj _).2 hq, ?_⟩
        simp
        omega

/-- The brackets of an attribute's text are balanced if those of its literals and comments are. -/
theorem AttributeText.bracketsBalanced (h : AttributeText text quoted)
    (hquoted : BracketsBalanced quoted) : BracketsBalanced text := by
  have hcount := h.count_eq
  refine ⟨by have := hquoted.1; omega, fun start hstart ↦ ?_⟩
  obtain ⟨q, hq, hle⟩ := h.exists_count_le ((List.mem_inits start text).1 hstart)
  have hbalanced := hquoted.2 q ((List.mem_inits q quoted).2 hq)
  omega

/-! ### Skipping an attribute -/

/-- **The count of brackets closes the attribute** where it ends: brackets are open at the end of
each of its lines but the last, and none at the end of that. -/
def ClosedByCount (text : List Char) : Prop :=
  bracketLevel 0 text = 0 ∧ ∀ start, start ++ ['\n'] <+: text → 0 < bracketLevel 0 start

/-- Lines in an attribute are skipped while brackets are open at their ends. -/
theorem ScanState.leads_pieces {level : Nat} {piece : List Char} {pieces : List (List Char)}
    (hpieces : piecesAt '\n' text = piece :: pieces)
    (hopen : ∀ start, start ++ ['\n'] <+: text → 0 < bracketLevel level start)
    (found : List (List Char)) :
    Leads { level := bracketLevel level piece, found } pieces
      { level := bracketLevel level text, found } := by
  induction text generalizing level piece pieces with
  | nil =>
    obtain ⟨rfl, rfl⟩ := List.cons.inj hpieces
    exact .nil _
  | cons c text ih =>
    obtain ⟨first, rest, htext⟩ := exists_piecesAt_eq_cons '\n' text
    by_cases hc : c = '\n'
    · subst hc
      rw [piecesAt_cons_mark, htext] at hpieces
      obtain ⟨rfl, rfl⟩ := List.cons.inj hpieces
      -- the line that ends here has left brackets open
      have hlevel : 0 < level := hopen [] (by simp)
      have hopen (start : List Char) (hstart : start ++ ['\n'] <+: text) :
          0 < bracketLevel level start :=
        hopen ('\n' :: start) (List.cons_prefix_cons.2 ⟨rfl, hstart⟩)
      exact .cons (if_pos hlevel) (fun _ ↦ block?_eq_none_of_level hlevel) (ih htext hopen)
    · rw [piecesAt_cons_of_ne hc htext] at hpieces
      obtain ⟨rfl, rfl⟩ := List.cons.inj hpieces
      have hopen (start : List Char) (hstart : start ++ ['\n'] <+: text) :
          0 < bracketLevel (bracketLevel level [c]) start :=
        hopen (c :: start) (List.cons_prefix_cons.2 ⟨rfl, hstart⟩)
      exact ih htext hopen

theorem newline_notMem_indent {indent : List Char} (h : ∀ c ∈ indent, c = ' ' ∨ c = '\t') :
    '\n' ∉ indent := by
  intro hmem
  rcases h '\n' hmem with h | h <;> exact absurd h (by decide)

/-- What ends with a mark ends behind a text without one, if it starts with it. -/
theorem exists_append_of_concat_prefix {before start : List Char} (hbefore : c ∉ before)
    (h : start ++ [c] <+: before ++ text) :
    ∃ more, start = before ++ more ∧ more ++ [c] <+: text := by
  rcases List.prefix_or_prefix_of_prefix h (List.prefix_append before text) with hin | hin
  · exact absurd (hin.subset (by simp)) hbefore
  rcases List.prefix_concat_iff.1 hin with rfl | ⟨more, rfl⟩
  · simp at hbefore
  · refine ⟨more, rfl, ?_⟩
    rwa [List.append_assoc, List.prefix_append_right_inj] at h

/-- What ends with a mark ends before a text without one. -/
theorem concat_prefix_of_append {start behind : List Char} (hbehind : c ∉ behind)
    (h : start ++ [c] <+: text ++ behind) : start ++ [c] <+: text := by
  rcases List.prefix_or_prefix_of_prefix h (List.prefix_append text behind) with hin | hin
  · exact hin
  rcases List.prefix_concat_iff.1 hin with rfl | ⟨more, rfl⟩
  · exact List.prefix_rfl
  · rw [List.append_assoc, List.prefix_append_right_inj] at h
    exact absurd (h.subset (by simp)) hbehind

/-- More text on the last line is skipped with it, if its brackets are balanced. -/
theorem ClosedByCount.append {behind : List Char} (h : ClosedByCount text) (hbehind : '\n' ∉ behind)
    (hbalanced : BracketsBalanced behind) : ClosedByCount (text ++ behind) where
  left := by rw [bracketLevel_append, h.1, hbalanced.bracketLevel_eq_zero]
  right start hstart := h.2 start (concat_prefix_of_append hbehind hstart)

/-- **An attribute is skipped whole** if the count of brackets closes it. -/
theorem ScanState.leads_attribute {indent rest : List Char}
    (hindent : ∀ c ∈ indent, c = ' ' ∨ c = '\t')
    (hcount : ClosedByCount (indent ++ '#' :: '[' :: rest)) (found : List (List Char)) :
    Leads { found } (piecesAt '\n' (indent ++ '#' :: '[' :: rest)) { found } := by
  obtain ⟨hclosed, hopen⟩ := hcount
  obtain ⟨piece, pieces, hrest⟩ := exists_piecesAt_eq_cons '\n' rest
  have hfeed : '\n' ∉ indent ++ ['#', '['] := by
    simpa using newline_notMem_indent hindent
  have hpieces : piecesAt '\n' (indent ++ '#' :: '[' :: rest) =
      (indent ++ '#' :: '[' :: piece) :: pieces := by
    simpa using piecesAt_append_of_notMem hfeed hrest
  have hline : SourceLine.ofChars (trimStart (indent ++ '#' :: '[' :: piece)) = .attribute := by
    rw [trimStart_append_of_forall_isBlank fun _ ↦ isBlank_of_mem_indent hindent]
    rfl
  have hnext : ({ found } : ScanState).next (indent ++ '#' :: '[' :: piece) =
      { level := bracketLevel 0 (indent ++ '#' :: '[' :: piece), found } := by
    rw [next, if_neg (Nat.lt_irrefl 0), hline]
  have hrun := leads_pieces hpieces hopen found
  rw [hclosed] at hrun
  rw [hpieces]
  exact .cons hnext (fun _ ↦ block?_eq_none_of_ne (by simp [hline])) hrun

/-! ### Files -/

/-- The block with `n` more lines above it. -/
def DocBlock.below (n : Nat) (b : DocBlock) : DocBlock := { b with line := n + b.line }

theorem ScanState.blocks_add (n m : Nat) (s : ScanState) (ls : List (List Char)) :
    s.blocks (n + m) ls = (s.blocks m ls).map (DocBlock.below n) := by
  induction ls generalizing m s with
  | nil => rfl
  | cons line ls ih =>
    have hblock : s.block? (n + m) line = (s.block? m line).map (DocBlock.below n) := by
      simp only [block?]
      split <;> rfl
    rw [blocks_cons, blocks_cons, List.map_append, hblock, Nat.add_assoc, ih]
    rcases s.block? m line with - | b <;> rfl

/-- Blocks that have their numbers can be numbered again below more lines. -/
theorem FileDocs.numbered_map_below (n : Nat) (bs : List DocBlock) :
    numbered ((numbered bs).map (DocBlock.below n)) = numbered (bs.map (DocBlock.below n)) := by
  induction bs with
  | nil => rfl
  | cons b bs ih =>
    by_cases h : lineNumber b.line ∈ (numbered bs).map DocBlock.line
    · obtain ⟨c, hc, hline⟩ := List.mem_map.1 (mem_map_line_numbered.1 h)
      have hbelow : lineNumber (DocBlock.below n b).line ∈
          (numbered (bs.map (DocBlock.below n))).map DocBlock.line := by
        rw [mem_map_line_numbered, List.map_map]
        exact List.mem_map.2 ⟨c, hc, lineNumber_add_congr n hline⟩
      rw [numbered_cons_of_mem h, ih, List.map_cons, numbered_cons_of_mem hbelow]
    · rw [numbered_cons_of_notMem h]
      exact numbered_cons_congr (lineNumber_add_lineNumber n b.line) rfl ih

/-- Lines that are joined document what they document one by one. -/
theorem FileDocs.ofChars_joinWith {ls : List (List Char)} (h : ∀ l ∈ ls, '\n' ∉ l) :
    ofChars (joinWith ['\n'] ls) = ⟨numbered (({} : ScanState).blocks 1 ls)⟩ := by
  rw [ofChars_eq_blocks]
  rcases ls with - | ⟨l, ls⟩
  · rfl
  · rw [piecesAt_joinWith '\n' (List.cons_ne_nil l ls), flatMap_piecesAt_of_notMem h]

/-- **A source file that starts with a documented declaration, which has an attribute.** -/
structure AttributedSource where
  /-- The documentation lines: the indentation of each, and the text behind its marker. -/
  block : List (List Char × String)
  /-- The indentation of the attribute. -/
  indent : List Char
  /-- What stands between the brackets of the attribute. -/
  content : List Char
  /-- The literals and comments of the attribute, one behind the other. -/
  quoted : List Char
  /-- The blanks behind the attribute. -/
  blanks : List Char
  /-- The line on which the declaration starts. -/
  declaration : List Char
  /-- The lines behind the declaration. -/
  after : List (List Char)
  block_ne : block ≠ []
  block_indent : ∀ l ∈ block, ∀ c ∈ l.1, c = ' ' ∨ c = '\t'
  text_head : ∀ l ∈ block, l.2.toList.head? ≠ some '/'
  indent_blank : ∀ c ∈ indent, c = ' ' ∨ c = '\t'
  content_text : AttributeText content quoted
  blanks_blank : ∀ c ∈ blanks, c = ' ' ∨ c = '\t'
  declaration_ne : trimStart declaration ≠ []
  declaration_hash : ¬ ['#'] <+: trimStart declaration
  declaration_slashes : ¬ ['/', '/'] <+: trimStart declaration

namespace AttributedSource

variable (s : AttributedSource)

/-- The attribute, with the blanks before and behind it. -/
def attributeChars : List Char := s.indent ++ '#' :: '[' :: (s.content ++ ']' :: s.blanks)

/-- The lines before the declaration. -/
def leading : List (List Char) :=
  s.block.map DocumentedSource.docLine ++ piecesAt '\n' s.attributeChars

/-- All lines. -/
def lines : List (List Char) := s.leading ++ s.declaration :: s.after

/-- The number of the declaration's line, counted from one. -/
def line : Nat := s.leading.length + 1

/-- The documentation texts. -/
def docs : List String := s.block.map Prod.snd

variable {s} {source : String}

/-- The count of brackets closes an attribute if those in its literals and comments are balanced. -/
theorem closedByCount (hquoted : BracketsBalanced s.quoted) : ClosedByCount s.attributeChars := by
  obtain ⟨hcount, hstart⟩ := s.content_text.bracketsBalanced hquoted
  have hindent (c : Char) (hc : c ∈ s.indent) : isBlank c = true :=
    isBlank_of_mem_indent s.indent_blank hc
  have hlevel (cs : List Char) : bracketLevel 0 (s.indent ++ '#' :: '[' :: cs) =
      bracketLevel 1 cs := by
    rw [bracketLevel_append, bracketLevel_of_forall_isBlank hindent,
      bracketLevel_cons_of_ne (by decide) (by decide), bracketLevel_open]
  -- the bracket that the attribute starts with stays open in its content
  have hcontent (start : List Char) (h : start <+: s.content) :
      bracketLevel 1 start + start.count ']' = 1 + start.count '[' := by
    refine bracketLevel_add_count fun first hfirst ↦ ?_
    have hle := hstart first ((List.mem_inits first s.content).2 (hfirst.trans h))
    omega
  constructor
  · have hend : bracketLevel 1 s.content = 1 := by
      have hall := hcontent s.content List.prefix_rfl
      omega
    rw [attributeChars, hlevel, bracketLevel_append, hend, bracketLevel_close,
      bracketLevel_of_forall_isBlank fun _ ↦ isBlank_of_mem_indent s.blanks_blank]
  · intro start h
    have hbefore : '\n' ∉ s.indent ++ ['#', '['] := by
      simpa using newline_notMem_indent s.indent_blank
    have hbehind : '\n' ∉ ']' :: s.blanks := by
      simpa using newline_notMem_indent s.blanks_blank
    have hsplit : s.attributeChars =
        s.indent ++ ['#', '['] ++ (s.content ++ ']' :: s.blanks) := by
      simp [attributeChars]
    rw [hsplit] at h
    obtain ⟨more, rfl, hmore⟩ := exists_append_of_concat_prefix hbefore h
    have hprefix := (List.prefix_append more ['\n']).trans (concat_prefix_of_append hbehind hmore)
    have hopen := hcontent more hprefix
    have hle := hstart more ((List.mem_inits more s.content).2 hprefix)
    rw [List.append_assoc, List.cons_append, List.singleton_append, hlevel]
    omega

/-- The lines before the declaration, with more text on the last line of the attribute. -/
def leadingWith (s : AttributedSource) (behind : List Char) : List (List Char) :=
  s.block.map DocumentedSource.docLine ++ piecesAt '\n' (s.attributeChars ++ behind)

/-- All lines, with more text on the last line of the attribute. -/
def linesWith (s : AttributedSource) (behind : List Char) : List (List Char) :=
  s.leadingWith behind ++ s.declaration :: s.after

theorem linesWith_nil : s.linesWith [] = s.lines := by
  rw [linesWith, leadingWith, List.append_nil]
  rfl

/-- The block is what is found when the declaration comes, and nothing is documented before it. -/
theorem leads_leadingWith {behind : List Char}
    (hcount : ClosedByCount (s.attributeChars ++ behind)) :
    ScanState.Leads {} (s.leadingWith behind)
      { found := (s.docs.map fun l ↦ dropSpace l.toList).reverse } := by
  have hsplit : s.attributeChars ++ behind =
      s.indent ++ '#' :: '[' :: (s.content ++ ']' :: (s.blanks ++ behind)) := by
    simp [attributeChars]
  have hblock := DocumentedSource.leads_block s.block_indent s.text_head []
  rw [List.append_nil] at hblock
  rw [hsplit] at hcount
  rw [leadingWith, hsplit, docs, List.map_map]
  exact hblock.append (ScanState.leads_attribute s.indent_blank hcount _)

/-- **What the lines document.** The block belongs to the line of the declaration, and the lines
behind it document what they document by themselves. More text on the attribute's last line has no
say. -/
theorem blocks_linesWith {behind : List Char} (hdocs : ∀ l ∈ s.docs, '\n' ∉ l.toList)
    (hcount : ClosedByCount s.attributeChars) (hbehind : '\n' ∉ behind)
    (hbalanced : BracketsBalanced behind) :
    ({} : ScanState).blocks 1 (s.linesWith behind) =
      ⟨s.line, DocComment.parse (joinLines s.docs)⟩ ::
        (({} : ScanState).blocks 1 s.after).map (DocBlock.below s.line) := by
  have hcode := SourceLine.ofChars_eq_code s.declaration_ne s.declaration_hash s.declaration_slashes
  have hfound : (s.docs.map fun l ↦ dropSpace l.toList).reverse ≠ [] := by
    rw [Ne, List.reverse_eq_nil_iff, List.map_eq_nil_iff, docs, List.map_eq_nil_iff]
    exact s.block_ne
  have hleading := leads_leadingWith (hcount.append hbehind hbalanced)
  have hline : 1 + (s.leadingWith behind).length = s.line := by
    rw [line, leading, leadingWith, List.length_append, List.length_append, length_piecesAt,
      length_piecesAt, List.count_append, List.count_eq_zero.2 hbehind, Nat.add_zero, Nat.add_comm]
  have hblock : ((s.leadingWith behind).foldl ScanState.next {}).block? s.line s.declaration =
      some ⟨s.line, DocComment.parse (joinLines s.docs)⟩ := by
    rw [hleading.foldl_next, ScanState.block?, if_pos ⟨rfl, hcode, hfound⟩, List.reverse_reverse,
      DocComment.ofLines_map_toList hdocs trim_dropSpace fun _ _ ↦ mem_of_mem_dropSpace]
  have hnext : ((s.leadingWith behind).foldl ScanState.next {}).next s.declaration = {} := by
    rw [hleading.foldl_next, ScanState.next, if_neg (Nat.lt_irrefl 0), hcode]
  rw [linesWith, ScanState.blocks_append, hleading.blocks_eq_nil, List.nil_append, hline,
    ScanState.blocks_cons, hblock, hnext, ScanState.blocks_add]
  rfl

/-- No documentation text has a line feed in it. -/
theorem newline_notMem_docs {behind : List Char} (h : IsMadeOf source (s.linesWith behind)) :
    ∀ l ∈ s.docs, '\n' ∉ l.toList := by
  obtain ⟨-, hlines⟩ := newline_notMem_of_sameLine h.sameLine
  exact DocumentedSource.newline_notMem_texts hlines fun l hl ↦
    List.mem_append_left _ (List.mem_append_left _ hl)

/-- **What the file documents.** The block belongs to the line of the declaration, and the lines
behind it document what they document by themselves. In a file with a number for each of its lines
the blocks stand as they are. -/
theorem blocks_attributed (h : IsMadeOf source s.lines)
    (hcount : BracketsBalanced s.quoted ∨ ClosedByCount s.attributeChars) :
    let blocks : List DocBlock := ⟨s.line, DocComment.parse (joinLines s.docs)⟩ ::
      (FileDocs.ofChars (joinWith ['\n'] s.after)).blocks.map (DocBlock.below s.line)
    (FileDocs.parse source).blocks = FileDocs.numbered blocks ∧
      ((ToolSchema.lines source.toList).length < 2 ^ 32 →
        (FileDocs.parse source).blocks = blocks) := by
  have hclosed : ClosedByCount s.attributeChars := hcount.elim closedByCount id
  have hafter : ∀ l ∈ s.after, '\n' ∉ l := fun l hl ↦
    (newline_notMem_of_sameLine h.sameLine).2 l
      (List.mem_append_right _ (List.mem_cons_of_mem _ hl))
  rw [← linesWith_nil] at h
  have hblocks := blocks_linesWith (newline_notMem_docs h) hclosed List.not_mem_nil (by decide)
  rw [FileDocs.ofChars_joinWith hafter]
  intro blocks
  constructor
  · rw [h.parse_eq, hblocks]
    exact FileDocs.numbered_cons_congr rfl rfl (FileDocs.numbered_map_below _ _).symm
  · intro hlength
    -- without the lines above them, the lines behind the declaration have numbers all the more
    have hle (b : DocBlock) (hb : b ∈ ({} : ScanState).blocks 1 (s.linesWith [])) :
        b.line ≤ lastLine := (h.line_le hb).trans (Nat.le_pred_of_lt hlength)
    have hleAfter (b : DocBlock) (hb : b ∈ ({} : ScanState).blocks 1 s.after) :
        b.line ≤ lastLine := by
      have hmem : b.below s.line ∈ ({} : ScanState).blocks 1 (s.linesWith []) := by
        rw [hblocks]
        exact List.mem_cons_of_mem _ (List.mem_map_of_mem hb)
      exact (Nat.le_add_left _ _).trans (hle _ hmem)
    rw [h.parse_eq, FileDocs.numbered_eq_self (ScanState.pairwise_blocks 1 {} _) hle, hblocks]
    simp only [blocks]
    rw [FileDocs.numbered_eq_self (ScanState.pairwise_blocks 1 {} _) hleAfter]

/-- An attribute with a bracket in a string that the string on the next line closes. -/
theorem attributeText_two_lines : AttributeText ("x(".toList ++ (['"', '[', '"'] ++
    (",\n  ".toList ++ (['"', ']', '"'] ++ ")".toList)))) ['"', '[', '"', '"', ']', '"'] := by
  have hstring (c : Char) (hquote : c ≠ '"') (hescape : c ≠ '\\') : IsQuoted ['"', c, '"'] :=
    .string (.char hquote hescape .nil)
  have hend : AttributeText ")".toList [] := .char (by decide) (by decide) (by decide) .nil
  have hsecond :
      AttributeText (",\n  ".toList ++ (['"', ']', '"'] ++ ")".toList)) ['"', ']', '"'] :=
    .append_of_all (by decide) (.quoted (hstring ']' (by decide) (by decide)) hend)
  exact .append_of_all (by decide) (.quoted (hstring '[' (by decide) (by decide)) hsecond)

/-- The block belongs to line 4, whatever brackets stand in the attribute before it, and the block
behind it to line 6. -/
theorem blocks_attributed_two_lines :
    let source := "/// A.\n#[x(\"[\",\n  \"]\")]\nfn a();\n/// B.\nfn b();\n"
    (FileDocs.parse source).blocks = [⟨4, .parse " A."⟩, ⟨6, .parse "B."⟩] := by
  intro source
  let s : AttributedSource :=
    { block := [([], " A.")]
      indent := []
      content := _
      quoted := _
      blanks := []
      declaration := "fn a();".toList
      after := ["/// B.".toList, "fn b();".toList, []]
      block_ne := by simp
      block_indent := by simp
      text_head := by decide
      indent_blank := by simp
      content_text := attributeText_two_lines
      blanks_blank := by simp
      declaration_ne := by decide
      declaration_hash := by decide
      declaration_slashes := by decide }
  have hlines : IsMadeOf source s.lines := by
    have hpieces : piecesAt '\n' source.toList = s.lines := by decide
    rw [IsMadeOf, hpieces]
    exact List.forall₂_same.2 fun l _ ↦ .inl rfl
  rw [(blocks_attributed hlines (.inl (by decide))).2 (by decide)]
  decide

/-- **A bracket in a string** is enough to lose what is documented: it is never closed, so that no
line behind the attribute is looked at. -/
theorem blocks_eq_nil_of_bracket_in_string :
    (FileDocs.parse "/// A.\n#[x = \"[\"]\nfn a();\n/// B.\nfn b();\n").blocks = [] := by
  decide

/-- **Text behind an attribute is passed over** with the attribute's last line. Even if it is the
declaration that the block is about, the block belongs to the line behind it. -/
theorem parse_eq_of_text_behind {source' : String} {behind : List Char}
    (h : IsMadeOf source s.lines) (h' : IsMadeOf source' (s.linesWith behind))
    (hcount : ClosedByCount s.attributeChars) (hbehind : '\n' ∉ behind)
    (hbalanced : BracketsBalanced behind) : FileDocs.parse source' = FileDocs.parse source := by
  rw [← linesWith_nil] at h
  have hdocs := newline_notMem_docs h
  rw [h.parse_eq, h'.parse_eq, blocks_linesWith hdocs hcount hbehind hbalanced,
    blocks_linesWith hdocs hcount List.not_mem_nil (by decide)]

/-- The block of a function on the line of its attribute belongs to the function behind it. -/
theorem blocks_of_declaration_behind_attribute :
    (FileDocs.parse "/// A.\n#[inline] fn a();\nfn b();\n").blocks = [⟨3, .parse " A."⟩] := by
  decide

end AttributedSource

end ToolSchema
