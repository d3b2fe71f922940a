import ToolSchema.Proofs.Comment.Outline
import ToolSchema.Proofs.Source.LineNumber
import ToolSchema.Proofs.Source.SourceLine

/-!
# Scanning source files

A scan goes from line to line with little to remember: the open brackets of an attribute, and the
documentation lines that wait for a line of code (`ScanState`). One step says what a line does to
these two (`ScanState.next`) and whether it is the line that they were waiting for
(`ScanState.block?`). From that the documentation of a file is known line by line: `mem_blocks_iff`
says which blocks there are, given what is known when the scan comes to a line.

Blanks at the ends of lines do not show (`blocks_congr`), so the pieces between line feeds can be
scanned in place of the lines (`FileDocs.ofChars_eq_blocks`).
-/

namespace ToolSchema

/-! ### Steps -/

/-- What a scan knows when it comes to a line. -/
structure ScanState where
  /-- The number of open brackets of an attribute. -/
  level : Nat := 0
  /-- The documentation lines that no line of code has taken yet, the last one first. -/
  found : List (List Char) := []

namespace ScanState

/-- What is known behind a line. -/
def next (s : ScanState) (line : List Char) : ScanState :=
  if 0 < s.level then { s with level := bracketLevel s.level line }
  else
    match SourceLine.ofChars (trimStart line) with
    | .doc text => { found := text :: s.found }
    | .blank => {}
    | .attribute => { s with level := bracketLevel 0 line }
    | .comment => { found := s.found }
    | .code => {}

/-- The block that line `n` completes, if it is the line of code that documentation waited for. -/
def block? (s : ScanState) (n : Nat) (line : List Char) : Option DocBlock :=
  if s.level = 0 ∧ SourceLine.ofChars (trimStart line) = .code ∧ s.found ≠ [] then
    some ⟨n, .ofLines s.found.reverse⟩
  else none

/-- The blocks of the lines from line `n` on. -/
def blocks (n : Nat) (s : ScanState) (ls : List (List Char)) : List DocBlock :=
  FileDocs.scan n s.level s.found ls

variable {n : Nat} {s t : ScanState} {line : List Char} {ls ms : List (List Char)}

/-- **One step of a scan.** -/
theorem blocks_cons (n : Nat) (s : ScanState) (line : List Char) (ls : List (List Char)) :
    s.blocks n (line :: ls) = (s.block? n line).toList ++ (s.next line).blocks (n + 1) ls := by
  rw [blocks, FileDocs.scan, block?, next, bracketLevel_trimStart, bracketLevel_trimStart]
  by_cases hlevel : 0 < s.level
  · rw [if_pos hlevel, if_pos hlevel, if_neg (by omega)]
    rfl
  · have hzero : s.level = 0 := by omega
    rw [if_neg hlevel, if_neg hlevel]
    rcases hline : SourceLine.ofChars (trimStart line) with text | - | - | - | -
    · simp [blocks]
    · simp [blocks]
    · simp [blocks]
    · simp [blocks]
    · rcases hfound : s.found with - | ⟨l, found⟩
      · simp [blocks]
      · simp [blocks, hzero]

/-- **A run of a scan.** Lines behind others are scanned with what is known then. -/
theorem blocks_append (n : Nat) (s : ScanState) (ls ms : List (List Char)) :
    s.blocks n (ls ++ ms) = s.blocks n ls ++ (ls.foldl next s).blocks (n + ls.length) ms := by
  induction ls generalizing n s with
  | nil => rfl
  | cons line ls ih =>
    rw [List.cons_append, blocks_cons, blocks_cons, ih, List.append_assoc, List.foldl_cons,
      List.length_cons, Nat.add_right_comm, Nat.add_assoc n]

theorem line_of_block? {b : DocBlock} (h : s.block? n line = some b) : b.line = n := by
  rw [block?] at h
  split at h
  · obtain rfl := Option.some.inj h
    rfl
  · exact nomatch h

/-- Blocks stand at lines of the scan. -/
theorem line_of_mem_blocks {b : DocBlock} (h : b ∈ s.blocks n ls) :
    n ≤ b.line ∧ b.line < n + ls.length := by
  induction ls generalizing n s with
  | nil => exact nomatch h
  | cons line ls ih =>
    rw [blocks_cons] at h
    rcases List.mem_append.1 h with h | h
    · simp [line_of_block? (Option.mem_toList.1 h)]
    · have hline := ih h
      rw [List.length_cons]
      omega

/-- **The blocks of a scan** are those that its lines complete, each with what is known there. -/
theorem mem_blocks_iff {b : DocBlock} : b ∈ s.blocks n ls ↔
    ∃ i line, ls[i]? = some line ∧ ((ls.take i).foldl next s).block? (n + i) line = some b := by
  induction ls generalizing n s with
  | nil => simp [blocks, FileDocs.scan]
  | cons line ls ih =>
    rw [blocks_cons, List.mem_append, Option.mem_toList, ih]
    constructor
    · rintro (hblock | ⟨i, l, hl, hblock⟩)
      · exact ⟨0, line, rfl, hblock⟩
      · rw [Nat.add_right_comm] at hblock
        exact ⟨i + 1, l, hl, hblock⟩
    · rintro ⟨i, l, hl, hblock⟩
      rcases i with - | i
      · obtain rfl := Option.some.inj hl
        exact .inl hblock
      · refine .inr ⟨i, l, hl, ?_⟩
        rw [Nat.add_right_comm]
        exact hblock

/-- They stand in the order of their lines. -/
theorem pairwise_blocks (n : Nat) (s : ScanState) (ls : List (List Char)) :
    (s.blocks n ls).Pairwise fun b c ↦ b.line < c.line := by
  induction ls generalizing n s with
  | nil => exact .nil
  | cons line ls ih =>
    rw [blocks_cons]
    refine List.pairwise_append.2 ⟨?_, ih (n + 1) (s.next line), fun b hb c hc ↦ ?_⟩
    · rcases s.block? n line with - | b
      · exact .nil
      · exact List.pairwise_singleton _ b
    · have hfirst := line_of_block? (Option.mem_toList.1 hb)
      have hlater := (line_of_mem_blocks hc).1
      omega

/-! ### Runs without a block -/

/-- Nothing is documented at an empty line behind all others. -/
theorem blocks_append_blank (n : Nat) (s : ScanState) (ls : List (List Char)) :
    s.blocks n (ls ++ [[]]) = s.blocks n ls := by
  have hnone (t : ScanState) (k : Nat) : t.blocks k [[]] = [] := by
    have hblock : t.block? k [] = none := if_neg fun hcode ↦ nomatch hcode.2.1
    rw [blocks_cons, hblock]
    rfl
  rw [blocks_append, hnone, List.append_nil]

/-- A line in an attribute completes no block. -/
theorem block?_eq_none_of_level (h : 0 < s.level) : s.block? n line = none :=
  if_neg fun hblock ↦ absurd hblock.1 (Nat.ne_of_gt h)

/-- A line that is no code completes no block. -/
theorem block?_eq_none_of_ne (h : SourceLine.ofChars (trimStart line) ≠ .code) :
    s.block? n line = none :=
  if_neg fun hblock ↦ h hblock.2.1

/-- **The lines lead from one state to another**, and complete no block on the way. -/
structure Leads (s : ScanState) (ls : List (List Char)) (t : ScanState) : Prop where
  foldl_next : ls.foldl next s = t
  blocks_eq_nil : ∀ n, s.blocks n ls = []

theorem Leads.nil (s : ScanState) : s.Leads [] s := ⟨rfl, fun _ ↦ rfl⟩

theorem Leads.cons {u : ScanState} (hnext : s.next line = t)
    (hblock : ∀ n, s.block? n line = none) (h : t.Leads ls u) : s.Leads (line :: ls) u where
  foldl_next := by rw [List.foldl_cons, hnext, h.foldl_next]
  blocks_eq_nil n := by
    rw [blocks_cons, hblock, hnext, h.blocks_eq_nil]
    rfl

theorem Leads.append {u : ScanState} (h : s.Leads ls t) (h' : t.Leads ms u) :
    s.Leads (ls ++ ms) u where
  foldl_next := by rw [List.foldl_append, h.foldl_next, h'.foldl_next]
  blocks_eq_nil n := by rw [blocks_append, h.blocks_eq_nil, h.foldl_next, h'.blocks_eq_nil]; rfl

/-! ### What a line does -/

theorem next_doc {text : List Char} (h : SourceLine.ofChars (trimStart line) = .doc text)
    (found : List (List Char)) :
    ({ found } : ScanState).next line = { found := text :: found } := by
  rw [next, if_neg (Nat.lt_irrefl 0), h]

theorem next_blank (h : trimStart line = []) (found : List (List Char)) :
    ({ found } : ScanState).next line = {} := by
  rw [next, if_neg (Nat.lt_irrefl 0), h]
  rfl

theorem next_comment (h : SourceLine.ofChars (trimStart line) = .comment)
    (found : List (List Char)) : ({ found } : ScanState).next line = { found } := by
  rw [next, if_neg (Nat.lt_irrefl 0), h]

/-- An attribute that ends with its line leaves everything as it is. -/
theorem next_attribute (h : SourceLine.ofChars (trimStart line) = .attribute)
    (hbalanced : BracketsBalanced line) (found : List (List Char)) :
    ({ found } : ScanState).next line = { found } := by
  rw [next, if_neg (Nat.lt_irrefl 0), h, hbalanced.bracketLevel_eq_zero]

/-- The number of brackets that an attribute has open behind a line. -/
def attributeLevel (level : Nat) (line : List Char) : Nat :=
  if 0 < level ∨ ['#', '['] <+: trimStart line then bracketLevel level line else 0

theorem level_next (s : ScanState) (line : List Char) :
    (s.next line).level = attributeLevel s.level line := by
  have hstarts : ['#', '['] <+: trimStart line ↔
      SourceLine.ofChars (trimStart line) = .attribute := SourceLine.ofChars_eq_attribute_iff.symm
  simp only [next, attributeLevel, hstarts]
  by_cases hlevel : 0 < s.level
  · rw [if_pos hlevel, if_pos (.inl hlevel)]
  · have hzero : s.level = 0 := by omega
    rw [if_neg hlevel, hzero]
    rcases SourceLine.ofChars (trimStart line) with text | - | - | - | - <;> simp

/-- Documentation has no part in where an attribute ends. -/
theorem level_foldl_next (s : ScanState) (ls : List (List Char)) :
    (ls.foldl next s).level = ls.foldl attributeLevel s.level := by
  induction ls generalizing s with
  | nil => rfl
  | cons line ls ih => rw [List.foldl_cons, ih, level_next, List.foldl_cons]

end ScanState

/-! ### Blanks at the ends of lines -/

/-- Lines make up the comment that they are the lines of. -/
theorem DocComment.ofLines_eq {ls : List (List Char)} (h : ∀ l ∈ ls, '\n' ∉ l) :
    ofLines ls = ofOutline (Outline.ofLines (ls.map Line.ofChars)) := by
  rw [ofLines, ofChars_joinWith, flatMap_piecesAt_of_notMem h]

theorem Line.map_ofChars_congr {ls ms : List (List Char)} (h : List.Forall₂ SameLine ls ms) :
    ls.map ofChars = ms.map ofChars := by
  rw [← List.forall₂_eq_eq_eq, List.forall₂_map_left_iff, List.forall₂_map_right_iff]
  exact h.imp fun _ _ hline ↦ ofChars_congr hline.trim_eq

/-- **Blanks at the ends of lines** do not show in a comment. -/
theorem DocComment.ofLines_congr {ls ms : List (List Char)} (h : List.Forall₂ SameLine ls ms) :
    ofLines ls = ofLines ms := by
  obtain ⟨hls, hms⟩ := newline_notMem_of_sameLine h
  rw [ofLines_eq hls, ofLines_eq hms, Line.map_ofChars_congr h]

namespace ScanState

variable {n : Nat} {s t : ScanState} {l m : List Char} {ls ms : List (List Char)}

/-- The two know the same, but for blanks at the ends of documentation lines. -/
structure Same (s t : ScanState) : Prop where
  level : s.level = t.level
  found : List.Forall₂ SameLine s.found t.found

/-- Two lines that are alike do the same to what is known. -/
theorem Same.next (h : s.Same t) (hline : SameLine l m) : (s.next l).Same (t.next m) := by
  have hlevel (level : Nat) : bracketLevel level l = bracketLevel level m :=
    bracketLevel_of_trim_eq hline.trim_eq level
  rw [ScanState.next, ScanState.next, h.level]
  split
  · exact ⟨hlevel _, h.found⟩
  · have hfeed {k text : List Char} (hk : '\n' ∉ k)
        (htext : SourceLine.ofChars (trimStart k) = .doc text) : '\n' ∉ text := fun hmem ↦
      hk ((List.dropWhile_suffix isBlank).subset (SourceLine.mem_of_ofChars_eq_doc htext hmem))
    have hsame := SourceLine.same_ofChars_of_trim_eq hline.trim_eq
    generalize hl : SourceLine.ofChars (trimStart l) = a at hsame ⊢
    generalize hm : SourceLine.ofChars (trimStart m) = b at hsame ⊢
    cases hsame with
    | doc htrim => exact ⟨rfl, .cons ⟨htrim, hfeed hline.left hl, hfeed hline.right hm⟩ h.found⟩
    | refl =>
      cases a with
      | doc text => exact ⟨rfl, .cons ⟨rfl, hfeed hline.left hl, hfeed hline.right hm⟩ h.found⟩
      | blank => exact ⟨rfl, .nil⟩
      | comment => exact ⟨rfl, h.found⟩
      | code => exact ⟨rfl, .nil⟩
      | _ =>
        -- the first line of an attribute
        exact ⟨hlevel 0, h.found⟩

/-- Two lines that are alike complete the same block. -/
theorem Same.block?_eq (h : s.Same t) (hline : SameLine l m) (n : Nat) :
    s.block? n l = t.block? n m := by
  have hcode : SourceLine.ofChars (trimStart l) = .code ↔
      SourceLine.ofChars (trimStart m) = .code := by
    have hsame := SourceLine.same_ofChars_of_trim_eq hline.trim_eq
    generalize SourceLine.ofChars (trimStart l) = a at hsame ⊢
    generalize SourceLine.ofChars (trimStart m) = b at hsame ⊢
    cases hsame with
    | doc => exact ⟨nofun, nofun⟩
    | refl => exact Iff.rfl
  have hfound : s.found = [] ↔ t.found = [] := by
    rw [← List.length_eq_zero_iff, h.found.length_eq, List.length_eq_zero_iff]
  have hdoc : DocComment.ofLines s.found.reverse = DocComment.ofLines t.found.reverse :=
    DocComment.ofLines_congr (List.rel_reverse h.found)
  simp only [block?, h.level, hcode, Ne, hfound, hdoc]

/-- **Blanks at the ends of lines** do not show in what is documented. -/
theorem blocks_congr (n : Nat) (h : s.Same t) (hlines : List.Forall₂ SameLine ls ms) :
    s.blocks n ls = t.blocks n ms := by
  induction hlines generalizing n s t with
  | nil => rfl
  | cons hline _ ih => rw [blocks_cons, blocks_cons, h.block?_eq hline, ih _ (h.next hline)]

end ScanState

/-- **Files can be scanned by pieces**: what a piece has and its line has not are blanks, and so is
the piece behind the last line. -/
theorem ScanState.blocks_lines (cs : List Char) :
    ({} : ScanState).blocks 1 (lines cs) = ({} : ScanState).blocks 1 (piecesAt '\n' cs) := by
  obtain ⟨last, hlast, h⟩ := map_trimEnd_piecesAt cs
  have hmap : last.map trimEnd = last ∧ ∀ l ∈ last, '\n' ∉ l := by
    rcases hlast with rfl | rfl
    · exact ⟨rfl, nofun⟩
    · exact ⟨rfl, by simp⟩
  have hlines : List.Forall₂ SameLine (piecesAt '\n' cs) (lines cs ++ last) := by
    refine forall₂_sameLine_of_map_trim_eq (map_trim_eq_of_map_trimEnd_eq ?_)
      (fun _ ↦ notMem_of_mem_piecesAt)
      (List.forall_mem_append.2 ⟨fun _ ↦ newline_notMem_of_mem_lines, hmap.2⟩)
    rw [h, List.map_append, hmap.1]
  rw [blocks_congr 1 ⟨rfl, .nil⟩ hlines]
  rcases hlast with rfl | rfl
  · rw [List.append_nil]
  · rw [blocks_append_blank]

/-- **What a file documents** are the blocks of its pieces, under the numbers of their lines. -/
theorem FileDocs.ofChars_eq_blocks (cs : List Char) :
    ofChars cs = ⟨numbered (({} : ScanState).blocks 1 (piecesAt '\n' cs))⟩ := by
  rw [← ScanState.blocks_lines]
  rfl

end ToolSchema
