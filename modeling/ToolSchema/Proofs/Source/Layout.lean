import ToolSchema.Proofs.Source.Scan

/-!
# The layout of a text

What a source file documents and what a comment says is read off its lines as they are when they are
trimmed (`SameDocs.of_lines`). A line and the piece between two line feeds that it stands in differ
in blanks only, so the two readers can be handed pieces as well (`SameDocs.of_pieces`), and a text
has pieces however it ends. So none of these has a say: how far a line is indented, what blanks stand
behind it, whether a carriage return is part of its end, and whether the last line has an end.
-/

namespace ToolSchema

/-! ### Texts that are laid out differently -/

/-- The two texts have as many lines, and each line of one is the same as that line of the other but
for blanks at its ends. -/
def SameLines (x y : String) : Prop :=
  (lines x.toList).map trim = (lines y.toList).map trim

/-- The two texts are the same but for the blanks that their lines start with. -/
def SameButIndentation (x y : String) : Prop :=
  (piecesAt '\n' x.toList).map trimStart = (piecesAt '\n' y.toList).map trimStart

instance (x y : String) : Decidable (SameLines x y) := inferInstanceAs (Decidable (_ = _))

instance (x y : String) : Decidable (SameButIndentation x y) := inferInstanceAs (Decidable (_ = _))

/-- A text with a carriage return before each line feed, as characters. -/
def addReturns (cs : List Char) : List Char :=
  cs.flatMap fun c ↦ if c = '\n' then ['\r', '\n'] else [c]

/-- The text with all its line ends made of a carriage return and a line feed. -/
def withReturns (x : String) : String := String.ofList (addReturns x.toList)

/-- **The two texts are read alike**: they have the same documentation at the same lines if they are
source files, and if they are comments they say the same. -/
structure SameDocs (x y : String) : Prop where
  source : FileDocs.parse x = FileDocs.parse y
  comment : DocComment.parse x = DocComment.parse y

/-! ### Lines and pieces -/

variable {x y : String}

/-- **Blanks at the ends of lines do not matter.** -/
theorem SameDocs.of_lines (h : SameLines x y) : SameDocs x y := by
  have hlines : List.Forall₂ SameLine (lines x.toList) (lines y.toList) :=
    forall₂_sameLine_of_map_trim_eq h (fun _ ↦ newline_notMem_of_mem_lines)
      (fun _ ↦ newline_notMem_of_mem_lines)
  have hblocks : ({} : ScanState).blocks 1 (lines x.toList) =
      ({} : ScanState).blocks 1 (lines y.toList) :=
    ScanState.blocks_congr 1 ⟨rfl, .nil⟩ hlines
  constructor
  · exact congrArg (fun blocks ↦ FileDocs.mk (FileDocs.numbered blocks)) hblocks
  · rw [DocComment.parse, DocComment.parse, DocComment.ofChars, Line.map_ofChars_congr hlines]
    rfl

/-- The same for the pieces of a text. -/
theorem SameDocs.of_pieces
    (h : (piecesAt '\n' x.toList).map trim = (piecesAt '\n' y.toList).map trim) :
    SameDocs x y := by
  have hpieces : List.Forall₂ SameLine (piecesAt '\n' x.toList) (piecesAt '\n' y.toList) :=
    forall₂_sameLine_of_map_trim_eq h (fun _ ↦ notMem_of_mem_piecesAt)
      (fun _ ↦ notMem_of_mem_piecesAt)
  constructor
  · rw [FileDocs.parse, FileDocs.parse, FileDocs.ofChars_eq_blocks, FileDocs.ofChars_eq_blocks,
      ScanState.blocks_congr 1 ⟨rfl, .nil⟩ hpieces]
  · rw [DocComment.parse, DocComment.parse, DocComment.ofChars_eq_ofOutline,
      DocComment.ofChars_eq_ofOutline, Line.map_ofChars_congr hpieces]

/-! ### Line ends -/

theorem SameDocs.of_indentation (h : SameButIndentation x y) : SameDocs x y := by
  have htrim := congrArg (List.map trimEnd) h
  rw [List.map_map, List.map_map] at htrim
  exact .of_pieces htrim

/-- A carriage return before a line feed ends a piece, and is blank. -/
theorem map_trimEnd_piecesAt_addReturns (cs : List Char) :
    (piecesAt '\n' (addReturns cs)).map trimEnd = (piecesAt '\n' cs).map trimEnd := by
  induction cs with
  | nil => rfl
  | cons c cs ih =>
    by_cases hc : c = '\n'
    · have hadd : addReturns (c :: cs) = ['\r'] ++ '\n' :: addReturns cs := by
        simp [addReturns, hc]
      rw [hadd, piecesAt_append_mark, hc, piecesAt_cons_mark, List.map_append, ih]
      rfl
    · have hadd : addReturns (c :: cs) = c :: addReturns cs := by simp [addReturns, hc]
      obtain ⟨piece, pieces, hpieces⟩ := exists_piecesAt_eq_cons '\n' cs
      obtain ⟨piece', pieces', hpieces'⟩ := exists_piecesAt_eq_cons '\n' (addReturns cs)
      rw [hpieces, hpieces', List.map_cons, List.map_cons] at ih
      obtain ⟨hpiece, hrest⟩ := List.cons.inj ih
      rw [hadd, piecesAt_cons_of_ne hc hpieces, piecesAt_cons_of_ne hc hpieces', List.map_cons,
        List.map_cons, hrest, trimEnd_cons_congr c hpiece]

theorem sameDocs_withReturns (x : String) : SameDocs (withReturns x) x := by
  refine .of_pieces (map_trim_eq_of_map_trimEnd_eq ?_)
  rw [withReturns, String.toList_ofList, map_trimEnd_piecesAt_addReturns]

/-- The piece behind the last line feed is blank, and no line of code or of a description. -/
theorem sameDocs_append_newline (x : String) : SameDocs (x ++ "\n") x := by
  have hpieces : piecesAt '\n' (x ++ "\n").toList = piecesAt '\n' x.toList ++ [[]] := by
    rw [String.toList_append]
    exact piecesAt_append_mark '\n' x.toList []
  constructor
  · rw [FileDocs.parse, FileDocs.parse, FileDocs.ofChars_eq_blocks, FileDocs.ofChars_eq_blocks,
      hpieces, ScanState.blocks_append_blank]
  · have hblank : [([] : List Char)].map Line.ofChars = [.blank] := rfl
    rw [DocComment.parse, DocComment.parse, DocComment.ofChars_eq_ofOutline,
      DocComment.ofChars_eq_ofOutline, hpieces, List.map_append, hblank,
      Outline.ofLines_append_blank, DocComment.ofOutline_blankEnded]

/-- **The layout of a text does not matter.** Two texts are read alike if their lines are the same
but for the blanks at their ends. So a text is read as it is when it is indented in another way, when
its lines end in carriage returns as well, and when its last line is ended. -/
theorem parse_layout :
    (∀ x y, SameLines x y → SameDocs x y) ∧
    (∀ x y, SameButIndentation x y → SameDocs x y) ∧
    (∀ x, SameDocs (withReturns x) x) ∧
    ∀ x, SameDocs (x ++ "\n") x :=
  ⟨fun _ _ ↦ .of_lines, fun _ _ ↦ .of_indentation, sameDocs_withReturns, sameDocs_append_newline⟩

/-- A block and its function, written with other blanks. -/
theorem parse_layout_indented :
    SameLines "  /// Adds.\n\t/// @param x [Integer] How.\nfn add(x: i64) {}"
        "/// Adds. \r\n/// @param x [Integer] How.\t\r\n  fn add(x: i64) {}\n" ∧
      SameButIndentation "/// Adds.\nfn add() {}\n" "\t/// Adds.\n\tfn add() {}\n  " ∧
      SameDocs "  /// Adds.\n\t/// @param x [Integer] How.\nfn add(x: i64) {}"
        "/// Adds. \r\n/// @param x [Integer] How.\t\r\n  fn add(x: i64) {}\n" ∧
      SameDocs "/// Adds.\nfn add() {}\n" "\t/// Adds.\n\tfn add() {}\n  " :=
  ⟨by decide, by decide, parse_layout.1 _ _ (by decide), parse_layout.2.1 _ _ (by decide)⟩

end ToolSchema
