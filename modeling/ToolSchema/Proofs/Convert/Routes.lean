import ToolSchema.Declaration.Describe
import ToolSchema.Proofs.Convert.Report
import ToolSchema.Proofs.Source.DocIndex
import ToolSchema.Proofs.Source.Documented

/-!
# Three ways to a comment

The comment of a declaration can come from its source file, from its attributes, or be handed over
as a text. A report depends on the comment and not on its way (`report_function_congr`), and all
three ways give the same comment (`report_of_documented`): the file and the attributes treat the
blanks of documentation lines differently, and this is made up for when the lines are read as a
comment.
-/

namespace ToolSchema

/-! ### Reports -/

variable {config : Config} {disk disk' : Disk} {index index' : DocIndex}

/-- **A report depends on the comment**, and on what was missing on the way to it. -/
theorem report_function_congr {name : String} {params : List Param} {docs docs' : DocSource}
    (hdoc : (docs.lookUp disk index).doc = (docs'.lookUp disk' index').doc)
    (hwarnings : docs.lookupWarnings disk index = docs'.lookupWarnings disk' index') :
    ((Target.function ⟨name, params, docs⟩).convert config disk index).report =
      ((Target.function ⟨name, params, docs'⟩).convert config disk' index').report := by
  have hshape : (Target.function ⟨name, params, docs⟩).shape =
      (Target.function ⟨name, params, docs'⟩).shape := rfl
  rw [report_convert, report_convert, hshape]
  show (Except.bind _ fun ps ↦ (assemble config name (docs.lookUp disk index).doc ps).report
    (docs.lookupWarnings disk index)) = _
  rw [hdoc, hwarnings]
  rfl

/-- The comment of an inserted file is found at its line, and nothing is missing. -/
theorem lookUp_insertSource (disk : Disk) (index : DocIndex) {source : String} {n : Nat}
    {doc : DocComment} (hdoc : (FileDocs.parse source).get? n = some doc) (hn : n < 2 ^ 32)
    (file : Path) :
    (DocSource.lookUp disk (index.insertSource file source)
        (.location ⟨file, .ofNat n⟩)).doc = doc ∧
      DocSource.lookupWarnings disk (index.insertSource file source)
        (.location ⟨file, .ofNat n⟩) = [] := by
  have hline : (UInt32.ofNat n).toNat = n := UInt32.toNat_ofNat_of_lt' hn
  constructor
  · rw [DocSource.lookUp, Location.lookUp, DocIndex.lookup, DocIndex.file_insertSource]
    simp only [Except.map, hline, hdoc]
  · rw [DocSource.lookupWarnings, Location.lookupWarnings, DocIndex.file_insertSource]
    simp only [hline, hdoc, Option.isSome_some, if_true]

/-! ### The ways -/

/-- The comment of a declaration's attributes is that of its documentation lines. -/
theorem comment_of_docLines {s : DocumentedSource} {source : String} (h : IsMadeOf source s.lines)
    {attributes : List Attribute} (hattributes : Attribute.docLines attributes = s.docs) :
    ∃ text, Attribute.comment attributes = some text ∧
      DocComment.parse text = DocComment.parse (joinLines s.docs) := by
  refine ⟨String.ofList (joinWith ['\n'] (s.docs.map fun l ↦ trim l.toList)), ?_, ?_⟩
  · rw [Attribute.comment, hattributes]
    split
    · next hnil => exact absurd hnil s.docs_ne_nil
    · rfl
  · rw [DocComment.parse, String.toList_ofList]
    exact DocumentedSource.ofLines_docs h trim_trim fun _ _ ↦ mem_of_mem_trim

/-- **The three ways to a comment agree.** Take a source text in which a declaration is documented
by a block of lines, and attributes that hold the texts of these lines. The declaration stands before
the last line number, or the text has no more lines than there are numbers. What the file documents
at the declaration, what the attributes say, and the texts joined by line feeds are the same comment.
So a function has the same report, or fails with the same error, whether its comment is looked up in
the file or is handed over in either form. -/
theorem report_of_documented (s : DocumentedSource) {source : String} {attributes : List Attribute}
    (hsource : IsMadeOf source s.lines)
    (hline : s.line < 2 ^ 32 - 1 ∨ (lines source.toList).length < 2 ^ 32)
    (hattributes : Attribute.docLines attributes = s.docs) :
    (FileDocs.parse source).get? s.line = some (DocComment.parse (joinLines s.docs)) ∧
    (∃ text, Attribute.comment attributes = some text ∧
      DocComment.parse text = DocComment.parse (joinLines s.docs)) ∧
    ∀ (config : Config) (disk disk' : Disk) (index index' : DocIndex) (file : Path) (name : String)
        (params : List Param),
      let reportOf (docs : DocSource) (disk : Disk) (index : DocIndex) :=
        ((Target.function ⟨name, params, docs⟩).convert config disk index).report
      reportOf (.location ⟨file, .ofNat s.line⟩) disk (index.insertSource file source) =
          reportOf (.inline (joinLines s.docs)) disk' index' ∧
        reportOf (docSourceOf attributes) disk' index' =
          reportOf (.inline (joinLines s.docs)) disk' index' := by
  have hget := DocumentedSource.get?_documented hsource (hline.imp_right Nat.le_pred_of_lt)
  have hlt : s.line < 2 ^ 32 := by
    have hle : s.line ≤ (lines source.toList).length :=
      hsource.line_le (DocumentedSource.mem_blocks_lines hsource)
    omega
  obtain ⟨text, hcomment, htext⟩ := comment_of_docLines hsource hattributes
  refine ⟨hget, ⟨text, hcomment, htext⟩, fun config disk disk' index index' file name params ↦ ?_⟩
  intro reportOf
  constructor
  · obtain ⟨hdoc, hwarnings⟩ := lookUp_insertSource disk index hget hlt file
    exact report_function_congr hdoc hwarnings
  · rw [docSourceOf, hcomment]
    exact report_function_congr htext rfl

/-- A block with an indented line and an empty one, the first line of which ends in a carriage
return; between it and its function stand a comment and an attribute. -/
theorem report_of_documented_packed :
    let source :=
      "mod a;\n\n  /// Packs.\r\n///@param size [Set] \n///\n// No.\n#[inline]\nfn pack() {}"
    let attributes := [Attribute.doc " Packs.", .other, .doc "@param size [Set] ", .doc ""]
    let file : Path := ⟨"pack.rs"⟩
    let reportOf (docs : DocSource) (index : DocIndex) :=
      ((Target.function ⟨"pack", [⟨"size", .requiredNamed, none⟩], docs⟩).convert {}
        (Disk.ofReadings []) index).report
    (FileDocs.parse source).get? 8 = some (DocComment.parse " Packs.\n@param size [Set] \n") ∧
      reportOf (.location ⟨file, 8⟩) (DocIndex.insertSource {} file source) =
        reportOf (docSourceOf attributes) {} := by
  intro source attributes file reportOf
  let s : DocumentedSource :=
    { before := ["mod a;".toList, []]
      block := [([' ', ' '], " Packs."), ([], "@param size [Set] "), ([], "")]
      between := ["// No.".toList, "#[inline]".toList]
      declaration := "fn pack() {}".toList
      after := []
      before_ends := .inr ⟨["mod a;".toList], [], rfl, rfl, by decide⟩
      block_ne := by simp
      indent_blank := by simp
      text_head := by decide
      between_passed := by decide
      declaration_ne := by decide
      declaration_hash := by decide
      declaration_slashes := by decide }
  have hsource : IsMadeOf source s.lines := by
    have hpieces : piecesAt '\n' source.toList =
        ["mod a;".toList, [], "  /// Packs.\r".toList, "///@param size [Set] ".toList,
          "///".toList, "// No.".toList, "#[inline]".toList, "fn pack() {}".toList] := by
      simp only [source]
      decide
    rw [IsMadeOf, hpieces]
    exact .cons (.inl rfl) (.cons (.inl rfl) (.cons (.inr rfl) (.cons (.inl rfl) (.cons (.inl rfl)
      (.cons (.inl rfl) (.cons (.inl rfl) (.cons (.inl rfl) .nil)))))))
  obtain ⟨hget, -, hreport⟩ :=
    @report_of_documented s source attributes hsource (.inr (by decide)) rfl
  obtain ⟨hfile, hattributes⟩ := hreport {} (Disk.ofReadings []) (Disk.ofReadings []) {} {} file
    "pack" [⟨"size", .requiredNamed, none⟩]
  exact ⟨hget, hfile.trans hattributes.symm⟩

end ToolSchema
