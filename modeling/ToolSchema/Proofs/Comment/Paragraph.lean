import ToolSchema.Proofs.Comment.Outline

/-!
# Paragraphs

A description is made of paragraphs, the runs of lines between blank ones (`paragraphs`). However
many blank lines stand between two of them, before the first or behind the last, the description has
one between any two and none at its ends (`collapse_eq_intercalate`).

So whatever is done to lines is said of paragraphs first, where blank lines have no say any more: a
blank line between two runs of lines puts the paragraphs of the one before those of the other
(`paragraphs_append_blank`), which is how two comments go together (`parse_append_paragraph`), and
paragraphs that are written out are read as those paragraphs again (`paragraphs_intercalate`).
-/

namespace ToolSchema

variable {line : List Char} {ls : List (List Char)} {p : List (List Char)}
  {ps qs : List (List (List Char))}

/-- The paragraphs of lines: the longest runs of lines between empty ones. -/
def paragraphs (ls : List (List Char)) : List (List (List Char)) :=
  (ls.splitOn []).filter fun p ↦ !p.isEmpty

/-! ### Between blank lines -/

/-- **A blank line parts paragraphs.** -/
theorem paragraphs_append_blank (ls ms : List (List Char)) :
    paragraphs (ls ++ [] :: ms) = paragraphs ls ++ paragraphs ms := by
  rw [paragraphs, List.splitOn_append_cons_self, List.filter_append]
  rfl

/-- A run between blank lines has lines of the text in it, and no blank one. -/
theorem mem_of_mem_splitOn (hp : p ∈ ls.splitOn []) (hline : line ∈ p) : line ∈ ls ∧ line ≠ [] := by
  induction ls generalizing p with
  | nil =>
    obtain rfl : p = [] := List.mem_singleton.1 hp
    exact nomatch hline
  | cons l ls ih =>
    obtain ⟨next, others, hls⟩ := List.exists_cons_of_ne_nil (List.splitOn_ne_nil [] ls)
    rw [List.splitOn_cons_eq_if_modifyHead, hls] at hp
    rw [hls] at ih
    have hlater {q : List (List Char)} (hq : q ∈ next :: others) (hline : line ∈ q) :
        line ∈ l :: ls ∧ line ≠ [] :=
      (ih hq hline).imp_left (List.mem_cons_of_mem l)
    split at hp
    · rcases List.mem_cons.1 hp with rfl | hp
      · exact nomatch hline
      · exact hlater hp hline
    · next hl =>
      rcases List.mem_cons.1 hp with rfl | hp
      · rcases List.mem_cons.1 hline with rfl | hline
        · exact ⟨List.mem_cons_self, by simpa using hl⟩
        · exact hlater List.mem_cons_self hline
      · exact hlater (List.mem_cons_of_mem _ hp) hline

theorem mem_of_mem_paragraphs (hp : p ∈ paragraphs ls) (hline : line ∈ p) :
    line ∈ ls ∧ line ≠ [] :=
  mem_of_mem_splitOn (List.mem_of_mem_filter hp) hline

theorem ne_nil_of_mem_paragraphs (hp : p ∈ paragraphs ls) : p ≠ [] := by
  simpa using (List.mem_filter.1 hp).2

/-! ### Runs of blank lines -/

/-- The first paragraph, and the others with an empty line before each. -/
theorem intercalate_cons_eq (p : List (List Char)) (ps : List (List (List Char))) :
    [[]].intercalate (p :: ps) = p ++ ps.flatMap ([] :: ·) := by
  induction ps generalizing p with
  | nil => simp
  | cons q ps ih =>
    rw [List.intercalate_cons_cons, ih, List.flatMap_cons, List.append_assoc]
    rfl

/-- Put together from the last line to the first, lines are what stands before the first blank one,
and the paragraphs behind it with a blank line before each. -/
theorem foldr_consLine {first : List (List Char)} {more : List (List (List Char))}
    (h : ls.splitOn [] = first :: more) :
    ls.foldr consLine [] = first ++ (more.filter fun p ↦ !p.isEmpty).flatMap ([] :: ·) := by
  induction ls generalizing first more with
  | nil =>
    obtain ⟨rfl, rfl⟩ := List.cons.inj h
    rfl
  | cons l ls ih =>
    obtain ⟨next, others, hls⟩ := List.exists_cons_of_ne_nil (List.splitOn_ne_nil [] ls)
    rw [List.splitOn_cons_eq_if_modifyHead, hls] at h
    rw [List.foldr_cons, ih hls]
    rcases l with - | ⟨c, l⟩
    · obtain ⟨rfl, rfl⟩ := List.cons.inj h
      rcases next with - | ⟨m, next⟩
      · -- behind the blank line stands another one, or nothing at all
        rcases hmore : others.filter fun p ↦ !p.isEmpty with - | ⟨q, qs⟩ <;> simp [consLine, hmore]
      · -- the run behind the blank line is a paragraph
        have hm : m ≠ [] := (mem_of_mem_splitOn (hls ▸ List.mem_cons_self) List.mem_cons_self).2
        obtain ⟨d, m, rfl⟩ := List.exists_cons_of_ne_nil hm
        simp [consLine]
    · obtain ⟨rfl, rfl⟩ := List.cons.inj h
      rfl

/-- A paragraph at the start is kept. -/
theorem dropWhile_isEmpty_append (hp : p ∈ paragraphs ls) (ms : List (List Char)) :
    (p ++ ms).dropWhile List.isEmpty = p ++ ms := by
  obtain ⟨l, p, rfl⟩ := List.exists_cons_of_ne_nil (ne_nil_of_mem_paragraphs hp)
  have hl : l ≠ [] := (mem_of_mem_paragraphs hp List.mem_cons_self).2
  exact List.dropWhile_cons_of_neg (by simpa using hl)

/-- **The lines of a description** are its paragraphs with one empty line between any two. -/
theorem collapse_eq_intercalate (ls : List (List Char)) :
    collapse ls = [[]].intercalate (paragraphs ls) := by
  obtain ⟨first, more, hls⟩ := List.exists_cons_of_ne_nil (List.splitOn_ne_nil [] ls)
  have hparagraphs : paragraphs ls = (first :: more).filter fun p ↦ !p.isEmpty := by
    rw [paragraphs, hls]
  rw [collapse, foldr_consLine hls]
  rcases first with - | ⟨l, first⟩
  · have hmore : paragraphs ls = more.filter fun p ↦ !p.isEmpty := hparagraphs
    rw [← hmore]
    rcases h : paragraphs ls with - | ⟨p, ps⟩
    · rfl
    · have hp : p ∈ paragraphs ls := h ▸ List.mem_cons_self
      rw [intercalate_cons_eq, List.nil_append, List.flatMap_cons, List.cons_append,
        List.dropWhile_cons_of_pos rfl, dropWhile_isEmpty_append hp]
  · have hfirst : paragraphs ls = (l :: first) :: more.filter fun p ↦ !p.isEmpty := hparagraphs
    rw [dropWhile_isEmpty_append (hfirst ▸ List.mem_cons_self), hfirst, intercalate_cons_eq]

/-- **Paragraphs that are written out are read again.** -/
theorem paragraphs_intercalate (h : ∀ p ∈ ps, p ≠ [] ∧ [] ∉ p) :
    paragraphs ([[]].intercalate ps) = ps := by
  by_cases hne : ps = []
  · rw [hne]
    rfl
  · rw [paragraphs, List.splitOn_intercalate [] (fun p hp ↦ (h p hp).2) hne, List.filter_eq_self]
    intro p hp
    simpa using (h p hp).1

theorem collapse_collapse (ls : List (List Char)) : collapse (collapse ls) = collapse ls := by
  have hparagraphs : paragraphs (collapse ls) = paragraphs ls := by
    rw [collapse_eq_intercalate]
    exact paragraphs_intercalate fun p hp ↦
      ⟨ne_nil_of_mem_paragraphs hp, fun hempty ↦ (mem_of_mem_paragraphs hp hempty).2 rfl⟩
  rw [collapse_eq_intercalate, hparagraphs, ← collapse_eq_intercalate]

/-- Lines are left out, and that is all. -/
theorem collapse_sublist (ls : List (List Char)) : (collapse ls).Sublist ls := by
  have hcons (l : List Char) (rest : List (List Char)) : (consLine l rest).Sublist (l :: rest) := by
    unfold consLine
    split
    · exact .refl _
    · next hl =>
      obtain rfl : l = [] := by simpa using hl
      split
      · exact List.nil_sublist _
      · exact List.sublist_cons_self _ _
      · exact .refl _
  have hfold : (ls.foldr consLine []).Sublist ls := by
    induction ls with
    | nil => exact .refl _
    | cons l ls ih => exact (hcons l _).trans (ih.cons_cons l)
  exact (List.dropWhile_sublist _).trans hfold

/-! ### The text of paragraphs -/

/-- Paragraphs as a text: the lines of each, and an empty line between any two. -/
def paragraphText (ps : List (List (List Char))) : List Char :=
  joinWith ['\n', '\n'] (ps.map (joinWith ['\n']))

theorem paragraphText_append (hps : ps ≠ []) (hqs : qs ≠ []) :
    paragraphText (ps ++ qs) = paragraphText ps ++ '\n' :: '\n' :: paragraphText qs := by
  rw [paragraphText, List.map_append, joinWith_append _ (by simpa using hps) (by simpa using hqs)]
  exact List.append_assoc _ _ _

/-- A blank line is what joining lines makes of the empty line between two paragraphs. -/
theorem joinWith_intercalate (h : ∀ p ∈ ps, p ≠ []) :
    joinWith ['\n'] ([[]].intercalate ps) = paragraphText ps := by
  induction ps with
  | nil => rfl
  | cons p ps ih =>
    obtain ⟨hp, hps⟩ := List.forall_mem_cons.1 h
    rcases ps with - | ⟨q, ps⟩
    · rw [List.intercalate_singleton]
      rfl
    · have hrest : [[]].intercalate (q :: ps) ≠ [] := by
        rw [intercalate_cons_eq]
        exact List.append_ne_nil_of_left_ne_nil (hps q List.mem_cons_self) _
      have hlines : [[]] ++ [[]].intercalate (q :: ps) ≠ [] := List.cons_ne_nil _ _
      rw [List.intercalate_cons_cons, List.append_assoc, joinWith_append _ hp hlines,
        List.singleton_append, joinWith_cons _ _ hrest, ih hps]
      simp [paragraphText, joinWith]

/-- Paragraphs have a text, if there are any. -/
theorem paragraphText_eq_nil_iff : paragraphText (paragraphs ls) = [] ↔ paragraphs ls = [] := by
  refine ⟨fun h ↦ ?_, fun h ↦ by rw [h]; rfl⟩
  rw [← joinWith_intercalate fun p hp ↦ ne_nil_of_mem_paragraphs hp] at h
  by_contra hne
  obtain ⟨p, ps, hps⟩ := List.exists_cons_of_ne_nil hne
  have hp : p ∈ paragraphs ls := hps ▸ List.mem_cons_self
  obtain ⟨l, p, rfl⟩ := List.exists_cons_of_ne_nil (ne_nil_of_mem_paragraphs hp)
  obtain ⟨c, l, rfl⟩ :=
    List.exists_cons_of_ne_nil (mem_of_mem_paragraphs hp List.mem_cons_self).2
  rw [hps, intercalate_cons_eq, List.cons_append, joinWith_cons_head] at h
  exact List.cons_ne_nil _ _ h

/-! ### Descriptions -/

namespace DocComment

/-- **A description is the text of its paragraphs.** -/
theorem description_ofOutline (o : Outline) :
    (ofOutline o).description = String.ofList (paragraphText (paragraphs o.prose)) := by
  rw [ofOutline, collapse_eq_intercalate,
    joinWith_intercalate fun p hp ↦ ne_nil_of_mem_paragraphs hp]

theorem description_ofOutline_eq_empty_iff (o : Outline) :
    (ofOutline o).description = "" ↔ paragraphs o.prose = [] := by
  rw [description_ofOutline, ← paragraphText_eq_nil_iff, ← String.toList_eq_nil_iff,
    String.toList_ofList]

/-- **A blank line parts two comments.** Behind one another they have the tags of the first and then
those of the second, and the paragraphs of the first and then those of the second: nothing that the
first one leaves open goes on in the second. -/
theorem parse_append_paragraph (x y : String) :
    parse (x ++ "\n\n" ++ y) =
      { description :=
          if (parse x).description = "" then (parse y).description
          else if (parse y).description = "" then (parse x).description
          else (parse x).description ++ "\n\n" ++ (parse y).description
        tags := (parse x).tags ++ (parse y).tags } := by
  have hdescription : (parse (x ++ "\n\n" ++ y)).description =
      if (parse x).description = "" then (parse y).description
      else if (parse y).description = "" then (parse x).description
      else (parse x).description ++ "\n\n" ++ (parse y).description := by
    rw [parse_append, parse, parse, ofChars_eq_ofOutline x.toList, ofChars_eq_ofOutline y.toList]
    simp only [description_ofOutline_eq_empty_iff]
    rw [description_ofOutline, description_ofOutline, description_ofOutline,
      Outline.prose_append_blank_cons, paragraphs_append_blank]
    split_ifs with hx hy
    · rw [hx, List.nil_append]
    · rw [hy, List.append_nil]
    · rw [paragraphText_append hx hy, ← String.toList_inj]
      simp
  rw [← hdescription, ← tags_parse_append]

end DocComment

end ToolSchema
