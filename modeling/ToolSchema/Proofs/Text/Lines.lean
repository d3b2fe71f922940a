import Mathlib.Data.List.Forall2
import ToolSchema.Proofs.Text.Trim
import ToolSchema.Text.Lines
import ToolSchema.Text.Pieces

/-!
# Lines as pieces

Lines and the pieces between line feeds differ in two things: a line has lost the carriage return
before its end, and the empty text behind the last line feed is a piece but no line. Whoever trims
lines and has no use for a blank one at the end can take the pieces for the lines
(`map_trimEnd_piecesAt`), and pieces are the better of the two to reason about, because they go
together with joining (`piecesAt_joinWith`).
-/

namespace ToolSchema

/-! ### Pieces of joined texts -/

theorem piecesAt_cons_mark (mark : Char) (cs : List Char) :
    piecesAt mark (mark :: cs) = [] :: piecesAt mark cs := by
  rw [piecesAt, if_pos (beq_self_eq_true mark)]

/-- A character that is no mark belongs to the first piece. -/
theorem piecesAt_cons_of_ne {mark c : Char} (h : c ≠ mark) {cs piece : List Char}
    {pieces : List (List Char)} (hcs : piecesAt mark cs = piece :: pieces) :
    piecesAt mark (c :: cs) = (c :: piece) :: pieces := by
  rw [piecesAt, if_neg (by simpa using h), hcs]

/-- So do characters among which is no mark. -/
theorem piecesAt_append_of_notMem {mark : Char} {cs ds piece : List Char}
    {pieces : List (List Char)} (hcs : mark ∉ cs) (hds : piecesAt mark ds = piece :: pieces) :
    piecesAt mark (cs ++ ds) = (cs ++ piece) :: pieces := by
  induction cs with
  | nil => exact hds
  | cons c cs ih =>
    obtain ⟨hc, hcs⟩ := not_or.1 (List.mem_cons.not.1 hcs)
    exact piecesAt_cons_of_ne (Ne.symm hc) (ih hcs)

theorem exists_piecesAt_eq_cons (mark : Char) (cs : List Char) :
    ∃ piece pieces, piecesAt mark cs = piece :: pieces :=
  List.exists_cons_of_ne_nil (piecesAt_ne_nil mark cs)

/-- A mark between two texts parts their pieces. -/
theorem piecesAt_append_mark (mark : Char) (cs ds : List Char) :
    piecesAt mark (cs ++ mark :: ds) = piecesAt mark cs ++ piecesAt mark ds := by
  induction cs with
  | nil => exact piecesAt_cons_mark mark ds
  | cons c cs ih =>
    by_cases hc : c = mark
    · rw [hc, List.cons_append, piecesAt_cons_mark, piecesAt_cons_mark, ih, List.cons_append]
    · obtain ⟨piece, pieces, h⟩ := exists_piecesAt_eq_cons mark cs
      rw [h, List.cons_append] at ih
      rw [List.cons_append, piecesAt_cons_of_ne hc ih, piecesAt_cons_of_ne hc h, List.cons_append]

/-- There is one piece more than there are marks. -/
theorem length_piecesAt (mark : Char) (cs : List Char) :
    (piecesAt mark cs).length = cs.count mark + 1 := by
  induction cs with
  | nil => rfl
  | cons c cs ih =>
    by_cases hc : c = mark
    · rw [hc, piecesAt_cons_mark, List.length_cons, ih, List.count_cons_self]
    · obtain ⟨piece, pieces, h⟩ := exists_piecesAt_eq_cons mark cs
      rw [h] at ih
      rw [piecesAt_cons_of_ne hc h, List.count_cons_of_ne hc]
      exact ih

/-- A text without a mark is its only piece. -/
theorem piecesAt_of_notMem {mark : Char} {cs : List Char} (h : mark ∉ cs) :
    piecesAt mark cs = [cs] := by
  simpa using piecesAt_append_of_notMem h (show piecesAt mark [] = [[]] from rfl)

theorem flatMap_piecesAt_of_notMem {mark : Char} {ts : List (List Char)}
    (h : ∀ t ∈ ts, mark ∉ t) : ts.flatMap (piecesAt mark) = ts := by
  rw [List.flatMap_congr fun t ht ↦ piecesAt_of_notMem (h t ht), List.flatMap_singleton']

/-- **The pieces of joined texts** are the pieces of each of them. -/
theorem piecesAt_joinWith (mark : Char) {ts : List (List Char)} (h : ts ≠ []) :
    piecesAt mark (joinWith [mark] ts) = ts.flatMap (piecesAt mark) := by
  induction ts with
  | nil => exact absurd rfl h
  | cons t ts ih =>
    rcases ts with - | ⟨u, us⟩
    · simp
    · rw [joinWith_cons _ _ (List.cons_ne_nil u us), List.append_assoc, List.singleton_append,
        piecesAt_append_mark, ih (List.cons_ne_nil u us)]
      rfl

theorem notMem_of_mem_piecesAt {mark : Char} {cs piece : List Char}
    (h : piece ∈ piecesAt mark cs) : mark ∉ piece := by
  induction cs generalizing piece with
  | nil =>
    obtain rfl : piece = [] := List.mem_singleton.1 h
    exact List.not_mem_nil
  | cons c cs ih =>
    by_cases hc : c = mark
    · rw [hc, piecesAt_cons_mark] at h
      rcases List.mem_cons.1 h with rfl | h
      · exact List.not_mem_nil
      · exact ih h
    · obtain ⟨first, pieces, hcs⟩ := exists_piecesAt_eq_cons mark cs
      rw [piecesAt_cons_of_ne hc hcs] at h
      rw [hcs] at ih
      rcases List.mem_cons.1 h with rfl | h
      · exact List.not_mem_cons_of_ne_of_not_mem (Ne.symm hc) (ih List.mem_cons_self)
      · exact ih (List.mem_cons_of_mem _ h)

/-! ### Lines -/

theorem newline_notMem_of_mem_lines {cs l : List Char} (h : l ∈ lines cs) : '\n' ∉ l := by
  fun_induction lines cs generalizing l with
  | case1 => cases h
  | case2 rest ih =>
    rcases List.mem_cons.1 h with rfl | h
    · exact List.not_mem_nil
    · exact ih h
  | case3 rest ih =>
    rcases List.mem_cons.1 h with rfl | h
    · exact List.not_mem_nil
    · exact ih h
  | case4 c rest hc _ hlines ih =>
    obtain rfl : l = [c] := List.mem_singleton.1 h
    simpa using Ne.symm hc
  | case5 c rest hc _ m ms hlines ih =>
    rw [hlines] at ih
    rcases List.mem_cons.1 h with rfl | h
    · exact List.not_mem_cons_of_ne_of_not_mem (Ne.symm hc) (ih List.mem_cons_self)
    · exact ih (List.mem_cons_of_mem _ h)

/-- **Lines are pieces**, up to blanks at their ends and an empty last piece. -/
theorem map_trimEnd_piecesAt (cs : List Char) :
    ∃ last, (last = [] ∨ last = [[]]) ∧
      (piecesAt '\n' cs).map trimEnd = (lines cs).map trimEnd ++ last := by
  fun_induction lines cs with
  | case1 => exact ⟨[[]], .inr rfl, rfl⟩
  | case2 rest ih =>
    obtain ⟨last, hlast, h⟩ := ih
    exact ⟨last, hlast, by rw [piecesAt_cons_mark, List.map_cons, h]; rfl⟩
  | case3 rest ih =>
    -- the carriage return is a piece of its own, and blank
    obtain ⟨last, hlast, h⟩ := ih
    have hpieces := piecesAt_cons_of_ne (c := '\r') (by decide) (piecesAt_cons_mark '\n' rest)
    exact ⟨last, hlast, by rw [hpieces, List.map_cons, h]; rfl⟩
  | case4 c rest hc _ hlines ih =>
    obtain ⟨piece, pieces, hp⟩ := exists_piecesAt_eq_cons '\n' rest
    obtain ⟨last, hlast, h⟩ := ih
    rw [hlines, hp, List.map_cons] at h
    -- the pieces of a text without lines are the empty one
    rcases hlast with rfl | rfl
    · cases h
    · obtain ⟨hpiece, hpieces⟩ := List.cons.inj h
      refine ⟨[], .inl rfl, ?_⟩
      rw [piecesAt_cons_of_ne hc hp, List.map_cons, hpieces,
        trimEnd_cons_congr c (hpiece.trans trimEnd_nil.symm)]
      rfl
  | case5 c rest hc _ l ls hlines ih =>
    obtain ⟨piece, pieces, hp⟩ := exists_piecesAt_eq_cons '\n' rest
    obtain ⟨last, hlast, h⟩ := ih
    rw [hlines, hp, List.map_cons, List.map_cons, List.cons_append] at h
    obtain ⟨hpiece, hpieces⟩ := List.cons.inj h
    refine ⟨last, hlast, ?_⟩
    rw [piecesAt_cons_of_ne hc hp, List.map_cons, List.map_cons, List.cons_append, hpieces,
      trimEnd_cons_congr c hpiece]

/-- The two are one line but for blanks at its ends. Neither has a line feed in it. -/
structure SameLine (l m : List Char) : Prop where
  trim_eq : trim l = trim m
  left : '\n' ∉ l
  right : '\n' ∉ m

theorem newline_notMem_of_sameLine {ls ms : List (List Char)} (h : List.Forall₂ SameLine ls ms) :
    (∀ l ∈ ls, '\n' ∉ l) ∧ ∀ m ∈ ms, '\n' ∉ m := by
  induction h with
  | nil => exact ⟨nofun, nofun⟩
  | cons hl _ ih =>
    exact ⟨List.forall_mem_cons.2 ⟨hl.left, ih.1⟩, List.forall_mem_cons.2 ⟨hl.right, ih.2⟩⟩

theorem forall₂_sameLine_of_map_trim_eq {ls ms : List (List Char)}
    (h : ls.map trim = ms.map trim) (hls : ∀ l ∈ ls, '\n' ∉ l) (hms : ∀ m ∈ ms, '\n' ∉ m) :
    List.Forall₂ SameLine ls ms := by
  induction ls generalizing ms with
  | nil =>
    obtain rfl : ms = [] := List.map_eq_nil_iff.1 h.symm
    exact .nil
  | cons l ls ih =>
    obtain ⟨m, ms, rfl, hm, hrest⟩ := List.map_eq_cons_iff.1 h.symm
    obtain ⟨hl, hls⟩ := List.forall_mem_cons.1 hls
    obtain ⟨hm', hms⟩ := List.forall_mem_cons.1 hms
    exact .cons ⟨hm.symm, hl, hm'⟩ (ih hrest.symm hls hms)

theorem map_trim_eq_of_map_trimEnd_eq {ls ms : List (List Char)}
    (h : ls.map trimEnd = ms.map trimEnd) : ls.map trim = ms.map trim := by
  have hmap (ls : List (List Char)) : ls.map trim = (ls.map trimEnd).map trim := by
    rw [List.map_map]
    exact List.map_congr_left fun l _ ↦ (trim_trimEnd l).symm
  rw [hmap ls, h, ← hmap]

end ToolSchema
