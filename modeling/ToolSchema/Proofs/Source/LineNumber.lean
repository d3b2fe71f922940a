import ToolSchema.Source.FileDocs

/-!
# Line numbers

Two lines have one number only if both are at the last number or behind it. So a file keeps its
blocks in their order (`pairwise_numbered`), and under a number it has the last block of a line with
that number (`get?_numbered_eq_some_iff`). If there is a number for each of its lines, every block
is kept as it is (`numbered_eq_self`).
-/

namespace ToolSchema

/-! ### Numbers -/

theorem lineNumber_of_le {n : Nat} (h : n ≤ lastLine) : lineNumber n = n := Nat.min_eq_left h

theorem lineNumber_mono {m n : Nat} (h : m ≤ n) : lineNumber m ≤ lineNumber n := by
  simp only [lineNumber]
  omega

/-- A number that was given before lines came above is given again. -/
theorem lineNumber_add_lineNumber (k n : Nat) :
    lineNumber (k + lineNumber n) = lineNumber (k + n) := by
  simp only [lineNumber]
  omega

/-- Lines with one number keep it in common below others. -/
theorem lineNumber_add_congr (k : Nat) {m n : Nat} (h : lineNumber m = lineNumber n) :
    lineNumber (k + m) = lineNumber (k + n) := by
  rw [← lineNumber_add_lineNumber, h, lineNumber_add_lineNumber]

/-- **A line shares its number with no later one** if it stands before the last number, or if that
later one is not behind it. -/
theorem lineNumber_ne_of_lt {m n : Nat} (h : m < lastLine ∨ n ≤ lastLine) (hlt : m < n) :
    lineNumber n ≠ lineNumber m := by
  simp only [lineNumber]
  omega

/-! ### Blocks under their numbers -/

namespace FileDocs

variable {b c : DocBlock} {bs cs : List DocBlock} {n : Nat} {d : DocComment}

theorem numbered_cons_congr (hline : lineNumber b.line = lineNumber c.line) (hdoc : b.doc = c.doc)
    (h : numbered bs = numbered cs) : numbered (b :: bs) = numbered (c :: cs) := by
  rw [numbered, numbered, hline, hdoc, h]

/-- A block gives way to a later one under its number. -/
theorem numbered_cons_of_mem (h : lineNumber b.line ∈ (numbered bs).map DocBlock.line) :
    numbered (b :: bs) = numbered bs := by
  obtain ⟨c, hc, hline⟩ := List.mem_map.1 h
  exact if_pos (List.any_eq_true.2 ⟨c, hc, by rw [hline, beq_self_eq_true]⟩)

theorem numbered_cons_of_notMem (h : lineNumber b.line ∉ (numbered bs).map DocBlock.line) :
    numbered (b :: bs) = { b with line := lineNumber b.line } :: numbered bs := by
  refine if_neg fun hany ↦ h ?_
  obtain ⟨c, hc, hline⟩ := List.any_eq_true.1 hany
  exact List.mem_map.2 ⟨c, hc, eq_of_beq hline⟩

/-- **Every number has its block**, and no other number. -/
theorem mem_map_line_numbered :
    n ∈ (numbered bs).map DocBlock.line ↔ n ∈ bs.map fun b ↦ lineNumber b.line := by
  induction bs with
  | nil => exact Iff.rfl
  | cons b bs ih =>
    rw [List.map_cons, List.mem_cons, ← ih]
    by_cases h : lineNumber b.line ∈ (numbered bs).map DocBlock.line
    · rw [numbered_cons_of_mem h]
      refine ⟨.inr, ?_⟩
      rintro (rfl | hn)
      · exact h
      · exact hn
    · rw [numbered_cons_of_notMem h, List.map_cons, List.mem_cons]

theorem get?_eq_none_iff {docs : FileDocs} : docs.get? n = none ↔ n ∉ docs.lineNumbers := by
  simp [get?, lineNumbers]

/-- The block in front is found if nothing behind it is. -/
theorem get?_numbered_cons (b : DocBlock) (bs : List DocBlock) (n : Nat) :
    (⟨numbered (b :: bs)⟩ : FileDocs).get? n = ((⟨numbered bs⟩ : FileDocs).get? n).or
      (if lineNumber b.line = n then some b.doc else none) := by
  by_cases h : lineNumber b.line ∈ (numbered bs).map DocBlock.line
  · rw [numbered_cons_of_mem h]
    by_cases hn : lineNumber b.line = n
    · have hsome : (⟨numbered bs⟩ : FileDocs).get? n ≠ none :=
        fun hnone ↦ get?_eq_none_iff.1 hnone (hn ▸ h)
      obtain ⟨d, hd⟩ := Option.ne_none_iff_exists'.1 hsome
      rw [hd, Option.some_or]
    · rw [if_neg hn, Option.or_none]
  · rw [numbered_cons_of_notMem h]
    by_cases hn : lineNumber b.line = n
    · have hnone : (⟨numbered bs⟩ : FileDocs).get? n = none := get?_eq_none_iff.2 (hn ▸ h)
      rw [hnone, Option.none_or, if_pos hn]
      simp [get?, hn]
    · rw [if_neg hn, Option.or_none]
      simp [get?, hn]

/-- **What is found under a number** is the last block of a line with that number. -/
theorem get?_numbered_eq_some_iff (h : bs.Pairwise fun b c ↦ b.line < c.line) :
    (⟨numbered bs⟩ : FileDocs).get? n = some d ↔ ∃ b ∈ bs, lineNumber b.line = n ∧ b.doc = d ∧
      ∀ c ∈ bs, b.line < c.line → lineNumber c.line ≠ n := by
  induction bs with
  | nil => exact ⟨nofun, nofun⟩
  | cons b bs ih =>
    obtain ⟨hb, hbs⟩ := List.pairwise_cons.1 h
    have hnone : (⟨numbered bs⟩ : FileDocs).get? n = none ↔
        ∀ c ∈ bs, lineNumber c.line ≠ n := by
      rw [get?_eq_none_iff, lineNumbers, mem_map_line_numbered]
      simp
    rw [get?_numbered_cons, Option.or_eq_some_iff, ih hbs, hnone]
    have hfront : (if lineNumber b.line = n then some b.doc else none) = some d ↔
        lineNumber b.line = n ∧ b.doc = d := by simp
    rw [hfront]
    constructor
    · rintro (⟨c, hc, hn, hd, hlast⟩ | ⟨hlast, hn, hd⟩)
      · -- no block stands before the one in front
        refine ⟨c, List.mem_cons_of_mem b hc, hn, hd, List.forall_mem_cons.2 ⟨?_, hlast⟩⟩
        exact fun hlt ↦ absurd hlt (Nat.lt_asymm (hb c hc))
      · refine ⟨b, List.mem_cons_self, hn, hd, List.forall_mem_cons.2 ⟨?_, fun c hc _ ↦ hlast c hc⟩⟩
        exact fun hlt ↦ absurd hlt (Nat.lt_irrefl _)
    · rintro ⟨c, hc, hn, hd, hlast⟩
      obtain ⟨-, hbehind⟩ := List.forall_mem_cons.1 hlast
      rcases List.mem_cons.1 hc with rfl | hc
      · exact .inr ⟨fun a ha ↦ hbehind a ha (hb a ha), hn, hd⟩
      · exact .inl ⟨c, hc, hn, hd, hbehind⟩

/-- **Blocks stay in the order** of their lines. -/
theorem pairwise_numbered (h : bs.Pairwise fun b c ↦ b.line < c.line) :
    (numbered bs).Pairwise fun b c ↦ b.line < c.line := by
  induction bs with
  | nil => exact .nil
  | cons b bs ih =>
    obtain ⟨hb, hbs⟩ := List.pairwise_cons.1 h
    by_cases hmem : lineNumber b.line ∈ (numbered bs).map DocBlock.line
    · rw [numbered_cons_of_mem hmem]
      exact ih hbs
    · rw [numbered_cons_of_notMem hmem]
      refine List.pairwise_cons.2 ⟨fun c hc ↦ ?_, ih hbs⟩
      have hc := List.mem_map_of_mem (f := DocBlock.line) hc
      obtain ⟨a, ha, hline⟩ := List.mem_map.1 (mem_map_line_numbered.1 hc)
      have hle := lineNumber_mono (Nat.le_of_lt (hb a ha))
      have hne : lineNumber b.line ≠ c.line := fun heq ↦ hmem (heq ▸ hc)
      show lineNumber b.line < c.line
      omega

/-- **Nothing changes** if there is a number for every line. -/
theorem numbered_eq_self (h : bs.Pairwise fun b c ↦ b.line < c.line)
    (hle : ∀ b ∈ bs, b.line ≤ lastLine) : numbered bs = bs := by
  induction bs with
  | nil => rfl
  | cons b bs ih =>
    obtain ⟨hb, hbs⟩ := List.pairwise_cons.1 h
    obtain ⟨hle, hles⟩ := List.forall_mem_cons.1 hle
    have ih := ih hbs hles
    have hmem : lineNumber b.line ∉ (numbered bs).map DocBlock.line := by
      rw [ih, lineNumber_of_le hle, List.mem_map]
      rintro ⟨c, hc, hline⟩
      exact absurd hline (Nat.ne_of_gt (hb c hc))
    rw [numbered_cons_of_notMem hmem, ih, lineNumber_of_le hle]

end FileDocs

end ToolSchema
