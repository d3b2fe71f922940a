import ToolSchema.Proofs.Comment.Paragraph

/-!
# Where the lines of a comment belong

A comment is put together from its last line to its first, and a line is added to whatever outline
the lines behind it make up. Here the same is said about the text as a whole, without an order of
work: the head of a tag is a line of a certain form (`IsTagHead`), and a line of text belongs to the
nearest head before it, unless a blank line stands between the two (`Continues`), and else to the
description. The lines of a text are counted from zero.

The outline of lines holds, for each of these places, all lines that belong there, in their order
(`exists_placement`). The induction is on the lines: a line more in front shifts all places by one,
so that an enumeration of the lines in a place (`Enumerates`) has the new line at its start, or not.
What is not known before the next line comes are the lines at the start (`IsLeading`): they are the
body of a tag if that line is a head, and part of the description if it is blank.
-/

namespace ToolSchema

variable {cs tagName rest content : List Char} {line : Line} {l : List Char}
  {ls : List (List Char)} {i j : Nat}

/-! ### Kinds of lines -/

/-- **The line is the head of a tag.** Without the blanks around it, it is an at sign and an
identifier, and behind these is nothing, or blanks and then the rest. -/
structure IsTagHead (cs tagName rest : List Char) : Prop where
  isName : isName tagName = true
  rest_starts : startsBlank rest = false
  spelled : ∃ gap, (∀ c ∈ gap, isBlank c = true) ∧ (gap = [] → rest = []) ∧
    trim cs = '@' :: (tagName ++ (gap ++ rest))

/-- What a line of a comment is. -/
inductive IsLine (cs : List Char) : Line → Prop
  | head {tagName rest : List Char} (h : IsTagHead cs tagName rest) : IsLine cs (.head tagName rest)
  | blank (h : trim cs = []) : IsLine cs .blank
  | text (hne : trim cs ≠ []) (hhead : ∀ tagName rest, ¬ IsTagHead cs tagName rest) :
    IsLine cs (.text (trim cs))

theorem isTagHead_iff :
    IsTagHead cs tagName rest ↔ splitHead? (trim cs) = some (tagName, rest) := by
  constructor
  · rintro ⟨hname, hrest, gap, hgap, hgap', hcs⟩
    have hafter : gap ++ rest = [] ∨ startsBlank (gap ++ rest) = true := by
      rcases gap with - | ⟨c, gap⟩
      · exact .inl (hgap' rfl)
      · exact .inr (hgap c List.mem_cons_self)
    have htrim : trimStart (gap ++ rest) = rest := by
      rw [trimStart_append_of_forall_isBlank hgap, trimStart_of_startsBlank hrest]
    rw [hcs, splitHead?, splitWord?_append hname hafter, Option.map_some]
    show some (tagName, trimStart _) = _
    rw [htrim]
  · intro h
    unfold splitHead? at h
    split at h
    · next text hcs =>
      obtain ⟨⟨name, after⟩, hword, hsplit⟩ := Option.map_eq_some_iff.1 h
      obtain ⟨rfl, rfl⟩ := Prod.mk.inj hsplit
      obtain ⟨hname, hafter, rfl⟩ := splitWord?_eq_some_iff.1 hword
      obtain ⟨gap, hgap, hgap'⟩ := exists_eq_append_trimStart after
      refine ⟨hname, startsBlank_trimStart after, gap, hgap, ?_, by rw [← hgap', hcs]⟩
      rintro rfl
      rw [List.nil_append] at hgap'
      rcases hafter with rfl | hafter
      · rfl
      · rw [hgap', startsBlank_trimStart] at hafter
        exact absurd hafter Bool.false_ne_true
    · cases h

theorem isLine_iff : IsLine cs line ↔ Line.ofChars cs = line := by
  rw [Line.ofChars]
  rcases hhead : splitHead? (trim cs) with - | ⟨tagName, rest⟩
  · have hno (tagName rest : List Char) : ¬ IsTagHead cs tagName rest := by
      simp [isTagHead_iff, hhead]
    by_cases hblank : trim cs = []
    · have hempty : (trim cs).isEmpty = true := List.isEmpty_iff.2 hblank
      simp only [hempty, if_true]
      constructor
      · rintro (h | - | ⟨hne, -⟩)
        · exact absurd h (hno _ _)
        · rfl
        · exact absurd hblank hne
      · rintro rfl
        exact .blank hblank
    · have hempty : (trim cs).isEmpty = false := by simpa using hblank
      simp only [hempty, Bool.false_eq_true, if_false]
      constructor
      · rintro (h | h | -)
        · exact absurd h (hno _ _)
        · exact absurd h hblank
        · rfl
      · rintro rfl
        exact .text hblank hno
  · constructor
    · rintro (h | h | ⟨-, hno⟩)
      · obtain ⟨rfl, rfl⟩ := Prod.mk.inj (Option.some.inj (hhead.symm.trans (isTagHead_iff.1 h)))
        rfl
      · rw [h] at hhead
        cases hhead
      · exact absurd (isTagHead_iff.2 hhead) (hno _ _)
    · rintro rfl
      exact .head (isTagHead_iff.2 hhead)

/-- Line `i` is of this kind. -/
def LineAt (ls : List (List Char)) (i : Nat) (line : Line) : Prop :=
  ∃ cs, ls[i]? = some cs ∧ IsLine cs line

theorem lineAt_iff : LineAt ls i line ↔ (ls.map Line.ofChars)[i]? = some line := by
  simp [LineAt, isLine_iff]

theorem LineAt.unique {other : Line} (h : LineAt ls i line) (h' : LineAt ls i other) :
    line = other :=
  Option.some.inj ((lineAt_iff.1 h).symm.trans (lineAt_iff.1 h'))

theorem exists_lineAt (hi : i < ls.length) : ∃ line, LineAt ls i line :=
  ⟨Line.ofChars ls[i], ls[i], List.getElem?_eq_getElem hi, isLine_iff.2 rfl⟩

theorem lineAt_zero : LineAt (l :: ls) 0 line ↔ Line.ofChars l = line := by
  simp [lineAt_iff]

theorem lineAt_succ : LineAt (l :: ls) (i + 1) line ↔ LineAt ls i line := Iff.rfl

/-! ### Places -/

/-- Line `i` is the head of a tag. -/
def IsHeadAt (ls : List (List Char)) (i : Nat) : Prop :=
  ∃ tagName rest, LineAt ls i (.head tagName rest)

/-- **Line `i` continues the tag of line `j`**: that is the nearest head before it, and no blank
line stands between the two. -/
structure Continues (ls : List (List Char)) (j i : Nat) : Prop where
  before : j < i
  head : IsHeadAt ls j
  nearest : ∀ k, j < k → k < i → ¬ IsHeadAt ls k
  unbroken : ∀ k, j < k → k < i → ¬ LineAt ls k .blank

/-- Line `i` is text that belongs to the tag of line `j`. -/
def IsBodyLine (ls : List (List Char)) (j i : Nat) (content : List Char) : Prop :=
  LineAt ls i (.text content) ∧ Continues ls j i

/-- Line `i` belongs to the description: it is blank, or text that belongs to no tag. -/
def IsProseLine (ls : List (List Char)) (i : Nat) (content : List Char) : Prop :=
  LineAt ls i .blank ∧ content = [] ∨ LineAt ls i (.text content) ∧ ∀ j, ¬ Continues ls j i

theorem Continues.unique {k : Nat} (h : Continues ls j i) (h' : Continues ls k i) : j = k := by
  rcases Nat.lt_trichotomy j k with hlt | heq | hlt
  · exact absurd h'.head (h.nearest k hlt h'.before)
  · exact heq
  · exact absurd h.head (h'.nearest j hlt h.before)

/-- A place for a line. -/
inductive LinePlace where
  /-- The tag whose head is this line. -/
  | tag (head : Nat)
  | description

/-- The line has this place. -/
inductive BelongsTo (ls : List (List Char)) (i : Nat) : LinePlace → Prop
  | head (h : IsHeadAt ls i) : BelongsTo ls i (.tag i)
  | body {j : Nat} {content : List Char} (h : IsBodyLine ls j i content) : BelongsTo ls i (.tag j)
  | prose {content : List Char} (h : IsProseLine ls i content) : BelongsTo ls i .description

theorem IsHeadAt.not_isBodyLine (h : IsHeadAt ls i) : ¬ IsBodyLine ls j i content := by
  obtain ⟨tagName, rest, hline⟩ := h
  exact fun hbody ↦ nomatch hline.unique hbody.1

theorem IsHeadAt.not_isProseLine (h : IsHeadAt ls i) : ¬ IsProseLine ls i content := by
  obtain ⟨tagName, rest, hline⟩ := h
  rintro (⟨hblank, -⟩ | ⟨htext, -⟩)
  · exact nomatch hline.unique hblank
  · exact nomatch hline.unique htext

theorem IsBodyLine.not_isProseLine {other : List Char} (h : IsBodyLine ls j i content) :
    ¬ IsProseLine ls i other := by
  rintro (⟨hblank, -⟩ | ⟨-, hnone⟩)
  · exact nomatch hblank.unique h.1
  · exact hnone j h.2

/-- A line has one place at most. -/
theorem BelongsTo.unique {place other : LinePlace} (h : BelongsTo ls i place)
    (h' : BelongsTo ls i other) : place = other := by
  cases h with
  | head h =>
    cases h' with
    | head => rfl
    | body h' => exact absurd h' h.not_isBodyLine
    | prose h' => exact absurd h' h.not_isProseLine
  | body h =>
    cases h' with
    | head h' => exact absurd h h'.not_isBodyLine
    | body h' => rw [h.2.unique h'.2]
    | prose h' => exact absurd h' h.not_isProseLine
  | prose h =>
    cases h' with
    | head h' => exact absurd h h'.not_isProseLine
    | body h' => exact absurd h h'.not_isProseLine
    | prose => rfl

/-- **Every line has one place.** -/
theorem existsUnique_belongsTo (hi : i < ls.length) : ∃! place, BelongsTo ls i place := by
  refine existsUnique_of_exists_of_unique ?_ fun _ _ ↦ BelongsTo.unique
  obtain ⟨line, hline⟩ := exists_lineAt hi
  cases line with
  | head tagName rest => exact ⟨_, .head ⟨tagName, rest, hline⟩⟩
  | blank => exact ⟨_, .prose (.inl ⟨hline, rfl⟩)⟩
  | text content =>
    by_cases htag : ∃ j, Continues ls j i
    · obtain ⟨j, hj⟩ := htag
      exact ⟨_, .body ⟨hline, hj⟩⟩
    · exact ⟨_, .prose (.inr ⟨hline, not_exists.1 htag⟩)⟩

/-! ### All lines in a place -/

/-- **The entries are all lines for which something holds**, each with what it holds of, in the
order of the lines. -/
structure Enumerates {α : Type} (entries : List (Nat × α)) (P : Nat → α → Prop) : Prop where
  ascending : entries.Pairwise fun a b ↦ a.1 < b.1
  mem_iff : ∀ i x, (i, x) ∈ entries ↔ P i x

/-- The entries when a line is put in front. -/
def shifted {α : Type} (entries : List (Nat × α)) : List (Nat × α) :=
  entries.map fun e ↦ (e.1 + 1, e.2)

@[simp] theorem map_shifted {α β : Type} (f : Nat × α → β) (entries : List (Nat × α)) :
    (shifted entries).map f = entries.map fun e ↦ f (e.1 + 1, e.2) :=
  List.map_map

namespace Enumerates

variable {α : Type} {P Q : Nat → α → Prop} {es fs : List (Nat × α)}

theorem nil (h : ∀ i x, ¬ P i x) : Enumerates [] P := ⟨.nil, fun i x ↦ by simp [h]⟩

theorem congr (h : Enumerates es P) (hPQ : ∀ i x, P i x ↔ Q i x) : Enumerates es Q :=
  ⟨h.ascending, fun i x ↦ (h.mem_iff i x).trans (hPQ i x)⟩

theorem mem_shifted {i : Nat} {x : α} : (i, x) ∈ shifted es ↔ ∃ k, i = k + 1 ∧ (k, x) ∈ es := by
  simp only [shifted, List.mem_map, Prod.mk.injEq, Prod.exists]
  constructor
  · rintro ⟨k, y, hk, rfl, rfl⟩
    exact ⟨k, rfl, hk⟩
  · rintro ⟨k, rfl, hk⟩
    exact ⟨k, x, hk, rfl, rfl⟩

/-- A line in front for which it does not hold. -/
theorem skip (h : Enumerates es fun i ↦ P (i + 1)) (hzero : ∀ x, ¬ P 0 x) :
    Enumerates (shifted es) P where
  ascending := by
    rw [shifted, List.pairwise_map]
    exact h.ascending.imp fun hlt ↦ Nat.succ_lt_succ hlt
  mem_iff i x := by
    rw [mem_shifted]
    rcases i with - | i
    · simp [hzero]
    · simp [h.mem_iff]

/-- A line in front for which it holds. -/
theorem cons {x : α} (h : Enumerates es fun i ↦ P (i + 1)) (hzero : ∀ y, P 0 y ↔ y = x) :
    Enumerates ((0, x) :: shifted es) P where
  ascending := by
    refine List.pairwise_cons.2 ⟨fun e he ↦ ?_, ?_⟩
    · obtain ⟨k, hk, -⟩ := mem_shifted.1 (show (e.1, e.2) ∈ shifted es from he)
      rw [hk]
      exact Nat.succ_pos k
    · rw [shifted, List.pairwise_map]
      exact h.ascending.imp fun hlt ↦ Nat.succ_lt_succ hlt
  mem_iff i y := by
    rw [List.mem_cons, mem_shifted]
    rcases i with - | i
    · simp [hzero]
    · simp [h.mem_iff]

/-- Lines of two kinds, those of the first before those of the second. -/
theorem append (h : Enumerates es P) (h' : Enumerates fs Q)
    (hlt : ∀ i x j y, P i x → Q j y → i < j) : Enumerates (es ++ fs) fun i x ↦ P i x ∨ Q i x where
  ascending := by
    refine List.pairwise_append.2 ⟨h.ascending, h'.ascending, fun e he f hf ↦ ?_⟩
    exact hlt e.1 e.2 f.1 f.2 ((h.mem_iff _ _).1 he) ((h'.mem_iff _ _).1 hf)
  mem_iff i x := by rw [List.mem_append, h.mem_iff, h'.mem_iff]

end Enumerates

/-! ### One more line in front -/

/-- Line `i` is text, and so are all lines before it. -/
def IsLeading (ls : List (List Char)) (i : Nat) (content : List Char) : Prop :=
  LineAt ls i (.text content) ∧ ∀ k, k < i → ¬ IsHeadAt ls k ∧ ¬ LineAt ls k .blank

theorem isHeadAt_zero : IsHeadAt (l :: ls) 0 ↔ (Line.ofChars l).isHead = true := by
  simp only [IsHeadAt, lineAt_zero]
  cases Line.ofChars l <;> simp [Line.isHead]

theorem isLeading_zero : IsLeading (l :: ls) 0 content ↔ Line.ofChars l = .text content := by
  simp [IsLeading, lineAt_zero]

theorem isLeading_succ : IsLeading (l :: ls) (i + 1) content ↔
    (∃ content, Line.ofChars l = .text content) ∧ IsLeading ls i content := by
  have hzero : (∃ content, Line.ofChars l = .text content) ↔
      ¬ IsHeadAt (l :: ls) 0 ∧ ¬ LineAt (l :: ls) 0 .blank := by
    rw [isHeadAt_zero, lineAt_zero]
    cases Line.ofChars l <;> simp [Line.isHead]
  rw [hzero, IsLeading, Nat.forall_lt_succ_left, lineAt_succ, IsLeading]
  exact and_left_comm

/-- Between two lines, all numbers are shifted. -/
theorem forall_between_succ {P : Nat → Prop} :
    (∀ k, j + 1 < k → k < i + 1 → P k) ↔ ∀ k, j < k → k < i → P (k + 1) := by
  refine ⟨fun h k hjk hki ↦ h (k + 1) (by omega) (by omega), fun h k hjk hki ↦ ?_⟩
  obtain ⟨k, rfl⟩ := Nat.exists_eq_succ_of_ne_zero (Nat.ne_zero_of_lt hjk)
  exact h k (by omega) (by omega)

theorem continues_succ : Continues (l :: ls) (j + 1) (i + 1) ↔ Continues ls j i := by
  constructor
  · rintro ⟨hlt, hhead, hnearest, hunbroken⟩
    exact ⟨Nat.lt_of_succ_lt_succ hlt, hhead, forall_between_succ.1 hnearest,
      forall_between_succ.1 hunbroken⟩
  · rintro ⟨hlt, hhead, hnearest, hunbroken⟩
    exact ⟨Nat.succ_lt_succ hlt, hhead, forall_between_succ.2 hnearest,
      forall_between_succ.2 hunbroken⟩

/-- Right behind a head, the lines of text at the start continue its tag. -/
theorem continues_zero_succ : Continues (l :: ls) 0 (i + 1) ↔
    IsHeadAt (l :: ls) 0 ∧ ∀ k, k < i → ¬ IsHeadAt ls k ∧ ¬ LineAt ls k .blank := by
  constructor
  · rintro ⟨-, hhead, hnearest, hunbroken⟩
    exact ⟨hhead, fun k hk ↦ ⟨hnearest (k + 1) (Nat.succ_pos k) (Nat.succ_lt_succ hk),
      hunbroken (k + 1) (Nat.succ_pos k) (Nat.succ_lt_succ hk)⟩⟩
  · rintro ⟨hhead, hbetween⟩
    have hshift {k : Nat} (hpos : 0 < k) (hk : k < i + 1) : ∃ m, m < i ∧ k = m + 1 :=
      ⟨k - 1, by omega, by omega⟩
    refine ⟨Nat.succ_pos i, hhead, fun k hpos hk ↦ ?_, fun k hpos hk ↦ ?_⟩
    · obtain ⟨m, hm, rfl⟩ := hshift hpos hk
      exact (hbetween m hm).1
    · obtain ⟨m, hm, rfl⟩ := hshift hpos hk
      exact (hbetween m hm).2

theorem isBodyLine_zero_succ : IsBodyLine (l :: ls) 0 (i + 1) content ↔
    IsHeadAt (l :: ls) 0 ∧ IsLeading ls i content := by
  rw [IsBodyLine, continues_zero_succ, lineAt_succ, IsLeading]
  exact and_left_comm

theorem isBodyLine_succ_succ :
    IsBodyLine (l :: ls) (j + 1) (i + 1) content ↔ IsBodyLine ls j i content := by
  rw [IsBodyLine, continues_succ, lineAt_succ, IsBodyLine]

theorem not_isBodyLine_zero : ¬ IsBodyLine ls j 0 content := fun h ↦
  Nat.not_lt_zero j h.2.before

theorem isProseLine_zero : IsProseLine (l :: ls) 0 content ↔
    Line.ofChars l = .blank ∧ content = [] ∨ Line.ofChars l = .text content := by
  have hnone (j : Nat) : ¬ Continues (l :: ls) j 0 := fun h ↦ Nat.not_lt_zero j h.before
  simp [IsProseLine, lineAt_zero, hnone]

/-- The lines at the start are not part of a description that is put behind a head. -/
theorem isProseLine_succ : IsProseLine (l :: ls) (i + 1) content ↔
    IsProseLine ls i content ∧ ¬ (IsHeadAt (l :: ls) 0 ∧ IsLeading ls i content) := by
  have hall : (∀ j, ¬ Continues (l :: ls) j (i + 1)) ↔
      ¬ Continues (l :: ls) 0 (i + 1) ∧ ∀ j, ¬ Continues ls j i := by
    rw [← Nat.and_forall_add_one]
    simp only [continues_succ]
  rw [IsProseLine, hall, continues_zero_succ, lineAt_succ, lineAt_succ, IsProseLine, IsLeading]
  constructor
  · rintro (⟨hblank, hempty⟩ | ⟨htext, hzero, hnone⟩)
    · exact ⟨.inl ⟨hblank, hempty⟩, fun h ↦ nomatch hblank.unique h.2.1⟩
    · exact ⟨.inr ⟨htext, hnone⟩, fun h ↦ hzero ⟨h.1, h.2.2⟩⟩
  · rintro ⟨⟨hblank, hempty⟩ | ⟨htext, hnone⟩, hzero⟩
    · exact .inl ⟨hblank, hempty⟩
    · exact .inr ⟨htext, fun h ↦ hzero ⟨h.1, htext, h.2⟩, hnone⟩

/-! ### Outlines -/

/-- Line `i` belongs to the description wherever the lines are put. -/
def IsProseBehind (ls : List (List Char)) (i : Nat) (content : List Char) : Prop :=
  IsProseLine ls i content ∧ ¬ IsLeading ls i content

theorem IsLeading.isProseLine (h : IsLeading ls i content) : IsProseLine ls i content :=
  .inr ⟨h.1, fun _ hj ↦ (h.2 _ hj.before).1 hj.head⟩

theorem isProseLine_iff :
    IsProseLine ls i content ↔ IsLeading ls i content ∨ IsProseBehind ls i content := by
  constructor
  · intro h
    by_cases hleading : IsLeading ls i content
    · exact .inl hleading
    · exact .inr ⟨h, hleading⟩
  · rintro (h | h)
    · exact h.isProseLine
    · exact h.1

/-- The lines at the start stand before all other lines of the description. -/
theorem IsLeading.lt (h : IsLeading ls i content) {other : List Char}
    (h' : IsProseBehind ls j other) : i < j := by
  obtain ⟨hprose, hnot⟩ := h'
  by_contra hle
  rcases hprose with ⟨hblank, -⟩ | ⟨htext, -⟩
  · rcases Nat.lt_or_eq_of_le (Nat.le_of_not_lt hle) with hlt | rfl
    · exact (h.2 j hlt).2 hblank
    · exact nomatch hblank.unique h.1
  · exact hnot ⟨htext, fun k hk ↦ h.2 k (by omega)⟩

/-- The lines of each tag, when a line is put in front that has these lines behind it. -/
def bodiesBehind (first : List (Nat × List Char)) (body : Nat → List (Nat × List Char)) :
    Nat → List (Nat × List Char)
  | 0 => first
  | j + 1 => shifted (body j)

theorem enumerates_bodiesBehind {first : List (Nat × List Char)}
    {body : Nat → List (Nat × List Char)} (hfirst : Enumerates first (IsBodyLine (l :: ls) 0))
    (hbody : ∀ j, Enumerates (body j) (IsBodyLine ls j)) (j : Nat) :
    Enumerates (bodiesBehind first body j) (IsBodyLine (l :: ls) j) := by
  rcases j with - | j
  · exact hfirst
  · exact ((hbody j).congr fun _ _ ↦ isBodyLine_succ_succ.symm).skip fun _ ↦ not_isBodyLine_zero

/-- **The lines of a text by their places.** -/
structure Placement (ls : List (List Char)) where
  /-- Names and rests of the heads. -/
  heads : List (Nat × List Char × List Char)
  /-- The text that belongs to the tag of a line. -/
  body : Nat → List (Nat × List Char)
  /-- The lines of text at the start. -/
  leading : List (Nat × List Char)
  /-- The other lines of the description. -/
  behind : List (Nat × List Char)
  heads_all : Enumerates heads fun i h ↦ LineAt ls i (.head h.1 h.2)
  body_all : ∀ j, Enumerates (body j) (IsBodyLine ls j)
  leading_all : Enumerates leading (IsLeading ls)
  behind_all : Enumerates behind (IsProseBehind ls)

namespace Placement

/-- The outline that holds the lines by their places. -/
def outline (p : Placement ls) : Outline where
  run := p.leading.map Prod.snd
  description := p.behind.map Prod.snd
  tags := p.heads.map fun h ↦ (h.2.1, joinBody (h.2.2 :: (p.body h.1).map Prod.snd))

theorem prose_all (p : Placement ls) : Enumerates (p.leading ++ p.behind) (IsProseLine ls) :=
  (p.leading_all.append p.behind_all fun _ _ _ _ h h' ↦ h.lt h').congr fun _ _ ↦
    isProseLine_iff.symm

/-- No lines. -/
def nil : Placement [] where
  heads := []
  body _ := []
  leading := []
  behind := []
  heads_all := .nil fun i h hline ↦ by simp [LineAt] at hline
  body_all j := .nil fun i x hline ↦ by simp [IsBodyLine, LineAt] at hline
  leading_all := .nil fun i x hline ↦ by simp [IsLeading, LineAt] at hline
  behind_all := .nil fun i x hline ↦ by simp [IsProseBehind, IsProseLine, LineAt] at hline

/-- A head in front: its body are the lines at the start. -/
def consHead (p : Placement ls) {tagName rest : List Char}
    (hl : Line.ofChars l = .head tagName rest) : Placement (l :: ls) :=
  have hhead : IsHeadAt (l :: ls) 0 := isHeadAt_zero.2 (by rw [hl]; rfl)
  { heads := (0, tagName, rest) :: shifted p.heads
    body := bodiesBehind (shifted p.leading) p.body
    leading := []
    behind := shifted p.behind
    heads_all := p.heads_all.cons fun h ↦ by simp [lineAt_zero, hl, Prod.ext_iff, eq_comm]
    body_all := by
      refine enumerates_bodiesBehind (Enumerates.skip ?_ fun _ ↦ not_isBodyLine_zero) p.body_all
      exact p.leading_all.congr fun i x ↦ by simp [isBodyLine_zero_succ, hhead]
    leading_all := .nil fun i x ↦ by cases i <;> simp [isLeading_zero, isLeading_succ, hl]
    behind_all := by
      refine Enumerates.skip (p.behind_all.congr fun i x ↦ ?_) fun x ↦ ?_
      · simp [IsProseBehind, isProseLine_succ, isLeading_succ, hl, hhead]
      · simp [IsProseBehind, isProseLine_zero, hl] }

/-- A blank line in front: the lines at the start belong to the description. -/
def consBlank (p : Placement ls) (hl : Line.ofChars l = .blank) : Placement (l :: ls) :=
  have hhead : ¬ IsHeadAt (l :: ls) 0 := by simp [isHeadAt_zero, hl, Line.isHead]
  { heads := shifted p.heads
    body := bodiesBehind [] p.body
    leading := []
    behind := (0, []) :: shifted (p.leading ++ p.behind)
    heads_all := p.heads_all.skip fun h ↦ by simp [lineAt_zero, hl]
    body_all := enumerates_bodiesBehind (.nil fun i x h ↦ hhead h.2.head) p.body_all
    leading_all := .nil fun i x ↦ by cases i <;> simp [isLeading_zero, isLeading_succ, hl]
    behind_all := by
      refine Enumerates.cons (p.prose_all.congr fun i x ↦ ?_) fun x ↦ ?_
      · simp [IsProseBehind, isProseLine_succ, isLeading_succ, hl, hhead]
      · simp [IsProseBehind, isProseLine_zero, isLeading_zero, hl] }

/-- Text in front is one more line at the start. -/
def consText (p : Placement ls) {content : List Char} (hl : Line.ofChars l = .text content) :
    Placement (l :: ls) :=
  have hhead : ¬ IsHeadAt (l :: ls) 0 := by simp [isHeadAt_zero, hl, Line.isHead]
  { heads := shifted p.heads
    body := bodiesBehind [] p.body
    leading := (0, content) :: shifted p.leading
    behind := shifted p.behind
    heads_all := p.heads_all.skip fun h ↦ by simp [lineAt_zero, hl]
    body_all := enumerates_bodiesBehind (.nil fun i x h ↦ hhead h.2.head) p.body_all
    leading_all := by
      refine Enumerates.cons (p.leading_all.congr fun i x ↦ ?_) fun x ↦ ?_
      · simp [isLeading_succ, hl]
      · simp [isLeading_zero, hl, eq_comm]
    behind_all := by
      refine Enumerates.skip (p.behind_all.congr fun i x ↦ ?_) fun x ↦ ?_
      · simp [IsProseBehind, isProseLine_succ, isLeading_succ, hl, hhead]
      · simp [IsProseBehind, isProseLine_zero, isLeading_zero, hl] }

end Placement

/-- **The outline of lines holds them by their places.** -/
theorem exists_placement (ls : List (List Char)) :
    ∃ p : Placement ls, Outline.ofLines (ls.map Line.ofChars) = p.outline := by
  induction ls with
  | nil => exact ⟨.nil, rfl⟩
  | cons l ls ih =>
    obtain ⟨p, hp⟩ := ih
    rw [List.map_cons]
    show ∃ q : Placement (l :: ls),
      Outline.cons (Line.ofChars l) (Outline.ofLines (ls.map Line.ofChars)) = _
    rw [hp]
    rcases hl : Line.ofChars l with ⟨tagName, rest⟩ | - | content
    · refine ⟨p.consHead hl, ?_⟩
      simp [Placement.outline, Placement.consHead, Outline.cons, bodiesBehind]
    · refine ⟨p.consBlank hl, ?_⟩
      simp [Placement.outline, Placement.consBlank, Outline.cons, bodiesBehind]
    · refine ⟨p.consText hl, ?_⟩
      simp [Placement.outline, Placement.consText, Outline.cons, bodiesBehind]

/-- **What becomes of the lines of a comment.** Every line has one place. The tags are those of the
heads, in their order, and the body of each is the rest of its head and the lines that belong to it,
in their order. The description is made of the blank lines and the lines that belong to no tag, in
their order: of the paragraphs among these. -/
theorem DocComment.parse_places (text : String) :
    (∀ i : Fin (lines text.toList).length, ∃! place, BelongsTo (lines text.toList) i place) ∧
    ∃ (heads : List (Nat × List Char × List Char)) (body : Nat → List (Nat × List Char))
      (prose : List (Nat × List Char)),
      Enumerates heads (fun i h ↦ LineAt (lines text.toList) i (.head h.1 h.2)) ∧
      (∀ j, Enumerates (body j) (IsBodyLine (lines text.toList) j)) ∧
      Enumerates prose (IsProseLine (lines text.toList)) ∧
      parse text =
        { description := String.ofList (paragraphText (paragraphs (prose.map Prod.snd)))
          tags := heads.map fun h ↦
            Tag.ofBody h.2.1 (joinBody (h.2.2 :: (body h.1).map Prod.snd)) } := by
  refine ⟨fun i ↦ existsUnique_belongsTo i.isLt, ?_⟩
  obtain ⟨p, hp⟩ := exists_placement (lines text.toList)
  have hprose : p.outline.prose = (p.leading ++ p.behind).map Prod.snd := List.map_append.symm
  refine ⟨p.heads, p.body, p.leading ++ p.behind, p.heads_all, p.body_all, p.prose_all, ?_⟩
  rw [parse, ofChars, hp, ← hprose, ← description_ofOutline]
  simp [ofOutline, Placement.outline]

end ToolSchema
