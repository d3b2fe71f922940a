import Mathlib.Data.List.Sort
import ToolSchema.Proofs.Source.Documented

/-!
# Which line a block belongs to

A scan decides line by line what documentation belongs to. Here the same is said about the file as a
whole, without a scan: a line of code is documented by the documentation lines between it and the
closest blank line or line of code before it (`DocsBefore`), where lines inside an attribute count
for nothing (`InsideAttribute`). The lines of a file are counted from zero in this, and from one in
what is documented.

Two invariants tie the scan to that reading. The brackets that it has open when it comes to a line
are those of an attribute that the line is inside of (`insideAttribute_iff`), and the lines that it
has found are those that stand before the line (`exists_docsBefore`). The second rests on the first,
since a line is looked at only outside of attributes.
-/

namespace ToolSchema

variable {ls : List (List Char)} {line text : List Char} {i : Nat}

/-- What a scan knows when it comes to line `i`. -/
def ScanState.before (ls : List (List Char)) (i : Nat) : ScanState := (ls.take i).foldl next {}

theorem ScanState.before_succ (h : ls[i]? = some line) :
    before ls (i + 1) = (before ls i).next line := by
  rw [before, List.take_add_one, h, List.foldl_append]
  rfl

theorem ScanState.level_before_succ (h : ls[i]? = some line) :
    (before ls (i + 1)).level = attributeLevel (before ls i).level line := by
  rw [before_succ h, level_next]

/-! ### Inside attributes -/

/-- The number of brackets open where line `stop` starts, counted from the start of line `start`. -/
def openBrackets (ls : List (List Char)) (start stop : Nat) : Nat :=
  bracketLevel 0 ((ls.take stop).drop start).flatten

/-- Line `i` starts an attribute if it is not inside one. -/
def StartsAttribute (ls : List (List Char)) (i : Nat) : Prop :=
  ∃ line, ls[i]? = some line ∧ ['#', '['] <+: trimStart line

/-- **Line `i` is inside an attribute**: an earlier line that is not starts one, and brackets are
open at the end of that line and of every line since. -/
def InsideAttribute (ls : List (List Char)) (i : Nat) : Prop :=
  ∃ start, ∃ _ : start < i, ¬ InsideAttribute ls start ∧ StartsAttribute ls start ∧
    ∀ stop, start < stop → stop ≤ i → 0 < openBrackets ls start stop
termination_by i

theorem openBrackets_self : openBrackets ls i i = 0 := by
  have hdrop : (ls.take i).drop i = [] := List.drop_eq_nil_of_le (List.length_take_le i ls)
  rw [openBrackets, hdrop]
  rfl

theorem openBrackets_succ {start : Nat} (hle : start ≤ i) (h : ls[i]? = some line) :
    openBrackets ls start (i + 1) = bracketLevel (openBrackets ls start i) line := by
  obtain ⟨hi, -⟩ := List.getElem?_eq_some_iff.1 h
  have hlength : start ≤ (ls.take i).length := by
    rw [List.length_take]
    omega
  rw [openBrackets, List.take_add_one, h, List.drop_append_of_le_length hlength,
    List.flatten_append, bracketLevel_append]
  simp [openBrackets]

/-- From the start of an attribute on, a scan counts its brackets. -/
theorem level_before_eq {start stop : Nat} (hlevel : (ScanState.before ls start).level = 0)
    (hstart : StartsAttribute ls start)
    (hopen : ∀ k, start < k → k < stop → 0 < openBrackets ls start k) (hlt : start < stop)
    (hle : stop ≤ ls.length) :
    (ScanState.before ls stop).level = openBrackets ls start stop := by
  induction stop, hlt using Nat.le_induction with
  | base =>
    obtain ⟨line, hline, hattribute⟩ := hstart
    rw [ScanState.level_before_succ hline, openBrackets_succ (Nat.le_refl _) hline,
      openBrackets_self, hlevel, ScanState.attributeLevel, if_pos (.inr hattribute)]
  | succ stop hlt ih =>
    have hline : ls[stop]? = some ls[stop] := List.getElem?_eq_getElem (by omega)
    rw [ScanState.level_before_succ hline, openBrackets_succ (by omega) hline,
      ih (fun k hk hks ↦ hopen k hk (by omega)) (by omega), ScanState.attributeLevel,
      if_pos (.inl (hopen stop (by omega) (by omega)))]

/-- Brackets that a scan has open were opened by an attribute. -/
theorem exists_start_of_level_pos (hle : i ≤ ls.length)
    (hpos : 0 < (ScanState.before ls i).level) :
    ∃ start, start < i ∧ (ScanState.before ls start).level = 0 ∧ StartsAttribute ls start ∧
      ∀ stop, start < stop → stop ≤ i → 0 < openBrackets ls start stop := by
  induction i with
  | zero => exact absurd hpos (Nat.lt_irrefl 0)
  | succ i ih =>
    have hline : ls[i]? = some ls[i] := List.getElem?_eq_getElem (by omega)
    by_cases hlevel : 0 < (ScanState.before ls i).level
    · obtain ⟨start, hlt, hzero, hstart, hopen⟩ := ih (by omega) hlevel
      refine ⟨start, by omega, hzero, hstart, fun stop hstop hle' ↦ ?_⟩
      by_cases hlast : stop = i + 1
      · subst hlast
        rwa [← level_before_eq hzero hstart (fun k hk hki ↦ hopen k hk (by omega)) hstop hle]
      · exact hopen stop hstop (by omega)
    · -- the attribute starts with the line itself
      have hzero : (ScanState.before ls i).level = 0 := by omega
      have hstart : StartsAttribute ls i := by
        refine ⟨ls[i], hline, ?_⟩
        by_contra hne
        rw [ScanState.level_before_succ hline, ScanState.attributeLevel,
          if_neg (not_or.2 ⟨hlevel, hne⟩)] at hpos
        exact absurd hpos (Nat.lt_irrefl 0)
      refine ⟨i, Nat.lt_succ_self i, hzero, hstart, fun stop hstop hle' ↦ ?_⟩
      obtain rfl : stop = i + 1 := by omega
      rwa [← level_before_eq hzero hstart (fun k hk hki ↦ by omega) hstop hle]

/-- **A line is inside an attribute** exactly if a scan has brackets open when it comes to it. -/
theorem insideAttribute_iff (hle : i ≤ ls.length) :
    InsideAttribute ls i ↔ 0 < (ScanState.before ls i).level := by
  induction i using Nat.strong_induction_on with
  | h i ih =>
    rw [InsideAttribute]
    constructor
    · rintro ⟨start, hlt, hout, hstart, hopen⟩
      rw [ih start hlt (by omega)] at hout
      rw [level_before_eq (by omega) hstart (fun k hk hki ↦ hopen k hk (by omega)) hlt hle]
      exact hopen i hlt (Nat.le_refl i)
    · intro hpos
      obtain ⟨start, hlt, hzero, hstart, hopen⟩ := exists_start_of_level_pos hle hpos
      refine ⟨start, hlt, ?_, hstart, hopen⟩
      rw [ih start hlt (by omega)]
      omega

/-! ### Kinds of lines -/

/-- **The line is documentation with this text**: it starts with three slashes, and not with four,
or with a hash sign that is not part of another mark. One space behind the mark is no part of the
text. -/
inductive IsDocLine (line : List Char) : List Char → Prop
  | slashes {rest : List Char} (h : trimStart line = '/' :: '/' :: '/' :: rest)
    (hfourth : rest.head? ≠ some '/') : IsDocLine line (dropSpace rest)
  | hash {rest : List Char} (h : trimStart line = '#' :: rest) (hbracket : rest.head? ≠ some '[')
    (hmark : rest.head? ≠ some '!') : IsDocLine line (dropSpace rest)

/-- **The line is code**: it is nothing else. -/
structure IsCodeLine (line : List Char) : Prop where
  not_blank : trimStart line ≠ []
  not_doc : ∀ text, ¬ IsDocLine line text
  not_attribute : ¬ ['#', '['] <+: trimStart line
  not_comment : ¬ IsPlainComment line

theorem isDocLine_iff : IsDocLine line text ↔ SourceLine.ofChars (trimStart line) = .doc text := by
  have hhead {c : Char} {rest : List Char} (h : ∀ more, rest = c :: more → False) :
      rest.head? ≠ some c := by
    rw [Ne, List.head?_eq_some_iff]
    exact fun ⟨more, hmore⟩ ↦ h more hmore
  constructor
  · rintro (⟨h, hfourth⟩ | ⟨h, hbracket, hmark⟩)
    · rw [h, SourceLine.ofChars_doc hfourth]
    · rw [h, SourceLine.ofChars_hash hbracket hmark]
  · generalize hcs : trimStart line = cs
    fun_cases SourceLine.ofChars cs with
    | case3 rest hfourth =>
      rintro ⟨⟩
      exact .slashes hcs (hhead hfourth)
    | case7 rest hbracket hmark =>
      rintro ⟨⟩
      exact .hash hcs (hhead hbracket) (hhead hmark)
    | _ => rintro ⟨⟩

theorem ofChars_eq_blank_iff : SourceLine.ofChars line = .blank ↔ line = [] := by
  constructor
  · fun_cases SourceLine.ofChars line with
    | case1 => exact fun _ ↦ rfl
    | _ => rintro ⟨⟩
  · rintro rfl
    rfl

theorem isPlainComment_iff :
    IsPlainComment line ↔ SourceLine.ofChars (trimStart line) = .comment := by
  constructor
  · rintro ⟨hslashes, hthird⟩
    exact SourceLine.ofChars_eq_comment hslashes hthird
  · rw [IsPlainComment]
    generalize trimStart line = cs
    fun_cases SourceLine.ofChars cs with
    | case2 rest => exact fun _ ↦ ⟨by simp, fun _ ↦ by simp⟩
    | case4 rest hfourth hthird =>
      refine fun _ ↦ ⟨by simp, fun hdoc ↦ ?_⟩
      obtain ⟨more, hmore⟩ := hdoc
      exact absurd (List.cons.inj (List.cons.inj hmore).2).2.symm (hthird more)
    | _ => rintro ⟨⟩

theorem isCodeLine_iff : IsCodeLine line ↔ SourceLine.ofChars (trimStart line) = .code := by
  constructor
  · rintro ⟨hblank, hdoc, hattribute, hcomment⟩
    rcases h : SourceLine.ofChars (trimStart line) with text | - | - | - | -
    · exact absurd (isDocLine_iff.2 h) (hdoc text)
    · exact absurd (ofChars_eq_blank_iff.1 h) hblank
    · exact absurd (SourceLine.ofChars_eq_attribute_iff.1 h) hattribute
    · exact absurd (isPlainComment_iff.2 h) hcomment
    · rfl
  · intro h
    refine ⟨fun hblank ↦ ?_, fun text hdoc ↦ ?_, fun hattribute ↦ ?_, fun hcomment ↦ ?_⟩
    · exact nomatch h.symm.trans (ofChars_eq_blank_iff.2 hblank)
    · exact nomatch h.symm.trans (isDocLine_iff.1 hdoc)
    · exact nomatch h.symm.trans (SourceLine.ofChars_eq_attribute_iff.2 hattribute)
    · exact nomatch h.symm.trans (isPlainComment_iff.1 hcomment)

/-! ### Lines of a file -/

/-- Line `i` is documentation with this text. -/
def IsDocAt (ls : List (List Char)) (i : Nat) (text : List Char) : Prop :=
  ¬ InsideAttribute ls i ∧ ∃ line, ls[i]? = some line ∧ IsDocLine line text

/-- Line `i` is code. -/
def IsCodeAt (ls : List (List Char)) (i : Nat) : Prop :=
  ¬ InsideAttribute ls i ∧ ∃ line, ls[i]? = some line ∧ IsCodeLine line

/-- Line `i` parts the documentation before it from all that stands behind it. -/
def IsBreakAt (ls : List (List Char)) (i : Nat) : Prop :=
  IsCodeAt ls i ∨ ¬ InsideAttribute ls i ∧ ∃ line, ls[i]? = some line ∧ trimStart line = []

theorem not_insideAttribute_iff (h : ls[i]? = some line) :
    ¬ InsideAttribute ls i ↔ (ScanState.before ls i).level = 0 := by
  obtain ⟨hi, -⟩ := List.getElem?_eq_some_iff.1 h
  rw [insideAttribute_iff (Nat.le_of_lt hi), Nat.pos_iff_ne_zero, not_not]

theorem isDocAt_iff (h : ls[i]? = some line) : IsDocAt ls i text ↔
    (ScanState.before ls i).level = 0 ∧ SourceLine.ofChars (trimStart line) = .doc text := by
  simp [IsDocAt, not_insideAttribute_iff h, h, isDocLine_iff]

theorem isCodeAt_iff (h : ls[i]? = some line) : IsCodeAt ls i ↔
    (ScanState.before ls i).level = 0 ∧ SourceLine.ofChars (trimStart line) = .code := by
  simp [IsCodeAt, not_insideAttribute_iff h, h, isCodeLine_iff]

theorem isBreakAt_iff (h : ls[i]? = some line) : IsBreakAt ls i ↔
    (ScanState.before ls i).level = 0 ∧ (SourceLine.ofChars (trimStart line) = .code ∨
      SourceLine.ofChars (trimStart line) = .blank) := by
  simp [IsBreakAt, isCodeAt_iff h, not_insideAttribute_iff h, h, ofChars_eq_blank_iff, and_or_left]

/-! ### The documentation before a line -/

/-- Line `k` is documentation with this text, and no blank line and no line of code parts it from
line `i`. -/
def IsDocBefore (ls : List (List Char)) (i k : Nat) (text : List Char) : Prop :=
  k < i ∧ IsDocAt ls k text ∧ ∀ j, k < j → j < i → ¬ IsBreakAt ls j

/-- One more line keeps the documentation before it if it is no break, and may add itself. -/
theorem isDocBefore_succ {k : Nat} : IsDocBefore ls (i + 1) k text ↔
    IsDocBefore ls i k text ∧ ¬ IsBreakAt ls i ∨ k = i ∧ IsDocAt ls i text := by
  constructor
  · rintro ⟨hlt, hk, hfree⟩
    rcases Nat.lt_succ_iff_lt_or_eq.1 hlt with hlt | rfl
    · exact .inl ⟨⟨hlt, hk, fun j hkj hji ↦ hfree j hkj (by omega)⟩, hfree i hlt (by omega)⟩
    · exact .inr ⟨rfl, hk⟩
  · rintro (⟨⟨hlt, hk, hfree⟩, hbreak⟩ | ⟨rfl, hk⟩)
    · refine ⟨by omega, hk, fun j hkj hji ↦ ?_⟩
      rcases Nat.lt_succ_iff_lt_or_eq.1 hji with hji | rfl
      · exact hfree j hkj hji
      · exact hbreak
    · exact ⟨Nat.lt_succ_self k, hk, fun j hkj hji ↦ by omega⟩

/-- **The documentation lines before line `i`**, each with its place, in their order. -/
structure DocsBefore (ls : List (List Char)) (i : Nat) (docs : List (Nat × List Char)) : Prop where
  ascending : docs.Pairwise fun a b ↦ a.1 < b.1
  mem_iff : ∀ k text, (k, text) ∈ docs ↔ IsDocBefore ls i k text

namespace DocsBefore

variable {docs : List (Nat × List Char)}

theorem zero : DocsBefore ls 0 [] := ⟨.nil, by simp [IsDocBefore]⟩

/-- A line that is neither documentation nor a break is passed by. -/
theorem pass (h : DocsBefore ls i docs) (hdoc : ∀ text, ¬ IsDocAt ls i text)
    (hbreak : ¬ IsBreakAt ls i) : DocsBefore ls (i + 1) docs :=
  ⟨h.ascending, fun k text ↦ by simp [h.mem_iff, isDocBefore_succ, hdoc, hbreak]⟩

/-- A line of documentation comes last. -/
theorem add (h : DocsBefore ls i docs) (hdoc : ∀ text', IsDocAt ls i text' ↔ text' = text)
    (hbreak : ¬ IsBreakAt ls i) : DocsBefore ls (i + 1) (docs ++ [(i, text)]) where
  ascending := by
    refine List.pairwise_append.2 ⟨h.ascending, List.pairwise_singleton _ _, fun a ha b hb ↦ ?_⟩
    obtain rfl := List.mem_singleton.1 hb
    exact ((h.mem_iff a.1 a.2).1 ha).1
  mem_iff k text' := by simp [h.mem_iff, isDocBefore_succ, hdoc, hbreak]

/-- Behind a break there is none. -/
theorem cut (hdoc : ∀ text, ¬ IsDocAt ls i text) (hbreak : IsBreakAt ls i) :
    DocsBefore ls (i + 1) [] :=
  ⟨.nil, fun k text ↦ by simp [isDocBefore_succ, hdoc, hbreak]⟩

/-- There is one list of documentation lines before a line. -/
theorem unique {docs' : List (Nat × List Char)} (h : DocsBefore ls i docs)
    (h' : DocsBefore ls i docs') : docs = docs' := by
  have hirrefl : Std.Irrefl fun a b : Nat × List Char ↦ a.1 < b.1 := ⟨fun a ↦ Nat.lt_irrefl a.1⟩
  have hantisymm : Std.Antisymm fun a b : Nat × List Char ↦ a.1 < b.1 :=
    ⟨fun a b hab hba ↦ absurd hba (Nat.lt_asymm hab)⟩
  refine h.ascending.eq_of_mem_iff h'.ascending fun entry ↦ ?_
  rw [h.mem_iff, h'.mem_iff]

end DocsBefore

/-- **What a scan has found** when it comes to a line are the documentation lines before it. -/
theorem exists_docsBefore (hle : i ≤ ls.length) : ∃ docs, DocsBefore ls i docs ∧
    (ScanState.before ls i).found.reverse = docs.map Prod.snd := by
  induction i with
  | zero => exact ⟨[], .zero, rfl⟩
  | succ i ih =>
    obtain ⟨docs, hdocs, hfound⟩ := ih (by omega)
    have hline : ls[i]? = some ls[i] := List.getElem?_eq_getElem (by omega)
    rw [ScanState.before_succ hline, ScanState.next]
    by_cases hlevel : 0 < (ScanState.before ls i).level
    · have hne : (ScanState.before ls i).level ≠ 0 := Nat.ne_of_gt hlevel
      rw [if_pos hlevel]
      exact ⟨docs, hdocs.pass (by simp [isDocAt_iff hline, hne])
        (by simp [isBreakAt_iff hline, hne]), hfound⟩
    · have hzero : (ScanState.before ls i).level = 0 := by omega
      rw [if_neg hlevel]
      rcases hkind : SourceLine.ofChars (trimStart ls[i]) with text | - | - | - | -
      · have hdoc (text' : List Char) : IsDocAt ls i text' ↔ text' = text := by
          simp [isDocAt_iff hline, hzero, hkind, eq_comm]
        exact ⟨docs ++ [(i, text)], hdocs.add hdoc (by simp [isBreakAt_iff hline, hkind]),
          by simp [hfound]⟩
      · exact ⟨[], .cut (by simp [isDocAt_iff hline, hkind])
          ((isBreakAt_iff hline).2 ⟨hzero, .inr hkind⟩), rfl⟩
      · exact ⟨docs, hdocs.pass (by simp [isDocAt_iff hline, hkind])
          (by simp [isBreakAt_iff hline, hkind]), hfound⟩
      · exact ⟨docs, hdocs.pass (by simp [isDocAt_iff hline, hkind])
          (by simp [isBreakAt_iff hline, hkind]), hfound⟩
      · exact ⟨[], .cut (by simp [isDocAt_iff hline, hkind])
          ((isBreakAt_iff hline).2 ⟨hzero, .inl hkind⟩), rfl⟩

/-! ### What a file documents -/

/-- **Line `i` is documented by these lines**: it is code, and they are all the documentation lines
before it. -/
structure IsDocumentedBy (ls : List (List Char)) (i : Nat) (docs : List (Nat × List Char)) :
    Prop where
  code : IsCodeAt ls i
  before : DocsBefore ls i docs
  ne_nil : docs ≠ []

/-- The comment that documentation lines make up. -/
def commentOf (docs : List (Nat × List Char)) : DocComment :=
  .parse (String.ofList (joinWith ['\n'] (docs.map Prod.snd)))

/-- A documentation line has a say at one line of code only. -/
theorem IsDocumentedBy.line_unique {j k : Nat} {docs docs' : List (Nat × List Char)}
    {text' : List Char} (h : IsDocumentedBy ls i docs) (h' : IsDocumentedBy ls j docs')
    (hmem : (k, text) ∈ docs) (hmem' : (k, text') ∈ docs') : i = j := by
  obtain ⟨hki, -, hfree⟩ := (h.before.mem_iff k text).1 hmem
  obtain ⟨hkj, -, hfree'⟩ := (h'.before.mem_iff k text').1 hmem'
  -- of two lines of code the first is a break before the second
  rcases Nat.lt_trichotomy i j with hlt | heq | hlt
  · exact absurd (.inl h.code) (hfree' i hki hlt)
  · exact heq
  · exact absurd (.inl h'.code) (hfree j hkj hlt)

theorem ScanState.block?_eq_some_iff {s : ScanState} {n : Nat} {b : DocBlock} :
    s.block? n line = some b ↔ s.level = 0 ∧ SourceLine.ofChars (trimStart line) = .code ∧
      s.found ≠ [] ∧ b = ⟨n, .ofLines s.found.reverse⟩ := by
  rw [block?]
  split
  · rename_i h
    simp [h, eq_comm]
  · rename_i h
    simp only [reduceCtorEq, false_iff]
    rintro ⟨hlevel, hcode, hfound, -⟩
    exact h ⟨hlevel, hcode, hfound⟩

/-- The block of a line holds the comment of the lines that document it. -/
theorem block?_before_eq_some_iff (h : ls[i]? = some line) {n : Nat} {b : DocBlock} :
    (ScanState.before ls i).block? n line = some b ↔
      ∃ docs, IsDocumentedBy ls i docs ∧ b = ⟨n, commentOf docs⟩ := by
  obtain ⟨hi, -⟩ := List.getElem?_eq_some_iff.1 h
  obtain ⟨docs, hdocs, hfound⟩ := exists_docsBefore (Nat.le_of_lt hi)
  have hcomment : commentOf docs = .ofLines (ScanState.before ls i).found.reverse := by
    rw [commentOf, DocComment.parse, String.toList_ofList, DocComment.ofLines, hfound]
  have hne : (ScanState.before ls i).found ≠ [] ↔ docs ≠ [] := by
    rw [Ne, ← List.reverse_eq_nil_iff, hfound, List.map_eq_nil_iff]
  rw [ScanState.block?_eq_some_iff, hne, ← hcomment]
  constructor
  · rintro ⟨hlevel, hcode, hdocs', hb⟩
    exact ⟨docs, ⟨(isCodeAt_iff h).2 ⟨hlevel, hcode⟩, hdocs, hdocs'⟩, hb⟩
  · rintro ⟨docs', hdocumented, hb⟩
    obtain rfl := hdocs.unique hdocumented.before
    obtain ⟨hlevel, hcode⟩ := (isCodeAt_iff h).1 hdocumented.code
    exact ⟨hlevel, hcode, hdocumented.ne_nil, hb⟩

/-- The blocks of a scan are those of the lines that are documented. -/
theorem mem_blocks_iff_documented {b : DocBlock} : b ∈ ({} : ScanState).blocks 1 ls ↔
    ∃ i docs, IsDocumentedBy ls i docs ∧ b = ⟨i + 1, commentOf docs⟩ := by
  rw [ScanState.mem_blocks_iff]
  constructor
  · rintro ⟨i, line, hline, hblock⟩
    rw [Nat.add_comm] at hblock
    exact ⟨i, (block?_before_eq_some_iff hline).1 hblock⟩
  · rintro ⟨i, docs, hdocs, hb⟩
    obtain ⟨-, line, hline, -⟩ := hdocs.code
    refine ⟨i, line, hline, ?_⟩
    rw [Nat.add_comm]
    exact (block?_before_eq_some_iff hline).2 ⟨docs, hdocs, hb⟩

/-- No documented line behind line `i` has its number. -/
def IsLastOfNumber (ls : List (List Char)) (i : Nat) : Prop :=
  ∀ j docs, i < j → IsDocumentedBy ls j docs → lineNumber (j + 1) ≠ lineNumber (i + 1)

/-- What is found under a number is the comment of the last documented line with that number. -/
theorem get?_parse_eq_some_iff {source : String} {n : Nat} {d : DocComment} :
    (FileDocs.parse source).get? n = some d ↔
      ∃ i docs, n = lineNumber (i + 1) ∧ IsDocumentedBy (lines source.toList) i docs ∧
        d = commentOf docs ∧ IsLastOfNumber (lines source.toList) i := by
  have hsorted := ScanState.pairwise_blocks 1 {} (lines source.toList)
  show (⟨FileDocs.numbered (({} : ScanState).blocks 1 (lines source.toList))⟩ : FileDocs).get? n =
    some d ↔ _
  rw [FileDocs.get?_numbered_eq_some_iff hsorted]
  constructor
  · rintro ⟨b, hb, rfl, rfl, hlast⟩
    obtain ⟨i, docs, hdocs, rfl⟩ := mem_blocks_iff_documented.1 hb
    refine ⟨i, docs, rfl, hdocs, rfl, fun j docs' hij hdocs' ↦ ?_⟩
    have hmem := mem_blocks_iff_documented.2 ⟨j, docs', hdocs', rfl⟩
    exact hlast _ hmem (Nat.succ_lt_succ hij)
  · rintro ⟨i, docs, rfl, hdocs, rfl, hlast⟩
    refine ⟨_, mem_blocks_iff_documented.2 ⟨i, docs, hdocs, rfl⟩, rfl, rfl, fun c hc hlt ↦ ?_⟩
    obtain ⟨j, docs', hdocs', rfl⟩ := mem_blocks_iff_documented.1 hc
    exact hlast j docs' (Nat.lt_of_succ_lt_succ hlt) hdocs'

/-- **What a source file documents**, with its lines counted from one: a comment under the number of
a line of code, if there are documentation lines before it and no documented line behind it has that
number, and that is the comment that these lines make up. If there is a number for every line of the
file, the line is the number. The numbers ascend, and every documentation line has a say at one line
of code at most. -/
theorem get?_parse_iff (source : String) :
    (∀ n d, (FileDocs.parse source).get? n = some d ↔
      ∃ i docs, n = lineNumber (i + 1) ∧ IsDocumentedBy (lines source.toList) i docs ∧
        d = commentOf docs ∧ IsLastOfNumber (lines source.toList) i) ∧
    ((lines source.toList).length < 2 ^ 32 →
      ∀ n d, (FileDocs.parse source).get? n = some d ↔
        ∃ i docs, n = i + 1 ∧ IsDocumentedBy (lines source.toList) i docs ∧ d = commentOf docs) ∧
    (FileDocs.parse source).lineNumbers.Pairwise (· < ·) ∧
    ∀ i j docs docs', IsDocumentedBy (lines source.toList) i docs →
      IsDocumentedBy (lines source.toList) j docs' →
      ∀ k text text', (k, text) ∈ docs → (k, text') ∈ docs' → i = j := by
  refine ⟨fun n d ↦ get?_parse_eq_some_iff, fun hlength n d ↦ ?_, ?_,
    fun i j docs docs' h h' k text text' ↦ h.line_unique h'⟩
  · have hnumber {i : Nat} {docs : List (Nat × List Char)}
        (hdocs : IsDocumentedBy (lines source.toList) i docs) : lineNumber (i + 1) = i + 1 := by
      obtain ⟨-, line, hline, -⟩ := hdocs.code
      obtain ⟨hi, -⟩ := List.getElem?_eq_some_iff.1 hline
      exact lineNumber_of_le (Nat.le_pred_of_lt (Nat.lt_of_le_of_lt hi hlength))
    rw [get?_parse_eq_some_iff]
    constructor
    · rintro ⟨i, docs, rfl, hdocs, rfl, -⟩
      exact ⟨i, docs, hnumber hdocs, hdocs, rfl⟩
    · rintro ⟨i, docs, rfl, hdocs, rfl⟩
      refine ⟨i, docs, (hnumber hdocs).symm, hdocs, rfl, fun j docs' hij hdocs' ↦ ?_⟩
      rw [hnumber hdocs, hnumber hdocs']
      exact Nat.ne_of_gt (Nat.succ_lt_succ hij)
  · rw [FileDocs.lineNumbers, List.pairwise_map]
    exact FileDocs.pairwise_numbered (ScanState.pairwise_blocks 1 {} (lines source.toList))

/-- The blank line inside the attribute parts nothing, the one behind it does. -/
theorem get?_parse_iff_blank_lines :
    let source := "/// A.\n#[cfg(\n\n  b)]\nfn a();\n/// B.\n\nfn b();\n"
    (∃ i docs, 5 = i + 1 ∧ IsDocumentedBy (lines source.toList) i docs ∧
        DocComment.parse "A." = commentOf docs) ∧
      ∀ docs, ¬ IsDocumentedBy (lines source.toList) 7 docs := by
  intro source
  obtain ⟨-, hget, -⟩ := get?_parse_iff source
  have hget := hget (by decide)
  refine ⟨(hget 5 _).1 (by decide), fun docs hdocs ↦ ?_⟩
  have hnone : (FileDocs.parse source).get? 8 = none := by decide
  rw [(hget 8 _).2 ⟨7, docs, rfl, hdocs, rfl⟩] at hnone
  exact nomatch hnone

end ToolSchema
