import Mathlib.Data.List.Infix
import ToolSchema.Proofs.Text.Lines
import ToolSchema.Source.FileDocs

/-!
# Lines of source files

What a line of a source file is can be read off its start. There is one lemma for each way in which
a line starts, and the blanks at its ends are no part of it: lines that are the same when they are
trimmed are the same to a scan, up to blanks in a documentation text (`same_ofChars_of_trim_eq`).

A line that starts an attribute also ends it if its brackets are balanced, as they are written:
brackets in a quoted text count as all others do (`BracketsBalanced.bracketLevel_eq_zero`).
-/

namespace ToolSchema

variable {c : Char} {cs ds : List Char}

theorem trim_dropSpace (cs : List Char) : trim (dropSpace cs) = trim cs := by
  unfold dropSpace
  split
  · exact (trim_cons_of_isBlank (by decide)).symm
  · rfl

theorem mem_of_mem_dropSpace (h : c ∈ dropSpace cs) : c ∈ cs := by
  unfold dropSpace at h
  split at h
  · exact List.mem_cons_of_mem _ h
  · exact h

namespace SourceLine

/-! ### What the start of a line says -/

theorem ofChars_doc (h : cs.head? ≠ some '/') :
    ofChars ('/' :: '/' :: '/' :: cs) = .doc (dropSpace cs) := by
  rcases cs with - | ⟨c, cs⟩
  · rfl
  · have hc : c ≠ '/' := by simpa using h
    simp [ofChars, hc]

theorem ofChars_trimStart_doc {indent : List Char} (hindent : ∀ c ∈ indent, isBlank c = true)
    (h : cs.head? ≠ some '/') :
    ofChars (trimStart (indent ++ '/' :: '/' :: '/' :: cs)) = .doc (dropSpace cs) := by
  rw [trimStart_append_of_forall_isBlank hindent, trimStart_cons_of_not_isBlank rfl, ofChars_doc h]

theorem ofChars_hash (hbracket : cs.head? ≠ some '[') (hmark : cs.head? ≠ some '!') :
    ofChars ('#' :: cs) = .doc (dropSpace cs) := by
  rcases cs with - | ⟨c, cs⟩
  · rfl
  · have hc : c ≠ '[' ∧ c ≠ '!' := by simpa using And.intro hbracket hmark
    simp [ofChars, hc]

theorem ofChars_comment (h : cs.head? ≠ some '/') : ofChars ('/' :: '/' :: cs) = .comment := by
  rcases cs with - | ⟨c, cs⟩
  · rfl
  · have hc : c ≠ '/' := by simpa using h
    simp [ofChars, hc]

theorem ofChars_code (hhash : c ≠ '#') (hslash : c = '/' → cs.head? ≠ some '/') :
    ofChars (c :: cs) = .code := by
  by_cases hc : c = '/'
  · subst hc
    rcases cs with - | ⟨d, cs⟩
    · rfl
    · have hd : d ≠ '/' := by simpa using hslash
      simp [ofChars, hd]
  · simp [ofChars, hhash, hc]

theorem ofChars_eq_code (hne : cs ≠ []) (hhash : ¬ ['#'] <+: cs) (hslashes : ¬ ['/', '/'] <+: cs) :
    ofChars cs = .code := by
  obtain ⟨c, rest, rfl⟩ := List.exists_cons_of_ne_nil hne
  refine ofChars_code ?_ ?_
  · rintro rfl
    exact hhash (by simp)
  · rintro rfl hhead
    obtain ⟨rest, rfl⟩ := List.head?_eq_some_iff.1 hhead
    exact hslashes (by simp)

/-- A comment starts with two slashes or with four. -/
theorem ofChars_eq_comment (hslashes : ['/', '/'] <+: cs)
    (hthird : ['/', '/', '/'] <+: cs → ['/', '/', '/', '/'] <+: cs) : ofChars cs = .comment := by
  obtain ⟨rest, rfl⟩ := hslashes
  by_cases hhead : rest.head? = some '/'
  · obtain ⟨rest, rfl⟩ := List.head?_eq_some_iff.1 hhead
    obtain ⟨rest, hrest⟩ := hthird (by simp)
    rw [← hrest]
    rfl
  · exact ofChars_comment hhead

theorem ofChars_eq_attribute_iff : ofChars cs = .attribute ↔ ['#', '['] <+: cs := by
  constructor
  · intro h
    unfold ofChars at h
    split at h <;> cases h
    simp
  · rintro ⟨rest, rfl⟩
    rfl

/-- A documentation text is part of its line. -/
theorem mem_of_ofChars_eq_doc {text : List Char} (h : ofChars cs = .doc text) (hc : c ∈ text) :
    c ∈ cs := by
  unfold ofChars at h
  split at h <;> cases h
  all_goals simp [mem_of_mem_dropSpace hc]

/-! ### Blanks at the ends of a line -/

/-- The two are the same but for blanks at the ends of a documentation text. -/
inductive Same : SourceLine → SourceLine → Prop
  | doc {text other : List Char} (h : trim text = trim other) : Same (.doc text) (.doc other)
  | refl (line : SourceLine) : Same line line

theorem Same.symm {line other : SourceLine} (h : line.Same other) : other.Same line := by
  cases h with
  | doc h => exact .doc h.symm
  | refl => exact .refl _

theorem Same.trans {line other third : SourceLine} (h : line.Same other) (h' : other.Same third) :
    line.Same third := by
  cases h with
  | refl => exact h'
  | doc h =>
    cases h' with
    | refl => exact .doc h
    | doc h' => exact .doc (h.trans h')

/-- A character that is no blank follows a text if it follows the text without its last blanks. -/
theorem head?_trimEnd_ne (hc : isBlank c = false) (h : ∀ rest, cs = c :: rest → False) :
    (trimEnd cs).head? ≠ some c := by
  rw [Ne, head?_trimEnd_eq_some_iff hc, List.head?_eq_some_iff]
  exact fun ⟨rest, hrest⟩ ↦ h rest hrest

theorem trim_dropSpace_trimEnd (cs : List Char) :
    trim (dropSpace (trimEnd cs)) = trim (dropSpace cs) := by
  rw [trim_dropSpace, trim_dropSpace, trim_trimEnd]

/-- **Blanks at the end of a line** have no say in what it is. -/
theorem same_ofChars_trimEnd (h : startsBlank cs = false) :
    (ofChars (trimEnd cs)).Same (ofChars cs) := by
  have hslash (cs : List Char) : trimEnd ('/' :: cs) = '/' :: trimEnd cs :=
    trimEnd_cons_of_not_isBlank rfl cs
  have hhash (cs : List Char) : trimEnd ('#' :: cs) = '#' :: trimEnd cs :=
    trimEnd_cons_of_not_isBlank rfl cs
  fun_cases ofChars cs with
  | case1 => exact .refl _
  | case2 rest =>
    rw [hslash, hslash, hslash, hslash]
    exact .refl _
  | case3 rest hrest =>
    rw [hslash, hslash, hslash, ofChars_doc (head?_trimEnd_ne rfl hrest)]
    exact .doc (trim_dropSpace_trimEnd rest)
  | case4 rest _ hrest =>
    rw [hslash, hslash, ofChars_comment (head?_trimEnd_ne rfl hrest)]
    exact .refl _
  | case5 rest =>
    rw [hhash, trimEnd_cons_of_not_isBlank rfl]
    exact .refl _
  | case6 rest =>
    rw [hhash, trimEnd_cons_of_not_isBlank rfl]
    exact .refl _
  | case7 rest hbracket hmark =>
    rw [hhash, ofChars_hash (head?_trimEnd_ne rfl hbracket) (head?_trimEnd_ne rfl hmark)]
    exact .doc (trim_dropSpace_trimEnd rest)
  | case8 _ hne _ _ hcomment _ _ hdoc =>
    obtain ⟨c, rest, rfl⟩ := List.exists_cons_of_ne_nil hne
    have hc : c ≠ '#' := fun hc ↦ hdoc rest (hc ▸ rfl)
    rw [trimEnd_cons_of_not_isBlank h, ofChars_code hc]
    · exact .refl _
    · rintro rfl
      exact head?_trimEnd_ne rfl fun _ hrest ↦ hcomment _ (congrArg ('/' :: ·) hrest)

/-- **Blanks at either end of a line** have no say in what it is. -/
theorem same_ofChars_of_trim_eq (h : trim cs = trim ds) :
    (ofChars (trimStart cs)).Same (ofChars (trimStart ds)) := by
  have hcs := same_ofChars_trimEnd (startsBlank_trimStart cs)
  have hds := same_ofChars_trimEnd (startsBlank_trimStart ds)
  rw [trim, trim] at h
  rw [h] at hcs
  exact hcs.symm.trans hds

end SourceLine

/-! ### Brackets -/

variable {level : Nat} {line : List Char}

theorem bracketLevel_append (level : Nat) (cs ds : List Char) :
    bracketLevel level (cs ++ ds) = bracketLevel (bracketLevel level cs) ds :=
  List.foldl_append

theorem bracketLevel_open (level : Nat) (cs : List Char) :
    bracketLevel level ('[' :: cs) = bracketLevel (level + 1) cs := rfl

theorem bracketLevel_close (level : Nat) (cs : List Char) :
    bracketLevel level (']' :: cs) = bracketLevel (level - 1) cs := rfl

theorem bracketLevel_cons_of_ne (hopen : c ≠ '[') (hclose : c ≠ ']') (level : Nat)
    (cs : List Char) : bracketLevel level (c :: cs) = bracketLevel level cs := by
  rw [bracketLevel, List.foldl_cons, if_neg (by simpa using hopen), if_neg (by simpa using hclose)]
  rfl

/-- No blank is a bracket. -/
theorem bracketLevel_of_forall_isBlank (h : ∀ c ∈ cs, isBlank c = true) :
    bracketLevel level cs = level := by
  induction cs with
  | nil => rfl
  | cons c cs ih =>
    obtain ⟨hc, hcs⟩ := List.forall_mem_cons.1 h
    have hne {d : Char} (hd : isBlank d = false) : c ≠ d := by
      rintro rfl
      rw [hc] at hd
      cases hd
    rw [bracketLevel_cons_of_ne (hne rfl) (hne rfl), ih hcs]

/-- Blanks at the ends of a line open and close nothing. -/
theorem bracketLevel_trimStart (level : Nat) (cs : List Char) :
    bracketLevel level (trimStart cs) = bracketLevel level cs := by
  obtain ⟨blanks, hblanks, h⟩ := exists_eq_append_trimStart cs
  conv_rhs => rw [h, bracketLevel_append, bracketLevel_of_forall_isBlank hblanks]

theorem bracketLevel_trimEnd (level : Nat) (cs : List Char) :
    bracketLevel level (trimEnd cs) = bracketLevel level cs := by
  obtain ⟨blanks, hblanks, h⟩ := exists_eq_trimEnd_append cs
  conv_rhs => rw [h, bracketLevel_append, bracketLevel_of_forall_isBlank hblanks]

theorem bracketLevel_of_trim_eq (h : trim cs = trim ds) (level : Nat) :
    bracketLevel level cs = bracketLevel level ds := by
  rw [← bracketLevel_trimStart, ← bracketLevel_trimEnd, ← trim, h, trim, bracketLevel_trimEnd,
    bracketLevel_trimStart]

/-- **The brackets of a line are balanced**: as many are closed as are opened, and none before it is
opened. -/
def BracketsBalanced (line : List Char) : Prop :=
  line.count ']' = line.count '[' ∧ ∀ start ∈ line.inits, start.count ']' ≤ start.count '['

instance (line : List Char) : Decidable (BracketsBalanced line) :=
  inferInstanceAs (Decidable (_ ∧ _))

/-- As long as no bracket is closed that is not open, the level is the number of those that are. -/
theorem bracketLevel_add_count
    (h : ∀ start, start <+: line → start.count ']' ≤ level + start.count '[') :
    bracketLevel level line + line.count ']' = level + line.count '[' := by
  induction line generalizing level with
  | nil => rfl
  | cons c line ih =>
    have hrest (start : List Char) (hstart : start <+: line) :
        (c :: start).count ']' ≤ level + (c :: start).count '[' := h (c :: start) (by simpa)
    by_cases hopen : c = '['
    · subst hopen
      have hcount (start : List Char) : ('[' :: start).count '[' = start.count '[' + 1 ∧
          ('[' :: start).count ']' = start.count ']' := by simp
      have hih : bracketLevel (level + 1) line + line.count ']' = level + 1 + line.count '[' := by
        refine ih fun start hstart ↦ ?_
        have hle := hrest start hstart
        rw [(hcount start).1, (hcount start).2] at hle
        omega
      rw [bracketLevel_open, (hcount line).1, (hcount line).2]
      omega
    · by_cases hclose : c = ']'
      · subst hclose
        have hcount (start : List Char) : (']' :: start).count '[' = start.count '[' ∧
            (']' :: start).count ']' = start.count ']' + 1 := by simp
        -- the bracket that it closes is open
        have hlevel : 1 ≤ level := by simpa using h [']'] (by simp)
        have hih : bracketLevel (level - 1) line + line.count ']' =
            level - 1 + line.count '[' := by
          refine ih fun start hstart ↦ ?_
          have hle := hrest start hstart
          rw [(hcount start).1, (hcount start).2] at hle
          omega
        rw [bracketLevel_close, (hcount line).1, (hcount line).2]
        omega
      · have hcount (start : List Char) : (c :: start).count '[' = start.count '[' ∧
            (c :: start).count ']' = start.count ']' := by simp [hopen, hclose]
        rw [bracketLevel_cons_of_ne hopen hclose, (hcount line).1, (hcount line).2]
        refine ih fun start hstart ↦ ?_
        have hle := hrest start hstart
        rwa [(hcount start).1, (hcount start).2] at hle

/-- An attribute with balanced brackets ends with its line. -/
theorem BracketsBalanced.bracketLevel_eq_zero (h : BracketsBalanced line) :
    bracketLevel 0 line = 0 := by
  obtain ⟨hcount, hstart⟩ := h
  have hlevel : bracketLevel 0 line + line.count ']' = 0 + line.count '[' := by
    refine bracketLevel_add_count fun start hs ↦ ?_
    rw [Nat.zero_add]
    exact hstart start ((List.mem_inits start line).2 hs)
  omega

end ToolSchema
