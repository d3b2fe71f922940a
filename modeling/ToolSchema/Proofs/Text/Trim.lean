import Mathlib.Data.List.DropRight
import ToolSchema.Text.Identifier

/-!
# Trimmed texts

What trimming does to texts that are put together. Blanks at the end are dropped from the right
(`trimEnd_eq_rdropWhile`), so a text that ends in no blank keeps whatever stands behind it apart
from its own blanks (`trimEnd_append_of_eq`), and the two ends do not get in each other's way
(`trimStart_trimEnd`).

Identifiers have no blanks in them, which is why the word in front of a text can be taken off again
(`splitName?_append`, `splitWord?_append`).
-/

namespace ToolSchema

variable {c : Char} {cs ds : List Char}

/-! ### Either end -/

theorem trimEnd_eq_rdropWhile (cs : List Char) : trimEnd cs = cs.rdropWhile isBlank := rfl

@[simp] theorem trimEnd_nil : trimEnd [] = [] := rfl

theorem trimStart_cons_of_isBlank (h : isBlank c = true) : trimStart (c :: cs) = trimStart cs :=
  List.dropWhile_cons_of_pos h

theorem trimStart_cons_of_not_isBlank (h : isBlank c = false) : trimStart (c :: cs) = c :: cs :=
  List.dropWhile_cons_of_neg (by simp [h])

theorem startsBlank_trimStart (cs : List Char) : startsBlank (trimStart cs) = false := by
  have hhead := List.head?_dropWhile_not isBlank cs
  rcases h : trimStart cs with - | ⟨c, rest⟩
  · rfl
  · rw [← trimStart, h] at hhead
    simpa [startsBlank] using hhead

/-- A text that starts with no blank is kept at its start. -/
theorem trimStart_of_startsBlank (h : startsBlank cs = false) : trimStart cs = cs := by
  rcases cs with - | ⟨c, cs⟩
  · rfl
  · exact trimStart_cons_of_not_isBlank h

/-- The blanks at the end of a text reach into its first part only if the rest is blank. -/
theorem trimEnd_append (cs ds : List Char) :
    trimEnd (cs ++ ds) = if trimEnd ds = [] then trimEnd cs else cs ++ trimEnd ds := by
  -- turned around, the second text comes first
  rw [trimEnd, List.reverse_append, List.dropWhile_append]
  by_cases h : ds.reverse.dropWhile isBlank = []
  · rw [if_pos (List.isEmpty_iff.2 h), if_pos (by rw [trimEnd, h]; rfl), trimEnd]
  · rw [if_neg (by simpa using h), if_neg (by simpa [trimEnd] using h), trimEnd,
      List.reverse_append, List.reverse_reverse]

/-- What trimming the end does to a text is decided by its first character and what trimming does to
the rest. -/
theorem trimEnd_cons (c : Char) (cs : List Char) :
    trimEnd (c :: cs) = if trimEnd cs = [] then trimEnd [c] else c :: trimEnd cs :=
  trimEnd_append [c] cs

/-- A text that ends in no blank is kept. -/
theorem trimEnd_append_of_eq (h : trimEnd cs = cs) (ds : List Char) :
    trimEnd (cs ++ ds) = cs ++ trimEnd ds := by
  rw [trimEnd_append, h]
  split
  · next hd => rw [hd, List.append_nil]
  · rfl

/-- Trailing blanks are dropped whatever they are. -/
theorem trimEnd_append_of_forall_isBlank (h : ∀ c ∈ ds, isBlank c = true) :
    trimEnd (cs ++ ds) = trimEnd cs := by
  have hblank : trimEnd ds = [] := List.rdropWhile_eq_nil_iff.2 h
  rw [trimEnd_append, if_pos hblank]

theorem trimEnd_cons_congr (c : Char) (h : trimEnd cs = trimEnd ds) :
    trimEnd (c :: cs) = trimEnd (c :: ds) := by
  rw [trimEnd_cons c cs, trimEnd_cons c ds, h]

theorem trimEnd_trimEnd (cs : List Char) : trimEnd (trimEnd cs) = trimEnd cs :=
  List.rdropWhile_idempotent isBlank cs

theorem trimStart_trimStart (cs : List Char) : trimStart (trimStart cs) = trimStart cs :=
  List.dropWhile_idempotent isBlank cs

/-- Leading blanks are dropped whatever they are. -/
theorem trimStart_append_of_forall_isBlank (h : ∀ c ∈ cs, isBlank c = true) (ds : List Char) :
    trimStart (cs ++ ds) = trimStart ds :=
  List.dropWhile_append_of_pos h

/-- The two ends can be trimmed in either order. -/
theorem trimStart_trimEnd (cs : List Char) : trimStart (trimEnd cs) = trimEnd (trimStart cs) := by
  induction cs with
  | nil => rfl
  | cons c cs ih =>
    rw [trimEnd_cons]
    rcases hc : isBlank c with - | -
    · have hsingle : trimEnd [c] = [c] := by simp [trimEnd, hc]
      rw [trimStart_cons_of_not_isBlank hc, trimEnd_cons c cs, hsingle]
      split <;> exact trimStart_cons_of_not_isBlank hc
    · -- a blank in front is dropped from the start, and from the end if all the rest is blank
      have hsingle : trimEnd [c] = [] := by simp [trimEnd, hc]
      rw [trimStart_cons_of_isBlank hc, ← ih, hsingle]
      split
      · next h => rw [h]
      · exact trimStart_cons_of_isBlank hc

theorem exists_eq_append_trimStart (cs : List Char) :
    ∃ blanks, (∀ c ∈ blanks, isBlank c = true) ∧ cs = blanks ++ trimStart cs :=
  ⟨cs.takeWhile isBlank, fun _ hc ↦ List.mem_takeWhile_imp hc, List.takeWhile_append_dropWhile.symm⟩

theorem exists_eq_trimEnd_append (cs : List Char) :
    ∃ blanks, (∀ c ∈ blanks, isBlank c = true) ∧ cs = trimEnd cs ++ blanks := by
  obtain ⟨blanks, hblanks, h⟩ := exists_eq_append_trimStart cs.reverse
  have hreverse := congrArg List.reverse h
  rw [List.reverse_reverse, List.reverse_append] at hreverse
  exact ⟨blanks.reverse, fun c hc ↦ hblanks c (List.mem_reverse.1 hc), hreverse⟩

/-! ### Both ends -/

theorem trim_trimEnd (cs : List Char) : trim (trimEnd cs) = trim cs := by
  rw [trim, trimStart_trimEnd, trimEnd_trimEnd]
  rfl

theorem mem_of_mem_trim (h : c ∈ trim cs) : c ∈ cs := by
  have hstart : c ∈ trimStart cs := (List.rdropWhile_prefix isBlank _).subset h
  exact (List.dropWhile_suffix isBlank).subset hstart

/-- A carriage return at the end is a blank. -/
theorem trim_append_return (cs : List Char) : trim (cs ++ ['\r']) = trim cs := by
  have hblank : trimEnd ['\r'] = [] := rfl
  rw [← trim_trimEnd, trimEnd_append, if_pos hblank, trim_trimEnd]

theorem trim_trim (cs : List Char) : trim (trim cs) = trim cs := by
  rw [trim, trim, trimStart_trimEnd, trimStart_trimStart, trimEnd_trimEnd]

theorem trimStart_trim (cs : List Char) : trimStart (trim cs) = trim cs := by
  rw [trim, trimStart_trimEnd, trimStart_trimStart]

theorem trim_cons_of_isBlank (h : isBlank c = true) : trim (c :: cs) = trim cs := by
  rw [trim, trimStart_cons_of_isBlank h, trim]

theorem trimEnd_eq_of_trim_eq (h : trim cs = cs) : trimEnd cs = cs := by
  rw [← h, trim, trimEnd_trimEnd]

/-- A text that starts with no blank is trimmed at its end only. -/
theorem trim_cons_of_not_isBlank (h : isBlank c = false) : trim (c :: cs) = trimEnd (c :: cs) := by
  rw [trim, trimStart_cons_of_not_isBlank h]

/-- What a trimmed text ends in has blanks at its start only. -/
theorem trim_trimStart_of_append (h : trim (cs ++ ds) = cs ++ ds) :
    trim (trimStart ds) = trimStart ds := by
  have hend : trimEnd ds = ds := by
    have happend := trimEnd_eq_of_trim_eq h
    rw [trimEnd_eq_rdropWhile, List.rdropWhile_eq_self_iff] at happend ⊢
    intro hne
    have hlast := happend (List.append_ne_nil_of_right_ne_nil cs hne)
    rwa [List.getLast_append_of_ne_nil _ hne] at hlast
  rw [trim, trimStart_trimStart, ← trimStart_trimEnd, hend]

/-- Without blanks there is nothing to trim. -/
theorem trim_of_forall_not_isBlank (h : ∀ c ∈ cs, isBlank c = false) : trim cs = cs := by
  have hstart : trimStart cs = cs := by
    rcases cs with - | ⟨c, cs⟩
    · rfl
    · exact trimStart_cons_of_not_isBlank (h c List.mem_cons_self)
  rw [trim, hstart, trimEnd_eq_rdropWhile, List.rdropWhile_eq_self_iff]
  intro hne
  rw [h _ (List.getLast_mem hne)]
  exact Bool.false_ne_true

/-- Trimming the end does not touch a first character that is no blank. -/
theorem trimEnd_cons_of_not_isBlank (h : isBlank c = false) (cs : List Char) :
    trimEnd (c :: cs) = c :: trimEnd cs := by
  have hsingle : trimEnd [c] = [c] := by simp [trimEnd, h]
  exact trimEnd_append_of_eq hsingle cs

/-- Nor does it touch a last one. -/
theorem trimEnd_concat_of_not_isBlank (h : isBlank c = false) (cs : List Char) :
    trimEnd (cs ++ [c]) = cs ++ [c] :=
  List.rdropWhile_concat_neg isBlank cs c (by simp [h])

/-- A text between two characters that are no blanks is not trimmed. -/
theorem trim_enclosed {d : Char} (hc : isBlank c = false) (hd : isBlank d = false)
    (cs : List Char) : trim (c :: (cs ++ [d])) = c :: (cs ++ [d]) := by
  rw [trim_cons_of_not_isBlank hc, ← List.cons_append, trimEnd_concat_of_not_isBlank hd]

theorem head?_trimEnd_eq_some_iff (h : isBlank c = false) :
    (trimEnd cs).head? = some c ↔ cs.head? = some c := by
  rcases cs with - | ⟨d, cs⟩
  · rfl
  · rw [trimEnd_cons]
    split
    · next hcs =>
      -- the text is `d` and blanks
      rcases hd : isBlank d with - | -
      · rw [trimEnd_cons_of_not_isBlank hd]
        rfl
      · have hne : d ≠ c := by
          rintro rfl
          rw [hd] at h
          exact absurd h.symm Bool.false_ne_true
        have hnil : trimEnd [d] = [] := by simp [trimEnd, hd]
        rw [hnil]
        simp [hne]
    · rfl

/-! ### Identifiers -/

/-- Letters, digits and underscores are no blanks. -/
theorem not_isBlank_of_isNameChar (h : isNameChar c = true) : isBlank c = false := by
  delta isNameChar Char.isAlphanum Char.isAlpha Char.isUpper Char.isLower Char.isDigit at h
  simp only [Bool.or_eq_true, Bool.and_eq_true, decide_eq_true_eq, beq_iff_eq, ge_iff_le,
    UInt32.le_iff_toNat_le] at h
  have hn : (c.toNat = 95) ∨ (48 ≤ c.toNat ∧ c.toNat ≤ 57) ∨ (65 ≤ c.toNat ∧ c.toNat ≤ 90) ∨
      (97 ≤ c.toNat ∧ c.toNat ≤ 122) := by
    rcases h with ((h | h) | h) | rfl
    · exact .inr (.inr (.inl h))
    · exact .inr (.inr (.inr h))
    · exact .inr (.inl h)
    · exact .inl rfl
  simp only [isBlank, Bool.or_eq_false_iff, Bool.and_eq_false_iff, decide_eq_false_iff_not,
    beq_eq_false_iff_ne]
  omega

theorem isNameChar_of_mem_isName {name : List Char} (h : isName name = true) (hc : c ∈ name) :
    isNameChar c = true := by
  obtain ⟨d, rest, rfl⟩ := List.exists_cons_of_ne_nil (List.ne_nil_of_mem hc)
  obtain ⟨hd, hrest⟩ := Bool.and_eq_true_iff.1 h
  rcases List.mem_cons.1 hc with rfl | hc
  · exact isNameChar_of_isNameStart hd
  · exact List.all_eq_true.1 hrest c hc

theorem not_isBlank_of_mem_isName {name : List Char} (h : isName name = true) (hc : c ∈ name) :
    isBlank c = false := not_isBlank_of_isNameChar (isNameChar_of_mem_isName h hc)

theorem newline_notMem_of_isName {name : List Char} (h : isName name = true) : '\n' ∉ name := by
  intro hm
  exact absurd (not_isBlank_of_mem_isName h hm) (by decide)

theorem ne_nil_of_isName {name : List Char} (h : isName name = true) : name ≠ [] := by
  rintro rfl
  cases h

/-- Trimming does not touch an identifier. -/
theorem trim_of_isName {name : List Char} (h : isName name = true) : trim name = name :=
  trim_of_forall_not_isBlank fun _ hc ↦ not_isBlank_of_mem_isName h hc

theorem trimEnd_of_isName {name : List Char} (h : isName name = true) : trimEnd name = name :=
  trimEnd_eq_of_trim_eq (trim_of_isName h)

theorem trimStart_append_of_isName {name : List Char} (h : isName name = true)
    (cs : List Char) : trimStart (name ++ cs) = name ++ cs := by
  obtain ⟨c, rest, rfl⟩ := List.exists_cons_of_ne_nil (ne_nil_of_isName h)
  exact trimStart_cons_of_not_isBlank (not_isBlank_of_mem_isName h List.mem_cons_self)

/-- The text goes on with no character of an identifier. -/
def endsName : List Char → Bool
  | c :: _ => !isNameChar c
  | [] => true

theorem endsName_cons_of_isBlank (h : isBlank c = true) : endsName (c :: cs) = true := by
  rcases hc : isNameChar c with - | -
  · rw [endsName, hc]
    rfl
  · rw [not_isBlank_of_isNameChar hc] at h
    exact absurd h Bool.false_ne_true

/-- An identifier is taken off the front of a text, if the text ends it. -/
theorem splitName?_append {name rest : List Char} (h : isName name = true)
    (hrest : endsName rest = true) : splitName? (name ++ rest) = some (name, rest) := by
  obtain ⟨c, name, rfl⟩ := List.exists_cons_of_ne_nil (ne_nil_of_isName h)
  obtain ⟨hc, hname⟩ := Bool.and_eq_true_iff.1 h
  have hall : ∀ d ∈ name, isNameChar d = true := List.all_eq_true.1 hname
  have hstop : rest.takeWhile isNameChar = [] ∧ rest.dropWhile isNameChar = rest := by
    rcases rest with - | ⟨d, rest⟩
    · exact ⟨rfl, rfl⟩
    · have hd : isNameChar d = false := by simpa [endsName] using hrest
      exact ⟨List.takeWhile_cons_of_neg (by simp [hd]), List.dropWhile_cons_of_neg (by simp [hd])⟩
  rw [List.cons_append, splitName?, if_pos hc, List.takeWhile_append_of_pos hall,
    List.dropWhile_append_of_pos hall, hstop.1, hstop.2, List.append_nil]

/-- An identifier before the end of a text or before a blank is a word of it. -/
theorem splitWord?_append {name rest : List Char} (h : isName name = true)
    (hrest : rest = [] ∨ startsBlank rest = true) :
    splitWord? (name ++ rest) = some (name, rest) := by
  have hends : endsName rest = true := by
    rcases hrest with rfl | hrest
    · rfl
    · rcases rest with - | ⟨c, rest⟩
      · rfl
      · exact endsName_cons_of_isBlank hrest
  rw [splitWord?, splitName?_append h hends]
  rcases hrest with rfl | hrest
  · rfl
  · simp only [hrest, Bool.or_true, if_true]

/-- **A word is taken off a text** if and only if the text is that word and a rest that ends it. -/
theorem splitWord?_eq_some_iff {name rest : List Char} :
    splitWord? cs = some (name, rest) ↔
      isName name = true ∧ (rest = [] ∨ startsBlank rest = true) ∧ name ++ rest = cs := by
  constructor
  · intro h
    rw [splitWord?] at h
    split at h
    · next hname =>
      split at h
      · next hrest =>
        obtain ⟨rfl, rfl⟩ := Prod.mk.inj (Option.some.inj h)
        exact ⟨isName_of_splitName? hname, by simpa using hrest, append_of_splitName? hname⟩
      · exact nomatch h
    · exact nomatch h
  · rintro ⟨hname, hrest, rfl⟩
    exact splitWord?_append hname hrest

end ToolSchema
