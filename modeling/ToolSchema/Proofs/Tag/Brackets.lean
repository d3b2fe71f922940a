import ToolSchema.Proofs.Tag.Payload

/-!
# Brackets of JSON texts

The check of brackets knows nothing of JSON: it counts square brackets and skips what stands between
quotes, with an idea of its own of where a string ends. Here it is followed through whatever the
reader of JSON takes off a text.

* `Passes` says that the check goes from one text to what is left of it, and finds nothing wrong on
  the way and nothing left open. It is carried from the scanners (`passes_of_scanString`,
  `passes_of_scanNumber`) to the values (`Reader.passesTo_json`) along the reader.
* In a string both sides agree on which quote is the last one, because an escape of JSON never has a
  quote or a backslash behind its first letter.
* A list is passed as a whole, since its items are (`Passes.brackets`); so a text that is read as a
  list is balanced, however its items nest.
-/

namespace ToolSchema

/-- **The check of brackets passes** from a text to the rest of it: from there on it takes the same
course, however many brackets are open. -/
structure Passes (q q' : Quoting) (cs rest : List Char) : Prop where
  suffix : rest <:+ cs
  balance : ∀ level, isBalanced level q cs = isBalanced level q' rest

namespace Passes

variable {q q' q'' : Quoting} {c : Char} {cs ds rest : List Char}

theorem refl (q : Quoting) (cs : List Char) : Passes q q cs cs := ⟨List.suffix_refl cs, fun _ ↦ rfl⟩

theorem trans (h : Passes q q' cs ds) (h' : Passes q' q'' ds rest) : Passes q q'' cs rest :=
  ⟨h'.suffix.trans h.suffix, fun level ↦ (h.balance level).trans (h'.balance level)⟩

theorem of_eq (h : cs = rest) : Passes q q cs rest := h ▸ refl q cs

/-- Outside of strings only quotes and square brackets count. -/
theorem cons (h : c ≠ '"' ∧ c ≠ '[' ∧ c ≠ ']') (cs : List Char) :
    Passes .outside .outside (c :: cs) cs where
  suffix := List.suffix_cons c cs
  balance level := by
    rw [← List.singleton_append]
    exact isBalanced_append (by simpa using h)

theorem dropWhile {p : Char → Bool} (h : ∀ c, p c = true → c ≠ '"' ∧ c ≠ '[' ∧ c ≠ ']')
    (cs : List Char) : Passes .outside .outside cs (cs.dropWhile p) := by
  induction cs with
  | nil => exact refl .outside []
  | cons c cs ih =>
    rw [List.dropWhile_cons]
    split
    · next hc => exact (cons (h c hc) cs).trans ih
    · exact refl .outside _

/-- Inside of strings only quotes and backslashes count. -/
theorem cons_inside (hq : c ≠ '"') (hb : c ≠ '\\') (cs : List Char) :
    Passes .inside .inside (c :: cs) cs :=
  ⟨List.suffix_cons c cs, fun _ ↦ isBalanced_inside_cons hq hb⟩

/-- What stands in square brackets is passed together with them. -/
theorem brackets (h : Passes .outside .outside cs (']' :: rest)) :
    Passes .outside .outside ('[' :: cs) rest where
  suffix := ((List.suffix_cons ']' rest).trans h.suffix).trans (List.suffix_cons '[' cs)
  balance level := by
    rw [isBalanced_open, h.balance]
    rfl

end Passes

variable {α : Type} {cs rest : List Char}

namespace Json

/-! ### Blanks and words -/

theorem passed_of_isGap (c : Char) (h : isGap c = true) : c ≠ '"' ∧ c ≠ '[' ∧ c ≠ ']' := by
  refine ⟨?_, ?_, ?_⟩ <;> exact fun hc ↦ absurd (hc ▸ h) (by decide)

theorem passed_of_isDigit (c : Char) (h : isDigit c = true) : c ≠ '"' ∧ c ≠ '[' ∧ c ≠ ']' := by
  refine ⟨?_, ?_, ?_⟩ <;> exact fun hc ↦ absurd (hc ▸ h) (by decide)

theorem passes_skipGap (cs : List Char) : Passes .outside .outside cs (skipGap cs) :=
  .dropWhile passed_of_isGap cs

theorem passes_of_scanWord {word : List Char} {u : Unit}
    (hword : ∀ c ∈ word, c ≠ '"' ∧ c ≠ '[' ∧ c ≠ ']') (h : scanWord word cs = .ok (u, rest)) :
    Passes .outside .outside cs rest := by
  fun_induction scanWord word cs with
  | case1 =>
    cases h
    exact .refl _ _
  | case2 => cases h
  | case3 _ c _ ih =>
    obtain ⟨hc, hword⟩ := List.forall_mem_cons.1 hword
    exact (Passes.cons hc _).trans (ih hword h)
  | case4 => cases h

/-! ### Strings -/

/-- A hexadecimal digit is neither a quote nor a backslash. -/
theorem ne_of_hexValue? {c : Char} {n : Nat} (h : hexValue? c = some n) : c ≠ '"' ∧ c ≠ '\\' := by
  have hnone : hexValue? '"' = none ∧ hexValue? '\\' = none := by decide
  constructor
  · rintro rfl
    exact nomatch hnone.1.symm.trans h
  · rintro rfl
    exact nomatch hnone.2.symm.trans h

theorem passes_of_scanQuad {n : Nat} (h : scanQuad cs = .ok (n, rest)) :
    Passes .inside .inside cs rest := by
  unfold scanQuad at h
  split at h
  · next a b c d tail =>
    split at h
    · next hquad =>
      obtain ⟨-, rfl⟩ := Prod.mk.inj (Except.ok.inj h)
      simp only [hexQuad?, Option.bind_eq_bind, Option.bind_eq_some_iff] at hquad
      obtain ⟨_, ha, _, hb, _, hc, _, hd, -⟩ := hquad
      have hpass {e : Char} {m : Nat} (he : hexValue? e = some m) (cs : List Char) :
          Passes .inside .inside (e :: cs) cs :=
        .cons_inside (ne_of_hexValue? he).1 (ne_of_hexValue? he).2 cs
      exact (((hpass ha _).trans (hpass hb _)).trans (hpass hc _)).trans (hpass hd _)
    · cases h
  · cases h

/-- The character behind a backslash does not count. -/
theorem passes_escaped (c : Char) (cs : List Char) : Passes .escaped .inside (c :: cs) cs :=
  ⟨List.suffix_cons c cs, fun _ ↦ rfl⟩

theorem passes_backslash (cs : List Char) : Passes .inside .escaped ('\\' :: cs) cs :=
  ⟨List.suffix_cons _ cs, fun _ ↦ rfl⟩

theorem passes_of_scanLowSurrogate {high : Nat} {c : Char}
    (h : scanLowSurrogate high cs = .ok (c, rest)) : Passes .inside .inside cs rest := by
  unfold scanLowSurrogate at h
  split at h <;> try cases h
  split at h
  · cases h
  · next hquad =>
    split at h
    · obtain rfl := rest_eq_of_ok_eq h
      exact ((passes_backslash _).trans (passes_escaped _ _)).trans (passes_of_scanQuad hquad)
    · cases h

theorem passes_of_scanEscape {c : Char} (h : scanEscape cs = .ok (c, rest)) :
    Passes .escaped .inside cs rest := by
  unfold scanEscape at h
  split at h
  · cases h
  · unfold scanCodeUnit at h
    refine (passes_escaped _ _).trans ?_
    split at h
    · cases h
    · next hquad =>
      have hpass := passes_of_scanQuad hquad
      split at h
      · cases h
      · split at h
        · exact hpass.trans (passes_of_scanLowSurrogate h)
        · obtain rfl := rest_eq_of_ok_eq h
          exact hpass
  · split at h
    · obtain rfl := rest_eq_of_ok_eq h
      exact passes_escaped _ _
    · cases h

/-- **A string is passed**: the quote that ends it is the same for both. -/
theorem passes_of_scanString {text : List Char} (h : scanString cs = .ok (text, rest)) :
    Passes .inside .outside cs rest := by
  fun_induction scanString cs generalizing text with
  | case1 => cases h
  | case2 =>
    cases h
    exact ⟨List.suffix_cons _ _, fun _ ↦ rfl⟩
  | case3 => cases h
  | case4 => simp_all
  | case5 _ _ _ hc _ _ hs ih =>
    cases h
    exact ((passes_backslash _).trans (passes_of_scanEscape hc)).trans (ih hs)
  | case6 => cases h
  | case7 => simp_all
  | case8 c tail hq hb _ _ _ hs ih =>
    cases h
    exact (Passes.cons_inside hq hb tail).trans (ih hs)

/-! ### Numbers -/

theorem passes_scanSignificand (value : Nat) (cs : List Char) :
    Passes .outside .outside cs (scanSignificand value cs).2 := by
  fun_induction scanSignificand value cs with
  | case1 => exact .refl _ _
  | case2 _ c _ hc _ _ hs ih =>
    rw [hs] at ih
    exact (Passes.cons (passed_of_isDigit c (Bool.and_eq_true_iff.1 hc).1) _).trans ih
  | case3 => exact .refl _ _

theorem passes_dropDigits (cs : List Char) : Passes .outside .outside cs (dropDigits cs).2 :=
  .dropWhile passed_of_isDigit cs

theorem passes_of_scanExponentDigits {value n : Nat}
    (h : scanExponentDigits value cs = .ok (n, rest)) : Passes .outside .outside cs rest := by
  fun_induction scanExponentDigits value cs with
  | case1 =>
    cases h
    exact .refl _ _
  | case2 _ c _ hc _ ih => exact (Passes.cons (passed_of_isDigit c hc) _).trans (ih h)
  | case3 => cases h
  | case4 =>
    cases h
    exact .refl _ _

theorem passes_of_scanExponentDigits_error {value : Nat}
    (h : scanExponentDigits value cs = .error rest) : Passes .outside .outside cs rest := by
  fun_induction scanExponentDigits value cs with
  | case1 => cases h
  | case2 _ c _ hc _ ih => exact (Passes.cons (passed_of_isDigit c hc) _).trans (ih h)
  | case3 _ c _ hc =>
    cases h
    exact .cons (passed_of_isDigit c hc) _
  | case4 => cases h

theorem passes_scanExponentSign (cs : List Char) :
    Passes .outside .outside cs (scanExponentSign cs).2 := by
  unfold scanExponentSign
  split
  · exact .cons (by decide) _
  · exact .cons (by decide) _
  · exact .refl _ _

variable {negative : Bool} {significand dropped : Nat} {exponent : Int} {n : Number}

theorem passes_of_doubleOf (h : doubleOf negative significand exponent cs = .ok (n, rest)) :
    Passes .outside .outside cs rest :=
  .of_eq (rest_eq_of_doubleOf h).symm

theorem passes_of_scanExponent (h : scanExponent negative significand exponent cs = .ok (n, rest)) :
    Passes .outside .outside cs rest := by
  have hsign := passes_scanExponentSign cs
  unfold scanExponent at h
  split at h
  next down signed hs =>
  rw [hs] at hsign
  split at h
  · cases h
  · next c tail =>
    split at h
    · next hc =>
      have hdigit : Passes .outside .outside cs tail :=
        hsign.trans (.cons (passed_of_isDigit c hc) tail)
      split at h
      · next hd =>
        exact (hdigit.trans (passes_of_scanExponentDigits hd)).trans (passes_of_doubleOf h)
      · next hd =>
        split at h
        · cases h
        · obtain rfl := rest_eq_of_ok_eq h
          exact (hdigit.trans (passes_of_scanExponentDigits_error hd)).trans (passes_dropDigits _)
    · cases h

theorem passes_of_scanScaled (h : scanScaled negative significand exponent cs = .ok (n, rest)) :
    Passes .outside .outside cs rest := by
  unfold scanScaled at h
  split at h
  · exact (Passes.cons (by decide) _).trans (passes_of_scanExponent h)
  · exact (Passes.cons (by decide) _).trans (passes_of_scanExponent h)
  · exact passes_of_doubleOf h

theorem passes_of_scanFraction (h : scanFraction negative significand exponent cs = .ok (n, rest)) :
    Passes .outside .outside cs rest := by
  have hs := passes_scanSignificand significand cs
  unfold scanFraction at h
  split at h
  next s tail heq =>
  rw [heq] at hs
  split at h
  · exact (hs.trans (passes_dropDigits _)).trans (passes_of_scanScaled h)
  · split at h
    · cases h
    · exact hs.trans (passes_of_scanScaled h)

theorem passes_of_signedNumber (h : signedNumber negative significand cs = .ok (n, rest)) :
    Passes .outside .outside cs rest := by
  unfold signedNumber at h
  simp only at h
  split at h
  · exact passes_of_doubleOf h
  · split at h
    · exact .of_eq (rest_eq_of_ok_eq h)
    · exact passes_of_doubleOf h

theorem passes_of_scanAfterInteger (h : scanAfterInteger negative significand cs = .ok (n, rest)) :
    Passes .outside .outside cs rest := by
  unfold scanAfterInteger at h
  split at h
  · exact (Passes.cons (by decide) _).trans (passes_of_scanFraction h)
  · exact (Passes.cons (by decide) _).trans (passes_of_scanExponent h)
  · exact (Passes.cons (by decide) _).trans (passes_of_scanExponent h)
  · exact passes_of_signedNumber h

theorem passes_of_scanAfterLongInteger
    (h : scanAfterLongInteger negative significand dropped cs = .ok (n, rest)) :
    Passes .outside .outside cs rest := by
  unfold scanAfterLongInteger at h
  split at h
  · exact (Passes.cons (by decide) _).trans (passes_of_scanFraction h)
  · exact passes_of_scanScaled h

/-- **A number is passed.** -/
theorem passes_of_scanNumber (h : scanNumber negative cs = .ok (n, rest)) :
    Passes .outside .outside cs rest := by
  unfold scanNumber at h
  split at h
  · cases h
  · split at h
    · cases h
    · exact (Passes.cons (by decide) _).trans (passes_of_scanAfterInteger h)
  · next c tail _ =>
    split at h
    · next hc =>
      have hs : Passes .outside .outside (c :: tail) (scanSignificand (digitValue c) tail).2 :=
        (Passes.cons (passed_of_isDigit c hc) tail).trans (passes_scanSignificand _ tail)
      split at h
      next s tail' heq =>
      rw [heq] at hs
      split at h
      · exact (hs.trans (passes_dropDigits tail')).trans (passes_of_scanAfterLongInteger h)
      · exact hs.trans (passes_of_scanAfterInteger h)
    · cases h

/-- **A value without brackets is passed** from its first character on. -/
theorem passes_of_scanScalar {c : Char} {j : Json} (h : Reader.scanScalar c cs = .ok (j, rest)) :
    Passes .outside .outside (c :: cs) rest := by
  have hnamed {word : List Char} {value : Json} (hword : ∀ c ∈ word, c ≠ '"' ∧ c ≠ '[' ∧ c ≠ ']')
      (h : Reader.scanNamed word value cs = .ok (j, rest)) : Passes .outside .outside cs rest := by
    unfold Reader.scanNamed at h
    split at h
    · cases h
    · next hw =>
      obtain rfl := rest_eq_of_ok_eq h
      exact passes_of_scanWord hword hw
  unfold Reader.scanScalar at h
  split at h
  · exact (Passes.cons (by decide) cs).trans (hnamed (by simp) h)
  · exact (Passes.cons (by decide) cs).trans (hnamed (by simp) h)
  · exact (Passes.cons (by decide) cs).trans (hnamed (by simp) h)
  · split at h
    · cases h
    · next hs =>
      obtain rfl := rest_eq_of_ok_eq h
      exact Passes.trans ⟨List.suffix_cons _ cs, fun _ ↦ isBalanced_quote⟩ (passes_of_scanString hs)
  · split at h
    · cases h
    · next hn =>
      obtain rfl := rest_eq_of_ok_eq h
      exact (Passes.cons (by decide) cs).trans (passes_of_scanNumber hn)
  · split at h
    · split at h
      · cases h
      · next hn =>
        obtain rfl := rest_eq_of_ok_eq h
        exact passes_of_scanNumber hn
    · cases h

/-! ### Lists and objects -/

theorem passes_of_nextItem {first : Bool} (h : nextItem first cs = .ok (.item rest)) :
    Passes .outside .outside cs rest := by
  have hgap := passes_skipGap cs
  unfold nextItem at h
  split at h
  · cases h
  · cases h
  · next c tail _ hs =>
    rw [hs] at hgap
    split at h
    · cases h
      exact hgap
    · split at h
      · next hc =>
        have hcomma : Passes .outside .outside cs (skipGap tail) :=
          (hgap.trans (.cons (hc ▸ by decide) tail)).trans (passes_skipGap tail)
        split at h
        · cases h
        · cases h
        · next hd =>
          cases h
          rwa [hd] at hcomma
      · cases h

/-- The end of a list stands behind its bracket. -/
theorem passes_of_nextItem_done {first : Bool} (h : nextItem first cs = .ok (.done rest)) :
    Passes .outside .outside cs (']' :: rest) := by
  have hgap := passes_skipGap cs
  unfold nextItem at h
  split at h
  · cases h
  · next hs =>
    cases h
    rwa [hs] at hgap
  · split at h
    · cases h
    · split at h
      · split at h <;> cases h
      · cases h

theorem passes_of_keyStep {name : List Char} (h : keyStep cs = .ok (.key name rest)) :
    Passes .outside .outside ('"' :: cs) rest := by
  unfold keyStep at h
  split at h
  · cases h
  · next hs =>
    cases h
    exact Passes.trans ⟨List.suffix_cons _ cs, fun _ ↦ isBalanced_quote⟩ (passes_of_scanString hs)

theorem passes_of_nextKey {first : Bool} {name : List Char}
    (h : nextKey first cs = .ok (.key name rest)) : Passes .outside .outside cs rest := by
  have hgap := passes_skipGap cs
  unfold nextKey at h
  split at h
  · cases h
  · cases h
  · next c tail _ hs =>
    rw [hs] at hgap
    split at h
    · split at h
      · next hc =>
        rw [hc] at hgap
        exact hgap.trans (passes_of_keyStep h)
      · cases h
    · split at h
      · next hc =>
        have hcomma : Passes .outside .outside cs (skipGap tail) :=
          (hgap.trans (.cons (hc ▸ by decide) tail)).trans (passes_skipGap tail)
        split at h
        · cases h
        · next hd =>
          rw [hd] at hcomma
          exact hcomma.trans (passes_of_keyStep h)
        · cases h
        · cases h
      · cases h

/-- The end of an object stands behind its brace. -/
theorem passes_of_nextKey_done {first : Bool} (h : nextKey first cs = .ok (.done rest)) :
    Passes .outside .outside cs ('\x7d' :: rest) := by
  have hgap := passes_skipGap cs
  unfold nextKey at h
  split at h
  · cases h
  · next hs =>
    cases h
    rwa [hs] at hgap
  · split at h
    · split at h
      · exact absurd h keyStep_ne_done
      · cases h
    · split at h
      · split at h
        · cases h
        · exact absurd h keyStep_ne_done
        · cases h
        · cases h
      · cases h

theorem passes_of_passColon {u : Unit} (h : passColon cs = .ok (u, rest)) :
    Passes .outside .outside cs rest := by
  have hgap := passes_skipGap cs
  unfold passColon at h
  split at h
  · cases h
  · next hs =>
    cases h
    rw [hs] at hgap
    exact hgap.trans (.cons (by decide) _)
  · cases h

namespace Reader

variable {β σ : Type} {close : List Char}

/-- **The check passes whatever the reader takes off a text**, up to the mark that ends it. -/
def PassesTo (close : List Char) (r : Reader α) : Prop :=
  ∀ ⦃cs rest : List Char⦄ ⦃v : α⦄, r.run cs = .ok (v, rest) →
    Passes .outside .outside cs (close ++ rest)

theorem passesTo_fail (fault : List Char → Fault) : (fail fault : Reader α).PassesTo close := by
  intro cs rest v hrun
  cases hrun

theorem PassesTo.map {r : Reader α} (h : r.PassesTo close) (f : α → β) :
    (r.map f).PassesTo close := by
  intro cs rest v hrun
  simp only [Reader.map] at hrun
  split at hrun
  · next hr =>
    obtain rfl := rest_eq_of_ok_eq hrun
    exact h hr
  · cases hrun

theorem PassesTo.afterColon {r : Reader α} (h : r.PassesTo close) :
    r.afterColon.PassesTo close := by
  intro cs rest v hrun
  simp only [Reader.afterColon] at hrun
  split at hrun
  · cases hrun
  · next hc => exact (passes_of_passColon hc).trans (h hrun)

/-- Items that are passed make up a list that is. -/
theorem passes_of_foldItems {item : σ → Reader σ} (h : ∀ acc, (item acc).PassesTo [])
    {first : Bool} {acc v : σ} (hrun : foldItems item first acc cs = .ok (v, rest)) :
    Passes .outside .outside cs (']' :: rest) := by
  fun_induction foldItems item first acc cs with
  | case1 => cases hrun
  | case2 _ _ _ _ hstep =>
    cases hrun
    exact passes_of_nextItem_done hstep
  | case3 => cases hrun
  | case4 _ _ _ _ hstep _ _ hitem ih =>
    exact ((passes_of_nextItem hstep).trans (h _ hitem)).trans (ih hrun)

theorem passesTo_items {item : σ → Reader σ} (h : ∀ acc, (item acc).PassesTo []) (start : σ) :
    (items item start).PassesTo [']'] :=
  fun _ _ _ hrun ↦ passes_of_foldItems h hrun

/-- Members that are passed make up an object that is. -/
theorem passes_of_foldMembers {member : σ → String → Reader σ}
    (h : ∀ acc name, (member acc name).PassesTo []) {first : Bool} {acc v : σ}
    (hrun : foldMembers member first acc cs = .ok (v, rest)) :
    Passes .outside .outside cs ('\x7d' :: rest) := by
  fun_induction foldMembers member first acc cs with
  | case1 => cases hrun
  | case2 _ _ _ _ hstep =>
    cases hrun
    exact passes_of_nextKey_done hstep
  | case3 => cases hrun
  | case4 _ _ _ _ _ hstep _ _ hmember ih =>
    exact ((passes_of_nextKey hstep).trans (h _ _ hmember)).trans (ih hrun)

theorem passesTo_members {member : σ → String → Reader σ}
    (h : ∀ acc name, (member acc name).PassesTo []) (start : σ) :
    (members member start).PassesTo ['\x7d'] :=
  fun _ _ _ hrun ↦ passes_of_foldMembers h hrun

/-- Lists and objects that are passed up to their ends make up values that are. -/
theorem passesTo_value {accept : Json → Except Mismatch α} {list object : Reader α}
    (hlist : list.PassesTo [']']) (hobject : object.PassesTo ['\x7d']) :
    (value accept list object).PassesTo [] := by
  intro cs rest v hrun
  have hgap := passes_skipGap cs
  simp only [value] at hrun
  split at hrun
  · cases hrun
  · next c tail hs =>
    rw [hs] at hgap
    refine hgap.trans ?_
    split at hrun
    · next hc =>
      rw [hc]
      exact .brackets (hlist hrun)
    · split at hrun
      · next hc =>
        rw [hc]
        exact ((Passes.cons (by decide) tail).trans (hobject hrun)).trans (.cons (by decide) rest)
      · split at hrun
        · cases hrun
        · next hscalar =>
          split at hrun
          · obtain rfl := rest_eq_of_ok_eq hrun
            exact passes_of_scanScalar hscalar
          · cases hrun

/-- **Every JSON value is passed**, however it nests. -/
theorem passesTo_json (room : Nat) : (json room).PassesTo [] := by
  induction room with
  | zero => exact passesTo_value (passesTo_fail _) (passesTo_fail _)
  | succ room ih =>
    have hlist (found : List Json) : ((json room).map (· :: found)).PassesTo [] :=
      ih.map (· :: found)
    have hobject (found : List (String × Json)) (name : String) :
        ((json room).map fun j ↦ (name, j) :: found).afterColon.PassesTo [] :=
      (ih.map fun j ↦ (name, j) :: found).afterColon
    exact passesTo_value ((passesTo_items hlist []).map _) ((passesTo_members hobject []).map _)

end Reader

end Json

end ToolSchema
