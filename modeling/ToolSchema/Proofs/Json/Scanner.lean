import Mathlib.Data.Nat.Basic
import ToolSchema.Json.Scanner

/-!
# Scanning what was printed

The scanners take printed strings and integers off the front of a text and leave what stands behind
them.

* A character is read back from its escape, whichever one the printer chose
  (`scanString_escapedChar`), and so a string is, character by character (`scanString_flatMap`).
* The digits of a number that fits 64 bits all go into the significand (`scanSignificand_append`).
  Behind an integer the text must not go on like a number (`endsNumber`); then the integer is read
  back with its sign (`scanNumber_decimalDigits`).
-/

namespace ToolSchema

namespace Json

/-! ### Strings -/

/-- A plain character of a string stands for itself. -/
theorem scanString_cons {c : Char} {cs text rest : List Char} (hq : c ≠ '"') (hb : c ≠ '\\')
    (hc : ¬c.toNat < 0x20) (h : scanString cs = .ok (text, rest)) :
    scanString (c :: cs) = .ok (c :: text, rest) := by
  rw [scanString.eq_def]
  split
  · next he => cases he
  · next he => exact absurd (List.cons.inj he).1 hq
  · next he => exact absurd (List.cons.inj he).1 hb
  · next he =>
    obtain ⟨rfl, rfl⟩ := List.cons.inj he
    rw [if_neg hc, h]

/-- An escape stands for its character. -/
theorem scanString_escape {c : Char} {cs cs' text rest : List Char}
    (he : scanEscape cs = .ok (c, cs')) (h : scanString cs' = .ok (text, rest)) :
    scanString ('\\' :: cs) = .ok (c :: text, rest) := by
  rw [scanString.eq_def]
  simp only
  split
  · next hf => rw [he] at hf; cases hf
  · next hf =>
    rw [he] at hf
    obtain ⟨rfl, rfl⟩ := Prod.mk.inj (Except.ok.inj hf)
    rw [h]

/-- The hexadecimal escape of a control character spells its number. -/
theorem scanEscape_control {c : Char} (h : c.toNat < 0x20) (rest : List Char) :
    scanEscape ('u' :: '0' :: '0' :: hexDigit (c.toNat / 16) :: hexDigit (c.toNat % 16) :: rest) =
      .ok (c, rest) := by
  have hquad : ∀ n < 0x20, hexQuad? '0' '0' (hexDigit (n / 16)) (hexDigit (n % 16)) = some n := by
    decide
  have hlow : isLowSurrogate c.toNat = false := by simp [isLowSurrogate]; omega
  have hhigh : isHighSurrogate c.toNat = false := by simp [isHighSurrogate]; omega
  rw [scanEscape, scanCodeUnit, scanQuad, hquad c.toNat h]
  simp [hlow, hhigh]

/-- **A character is read back**, in whatever way it was written. -/
theorem scanString_escapedChar (c : Char) {cs text rest : List Char}
    (h : scanString cs = .ok (text, rest)) :
    scanString (escapedChar c ++ cs) = .ok (c :: text, rest) := by
  unfold escapedChar
  split
  -- the characters with an escape of one letter
  iterate 7 exact scanString_escape rfl h
  · next hq hb _ _ _ _ _ =>
    split
    · next hc => exact scanString_escape (scanEscape_control hc cs) h
    · next hc => exact scanString_cons hq hb hc h

/-- **A string is read back** up to its closing quote. -/
theorem scanString_flatMap (s rest : List Char) :
    scanString (s.flatMap escapedChar ++ '"' :: rest) = .ok (s, rest) := by
  induction s with
  | nil => rw [List.flatMap_nil, List.nil_append, scanString]
  | cons c s ih =>
    rw [List.flatMap_cons, List.append_assoc]
    exact scanString_escapedChar c ih

/-! ### Digits -/

theorem isDigit_of_mem_decimalDigits {n : Nat} {c : Char} (h : c ∈ decimalDigits n) :
    isDigit c = true :=
  Nat.isDigit_of_mem_toDigits (by decide) (by decide) h

theorem decimalDigits_ne_nil (n : Nat) : decimalDigits n ≠ [] := Nat.toDigits_ne_nil

theorem ofDigitChars_decimalDigits (n : Nat) : Nat.ofDigitChars 10 (decimalDigits n) 0 = n :=
  Nat.ofDigitChars_ten_toDigits

/-- Only zero starts with a zero. -/
theorem eq_zero_of_decimalDigits {n : Nat} {rest : List Char}
    (h : decimalDigits n = '0' :: rest) : n = 0 ∧ rest = [] := by
  induction n using Nat.strongRecOn generalizing rest with
  | ind n ih =>
    rw [decimalDigits, Nat.toDigits_eq_if (by decide)] at h
    split at h
    · next hn =>
      obtain ⟨hc, hrest⟩ := List.cons.inj h
      have hzero : ∀ m < 10, Nat.digitChar m = '0' → m = 0 := by decide
      exact ⟨hzero n hn hc, hrest.symm⟩
    · next hn =>
      -- the digits before the last one are those of a smaller number, and not of zero
      obtain ⟨c, cs, hcs⟩ := List.exists_cons_of_ne_nil (decimalDigits_ne_nil (n / 10))
      have hcs' : Nat.toDigits 10 (n / 10) = c :: cs := hcs
      rw [hcs', List.cons_append] at h
      obtain ⟨rfl, -⟩ := List.cons.inj h
      have := (ih (n / 10) (by omega) hcs).1
      omega

/-- Reading more digits makes no number smaller. -/
theorem le_ofDigitChars (digits : List Char) (value : Nat) :
    value ≤ Nat.ofDigitChars 10 digits value := by
  rw [Nat.ofDigitChars_eq_ofDigitChars_zero]
  have := Nat.le_mul_of_pos_left value (Nat.pow_pos (n := digits.length) (show 0 < 10 by decide))
  omega

/-- **Digits that fit 64 bits** all go into the significand. -/
theorem scanSignificand_append {digits rest : List Char} {value : Nat}
    (hdigits : ∀ c ∈ digits, isDigit c = true) (hrest : startsDigit rest = false)
    (hfit : Nat.ofDigitChars 10 digits value < UInt64.size) :
    scanSignificand value (digits ++ rest) =
      (⟨Nat.ofDigitChars 10 digits value, digits.length⟩, rest) := by
  induction digits generalizing value with
  | nil =>
    rcases rest with - | ⟨c, rest⟩
    · rfl
    · have hc : isDigit c = false := hrest
      rw [List.nil_append, scanSignificand, hc]
      rfl
  | cons c digits ih =>
    obtain ⟨hc, hdigits⟩ := List.forall_mem_cons.1 hdigits
    have hstep : Nat.ofDigitChars 10 (c :: digits) value =
        Nat.ofDigitChars 10 digits (value * 10 + digitValue c) := by
      rw [Nat.ofDigitChars_cons, Nat.mul_comm 10 value]
      rfl
    rw [hstep] at hfit ⊢
    -- no digit overflows the word, since the digits behind it make nothing smaller
    have hvalue : value * 10 + digitValue c < UInt64.size :=
      Nat.lt_of_le_of_lt (le_ofDigitChars digits _) hfit
    rw [List.cons_append, scanSignificand, if_pos (by simp [hc, hvalue]), ih hdigits hfit]
    rfl

/-! ### Integers -/

/-- The text does not go on like a number. -/
def endsNumber : List Char → Bool
  | c :: _ => !isDigit c && c != '.' && c != 'e' && c != 'E'
  | [] => true

theorem startsDigit_of_endsNumber {rest : List Char} (h : endsNumber rest = true) :
    startsDigit rest = false := by
  rcases rest with - | ⟨c, rest⟩
  · rfl
  · simp only [endsNumber, Bool.and_eq_true, Bool.not_eq_true'] at h
    exact h.1.1.1

theorem scanAfterInteger_of_endsNumber {rest : List Char} (h : endsNumber rest = true)
    (negative : Bool) (n : Nat) :
    scanAfterInteger negative n rest = signedNumber negative n rest := by
  unfold scanAfterInteger
  split
  · exact absurd h (by simp [endsNumber])
  · exact absurd h (by simp [endsNumber])
  · exact absurd h (by simp [endsNumber])
  · rfl

/-- **An integer is read back** behind its sign. -/
theorem scanNumber_decimalDigits {n : Nat} (hn : n < UInt64.size) {rest : List Char}
    (hrest : endsNumber rest = true) (negative : Bool) :
    scanNumber negative (decimalDigits n ++ rest) = signedNumber negative n rest := by
  obtain ⟨c, digits, hcs⟩ := List.exists_cons_of_ne_nil (decimalDigits_ne_nil n)
  have hall : ∀ d ∈ c :: digits, isDigit d = true := fun d hd ↦
    isDigit_of_mem_decimalDigits (hcs ▸ hd)
  obtain ⟨hc, hdigits⟩ := List.forall_mem_cons.1 hall
  have hstarts := startsDigit_of_endsNumber hrest
  rw [hcs, List.cons_append]
  by_cases hzero : c = '0'
  · -- zero is its only digit
    subst hzero
    obtain ⟨rfl, rfl⟩ := eq_zero_of_decimalDigits hcs
    rw [List.nil_append, scanNumber, if_neg (by simp [hstarts]),
      scanAfterInteger_of_endsNumber hrest]
  · have hvalue : Nat.ofDigitChars 10 digits (digitValue c) = n := by
      have h := ofDigitChars_decimalDigits n
      rw [hcs, Nat.ofDigitChars_cons, Nat.mul_zero, Nat.zero_add] at h
      exact h
    have hscan : scanSignificand (digitValue c) (digits ++ rest) = _ :=
      scanSignificand_append hdigits hstarts (by rwa [hvalue])
    unfold scanNumber
    split
    · next he => cases he
    · next he => exact absurd (List.cons.inj he).1 hzero
    · next he =>
      obtain ⟨rfl, rfl⟩ := List.cons.inj he
      rw [if_pos hc, hscan]
      simp only [hstarts, Bool.false_eq_true, if_false, hvalue]
      exact scanAfterInteger_of_endsNumber hrest negative n

/-- The integers of 64 bits are numbers as they stand; zero is written without a sign. -/
theorem signedNumber_eq_ok (negative : Bool) (n : Nat) (i : Integer64)
    (hi : i.value = if negative then -(n : Int) else n) (hn : negative = true → n ≠ 0)
    (rest : List Char) : signedNumber negative n rest = .ok (.integer i, rest) := by
  have hofInt : Integer64.ofInt? i.value = some i := by
    rw [Integer64.ofInt?, dif_pos ⟨i.lower, i.upper⟩]
  have hsign : (negative && n == 0) = false := by
    cases negative with
    | false => rfl
    | true => simpa using hn rfl
  rw [signedNumber, ← hi, hsign, hofInt]
  rfl

end Json

end ToolSchema
