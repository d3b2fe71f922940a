import Mathlib.Data.Nat.Digits.Defs
import ToolSchema.Proofs.Tag.TagText
import ToolSchema.Tag.Count

/-!
# Counts

Which texts are counts, and of what. A count is spelled in decimal digits, with leading zeros or
without, and its value is the positional one of base ten (`decimalValue_eq_ofDigits`); it has to fit
64 bits. Whatever else stands in the place of the digits is refused, and so is a zero where a count
must be positive (`count_grammars`).
-/

namespace ToolSchema

/-- The last digit weighs one, and every other ten times as much as the one behind it. -/
theorem decimalValue_eq_ofDigits (digits : List Char) :
    decimalValue digits = Nat.ofDigits 10 (digits.reverse.map Json.digitValue) := by
  induction digits using List.reverseRecOn with
  | nil => rfl
  | append_singleton digits c ih =>
    have hstep : decimalValue (digits ++ [c]) = 10 * decimalValue digits + Json.digitValue c := by
      rw [decimalValue, List.foldl_append]
      rfl
    rw [hstep, ih, List.reverse_append, List.reverse_singleton, List.singleton_append,
      List.map_cons, Nat.ofDigits_cons, Nat.add_comm]

/-- **When a payload is a count**: it is made of digits, and their value is that count. -/
theorem countOf_eq_ok_iff {payload : List Char} {n : UInt64} (hne : payload ≠ []) :
    countOf payload = .ok n ↔
      (∀ c ∈ payload, Json.isDigit c = true) ∧ decimalValue payload = n.toNat := by
  obtain ⟨c, rest, rfl⟩ := List.exists_cons_of_ne_nil hne
  rw [countOf]
  constructor
  · intro h
    split at h
    · cases h
    split at h
    · cases h
    · next hall =>
      split at h
      · next hlt =>
        have hall : (c :: rest).all Json.isDigit = true := by simpa using hall
        rw [← Except.ok.inj h, UInt64.toNat_ofNat_of_lt' hlt]
        exact ⟨List.all_eq_true.1 hall, rfl⟩
      · cases h
  · rintro ⟨hall, hvalue⟩
    have hsign : ((c :: rest).head? == some '-') = false := by
      refine beq_eq_false_iff_ne.2 fun h ↦ ?_
      exact absurd (Option.some.inj h ▸ hall c List.mem_cons_self) (by decide)
    rw [hsign, List.all_eq_true.2 hall, hvalue, if_neg Bool.false_ne_true, if_neg (by decide),
      if_pos n.toNat_lt, UInt64.ofNat_toNat]

variable {kind : TagKind} {text parameter : String} {n : UInt64} {e : TagError}

theorem parseCount_eq (kind : TagKind) (text : String) :
    parseCount kind text = parsePayload kind countOf text := by
  rw [parseCount, parsePayload]
  rcases Payload.ofChars? text.toList with - | p
  · rfl
  · simp only
    rcases countOf p.content with fault | n
    · rfl
    · rfl

/-- **When a text is a parameter and a count.** -/
theorem parseCount_eq_ok_iff :
    parseCount kind text = .ok (parameter, n) ↔
      ∃ digits, IsTagText text.toList parameter.toList digits ∧
        (∀ c ∈ digits, Json.isDigit c = true) ∧
        Nat.ofDigits 10 (digits.reverse.map Json.digitValue) = n.toNat := by
  simp only [← decimalValue_eq_ofDigits]
  rw [parseCount_eq, parsePayload_eq_ok_iff]
  refine exists_congr fun digits ↦ and_congr_right fun htext ↦ ?_
  obtain ⟨-, -, -, -, -, -, hne, -⟩ := htext
  exact countOf_eq_ok_iff hne

/-- A refused count keeps its text. -/
theorem parseCount_eq_error (h : parseCount kind text = .error e) :
    e.kind = kind ∧ e.text = text :=
  parsePayload_eq_error (parseCount_eq kind text ▸ h)

/-- A greatest number of items is a count that is positive. -/
theorem parseMaxItems_eq_ok_iff :
    parseMaxItems text = .ok (parameter, n) ↔
      parseCount .maxItems text = .ok (parameter, n) ∧ 0 < n := by
  rw [parseMaxItems, UInt64.pos_iff_ne_zero]
  rcases parseCount .maxItems text with e | ⟨parameter', m⟩
  · exact ⟨nofun, fun h ↦ nomatch h.1⟩
  · simp only
    split
    · next hm =>
      refine ⟨nofun, fun ⟨h, hn⟩ ↦ ?_⟩
      obtain ⟨-, rfl⟩ := Prod.mk.inj (Except.ok.inj h)
      exact absurd hm hn
    · next hm =>
      refine ⟨fun h ↦ ⟨h, ?_⟩, And.left⟩
      obtain ⟨-, rfl⟩ := Prod.mk.inj (Except.ok.inj h)
      exact hm

/-- **The grammars of counts.** A least number of items is an identifier and, behind blanks, a run
of decimal digits whose value fits 64 bits, with blanks around them or without; leading zeros do no
harm. A greatest number of items is the same and positive. Any other text is refused with an error
of that tag, which keeps the text. -/
theorem count_grammars (text : String) :
    (∀ parameter n, parseMinItems text = .ok (parameter, n) ↔
      ∃ digits, IsTagText text.toList parameter.toList digits ∧
        (∀ c ∈ digits, Json.isDigit c = true) ∧
        Nat.ofDigits 10 (digits.reverse.map Json.digitValue) = n.toNat) ∧
    (∀ parameter n, parseMaxItems text = .ok (parameter, n) ↔
      parseMinItems text = .ok (parameter, n) ∧ 0 < n) ∧
    (∀ e, parseMinItems text = .error e → e.kind = .minItems ∧ e.text = text) ∧
    ∀ e, parseMaxItems text = .error e → e.kind = .maxItems ∧ e.text = text := by
  refine ⟨fun parameter n ↦ parseCount_eq_ok_iff, fun parameter n ↦ ?_,
    fun e h ↦ parseCount_eq_error h, fun e h ↦ ?_⟩
  · -- the tag has no part in what a count is
    rw [parseMaxItems_eq_ok_iff, parseMinItems, parseCount_eq_ok_iff, parseCount_eq_ok_iff]
  · rw [parseMaxItems] at h
    split at h
    · next hcount =>
      obtain rfl := Except.error.inj h
      exact parseCount_eq_error hcount
    · split at h
      · obtain rfl := Except.error.inj h
        exact ⟨rfl, rfl⟩
      · cases h

/-- The greatest word behind leading zeros, between blanks of other scripts, and the number behind
it, which is too large. -/
theorem count_grammars_greatest :
    parseMaxItems "\u3000ids\t0018446744073709551615\u00a0" = .ok ("ids", 18446744073709551615) ∧
      ∃ e, parseMinItems "ids 18446744073709551616" = .error e ∧ e.kind = .minItems ∧
        e.text = "ids 18446744073709551616" := by
  obtain ⟨-, -, hrefused, -⟩ := count_grammars "ids 18446744073709551616"
  refine ⟨?_, _, rfl, hrefused _ rfl⟩
  obtain ⟨hmin, hmax, -⟩ := count_grammars "\u3000ids\t0018446744073709551615\u00a0"
  refine (hmax _ _).2 ⟨(hmin _ _).2 ⟨"0018446744073709551615".toList, ?_, ?_, ?_⟩, by decide⟩
  · exact ⟨['\u3000'], ['\t'], ['\u00a0'], by decide, by decide, by decide, by decide, by decide,
      List.all_eq_true.1 (by decide)⟩
  · exact List.all_eq_true.1 (by decide)
  · decide

end ToolSchema
