import ToolSchema.Tag.Parsed

/-!
# What a grammar promises

A tag whose text follows its grammar carries nothing that a schema could not hold. Values are
scalars, and there is one at least (`scalar_of_parseValues`); a greatest number of items is positive
(`one_le_of_parseMaxItems`). What a list of values has to pass for that is one condition
(`valuesOf_eq_ok_iff`).
-/

namespace ToolSchema

variable {mode : ValuesParsing} {payload : List Char} {vs : List Json}

/-- A result that was changed came about before. -/
theorem exists_of_map_eq_ok {ε α β : Type} {f : α → β} {x : Except ε α} {b : β}
    (h : x.map f = .ok b) : ∃ a, x = .ok a ∧ f a = b := by
  rcases x with e | a
  · cases h
  · exact ⟨a, rfl, Except.ok.inj h⟩

/-! ### Lists of values -/

/-- Values pass the check as they are, if they are scalars and there is one. -/
theorem checkValues_eq_ok_iff {vs ws : List Json} :
    checkValues vs = .ok ws ↔ ws = vs ∧ vs ≠ [] ∧ ∀ v ∈ vs, v.isScalar = true := by
  rw [checkValues]
  by_cases hne : vs = []
  · rw [if_pos (List.isEmpty_iff.2 hne)]
    exact ⟨nofun, fun h ↦ absurd hne h.2.1⟩
  · rw [if_neg (by simpa using hne)]
    split
    · next bad hbad =>
      have hscalar : bad.isScalar = false := by simpa using List.find?_some hbad
      refine ⟨nofun, fun ⟨_, _, hall⟩ ↦ ?_⟩
      rw [hall bad (List.mem_of_find?_eq_some hbad)] at hscalar
      exact absurd hscalar.symm Bool.false_ne_true
    · next hbad =>
      have hall : ∀ v ∈ vs, v.isScalar = true := by simpa using hbad
      exact ⟨fun h ↦ ⟨(Except.ok.inj h).symm, hne, hall⟩, fun h ↦ congrArg Except.ok h.1.symm⟩

/-- The checks of a list of values, one after the other. -/
theorem valuesOf_eq (mode : ValuesParsing) (payload : List Char) :
    valuesOf mode payload =
      if payload.head? = some '[' ∧ payload.getLast? = some ']' then
        if isBalanced 0 .outside payload = true then (readList mode payload).bind checkValues
        else .error .unbalancedBrackets
      else .error .notList := by
  rw [valuesOf]
  by_cases hends : payload.head? = some '[' ∧ payload.getLast? = some ']'
  · rw [if_pos hends, if_neg (by simp [hends])]
    by_cases hb : isBalanced 0 .outside payload = true
    · rw [if_pos hb]
      simp only [hb]
      rfl
    · rw [if_neg hb]
      simp only [hb]
      rfl
  · have hne : (payload.head? != some '[' || payload.getLast? != some ']') = true := by
      simpa only [Bool.or_eq_true, bne_iff_ne, Decidable.not_and_iff_or_not] using hends
    rw [if_neg hends, if_pos hne]
    rfl

/-- **When a payload lists values**: it stands in square brackets, they are balanced, and what is
read from it are scalars, one at least. -/
theorem valuesOf_eq_ok_iff :
    valuesOf mode payload = .ok vs ↔
      (payload.head? = some '[' ∧ payload.getLast? = some ']') ∧
        isBalanced 0 .outside payload = true ∧ readList mode payload = .ok vs ∧
          vs ≠ [] ∧ ∀ v ∈ vs, v.isScalar = true := by
  rw [valuesOf_eq]
  split
  · next hends =>
    split
    · next hb =>
      rcases hr : readList mode payload with e | ws
      · simp [Except.bind]
      · rw [Except.bind, checkValues_eq_ok_iff, Except.ok.injEq]
        -- the values are those that were read
        constructor
        · rintro ⟨rfl, hne, hall⟩
          exact ⟨hends, hb, rfl, hne, hall⟩
        · rintro ⟨-, -, rfl, hne, hall⟩
          exact ⟨rfl, hne, hall⟩
    · next hb => exact ⟨nofun, fun h ↦ absurd h.2.1 hb⟩
  · next hends => exact ⟨nofun, fun h ↦ absurd h.1 hends⟩

theorem scalar_of_parseValues {text parameter : String}
    (h : parseValues text mode = .ok (parameter, vs)) :
    vs ≠ [] ∧ ∀ v ∈ vs, v.isScalar = true := by
  rw [parseValues] at h
  split at h
  · cases h
  · split at h
    · cases h
    · next ws hws =>
      obtain ⟨-, rfl⟩ := Prod.mk.inj (Except.ok.inj h)
      exact (valuesOf_eq_ok_iff.1 hws).2.2.2

/-! ### Counts -/

theorem one_le_of_parseMaxItems {text parameter : String} {n : UInt64}
    (h : parseMaxItems text = .ok (parameter, n)) : 1 ≤ n := by
  rw [parseMaxItems] at h
  split at h
  · cases h
  · split at h
    · cases h
    · next hn =>
      obtain ⟨-, rfl⟩ := Prod.mk.inj (Except.ok.inj h)
      exact UInt64.le_iff_toNat_le.2 (UInt64.lt_iff_toNat_lt.1 (UInt64.pos_iff_ne_zero.2 hn))

end ToolSchema
