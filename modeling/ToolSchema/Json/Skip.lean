import ToolSchema.Json.Reader

/-!
# Skipping values

Passing over a value that nobody asked for. Only the shape of the text is looked at: the value may nest
to any depth, its numbers may have any size and its escapes may stand for no character. The lists and
objects that are open are kept on a stack (`skipValue`, `skipRest`).
-/

namespace ToolSchema

namespace Json

/-- Passes an escape in a string after its backslash. -/
def skipEscape : List Char → Scan Unit
  | [] => .error (.before .endInString [])
  | 'u' :: rest =>
    match scanQuad rest with
    | .error fault => .error fault
    | .ok (_, rest) => .ok ((), rest)
  | c :: rest =>
    match shortEscape? c with
    | some _ => .ok ((), rest)
    | none => .error (.onNext .invalidEscape (c :: rest))

theorem length_lt_of_skipEscape {cs rest : List Char} {u : Unit} (h : skipEscape cs = .ok (u, rest)) :
    rest.length < cs.length := by
  unfold skipEscape at h
  split at h
  · cases h
  · split at h
    · cases h
    · next hq =>
      have := length_lt_of_scanQuad hq
      cases h
      exact Nat.lt_succ_of_lt this
  · split at h
    · cases h
      simp
    · cases h

/-- Passes a string after its opening quote. -/
def skipString (cs : List Char) : Scan Unit :=
  match cs with
  | [] => .error (.before .endInString [])
  | '"' :: rest => .ok ((), rest)
  | '\\' :: rest =>
    match _h : skipEscape rest with
    | .error fault => .error fault
    | .ok (_, rest') => skipString rest'
  | c :: rest =>
    if c.toNat < 0x20 then .error (.before .controlCharacter (c :: rest)) else skipString rest
termination_by cs.length
decreasing_by
  · have := length_lt_of_skipEscape _h
    simp only [List.length_cons]
    omega
  · simp

theorem length_lt_of_skipString {cs rest : List Char} {u : Unit} (h : skipString cs = .ok (u, rest)) :
    rest.length < cs.length := by
  fun_induction skipString cs with
  | case1 => cases h
  | case2 => cases h; simp
  | case3 => cases h
  | case4 _ _ _ he ih =>
    have := length_lt_of_skipEscape he
    have := ih h
    simp only [List.length_cons]
    omega
  | case5 => cases h
  | case6 _ _ _ _ _ ih =>
    have := ih h
    simp only [List.length_cons]
    omega

/-- Passes an exponent after its letter. -/
def skipExponent (cs : List Char) : Scan Unit :=
  match (scanExponentSign cs).2 with
  | [] => .error (.before .invalidNumber [])
  | c :: rest =>
    if isDigit c then .ok ((), (dropDigits rest).2)
    else .error (.onNext .invalidNumber (c :: rest))

/-- Passes the exponent that may follow. -/
def skipScale (cs : List Char) : Scan Unit :=
  match cs with
  | 'e' :: rest => skipExponent rest
  | 'E' :: rest => skipExponent rest
  | _ => .ok ((), cs)

/-- Passes what may follow the integer digits of a number. -/
def skipFraction (cs : List Char) : Scan Unit :=
  match cs with
  | '.' :: rest =>
    if startsDigit rest then skipScale (dropDigits rest).2
    else .error (.onNext .invalidNumber rest)
  | _ => skipScale cs

/-- Passes a number after its sign. -/
def skipNumber (cs : List Char) : Scan Unit :=
  match cs with
  | [] => .error (.before .invalidNumber [])
  | '0' :: rest =>
    if startsDigit rest then .error (.onNext .invalidNumber rest) else skipFraction rest
  | c :: rest =>
    if isDigit c then skipFraction (dropDigits rest).2
    else .error (.onNext .invalidNumber (c :: rest))

theorem length_le_of_skipExponent {cs rest : List Char} {u : Unit}
    (h : skipExponent cs = .ok (u, rest)) : rest.length ≤ cs.length := by
  have hsign := length_scanExponentSign_le cs
  unfold skipExponent at h
  split at h
  · cases h
  · next c tail hs =>
    rw [hs] at hsign
    simp only [List.length_cons] at hsign
    split at h
    · cases h
      have := length_dropDigits_le tail
      omega
    · cases h

theorem length_le_of_skipScale {cs rest : List Char} {u : Unit} (h : skipScale cs = .ok (u, rest)) :
    rest.length ≤ cs.length := by
  unfold skipScale at h
  split at h
  · exact Nat.le_succ_of_le (length_le_of_skipExponent h)
  · exact Nat.le_succ_of_le (length_le_of_skipExponent h)
  · cases h
    exact Nat.le_refl _

theorem length_le_of_skipFraction {cs rest : List Char} {u : Unit}
    (h : skipFraction cs = .ok (u, rest)) : rest.length ≤ cs.length := by
  unfold skipFraction at h
  split at h
  · split at h
    · exact Nat.le_succ_of_le (Nat.le_trans (length_le_of_skipScale h) (length_dropDigits_le _))
    · cases h
  · exact length_le_of_skipScale h

theorem length_lt_of_skipNumber {cs rest : List Char} {u : Unit} (h : skipNumber cs = .ok (u, rest)) :
    rest.length < cs.length := by
  unfold skipNumber at h
  split at h
  · cases h
  · split at h
    · cases h
    · exact Nat.lt_succ_of_le (length_le_of_skipFraction h)
  · split at h
    · exact Nat.lt_succ_of_le
        (Nat.le_trans (length_le_of_skipFraction h) (length_dropDigits_le _))
    · cases h

/-- Passes a value without brackets from its first character on. -/
def skipScalar (c : Char) (rest : List Char) : Scan Unit :=
  match c with
  | 'n' => scanWord ['u', 'l', 'l'] rest
  | 't' => scanWord ['r', 'u', 'e'] rest
  | 'f' => scanWord ['a', 'l', 's', 'e'] rest
  | '"' => skipString rest
  | '-' => skipNumber rest
  | c =>
    if isDigit c then skipNumber (c :: rest) else .error (.onNext .expectedValue (c :: rest))

theorem length_le_of_skipScalar {c : Char} {cs rest : List Char} {u : Unit}
    (h : skipScalar c cs = .ok (u, rest)) : rest.length ≤ cs.length := by
  unfold skipScalar at h
  split at h
  · exact length_le_of_scanWord h
  · exact length_le_of_scanWord h
  · exact length_le_of_scanWord h
  · exact Nat.le_of_lt (length_lt_of_skipString h)
  · exact Nat.le_of_lt (length_lt_of_skipNumber h)
  · split at h
    · have := length_lt_of_skipNumber h
      simp only [List.length_cons] at this
      omega
    · cases h

/-- Passes the key of a member and its colon. -/
def skipKey (cs : List Char) : Scan Unit :=
  match skipGap cs with
  | [] => .error (.before .endInObject [])
  | '"' :: rest =>
    match skipString rest with
    | .error fault => .error fault
    | .ok (_, rest) => passColon rest
  | rest => .error (.onNext .keyNotString rest)

theorem length_lt_of_skipKey {cs rest : List Char} {u : Unit} (h : skipKey cs = .ok (u, rest)) :
    rest.length < cs.length := by
  unfold skipKey at h
  split at h
  · cases h
  · next hs =>
    have := length_rest_lt_of_skipGap hs
    split at h
    · cases h
    · next hk =>
      have := length_lt_of_skipString hk
      have := length_lt_of_passColon h
      omega
  · cases h

/-- What is open around a value. -/
inductive Bracket where
  | list
  | object

mutual

/-- Passes a value, and then the rest of the lists and objects that are open around it, the innermost
first. -/
def skipValue (around : List Bracket) (cs : List Char) : Scan Unit :=
  match _h : skipGap cs with
  | [] => .error (.before .endInValue [])
  | '[' :: rest =>
    match _hs : skipGap rest with
    | [] => .error (.before .endInList [])
    | ']' :: last => skipRest around last
    | _ => skipValue (.list :: around) rest
  | '\x7b' :: rest =>
    match _hs : skipGap rest with
    | [] => .error (.before .endInObject [])
    | '\x7d' :: last => skipRest around last
    | _ =>
      match _hk : skipKey rest with
      | .error fault => .error fault
      | .ok (_, last) => skipValue (.object :: around) last
  | c :: rest =>
    match _hv : skipScalar c rest with
    | .error fault => .error fault
    | .ok (_, last) => skipRest around last
termination_by cs.length
decreasing_by
  all_goals have := length_rest_lt_of_skipGap _h
  · have := length_rest_lt_of_skipGap _hs
    omega
  · omega
  · have := length_rest_lt_of_skipGap _hs
    omega
  · have := length_lt_of_skipKey _hk
    omega
  · have := length_le_of_skipScalar _hv
    omega

/-- Passes the rest of the lists and objects that are open behind a value. -/
def skipRest (around : List Bracket) (cs : List Char) : Scan Unit :=
  match around with
  | [] => .ok ((), cs)
  | .list :: outer =>
    match _h : skipGap cs with
    | [] => .error (.before .endInList [])
    | ',' :: rest => skipValue around rest
    | ']' :: rest => skipRest outer rest
    | rest => .error (.onNext .expectedListEnd rest)
  | .object :: outer =>
    match _h : skipGap cs with
    | [] => .error (.before .endInObject [])
    | ',' :: rest =>
      match _hk : skipKey rest with
      | .error fault => .error fault
      | .ok (_, last) => skipValue around last
    | '\x7d' :: rest => skipRest outer rest
    | rest => .error (.onNext .expectedObjectEnd rest)
termination_by cs.length
decreasing_by
  all_goals have := length_rest_lt_of_skipGap _h
  · omega
  · omega
  · have := length_lt_of_skipKey _hk
    omega
  · omega

end

theorem length_of_skip (n : Nat) :
    (∀ {around cs rest} {u : Unit}, cs.length ≤ n → skipValue around cs = .ok (u, rest) →
      rest.length < cs.length) ∧
    ∀ {around cs rest} {u : Unit}, cs.length ≤ n → skipRest around cs = .ok (u, rest) →
      rest.length ≤ cs.length := by
  induction n with
  | zero =>
    constructor
    · intro around cs rest u hn h
      unfold skipValue at h
      have : cs = [] := List.length_eq_zero_iff.1 (Nat.le_zero.1 hn)
      subst this
      simp [skipGap] at h
    · intro around cs rest u hn h
      have : cs = [] := List.length_eq_zero_iff.1 (Nat.le_zero.1 hn)
      subst this
      unfold skipRest at h
      split at h
      · cases h
        simp
      · simp [skipGap] at h
      · simp [skipGap] at h
  | succ n ih =>
    obtain ⟨ihValue, ihRest⟩ := ih
    constructor
    · intro around cs rest u hn h
      unfold skipValue at h
      split at h
      · cases h
      · next hs =>
        have h1 := length_rest_lt_of_skipGap hs
        split at h
        · cases h
        · next hd =>
          have := length_rest_lt_of_skipGap hd
          have := ihRest (by omega) h
          omega
        · have := ihValue (by omega) h
          omega
      · next hs =>
        have h1 := length_rest_lt_of_skipGap hs
        split at h
        · cases h
        · next hd =>
          have := length_rest_lt_of_skipGap hd
          have := ihRest (by omega) h
          omega
        · split at h
          · cases h
          · next hk =>
            have := length_lt_of_skipKey hk
            have := ihValue (by omega) h
            omega
      · next hs =>
        have h1 := length_rest_lt_of_skipGap hs
        split at h
        · cases h
        · next hk =>
          have := length_le_of_skipScalar hk
          have := ihRest (by omega) h
          omega
    · intro around cs rest u hn h
      unfold skipRest at h
      split at h
      · cases h
        exact Nat.le_refl _
      · split at h
        · cases h
        · next hs =>
          have h1 := length_rest_lt_of_skipGap hs
          have := ihValue (by omega) h
          omega
        · next hs =>
          have h1 := length_rest_lt_of_skipGap hs
          have := ihRest (by omega) h
          omega
        · cases h
      · split at h
        · cases h
        · next hs =>
          have h1 := length_rest_lt_of_skipGap hs
          split at h
          · cases h
          · next hk =>
            have := length_lt_of_skipKey hk
            have := ihValue (by omega) h
            omega
        · next hs =>
          have h1 := length_rest_lt_of_skipGap hs
          have := ihRest (by omega) h
          omega
        · cases h

/-- Passes over any value. -/
def Reader.skip : Reader Unit where
  run := skipValue []
  shorter h := (length_of_skip _).1 (Nat.le_refl _) h

end Json

end ToolSchema
