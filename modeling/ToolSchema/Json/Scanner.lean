import ToolSchema.Json.Fault

/-!
# Scanning JSON texts

The pieces of a JSON text that hold no other value: blanks, words, strings and numbers. Every scanner
takes the text that is left and gives what it read and the rest of the text, which is shorter
(`shorter_of_scanString`, `shorter_of_scanNumber`): readers built on them end for that reason.

Numbers are read into a significand of 64 bits. Digits that would not fit it are dropped, and the
number becomes a double precision one.
-/

namespace ToolSchema

namespace Json

/-- What a scanner gives: a fault, or what it read and the rest of the text. -/
abbrev Scan (α : Type) := Except Fault (α × List Char)

theorem rest_eq_of_ok_eq {α : Type} {a b : α} {rest last : List Char}
    (h : (.ok (a, rest) : Scan α) = .ok (b, last)) : rest = last :=
  (Prod.mk.inj (Except.ok.inj h)).2

/-- May stand between the parts of a JSON text. -/
def isGap (c : Char) : Bool := c == ' ' || c == '\n' || c == '\t' || c == '\r'

/-- The text from its first character that is no gap. -/
def skipGap (cs : List Char) : List Char := cs.dropWhile isGap

theorem length_skipGap_le (cs : List Char) : (skipGap cs).length ≤ cs.length :=
  (List.dropWhile_suffix isGap).length_le

theorem length_rest_lt_of_skipGap {cs rest : List Char} {c : Char} (h : skipGap cs = c :: rest) :
    rest.length < cs.length := by
  have := length_skipGap_le cs
  simp only [h, List.length_cons] at this
  omega

/-! ### Words -/

/-- Reads the characters of a word that must follow. -/
def scanWord : List Char → List Char → Scan Unit
  | [], rest => .ok ((), rest)
  | _ :: _, [] => .error (.before .endInValue [])
  | w :: word, c :: rest =>
    if c = w then scanWord word rest else .error (.onNext .expectedIdent (c :: rest))

theorem length_le_of_scanWord {word cs rest : List Char} {u : Unit}
    (h : scanWord word cs = .ok (u, rest)) : rest.length ≤ cs.length := by
  fun_induction scanWord word cs with
  | case1 => cases h; exact Nat.le_refl _
  | case2 => cases h
  | case3 _ _ _ ih => exact Nat.le_succ_of_le (ih h)
  | case4 => cases h

/-! ### Strings -/

/-- The value of a hexadecimal digit. -/
def hexValue? (c : Char) : Option Nat :=
  if '0' ≤ c && c ≤ '9' then some (c.toNat - '0'.toNat)
  else if 'a' ≤ c && c ≤ 'f' then some (c.toNat - 'a'.toNat + 10)
  else if 'A' ≤ c && c ≤ 'F' then some (c.toNat - 'A'.toNat + 10)
  else none

/-- The number that four characters spell in base sixteen. -/
def hexQuad? (a b c d : Char) : Option Nat := do
  return (((← hexValue? a) * 16 + (← hexValue? b)) * 16 + (← hexValue? c)) * 16 + (← hexValue? d)

/-- The fault of four bytes that are no hexadecimal digits, or of a text that ends within them. -/
def quadFault (cs : List Char) : Fault :=
  if byteCount cs < 4 then .before .endInString []
  else .placed (.grammar .invalidEscape) (byteCount cs - 4)

/-- Reads four hexadecimal digits. -/
def scanQuad (cs : List Char) : Scan Nat :=
  match cs with
  | a :: b :: c :: d :: rest =>
    match hexQuad? a b c d with
    | some n => .ok (n, rest)
    | none => .error (quadFault cs)
  | _ => .error (quadFault cs)

/-- A code unit that starts a pair. -/
def isHighSurrogate (n : Nat) : Bool := 0xD800 ≤ n && n ≤ 0xDBFF

/-- A code unit that ends a pair. -/
def isLowSurrogate (n : Nat) : Bool := 0xDC00 ≤ n && n ≤ 0xDFFF

/-- The character of a pair of code units. -/
def surrogatePair (high low : Nat) : Char :=
  Char.ofNat (0x10000 + (high - 0xD800) * 0x400 + (low - 0xDC00))

/-- Reads the second code unit of a pair, with the escape that announces it. -/
def scanLowSurrogate (high : Nat) : List Char → Scan Char
  | [] => .error (.before .endInString [])
  | ['\\'] => .error (.before .endInString [])
  | '\\' :: 'u' :: rest =>
    match scanQuad rest with
    | .error fault => .error fault
    | .ok (low, rest) =>
      if isLowSurrogate low then .ok (surrogatePair high low, rest)
      else .error (.before .loneSurrogate rest)
  | '\\' :: rest => .error (.onNext .unfinishedSurrogate rest)
  | rest => .error (.onNext .unfinishedSurrogate rest)

/-- Reads the character of an escape by its code unit, or by a pair of them. -/
def scanCodeUnit (cs : List Char) : Scan Char :=
  match scanQuad cs with
  | .error fault => .error fault
  | .ok (n, rest) =>
    if isLowSurrogate n then .error (.before .loneSurrogate rest)
    else if isHighSurrogate n then scanLowSurrogate n rest
    else .ok (Char.ofNat n, rest)

/-- The character of an escape of one letter. -/
def shortEscape? : Char → Option Char
  | '"' => some '"'
  | '\\' => some '\\'
  | '/' => some '/'
  | 'b' => some '\x08'
  | 'f' => some '\x0c'
  | 'n' => some '\n'
  | 'r' => some '\r'
  | 't' => some '\t'
  | _ => none

/-- Reads the character of an escape after its backslash. -/
def scanEscape : List Char → Scan Char
  | [] => .error (.before .endInString [])
  | 'u' :: rest => scanCodeUnit rest
  | c :: rest =>
    match shortEscape? c with
    | some d => .ok (d, rest)
    | none => .error (.onNext .invalidEscape (c :: rest))

theorem length_lt_of_scanQuad {cs rest : List Char} {n : Nat} (h : scanQuad cs = .ok (n, rest)) :
    rest.length < cs.length := by
  unfold scanQuad at h
  split at h
  · split at h
    · cases h
      simp only [List.length_cons]
      omega
    · cases h
  · cases h

theorem length_lt_of_scanLowSurrogate {high : Nat} {cs rest : List Char} {c : Char}
    (h : scanLowSurrogate high cs = .ok (c, rest)) : rest.length < cs.length := by
  unfold scanLowSurrogate at h
  split at h <;> try cases h
  split at h
  · cases h
  · next hq =>
    split at h
    · have := length_lt_of_scanQuad hq
      rw [← rest_eq_of_ok_eq h]
      simp only [List.length_cons]
      omega
    · cases h

theorem length_lt_of_scanEscape {cs rest : List Char} {c : Char} (h : scanEscape cs = .ok (c, rest)) :
    rest.length < cs.length := by
  unfold scanEscape at h
  split at h
  · cases h
  · unfold scanCodeUnit at h
    split at h
    · cases h
    · next hq =>
      have hlt := length_lt_of_scanQuad hq
      split at h
      · cases h
      · split at h
        · have := length_lt_of_scanLowSurrogate h
          simp only [List.length_cons]
          omega
        · rw [← rest_eq_of_ok_eq h]
          simp only [List.length_cons]
          omega
  · split at h
    · rw [← rest_eq_of_ok_eq h]
      simp
    · cases h

/-- Reads a string after its opening quote. -/
def scanString (cs : List Char) : Scan (List Char) :=
  match cs with
  | [] => .error (.before .endInString [])
  | '"' :: rest => .ok ([], rest)
  | '\\' :: rest =>
    match _hc : scanEscape rest with
    | .error fault => .error fault
    | .ok (c, rest') =>
      match scanString rest' with
      | .error fault => .error fault
      | .ok (text, last) => .ok (c :: text, last)
  | c :: rest =>
    if c.toNat < 0x20 then .error (.before .controlCharacter rest)
    else
      match scanString rest with
      | .error fault => .error fault
      | .ok (text, last) => .ok (c :: text, last)
termination_by cs.length
decreasing_by
  · have := length_lt_of_scanEscape ‹_›
    simp only [List.length_cons]
    omega
  · simp

theorem length_lt_of_scanString {cs text rest : List Char} (h : scanString cs = .ok (text, rest)) :
    rest.length < cs.length := by
  fun_induction scanString cs generalizing text with
  | case1 => cases h
  | case2 => cases h; simp
  | case3 => cases h
  | case4 => simp_all
  | case5 _ _ _ hc _ _ hs ih =>
    cases h
    have := length_lt_of_scanEscape hc
    have := ih hs
    simp only [List.length_cons]
    omega
  | case6 => cases h
  | case7 => simp_all
  | case8 _ _ _ _ _ _ _ hs ih =>
    cases h
    have := ih hs
    simp only [List.length_cons]
    omega

/-! ### Numbers -/

/-- A decimal digit. -/
def isDigit (c : Char) : Bool := '0' ≤ c && c ≤ '9'

/-- The value of a decimal digit. -/
def digitValue (c : Char) : Nat := c.toNat - '0'.toNat

/-- The text goes on with a digit. -/
def startsDigit : List Char → Bool
  | c :: _ => isDigit c
  | [] => false

/-- The significand of a number while it is read, and how many digits went into it. -/
structure Significand where
  value : Nat
  digits : Nat
  deriving DecidableEq, Repr

/-- Reads digits into a significand until the next one would not fit 64 bits. -/
def scanSignificand (value : Nat) : List Char → Significand × List Char
  | [] => (⟨value, 0⟩, [])
  | c :: rest =>
    if isDigit c && value * 10 + digitValue c < UInt64.size then
      let (s, rest) := scanSignificand (value * 10 + digitValue c) rest
      (⟨s.value, s.digits + 1⟩, rest)
    else (⟨value, 0⟩, c :: rest)

/-- The rest of a text behind the digits that it starts with, and their number. -/
def dropDigits (cs : List Char) : Nat × List Char :=
  ((cs.takeWhile isDigit).length, cs.dropWhile isDigit)

/-- Reads the digits of an exponent after its first one. An exponent of 31 bits or more is a fault
that gives the rest of the text behind the digit that made it so large. -/
def scanExponentDigits (value : Nat) : List Char → Except (List Char) (Nat × List Char)
  | [] => .ok (value, [])
  | c :: rest =>
    if isDigit c then
      if value * 10 + digitValue c < 2147483648 then
        scanExponentDigits (value * 10 + digitValue c) rest
      else .error rest
    else .ok (value, c :: rest)

/-- The double precision number that has been read up to `rest`, if there is one. -/
def finite (negative : Bool) (rest : List Char) : Option Magnitude → Scan Number
  | some x => .ok (.double ⟨negative, x⟩, rest)
  | none => .error (.before .numberOutOfRange rest)

/-- The double precision number of a decimal numeral that has been read up to `rest`. -/
def doubleOf (negative : Bool) (significand : Nat) (exponent : Int) (rest : List Char) :
    Scan Number :=
  finite negative rest (Magnitude.ofDecimal? significand exponent)

/-- The sign of an exponent, and what follows it. -/
def scanExponentSign : List Char → Bool × List Char
  | '+' :: rest => (false, rest)
  | '-' :: rest => (true, rest)
  | rest => (false, rest)

/-- Reads an exponent after its letter and gives the number. -/
def scanExponent (negative : Bool) (significand : Nat) (exponent : Int) (cs : List Char) :
    Scan Number :=
  let (down, rest) := scanExponentSign cs
  match rest with
  | [] => .error (.before .endInValue [])
  | c :: rest =>
    if isDigit c then
      match scanExponentDigits (digitValue c) rest with
      | .ok (shift, rest) =>
        doubleOf negative significand (if down then exponent - shift else exponent + shift) rest
      | .error rest =>
        if significand != 0 && !down then .error (.before .numberOutOfRange rest)
        else .ok (.double ⟨negative, ⟨0, 0⟩⟩, (dropDigits rest).2)
    else .error (.onNext .invalidNumber (c :: rest))

/-- Gives the number of a significand, with the exponent that may follow. -/
def scanScaled (negative : Bool) (significand : Nat) (exponent : Int) (cs : List Char) :
    Scan Number :=
  match cs with
  | 'e' :: rest => scanExponent negative significand exponent rest
  | 'E' :: rest => scanExponent negative significand exponent rest
  | _ => doubleOf negative significand exponent cs

/-- Reads the digits after the point. Those that do not fit the significand are passed over; without
any digit there is no number. -/
def scanFraction (negative : Bool) (significand : Nat) (exponent : Int) (cs : List Char) :
    Scan Number :=
  let (s, rest) := scanSignificand significand cs
  if startsDigit rest then
    scanScaled negative s.value (exponent - s.digits) (dropDigits rest).2
  else if s.digits = 0 then
    .error (if rest.isEmpty then .before .endInValue [] else .onNext .invalidNumber rest)
  else scanScaled negative s.value (exponent - s.digits) rest

/-- The integer of a sign and a significand. Zero with a sign, and what has no place in 64 bits with
it, is a double precision number. -/
def signedNumber (negative : Bool) (significand : Nat) (rest : List Char) : Scan Number :=
  let value : Int := if negative then -(significand : Int) else significand
  if negative && significand == 0 then doubleOf true 0 0 rest
  else
    match Integer64.ofInt? value with
    | some i => .ok (.integer i, rest)
    | none => doubleOf negative significand 0 rest

/-- Reads what may follow the integer digits. -/
def scanAfterInteger (negative : Bool) (significand : Nat) (cs : List Char) : Scan Number :=
  match cs with
  | '.' :: rest => scanFraction negative significand 0 rest
  | 'e' :: rest => scanExponent negative significand 0 rest
  | 'E' :: rest => scanExponent negative significand 0 rest
  | _ => signedNumber negative significand cs

/-- Reads what may follow integer digits of which the last `dropped` did not fit the significand. -/
def scanAfterLongInteger (negative : Bool) (significand dropped : Nat) (cs : List Char) :
    Scan Number :=
  match cs with
  | '.' :: rest => scanFraction negative significand dropped rest
  | _ => scanScaled negative significand dropped cs

/-- Reads a number after its sign. -/
def scanNumber (negative : Bool) (cs : List Char) : Scan Number :=
  match cs with
  | [] => .error (.before .endInValue [])
  | '0' :: rest =>
    if startsDigit rest then .error (.onNext .invalidNumber rest)
    else scanAfterInteger negative 0 rest
  | c :: rest =>
    if isDigit c then
      let (s, rest) := scanSignificand (digitValue c) rest
      if startsDigit rest then
        let (dropped, rest) := dropDigits rest
        scanAfterLongInteger negative s.value dropped rest
      else scanAfterInteger negative s.value rest
    else .error (.onNext .invalidNumber (c :: rest))

theorem length_le_of_scanSignificand (value : Nat) (cs : List Char) :
    (scanSignificand value cs).2.length ≤ cs.length := by
  fun_induction scanSignificand value cs with
  | case1 => simp
  | case2 _ _ _ _ s rest' heq ih =>
    simp only [heq] at ih
    simp only [List.length_cons]
    omega
  | case3 => simp

theorem length_dropDigits_le (cs : List Char) : (dropDigits cs).2.length ≤ cs.length :=
  (List.dropWhile_suffix isDigit).length_le

theorem length_le_of_scanExponentDigits {value n : Nat} {cs rest : List Char}
    (h : scanExponentDigits value cs = .ok (n, rest)) : rest.length ≤ cs.length := by
  fun_induction scanExponentDigits value cs with
  | case1 => cases h; simp
  | case2 _ _ _ _ _ ih => exact Nat.le_succ_of_le (ih h)
  | case3 => cases h
  | case4 => cases h; simp

theorem length_le_of_scanExponentDigits_error {value : Nat} {cs rest : List Char}
    (h : scanExponentDigits value cs = .error rest) : rest.length ≤ cs.length := by
  fun_induction scanExponentDigits value cs with
  | case1 => cases h
  | case2 _ _ _ _ _ ih => exact Nat.le_succ_of_le (ih h)
  | case3 => cases h; simp
  | case4 => cases h

theorem rest_eq_of_finite {negative : Bool} {cs rest : List Char} {x : Option Magnitude} {n : Number}
    (h : finite negative cs x = .ok (n, rest)) : rest = cs := by
  cases x with
  | none => cases h
  | some x => exact (rest_eq_of_ok_eq h).symm

theorem rest_eq_of_doubleOf {negative : Bool} {significand : Nat} {exponent : Int}
    {cs rest : List Char} {n : Number}
    (h : doubleOf negative significand exponent cs = .ok (n, rest)) : rest = cs :=
  rest_eq_of_finite h

theorem length_scanExponentSign_le (cs : List Char) :
    (scanExponentSign cs).2.length ≤ cs.length := by
  unfold scanExponentSign
  split <;> simp

theorem length_le_of_scanExponent {negative : Bool} {significand : Nat} {exponent : Int}
    {cs rest : List Char} {n : Number}
    (h : scanExponent negative significand exponent cs = .ok (n, rest)) :
    rest.length ≤ cs.length := by
  unfold scanExponent at h
  have hsign := length_scanExponentSign_le cs
  split at h
  next down signed hs =>
  simp only [hs] at hsign
  split at h
  · cases h
  · simp only [List.length_cons] at hsign
    split at h
    · split at h
      · next hd =>
        have := length_le_of_scanExponentDigits hd
        rw [rest_eq_of_doubleOf h]
        omega
      · next hd =>
        have := length_le_of_scanExponentDigits_error hd
        split at h
        · cases h
        · rw [← rest_eq_of_ok_eq h]
          exact Nat.le_trans (length_dropDigits_le _) (by omega)
    · cases h

theorem length_le_of_scanScaled {negative : Bool} {significand : Nat} {exponent : Int}
    {cs rest : List Char} {n : Number}
    (h : scanScaled negative significand exponent cs = .ok (n, rest)) :
    rest.length ≤ cs.length := by
  unfold scanScaled at h
  split at h
  · exact Nat.le_succ_of_le (length_le_of_scanExponent h)
  · exact Nat.le_succ_of_le (length_le_of_scanExponent h)
  · exact Nat.le_of_eq (congrArg List.length (rest_eq_of_doubleOf h))

theorem length_le_of_scanFraction {negative : Bool} {significand : Nat} {exponent : Int}
    {cs rest : List Char} {n : Number}
    (h : scanFraction negative significand exponent cs = .ok (n, rest)) :
    rest.length ≤ cs.length := by
  unfold scanFraction at h
  have hs := length_le_of_scanSignificand significand cs
  split at h
  next s rest' heq =>
  simp only [heq] at hs
  split at h
  · exact Nat.le_trans (length_le_of_scanScaled h) (Nat.le_trans (length_dropDigits_le _) hs)
  · split at h
    · cases h
    · exact Nat.le_trans (length_le_of_scanScaled h) hs

theorem length_le_of_signedNumber {negative : Bool} {significand : Nat} {cs rest : List Char}
    {n : Number} (h : signedNumber negative significand cs = .ok (n, rest)) :
    rest.length ≤ cs.length := by
  unfold signedNumber at h
  simp only at h
  split at h
  · exact Nat.le_of_eq (congrArg List.length (rest_eq_of_doubleOf h))
  · split at h
    · exact Nat.le_of_eq (congrArg List.length (rest_eq_of_ok_eq h).symm)
    · exact Nat.le_of_eq (congrArg List.length (rest_eq_of_doubleOf h))

theorem length_le_of_scanAfterInteger {negative : Bool} {significand : Nat} {cs rest : List Char}
    {n : Number} (h : scanAfterInteger negative significand cs = .ok (n, rest)) :
    rest.length ≤ cs.length := by
  unfold scanAfterInteger at h
  split at h
  · exact Nat.le_succ_of_le (length_le_of_scanFraction h)
  · exact Nat.le_succ_of_le (length_le_of_scanExponent h)
  · exact Nat.le_succ_of_le (length_le_of_scanExponent h)
  · exact length_le_of_signedNumber h

theorem length_le_of_scanAfterLongInteger {negative : Bool} {significand dropped : Nat}
    {cs rest : List Char} {n : Number}
    (h : scanAfterLongInteger negative significand dropped cs = .ok (n, rest)) :
    rest.length ≤ cs.length := by
  unfold scanAfterLongInteger at h
  split at h
  · exact Nat.le_succ_of_le (length_le_of_scanFraction h)
  · exact length_le_of_scanScaled h

theorem length_lt_of_scanNumber {negative : Bool} {cs rest : List Char} {n : Number}
    (h : scanNumber negative cs = .ok (n, rest)) : rest.length < cs.length := by
  unfold scanNumber at h
  split at h
  · cases h
  · split at h
    · cases h
    · exact Nat.lt_succ_of_le (length_le_of_scanAfterInteger h)
  · next c rest' _ =>
    split at h
    · have hs := length_le_of_scanSignificand (digitValue c) rest'
      split at h
      next s rest'' heq =>
      simp only [heq] at hs
      split at h
      · split at h
        next dropped last hd =>
        have hlast := length_dropDigits_le rest''
        simp only [hd] at hlast
        have := length_le_of_scanAfterLongInteger h
        simp only [List.length_cons]
        omega
      · have := length_le_of_scanAfterInteger h
        simp only [List.length_cons]
        omega
    · cases h

end Json

end ToolSchema
