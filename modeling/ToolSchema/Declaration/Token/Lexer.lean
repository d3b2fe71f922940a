import ToolSchema.Declaration.Token
import ToolSchema.Declaration.Token.Literal
import ToolSchema.Text.Lines

/-!
# Reading tokens

A text is cut into tokens from its start. Blanks and comments part tokens and are dropped; a comment that
documents stands for an attribute with its text. Every step takes at least one character, so the loop ends
with the text (`length_first_le`).
-/

namespace ToolSchema.Token

/-! ### Blanks and comments -/

/-- The character parts tokens: a blank, or a mark of the direction of writing. -/
def isGap (c : Char) : Bool := isBlank c || c == '\u200e' || c == '\u200f'

/-- The text of a block comment, in which `depth` further ones are open, up to its closing mark, and the
text behind that. -/
def splitBlock : Nat → List Char → List Char × List Char
  | 0, '*' :: '/' :: rest => ([], rest)
  | depth + 1, '*' :: '/' :: rest =>
    ('*' :: '/' :: (splitBlock depth rest).1, (splitBlock depth rest).2)
  | depth, '/' :: '*' :: rest =>
    ('/' :: '*' :: (splitBlock (depth + 1) rest).1, (splitBlock (depth + 1) rest).2)
  | depth, c :: rest => (c :: (splitBlock depth rest).1, (splitBlock depth rest).2)
  | _, [] => ([], [])

theorem length_splitBlock_le (depth : Nat) (cs : List Char) :
    (splitBlock depth cs).2.length ≤ cs.length := by
  fun_induction splitBlock depth cs with
  | case1 => simp only [List.length_cons]; omega
  | case2 _ _ ih => simp only [List.length_cons]; omega
  | case3 _ _ ih => simp only [List.length_cons]; omega
  | case4 _ _ _ _ _ _ ih => exact Nat.le_succ_of_le ih
  | case5 => exact Nat.zero_le _

/-- The documentation attribute with a text, behind its marks. -/
def docTokens (value : List Char) : List Token :=
  [mark '[', name "doc", mark '=', text (String.ofList value), mark ']']

/-- What a comment that takes the rest of a line stands for, given the text behind `//`. It documents if
it has a third slash and not a fourth one, or an exclamation mark. -/
def lineTokens : List Char → List Token
  | '/' :: '/' :: _ => []
  | '/' :: rest => mark '#' :: docTokens rest
  | '!' :: rest => mark '#' :: mark '!' :: docTokens rest
  | _ => []

/-- What a block comment stands for, given the text between `/*` and `*/`. It documents if it has a second
star and not a third one, or an exclamation mark. -/
def blockTokens : List Char → List Token
  | '*' :: '*' :: _ => []
  | ['*'] => []
  | '*' :: rest => mark '#' :: docTokens rest
  | '!' :: rest => mark '#' :: mark '!' :: docTokens rest
  | _ => []

/-! ### Single tokens -/

/-- The literal that a text starts with, without its suffix, and the text behind it. Strings of bytes have
no text, with or without a zero at their end. The point of a number is a mark between two literals. -/
def literal? : List Char → Option (Token × List Char)
  | '"' :: rest =>
    let (value, last) := Literal.stringValue rest
    some (text (String.ofList value), last)
  | 'b' :: '"' :: rest => some (literal, (Literal.stringValue rest).2)
  | 'c' :: '"' :: rest => some (literal, (Literal.stringValue rest).2)
  | 'r' :: rest =>
    (Literal.rawString? rest).map fun (value, last) ↦ (text (String.ofList value), last)
  | 'b' :: 'r' :: rest => (Literal.rawString? rest).map fun (_, last) ↦ (literal, last)
  | 'c' :: 'r' :: rest => (Literal.rawString? rest).map fun (_, last) ↦ (literal, last)
  | 'b' :: '\x27' :: rest => (Literal.afterCharacter? rest).map fun last ↦ (literal, last)
  | '\x27' :: rest => (Literal.afterCharacter? rest).map fun last ↦ (literal, last)
  | c :: rest =>
    if c.isDigit then some (literal, rest.dropWhile UnicodeName.isPart) else none
  | [] => none

theorem length_lt_of_literal? {cs rest : List Char} {t : Token} (h : literal? cs = some (t, rest)) :
    rest.length < cs.length := by
  unfold literal? at h
  split at h
  · next tail =>
    have := Literal.length_stringValue_le tail
    simp only [Option.some.injEq, Prod.mk.injEq] at h
    rw [← h.2, List.length_cons]
    omega
  · next tail =>
    have := Literal.length_stringValue_le tail
    simp only [Option.some.injEq, Prod.mk.injEq] at h
    rw [← h.2, List.length_cons, List.length_cons]
    omega
  · next tail =>
    have := Literal.length_stringValue_le tail
    simp only [Option.some.injEq, Prod.mk.injEq] at h
    rw [← h.2, List.length_cons, List.length_cons]
    omega
  · next tail =>
    obtain ⟨⟨value, last⟩, hr, he⟩ := Option.map_eq_some_iff.1 h
    have := Literal.length_le_of_rawString? hr
    simp only [Prod.mk.injEq] at he
    rw [← he.2, List.length_cons]
    omega
  · next tail =>
    obtain ⟨⟨value, last⟩, hr, he⟩ := Option.map_eq_some_iff.1 h
    have := Literal.length_le_of_rawString? hr
    simp only [Prod.mk.injEq] at he
    rw [← he.2, List.length_cons, List.length_cons]
    omega
  · next tail =>
    obtain ⟨⟨value, last⟩, hr, he⟩ := Option.map_eq_some_iff.1 h
    have := Literal.length_le_of_rawString? hr
    simp only [Prod.mk.injEq] at he
    rw [← he.2, List.length_cons, List.length_cons]
    omega
  · next tail =>
    obtain ⟨last, hr, he⟩ := Option.map_eq_some_iff.1 h
    have := Literal.length_le_of_afterCharacter? hr
    simp only [Prod.mk.injEq] at he
    rw [← he.2, List.length_cons, List.length_cons]
    omega
  · next tail =>
    obtain ⟨last, hr, he⟩ := Option.map_eq_some_iff.1 h
    have := Literal.length_le_of_afterCharacter? hr
    simp only [Prod.mk.injEq] at he
    rw [← he.2, List.length_cons]
    omega
  · next c tail _ _ _ _ _ _ _ _ =>
    split at h
    · have := (List.dropWhile_suffix (l := tail) UnicodeName.isPart).length_le
      simp only [Option.some.injEq, Prod.mk.injEq] at h
      rw [← h.2, List.length_cons]
      omega
    · cases h
  · cases h

/-- The text without the mark of a raw name. -/
def dropRawMark : List Char → List Char
  | 'r' :: '#' :: rest => rest
  | cs => cs

theorem length_dropRawMark_le (cs : List Char) : (dropRawMark cs).length ≤ cs.length := by
  unfold dropRawMark
  split
  · simp only [List.length_cons]
    omega
  · exact Nat.le_of_eq rfl

/-- The first token of a text that starts with no gap and no literal, and the text behind it. -/
def word (c : Char) (rest : List Char) : Token × List Char :=
  match c, rest with
  | ':', ':' :: last => (colons, last)
  | '-', '>' :: last => (arrow, last)
  | '\x27', last => (lifetime, (dropRawMark last).dropWhile UnicodeName.isPart)
  | 'r', '#' :: last =>
    (name (String.ofList ('r' :: '#' :: last.takeWhile UnicodeName.isPart)),
      last.dropWhile UnicodeName.isPart)
  | c, rest =>
    if UnicodeName.isStart c then
      (name (String.ofList (c :: rest.takeWhile UnicodeName.isPart)),
        rest.dropWhile UnicodeName.isPart)
    else (mark c, rest)

theorem length_word_le (c : Char) (rest : List Char) : (word c rest).2.length ≤ rest.length := by
  unfold word
  split
  · exact Nat.le_succ _
  · exact Nat.le_succ _
  · exact Nat.le_trans (List.dropWhile_suffix _).length_le (length_dropRawMark_le _)
  · exact Nat.le_succ_of_le (List.dropWhile_suffix _).length_le
  · split
    · exact (List.dropWhile_suffix _).length_le
    · exact Nat.le_of_eq rfl

/-- The first token of a text that starts with no gap, and the text behind it. -/
def first (c : Char) (rest : List Char) : Token × List Char :=
  match literal? (c :: rest) with
  | some (t, last) => (t, Literal.dropSuffix last)
  | none => word c rest

theorem length_first_le (c : Char) (rest : List Char) : (first c rest).2.length ≤ rest.length := by
  unfold first
  split
  · next t last h =>
    have hlast := length_lt_of_literal? h
    have hsuffix := Literal.length_dropSuffix_le last
    simp only [List.length_cons] at hlast
    simp only
    omega
  · exact length_word_le c rest

/-! ### Whole texts -/

/-- The tokens of a text. -/
def ofChars (cs : List Char) : List Token :=
  match cs with
  | [] => []
  | '/' :: '/' :: rest => lineTokens (splitLine rest).1 ++ ofChars (splitLine rest).2
  | '/' :: '*' :: rest => blockTokens (splitBlock 0 rest).1 ++ ofChars (splitBlock 0 rest).2
  | c :: rest => if isGap c then ofChars rest else (first c rest).1 :: ofChars (first c rest).2
termination_by cs.length
decreasing_by
  · have := length_splitLine_le rest
    simp only [List.length_cons]
    omega
  · have := length_splitBlock_le 0 rest
    simp only [List.length_cons]
    omega
  · simp
  · have := length_first_le c rest
    simp only [List.length_cons]
    omega

/-- The tokens of a text, which may start with a byte order mark. -/
def ofText (text : String) : List Token :=
  match text.toList with
  | '\ufeff' :: cs => ofChars cs
  | cs => ofChars cs

/-- The name that a text consists of, or the text if it is no name. -/
def nameOf (text : String) : String :=
  match ofText text with
  | [name s] => s
  | _ => text

end ToolSchema.Token
