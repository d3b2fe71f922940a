import ToolSchema.Text.UnicodeName

/-!
# Literals

String and character literals: their escapes, their values and where they end. Each function leaves a
rest that is no longer than the text it was given (`length_stringValue_le` and its like), which is what
ends the loop over a text.
-/

namespace ToolSchema.Literal

/-- The value of a hexadecimal number. -/
def hexNumber (cs : List Char) : Nat :=
  cs.foldl (fun n c ↦
    16 * n + (if c.isDigit then c.toNat - 48 else c.toLower.toNat - 87)) 0

/-- The character of an escape of one letter. -/
def shortEscape? : Char → Option Char
  | 'n' => some '\n'
  | 'r' => some '\r'
  | 't' => some '\t'
  | '0' => some '\x00'
  | '\\' => some '\\'
  | '"' => some '"'
  | '\x27' => some '\x27'
  | _ => none

/-- The character stands at the start of a line that an escaped line end continues. -/
def isIndent (c : Char) : Bool := c == ' ' || c == '\t' || c == '\n' || c == '\r'

/-- The character of an escape, behind its backslash, and the text behind it. A line end is escaped
together with the indentation behind it and stands for nothing. -/
def escape : List Char → Option Char × List Char
  | 'x' :: a :: b :: rest => (some (Char.ofNat (hexNumber [a, b])), rest)
  | 'u' :: '\x7b' :: rest =>
    let isInside (c : Char) : Bool := !(c == '\x7d')
    let digits := (rest.takeWhile isInside).filter fun c ↦ !(c == '_')
    (some (Char.ofNat (hexNumber digits)), (rest.dropWhile isInside).drop 1)
  | '\n' :: rest => (none, rest.dropWhile isIndent)
  | '\r' :: rest => (none, rest.dropWhile isIndent)
  | c :: rest => (shortEscape? c, rest)
  | [] => (none, [])

theorem length_escape_le (cs : List Char) : (escape cs).2.length ≤ cs.length := by
  unfold escape
  split
  · simp only [List.length_cons]
    omega
  · have := (List.dropWhile_suffix (l := ‹List Char›) fun c ↦ !(c == '\x7d')).length_le
    simp only [List.length_cons, List.length_drop]
    omega
  · exact Nat.le_succ_of_le (List.dropWhile_suffix isIndent).length_le
  · exact Nat.le_succ_of_le (List.dropWhile_suffix isIndent).length_le
  · simp
  · simp

/-- The value of a string literal, behind its opening quote, and the text behind it. A line end in it is
a line feed. -/
def stringValue (cs : List Char) : List Char × List Char :=
  match cs with
  | [] => ([], [])
  | '"' :: rest => ([], rest)
  | '\\' :: rest =>
    let (value, last) := stringValue (escape rest).2
    ((escape rest).1.toList ++ value, last)
  | '\r' :: '\n' :: rest =>
    let (value, last) := stringValue rest
    ('\n' :: value, last)
  | c :: rest =>
    let (value, last) := stringValue rest
    (c :: value, last)
termination_by cs.length
decreasing_by
  · have := length_escape_le rest
    simp only [List.length_cons]
    omega
  · simp only [List.length_cons]
    omega
  · simp

theorem length_stringValue_le (cs : List Char) : (stringValue cs).2.length ≤ cs.length := by
  fun_induction stringValue cs with
  | case1 => simp
  | case2 => simp
  | case3 rest _ _ hv ih =>
    have := length_escape_le rest
    rw [hv] at ih
    simp only [List.length_cons]
    simp only at ih
    omega
  | case4 _ _ _ hv ih =>
    rw [hv] at ih
    simp only [List.length_cons]
    simp only at ih
    omega
  | case5 _ _ _ _ _ _ _ hv ih =>
    rw [hv] at ih
    simp only [List.length_cons]
    simp only at ih
    omega

/-- The value of a raw string literal that ends at a quote with `hashes` hash signs behind it, and the
text behind it. -/
def rawValue (hashes : Nat) : List Char → List Char × List Char
  | [] => ([], [])
  | '"' :: rest =>
    if rest.take hashes = List.replicate hashes '#' then ([], rest.drop hashes)
    else
      let (value, last) := rawValue hashes rest
      ('"' :: value, last)
  | c :: rest =>
    let (value, last) := rawValue hashes rest
    (c :: value, last)

theorem length_rawValue_le (hashes : Nat) (cs : List Char) :
    (rawValue hashes cs).2.length ≤ cs.length := by
  fun_induction rawValue hashes cs with
  | case1 => simp
  | case2 =>
    simp only [List.length_drop, List.length_cons]
    omega
  | case3 _ _ _ _ hv ih =>
    rw [hv] at ih
    simp only [List.length_cons]
    simp only at ih
    omega
  | case4 _ _ _ _ _ hv ih =>
    rw [hv] at ih
    simp only [List.length_cons]
    simp only at ih
    omega

/-- A raw string literal behind its letters: its value and the text behind it. -/
def rawString? (cs : List Char) : Option (List Char × List Char) :=
  let hashes := (cs.takeWhile (· == '#')).length
  match cs.drop hashes with
  | '"' :: rest => some (rawValue hashes rest)
  | _ => none

theorem length_le_of_rawString? {cs value rest : List Char} (h : rawString? cs = some (value, rest)) :
    rest.length ≤ cs.length := by
  unfold rawString? at h
  simp only at h
  split at h
  · next tail hd =>
    have hlen := length_rawValue_le (cs.takeWhile (· == '#')).length tail
    have hdrop := congrArg List.length hd
    simp only [List.length_drop, List.length_cons] at hdrop
    simp only [Option.some.injEq] at h
    rw [h] at hlen
    simp only at hlen
    omega
  · cases h

/-- The text behind a character literal, from what stands behind its opening quote. -/
def afterCharacter? : List Char → Option (List Char)
  | '\\' :: rest => some ((escape rest).2.drop 1)
  | _ :: '\x27' :: rest => some rest
  | _ => none

theorem length_le_of_afterCharacter? {cs rest : List Char} (h : afterCharacter? cs = some rest) :
    rest.length ≤ cs.length := by
  unfold afterCharacter? at h
  split at h
  · next tail =>
    have := length_escape_le tail
    simp only [Option.some.injEq] at h
    rw [← h, List.length_drop, List.length_cons]
    omega
  · simp only [Option.some.injEq] at h
    rw [← h]
    simp only [List.length_cons]
    omega
  · cases h

/-- The text behind the suffix that a literal may have: a name that follows it at once. -/
def dropSuffix : List Char → List Char
  | [] => []
  | c :: rest => if UnicodeName.isStart c then rest.dropWhile UnicodeName.isPart else c :: rest

theorem length_dropSuffix_le (cs : List Char) : (dropSuffix cs).length ≤ cs.length := by
  unfold dropSuffix
  split
  · exact Nat.zero_le _
  · split
    · exact Nat.le_succ_of_le (List.dropWhile_suffix _).length_le
    · exact Nat.le_of_eq rfl

end ToolSchema.Literal
