import ToolSchema.Text.Blank

/-!
# Identifiers

Names of tags, parameters and tools are ASCII identifiers: a letter or an underscore, then letters,
digits and underscores. `splitName?` takes the longest identifier off a text; `splitWord?` also asks
that the text ends there or goes on with a blank.
-/

namespace ToolSchema

/-- May start an identifier. -/
def isNameStart (c : Char) : Bool := c.isAlpha || c == '_'

/-- May stand in an identifier after its first character. -/
def isNameChar (c : Char) : Bool := c.isAlphanum || c == '_'

/-- The whole text is an identifier. -/
def isName : List Char → Bool
  | [] => false
  | c :: rest => isNameStart c && rest.all isNameChar

/-- `String` view of `isName`. -/
def isIdentifier (s : String) : Bool := isName s.toList

/-- The longest identifier that the text starts with, and what follows it. -/
def splitName? : List Char → Option (List Char × List Char)
  | [] => none
  | c :: rest =>
    if isNameStart c then some (c :: rest.takeWhile isNameChar, rest.dropWhile isNameChar) else none

/-- An identifier at the start of the text that ends with the text or at a blank, and what follows
it. -/
def splitWord? (cs : List Char) : Option (List Char × List Char) :=
  match splitName? cs with
  | some (name, rest) => if rest.isEmpty || startsBlank rest then some (name, rest) else none
  | none => none

theorem isNameChar_of_isNameStart {c : Char} (h : isNameStart c = true) : isNameChar c = true := by
  simp only [isNameStart, isNameChar, Char.isAlphanum, Bool.or_eq_true] at h ⊢
  rcases h with h | h
  · exact Or.inl (Or.inl h)
  · exact Or.inr h

/-- What `splitName?` takes and what it leaves make up the text. -/
theorem append_of_splitName? {cs name rest : List Char} (h : splitName? cs = some (name, rest)) :
    name ++ rest = cs := by
  cases cs with
  | nil => cases h
  | cons c cs =>
    simp only [splitName?] at h
    split at h
    · cases h
      simp [List.takeWhile_append_dropWhile]
    · cases h

/-- What `splitName?` takes is an identifier. -/
theorem isName_of_splitName? {cs name rest : List Char} (h : splitName? cs = some (name, rest)) :
    isName name = true := by
  cases cs with
  | nil => cases h
  | cons c cs =>
    simp only [splitName?] at h
    split at h
    · next hc =>
      cases h
      simp [isName, hc]
    · cases h

end ToolSchema
