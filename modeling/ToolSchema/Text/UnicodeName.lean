import ToolSchema.Text.Identifier
import ToolSchema.Text.UnicodeName.Table

/-!
# Names of all scripts

The names of a declaration's parts: a letter of any script or an underscore, then letters, digits, marks
and connectors. The ASCII identifiers are the names without a character from U+0080 on
(`isName_of_isIdentifier`).
-/

namespace ToolSchema.UnicodeName

/-- May start a name. -/
def isStart (c : Char) : Bool := isNameStart c || (0x80 ≤ c.toNat && inRanges letterRanges c.toNat)

/-- May stand in a name after its first character. -/
def isPart (c : Char) : Bool :=
  isNameChar c ||
    (0x80 ≤ c.toNat && (inRanges letterRanges c.toNat || inRanges markRanges c.toNat))

/-- The whole text is a name. -/
def isName : List Char → Bool
  | [] => false
  | c :: rest => isStart c && rest.all isPart

theorem isPart_of_isStart {c : Char} (h : isStart c = true) : isPart c = true := by
  simp only [isStart, Bool.or_eq_true, Bool.and_eq_true] at h
  simp only [isPart, Bool.or_eq_true, Bool.and_eq_true]
  rcases h with h | ⟨hc, h⟩
  · exact Or.inl (isNameChar_of_isNameStart h)
  · exact Or.inr ⟨hc, Or.inl h⟩

/-- Every ASCII identifier is a name. -/
theorem isName_of_isIdentifier {cs : List Char} (h : ToolSchema.isName cs = true) :
    isName cs = true := by
  cases cs with
  | nil => exact h
  | cons c rest =>
    simp only [ToolSchema.isName, Bool.and_eq_true, List.all_eq_true] at h
    simp only [isName, isStart, isPart, Bool.and_eq_true, Bool.or_eq_true, List.all_eq_true]
    exact ⟨Or.inl h.1, fun d hd ↦ Or.inl (h.2 d hd)⟩

end ToolSchema.UnicodeName
