/-!
# Lines

A line ends at a line feed; one carriage return just before it belongs to the line end. A last line
without a line feed counts, an empty rest after the last line feed does not.
-/

namespace ToolSchema

/-- The lines of a text, without their ends. -/
def lines : List Char → List (List Char)
  | [] => []
  | '\n' :: rest => [] :: lines rest
  | '\r' :: '\n' :: rest => [] :: lines rest
  | c :: rest =>
    match lines rest with
    | [] => [[c]]
    | l :: ls => (c :: l) :: ls

@[simp] theorem lines_nil : lines [] = [] := rfl

/-- The first line of a text without its end, and the text behind it. -/
def splitLine : List Char → List Char × List Char
  | [] => ([], [])
  | '\n' :: rest => ([], rest)
  | '\r' :: '\n' :: rest => ([], rest)
  | c :: rest => (c :: (splitLine rest).1, (splitLine rest).2)

theorem length_splitLine_le (cs : List Char) : (splitLine cs).2.length ≤ cs.length := by
  fun_induction splitLine cs with
  | case1 => exact Nat.zero_le _
  | case2 => exact Nat.le_succ _
  | case3 => simp only [List.length_cons]; omega
  | case4 _ _ _ _ ih => exact Nat.le_succ_of_le ih

end ToolSchema
