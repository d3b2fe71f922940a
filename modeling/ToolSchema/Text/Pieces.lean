/-!
# Pieces

Splitting a text at a mark and joining texts with glue between them. A text is the join of its pieces
(`joinWith_piecesAt`).
-/

namespace ToolSchema

/-- The pieces of a text between the places where `mark` stands. There is always at least one. -/
def piecesAt (mark : Char) : List Char → List (List Char)
  | [] => [[]]
  | c :: rest =>
    if c == mark then [] :: piecesAt mark rest
    else
      match piecesAt mark rest with
      | [] => [[c]]
      | piece :: pieces => (c :: piece) :: pieces

/-- The texts in order, with `glue` between any two of them. -/
def joinWith (glue : List Char) : List (List Char) → List Char
  | [] => []
  | [t] => t
  | t :: u :: ts => t ++ glue ++ joinWith glue (u :: ts)

@[simp] theorem joinWith_nil (glue : List Char) : joinWith glue [] = [] := rfl

@[simp] theorem joinWith_singleton (glue t : List Char) : joinWith glue [t] = t := rfl

theorem joinWith_cons (glue t : List Char) {ts : List (List Char)} (h : ts ≠ []) :
    joinWith glue (t :: ts) = t ++ glue ++ joinWith glue ts := by
  cases ts with
  | nil => exact absurd rfl h
  | cons u us => rfl

theorem joinWith_append (glue : List Char) {ts us : List (List Char)} (hts : ts ≠ [])
    (hus : us ≠ []) : joinWith glue (ts ++ us) = joinWith glue ts ++ glue ++ joinWith glue us := by
  induction ts with
  | nil => exact absurd rfl hts
  | cons t ts ih =>
    by_cases h : ts = []
    · rw [h, List.singleton_append, joinWith_cons glue t hus, joinWith_singleton]
    · have hne : ts ++ us ≠ [] := List.append_ne_nil_of_left_ne_nil h us
      rw [List.cons_append, joinWith_cons glue t hne, ih h, joinWith_cons glue t h]
      simp only [List.append_assoc]

/-- A character before the first text goes before the whole. -/
theorem joinWith_cons_head (glue : List Char) (c : Char) (t : List Char) (ts : List (List Char)) :
    joinWith glue ((c :: t) :: ts) = c :: joinWith glue (t :: ts) := by
  cases ts with
  | nil => rfl
  | cons u us => rfl

/-- Joining is what the library does with lists. -/
theorem joinWith_eq_intercalate (glue : List Char) (ts : List (List Char)) :
    joinWith glue ts = glue.intercalate ts := by
  induction ts with
  | nil => rfl
  | cons t ts ih =>
    rcases ts with - | ⟨u, us⟩
    · exact List.intercalate_singleton.symm
    · rw [joinWith_cons _ _ (List.cons_ne_nil u us), ih, List.intercalate_cons_cons]

/-- The characters of the whole are those of the glue and of the texts. -/
theorem mem_joinWith {glue : List Char} {c : Char} {ts : List (List Char)}
    (h : c ∈ joinWith glue ts) : c ∈ glue ∨ ∃ t ∈ ts, c ∈ t := by
  induction ts with
  | nil => exact nomatch h
  | cons t ts ih =>
    rcases ts with - | ⟨u, us⟩
    · exact .inr ⟨t, List.mem_cons_self, h⟩
    · rw [joinWith_cons _ _ (List.cons_ne_nil u us), List.mem_append, List.mem_append] at h
      rcases h with (h | h) | h
      · exact .inr ⟨t, List.mem_cons_self, h⟩
      · exact .inl h
      · exact (ih h).imp_right fun ⟨v, hv, hc⟩ ↦ ⟨v, List.mem_cons_of_mem t hv, hc⟩

theorem mem_joinWith_of_mem {glue t : List Char} {c : Char} {ts : List (List Char)} (ht : t ∈ ts)
    (hc : c ∈ t) : c ∈ joinWith glue ts := by
  induction ts with
  | nil => exact nomatch ht
  | cons u us ih =>
    rcases us with - | ⟨v, vs⟩
    · obtain rfl := List.mem_singleton.1 ht
      exact hc
    · rw [joinWith_cons _ _ (List.cons_ne_nil v vs)]
      rcases List.mem_cons.1 ht with rfl | ht
      · exact List.mem_append_left _ (List.mem_append_left _ hc)
      · exact List.mem_append_right _ (ih ht)

theorem piecesAt_ne_nil (mark : Char) (cs : List Char) : piecesAt mark cs ≠ [] := by
  cases cs with
  | nil => exact List.cons_ne_nil _ _
  | cons c rest =>
    rw [piecesAt]
    split
    · exact List.cons_ne_nil _ _
    · split <;> exact List.cons_ne_nil _ _

/-- Nothing but the marks is lost by splitting. -/
theorem joinWith_piecesAt (mark : Char) (cs : List Char) :
    joinWith [mark] (piecesAt mark cs) = cs := by
  induction cs with
  | nil => rfl
  | cons c rest ih =>
    rw [piecesAt]
    split
    · next h =>
      rw [joinWith_cons _ _ (piecesAt_ne_nil mark rest), ih, eq_of_beq h]
      rfl
    · split
      · next h => exact absurd h (piecesAt_ne_nil mark rest)
      · next piece pieces h => rw [joinWith_cons_head, ← h, ih]

end ToolSchema
