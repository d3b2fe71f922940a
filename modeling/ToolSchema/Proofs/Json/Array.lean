import ToolSchema.Proofs.Json.Reader

/-!
# Arrays as lists

An array can be read as a value or as the list of its items. The two readers keep different states
while they go over the items, since the keys of objects are merged once at the end by the one and
item by item by the other; but they go hand in hand (`foldItems_map`). So a text is that of an array
exactly if it is that of a list of values (`readText_any_eq_array_iff`), and if it is neither, both
name the same fault (`readText_any_of_bracket`).
-/

namespace ToolSchema

namespace Json

/-! ### Items of lists -/

theorem Reader.run_map {α β : Type} (f : α → β) (r : Reader α) (cs : List Char) :
    (r.map f).run cs = (r.run cs).map (Prod.map f id) := by
  simp only [Reader.map]
  rcases r.run cs with fault | ⟨v, rest⟩
  · rfl
  · rfl

/-- **Two folds over the items of a list** stay together if their steps do: they come to states that
belong together, and refuse a text with the same fault. -/
theorem foldItems_map {σ τ : Type} {item : σ → Reader σ} {item' : τ → Reader τ} (f : σ → τ)
    (h : ∀ acc cs, (item' (f acc)).run cs = ((item acc).run cs).map (Prod.map f id))
    (first : Bool) (acc : σ) (cs : List Char) :
    foldItems item' first (f acc) cs = (foldItems item first acc cs).map (Prod.map f id) := by
  fun_induction foldItems item first acc cs with
  | case1 first acc cs fault hstep =>
    rw [foldItems.eq_def]
    split
    · next h => rw [hstep] at h; cases h; rfl
    · next h => rw [hstep] at h; cases h
    · next h => rw [hstep] at h; cases h
  | case2 first acc cs rest hstep => exact foldItems_of_done hstep (f acc)
  | case3 first acc cs rest hstep fault hrun =>
    have hrun' : (item' (f acc)).run rest = .error fault := by
      rw [h, hrun]
      rfl
    rw [foldItems.eq_def]
    split
    · next h => rw [hstep] at h; cases h
    · next h => rw [hstep] at h; cases h
    · next h =>
      rw [hstep] at h
      cases h
      split
      · next h => rw [hrun'] at h; cases h; rfl
      · next h => rw [hrun'] at h; cases h
  | case4 first acc cs rest hstep acc' rest' hrun ih =>
    have hrun' : (item' (f acc)).run rest = .ok (f acc', rest') := by
      rw [h, hrun]
      rfl
    rw [foldItems_of_item hstep hrun', ih]

theorem mergedItems_eq_map (js : List Json) : mergedItems js = js.map merged := by
  induction js with
  | nil => rw [mergedItems, List.map_nil]
  | cons j js ih => rw [mergedItems, ih, List.map_cons]

namespace Decoder

variable {α : Type} {d : Decoder α} {room : Nat} {cs tail rest : List Char}

/-- A list starts with its bracket, and its items are read from behind it. -/
theorem run_list (d : Decoder α) (room : Nat) (hs : skipGap cs = '[' :: tail) :
    ((list d).fromText (room + 1)).run cs =
      ((Reader.items (fun found ↦ (d.fromText room).map (· :: found)) []).map List.reverse).run
        tail := by
  simp only [list, Reader.value, hs]
  rfl

theorem exists_skipGap_of_run_list {vs : List α}
    (h : ((list d).fromText room).run cs = .ok (vs, rest)) : ∃ tail, skipGap cs = '[' :: tail := by
  simp only [list, Reader.value] at h
  split at h
  · cases h
  · next c tail hs =>
    split at h
    · next hc => exact ⟨tail, hc ▸ hs⟩
    · split at h
      · cases h
      · split at h
        · cases h
        · cases h

/-- **An array is the list of its items**, whether it is read as a value or as a list of values. -/
theorem run_any_of_bracket (room : Nat) (hs : skipGap cs = '[' :: tail) :
    (any.fromText (room + 1)).run cs =
      (((list any).fromText (room + 1)).run cs).map (Prod.map array id) := by
  have hstep (found : List Json) (cs : List Char) :
      ((any.fromText room).map (· :: found.map merged)).run cs =
        (((Reader.json room).map (· :: found)).run cs).map (Prod.map (List.map merged) id) := by
    simp only [any, Reader.run_map]
    rcases (Reader.json room).run cs with fault | ⟨j, rest⟩
    · rfl
    · rfl
  have hfold : foldItems (fun found ↦ (any.fromText room).map (· :: found)) true [] tail =
      (foldItems (fun found ↦ (Reader.json room).map (· :: found)) true [] tail).map
        (Prod.map (List.map merged) id) := foldItems_map (List.map merged) hstep true [] tail
  have hvalue : (Reader.json (room + 1)).run cs =
      ((Reader.items (fun found ↦ (Reader.json room).map (· :: found)) []).map
        fun found ↦ array found.reverse).run tail := by
    simp only [Reader.json, Reader.value, hs]
    rfl
  have hany : (any.fromText (room + 1)).run cs =
      ((Reader.json (room + 1)).run cs).map (Prod.map merged id) := Reader.run_map merged _ cs
  rw [run_list any room hs, Reader.run_map, hany, hvalue, Reader.run_map]
  simp only [Reader.items, hfold]
  rcases foldItems (fun found ↦ (Reader.json room).map (· :: found)) true [] tail with
    fault | ⟨found, rest⟩
  · rfl
  · simp only [Except.map, Prod.map, merged, mergedItems_eq_map, List.map_reverse, id_eq]

/-- Only brackets make an array. -/
theorem scanScalar_ne_array {c : Char} {js : List Json} :
    Reader.scanScalar c cs ≠ .ok (.array js, rest) := by
  have hnamed {word : List Char} {value : Json} (h : value ≠ .array js) :
      Reader.scanNamed word value cs ≠ .ok (.array js, rest) := by
    intro hscan
    unfold Reader.scanNamed at hscan
    split at hscan
    · cases hscan
    · exact h (Prod.mk.inj (Except.ok.inj hscan)).1
  intro h
  unfold Reader.scanScalar at h
  split at h
  iterate 3 exact hnamed (by simp) h
  · split at h <;> cases h
  · split at h <;> cases h
  · split at h
    · split at h <;> cases h
    · cases h

theorem exists_skipGap_of_run_any {js : List Json}
    (h : (any.fromText (room + 1)).run cs = .ok (.array js, rest)) :
    ∃ tail, skipGap cs = '[' :: tail := by
  have hany : (any.fromText (room + 1)).run cs =
      ((Reader.json (room + 1)).run cs).map (Prod.map merged id) := Reader.run_map merged _ cs
  rw [hany] at h
  rcases hrun : (Reader.json (room + 1)).run cs with fault | ⟨j, last⟩
  · rw [hrun] at h
    cases h
  rw [hrun] at h
  obtain ⟨hj, -⟩ := Prod.mk.inj (Except.ok.inj h)
  -- keys that repeat are merged in objects, so it was an array that was read
  obtain ⟨js', rfl⟩ : ∃ js', j = array js' := by
    cases j with
    | array js' => exact ⟨js', rfl⟩
    | _ => simp [merged] at hj
  simp only [Reader.json, Reader.value] at hrun
  split at hrun
  · cases hrun
  · next c tail hs =>
    split at hrun
    · next hc => exact ⟨tail, hc ▸ hs⟩
    · split at hrun
      · simp only [Reader.map] at hrun
        split at hrun <;> cases hrun
      · split at hrun
        · cases hrun
        · next hscalar =>
          cases hrun
          exact absurd hscalar scanScalar_ne_array

/-- The text of a list, read as a value. -/
theorem readText_any_of_bracket {s : String} (hs : skipGap s.toList = '[' :: tail) :
    any.readText s = ((list any).readText s).map .array := by
  have hrun := run_any_of_bracket 126 hs
  simp only [readText, maxDepth, hrun]
  rcases ((list any).fromText 127).run s.toList with fault | ⟨vs, rest⟩
  · rfl
  · simp only [Except.map, Prod.map, id_eq]
    split <;> rfl

/-- **The text of an array is that of a list**, and the other way round. -/
theorem readText_any_eq_array_iff {s : String} {vs : List Json} :
    any.readText s = .ok (.array vs) ↔ (list any).readText s = .ok vs := by
  constructor
  · intro h
    obtain ⟨tail, hs⟩ : ∃ tail, skipGap s.toList = '[' :: tail := by
      simp only [readText, maxDepth] at h
      split at h
      · cases h
      · next hrun =>
        split at h
        · cases h
          exact exists_skipGap_of_run_any hrun
        · cases h
    rw [readText_any_of_bracket hs] at h
    rcases hlist : (list any).readText s with e | vs'
    · rw [hlist] at h
      cases h
    · rw [hlist] at h
      rw [← Json.array.inj (Except.ok.inj h)]
  · intro h
    obtain ⟨tail, hs⟩ : ∃ tail, skipGap s.toList = '[' :: tail := by
      simp only [readText] at h
      split at h
      · cases h
      · next hrun => exact exists_skipGap_of_run_list hrun
    rw [readText_any_of_bracket hs, h]
    rfl

end Decoder

end Json

end ToolSchema
