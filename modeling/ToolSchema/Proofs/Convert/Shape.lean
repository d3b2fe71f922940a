import ToolSchema.Convert.Shape

/-!
# Shapes without a fault

When a target can be a tool, said without running the check: its name is an identifier, and its
parameters are passed by name under identifiers that differ (`shape_eq_ok_iff`).
-/

namespace ToolSchema

/-- The signature of a target: its parameters by name and kind, without their descriptions. -/
def Target.signature (t : Target) : List (String × ParamKind) :=
  t.params.map fun p ↦ (p.name, p.kind)

/-- The parameter is passed by name, under an identifier. -/
structure Param.IsUsable (p : Param) : Prop where
  isNamed : p.kind.isNamed = true
  isIdentifier : isIdentifier p.name = true

theorem fault?_eq_none_iff {earlier : List String} {p : Param} :
    p.fault? earlier = none ↔ p.IsUsable ∧ p.name ∉ earlier := by
  rw [Param.fault?]
  constructor
  · intro h
    split at h
    · cases h
    · next hk =>
      split at h
      · cases h
      · next hi =>
        split at h
        · cases h
        · next he => exact ⟨⟨by simpa using hk, by simpa using hi⟩, by simpa using he⟩
  · rintro ⟨⟨hk, hi⟩, he⟩
    simp [hk, hi, he]

/-- Parameters behind others have no fault if each of them is usable and all names differ. -/
theorem paramsFault?_eq_none_iff {earlier : List String} {params : List Param} :
    paramsFault? earlier params = none ↔
      (∀ p ∈ params, p.IsUsable) ∧ (params.map Param.name).Nodup ∧
        ∀ p ∈ params, p.name ∉ earlier := by
  induction params generalizing earlier with
  | nil => simp [paramsFault?]
  | cons p rest ih =>
    rw [paramsFault?]
    rcases hf : p.fault? earlier with - | fault
    · obtain ⟨hu, he⟩ := fault?_eq_none_iff.1 hf
      simp only [ih, List.map_cons, List.nodup_cons, List.forall_mem_cons, List.mem_append,
        List.mem_singleton, not_or]
      constructor
      · rintro ⟨hus, hnd, hes⟩
        -- the first name is among the earlier ones of the rest
        refine ⟨⟨hu, hus⟩, ⟨?_, hnd⟩, he, fun q hq ↦ (hes q hq).1⟩
        intro hm
        obtain ⟨q, hq, hqn⟩ := List.mem_map.1 hm
        exact (hes q hq).2 hqn
      · rintro ⟨⟨-, hus⟩, ⟨hp, hnd⟩, -, hes⟩
        exact ⟨hus, hnd, fun q hq ↦ ⟨hes q hq, fun hn ↦ hp (hn ▸ List.mem_map_of_mem hq)⟩⟩
    · refine ⟨nofun, fun ⟨hu, _, he⟩ ↦ ?_⟩
      have hnone := fault?_eq_none_iff.2 ⟨hu p (by simp), he p (by simp)⟩
      rw [hf] at hnone
      exact nomatch hnone

/-- **What the declarations say** comes about exactly for usable parameters of different names, and
is then one seed for each of them. -/
theorem extractParameters_eq_ok_iff {callable : String} {params : List Param}
    {ps : List Parameter} :
    extractParameters callable params = .ok ps ↔
      (∀ p ∈ params, p.IsUsable) ∧ (params.map Param.name).Nodup ∧ ps = params.map Param.seed := by
  have hf : paramsFault? [] params = none ↔ _ := paramsFault?_eq_none_iff
  rw [extractParameters]
  rcases h : paramsFault? [] params with - | fault
  · obtain ⟨hu, hnd, -⟩ := hf.1 h
    exact ⟨fun h ↦ ⟨hu, hnd, (Except.ok.inj h).symm⟩, fun ⟨_, _, h⟩ ↦ congrArg Except.ok h.symm⟩
  · rw [h] at hf
    refine ⟨nofun, fun ⟨hu, hnd, _⟩ ↦ ?_⟩
    exact nomatch hf.2 ⟨hu, hnd, by simp⟩

theorem shape_eq_ok_iff {t : Target} {ps : List Parameter} :
    t.shape = .ok ps ↔ isIdentifier t.name = true ∧ (∀ p ∈ t.params, p.IsUsable) ∧
      (t.params.map Param.name).Nodup ∧ ps = t.params.map Param.seed := by
  rw [Target.shape]
  split
  · next h => simp [h, extractParameters_eq_ok_iff]
  · next h => simp [h]

@[simp] theorem map_name_seed (params : List Param) :
    (params.map Param.seed).map Parameter.name = params.map Param.name := by
  simp [Param.seed, Function.comp_def]

end ToolSchema
