import ToolSchema.Manifest
import ToolSchema.Proofs.Convert.Asked

/-!
# Runs over several targets

The targets of a manifest are converted one after the other, each with the index that the ones
before it left behind. The two kinds of runs have the same results (`result_convertFrom`): the run
that passes over failures and the one that ends with the first.

The results are those of the targets alone (`result_convertEach`). The index is shared, so there is
a condition (`AreIndependent`). If two targets spell one path in two ways that are not read alike,
with a slash at the end in one of them, then the file that the first of them read is had for the
second one, too, while it alone would go without.
-/

namespace ToolSchema

/-! ### First failures -/

section Failures

variable {α β : Type} {results : List (Except ConvertError α)} {position i : Nat} {e : ConvertError}

/-- What results come to if the first failure ends the work. The first result has the number
`position`. -/
def collect (position : Nat) : List (Except ConvertError α) → Except BatchError (List α)
  | [] => .ok []
  | .error e :: _ => .error ⟨position, e⟩
  | .ok a :: rest => (collect (position + 1) rest).map (a :: ·)

/-- The result in a place is a failure, and no result before it is. -/
def FirstFailureAt (results : List (Except ConvertError α)) (i : Nat) (e : ConvertError) : Prop :=
  results[i]? = some (.error e) ∧ ∀ j < i, ∃ a, results[j]? = some (.ok a)

theorem firstFailureAt_error_cons {e' : ConvertError} :
    FirstFailureAt (.error e' :: results) i e ↔ i = 0 ∧ e' = e := by
  constructor
  · rintro ⟨hi, hfirst⟩
    cases i with
    | zero => exact ⟨rfl, Except.error.inj (Option.some.inj hi)⟩
    | succ i =>
      obtain ⟨a, ha⟩ := hfirst 0 (Nat.succ_pos i)
      exact nomatch ha
  · rintro ⟨rfl, rfl⟩
    exact ⟨rfl, nofun⟩

/-- Behind a success, the first failure is one place further. -/
theorem firstFailureAt_ok_cons {a : α} :
    FirstFailureAt (.ok a :: results) i e ↔ ∃ k, i = k + 1 ∧ FirstFailureAt results k e := by
  constructor
  · rintro ⟨hi, hfirst⟩
    cases i with
    | zero => exact nomatch hi
    | succ k => exact ⟨k, rfl, hi, fun j hj ↦ hfirst (j + 1) (Nat.succ_lt_succ hj)⟩
  · rintro ⟨k, rfl, hk, hfirst⟩
    refine ⟨hk, fun j hj ↦ ?_⟩
    cases j with
    | zero => exact ⟨a, rfl⟩
    | succ j => exact hfirst j (Nat.lt_of_succ_lt_succ hj)

theorem map_eq_error_iff {b : BatchError} {x : Except BatchError α} (f : α → β) :
    x.map f = .error b ↔ x = .error b := by
  cases x <;> simp [Except.map]

theorem map_cons_eq_ok_iff {a : α} {x : Except BatchError (List α)} {as : List α} :
    x.map (a :: ·) = .ok as ↔ ∃ rest, x = .ok rest ∧ as = a :: rest := by
  cases x <;> simp [Except.map, eq_comm]

/-- The work is done if there is no failure. -/
theorem collect_eq_ok_iff {as : List α} :
    collect position results = .ok as ↔ results = as.map .ok := by
  induction results generalizing position as with
  | nil => simp [collect, eq_comm]
  | cons r rest ih =>
    cases r with
    | error e => cases as <;> simp [collect]
    | ok a =>
      rw [collect, map_cons_eq_ok_iff]
      simp only [ih]
      constructor
      · rintro ⟨bs, hrest, rfl⟩
        rw [hrest, List.map_cons]
      · intro h
        cases as with
        | nil => cases h
        | cons b bs =>
          obtain ⟨hab, hrest⟩ := List.cons.inj h
          exact ⟨bs, hrest, by rw [Except.ok.inj hab]⟩

/-- **The failure that ends the work is the first one.** -/
theorem collect_eq_error_iff {b : BatchError} : collect position results = .error b ↔
    ∃ i, b.index = position + i ∧ FirstFailureAt results i b.error := by
  induction results generalizing position with
  | nil => simp [collect, FirstFailureAt]
  | cons r rest ih =>
    cases r with
    | error e =>
      obtain ⟨n, e'⟩ := b
      simp [collect, firstFailureAt_error_cons, eq_comm]
    | ok a =>
      rw [collect, map_eq_error_iff, ih]
      simp only [firstFailureAt_ok_cons]
      constructor
      · rintro ⟨i, hi, hfirst⟩
        exact ⟨i + 1, by omega, i, rfl, hfirst⟩
      · rintro ⟨_, hi, k, rfl, hfirst⟩
        exact ⟨k, by omega, hfirst⟩

theorem collect_zero_eq_error_iff :
    collect 0 results = .error ⟨i, e⟩ ↔ FirstFailureAt results i e := by
  rw [collect_eq_error_iff]
  constructor
  · rintro ⟨k, hk, hfirst⟩
    obtain rfl : i = k := hk.trans (Nat.zero_add k)
    exact hfirst
  · exact fun hfirst ↦ ⟨i, (Nat.zero_add i).symm, hfirst⟩

/-- What is done with the successes does not move a failure. -/
theorem collect_map (f : α → β) :
    collect position (results.map (Except.map f)) =
      (collect position results).map (List.map f) := by
  induction results generalizing position with
  | nil => rfl
  | cons r rest ih =>
    cases r with
    | error e => rfl
    | ok a =>
      show (collect (position + 1) (rest.map (Except.map f))).map (f a :: ·) = _
      rw [ih, collect]
      cases collect (position + 1) rest <;> rfl

end Failures

/-! ### Results of targets -/

variable {config : Config} {disk : Disk} {index : DocIndex}

theorem length_convertEach (config : Config) (disk : Disk) (index : DocIndex)
    (targets : List Target) :
    (convertEach config disk index targets).result.length = targets.length := by
  induction targets generalizing index with
  | nil => rfl
  | cons t rest ih => exact congrArg (· + 1) (ih _)

/-- **The conversion up to the first failure** comes to what the results of all targets come to. -/
theorem result_convertFrom (config : Config) (disk : Disk) (position : Nat) (index : DocIndex)
    (targets : List Target) :
    (convertFrom config disk position index targets).result =
      collect position (convertEach config disk index targets).result := by
  induction targets generalizing index position with
  | nil => rfl
  | cons t rest ih =>
    rw [convertFrom, convertEach]
    rcases (t.convert config disk index).result with e | tool
    · rfl
    · rw [collect, ← ih]

theorem result_convertAll (config : Config) (disk : Disk) (index : DocIndex)
    (targets : List Target) :
    (convertAll config disk index targets).result =
      collect 0 (convertEach config disk index targets).result :=
  result_convertFrom config disk 0 index targets

/-! ### Targets alone -/

/-- What a target gives, with the index as it is before the run. -/
def Target.alone (config : Config) (disk : Disk) (index : DocIndex) (t : Target) :
    Except ConvertError Tool :=
  (t.convert config disk index).result

/-- That the files `qs` were read does not show in a target: of its own files, those that the index
does not hold are read as they are under their spellings in `qs`. -/
def Target.Ignores (disk : Disk) (index : DocIndex) (qs : List Path) (t : Target) : Prop :=
  ∀ p ∈ t.asked, index.contains p = false → ∀ q ∈ qs, disk.ReadsAs p q

/-- No target reads a file that shows in a later one. -/
def AreIndependent (disk : Disk) (index : DocIndex) (targets : List Target) : Prop :=
  targets.Pairwise fun t t' ↦ t'.Ignores disk index t.asked

variable {t : Target} {targets : List Target} {qs qs' : List Path}

theorem ignores_nil : t.Ignores disk index [] := fun _ _ _ _ hq ↦ nomatch hq

theorem Target.Ignores.append (h : t.Ignores disk index qs) (h' : t.Ignores disk index qs') :
    t.Ignores disk index (qs ++ qs') := fun p hp hindex q hq ↦
  (List.mem_append.1 hq).elim (h p hp hindex q) (h' p hp hindex q)

/-- A target gives the same when other files were read before. -/
theorem result_convert_readAll (config : Config) (h : t.Ignores disk index qs) :
    (t.convert config disk (index.readAll disk qs)).result = t.alone config disk index :=
  (convert_congr config fun p hp ↦ DocIndex.docs_readAll (h p hp)).2

theorem result_convertEach_readAll (hqs : ∀ t ∈ targets, t.Ignores disk index qs)
    (h : AreIndependent disk index targets) :
    (convertEach config disk (index.readAll disk qs) targets).result =
      targets.map (Target.alone config disk index) := by
  induction targets generalizing qs with
  | nil => rfl
  | cons t rest ih =>
    obtain ⟨ht, hrest⟩ := List.pairwise_cons.1 h
    obtain ⟨hqt, hqrest⟩ := List.forall_mem_cons.1 hqs
    have hindex : (t.convert config disk (index.readAll disk qs)).index =
        index.readAll disk (qs ++ t.asked) := by
      rw [index_convert_asked, DocIndex.readAll_append]
    rw [convertEach, List.map_cons]
    show _ :: _ = _
    rw [result_convert_readAll config hqt, hindex,
      ih (fun t' ht' ↦ (hqrest t' ht').append (ht t' ht')) hrest]

/-- **Every target gives what it gives alone**, if the targets are independent. -/
theorem result_convertEach (h : AreIndependent disk index targets) :
    (convertEach config disk index targets).result =
      targets.map (Target.alone config disk index) :=
  result_convertEach_readAll (fun _ _ ↦ ignores_nil) h

/-! ### Tools and lines -/

/-- What a run says about a target that was passed over. -/
def failureLine? (t : Target) (result : Except ConvertError Tool) (i : Nat) : Option String :=
  match result with
  | .error e => some ("error: target " ++ toString i ++ " (`" ++ t.name ++ "`): " ++ e.message)
  | .ok _ => none

/-- There is a line for every failure, in the order of the targets, and for nothing else. -/
theorem map_line_skippedFrom (n : Nat) (targets : List Target)
    (results : List (Except ConvertError Tool)) :
    (skippedFrom n targets results).map Skipped.line =
      ((targets.zip results).zipIdx n).filterMap fun x ↦ failureLine? x.1.1 x.1.2 x.2 := by
  induction targets generalizing n results with
  | nil => rfl
  | cons t rest ih =>
    rcases results with - | ⟨e | tool, results⟩
    · rfl
    · rw [skippedFrom, List.map_cons, ih]
      rfl
    · rw [skippedFrom, ih]
      rfl

theorem toolsOf_eq_filterMap (results : List (Except ConvertError Tool)) :
    toolsOf results = results.filterMap Except.toOption := by
  rw [toolsOf]
  congr 1
  funext r
  cases r <;> rfl

theorem toolsOf_map_ok (tools : List Tool) : toolsOf (tools.map .ok) = tools := by
  rw [toolsOf, List.filterMap_map]
  exact List.filterMap_some

theorem map_ok_toolsOf {results : List (Except ConvertError Tool)}
    (h : ∀ r ∈ results, ∃ tool, r = .ok tool) : (toolsOf results).map .ok = results := by
  induction results with
  | nil => rfl
  | cons r rest ih =>
    obtain ⟨⟨tool, rfl⟩, hrest⟩ := List.forall_mem_cons.1 h
    show Except.ok tool :: (toolsOf rest).map Except.ok = _
    rw [ih hrest]

/-- Every result is a tool or has a line. -/
theorem length_toolsOf_add (n : Nat) {targets : List Target}
    {results : List (Except ConvertError Tool)} (h : results.length = targets.length) :
    (toolsOf results).length + (skippedFrom n targets results).length = targets.length := by
  induction targets generalizing n results with
  | nil => rw [List.eq_nil_of_length_eq_zero h]; rfl
  | cons t rest ih =>
    rcases results with - | ⟨e | tool, results⟩
    · cases h
    · have hrest := ih (n + 1) (Nat.succ.inj h)
      show (toolsOf results).length + ((skippedFrom (n + 1) rest results).length + 1) = _
      rw [← Nat.add_assoc, hrest, List.length_cons]
    · have hrest := ih (n + 1) (Nat.succ.inj h)
      show (toolsOf results).length + 1 + (skippedFrom (n + 1) rest results).length = _
      rw [Nat.add_right_comm, hrest, List.length_cons]

/-! ### Runs -/

/-- The run that ends with the first failure gives tools if there is no failure, and these are then
the tools of the other run, which has nothing to say. -/
theorem run_eq_ok_iff (config : Config) (disk : Disk) (index : DocIndex) (m : Manifest)
    (tools : List Tool) :
    (m.run config disk index false).result = .ok tools ↔
      (∀ r ∈ (convertEach config disk index m.targets).result, ∃ tool, r = .ok tool) ∧
        (m.run config disk index true).result = .ok tools ∧
        (m.run config disk index true).skipped = [] := by
  have hlength := length_convertEach config disk index m.targets
  show (convertAll config disk index m.targets).result = Except.ok tools ↔
    (∀ r ∈ (convertEach config disk index m.targets).result, ∃ tool, r = .ok tool) ∧
      Except.ok (toolsOf (convertEach config disk index m.targets).result) = Except.ok tools ∧
      skippedFrom 0 m.targets (convertEach config disk index m.targets).result = []
  rw [result_convertAll, collect_eq_ok_iff]
  constructor
  · intro hall
    have hcount := length_toolsOf_add 0 hlength
    rw [hall, toolsOf_map_ok] at hcount ⊢
    rw [hall, List.length_map] at hlength
    refine ⟨fun r hr ↦ ?_, rfl, ?_⟩
    · obtain ⟨tool, -, htool⟩ := List.mem_map.1 hr
      exact ⟨tool, htool.symm⟩
    · -- there are as many tools as targets, so no lines are left
      exact List.eq_nil_of_length_eq_zero (by omega)
  · rintro ⟨hall, htools, -⟩
    rw [← Except.ok.inj htools, map_ok_toolsOf hall]

/-- **The two kinds of runs agree.** Let `each` be the results of the targets of a manifest, one for
each of them. If the targets are independent, then these are what the targets give alone, with the
index as it is before the run. And whether they are independent or not:

* The run that passes over failures gives the tools among the results, in their order, and a line
  for each failure, in their order, with the number, the name and the error of its target. So there
  are as many tools and lines as targets.
* The run that ends with the first failure gives tools if and only if there is no failure, and then
  those of the other run, which has no lines. Else it gives the first failure with its number. It
  has no lines.
* In both formats, every target has one result, which is what it gives alone if the targets are
  independent, and the conversion up to the first failure gives all results or the first failure. -/
theorem runs_agree (config : Config) (disk : Disk) (index : DocIndex) (m : Manifest) :
    let each := (convertEach config disk index m.targets).result
    let kept := m.run config disk index true
    let stopped := m.run config disk index false
    (each.length = m.targets.length ∧ (AreIndependent disk index m.targets →
      each = m.targets.map fun t ↦ (t.convert config disk index).result)) ∧
    (kept.result = .ok (each.filterMap Except.toOption) ∧
      kept.skipped.map Skipped.line =
        ((m.targets.zip each).zipIdx.filterMap fun x ↦ failureLine? x.1.1 x.1.2 x.2) ∧
      (each.filterMap Except.toOption).length + kept.skipped.length = m.targets.length) ∧
    ((∀ tools, stopped.result = .ok tools ↔ (∀ r ∈ each, ∃ tool, r = .ok tool) ∧
        kept.result = .ok tools ∧ kept.skipped = []) ∧
      (∀ i e, stopped.result = .error ⟨i, e⟩ ↔ FirstFailureAt each i e) ∧
      stopped.skipped = []) ∧
    ∀ format,
      let written := each.map (Except.map (Tool.output config format))
      let all := (convertAll config disk index m.targets).result.map
        (List.map (Tool.output config format))
      (AreIndependent disk index m.targets → written = m.targets.map fun t ↦
          (t.convert config disk index).result.map (Tool.output config format)) ∧
        (∀ outputs, all = .ok outputs ↔ written = outputs.map .ok) ∧
        ∀ i e, all = .error ⟨i, e⟩ ↔ FirstFailureAt written i e := by
  intro each kept stopped
  have hlength : each.length = m.targets.length := length_convertEach config disk index m.targets
  have htools : toolsOf each = each.filterMap Except.toOption := toolsOf_eq_filterMap each
  have hall : (convertAll config disk index m.targets).result = collect 0 each :=
    result_convertAll config disk index m.targets
  refine ⟨⟨hlength, fun h ↦ result_convertEach h⟩,
    ⟨congrArg Except.ok htools, map_line_skippedFrom 0 m.targets each, ?_⟩,
    ⟨run_eq_ok_iff config disk index m, fun i e ↦ ?_, rfl⟩, fun format ↦ ⟨fun h ↦ ?_, ?_, ?_⟩⟩
  · rw [← htools]
    exact length_toolsOf_add 0 hlength
  · show (convertAll config disk index m.targets).result = _ ↔ _
    rw [hall]
    exact collect_zero_eq_error_iff
  · show (convertEach config disk index m.targets).result.map _ = _
    rw [result_convertEach h, List.map_map]
    rfl
  · intro outputs
    rw [hall, ← collect_map]
    exact collect_eq_ok_iff
  · intro i e
    rw [hall, ← collect_map]
    exact collect_zero_eq_error_iff

/-- A function and a class in one file, and between them a name that is no identifier. -/
theorem runs_agree_nameless :
    let file : Path := ⟨"a.rs"⟩
    let disk : Disk := Disk.ofReadings
      [(file, .ok "/// A.\nfn a() \x7b\x7d\n/// B.\nstruct B;\n")]
    let a : Target := .function ⟨"a", [], .location ⟨file, 2⟩⟩
    let m : Manifest := ⟨[a, .function ⟨"9 lives", [], .none⟩,
      .classType ⟨"B", .location ⟨file, 4⟩, some ⟨"new", [], .location ⟨file, 2⟩⟩⟩]⟩
    AreIndependent disk {} m.targets ∧
      (m.run {} disk {} true).skipped.map Skipped.line =
        ["error: target 1 (`9 lives`): cannot convert `9 lives`: " ++
          "the name must be a non-empty identifier"] ∧
      (m.run {} disk {} false).result = .error ⟨1, .invalidShape "9 lives" .badName⟩ := by
  intro file disk a m
  have hfile : ∀ t ∈ m.targets, ∀ p ∈ t.asked, p = file := by decide
  have h : AreIndependent disk {} m.targets := by
    refine List.pairwise_of_forall_mem_list fun t ht t' ht' p hp _ q hq ↦ ?_
    rw [hfile t ht q hq, hfile t' ht' p hp]
    exact fun _ _ hsource ↦ hsource
  obtain ⟨⟨-, heach⟩, ⟨-, hlines, -⟩, ⟨-, herror, -⟩, -⟩ := runs_agree {} disk {} m
  rw [heach h] at hlines herror
  refine ⟨h, hlines.trans (by decide), (herror 1 _).2 ⟨rfl, fun j hj ↦ ?_⟩⟩
  obtain rfl : j = 0 := by omega
  have hsome : (a.convert {} disk {}).result.toOption.isSome = true := by decide
  rcases hresult : (a.convert {} disk {}).result with e | tool
  · rw [hresult] at hsome
    cases hsome
  · exact ⟨tool, congrArg some hresult⟩

/-- **A slash at the end** of a path. Alone, the second target has no documentation, as its file
cannot be read; in a run it has that of the first target's file. -/
theorem run_of_slash :
    let tree : FileTree := ⟨[(["a.rs"], .file "/// A.\nfn a() \x7b\x7d\n".toUTF8)]⟩
    let m : Manifest := ⟨[.function ⟨"a", [], .location ⟨⟨"a.rs"⟩, 2⟩⟩,
      .function ⟨"b", [], .location ⟨⟨"a.rs/"⟩, 2⟩⟩]⟩
    let descriptions (tools : List Tool) := tools.map fun tool ↦ tool.function.description
    (m.run {} tree.disk {} true).result.toOption.map descriptions = some ["A.", "A."] ∧
      descriptions (m.targets.filterMap fun t ↦ (t.convert {} tree.disk {}).result.toOption) =
        ["A.", ""] := by
  exact ⟨rfl, rfl⟩

end ToolSchema
