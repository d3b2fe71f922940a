import ToolSchema.Proofs.Convert.Warnings

/-!
# The first fault of a shape

Which fault a target is refused for. There are three rules for parameters, and a parameter that
breaks one is charged with the first that it breaks (`Param.Breaks`); among several parameters it is
the first one that counts, and a bad name of the target comes before all of them
(`Target.FirstFault`, `shape_eq_error_iff`).

Nothing but the name and the signature has a part in this. Under lenient policies nothing else can
stop a conversion either (`report_lenient_iff`).
-/

namespace ToolSchema

variable {earlier : List String} {p : Param} {params : List Param} {fault : ShapeFault}

/-! ### Rules for parameters -/

/-- **How a parameter breaks a rule** behind parameters of the given names. A rule is broken only by
a parameter that keeps the rules before it. -/
inductive Param.Breaks (earlier : List String) (p : Param) : ShapeFault → Prop
  /-- It is not passed by name. -/
  | notNamed (hkind : p.kind.isNamed = false) : Breaks earlier p (.notNamed p.name p.kind)
  /-- Its name is no identifier. -/
  | badParameter (hkind : p.kind.isNamed = true) (hname : isIdentifier p.name = false) :
    Breaks earlier p (.badParameter p.name)
  /-- Its name is one of the earlier ones. -/
  | repeated (hkind : p.kind.isNamed = true) (hname : isIdentifier p.name = true)
    (hearlier : p.name ∈ earlier) : Breaks earlier p (.repeated p.name)

theorem fault?_eq_some_iff : p.fault? earlier = some fault ↔ p.Breaks earlier fault := by
  rw [Param.fault?]
  constructor
  · intro h
    split at h
    · next hk =>
      obtain rfl := Option.some.inj h
      exact .notNamed (by simpa using hk)
    · next hk =>
      have hk : p.kind.isNamed = true := by simpa using hk
      split at h
      · next hi =>
        obtain rfl := Option.some.inj h
        exact .badParameter hk (by simpa using hi)
      · next hi =>
        split at h
        · next he =>
          obtain rfl := Option.some.inj h
          exact .repeated hk (by simpa using hi) (by simpa using he)
        · cases h
  · rintro (hk | ⟨hk, hi⟩ | ⟨hk, hi, he⟩)
    · simp [hk]
    · simp [hk, hi]
    · simp [hk, hi, he]

/-- The parameter in a place breaks a rule. -/
def BreaksAt (earlier : List String) (params : List Param) (i : Nat) (fault : ShapeFault) : Prop :=
  ∃ p, params[i]? = some p ∧ p.Breaks (earlier ++ (params.take i).map Param.name) fault

/-- The parameter in a place breaks a rule, and none before it does. -/
def FirstBreakAt (earlier : List String) (params : List Param) (i : Nat) (fault : ShapeFault) :
    Prop :=
  BreaksAt earlier params i fault ∧ ∀ j < i, ∀ f, ¬ BreaksAt earlier params j f

theorem breaksAt_cons_zero {rest : List Param} :
    BreaksAt earlier (p :: rest) 0 fault ↔ p.Breaks earlier fault := by
  simp [BreaksAt]

/-- The name of the first parameter is one of the earlier ones for the rest. -/
theorem breaksAt_cons_succ {rest : List Param} {i : Nat} :
    BreaksAt earlier (p :: rest) (i + 1) fault ↔ BreaksAt (earlier ++ [p.name]) rest i fault := by
  simp [BreaksAt]

/-- Behind a parameter that keeps the rules, the first place is one further. -/
theorem exists_firstBreakAt_cons_of_none {rest : List Param} (h : p.fault? earlier = none) :
    (∃ i, FirstBreakAt earlier (p :: rest) i fault) ↔
      ∃ i, FirstBreakAt (earlier ++ [p.name]) rest i fault := by
  have hp (f : ShapeFault) : ¬ BreaksAt earlier (p :: rest) 0 f := by
    rw [breaksAt_cons_zero, ← fault?_eq_some_iff, h]
    exact nofun
  constructor
  · rintro ⟨i, hi, hfirst⟩
    cases i with
    | zero => exact absurd hi (hp fault)
    | succ i =>
      refine ⟨i, breaksAt_cons_succ.1 hi, fun j hj f hjf ↦ ?_⟩
      exact hfirst (j + 1) (Nat.succ_lt_succ hj) f (breaksAt_cons_succ.2 hjf)
  · rintro ⟨i, hi, hfirst⟩
    refine ⟨i + 1, breaksAt_cons_succ.2 hi, fun j hj f hjf ↦ ?_⟩
    cases j with
    | zero => exact hp f hjf
    | succ j => exact hfirst j (Nat.lt_of_succ_lt_succ hj) f (breaksAt_cons_succ.1 hjf)

/-- A first parameter that breaks a rule is the first that does. -/
theorem exists_firstBreakAt_cons_of_some {rest : List Param} {f : ShapeFault}
    (h : p.fault? earlier = some f) :
    (∃ i, FirstBreakAt earlier (p :: rest) i fault) ↔ f = fault := by
  have hp : BreaksAt earlier (p :: rest) 0 f := breaksAt_cons_zero.2 (fault?_eq_some_iff.1 h)
  constructor
  · rintro ⟨i, hi, hfirst⟩
    cases i with
    | zero =>
      rw [breaksAt_cons_zero, ← fault?_eq_some_iff, h] at hi
      exact Option.some.inj hi
    | succ i => exact absurd hp (hfirst 0 (Nat.succ_pos i) f)
  · rintro rfl
    exact ⟨0, hp, nofun⟩

/-- **The check finds the first parameter that breaks a rule.** -/
theorem paramsFault?_eq_some_iff :
    paramsFault? earlier params = some fault ↔ ∃ i, FirstBreakAt earlier params i fault := by
  induction params generalizing earlier with
  | nil => simp [paramsFault?, FirstBreakAt, BreaksAt]
  | cons p rest ih =>
    rw [paramsFault?]
    rcases hf : p.fault? earlier with - | f
    · exact ih.trans (exists_firstBreakAt_cons_of_none hf).symm
    · exact Option.some_inj.trans (exists_firstBreakAt_cons_of_some hf).symm

/-- Descriptions have no part in it. -/
theorem paramsFault?_congr {others : List Param}
    (h : others.map (fun p ↦ (p.name, p.kind)) = params.map fun p ↦ (p.name, p.kind)) :
    paramsFault? earlier others = paramsFault? earlier params := by
  induction params generalizing earlier others with
  | nil =>
    rw [List.map_nil, List.map_eq_nil_iff] at h
    rw [h]
  | cons p params ih =>
    obtain ⟨q, others, rfl, hq, hothers⟩ := List.map_eq_cons_iff.1 h
    obtain ⟨hname, hkind⟩ := Prod.mk.inj hq
    have hf : q.fault? earlier = p.fault? earlier := by
      rw [Param.fault?, Param.fault?, hname, hkind]
    rw [paramsFault?, paramsFault?, hf, hname, ih hothers]

/-! ### Targets -/

/-- **The fault that a target is refused for**: its own name, or else the first parameter that
breaks a rule. -/
inductive Target.FirstFault (t : Target) : ShapeFault → Prop
  | badName (hname : isIdentifier t.name = false) : FirstFault t .badName
  | parameter {fault : ShapeFault} {i : Nat} (hname : isIdentifier t.name = true)
    (hfirst : FirstBreakAt [] t.params i fault) : FirstFault t fault

variable {t : Target}

/-- **When a target has no shape.** -/
theorem shape_eq_error_iff {e : ConvertError} :
    t.shape = .error e ↔ ∃ fault, t.FirstFault fault ∧ e = .invalidShape t.name fault := by
  rw [Target.shape, extractParameters]
  constructor
  · intro h
    split at h
    · next hname =>
      split at h
      · next fault hf =>
        obtain ⟨i, hfirst⟩ := paramsFault?_eq_some_iff.1 hf
        exact ⟨fault, .parameter hname hfirst, (Except.error.inj h).symm⟩
      · cases h
    · next hname => exact ⟨.badName, .badName (by simpa using hname), (Except.error.inj h).symm⟩
  · rintro ⟨fault, hfault, rfl⟩
    cases hfault with
    | badName hname => rw [if_neg (by simp [hname])]
    | parameter hname hfirst => rw [if_pos hname, paramsFault?_eq_some_iff.2 ⟨_, hfirst⟩]

/-- Targets of one name and one signature have the same fault. -/
theorem shape_error_congr {t' : Target} {e : ConvertError} (hname : t'.name = t.name)
    (hsignature : t'.signature = t.signature) (h : t.shape = .error e) : t'.shape = .error e := by
  rw [Target.shape, extractParameters] at h
  rw [Target.shape, extractParameters, hname, paramsFault?_congr hsignature]
  rcases hf : paramsFault? [] t.params with - | fault
  · -- no parameter breaks a rule, so the error is about the name
    rw [hf] at h
    split at h
    · cases h
    · next hi =>
      rw [if_neg hi]
      exact h
  · rw [hf] at h
    exact h

variable {config : Config} {disk : Disk} {index : DocIndex}

/-- **Documentation makes no lenient conversion fail.** Under lenient policies there is a report if
and only if the name of the target is an identifier and its parameters are passed by name, under
identifiers that differ. Else the error is the first fault of the shape. It is the same for every
target of this name and signature, wherever that is documented, and for every configuration; nothing
is looked up for it, and the index stays as it is. -/
theorem report_lenient_iff (htag : config.tagPolicy = .lenient)
    (htype : config.typePolicy = .lenient) :
    ((∃ r, (t.convert config disk index).report = .ok r) ↔
      isIdentifier t.name = true ∧ (∀ p ∈ t.params, p.IsUsable) ∧
        (t.params.map Param.name).Nodup) ∧
    (∀ e, (t.convert config disk index).report = .error e ↔
      ∃ fault, t.FirstFault fault ∧ e = .invalidShape t.name fault) ∧
    ∀ fault, t.FirstFault fault →
      ∀ (t' : Target) (config' : Config) (disk' : Disk) (index' : DocIndex),
        t'.name = t.name → t'.signature = t.signature →
          t'.convert config' disk' index' =
            ⟨[.started], .error (.invalidShape t.name fault), index'⟩ := by
  refine ⟨⟨?_, ?_⟩, fun e ↦ ?_, fun fault hfault t' config' disk' index' hname hsignature ↦ ?_⟩
  · rintro ⟨r, hr⟩
    obtain ⟨ps, hs⟩ := exists_shape_of_report hr
    obtain ⟨hname, hu, hnd, -⟩ := shape_eq_ok_iff.1 hs
    exact ⟨hname, hu, hnd⟩
  · rintro ⟨hname, hu, hnd⟩
    exact ⟨_, report_of_shape htag htype (shape_eq_ok_iff.2 ⟨hname, hu, hnd, rfl⟩)⟩
  · rw [← shape_eq_error_iff]
    rcases hs : t.shape with e' | ps
    · rw [convert_of_shape_error hs]
      exact ⟨fun h ↦ congrArg _ (Except.error.inj h), fun h ↦ congrArg _ (Except.error.inj h)⟩
    · rw [report_of_shape htag htype hs]
      exact ⟨nofun, nofun⟩
  · have hs : t.shape = .error (.invalidShape t.name fault) :=
      shape_eq_error_iff.2 ⟨fault, hfault, rfl⟩
    exact convert_of_shape_error (shape_error_congr hname hsignature hs)

/-- A class whose constructor has an odd name, a parameter that is not passed by name and repeats
another one, and behind it one without an identifier. Its comments are in a file that is not there
and full of faults. -/
theorem report_lenient_iff_refused :
    let t : Target := .classType ⟨"Packer", .location ⟨⟨"absent.rb"⟩, 3⟩,
      some ⟨"not a name", [⟨"size", .requiredNamed, none⟩, ⟨"size", .rest, none⟩,
        ⟨"9", .requiredNamed, none⟩], .inline "@max_items size 0"⟩⟩
    (t.convert {} (Disk.ofReadings []) {}).report =
        .error (.invalidShape "Packer" (.notNamed "size" .rest)) ∧
      (t.convert (Config.strict {}) (Disk.ofReadings []) {}).notes = [.started] := by
  intro t
  have hfault : t.FirstFault (.notNamed "size" .rest) := by
    obtain ⟨i, hfirst⟩ := paramsFault?_eq_some_iff.1
      (rfl : paramsFault? [] t.params = some (.notNamed "size" .rest))
    exact .parameter (by simp only [t]; rfl) hfirst
  obtain ⟨-, herror, hsame⟩ := @report_lenient_iff t {} (Disk.ofReadings []) {} rfl rfl
  refine ⟨(herror _).2 ⟨_, hfault, rfl⟩, ?_⟩
  rw [hsame _ hfault t _ _ _ rfl rfl]

end ToolSchema
