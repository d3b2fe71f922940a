import Mathlib.Data.List.Induction
import Mathlib.Data.List.Nodup
import Mathlib.Data.List.Perm.Subperm
import ToolSchema.Proofs.Schema.Tool

/-!
# Parameters that are added again

A parameter can be added under a name that is there already. Then the two parts of a schema go
different ways: the properties replace, and the list of required names only grows. So after any
number of additions the properties are those of the last parameters of their names, in the order of
the first ones, while a name is required as often as a required parameter was added under it
(`addParameters_repeated`). The two agree if and only if that comes to the same.

What an addition does is said once for each part, and by induction on the additions, the last one
behind all others, what all of them do.
-/

namespace ToolSchema

variable {name n : String} {p : Parameter} {ps : List Parameter}

/-! ### First and last additions -/

/-- The names of parameters, each of them once, in the order in which they were first added. -/
def firstNames (ps : List Parameter) : List String := (ps.map Parameter.name).eraseDups

/-- The parameter that was added last under a name. -/
def lastNamed? (name : String) (ps : List Parameter) : Option Parameter :=
  (ps.filter fun p ↦ p.name == name).getLast?

/-- The names whose last parameter is required, in the order in which they were first added. -/
def lastRequired (ps : List Parameter) : List String :=
  (firstNames ps).filter fun name ↦ (lastNamed? name ps).any Parameter.isRequired

/-- Behind other names, one that is among them is left out. -/
theorem eraseDups_concat (names : List String) (name : String) :
    (names ++ [name]).eraseDups =
      if name ∈ names then names.eraseDups else names.eraseDups ++ [name] := by
  rw [List.eraseDups_append]
  by_cases h : name ∈ names
  · have hnone : [name].removeAll names = [] := by simpa [List.removeAll] using h
    rw [if_pos h, hnone, List.eraseDups_nil, List.append_nil]
  · have hsome : [name].removeAll names = [name] := by simpa [List.removeAll] using h
    rw [if_neg h, hsome]
    rfl

/-- A name that is new comes behind the others. -/
theorem firstNames_concat (ps : List Parameter) (p : Parameter) :
    firstNames (ps ++ [p]) =
      if p.name ∈ firstNames ps then firstNames ps else firstNames ps ++ [p.name] := by
  rw [firstNames, List.map_append]
  simp only [firstNames, List.mem_eraseDups]
  exact eraseDups_concat _ _

theorem nodup_firstNames (ps : List Parameter) : (firstNames ps).Nodup := by
  induction ps using List.reverseRecOn with
  | nil => exact .nil
  | append_singleton ps p ih =>
    rw [firstNames_concat]
    split
    · exact ih
    · next hp =>
      exact List.nodup_append.2 ⟨ih, List.pairwise_singleton _ _,
        fun n hn m hm hnm ↦ hp (List.mem_singleton.1 hm ▸ hnm ▸ hn)⟩

/-- Parameters of different names are all the first of theirs. -/
theorem firstNames_of_nodup (h : (ps.map Parameter.name).Nodup) :
    firstNames ps = ps.map Parameter.name := by
  induction ps using List.reverseRecOn with
  | nil => rfl
  | append_singleton ps p ih =>
    rw [List.map_append, List.nodup_append] at h
    have hnew : p.name ∉ ps.map Parameter.name := fun hp ↦
      h.2.2 _ hp p.name (List.mem_singleton_self _) rfl
    rw [firstNames_concat, ih h.1, if_neg hnew, List.map_append]
    rfl

theorem lastNamed?_concat (name : String) (ps : List Parameter) (p : Parameter) :
    lastNamed? name (ps ++ [p]) = if name = p.name then some p else lastNamed? name ps := by
  rw [lastNamed?, List.filter_append]
  by_cases h : name = p.name
  · simp [h]
  · simp [h, Ne.symm h, lastNamed?]

theorem of_lastNamed? (h : lastNamed? name ps = some p) : p ∈ ps ∧ p.name = name := by
  have hmem : p ∈ ps.filter fun p ↦ p.name == name := List.mem_of_getLast? h
  simpa using List.mem_filter.1 hmem

theorem exists_lastNamed? (h : p ∈ ps) : ∃ q, lastNamed? p.name ps = some q := by
  have hmem : p ∈ ps.filter fun q ↦ q.name == p.name := List.mem_filter.2 ⟨h, by simp⟩
  exact Option.ne_none_iff_exists'.1 (mt List.getLast?_eq_none_iff.1 (List.ne_nil_of_mem hmem))

/-- A name whose last parameter is required is one of the required names. -/
theorem mem_requiredNames_of_mem_lastRequired (h : n ∈ lastRequired ps) :
    n ∈ requiredNames ps := by
  obtain ⟨p, hp, hrequired⟩ := (Option.any_eq_true _ _).1 (List.mem_filter.1 h).2
  obtain ⟨hmem, rfl⟩ := of_lastNamed? hp
  exact List.mem_map.2 ⟨p, List.mem_filter.2 ⟨hmem, hrequired⟩, rfl⟩

/-! ### Additions -/

namespace FunctionSchema

theorem addParameters_concat (f : FunctionSchema) (ps : List Parameter) (p : Parameter) :
    f.addParameters (ps ++ [p]) = (f.addParameters ps).addParameter p := by
  rw [addParameters, List.foldl_append]
  rfl

/-- The properties keep one place for every name. -/
theorem keys_addParameter (f : FunctionSchema) (p : Parameter) :
    (f.addParameter p).parameters.properties.map Prod.fst =
      if p.name ∈ f.parameters.properties.map Prod.fst then f.parameters.properties.map Prod.fst
      else f.parameters.properties.map Prod.fst ++ [p.name] :=
  keys_insertMember _ _ _

/-- A parameter replaces the one before it, and no other. -/
theorem lookup_addParameter (f : FunctionSchema) (p : Parameter) (n : String) :
    (f.addParameter p).parameters.properties.lookup n =
      if n = p.name then some p.property else f.parameters.properties.lookup n :=
  lookup_insertMember _ _ _ n

/-- The required names only grow. -/
theorem required_addParameter (f : FunctionSchema) (p : Parameter) :
    (f.addParameter p).parameters.required =
      f.parameters.required ++ requiredNames [p] := by
  cases h : p.isRequired <;> simp [addParameter, requiredNames, h]

/-- A function of this name and description without parameters. -/
def bare (name description : String) : FunctionSchema := { name, description }

variable (name description : String) (ps : List Parameter)

theorem keys_addParameters :
    ((bare name description).addParameters ps).parameters.properties.map Prod.fst =
      firstNames ps := by
  induction ps using List.reverseRecOn with
  | nil => rfl
  | append_singleton ps p ih => rw [addParameters_concat, keys_addParameter, ih, firstNames_concat]

theorem lookup_addParameters (n : String) :
    ((bare name description).addParameters ps).parameters.properties.lookup n =
      (lastNamed? n ps).map Parameter.property := by
  induction ps using List.reverseRecOn with
  | nil => rfl
  | append_singleton ps p ih =>
    rw [addParameters_concat, lookup_addParameter, ih, lastNamed?_concat]
    split <;> rfl

theorem required_addParameters :
    ((bare name description).addParameters ps).parameters.required = requiredNames ps := by
  induction ps using List.reverseRecOn with
  | nil => rfl
  | append_singleton ps p ih =>
    rw [addParameters_concat, required_addParameter, ih]
    simp [requiredNames]

end FunctionSchema

/-! ### Both parts of a schema -/

/-- **When the required names are those that are required in the end**: every name that was required
once is required in the end, and they come in the order of the properties, each of them once. -/
theorem requiredNames_eq_lastRequired_iff :
    requiredNames ps = lastRequired ps ↔
      (∀ n ∈ requiredNames ps, n ∈ lastRequired ps) ∧
        (requiredNames ps).Sublist (firstNames ps) := by
  constructor
  · intro h
    refine ⟨fun n hn ↦ h ▸ hn, ?_⟩
    rw [h]
    exact List.filter_sublist
  · rintro ⟨hlast, horder⟩
    -- both are parts of the names in their order, and have the same members
    have hkept : (requiredNames ps).Sublist (lastRequired ps) := by
      rw [← List.filter_eq_self.2 fun n hn ↦ (List.mem_filter.1 (hlast n hn)).2]
      exact horder.filter _
    have hnodup : (lastRequired ps).Nodup := (nodup_firstNames ps).filter _
    have hlength : (lastRequired ps).length ≤ (requiredNames ps).length :=
      (List.subperm_of_subset hnodup fun n ↦ mem_requiredNames_of_mem_lastRequired).length_le
    exact hkept.eq_of_length_le hlength

/-- Parameters of different names are required in the end if they are required at all. -/
theorem requiredNames_eq_lastRequired (h : (ps.map Parameter.name).Nodup) :
    requiredNames ps = lastRequired ps := by
  refine requiredNames_eq_lastRequired_iff.2 ⟨fun n hn ↦ ?_, ?_⟩
  · obtain ⟨p, hp, rfl⟩ := List.mem_map.1 hn
    obtain ⟨hmem, hrequired⟩ := List.mem_filter.1 hp
    have hn' : p.name ∈ ps.map Parameter.name := List.mem_map_of_mem hmem
    obtain ⟨q, hq⟩ := exists_lastNamed? hmem
    obtain ⟨hqmem, hname⟩ := of_lastNamed? hq
    obtain rfl : q = p := List.inj_on_of_nodup_map h hqmem hmem hname
    refine List.mem_filter.2 ⟨List.mem_eraseDups.2 hn', ?_⟩
    rw [hq]
    exact hrequired
  · rw [firstNames_of_nodup h]
    exact List.filter_sublist.map Parameter.name

/-- **What parameters that are added make of a schema**, whatever their names are.

* Its properties have the different names, in the order in which they were first added, and under
  each name stands the parameter that was added last.
* Its required names are those of all required parameters, in the order of the additions.
* These are the names whose last parameter is required, in the order of the properties, if and only
  if every name that was required once is required in the end and the required names come in that
  order without repetition. So they are if no name was added twice. -/
theorem addParameters_repeated (name description : String) (ps : List Parameter) :
    let built := ((FunctionSchema.bare name description).addParameters ps).parameters
    (built.properties.map Prod.fst = firstNames ps ∧ (firstNames ps).Nodup ∧
      ∀ n, built.properties.lookup n = (lastNamed? n ps).map Parameter.property) ∧
    built.required = requiredNames ps ∧
    (built.required = lastRequired ps ↔
      (∀ n ∈ requiredNames ps, n ∈ lastRequired ps) ∧
        (requiredNames ps).Sublist (firstNames ps)) ∧
    ((ps.map Parameter.name).Nodup → built.required = lastRequired ps) := by
  intro built
  have hrequired : built.required = requiredNames ps :=
    FunctionSchema.required_addParameters name description ps
  refine ⟨⟨FunctionSchema.keys_addParameters name description ps, nodup_firstNames ps,
    FunctionSchema.lookup_addParameters name description ps⟩, hrequired, ?_, fun h ↦ ?_⟩
  · rw [hrequired]
    exact requiredNames_eq_lastRequired_iff
  · rw [hrequired]
    exact requiredNames_eq_lastRequired h

/-- Two required parameters around an optional one. -/
theorem addParameters_repeated_distinct :
    let ps : List Parameter := [⟨"a", true, .string, "", none, none, none, none⟩,
      ⟨"b", false, .array, "", none, some .string, none, none⟩,
      ⟨"c", true, .integer, "", none, none, none, none⟩]
    let built := ((FunctionSchema.bare "f" "").addParameters ps).parameters
    (ps.map Parameter.name).Nodup ∧ built.required = lastRequired ps ∧
      lastRequired ps = ["a", "c"] := by
  intro ps built
  have hnames : (ps.map Parameter.name).Nodup := by decide
  obtain ⟨-, -, -, hdistinct⟩ := addParameters_repeated "f" "" ps
  exact ⟨hnames, hdistinct hnames, by decide⟩

/-- **A list that only grows.** The name `a` is required twice and stands behind `b`, and `b` is
required although its last parameter is optional. -/
theorem required_of_readded :
    let ps : List Parameter := [{ name := "a", isRequired := false },
      { name := "b", isRequired := true }, { name := "a", isRequired := true },
      { name := "a", isRequired := true }, { name := "b", isRequired := false }]
    let built := ((FunctionSchema.bare "f" "").addParameters ps).parameters
    built.properties.map Prod.fst = ["a", "b"] ∧ built.required = ["b", "a", "a"] ∧
      lastRequired ps = ["a"] := by
  decide

end ToolSchema
