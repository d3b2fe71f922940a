import ToolSchema.Declaration.Describe
import ToolSchema.Proofs.Convert.WellFormed

/-!
# What a description captures

The parameters of a described item are those that its declaration lists, in order and each once
(`InOrder`), whether they are the inputs of a function or the fields of a struct. A parameter that
goes by a name keeps it, and its type says whether it may be left out (`Param.IsNamedFor`); any
other has the place that it stands at for a name (`Param.IsPlacedAt`). Either has the documentation
of its own attributes.

A place is no name to a schema, so it is the only thing that can keep an item with proper names from
being converted; and what comes out of the conversion lists the captured names again
(`describe_captures`).
-/

namespace ToolSchema

/-! ### Lists of parameters -/

/-- **One parameter for each thing declared**, in the same order, as `R` relates them at each
place. -/
def InOrder {α : Type} (R : Nat → α → Param → Prop) (declared : List α) (params : List Param) :
    Prop :=
  params.length = declared.length ∧
    ∀ i a, declared[i]? = some a → ∃ p, params[i]? = some p ∧ R i a p

namespace InOrder

variable {α : Type} {R : Nat → α → Param → Prop} {a : α} {p : Param} {declared : List α}
  {params : List Param}

theorem nil : InOrder R [] [] := ⟨rfl, fun _ _ h ↦ nomatch h⟩

/-- One more in front moves all others by a place. -/
theorem cons (h : R 0 a p) (hrest : InOrder (fun i ↦ R (i + 1)) declared params) :
    InOrder R (a :: declared) (p :: params) := by
  refine ⟨congrArg Nat.succ hrest.1, fun i b hb ↦ ?_⟩
  rcases i with - | i
  · rw [List.getElem?_cons_zero, Option.some.injEq] at hb
    exact ⟨p, rfl, hb ▸ h⟩
  · rw [List.getElem?_cons_succ] at hb
    obtain ⟨q, hq, hR⟩ := hrest.2 i b hb
    exact ⟨q, by rwa [List.getElem?_cons_succ], hR⟩

/-- Every parameter stands for something declared. -/
theorem exists_of_mem (h : InOrder R declared params) (hp : p ∈ params) :
    ∃ i, ∃ a ∈ declared, R i a p := by
  obtain ⟨i, hi, rfl⟩ := List.getElem_of_mem hp
  have hlt : i < declared.length := h.1 ▸ hi
  obtain ⟨q, hq, hR⟩ := h.2 i declared[i] (List.getElem?_eq_getElem hlt)
  rw [List.getElem?_eq_getElem hi, Option.some.injEq] at hq
  exact ⟨i, declared[i], List.getElem_mem hlt, hq ▸ hR⟩

end InOrder

/-! ### Documentation of parameters -/

/-- **The documentation of attributes**: the texts of the documentation attributes, without the
blanks at their ends and each on a line of its own. There is none if there is no such text. -/
structure IsDocOf (attributes : List Attribute) (doc : Option String) : Prop where
  isNone_iff : doc = none ↔ ∀ text, Attribute.doc text ∉ attributes
  eq_lines : ∀ d, doc = some d →
    d = String.intercalate "\n" ((Attribute.docLines attributes).map trimmed)

namespace Attribute

theorem mem_docLines_iff {attributes : List Attribute} {text : String} :
    text ∈ docLines attributes ↔ doc text ∈ attributes := by
  rw [docLines, List.mem_filterMap]
  constructor
  · rintro ⟨a, ha, hline⟩
    cases a with
    | doc text' => exact Option.some.inj hline ▸ ha
    | docOther => cases hline
    | other => cases hline
  · exact fun h ↦ ⟨doc text, h, rfl⟩

theorem isDocOf_comment (attributes : List Attribute) :
    IsDocOf attributes (comment attributes) where
  isNone_iff := by
    have hnone : comment attributes = none ↔ docLines attributes = [] := by
      rw [comment]
      split
      · next h => exact ⟨fun _ ↦ h, fun _ ↦ rfl⟩
      · next h => exact ⟨nofun, fun hnil ↦ absurd hnil h⟩
    rw [hnone, List.eq_nil_iff_forall_not_mem]
    exact forall_congr' fun text ↦ not_congr mem_docLines_iff
  eq_lines d h := by
    rw [comment] at h
    split at h
    · cases h
    · rw [← Option.some.inj h, ← String.toList_inj, String.toList_ofList,
        String.toList_intercalate, joinWith_eq_intercalate, List.map_map]
      simp [trimmed, Function.comp_def]

end Attribute

/-! ### Patterns -/

namespace Token

/-- A token that opens no group stands in the outline, and what stands behind it does so as well. -/
theorem outline_eq_cons_iff {t : Token} (h : t.isOpening = false) {tokens rest : List Token} :
    outline tokens = t :: rest ↔ ∃ tail, tokens = t :: tail ∧ outline tail = rest := by
  rcases tokens with - | ⟨u, tokens⟩
  · exact ⟨nofun, nofun⟩
  · rw [outline, outlineFrom, List.cons.injEq]
    constructor
    · rintro ⟨rfl, hrest⟩
      rw [h] at hrest
      exact ⟨tokens, rfl, hrest⟩
    · rintro ⟨tail, htokens, hrest⟩
      obtain ⟨rfl, rfl⟩ := List.cons.inj htokens
      rw [h]
      exact ⟨rfl, hrest⟩

theorem outline_eq_nil_iff {tokens : List Token} : outline tokens = [] ↔ tokens = [] := by
  rcases tokens with - | ⟨t, tokens⟩
  · exact ⟨fun _ ↦ rfl, fun _ ↦ rfl⟩
  · exact ⟨nofun, nofun⟩

end Token

namespace Pattern

/-- **The pattern is a name**, which may be taken by reference or be mutable, and may name what a
single pattern behind it takes apart. -/
def IsName (tokens : List Token) (name : String) : Prop :=
  ∃ words ∈ [[], [.name "ref"], [.name "mut"], [.name "ref", .name "mut"]], ∃ tail,
    tokens = words ++ .name name :: tail ∧
      (tail = [] ∨ ∃ sub, tail = .mark '@' :: sub ∧ .mark '|' ∉ Token.outline sub)

variable {tokens : List Token} {name : String}

theorem afterWords_eq_binding_iff (hname : name ∉ wordsForNoValue) :
    afterWords tokens = .binding name ↔
      tokens = [.name name] ∨
        ∃ rest, tokens = .name name :: .mark '@' :: rest ∧ .mark '|' ∉ rest := by
  constructor
  · intro h
    unfold afterWords at h
    split at h
    · split at h
      · cases h
      · exact .inl (Pattern.binding.inj h ▸ rfl)
    · next rest =>
      split at h
      · cases h
      · next hbar => exact .inr ⟨rest, Pattern.binding.inj h ▸ rfl, by simpa using hbar⟩
    · cases h
  · rintro (rfl | ⟨rest, rfl, hbar⟩)
    · rw [afterWords, if_neg (by simpa using hname)]
    · rw [afterWords, if_neg (by simpa using hbar)]

/-- The name stands behind the words, all of which the outline keeps. -/
theorem afterWords_outline_eq_binding_iff (hname : name ∉ wordsForNoValue) :
    afterWords (Token.outline tokens) = .binding name ↔
      ∃ tail, tokens = .name name :: tail ∧
        (tail = [] ∨ ∃ sub, tail = .mark '@' :: sub ∧ .mark '|' ∉ Token.outline sub) := by
  rw [afterWords_eq_binding_iff hname]
  constructor
  · rintro (h | ⟨rest, h, hbar⟩)
    · obtain ⟨tail, htail, hnil⟩ := (Token.outline_eq_cons_iff rfl).1 h
      exact ⟨tail, htail, .inl (Token.outline_eq_nil_iff.1 hnil)⟩
    · obtain ⟨tail, htail, hat⟩ := (Token.outline_eq_cons_iff rfl).1 h
      obtain ⟨sub, hsub, rfl⟩ := (Token.outline_eq_cons_iff rfl).1 hat
      exact ⟨tail, htail, .inr ⟨sub, hsub, hbar⟩⟩
  · rintro ⟨tail, rfl, rfl | ⟨sub, rfl, hbar⟩⟩
    · exact .inl rfl
    · exact .inr ⟨Token.outline sub, rfl, hbar⟩

/-- **Which patterns are names**, said of their tokens. -/
theorem ofTokens_eq_binding_iff (hname : name ∉ "ref" :: "mut" :: wordsForNoValue) :
    ofTokens tokens = .binding name ↔ IsName tokens name := by
  simp only [List.mem_cons, not_or] at hname
  obtain ⟨href, hmut, hname⟩ := hname
  constructor
  · intro h
    have hbehind (words : List Token) {tail : List Token}
        (hwords : words ∈ [[], [.name "ref"], [.name "mut"], [.name "ref", .name "mut"]])
        (htokens : tokens = words ++ tail)
        (h : afterWords (Token.outline tail) = .binding name) : IsName tokens name := by
      obtain ⟨last, rfl, hlast⟩ := (afterWords_outline_eq_binding_iff hname).1 h
      exact ⟨words, hwords, last, htokens, hlast⟩
    unfold ofTokens at h
    split at h
    · next hwords =>
      obtain ⟨tail, rfl, htail⟩ := (Token.outline_eq_cons_iff rfl).1 hwords
      obtain ⟨tail, rfl, rfl⟩ := (Token.outline_eq_cons_iff rfl).1 htail
      exact hbehind [.name "ref", .name "mut"] (by simp) rfl h
    · next hwords =>
      obtain ⟨tail, rfl, rfl⟩ := (Token.outline_eq_cons_iff rfl).1 hwords
      exact hbehind [.name "ref"] (by simp) rfl h
    · next hwords =>
      obtain ⟨tail, rfl, rfl⟩ := (Token.outline_eq_cons_iff rfl).1 hwords
      exact hbehind [.name "mut"] (by simp) rfl h
    · exact hbehind [] (by simp) rfl h
  · rintro ⟨words, hwords, tail, rfl, htail⟩
    have hafter : afterWords (.name name :: Token.outline tail) = .binding name :=
      (afterWords_outline_eq_binding_iff hname).2 ⟨tail, rfl, htail⟩
    simp only [List.mem_cons, List.not_mem_nil, or_false] at hwords
    rcases hwords with rfl | rfl | rfl | rfl
    · have houtline : Token.outline ([] ++ .name name :: tail) = .name name :: Token.outline tail :=
        rfl
      rw [ofTokens, houtline]
      split
      · next h => exact absurd (Token.name.inj (List.cons.inj h).1) href
      · next h => exact absurd (Token.name.inj (List.cons.inj h).1) href
      · next h => exact absurd (Token.name.inj (List.cons.inj h).1) hmut
      · exact hafter
    · have houtline : Token.outline ([.name "ref"] ++ .name name :: tail) =
          .name "ref" :: .name name :: Token.outline tail := rfl
      rw [ofTokens, houtline]
      split
      · next h => exact absurd (Token.name.inj (List.cons.inj (List.cons.inj h).2).1) hmut
      · next h => exact (List.cons.inj h).2 ▸ hafter
      · next h => exact absurd (Token.name.inj (List.cons.inj h).1) (by decide)
      · next h _ => exact absurd rfl (h _)
    · exact hafter
    · exact hafter

end Pattern

/-! ### Inputs and fields -/

/-- The last segment of the type is `Option`, with one type as its only argument. -/
def TypeForm.EndsInOption (type : TypeForm) : Prop :=
  ∃ segments, type = .path (segments ++ [⟨"Option", some [.type]⟩])

/-- **The parameter goes by a name**, which is not marked as raw any more. Its type says whether it
may be left out. -/
structure Param.IsNamedFor (p : Param) (name : String) (type : TypeForm)
    (attributes : List Attribute) : Prop where
  name_eq : name = "r#" ++ p.name ∨ name = p.name ∧ ∀ plain, name ≠ "r#" ++ plain
  isOptional_iff : p.kind = .optionalNamed ↔ type.EndsInOption
  isRequired_iff : p.kind = .requiredNamed ↔ ¬type.EndsInOption
  isDocOf : IsDocOf attributes p.doc

/-- **The parameter has no name** but the place that it stands at. -/
structure Param.IsPlacedAt (p : Param) (place : String) (attributes : List Attribute) : Prop where
  name_eq : p.name = place
  kind_eq : p.kind = .positional
  isDocOf : IsDocOf attributes p.doc

/-- **What an input says about its parameter.** The place of a pattern that is no name is its place
among all inputs. -/
inductive FnInput.Captured (index : Nat) : FnInput → Param → Prop
  | named {name : String} {type : TypeForm} {attributes : List Attribute} {p : Param}
      (h : p.IsNamedFor name type attributes) :
      Captured index (.typed (.binding name) type attributes) p
  | placed {type : TypeForm} {attributes : List Attribute} {p : Param}
      (h : p.IsPlacedAt ("arg" ++ toString index) attributes) :
      Captured index (.typed .other type attributes) p

/-- **What the fields of a struct say about the parameters of its constructor.** -/
def Fields.Captured : Fields → List Param → Prop
  | named fields, params =>
    InOrder (fun _ (name, type, attributes) p ↦ p.IsNamedFor name type attributes) fields params
  | tuple fields, params =>
    InOrder (fun index attributes p ↦ p.IsPlacedAt (toString index) attributes) fields params
  | unit, params => params = []

theorem isOptional_iff {type : TypeForm} : type.isOptional = true ↔ type.EndsInOption := by
  cases type with
  | path segments =>
    rw [TypeForm.isOptional, beq_iff_eq, TypeForm.EndsInOption, List.getLast?_eq_some_iff]
    exact exists_congr fun segments ↦ (TypeForm.path.injEq _ _).symm.to_iff
  | other => exact ⟨nofun, nofun⟩

theorem plainName_spec (name : String) :
    name = "r#" ++ plainName name ∨ name = plainName name ∧ ∀ plain, name ≠ "r#" ++ plain := by
  rw [plainName]
  split
  · next rest h =>
    refine .inl (String.toList_inj.1 ?_)
    rw [h, String.toList_append]
    simp only [String.toList_ofList]
    rfl
  · next h =>
    refine .inr ⟨rfl, fun plain hplain ↦ h plain.toList ?_⟩
    rw [hplain, String.toList_append]
    rfl

theorem isNamedFor_namedParam (name : String) (type : TypeForm) (attributes : List Attribute) :
    (namedParam name type attributes).IsNamedFor name type attributes where
  name_eq := plainName_spec name
  isOptional_iff := by
    rw [← isOptional_iff, namedParam]
    split
    · next h => exact ⟨fun _ ↦ h, fun _ ↦ rfl⟩
    · next h => exact ⟨nofun, fun htype ↦ absurd htype h⟩
  isRequired_iff := by
    rw [← isOptional_iff, namedParam]
    split
    · next h => exact ⟨nofun, fun htype ↦ absurd h htype⟩
    · next h => exact ⟨fun _ ↦ h, fun _ ↦ rfl⟩
  isDocOf := Attribute.isDocOf_comment attributes

theorem isPlacedAt_positionalParam (place : String) (attributes : List Attribute) :
    (positionalParam place attributes).IsPlacedAt place attributes :=
  ⟨rfl, rfl, Attribute.isDocOf_comment attributes⟩

/-- **The inputs of a function**, from some place on. -/
theorem inOrder_paramsFrom (index : Nat) {inputs : List FnInput} (h : .receiver ∉ inputs) :
    InOrder (fun i ↦ FnInput.Captured (index + i)) inputs (paramsFrom index inputs) := by
  induction inputs generalizing index with
  | nil => exact .nil
  | cons input rest ih =>
    rw [List.mem_cons, not_or] at h
    have hrest := ih (index + 1) h.2
    simp only [Nat.add_assoc, Nat.add_comm 1] at hrest
    cases input with
    | receiver => exact absurd rfl h.1
    | typed pattern type attributes =>
      cases pattern with
      | binding name => exact .cons (.named (isNamedFor_namedParam name type attributes)) hrest
      | other => exact .cons (.placed (isPlacedAt_positionalParam _ attributes)) hrest

/-- **The fields of a tuple**, from some place on. -/
theorem inOrder_tupleParamsFrom (index : Nat) (fields : List (List Attribute)) :
    InOrder (fun i attributes p ↦ p.IsPlacedAt (toString (index + i)) attributes) fields
      (tupleParamsFrom index fields) := by
  induction fields generalizing index with
  | nil => exact .nil
  | cons attributes rest ih =>
    have hrest := ih (index + 1)
    simp only [Nat.add_assoc, Nat.add_comm 1] at hrest
    exact .cons (isPlacedAt_positionalParam _ attributes) hrest

theorem inOrder_map_namedParam (fields : List (String × TypeForm × List Attribute)) :
    InOrder (fun _ (name, type, attributes) p ↦ p.IsNamedFor name type attributes) fields
      (fields.map fun (name, type, attributes) ↦ namedParam name type attributes) := by
  induction fields with
  | nil => exact .nil
  | cons field rest ih => exact .cons (isNamedFor_namedParam _ _ _) ih

theorem captured_params (fields : Fields) : fields.Captured fields.params := by
  cases fields with
  | named fields => exact inOrder_map_namedParam fields
  | tuple fields =>
    have h := inOrder_tupleParamsFrom 0 fields
    simp only [Nat.zero_add] at h
    exact h
  | unit => rfl

/-- Without a receiver it is the name of the companion that decides. -/
theorem FnItem.check_eq {f : FnItem} (h : .receiver ∉ f.inputs) :
    f.check =
      if UnicodeName.isName f.companionName.toList then .ok f
      else .error (.badCompanion f.companionName) := by
  rw [FnItem.check, if_neg fun hhead ↦ h (List.mem_of_head? hhead)]

/-! ### Conversions -/

section Convert

variable {config : Config} {disk : Disk} {index : DocIndex} {t : Target}

/-- Under lenient policies the shape alone decides whether there is a report. -/
theorem exists_report_iff (htag : config.tagPolicy = .lenient)
    (htype : config.typePolicy = .lenient) :
    (∃ r, (t.convert config disk index).report = .ok r) ↔
      isIdentifier t.name = true ∧ (∀ p ∈ t.params, p.IsUsable) ∧
        (t.params.map Param.name).Nodup := by
  constructor
  · rintro ⟨r, hr⟩
    obtain ⟨ps, hs⟩ := exists_shape_of_report hr
    obtain ⟨hname, hu, hnd, -⟩ := shape_eq_ok_iff.1 hs
    exact ⟨hname, hu, hnd⟩
  · rintro ⟨hname, hu, hnd⟩
    exact ⟨_, report_of_shape htag htype (shape_eq_ok_iff.2 ⟨hname, hu, hnd, rfl⟩)⟩

/-- **The target of an item that can be described.** -/
inductive Target.IsDescribed : Target → Prop
  | function {f : FnItem} (hfree : .receiver ∉ f.inputs) (hcheck : f.check = .ok f) :
    IsDescribed f.target
  | struct (s : StructItem) : IsDescribed s.target

theorem Param.IsNamedFor.isNamed {p : Param} {name : String} {type : TypeForm}
    {attributes : List Attribute} (h : p.IsNamedFor name type attributes) :
    p.kind.isNamed = true := by
  by_cases htype : type.EndsInOption
  · rw [h.isOptional_iff.2 htype]
    rfl
  · rw [h.isRequired_iff.2 htype]
    rfl

theorem Fields.Captured.isNamed_or {fields : Fields} {params : List Param}
    (h : fields.Captured params) {p : Param} (hp : p ∈ params) :
    p.kind.isNamed = true ∨ p.kind = .positional := by
  cases fields with
  | named fields =>
    obtain ⟨i, field, -, hfield⟩ := InOrder.exists_of_mem h hp
    exact .inl hfield.isNamed
  | tuple fields =>
    obtain ⟨i, attributes, -, hfield⟩ := InOrder.exists_of_mem h hp
    exact .inr hfield.kind_eq
  | unit =>
    rw [h] at hp
    cases hp

theorem isNamed_or_of_mem_paramsFrom {inputs : List FnInput} (h : .receiver ∉ inputs) {p : Param}
    (hp : p ∈ paramsFrom 0 inputs) : p.kind.isNamed = true ∨ p.kind = .positional := by
  obtain ⟨i, input, -, hcaptured⟩ := (inOrder_paramsFrom 0 h).exists_of_mem hp
  cases hcaptured with
  | named h => exact .inl h.isNamed
  | placed h => exact .inr h.kind_eq

/-- A captured parameter goes by its name or by its place. -/
theorem Target.IsDescribed.isNamed_iff (h : t.IsDescribed) {p : Param} (hp : p ∈ t.params) :
    p.kind.isNamed = true ↔ p.kind ≠ .positional := by
  have hcase : p.kind.isNamed = true ∨ p.kind = .positional := by
    cases h with
    | function hfree => exact isNamed_or_of_mem_paramsFrom hfree hp
    | struct s => exact (captured_params s.fields).isNamed_or hp
  constructor
  · intro hnamed hkind
    rw [hkind] at hnamed
    cases hnamed
  · exact hcase.resolve_right

/-- **When a described item has a schema**, with proper names all over: if every parameter has
one. -/
theorem Target.IsDescribed.exists_report_iff (h : t.IsDescribed)
    (hname : isIdentifier t.name = true)
    (hnames : ∀ p ∈ t.params, p.kind ≠ .positional → isIdentifier p.name = true)
    (hnd : ((t.params.filter (·.kind != .positional)).map Param.name).Nodup) :
    (∃ r, (t.convert {} disk index).report = .ok r) ↔ ∀ p ∈ t.params, p.kind ≠ .positional := by
  rw [ToolSchema.exists_report_iff rfl rfl]
  constructor
  · rintro ⟨-, hu, -⟩ p hp
    exact (h.isNamed_iff hp).1 (hu p hp).isNamed
  · intro hnamed
    have hall : t.params.filter (·.kind != .positional) = t.params :=
      List.filter_eq_self.2 fun p hp ↦ bne_iff_ne.2 (hnamed p hp)
    rw [hall] at hnd
    exact ⟨hname, fun p hp ↦ ⟨(h.isNamed_iff hp).2 (hnamed p hp), hnames p hp (hnamed p hp)⟩, hnd⟩

end Convert

/-- **A description captures the parameters of its item.** A function without a receiver, whose
companion can be named, has one parameter for each of its inputs, and a struct has one for each of
its fields, in the order of the declaration: an input that is a name and a named field go by that
name, whether it is written with words before it, as raw, or in front of another pattern, and all
others go by their place. So an item with proper names is converted unless a parameter goes by its
place, and then its schema has the captured names in their order and requires the ones that may not
be left out. -/
theorem describe_captures :
    (∀ f : FnItem, .receiver ∉ f.inputs → UnicodeName.isName f.companionName.toList = true →
      f.check = .ok f ∧ f.target.name = f.name ∧
        InOrder FnInput.Captured f.inputs f.target.params) ∧
    (∀ s : StructItem, s.target.name = s.name ∧ s.fields.Captured s.target.params) ∧
    (∀ tokens name, name ∉ "ref" :: "mut" :: Pattern.wordsForNoValue →
      (Pattern.ofTokens tokens = .binding name ↔ Pattern.IsName tokens name)) ∧
    ∀ t : Target, t.IsDescribed → isIdentifier t.name = true →
      (∀ p ∈ t.params, p.kind ≠ .positional → isIdentifier p.name = true) →
      ((t.params.filter (·.kind != .positional)).map Param.name).Nodup →
      ∀ disk index,
        ((∃ e, (t.convert {} disk index).report = .error e) ↔
          ∃ p ∈ t.params, p.kind = .positional) ∧
        ∀ r, (t.convert {} disk index).report = .ok r →
          r.tool.function.name = t.name ∧
          r.tool.function.parameters.properties.map Prod.fst = t.params.map Param.name ∧
          r.tool.function.parameters.required =
            (t.params.filter (·.kind == .requiredNamed)).map Param.name := by
  refine ⟨fun f hfree hcompanion ↦ ⟨?_, rfl, ?_⟩, fun s ↦ ⟨rfl, captured_params s.fields⟩,
    fun tokens name hname ↦ Pattern.ofTokens_eq_binding_iff hname,
    fun t ht hname hnames hnd disk index ↦ ⟨?_, fun r hr ↦ ?_⟩⟩
  · rw [FnItem.check_eq hfree, if_pos hcompanion]
  · have h := inOrder_paramsFrom 0 hfree
    simp only [Nat.zero_add] at h
    exact h
  · have hiff : (∃ r, (t.convert {} disk index).report = .ok r) ↔ _ :=
      ht.exists_report_iff hname hnames hnd
    rcases hreport : (t.convert {} disk index).report with e | r
    · rw [hreport] at hiff
      have hplaced : ¬∀ p ∈ t.params, p.kind ≠ .positional := fun hall ↦ nomatch hiff.2 hall
      simp only [not_forall, not_not, exists_prop] at hplaced
      exact ⟨fun _ ↦ hplaced, fun _ ↦ ⟨e, rfl⟩⟩
    · have hall := hiff.1 ⟨r, hreport⟩
      constructor
      · rintro ⟨e, he⟩
        cases he
      · rintro ⟨p, hp, hkind⟩
        exact absurd hkind (hall p hp)
  · obtain ⟨-, htool⟩ := tool_of_report hr
    rw [htool]
    refine ⟨rfl, ?_, rfl⟩
    rw [List.map_map]
    rfl

/-- A function whose first input is a mutable raw name in front of a choice in parentheses and whose
second one is no name, and a struct with a raw name for an optional field. -/
theorem describe_captures_raw :
    let pattern : List Token := [.name "mut", .name "r#type", .mark '@', .mark '(', .name "A",
      .mark '|', .name "B", .mark ')']
    let option : TypeForm := .path [⟨"std", none⟩, ⟨"Option", some [.type]⟩]
    let f : FnItem :=
      { name := "find"
        inputs := [.typed (.ofTokens pattern) option [.other, .doc " Kind. ", .doc ""],
          .typed (.ofTokens [.name "_"]) .other []] }
    let s : StructItem :=
      { name := "Entry", fields := .named [("id", .other, []), ("r#type", option, [])] }
    f.check = .ok f ∧ Pattern.ofTokens pattern = .binding "r#type" ∧
      (∃ p, f.target.params[0]? = some p ∧ p.IsNamedFor "r#type" option
        [.other, .doc " Kind. ", .doc ""]) ∧
      (∃ e, (f.target.convert {} (Disk.ofReadings []) {}).report = .error e) ∧
      ∃ r, (s.target.convert {} (Disk.ofReadings []) {}).report = .ok r ∧
        r.tool.function.parameters.properties.map Prod.fst = ["id", "type"] ∧
        r.tool.function.parameters.required = ["id"] := by
  intro pattern option f s
  obtain ⟨hfunction, -, hpattern, hconvert⟩ := describe_captures
  have hbinding : Pattern.ofTokens pattern = .binding "r#type" :=
    (hpattern pattern "r#type" (by decide)).2
      ⟨[.name "mut"], by simp, _, rfl, .inr ⟨_, rfl, by decide⟩⟩
  have hfree : .receiver ∉ f.inputs := by simp [f]
  obtain ⟨hcheck, -, -, hinputs⟩ := hfunction f hfree (by decide)
  refine ⟨hcheck, hbinding, ?_, ?_, ?_⟩
  · obtain ⟨p, hp, hcaptured⟩ := hinputs 0 _ rfl
    rw [hbinding] at hcaptured
    cases hcaptured with
    | named h => exact ⟨p, hp, h⟩
  · obtain ⟨hfails, -⟩ := hconvert f.target (.function hfree hcheck) (by decide) (by decide)
      (by decide) (Disk.ofReadings []) {}
    exact hfails.2 ⟨_, List.mem_of_getElem? (rfl : f.target.params[1]? = _), rfl⟩
  · obtain ⟨hfails, hschema⟩ := hconvert s.target (.struct s) (by decide) (by decide) (by decide)
      (Disk.ofReadings []) {}
    rcases hreport : (s.target.convert {} (Disk.ofReadings []) {}).report with e | r
    · obtain ⟨p, hp, hkind⟩ := hfails.1 ⟨e, hreport⟩
      have hnamed : ∀ p ∈ s.target.params, p.kind ≠ .positional := by decide
      exact absurd hkind (hnamed p hp)
    · obtain ⟨-, hproperties, hrequired⟩ := hschema r hreport
      exact ⟨r, rfl, hproperties, hrequired⟩

end ToolSchema
