import ToolSchema.Proofs.Declaration.Capture
import ToolSchema.Proofs.Text.Trim

/-!
# Names of described items

Which names an item can have to be described and converted. The companion of a function is named by
the function's name in pascal case, which is made of the letters and digits of the name only: it
loses the underscores, so a digit behind leading ones comes first, and there it starts no name
(`isName_companion_iff`). The mark of a raw name is neither taken off before the pascal case nor
before the target gets its name, though it is taken off the names of parameters and fields.

Apart from that every identifier is a name that an item can have (`describable_names`).
-/

namespace ToolSchema

/-! ### Pascal case -/

section PascalCase

variable {c : Char} {cs word : List Char}

theorem toNat_lt_of_isAlphanum (h : c.isAlphanum = true) : c.toNat < 0x80 := by
  have hlast (last : Char) (hlast : last.toNat < 0x80) (hc : c.val ≤ last.val) : c.toNat < 0x80 :=
    Nat.lt_of_le_of_lt (UInt32.le_iff_toNat_le.1 hc) hlast
  rcases Bool.or_eq_true_iff.1 h with hletter | hdigit
  · rcases Bool.or_eq_true_iff.1 hletter with hupper | hlower
    · exact hlast 'Z' (by decide) (of_decide_eq_true hupper).2
    · exact hlast 'z' (by decide) (of_decide_eq_true (Bool.and_eq_true_iff.1 hlower).2)
  · exact hlast '9' (by decide) (of_decide_eq_true (Bool.and_eq_true_iff.1 hdigit).2)

/-- **What letters and digits have in common** is settled by a look at the first 128 characters. -/
@[elab_as_elim]
theorem of_isAlphanum {p : Char → Prop} (h : c.isAlphanum = true)
    (hp : ∀ n < 0x80, (Char.ofNat n).isAlphanum = true → p (Char.ofNat n)) : p c := by
  have hc := hp c.toNat (toNat_lt_of_isAlphanum h)
  rw [Char.ofNat_toNat] at hc
  exact hc h

theorem capital_of_isAlphanum (h : c.isAlphanum = true) : Casing.capital c = [c.toUpper] := by
  rw [Casing.capital, if_pos (toNat_lt_of_isAlphanum h)]

theorem small_of_isAlphanum (h : c.isAlphanum = true) : Casing.small c = [c.toLower] := by
  rw [Casing.small, if_pos (toNat_lt_of_isAlphanum h)]

/-- Letters and digits have small forms of one character each, wherever they stand. -/
theorem smallAfter_of_isAlphanum (before : List Char) (h : ∀ c ∈ cs, c.isAlphanum = true) :
    Casing.smallAfter before cs = cs.map Char.toLower := by
  induction cs generalizing before with
  | nil => rfl
  | cons c cs ih =>
    rw [List.forall_mem_cons] at h
    have hsigma : (c == 'Σ') = false := by
      refine beq_eq_false_iff_ne.2 fun hc ↦ ?_
      exact absurd (toNat_lt_of_isAlphanum h.1) (hc ▸ by decide)
    rw [Casing.smallAfter, hsigma, if_neg Bool.false_ne_true, small_of_isAlphanum h.1, ih _ h.2]
    rfl

theorem isAlphanum_toUpper (h : c.isAlphanum = true) : c.toUpper.isAlphanum = true :=
  of_isAlphanum h (by decide)

theorem isAlphanum_toLower (h : c.isAlphanum = true) : c.toLower.isAlphanum = true :=
  of_isAlphanum h (by decide)

theorem isPart_of_isAlphanum (h : c.isAlphanum = true) : UnicodeName.isPart c = true := by
  rw [UnicodeName.isPart, isNameChar, h]
  rfl

/-- A capital form starts a name if it is the one of a letter. -/
theorem isStart_toUpper_iff (h : c.isAlphanum = true) :
    UnicodeName.isStart c.toUpper = true ↔ c.isDigit = false := by
  have hascii : ¬0x80 ≤ c.toUpper.toNat :=
    Nat.not_le.2 (toNat_lt_of_isAlphanum (isAlphanum_toUpper h))
  have hstart : isNameStart c.toUpper = !c.isDigit := of_isAlphanum h (by decide)
  rw [UnicodeName.isStart, decide_eq_false hascii, Bool.false_and, Bool.or_false, hstart,
    Bool.not_eq_true']

theorem isAlphanum_of_mem_capitalized (h : ∀ c ∈ word, c.isAlphanum = true) :
    ∀ c ∈ capitalized word, c.isAlphanum = true := by
  rcases word with - | ⟨d, word⟩
  · exact nofun
  · rw [List.forall_mem_cons] at h
    rw [capitalized, capital_of_isAlphanum h.1, Casing.smallText, smallAfter_of_isAlphanum [] h.2]
    intro c hc
    rcases List.mem_append.1 hc with hc | hc
    · rw [List.mem_singleton.1 hc]
      exact isAlphanum_toUpper h.1
    · obtain ⟨e, he, rfl⟩ := List.mem_map.1 hc
      exact isAlphanum_toLower (h.2 e he)

/-- The words of a name are parts of it without underscores. -/
theorem ne_underscore_of_mem_splitUnderscores (hword : word ∈ splitUnderscores cs)
    (hc : c ∈ word) : c ∈ cs ∧ c ≠ '_' := by
  fun_induction splitUnderscores cs generalizing word with
  | case1 =>
    obtain rfl := List.mem_singleton.1 hword
    cases hc
  | case2 rest ih =>
    rcases List.mem_cons.1 hword with rfl | hword
    · cases hc
    · obtain ⟨hmem, hne⟩ := ih hword hc
      exact ⟨List.mem_cons_of_mem _ hmem, hne⟩
  | case3 d rest hd =>
    obtain rfl := List.mem_singleton.1 hword
    obtain rfl := List.mem_singleton.1 hc
    exact ⟨List.mem_cons_self, hd⟩
  | case4 d rest hd first words hsplit ih =>
    rw [hsplit] at ih
    rcases List.mem_cons.1 hword with rfl | hword
    · rcases List.mem_cons.1 hc with rfl | hc
      · exact ⟨List.mem_cons_self, hd⟩
      · obtain ⟨hmem, hne⟩ := ih List.mem_cons_self hc
        exact ⟨List.mem_cons_of_mem _ hmem, hne⟩
    · obtain ⟨hmem, hne⟩ := ih (List.mem_cons_of_mem _ hword) hc
      exact ⟨List.mem_cons_of_mem _ hmem, hne⟩

/-- **Nothing but letters and digits** is left of an identifier in pascal case. -/
theorem isAlphanum_of_mem_pascalCase (h : ∀ c ∈ cs, isNameChar c = true) :
    ∀ c ∈ pascalCase cs, c.isAlphanum = true := by
  intro c hc
  obtain ⟨word, hword, hc⟩ := List.mem_flatMap.1 hc
  refine isAlphanum_of_mem_capitalized (fun d hd ↦ ?_) c hc
  obtain ⟨hmem, hne⟩ := ne_underscore_of_mem_splitUnderscores hword hd
  exact (Bool.or_eq_true_iff.1 (h d hmem)).resolve_right (by simpa using hne)

/-- Leading underscores have no say. -/
theorem pascalCase_dropWhile (cs : List Char) :
    pascalCase (cs.dropWhile (· == '_')) = pascalCase cs := by
  induction cs with
  | nil => rfl
  | cons c cs ih =>
    by_cases hc : c = '_'
    · subst hc
      exact ih
    · rw [List.dropWhile_cons_of_neg (by simpa using hc)]

theorem splitUnderscores_ne_nil (cs : List Char) : splitUnderscores cs ≠ [] := by
  fun_cases splitUnderscores cs with
  | case1 => exact List.cons_ne_nil _ _
  | case2 => exact List.cons_ne_nil _ _
  | case3 => exact List.cons_ne_nil _ _
  | case4 => exact List.cons_ne_nil _ _

/-- What is no underscore goes before the first word. -/
theorem splitUnderscores_cons {words : List (List Char)} (hc : c ≠ '_')
    (h : splitUnderscores cs = word :: words) :
    splitUnderscores (c :: cs) = (c :: word) :: words := by
  rw [splitUnderscores.eq_3 _ _ hc, h]

/-- What is no underscore comes first, in its capital form. -/
theorem exists_pascalCase_cons (hc : c ≠ '_') (cs : List Char) :
    ∃ rest, pascalCase (c :: cs) = Casing.capital c ++ rest := by
  obtain ⟨word, words, hwords⟩ := List.exists_cons_of_ne_nil (splitUnderscores_ne_nil cs)
  rw [pascalCase, splitUnderscores_cons hc hwords, List.flatMap_cons, capitalized,
    List.append_assoc]
  exact ⟨_, rfl⟩

/-- **When a companion has a name**: no digit stands first in the identifier, or first behind its
leading underscores. -/
theorem isName_companion_iff (h : ∀ c ∈ cs, isNameChar c = true) :
    UnicodeName.isName (pascalCase cs ++ "Schema".toList) = true ↔
      ∀ c ∈ (cs.dropWhile (· == '_')).head?, c.isDigit = false := by
  have halphanum := isAlphanum_of_mem_pascalCase h
  rw [← pascalCase_dropWhile cs] at halphanum ⊢
  rcases hrest : cs.dropWhile (· == '_') with - | ⟨c, rest⟩
  · exact ⟨fun _ ↦ nofun, fun _ ↦ by decide⟩
  · rw [hrest] at halphanum
    have hne : c ≠ '_' := by
      have hhead := List.head?_dropWhile_not (· == '_') cs
      rw [hrest] at hhead
      simpa using hhead
    have hc : c.isAlphanum = true := by
      have hmem : c ∈ cs := (List.dropWhile_suffix _).subset (hrest ▸ List.mem_cons_self)
      exact (Bool.or_eq_true_iff.1 (h c hmem)).resolve_right (by simpa using hne)
    obtain ⟨tail, htail⟩ := exists_pascalCase_cons hne rest
    rw [capital_of_isAlphanum hc] at htail
    have hparts : (tail ++ "Schema".toList).all UnicodeName.isPart = true := by
      rw [List.all_append, Bool.and_eq_true_iff, List.all_eq_true]
      refine ⟨fun d hd ↦ isPart_of_isAlphanum (halphanum d ?_), by decide⟩
      rw [htail]
      exact List.mem_append_right _ hd
    rw [htail, List.singleton_append, List.cons_append, UnicodeName.isName, hparts, Bool.and_true,
      isStart_toUpper_iff hc, List.head?_cons]
    exact ⟨fun hdigit d hd ↦ Option.some.inj hd ▸ hdigit, fun hdigit ↦ hdigit c rfl⟩

theorem isPart_of_mem_isName (h : UnicodeName.isName cs = true) (hc : c ∈ cs) :
    UnicodeName.isPart c = true := by
  obtain ⟨d, rest, rfl⟩ := List.exists_cons_of_ne_nil (List.ne_nil_of_mem hc)
  obtain ⟨hd, hrest⟩ := Bool.and_eq_true_iff.1 h
  rcases List.mem_cons.1 hc with rfl | hc
  · exact UnicodeName.isPart_of_isStart hd
  · exact List.all_eq_true.1 hrest c hc

/-- **The mark of a raw name stays.** -/
theorem mark_mem_pascalCase (cs : List Char) : '#' ∈ pascalCase ('r' :: '#' :: cs) := by
  obtain ⟨word, words, hwords⟩ := List.exists_cons_of_ne_nil (splitUnderscores_ne_nil cs)
  have hraw : splitUnderscores ('r' :: '#' :: cs) = ('r' :: '#' :: word) :: words :=
    splitUnderscores_cons (by decide) (splitUnderscores_cons (by decide) hwords)
  have hsmall : Casing.smallText ('#' :: word) = '#' :: Casing.smallAfter ['#'] word := rfl
  rw [pascalCase, hraw, List.flatMap_cons, capitalized, hsmall]
  simp

/-- No name has the mark of a raw name. -/
theorem not_isName_raw_companion (cs ds : List Char) :
    UnicodeName.isName (pascalCase ('r' :: '#' :: cs) ++ ds) = false := by
  refine Bool.eq_false_iff.2 fun h ↦ ?_
  have hmark := isPart_of_mem_isName h (List.mem_append_left ds (mark_mem_pascalCase cs))
  exact absurd hmark (by decide)

end PascalCase

/-! ### Items -/

section Items

variable {f : FnItem} {name : String}

/-- **Functions with a companion**: those whose name shows no digit first, or first behind leading
underscores. -/
theorem FnItem.check_eq_ok_iff (hfree : .receiver ∉ f.inputs) (hname : isIdentifier f.name = true) :
    f.check = .ok f ↔
      ∀ c ∈ (f.name.toList.dropWhile (· == '_')).head?, c.isDigit = false := by
  rw [← isName_companion_iff fun c hc ↦ isNameChar_of_mem_isName hname hc, FnItem.check_eq hfree,
    FnItem.companionName, String.toList_ofList]
  split
  · next h => exact ⟨fun _ ↦ h, fun _ ↦ rfl⟩
  · next h =>
    constructor
    · intro hcheck
      cases hcheck
    · exact fun hcompanion ↦ absurd hcompanion h

/-- **Functions with a raw name** have no companion. -/
theorem FnItem.check_of_raw (hfree : .receiver ∉ f.inputs) (hname : f.name = "r#" ++ name) :
    f.check = .error (.badCompanion f.companionName) := by
  have hcompanion : UnicodeName.isName f.companionName.toList = false := by
    rw [FnItem.companionName, String.toList_ofList, hname, String.toList_append]
    exact not_isName_raw_companion name.toList _
  rw [FnItem.check_eq hfree, hcompanion, if_neg Bool.false_ne_true]

/-- The mark of a raw name is in no identifier. -/
theorem not_isIdentifier_raw (name : String) : isIdentifier ("r#" ++ name) = false := by
  rw [isIdentifier, String.toList_append]
  rfl

variable {disk : Disk} {index : DocIndex} {t : Target}

/-- **The parameters have proper names**: identifiers that differ. -/
structure Target.HasProperNames (t : Target) : Prop where
  isIdentifier : ∀ p ∈ t.params, isIdentifier p.name = true
  nodup : (t.params.map Param.name).Nodup

/-- A target with a proper name and parameters that go by names is converted if they have proper
ones. -/
theorem exists_report_iff_hasProperNames (hname : isIdentifier t.name = true)
    (hnamed : ∀ p ∈ t.params, p.kind.isNamed = true) :
    (∃ r, (t.convert {} disk index).report = .ok r) ↔ t.HasProperNames := by
  rw [exists_report_iff rfl rfl]
  constructor
  · rintro ⟨-, hu, hnd⟩
    exact ⟨fun p hp ↦ (hu p hp).isIdentifier, hnd⟩
  · rintro ⟨hid, hnd⟩
    exact ⟨hname, fun p hp ↦ ⟨hnamed p hp, hid p hp⟩, hnd⟩

theorem report_of_raw (hname : t.name = "r#" ++ name) (config : Config) :
    (t.convert config disk index).report = .error (.invalidShape t.name .badName) := by
  have hshape : t.shape = .error (.invalidShape t.name .badName) := by
    rw [Target.shape, hname, not_isIdentifier_raw, if_neg Bool.false_ne_true]
  rw [convert_of_shape_error hshape]
  rfl

end Items

/-- **Which names an item can have.** A function that goes by an identifier has a companion exactly
if no digit stands first in it or first behind its leading underscores, and a struct always can be
described. The target has the name as it is written, so it is converted whenever its parameters have
proper names. Under the same identifier as a raw name, a function has no companion and a struct is
described but never converted, since the mark of the raw name stays in both. -/
theorem describable_names (s : String) (hs : isIdentifier s = true) :
    (∀ f : FnItem, .receiver ∉ f.inputs → (∀ p ∈ f.target.params, p.kind ≠ .positional) →
      (f.name = s →
        (f.check = .ok f ↔ ∀ c ∈ (s.toList.dropWhile (· == '_')).head?, c.isDigit = false) ∧
        f.target.name = s ∧
        ∀ disk index,
          (∃ r, (f.target.convert {} disk index).report = .ok r) ↔ f.target.HasProperNames) ∧
      (f.name = "r#" ++ s → f.check = .error (.badCompanion f.companionName))) ∧
    ∀ i : StructItem, (∀ p ∈ i.target.params, p.kind ≠ .positional) →
      (i.name = s → i.target.name = s ∧
        ∀ disk index,
          (∃ r, (i.target.convert {} disk index).report = .ok r) ↔ i.target.HasProperNames) ∧
      (i.name = "r#" ++ s → i.target.name = "r#" ++ s ∧
        ∀ disk index,
          (i.target.convert {} disk index).report = .error (.invalidShape ("r#" ++ s) .badName)) := by
  refine ⟨fun f hfree hnamed ↦ ⟨?_, FnItem.check_of_raw hfree⟩, fun i hnamed ↦ ⟨?_, ?_⟩⟩
  · rintro rfl
    refine ⟨FnItem.check_eq_ok_iff hfree hs, rfl, fun disk index ↦ ?_⟩
    exact exists_report_iff_hasProperNames hs fun p hp ↦
      (isNamed_or_of_mem_paramsFrom hfree hp).resolve_right (hnamed p hp)
  · rintro rfl
    refine ⟨rfl, fun disk index ↦ exists_report_iff_hasProperNames hs fun p hp ↦ ?_⟩
    exact ((captured_params i.fields).isNamed_or hp).resolve_right (hnamed p hp)
  · intro hname
    have htarget : i.target.name = "r#" ++ s := hname
    refine ⟨htarget, fun disk index ↦ ?_⟩
    rw [← htarget]
    exact report_of_raw htarget {}

/-- Digits and underscores all over a name do no harm to a function that takes an argument, and a
struct is refused under the same name as a raw one. -/
theorem describable_names_underscored :
    let f : FnItem := { name := "__x_1", inputs := [.typed (.binding "a") .other []] }
    let i : StructItem := { name := "r#" ++ "__x_1", fields := .named [("a", .other, [])] }
    f.check = .ok f ∧ (∃ r, (f.target.convert {} (Disk.ofReadings []) {}).report = .ok r) ∧
      (i.target.convert {} (Disk.ofReadings []) {}).report =
        .error (.invalidShape ("r#" ++ "__x_1") .badName) := by
  intro f i
  obtain ⟨hfunction, hstruct⟩ := describable_names "__x_1" (by decide)
  obtain ⟨hplain, -⟩ := hfunction f (by simp [f]) (by decide)
  obtain ⟨hcheck, -, hreport⟩ := hplain rfl
  obtain ⟨-, hraw⟩ := hstruct i (by decide)
  obtain ⟨-, hrefused⟩ := hraw rfl
  have hfirst : ("__x_1".toList.dropWhile (· == '_')).head? = some 'x' := by decide
  refine ⟨hcheck.2 ?_, (hreport _ _).2 ⟨by decide, by decide⟩, hrefused _ _⟩
  rw [hfirst]
  exact fun c hc ↦ Option.some.inj hc ▸ rfl

/-- Three items with legal names that cannot be handled: the mark of a raw name stays in the name of
a struct's target and in the one of a function's companion, and a companion loses the underscore
that stands before a digit. The raw name of the field is not in the way. -/
theorem describe_refuses_legal_names :
    let i : StructItem := { name := "r#type", fields := .named [("r#in", .other, [])] }
    let raw : FnItem := { name := "r#type" }
    let digit : FnItem := { name := "_1" }
    isIdentifier "type" = true ∧ isIdentifier i.target.name = false ∧
      i.target.params = [⟨"in", .requiredNamed, none⟩] ∧
      (i.target.convert {} (Disk.ofReadings []) {}).report =
        .error (.invalidShape "r#type" .badName) ∧
      raw.check = .error (.badCompanion "R#typeSchema") ∧
      isIdentifier digit.name = true ∧ digit.check = .error (.badCompanion "1Schema") := by
  intro i raw digit
  have hcheck (f : FnItem) {companion : String} (hfree : .receiver ∉ f.inputs)
      (hcompanion : f.companionName = companion)
      (hname : UnicodeName.isName companion.toList = false) :
      f.check = .error (.badCompanion companion) := by
    rw [FnItem.check_eq hfree, hcompanion, hname, if_neg Bool.false_ne_true]
  refine ⟨by decide, by decide, by decide, ?_, hcheck raw nofun (by decide) (by decide), by decide,
    hcheck digit nofun (by decide) (by decide)⟩
  have hname : i.target.name = "r#" ++ "type" := by decide
  exact report_of_raw hname {}

end ToolSchema
