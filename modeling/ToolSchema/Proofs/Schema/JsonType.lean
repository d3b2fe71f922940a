import ToolSchema.Proofs.Text.Trim
import ToolSchema.Schema.JsonType
import ToolSchema.Tag.Error

/-!
# Documented type names

Blanks around a type name do not matter, and blanks alone are no type name. The names of item types
all stand for a type (`exists_ofTypeName?_of_mem`).

A type can be spelled with much around its name: references and a path of modules before it,
arguments behind it, and blanks at some places (`SpellsType`). None of this has a say in which type
it is (`ofTypeName?_of_spelled`), although the path may hold the references and the arguments the
colons that are looked for. The steps that take a spelling apart are followed one by one: references
are stripped, which leaves a text that starts with the path; what starts with the first opening
bracket is cut off, which leaves the path and the name; and the last pair of colons is that before
the name.
-/

namespace ToolSchema

theorem baseName_trim (cs : List Char) : baseName (trim cs) = baseName cs := by
  rw [baseName, baseName, trim_trim]

/-- Blanks around a type name do not matter. -/
theorem ofTypeName?_trimmed (n : String) :
    JsonType.ofTypeName? (trimmed n) = JsonType.ofTypeName? n := by
  rw [JsonType.ofTypeName?, JsonType.ofTypeName?, trimmed, String.toList_ofList, baseName_trim]

/-- A type name is not blank. -/
theorem trim_ne_nil_of_ofTypeName? {n : String} {type : JsonType}
    (h : JsonType.ofTypeName? n = some type) : trim n.toList ≠ [] := by
  intro hn
  have hnone : JsonType.ofTypeName? (String.ofList []) = none := by decide
  rw [← ofTypeName?_trimmed, trimmed, hn, hnone] at h
  cases h

/-- The names that an item type can have all stand for a type. -/
theorem exists_ofTypeName?_of_mem {n : String} (h : n ∈ itemTypeNames) :
    ∃ type, JsonType.ofTypeName? n = some type := by
  have hall : ∀ n ∈ itemTypeNames, (JsonType.ofTypeName? n).isSome = true := by decide +kernel
  exact Option.isSome_iff_exists.1 (hall n h)

/-! ### Spellings of a type -/

/-- What can stand before the name of a type: nothing, or a text that ends in two colons. It holds
none of the brackets that arguments start with. -/
structure IsModulePath (path : List Char) : Prop where
  ends : path = [] ∨ [':', ':'] <:+ path
  starts : ∀ c ∈ path.head?, isBlank c = false ∧ c ≠ '&'
  plain : ∀ c ∈ path, opensArguments c = false

/-- **The text spells a type of this name**: behind references and modules, and before arguments,
which are nothing or start with a bracket. -/
def SpellsType (text name : List Char) : Prop :=
  ∃ lead references gap path trail arguments,
    text = lead ++ references ++ gap ++ path ++ name ++ trail ++ arguments ∧
      (∀ c ∈ lead ++ gap ++ trail, isBlank c = true) ∧ (∀ c ∈ references, c = '&') ∧
      IsModulePath path ∧ ∀ c ∈ arguments.head?, opensArguments c = true

variable {cs path name trail arguments : List Char} {c : Char}

theorem not_isBlank_of_opensArguments (h : opensArguments c = true) : isBlank c = false := by
  simp only [opensArguments, Bool.or_eq_true, beq_iff_eq] at h
  rcases h with ((rfl | rfl) | rfl) | rfl <;> decide

theorem not_opensArguments_of_isBlank (h : isBlank c = true) : opensArguments c = false := by
  rcases hc : opensArguments c with - | -
  · rfl
  · rw [not_isBlank_of_opensArguments hc] at h
    exact absurd h Bool.false_ne_true

theorem not_opensArguments_of_isNameChar (h : isNameChar c = true) : opensArguments c = false := by
  rcases hc : opensArguments c with - | -
  · rfl
  · simp only [opensArguments, Bool.or_eq_true, beq_iff_eq] at hc
    rcases hc with ((rfl | rfl) | rfl) | rfl <;> exact absurd h (by decide)

/-! ### References -/

/-- **References are stripped** off whatever starts with neither a blank nor a reference, and so are
the blanks around them and at the end. -/
theorem trim_dropWhile_references {lead references gap : List Char}
    (hlead : ∀ c ∈ lead, isBlank c = true) (hreferences : ∀ c ∈ references, c = '&')
    (hgap : ∀ c ∈ gap, isBlank c = true) (hc : isBlank c = false) (hne : c ≠ '&')
    (cs : List Char) :
    trim ((trim (lead ++ (references ++ (gap ++ c :: cs)))).dropWhile (· == '&')) =
      trimEnd (c :: cs) := by
  obtain ⟨ds, hds⟩ : ∃ ds, trimEnd (c :: cs) = c :: ds := ⟨_, trimEnd_cons_of_not_isBlank hc cs⟩
  have hkept (before : List Char) : trimEnd (before ++ c :: cs) = before ++ c :: ds := by
    rw [trimEnd_append, if_neg (by simp [hds]), hds]
  have htrim : trim (c :: ds) = c :: ds := by
    rw [trim_cons_of_not_isBlank hc, ← hds, trimEnd_trimEnd]
  have hgapped : trim (gap ++ c :: ds) = c :: ds := by
    rw [trim, trimStart_append_of_forall_isBlank hgap]
    exact htrim
  have hstart : trim (lead ++ (references ++ (gap ++ c :: cs))) =
      trimStart (references ++ (gap ++ c :: ds)) := by
    rw [trim, ← trimStart_trimEnd, ← List.append_assoc, ← List.append_assoc, hkept,
      List.append_assoc, List.append_assoc, trimStart_append_of_forall_isBlank hlead]
  rw [hstart, hds]
  rcases references with - | ⟨r, references⟩
  · rw [List.nil_append, trimStart_append_of_forall_isBlank hgap,
      trimStart_cons_of_not_isBlank hc, List.dropWhile_cons_of_neg (by simpa using hne), htrim]
  · obtain rfl := hreferences r List.mem_cons_self
    have hall : ∀ d ∈ '&' :: references, (d == '&') = true := fun d hd ↦
      beq_iff_eq.2 (hreferences d hd)
    -- what is left starts with a blank or with `c`
    have hstop : (gap ++ c :: ds).dropWhile (· == '&') = gap ++ c :: ds := by
      rcases gap with - | ⟨b, gap⟩
      · exact List.dropWhile_cons_of_neg (by simpa using hne)
      · refine List.dropWhile_cons_of_neg fun hb ↦ ?_
        obtain rfl : b = '&' := by simpa using hb
        exact absurd (hgap _ List.mem_cons_self) (by decide)
    rw [List.cons_append, trimStart_cons_of_not_isBlank (by decide), ← List.cons_append,
      List.dropWhile_append_of_pos hall, hstop, hgapped]

/-! ### Arguments -/

/-- **Arguments are cut off**, with the blanks before them. -/
theorem trimEnd_takeWhile_arguments (hcs : ∀ c ∈ cs, opensArguments c = false)
    (hend : trimEnd cs = cs) (htrail : ∀ c ∈ trail, isBlank c = true)
    (harguments : ∀ c ∈ arguments.head?, opensArguments c = true) :
    trimEnd ((trimEnd (cs ++ (trail ++ arguments))).takeWhile fun c ↦ !opensArguments c) = cs := by
  have htrimmed : trimEnd (cs ++ trail) = cs := by
    rw [trimEnd_append_of_forall_isBlank htrail, hend]
  have hplain : ∀ c ∈ cs ++ trail, (!opensArguments c) = true := by
    intro c hc
    rcases List.mem_append.1 hc with hc | hc
    · rw [hcs c hc]
      rfl
    · rw [not_opensArguments_of_isBlank (htrail c hc)]
      rfl
  rcases arguments with - | ⟨a, rest⟩
  · have hall : cs.takeWhile (fun c ↦ !opensArguments c) = cs :=
      List.takeWhile_eq_self_iff.2 fun c hc ↦ hplain c (List.mem_append_left trail hc)
    rw [List.append_nil, htrimmed, hall, hend]
  · have ha : opensArguments a = true := harguments a rfl
    have hkept : trimEnd (cs ++ (trail ++ a :: rest)) = cs ++ trail ++ a :: trimEnd rest := by
      rw [← List.append_assoc, trimEnd_append,
        trimEnd_cons_of_not_isBlank (not_isBlank_of_opensArguments ha),
        if_neg (List.cons_ne_nil _ _)]
    rw [hkept, List.takeWhile_append_of_pos hplain, List.takeWhile_cons_of_neg (by simp [ha]),
      List.append_nil, htrimmed]

/-! ### Modules -/

theorem afterModules?_of_notMem (h : ':' ∉ cs) : afterModules? cs = none := by
  induction cs with
  | nil => rfl
  | cons c cs ih =>
    obtain ⟨hc, hcs⟩ := not_or.1 (List.mem_cons.not.1 h)
    rw [afterModules?.eq_def]
    split
    · next heq => exact absurd (List.cons.inj heq).1.symm hc
    · next heq =>
      obtain ⟨-, rfl⟩ := List.cons.inj heq
      exact ih hcs
    · rfl

/-- Whatever stands before a text that is looked through does not matter, if there is a pair of
colons in the text. -/
theorem afterModules?_cons_of_some {ds : List Char} (h : afterModules? cs = some ds) (c : Char) :
    afterModules? (c :: cs) = some ds := by
  rw [afterModules?.eq_def]
  split
  · next rest heq =>
    obtain ⟨-, rfl⟩ := List.cons.inj heq
    rw [h, Option.getD_some]
  · next heq =>
    obtain ⟨-, rfl⟩ := List.cons.inj heq
    exact h
  · next heq => exact absurd heq (List.cons_ne_nil c cs)

/-- A single pair of colons in front of a name without colons is looked behind. -/
theorem afterModules?_colons (h : ':' ∉ name) : afterModules? (':' :: ':' :: name) = some name := by
  have hnone : afterModules? (':' :: name) = none := by
    rcases name with - | ⟨c, rest⟩
    · rfl
    · have hc : c ≠ ':' := fun hc ↦ h (hc ▸ List.mem_cons_self)
      rw [afterModules?.eq_def]
      split
      · next heq => exact absurd (List.cons.inj (List.cons.inj heq).2).1 hc
      · next heq =>
        obtain ⟨-, rfl⟩ := List.cons.inj heq
        exact afterModules?_of_notMem h
      · rfl
  rw [afterModules?, hnone, Option.getD_none]

/-- **The last pair of colons** is the one before the name. -/
theorem afterModules?_append (h : ':' ∉ name) (modules : List Char) :
    afterModules? (modules ++ ':' :: ':' :: name) = some name := by
  induction modules with
  | nil => exact afterModules?_colons h
  | cons c modules ih => exact afterModules?_cons_of_some ih c

/-- **The modules are left out** of a path and a name. -/
theorem getD_afterModules?_append {path : List Char} (hpath : IsModulePath path) (h : ':' ∉ name) :
    (afterModules? (path ++ name)).getD (path ++ name) = name := by
  rcases hpath.ends with rfl | ⟨modules, rfl⟩
  · rw [List.nil_append, afterModules?_of_notMem h, Option.getD_none]
  · have hsplit : modules ++ [':', ':'] ++ name = modules ++ ':' :: ':' :: name :=
      List.append_assoc modules [':', ':'] name
    rw [hsplit, afterModules?_append h, Option.getD_some]

/-! ### The name of a spelled type -/

theorem colon_notMem_of_isNameChar (h : ∀ c ∈ name, isNameChar c = true) : ':' ∉ name :=
  fun hc ↦ absurd (h _ hc) (by decide)

/-- What follows the references starts with neither a blank nor a reference nor a bracket. -/
theorem exists_cons_of_isModulePath {path : List Char} (hpath : IsModulePath path)
    (hne : name ≠ []) (hname : ∀ c ∈ name, isNameChar c = true) :
    ∃ c cs, path ++ name = c :: cs ∧ isBlank c = false ∧ c ≠ '&' ∧ opensArguments c = false := by
  rcases path with - | ⟨c, path⟩
  · obtain ⟨c, name, rfl⟩ := List.exists_cons_of_ne_nil hne
    have hc := hname c List.mem_cons_self
    refine ⟨c, name, rfl, not_isBlank_of_isNameChar hc, ?_, not_opensArguments_of_isNameChar hc⟩
    rintro rfl
    exact absurd hc (by decide)
  · obtain ⟨hblank, hand⟩ := hpath.starts c rfl
    exact ⟨c, path ++ name, rfl, hblank, hand, hpath.plain c List.mem_cons_self⟩

/-- **Only the name of a spelled type counts.** -/
theorem baseName_of_spelled {text : List Char} (hne : name ≠ [])
    (hname : ∀ c ∈ name, isNameChar c = true) (h : SpellsType text name) :
    baseName text = name := by
  obtain ⟨lead, references, gap, path, trail, arguments, rfl, hblank, hreferences, hpath,
    harguments⟩ := h
  have hlead : ∀ c ∈ lead, isBlank c = true := fun c hc ↦ hblank c (by simp [hc])
  have hgap : ∀ c ∈ gap, isBlank c = true := fun c hc ↦ hblank c (by simp [hc])
  have htrail : ∀ c ∈ trail, isBlank c = true := fun c hc ↦ hblank c (by simp [hc])
  have hplain : ∀ c ∈ path ++ name, opensArguments c = false := by
    intro c hc
    rcases List.mem_append.1 hc with hc | hc
    · exact hpath.plain c hc
    · exact not_opensArguments_of_isNameChar (hname c hc)
  have hend : trimEnd (path ++ name) = path ++ name := by
    rw [trimEnd_append, trimEnd_eq_of_trim_eq (trim_of_forall_not_isBlank fun c hc ↦
      not_isBlank_of_isNameChar (hname c hc)), if_neg hne]
  obtain ⟨c, cs, hcore, hc, hand, hopens⟩ := exists_cons_of_isModulePath hpath hne hname
  have hstripped : trim ((trim (lead ++ references ++ gap ++ path ++ name ++ trail ++
      arguments)).dropWhile (· == '&')) = trimEnd (path ++ name ++ (trail ++ arguments)) := by
    rw [hcore, List.cons_append,
      ← trim_dropWhile_references hlead hreferences hgap hc hand (cs ++ (trail ++ arguments)),
      ← List.cons_append, ← hcore]
    simp only [List.append_assoc]
  -- the text without references is not the empty pair of parentheses, which starts with a bracket
  have hunit : trimEnd (path ++ name ++ (trail ++ arguments)) ≠ ['(', ')'] := by
    intro heq
    rw [hcore, List.cons_append, trimEnd_cons_of_not_isBlank hc] at heq
    rw [(List.cons.inj heq).1] at hopens
    exact absurd hopens (by decide)
  rw [baseName, hstripped]
  simp only [hunit, if_false]
  rw [trimEnd_takeWhile_arguments hplain hend htrail harguments,
    getD_afterModules?_append hpath (colon_notMem_of_isNameChar hname)]

theorem JsonType.mem_all (type : JsonType) : type ∈ JsonType.all := by
  cases type <;> decide

/-- A name is documented for one type only. -/
theorem documentedNames_unique {n : String} {type other : JsonType}
    (h : n ∈ type.documentedNames) (hother : n ∈ other.documentedNames) : type = other := by
  have hall : ∀ type ∈ JsonType.all, ∀ other ∈ JsonType.all, type ≠ other →
      ∀ n ∈ type.documentedNames, n ∉ other.documentedNames := by decide +kernel
  by_contra hne
  exact hall type type.mem_all other other.mem_all hne n h hother

/-- The type that a text stands for is the one that its name is documented for. -/
theorem ofTypeName?_eq_some_iff {n : String} {type : JsonType} :
    JsonType.ofTypeName? n = some type ↔
      String.ofList (baseName n.toList) ∈ type.documentedNames := by
  generalize hbase : String.ofList (baseName n.toList) = base
  rw [JsonType.ofTypeName?, hbase]
  constructor
  · intro h
    simpa using List.find?_some h
  · intro h
    have hsome : (JsonType.all.find? fun type ↦ type.documentedNames.contains base).isSome :=
      List.find?_isSome.2 ⟨type, type.mem_all, by simpa using h⟩
    obtain ⟨other, hother⟩ := Option.isSome_iff_exists.1 hsome
    have hmem : base ∈ other.documentedNames := by simpa using List.find?_some hother
    rw [documentedNames_unique h hmem]
    exact hother

/-- **What stands around the name of a type does not matter**: however a type is spelled, with
references and modules before its name and arguments behind it, it is the type that the name alone
stands for, which is the one that has the name among its documented names, if there is one. The
modules and the arguments are arbitrary, so that both can hold any number of colons, and brackets
need not match in the arguments. -/
theorem ofTypeName?_of_spelled {text name : String} (hne : name ≠ "")
    (hname : ∀ c ∈ name.toList, isNameChar c = true) (h : SpellsType text.toList name.toList) :
    JsonType.ofTypeName? text = JsonType.ofTypeName? name ∧
      ∀ type, JsonType.ofTypeName? text = some type ↔ name ∈ type.documentedNames := by
  have hnil : name.toList ≠ [] := fun hnil ↦ hne (String.toList_eq_nil_iff.1 hnil)
  have htext : baseName text.toList = name.toList := baseName_of_spelled hnil hname h
  have halone : SpellsType name.toList name.toList :=
    ⟨[], [], [], [], [], [], by simp, by simp, by simp, ⟨.inl rfl, by simp, by simp⟩, by simp⟩
  constructor
  · rw [JsonType.ofTypeName?, JsonType.ofTypeName?, htext, baseName_of_spelled hnil hname halone]
  · intro type
    rw [ofTypeName?_eq_some_iff, htext, String.ofList_toList]

/-- A reference to a map in a module, with arguments whose brackets do not match. -/
theorem ofTypeName?_of_spelled_hashMap :
    SpellsType " && std::collections::HashMap <std::string::String, Vec<(u8".toList
        "HashMap".toList ∧
      JsonType.ofTypeName? " && std::collections::HashMap <std::string::String, Vec<(u8" =
        some .object := by
  have hpath : IsModulePath "std::collections::".toList :=
    ⟨.inr ⟨"std::collections".toList, by simp⟩, by simp [isBlank], by simp [opensArguments]⟩
  have hname : "HashMap".toList.all isNameChar = true := by decide +kernel
  have hspells : SpellsType " && std::collections::HashMap <std::string::String, Vec<(u8".toList
      "HashMap".toList :=
    ⟨[' '], ['&', '&'], [' '], "std::collections::".toList, [' '],
      "<std::string::String, Vec<(u8".toList, by simp, by simp [isBlank], by simp, hpath,
      by simp [opensArguments]⟩
  obtain ⟨-, htype⟩ := ofTypeName?_of_spelled (by decide) (List.all_eq_true.1 hname) hspells
  exact ⟨hspells, (htype .object).2 (by decide)⟩

end ToolSchema
