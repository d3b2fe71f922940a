import ToolSchema.Proofs.Json.Reader
import ToolSchema.Proofs.Text.Trim
import ToolSchema.Tag.Count
import ToolSchema.Tag.Values

/-!
# Payloads that were written

What the grammars of payloads make of texts that were written for them: a parameter and its payload
come apart again (`ofChars?_append`), the decimal digits of a word are its count, and the compact
text of a list is the list. For the last one, the check of brackets has to pass over whatever a
string may hold (`isBalanced_write`).
-/

namespace ToolSchema

/-- **A parameter and its payload** are told apart by the blank between them. -/
theorem Payload.ofChars?_append {parameter content : List Char} (hp : isName parameter = true)
    (hc : trim content = content) (hne : content ≠ []) :
    Payload.ofChars? (parameter ++ ' ' :: content) = some ⟨parameter, content⟩ := by
  have hcontent : trim (' ' :: content) = content := by
    rw [trim_cons_of_isBlank (by decide), hc]
  have hstarts : startsBlank (' ' :: content) = true := by
    rw [startsBlank]
    decide
  have hkeep : content.isEmpty = false := by simpa using hne
  rw [Payload.ofChars?, trimStart_append_of_isName hp,
    splitName?_append hp (endsName_cons_of_isBlank (by decide))]
  simp only [hcontent, hstarts, hkeep]
  rfl

theorem ofChars?_payload {parameter content : String} (hp : isIdentifier parameter = true)
    (hc : trim content.toList = content.toList) (hne : content.toList ≠ []) :
    Payload.ofChars? (parameter ++ " " ++ content).toList =
      some ⟨parameter.toList, content.toList⟩ := by
  have hbody : (parameter ++ " " ++ content).toList =
      parameter.toList ++ ' ' :: content.toList := by simp
  rw [hbody, Payload.ofChars?_append hp hc hne]

/-! ### Counts -/

/-- **Decimal digits are read as their number**, if it fits a word. -/
theorem countOf_decimalDigits (n : UInt64) : countOf (decimalDigits n.toNat) = .ok n := by
  have hall : (decimalDigits n.toNat).all Json.isDigit = true :=
    List.all_eq_true.2 fun _ hc ↦ Json.isDigit_of_mem_decimalDigits hc
  have hsign : (decimalDigits n.toNat).head? ≠ some '-' := fun h ↦
    absurd (Json.isDigit_of_mem_decimalDigits (List.mem_of_head? h)) (by decide)
  have hvalue : decimalValue (decimalDigits n.toNat) = n.toNat :=
    Json.ofDigitChars_decimalDigits n.toNat
  rw [countOf, if_neg (by simpa using hsign), hall, hvalue, if_neg (by decide),
    if_pos n.toNat_lt, UInt64.ofNat_toNat]

theorem toList_toString (n : UInt64) : (toString n).toList = decimalDigits n.toNat :=
  Nat.toList_repr

/-- The spelling of a word has neither blanks at its ends nor a line feed. -/
theorem toString_word (n : UInt64) :
    trim (toString n).toList = (toString n).toList ∧ (toString n).toList ≠ [] ∧
      '\n' ∉ (toString n).toList := by
  have hblank {c : Char} (h : c ∈ decimalDigits n.toNat) : isBlank c = false := by
    refine not_isBlank_of_isNameChar ?_
    have hdigit : c.isDigit = true := Json.isDigit_of_mem_decimalDigits h
    rw [isNameChar, Char.isAlphanum, hdigit, Bool.or_true, Bool.true_or]
  rw [toList_toString]
  refine ⟨trim_of_forall_not_isBlank fun c ↦ hblank, Json.decimalDigits_ne_nil n.toNat, ?_⟩
  intro h
  exact absurd (hblank h) (by decide)

/-! ### Balanced brackets -/

variable {level : Nat} {cs : List Char}

/-- A quote opens a string. -/
theorem isBalanced_quote :
    isBalanced level .outside ('"' :: cs) = isBalanced level .inside cs := rfl

theorem isBalanced_open :
    isBalanced level .outside ('[' :: cs) = isBalanced (level + 1) .outside cs := rfl

/-- Outside of strings only quotes and square brackets count. -/
theorem isBalanced_append {ds : List Char} (h : ∀ c ∈ ds, c ≠ '"' ∧ c ≠ '[' ∧ c ≠ ']') :
    isBalanced level .outside (ds ++ cs) = isBalanced level .outside cs := by
  induction ds with
  | nil => rfl
  | cons d ds ih =>
    obtain ⟨⟨hq, ho, hc⟩, hds⟩ := List.forall_mem_cons.1 h
    rw [List.cons_append, isBalanced.eq_def]
    simp only [beq_iff_eq, hq, ho, hc, if_false]
    exact ih hds

/-- Inside of a string only quotes and backslashes count. -/
theorem isBalanced_inside_cons {c : Char} (hq : c ≠ '"') (hb : c ≠ '\\') :
    isBalanced level .inside (c :: cs) = isBalanced level .inside cs := by
  rw [isBalanced, if_neg (by simpa using hb), if_neg (by simpa using hq)]

/-- The character behind a backslash does not count. -/
theorem isBalanced_escape (c : Char) :
    isBalanced level .inside ('\\' :: c :: cs) = isBalanced level .inside cs := rfl

theorem isBalanced_escapedChar (c : Char) :
    isBalanced level .inside (Json.escapedChar c ++ cs) = isBalanced level .inside cs := by
  have hdigits : ∀ n < 16, Json.hexDigit n ≠ '"' ∧ Json.hexDigit n ≠ '\\' := by decide
  unfold Json.escapedChar
  split
  iterate 7 exact isBalanced_escape _
  · next hq hb _ _ _ _ _ =>
    split
    · next hc =>
      obtain ⟨hq₁, hb₁⟩ := hdigits (c.toNat / 16) (by omega)
      obtain ⟨hq₂, hb₂⟩ := hdigits (c.toNat % 16) (by omega)
      show isBalanced level .inside ('\\' :: 'u' :: '0' :: '0' :: _ :: _ :: cs) = _
      rw [isBalanced_escape, isBalanced_inside_cons (by decide) (by decide),
        isBalanced_inside_cons (by decide) (by decide), isBalanced_inside_cons hq₁ hb₁,
        isBalanced_inside_cons hq₂ hb₂]
    · exact isBalanced_inside_cons hq hb

/-- **The check passes over a string**, whatever it holds. -/
theorem isBalanced_stringText (s : String) :
    isBalanced level .outside (Json.stringText s ++ cs) = isBalanced level .outside cs := by
  have hinside (text : List Char) :
      isBalanced level .inside (text.flatMap Json.escapedChar ++ '"' :: cs) =
        isBalanced level .outside cs := by
    induction text with
    | nil => rfl
    | cons c text ih => rw [List.flatMap_cons, List.append_assoc, isBalanced_escapedChar, ih]
  have htext : Json.stringText s ++ cs =
      '"' :: (s.toList.flatMap Json.escapedChar ++ '"' :: cs) := by
    rw [Json.stringText, List.append_assoc]
    rfl
  rw [htext, isBalanced_quote, hinside]

/-- An integer is spelled with digits, behind its sign. -/
theorem isDigit_of_mem_integerText {n : Int} {c : Char} (h : c ∈ integerText n) :
    c = '-' ∨ Json.isDigit c = true := by
  cases n with
  | ofNat n => exact .inr (Json.isDigit_of_mem_decimalDigits h)
  | negSucc n =>
    rcases List.mem_cons.1 h with rfl | h
    · exact .inl rfl
    · exact .inr (Json.isDigit_of_mem_decimalDigits h)

/-- The check passes over a value without parts. -/
theorem isBalanced_write {v : Json} (hv : v.isPlain = true) (layout : Layout) (depth : Nat) :
    isBalanced level .outside (Json.write layout depth v ++ cs) = isBalanced level .outside cs := by
  cases v with
  | bool b => cases b <;> rfl
  | string s => exact isBalanced_stringText s
  | number n =>
    rcases n with i | x
    · refine isBalanced_append fun c hc ↦ ?_
      rcases isDigit_of_mem_integerText hc with rfl | h
      · decide
      · refine ⟨?_, ?_, ?_⟩ <;> exact fun hc ↦ absurd (hc ▸ h) (by decide)
    · cases hv
  | _ => cases hv

/-! ### Printable texts -/

/-- An escape is printable, and it stands in for what is not. -/
theorem le_of_mem_escapedChar {c d : Char} (h : c ∈ Json.escapedChar d) : 0x20 ≤ c.toNat := by
  have hhex : ∀ n < 16, 0x20 ≤ (Json.hexDigit n).toNat := by decide
  unfold Json.escapedChar at h
  split at h
  iterate 7
    rcases List.mem_cons.1 h with rfl | h
    · decide
    · rw [List.mem_singleton.1 h]
      decide
  · split at h
    · simp only [List.mem_cons, List.not_mem_nil, or_false] at h
      rcases h with rfl | rfl | rfl | rfl | rfl | rfl
      iterate 4 decide
      · exact hhex _ (by omega)
      · exact hhex _ (by omega)
    · rw [List.mem_singleton.1 h]
      omega

/-- A printed value without parts has no control characters. -/
theorem le_of_mem_write {v : Json} (hv : v.isPlain = true) {layout : Layout} {depth : Nat}
    {c : Char} (hc : c ∈ Json.write layout depth v) : 0x20 ≤ c.toNat := by
  cases v with
  | bool b =>
    have hword : (Json.write layout depth (.bool b)).all (0x20 ≤ ·.toNat) = true := by
      cases b <;> rfl
    exact of_decide_eq_true (List.all_eq_true.1 hword c hc)
  | string s =>
    have hc : c ∈ '"' :: (s.toList.flatMap Json.escapedChar) ++ ['"'] := hc
    simp only [List.cons_append, List.mem_cons, List.mem_append, List.mem_flatMap,
      List.not_mem_nil, or_false] at hc
    rcases hc with rfl | ⟨d, -, h⟩ | rfl
    · decide
    · exact le_of_mem_escapedChar h
    · decide
  | number n =>
    rcases n with i | x
    · rcases isDigit_of_mem_integerText hc with rfl | h
      · decide
      · rw [Json.isDigit, Bool.and_eq_true, decide_eq_true_eq] at h
        have hzero : '0'.toNat ≤ c.toNat := h.1
        exact Nat.le_trans (by decide) hzero
    · cases hv
  | _ => cases hv

/-! ### Lists of values -/

/-- The compact text of a list. -/
theorem write_compact_array (v : Json) (vs : List Json) :
    Json.write .compact 0 (.array (v :: vs)) =
      '[' :: (Json.write .compact 1 v ++
        ((vs.flatMap fun v ↦ ',' :: Json.write .compact 1 v) ++ [']'])) := by
  rw [Json.write, Json.writeItems_eq_flatMap]
  simp [Layout.gap]

/-- The brackets of a printed list are balanced. -/
theorem isBalanced_write_array {vs : List Json} (h : ∀ v ∈ vs, v.isPlain = true) :
    isBalanced 0 .outside (Json.write .compact 0 (.array vs)) = true := by
  have hcomma : ∀ c ∈ [','], c ≠ '"' ∧ c ≠ '[' ∧ c ≠ ']' := by simp
  rcases vs with - | ⟨v, vs⟩
  · rfl
  · obtain ⟨hv, hvs⟩ := List.forall_mem_cons.1 h
    -- behind the first item the list is open, and every other item brings its comma along
    have hitems : isBalanced 1 .outside
        ((vs.flatMap fun v ↦ ',' :: Json.write .compact 1 v) ++ [']']) = true := by
      clear hv h
      induction vs with
      | nil => rfl
      | cons u us ih =>
        obtain ⟨hu, hus⟩ := List.forall_mem_cons.1 hvs
        rw [List.flatMap_cons, List.append_assoc, List.cons_append, ← List.singleton_append,
          isBalanced_append hcomma, isBalanced_write hu, ih hus]
    rw [write_compact_array, isBalanced_open, isBalanced_write hv, hitems]

/-- The compact text of a list stands in square brackets. -/
theorem brackets_write_array {vs : List Json} (hne : vs ≠ []) :
    ∃ inner, Json.write .compact 0 (.array vs) = '[' :: (inner ++ [']']) ∧
      ((∀ v ∈ vs, v.isPlain = true) → ∀ c ∈ inner, 0x20 ≤ c.toNat) := by
  obtain ⟨v, vs, rfl⟩ := List.exists_cons_of_ne_nil hne
  refine ⟨Json.write .compact 1 v ++ vs.flatMap fun v ↦ ',' :: Json.write .compact 1 v, ?_, ?_⟩
  · rw [write_compact_array, List.append_assoc]
  · intro h c hc
    obtain ⟨hv, hvs⟩ := List.forall_mem_cons.1 h
    rcases List.mem_append.1 hc with hc | hc
    · exact le_of_mem_write hv hc
    · obtain ⟨u, hu, hc⟩ := List.mem_flatMap.1 hc
      rcases List.mem_cons.1 hc with rfl | hc
      · decide
      · exact le_of_mem_write (hvs u hu) hc

/-- The compact text of a list has neither blanks at its ends nor a line feed. -/
theorem compactText_array {vs : List Json} (hne : vs ≠ []) (h : ∀ v ∈ vs, v.isPlain = true) :
    trim (Json.array vs).compactText.toList = (Json.array vs).compactText.toList ∧
      (Json.array vs).compactText.toList ≠ [] ∧
      '\n' ∉ (Json.array vs).compactText.toList := by
  have htext : (Json.array vs).compactText.toList = Json.write .compact 0 (.array vs) :=
    String.toList_ofList
  obtain ⟨inner, hinner, hprintable⟩ := brackets_write_array hne
  rw [htext, hinner]
  refine ⟨trim_enclosed (by decide) (by decide) _, List.cons_ne_nil _ _, fun hm ↦ ?_⟩
  rcases List.mem_cons.1 hm with hm | hm
  · cases hm
  rcases List.mem_append.1 hm with hm | hm
  · exact absurd (hprintable h _ hm) (by decide)
  · cases List.mem_singleton.1 hm

theorem isScalar_of_isPlain {v : Json} (h : v.isPlain = true) : v.isScalar = true := by
  cases v with
  | null => cases h
  | array => cases h
  | object => cases h
  | _ => rfl

/-- **The compact text of a list is read as the list**, however strictly. -/
theorem valuesOf_compactText (mode : ValuesParsing) {vs : List Json} (hne : vs ≠ [])
    (h : ∀ v ∈ vs, v.isPlain = true) :
    valuesOf mode (Json.array vs).compactText.toList = .ok vs := by
  have htext : (Json.array vs).compactText.toList = Json.write .compact 0 (.array vs) :=
    String.toList_ofList
  have hlist : readList mode (Json.array vs).compactText.toList = .ok vs := by
    have hread : (Json.Decoder.list .any).readText (Json.array vs).compactText = .ok vs :=
      Json.readText_list_any h .compact
    simp only [readList, String.ofList_toList, hread]
  have hcheck : checkValues vs = .ok vs := by
    have hfind : vs.find? (fun v ↦ !v.isScalar) = none := by
      rw [List.find?_eq_none]
      intro v hv
      simp [isScalar_of_isPlain (h v hv)]
    rw [checkValues, if_neg (by simpa using hne), hfind]
  have hbrackets : (Json.array vs).compactText.toList.head? = some '[' ∧
      (Json.array vs).compactText.toList.getLast? = some ']' := by
    obtain ⟨inner, hinner, -⟩ := brackets_write_array hne
    rw [htext, hinner]
    refine ⟨rfl, ?_⟩
    rw [← List.cons_append, List.getLast?_concat]
  rw [valuesOf, hbrackets.1, hbrackets.2, hlist, htext, isBalanced_write_array h]
  exact hcheck

/-- **A parameter and a list** are read as the two. -/
theorem parseValues_compactText (mode : ValuesParsing) {parameter : String}
    (hp : isIdentifier parameter = true) {vs : List Json} (hne : vs ≠ [])
    (h : ∀ v ∈ vs, v.isPlain = true) :
    parseValues (parameter ++ " " ++ (Json.array vs).compactText) mode = .ok (parameter, vs) := by
  obtain ⟨hc, hempty, -⟩ := compactText_array hne h
  rw [parseValues, ofChars?_payload hp hc hempty]
  simp only [valuesOf_compactText mode hne h, String.ofList_toList]

end ToolSchema
