import ToolSchema.Proofs.Json.Array
import ToolSchema.Proofs.Json.Restores
import ToolSchema.Proofs.Tag.Brackets
import ToolSchema.Proofs.Tag.Grammar
import ToolSchema.Proofs.Tag.TagText

/-!
# Lists of values

Which texts list the values of a parameter, in either mode. Three recognizers stand behind one
another: a check of brackets, the reader of JSON, and in permissive mode a reader of bare words.

* The check of brackets refuses no text of a JSON array, whatever stands in its strings
  (`brackets_of_readText_list`), and no list of bare words (`IsBareList.brackets`). So it only
  chooses between two refusals.
* A text that starts with a square bracket is JSON exactly if it is the text of an array, so the
  reader of bare words never sees a text that is JSON, of whatever kind
  (`valuesOf_permissive_of_isJsonText`).

Both together give the language of either mode (`values_grammar`).
-/

namespace ToolSchema

variable {mode : ValuesParsing} {payload : List Char} {vs : List Json}

/-! ### Brackets -/

theorem isBlank_of_isGap {c : Char} (h : Json.isGap c = true) : isBlank c = true := by
  simp only [Json.isGap, Bool.or_eq_true, beq_iff_eq] at h
  rcases h with ((rfl | rfl) | rfl) | rfl <;> rfl

/-- **The text of a list stands in square brackets, and they are balanced.** -/
theorem brackets_of_readText_list
    (h : (Json.Decoder.list .any).readText (String.ofList payload) = .ok vs)
    (htrim : trim payload = payload) :
    (payload.head? = some '[' ∧ payload.getLast? = some ']') ∧
      isBalanced 0 .outside payload = true := by
  simp only [Json.Decoder.readText, String.toList_ofList] at h
  split at h
  · cases h
  · next rest hrun =>
    obtain ⟨tail, hs⟩ := Json.Decoder.exists_skipGap_of_run_list hrun
    -- no blank stands before the first bracket
    have hhead : payload = '[' :: tail := by
      rcases payload with - | ⟨c, payload⟩
      · cases hs
      · have hc : isBlank c = false := by
          have hstarts := startsBlank_trimStart (trimEnd (c :: payload))
          rwa [trimStart_trimEnd, ← trim, htrim] at hstarts
        have hgap : Json.isGap c = false := by
          by_contra hgap
          rw [isBlank_of_isGap (by simpa using hgap)] at hc
          cases hc
        rwa [Json.skipGap, List.dropWhile_cons_of_neg (by simp [hgap])] at hs
    have hrun : ((Json.Decoder.list .any).fromText (126 + 1)).run payload = _ := hrun
    rw [Json.Decoder.run_list _ _ hs] at hrun
    have hitem (found : List Json) :
        ((Json.Decoder.any.fromText 126).map (· :: found)).PassesTo [] :=
      ((Json.Reader.passesTo_json 126).map _).map _
    have hpass : Passes .outside .outside tail (']' :: rest) :=
      (Json.Reader.passesTo_items hitem []).map List.reverse hrun
    -- what stands behind the last bracket is blank, so there is nothing
    obtain ⟨body, hbody⟩ := hpass.suffix
    have hblank : ∀ c ∈ rest, isBlank c = true := by
      split at h
      · next hend => exact fun c hc ↦ isBlank_of_isGap (List.dropWhile_eq_nil_iff.1 hend c hc)
      · cases h
    have hrest : rest = [] := by
      have hend := trimEnd_eq_of_trim_eq htrim
      have hsplit : payload = ('[' :: body ++ [']']) ++ rest := by
        rw [hhead, ← hbody, List.append_assoc]
        rfl
      rw [hsplit, trimEnd_append_of_forall_isBlank hblank,
        trimEnd_concat_of_not_isBlank (by decide)] at hend
      exact List.self_eq_append_right.1 hend
    subst hrest
    refine ⟨⟨by rw [hhead]; rfl, ?_⟩, ?_⟩
    · rw [hhead, ← hbody, ← List.cons_append, List.getLast?_concat]
    · rw [hhead, (Passes.brackets hpass).balance]
      rfl

/-! ### Bare words -/

/-- **A list of bare words**: none of the marks of JSON stands between its brackets, and something
stands before and behind each of its commas. -/
def IsBareList (payload : List Char) (words : List Json) : Prop :=
  ∃ inner, payload = '[' :: (inner ++ [']']) ∧
    (∀ c ∈ inner, c ∉ ['[', ']', '"', '\'', '\x7b', '\x7d']) ∧
    (∀ piece ∈ piecesAt ',' inner, trim piece ≠ []) ∧
    words = (piecesAt ',' inner).map fun piece ↦ .string (String.ofList (trim piece))

theorem bracketed?_eq_some_iff {inner : List Char} :
    bracketed? payload = some inner ↔ payload = '[' :: (inner ++ [']']) := by
  unfold bracketed?
  split
  · next rest =>
    rw [List.cons.injEq, and_iff_right rfl]
    constructor
    · intro h
      split at h
      · next hlast =>
        rw [← Option.some.inj h]
        exact (List.dropLast_append_getLast? ']' (by simpa using hlast)).symm
      · cases h
    · rintro rfl
      simp
  · next hne => exact ⟨nofun, fun h ↦ absurd h (hne _)⟩

theorem bareWords?_eq_some_iff {words : List Json} :
    bareWords? payload = some words ↔ IsBareList payload words := by
  simp only [bareWords?, Option.bind_eq_bind, Option.bind_eq_some_iff, bracketed?_eq_some_iff,
    IsBareList]
  refine exists_congr fun inner ↦ and_congr_right fun _ ↦ ?_
  have hmark (c : Char) : isListMark c = false ↔ c ∉ ['[', ']', '"', '\'', '\x7b', '\x7d'] := by
    simp [isListMark, and_assoc]
  have hmarks : inner.any isListMark = false ↔
      ∀ c ∈ inner, c ∉ ['[', ']', '"', '\'', '\x7b', '\x7d'] := by
    rw [List.any_eq_false]
    exact forall₂_congr fun c _ ↦ (Bool.not_eq_true _).to_iff.trans (hmark c)
  have hwords : ((piecesAt ',' inner).map trim).any List.isEmpty = false ↔
      ∀ piece ∈ piecesAt ',' inner, trim piece ≠ [] := by
    simp
  rw [← hmarks, ← hwords]
  split
  · next h =>
    refine ⟨nofun, fun ⟨hm, hw, _⟩ ↦ ?_⟩
    rw [hm, hw] at h
    cases h
  · next h =>
    rw [Bool.not_eq_true, Bool.or_eq_false_iff] at h
    rw [and_iff_right h.1, and_iff_right h.2, Option.some.injEq, List.map_map]
    exact eq_comm

/-- A list of bare words has the brackets that a list needs. -/
theorem IsBareList.brackets {words : List Json} (h : IsBareList payload words) :
    (payload.head? = some '[' ∧ payload.getLast? = some ']') ∧
      isBalanced 0 .outside payload = true := by
  obtain ⟨inner, rfl, hinner, -⟩ := h
  refine ⟨⟨rfl, ?_⟩, ?_⟩
  · rw [← List.cons_append, List.getLast?_concat]
  · have hpassed : ∀ c ∈ inner, c ≠ '"' ∧ c ≠ '[' ∧ c ≠ ']' := by
      intro c hc
      have := hinner c hc
      simp only [List.mem_cons, not_or] at this
      exact ⟨this.2.2.1, this.1, this.2.1⟩
    rw [isBalanced_open, isBalanced_append hpassed]
    rfl

/-- Words are scalars, and there is one at least. -/
theorem IsBareList.scalars {words : List Json} (h : IsBareList payload words) :
    words ≠ [] ∧ ∀ v ∈ words, v.isScalar = true := by
  obtain ⟨inner, -, -, -, rfl⟩ := h
  constructor
  · rw [ne_eq, List.map_eq_nil_iff]
    exact piecesAt_ne_nil ',' inner
  · intro v hv
    obtain ⟨piece, -, rfl⟩ := List.mem_map.1 hv
    rfl

/-! ### The two modes -/

/-- **The payload is the text of a JSON value.** -/
def IsJsonText (payload : List Char) (j : Json) : Prop :=
  Json.Decoder.any.readText (String.ofList payload) = .ok j

theorem isJsonText_array_iff :
    IsJsonText payload (.array vs) ↔
      (Json.Decoder.list .any).readText (String.ofList payload) = .ok vs :=
  Json.Decoder.readText_any_eq_array_iff

/-- Behind a square bracket nothing but an array is JSON. -/
theorem isJsonText_of_head {j : Json} (hhead : payload.head? = some '[')
    (h : IsJsonText payload j) : ∃ vs, j = .array vs := by
  obtain ⟨tail, rfl⟩ := List.head?_eq_some_iff.1 hhead
  have hs : Json.skipGap (String.ofList ('[' :: tail)).toList = '[' :: tail := by
    rw [String.toList_ofList]
    rfl
  rw [IsJsonText, Json.Decoder.readText_any_of_bracket hs] at h
  obtain ⟨vs, -, hj⟩ := exists_of_map_eq_ok h
  exact ⟨vs, hj.symm⟩

/-- **What a list is read as**: a JSON array, or else bare words, in permissive mode. -/
theorem readList_eq_ok_iff :
    readList mode payload = .ok vs ↔
      IsJsonText payload (.array vs) ∨
        mode = .permissive ∧ (∀ ws, ¬IsJsonText payload (.array ws)) ∧ IsBareList payload vs := by
  simp only [isJsonText_array_iff, ← bareWords?_eq_some_iff]
  rw [readList.eq_def]
  rcases (Json.Decoder.list .any).readText (String.ofList payload) with e | found
  · cases mode with
    | strict => exact ⟨nofun, nofun⟩
    | permissive =>
      rcases bareWords? payload with - | words
      · exact ⟨nofun, nofun⟩
      · simp
  · simp

/-- **Strict mode**: a JSON array of scalars, with at least one. -/
theorem valuesOf_strict_eq_ok_iff (htrim : trim payload = payload) :
    valuesOf .strict payload = .ok vs ↔
      IsJsonText payload (.array vs) ∧ vs ≠ [] ∧ ∀ v ∈ vs, v.isScalar = true := by
  rw [valuesOf_eq_ok_iff, readList_eq_ok_iff]
  constructor
  · rintro ⟨-, -, hjson | ⟨hmode, -⟩, hscalar⟩
    · exact ⟨hjson, hscalar⟩
    · cases hmode
  · rintro ⟨hjson, hscalar⟩
    -- the brackets are there and balanced, since the text is that of an array
    obtain ⟨hends, hbalanced⟩ := brackets_of_readText_list (isJsonText_array_iff.1 hjson) htrim
    exact ⟨hends, hbalanced, .inl hjson, hscalar⟩

/-- **What is JSON is read as in strict mode**, whether it is accepted or not. -/
theorem valuesOf_permissive_of_isJsonText {j : Json} (h : IsJsonText payload j) :
    valuesOf .permissive payload = valuesOf .strict payload := by
  rw [valuesOf_eq, valuesOf_eq]
  by_cases hends : payload.head? = some '[' ∧ payload.getLast? = some ']'
  · obtain ⟨vs, rfl⟩ := isJsonText_of_head hends.1 h
    have hread (mode : ValuesParsing) : readList mode payload = .ok vs :=
      readList_eq_ok_iff.2 (.inl h)
    rw [hread, hread]
  · rw [if_neg hends, if_neg hends]

/-- **Permissive mode**: the lists of strict mode, and the lists of bare words among the texts that
are no JSON. -/
theorem valuesOf_permissive_eq_ok_iff :
    valuesOf .permissive payload = .ok vs ↔
      valuesOf .strict payload = .ok vs ∨ (∀ j, ¬IsJsonText payload j) ∧ IsBareList payload vs := by
  rw [valuesOf_eq_ok_iff, valuesOf_eq_ok_iff, readList_eq_ok_iff, readList_eq_ok_iff]
  constructor
  · rintro ⟨hends, hbalanced, hjson | ⟨-, hjson, hbare⟩, hscalar⟩
    · exact .inl ⟨hends, hbalanced, .inl hjson, hscalar⟩
    · refine .inr ⟨fun j hj ↦ ?_, hbare⟩
      -- behind the bracket it could be JSON only as an array
      obtain ⟨ws, rfl⟩ := isJsonText_of_head hends.1 hj
      exact hjson ws hj
  · rintro (⟨hends, hbalanced, hjson | ⟨hmode, -⟩, hscalar⟩ | ⟨hjson, hbare⟩)
    · exact ⟨hends, hbalanced, .inl hjson, hscalar⟩
    · cases hmode
    · obtain ⟨hends, hbalanced⟩ := hbare.brackets
      exact ⟨hends, hbalanced, .inr ⟨rfl, fun ws ↦ hjson (.array ws), hbare⟩, hbare.scalars⟩

/-! ### Texts of tags -/

theorem parseValues_eq (mode : ValuesParsing) (text : String) :
    parseValues text mode = parsePayload .values (valuesOf mode) text := by
  rw [parseValues, parsePayload]
  rcases Payload.ofChars? text.toList with - | p
  · rfl
  · simp only
    rcases valuesOf mode p.content with fault | values
    · rfl
    · rfl

/-- **The grammars of values.** In strict mode the payload is the text of a JSON array that holds at
least one value, and only strings, numbers and truth values. In permissive mode a payload that is
JSON of any kind is read as in strict mode, and any other has to be a list of bare words, whose
values are the words. Whatever else the text is, it is refused with an error of that tag, which
keeps the text. -/
theorem values_grammar (text : String) :
    (∀ parameter vs, parseValues text .strict = .ok (parameter, vs) ↔
      ∃ payload, IsTagText text.toList parameter.toList payload ∧
        IsJsonText payload (.array vs) ∧ vs ≠ [] ∧ ∀ v ∈ vs, v.isScalar = true) ∧
    (∀ parameter payload, IsTagText text.toList parameter payload →
      (∃ j, IsJsonText payload j) → parseValues text .permissive = parseValues text .strict) ∧
    (∀ parameter vs, parseValues text .permissive = .ok (parameter, vs) ↔
      parseValues text .strict = .ok (parameter, vs) ∨
        ∃ payload, IsTagText text.toList parameter.toList payload ∧
          (∀ j, ¬IsJsonText payload j) ∧ IsBareList payload vs) ∧
    ∀ mode e, parseValues text mode = .error e → e.kind = .values ∧ e.text = text := by
  refine ⟨fun parameter vs ↦ ?_, fun parameter payload htext ⟨j, hj⟩ ↦ ?_,
    fun parameter vs ↦ ?_, fun mode e h ↦ parsePayload_eq_error (parseValues_eq mode text ▸ h)⟩
  · rw [parseValues_eq, parsePayload_eq_ok_iff]
    refine exists_congr fun payload ↦ and_congr_right fun htext ↦ ?_
    obtain ⟨-, -, -, -, -, -, -, htrim, -⟩ := htext
    exact valuesOf_strict_eq_ok_iff htrim
  · have htext : IsTagText text.toList (String.ofList parameter).toList payload := by
      rwa [String.toList_ofList]
    rw [parseValues_eq, parseValues_eq, parsePayload_of_isTagText htext,
      parsePayload_of_isTagText htext, valuesOf_permissive_of_isJsonText hj]
  · simp only [parseValues_eq, parsePayload_eq_ok_iff, valuesOf_permissive_eq_ok_iff, and_or_left,
      exists_or]

/-- Brackets and quotes in a string do no harm, in either mode, and in permissive mode words need no
quotes. -/
theorem values_grammar_quoted :
    (∀ mode, parseValues "mode [\"]\\\"[\",true]" mode =
      .ok ("mode", [.string "]\"[", .bool true])) ∧
    parseValues "mode [slow, fast]" .permissive =
      .ok ("mode", [.string "slow", .string "fast"]) := by
  constructor
  · obtain ⟨hstrict, hjson, -⟩ := values_grammar "mode [\"]\\\"[\",true]"
    have htext : IsTagText "mode [\"]\\\"[\",true]".toList "mode".toList
        "[\"]\\\"[\",true]".toList :=
      ⟨[], [' '], [], by decide, by decide, by decide, by decide, by decide,
        List.all_eq_true.1 (by decide)⟩
    have hvalue : ∀ v ∈ [Json.string "]\"[", .bool true],
        Json.Decoder.any.Restores 126 v v := by
      intro v hv
      exact Json.Decoder.restores_any (by revert v; decide)
    have hpayload : IsJsonText "[\"]\\\"[\",true]".toList (.array [.string "]\"[", .bool true]) :=
      isJsonText_array_iff.2 ((Json.Decoder.restores_list hvalue).readText .compact)
    have haccepted := (hstrict _ _).2 ⟨_, htext, hpayload, by decide, by decide⟩
    intro mode
    cases mode with
    | strict => exact haccepted
    | permissive => rw [hjson _ _ htext ⟨_, hpayload⟩, haccepted]
  · obtain ⟨-, -, hpermissive, -⟩ := values_grammar "mode [slow, fast]"
    have hs : Json.skipGap "[slow, fast]".toList = '[' :: "slow, fast]".toList := rfl
    -- the first word starts no value of JSON
    have hrun : ∃ fault,
        ((Json.Decoder.list .any).fromText 127).run "[slow, fast]".toList = .error fault := by
      rw [Json.Decoder.run_list _ _ hs, Json.Reader.run_map]
      dsimp only [Json.Reader.items]
      rw [Json.foldItems.eq_def]
      exact ⟨_, rfl⟩
    have hpayload (j : Json) : ¬IsJsonText "[slow, fast]".toList j := by
      intro h
      obtain ⟨fault, hrun⟩ := hrun
      rw [IsJsonText, String.ofList_toList, Json.Decoder.readText_any_of_bracket hs,
        Json.Decoder.readText, Json.maxDepth, hrun] at h
      cases h
    have htext : IsTagText "mode [slow, fast]".toList "mode".toList "[slow, fast]".toList :=
      ⟨[], [' '], [], by decide, by decide, by decide, by decide, by decide,
        List.all_eq_true.1 (by decide)⟩
    have hbare : IsBareList "[slow, fast]".toList [.string "slow", .string "fast"] :=
      bareWords?_eq_some_iff.1 rfl
    exact (hpermissive _ _).2 (.inr ⟨_, htext, hpayload, hbare⟩)

end ToolSchema
