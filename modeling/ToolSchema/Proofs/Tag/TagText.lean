import ToolSchema.Proofs.Text.Trim
import ToolSchema.Tag.Payload

/-!
# Texts of tags

The outer form of a tag text, said without reading it: blanks, an identifier, at least one blank, a
payload, and blanks again (`IsTagText`). The payload takes none of the blanks around it, so a text
has this form in one way at most, and that is how it is taken apart (`ofChars?_eq_some_iff`). What a
kind of tag adds to this is a grammar of its payloads (`parsePayload`), and nothing more needs to be
known of it to say which texts it takes and what it does with the others.
-/

namespace ToolSchema

/-- **The text is a parameter and a payload**, with blanks between them and maybe around them. The
payload has no blanks at its ends. -/
def IsTagText (text parameter payload : List Char) : Prop :=
  ∃ lead gap trail, text = lead ++ parameter ++ gap ++ payload ++ trail ∧
    isName parameter = true ∧ gap ≠ [] ∧ payload ≠ [] ∧ trim payload = payload ∧
      ∀ c ∈ lead ++ gap ++ trail, isBlank c = true

variable {text parameter payload cs ds : List Char}

/-- Blanks around a text that has none at its ends are trimmed, and nothing else. -/
theorem trim_append_append {lead trail : List Char} (hlead : ∀ c ∈ lead, isBlank c = true)
    (htrail : ∀ c ∈ trail, isBlank c = true) (h : trim cs = cs) :
    trim (lead ++ (cs ++ trail)) = cs := by
  rw [trim, trimStart_append_of_forall_isBlank hlead, ← trimStart_trimEnd,
    trimEnd_append_of_forall_isBlank htrail, trimStart_trimEnd]
  exact h

/-- **Taking a tag text apart**: it works for the texts of that form, and finds their parts. -/
theorem Payload.ofChars?_eq_some_iff :
    Payload.ofChars? text = some ⟨parameter, payload⟩ ↔ IsTagText text parameter payload := by
  constructor
  · intro h
    rw [Payload.ofChars?] at h
    split at h
    · cases h
    · next name rest hsplit =>
      simp only at h
      split at h
      · next hrest =>
        obtain ⟨rfl, rfl⟩ := Payload.mk.inj (Option.some.inj h)
        obtain ⟨hstarts, hne⟩ := Bool.and_eq_true_iff.1 hrest
        obtain ⟨lead, hlead, htext⟩ := exists_eq_append_trimStart text
        obtain ⟨gap, hgap, hrest⟩ := exists_eq_append_trimStart rest
        obtain ⟨trail, htrail, htrim⟩ := exists_eq_trimEnd_append (trimStart rest)
        have hgapne : gap ≠ [] := by
          rintro rfl
          rw [List.nil_append] at hrest
          rw [hrest, startsBlank_trimStart] at hstarts
          cases hstarts
        refine ⟨lead, gap, trail, ?_, isName_of_splitName? hsplit, hgapne, by simpa using hne,
          trim_trim rest, ?_⟩
        · rw [List.append_assoc _ _ trail, trim, ← htrim, List.append_assoc _ gap, ← hrest,
            List.append_assoc, append_of_splitName? hsplit, ← htext]
        · simp only [List.mem_append]
          rintro c ((hc | hc) | hc)
          exacts [hlead c hc, hgap c hc, htrail c hc]
      · cases h
  · rintro ⟨lead, gap, trail, rfl, hname, hgap, hne, htrim, hblank⟩
    simp only [List.mem_append, or_imp, forall_and] at hblank
    obtain ⟨⟨hlead, hgapblank⟩, htrail⟩ := hblank
    obtain ⟨b, gap, rfl⟩ := List.exists_cons_of_ne_nil hgap
    have hb : isBlank b = true := hgapblank b List.mem_cons_self
    have hcontent : trim (b :: gap ++ (payload ++ trail)) = payload :=
      trim_append_append hgapblank htrail htrim
    have hstarts : startsBlank (b :: gap ++ (payload ++ trail)) = true := hb
    have hends : endsName (b :: gap ++ (payload ++ trail)) = true := endsName_cons_of_isBlank hb
    have hkeep : payload.isEmpty = false := by simpa using hne
    simp only [List.append_assoc]
    rw [Payload.ofChars?, trimStart_append_of_forall_isBlank hlead,
      trimStart_append_of_isName hname, splitName?_append hname hends]
    simp only [hcontent, hstarts, hkeep]
    rfl

/-! ### Grammars of payloads -/

section ParsePayload

variable {α : Type} {kind : TagKind} {read : List Char → Except TagFault α} {text : String}

/-- **A tag text whose payload has a grammar of its own**: the parameter, and what the payload is
read as. -/
def parsePayload (kind : TagKind) (read : List Char → Except TagFault α) (text : String) :
    Except TagError (String × α) :=
  match Payload.ofChars? text.toList with
  | none => .error ⟨kind, text, .noPayload⟩
  | some p =>
    match read p.content with
    | .error fault => .error ⟨kind, text, fault⟩
    | .ok v => .ok (String.ofList p.parameter, v)

/-- A text that has the outer form is refused for its payload only. -/
theorem parsePayload_of_isTagText {parameter : String} {payload : List Char}
    (h : IsTagText text.toList parameter.toList payload) :
    parsePayload kind read text =
      match read payload with
      | .error fault => .error ⟨kind, text, fault⟩
      | .ok v => .ok (parameter, v) := by
  rw [parsePayload, Payload.ofChars?_eq_some_iff.2 h]
  simp only [String.ofList_toList]

/-- **When a text is a parameter and a payload** that follows its grammar. -/
theorem parsePayload_eq_ok_iff {parameter : String} {v : α} :
    parsePayload kind read text = .ok (parameter, v) ↔
      ∃ payload, IsTagText text.toList parameter.toList payload ∧ read payload = .ok v := by
  constructor
  · intro h
    rw [parsePayload] at h
    split at h
    · cases h
    · next p hp =>
      split at h
      · cases h
      · next found hfound =>
        obtain ⟨rfl, rfl⟩ := Prod.mk.inj (Except.ok.inj h)
        refine ⟨p.content, ?_, hfound⟩
        rw [String.toList_ofList]
        exact Payload.ofChars?_eq_some_iff.1 hp
  · rintro ⟨payload, htext, hread⟩
    rw [parsePayload_of_isTagText htext, hread]

/-- **A refused text is kept**, with the kind of its tag. -/
theorem parsePayload_eq_error {e : TagError} (h : parsePayload kind read text = .error e) :
    e.kind = kind ∧ e.text = text := by
  rw [parsePayload] at h
  split at h
  · obtain rfl := Except.error.inj h
    exact ⟨rfl, rfl⟩
  · split at h
    · obtain rfl := Except.error.inj h
      exact ⟨rfl, rfl⟩
    · cases h

end ParsePayload

end ToolSchema
