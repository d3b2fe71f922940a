import ToolSchema.Proofs.Comment.Outline
import ToolSchema.Proofs.Comment.TypeList

/-!
# Bodies of tags

A body comes apart in one of many ways: it may start with a list of types or with a name, and each
of the two may stand behind the other, or not. What it leaves behind is in a form that no longer
depends on that (`BodyParts.IsNormal`): wherever a part is missing, the text does not start with such
a part. So the parts can be put together again in one order, the name before the types and the text
behind them, and come apart into themselves (`BodyParts.ofBody_joinBody`).
-/

namespace ToolSchema

variable {cs ds : List Char} {isNaming : Bool} {parameter : List Char}

/-! ### Pieces with spaces between them -/

/-- A text as it stands behind another one: after a space, if it is there at all. -/
def spaced (cs : List Char) : List Char := if cs.isEmpty then [] else ' ' :: cs

theorem mem_spaced {c : Char} (h : c ∈ spaced cs) : c = ' ' ∨ c ∈ cs := by
  unfold spaced at h
  split at h
  · exact nomatch h
  · exact List.mem_cons.1 h

theorem trimStart_spaced (cs : List Char) : trimStart (spaced cs) = trimStart cs := by
  rcases cs with - | ⟨c, cs⟩
  · rfl
  · exact trimStart_cons_of_isBlank (by decide)

/-- What stands before it is a word of its own. -/
theorem spaced_ends (cs : List Char) : spaced cs = [] ∨ startsBlank (spaced cs) = true := by
  rcases cs with - | ⟨c, cs⟩
  · exact .inl rfl
  · exact .inr rfl

theorem joinBody_cons {piece : List Char} (h : piece ≠ []) (pieces : List (List Char)) :
    joinBody (piece :: pieces) = piece ++ spaced (joinBody pieces) := by
  rw [joinBody, joinBody, List.filter_cons_of_pos (by simpa using h)]
  rcases hrest : pieces.filter fun p ↦ !p.isEmpty with - | ⟨q, qs⟩
  · rw [hrest]
    exact (List.append_nil piece).symm
  · -- the next piece has a first character, and so has all that is joined
    have hq : q ∈ pieces.filter fun p ↦ !p.isEmpty := hrest ▸ List.mem_cons_self
    have hne : q ≠ [] := by simpa using (List.mem_filter.1 hq).2
    obtain ⟨c, q, rfl⟩ := List.exists_cons_of_ne_nil hne
    rw [hrest, joinWith_cons _ _ (List.cons_ne_nil _ _), joinWith_cons_head, List.append_assoc]
    rfl

/-- Behind one another, each piece that is there has a space before it. -/
theorem spaced_joinBody (pieces : List (List Char)) :
    spaced (joinBody pieces) = pieces.flatMap spaced := by
  induction pieces with
  | nil => rfl
  | cons p pieces ih =>
    rcases p with - | ⟨c, p⟩
    · exact ih
    · rw [joinBody_cons (List.cons_ne_nil c p), ih, List.flatMap_cons]
      rfl

/-- The characters of a body are those of its pieces, and spaces. -/
theorem mem_joinBody {c : Char} {pieces : List (List Char)} (h : c ∈ joinBody pieces) :
    c = ' ' ∨ ∃ p ∈ pieces, c ∈ p :=
  (mem_joinWith h).imp List.mem_singleton.1 fun ⟨p, hp, hc⟩ ↦ ⟨p, List.mem_of_mem_filter hp, hc⟩

/-- Texts without blanks at their ends have none behind one another. -/
theorem trim_append_spaced (hcs : trim cs = cs) (hne : cs ≠ []) (hds : trim ds = ds) :
    trim (cs ++ spaced ds) = cs ++ spaced ds := by
  have hstart : trimStart (cs ++ spaced ds) = cs ++ spaced ds := by
    obtain ⟨c, rest, rfl⟩ := List.exists_cons_of_ne_nil hne
    have hc : startsBlank (c :: rest) = false := by
      rw [← hcs, ← trimStart_trim]
      exact startsBlank_trimStart _
    exact trimStart_cons_of_not_isBlank hc
  have hend : trimEnd (spaced ds) = spaced ds := by
    rcases ds with - | ⟨d, ds⟩
    · rfl
    · rw [spaced, if_neg (by simp), trimEnd_cons, trimEnd_eq_of_trim_eq hds,
        if_neg (List.cons_ne_nil d ds)]
  rw [trim, hstart, trimEnd_append_of_eq (trimEnd_eq_of_trim_eq hcs), hend]

theorem trim_joinBody {pieces : List (List Char)} (h : ∀ p ∈ pieces, trim p = p) :
    trim (joinBody pieces) = joinBody pieces := by
  induction pieces with
  | nil => rfl
  | cons p pieces ih =>
    obtain ⟨hp, hpieces⟩ := List.forall_mem_cons.1 h
    by_cases hne : p = []
    · rw [hne]
      exact ih hpieces
    · rw [joinBody_cons hne, trim_append_spaced hp hne (ih hpieces)]

/-- A head with the text behind its name, if there is some. -/
theorem Line.ofChars_head_spaced {tagName : List Char} (h : isName tagName = true)
    (cs : List Char) : Line.ofChars ('@' :: (tagName ++ spaced cs)) = .head tagName (trim cs) := by
  rcases cs with - | ⟨c, cs⟩
  · -- a blank behind the name makes no difference
    have hblank : trimEnd [' '] = [] := rfl
    have hspace : Line.ofChars ('@' :: (tagName ++ [' '])) = .head tagName [] :=
      Line.ofChars_head h []
    rw [← Line.ofChars_trimEnd, ← List.cons_append, trimEnd_append, if_pos hblank,
      Line.ofChars_trimEnd] at hspace
    simpa [spaced] using hspace
  · exact Line.ofChars_head h (c :: cs)

theorem Tag.ofBody_trim (tagName body : List Char) :
    Tag.ofBody tagName (trim body) = Tag.ofBody tagName body := by
  rw [Tag.ofBody, Tag.ofBody, trim_trim]

/-! ### Names -/

/-- A parameter is taken off a text, if the text ends it. -/
theorem splitParameter?_append (hp : isName parameter = true) {after : List Char}
    (h : after = [] ∨ startsBlank after = true) :
    splitParameter? (parameter ++ after) = some (parameter, trimStart after) := by
  rw [splitParameter?, splitWord?_append hp h]
  rfl

theorem of_splitParameter? {rest : List Char} (h : splitParameter? cs = some (parameter, rest)) :
    isName parameter = true ∧ ∃ after, parameter ++ after = cs ∧ rest = trimStart after := by
  obtain ⟨⟨name, after⟩, hword, hsplit⟩ := Option.map_eq_some_iff.1 h
  obtain ⟨rfl, rfl⟩ := Prod.mk.inj hsplit
  obtain ⟨hname, -, hcs⟩ := splitWord?_eq_some_iff.1 hword
  exact ⟨hname, after, hcs, rfl⟩

/-- No list of types starts with an identifier. -/
theorem splitTypeList?_of_isName (hp : isName parameter = true) (cs : List Char) :
    splitTypeList? (parameter ++ cs) = none := by
  obtain ⟨c, rest, rfl⟩ := List.exists_cons_of_ne_nil (ne_nil_of_isName hp)
  have hc : c ≠ '[' := by
    rintro rfl
    cases hp
  unfold splitTypeList?
  split
  · next h => exact absurd (List.cons.inj h).1 hc
  · rfl

/-! ### Types -/

/-- A list of types, in its brackets. -/
def bracketed (ts : List (List Char)) : List Char := '[' :: (joinWith typeGlue ts ++ [']'])

theorem bracketed_ne_nil (ts : List (List Char)) : bracketed ts ≠ [] := List.cons_ne_nil _ _

theorem splitTypeList?_bracketed_append {ts : List (List Char)} (h : ∀ t ∈ ts, IsListedType t)
    (rest : List Char) : splitTypeList? (bracketed ts ++ rest) = some (ts, trimStart rest) := by
  have happend : bracketed ts ++ rest = '[' :: (joinWith typeGlue ts ++ ']' :: rest) := by
    simp [bracketed]
  rw [happend, splitTypeList?_of_isListedType h]

/-! ### Lines -/

/-- **A text as it stands on a line**: it has no blanks at its ends and no line feed in it. -/
structure IsLineText (cs : List Char) : Prop where
  trim_eq : trim cs = cs
  oneLine : '\n' ∉ cs

theorem isLineText_trim (h : '\n' ∉ cs) : IsLineText (trim cs) :=
  ⟨trim_trim cs, fun hfeed ↦ h (mem_of_mem_trim hfeed)⟩

theorem isLineText_bracketed {ts : List (List Char)} (h : ∀ t ∈ ts, '\n' ∉ t) :
    IsLineText (bracketed ts) where
  trim_eq := trim_enclosed (by decide) (by decide) _
  oneLine hfeed := by
    have hjoin : '\n' ∈ joinWith typeGlue ts := by simpa [bracketed] using hfeed
    rcases mem_joinWith hjoin with hglue | ⟨t, ht, hmem⟩
    · exact absurd hglue (by decide)
    · exact h t ht hmem

/-- A list of types on a line: its types, and what is left of the line. -/
theorem IsLineText.of_splitTypeList? (h : IsLineText cs) {types : List (List Char)}
    {rest : List Char} (hlist : splitTypeList? cs = some (types, rest)) :
    (∀ t ∈ types, IsListedType t ∧ '\n' ∉ t) ∧ IsLineText rest := by
  obtain ⟨hlisted, inner, after, rfl, rfl, rfl⟩ := ToolSchema.of_splitTypeList? hlist
  have hafter : '[' :: (inner ++ ']' :: after) = '[' :: (inner ++ [']']) ++ after := by simp
  refine ⟨fun t ht ↦ ⟨hlisted t ht, fun hfeed ↦ h.oneLine ?_⟩, ?_, fun hfeed ↦ h.oneLine ?_⟩
  · obtain ⟨p, hp, rfl⟩ := List.mem_map.1 (List.mem_of_mem_filter ht)
    have hinner : '\n' ∈ joinWith [','] (splitAtCommas 0 inner) :=
      mem_joinWith_of_mem hp (mem_of_mem_trim hfeed)
    rw [joinWith_splitAtCommas] at hinner
    exact List.mem_cons_of_mem _ (List.mem_append_left _ hinner)
  · have htrim := h.trim_eq
    rw [hafter] at htrim
    exact trim_trimStart_of_append htrim
  · rw [hafter]
    exact List.mem_append_right _ ((List.dropWhile_suffix isBlank).subset hfeed)

/-- A name on a line, and what is left of the line. -/
theorem IsLineText.of_splitParameter? (h : IsLineText cs) {rest : List Char}
    (hname : splitParameter? cs = some (parameter, rest)) :
    isName parameter = true ∧ IsLineText rest := by
  obtain ⟨hparameter, after, rfl, rfl⟩ := ToolSchema.of_splitParameter? hname
  exact ⟨hparameter, trim_trimStart_of_append h.trim_eq, fun hfeed ↦
    h.oneLine (List.mem_append_right _ ((List.dropWhile_suffix isBlank).subset hfeed))⟩

/-! ### Parts -/

namespace BodyParts

/-- The pieces of a body that comes apart into these parts, the name before the types. -/
def pieces (p : BodyParts) : List (List Char) :=
  p.name.toList ++ (p.types.map bracketed).toList ++ [p.text]

/-- **Every part stands on one line.** -/
structure OnLine (p : BodyParts) : Prop where
  name : ∀ n ∈ p.name, isName n = true
  types : ∀ ts ∈ p.types, ∀ t ∈ ts, IsListedType t ∧ '\n' ∉ t
  text : IsLineText p.text

theorem OnLine.isLineText {p : BodyParts} (h : p.OnLine) :
    ∀ piece ∈ p.pieces, IsLineText piece := by
  intro piece hpiece
  simp only [pieces, List.mem_append, Option.mem_toList, List.mem_singleton] at hpiece
  rcases hpiece with (hname | htypes) | rfl
  · have hn := h.name piece hname
    exact ⟨trim_of_isName hn, newline_notMem_of_isName hn⟩
  · obtain ⟨ts, hts, rfl⟩ := Option.map_eq_some_iff.1 htypes
    exact isLineText_bracketed fun t ht ↦ (h.types ts hts t ht).2
  · exact h.text

/-- A name at the start of a body is its name, and no list of types stands behind it. -/
theorem ofBody_name (hp : isName parameter = true) (hlist : splitTypeList? (trimStart cs) = none) :
    ofBody true (parameter ++ spaced cs) = ⟨some parameter, none, trimStart cs⟩ := by
  rw [ofBody, splitTypeList?_of_isName hp]
  simp only [if_true, splitParameter?_append hp (spaced_ends cs), trimStart_spaced, hlist]

/-- The same with a list of types behind it. -/
theorem ofBody_name_types (hp : isName parameter = true) {types : List (List Char)}
    {rest : List Char} (hlist : splitTypeList? (trimStart cs) = some (types, rest)) :
    ofBody true (parameter ++ spaced cs) = ⟨some parameter, some types, rest⟩ := by
  rw [ofBody, splitTypeList?_of_isName hp]
  simp only [if_true, splitParameter?_append hp (spaced_ends cs), trimStart_spaced, hlist]

/-- **The parts that a body can leave.** Where there are no types, the text does not start with a
list of types, and where there is no name, it does not start with one. -/
structure IsNormal (isNaming : Bool) (p : BodyParts) : Prop extends p.OnLine where
  naming : ∀ n ∈ p.name, isNaming = true
  no_types : p.types = none → splitTypeList? p.text = none
  no_name : p.name = none → isNaming = true → splitParameter? p.text = none

theorem isNormal_ofBody (h : IsLineText cs) : (ofBody isNaming cs).IsNormal isNaming := by
  have hnamed {ds n rest : List Char} (hds : IsLineText ds)
      (hname : (if isNaming then splitParameter? ds else none) = some (n, rest)) :
      isNaming = true ∧ isName n = true ∧ IsLineText rest := by
    cases isNaming with
    | true => exact ⟨rfl, hds.of_splitParameter? hname⟩
    | false => exact nomatch hname
  have hnameless {ds : List Char} (hname : (if isNaming then splitParameter? ds else none) = none)
      (hnaming : isNaming = true) : splitParameter? ds = none := by
    rwa [if_pos hnaming] at hname
  unfold ofBody
  split
  · next types rest hlist =>
    obtain ⟨htypes, hrest⟩ := h.of_splitTypeList? hlist
    split
    · next n rest' hname =>
      obtain ⟨hnaming, hn, hrest'⟩ := hnamed hrest hname
      exact ⟨⟨by rintro n ⟨⟩; exact hn, by rintro ts ⟨⟩; exact htypes, hrest'⟩,
        fun _ _ ↦ hnaming, nofun, nofun⟩
    · next hname =>
      exact ⟨⟨nofun, by rintro ts ⟨⟩; exact htypes, hrest⟩, nofun, nofun, fun _ ↦ hnameless hname⟩
  · next hlist =>
    split
    · next n rest hname =>
      obtain ⟨hnaming, hn, hrest⟩ := hnamed h hname
      split
      · next types rest' hlist' =>
        obtain ⟨htypes, hrest'⟩ := hrest.of_splitTypeList? hlist'
        exact ⟨⟨by rintro n ⟨⟩; exact hn, by rintro ts ⟨⟩; exact htypes, hrest'⟩,
          fun _ _ ↦ hnaming, nofun, nofun⟩
      · next hlist' =>
        exact ⟨⟨by rintro n ⟨⟩; exact hn, nofun, hrest⟩, fun _ _ ↦ hnaming, fun _ ↦ hlist', nofun⟩
    · next hname =>
      exact ⟨⟨nofun, nofun, h⟩, nofun, fun _ ↦ hlist, fun _ ↦ hnameless hname⟩

/-- **Parts that are put together come apart again.** -/
theorem ofBody_joinBody {p : BodyParts} (h : p.IsNormal isNaming) :
    ofBody isNaming (joinBody p.pieces) = p := by
  have htext : trimStart p.text = p.text := by
    rw [← h.text.trim_eq, trimStart_trim]
  have hlist (ts : List (List Char)) (hts : ts ∈ p.types) :
      splitTypeList? (bracketed ts ++ spaced p.text) = some (ts, p.text) := by
    rw [splitTypeList?_bracketed_append fun t ht ↦ (h.types ts hts t ht).1, trimStart_spaced, htext]
  have hjoin (ts : List (List Char)) :
      joinBody [bracketed ts, p.text] = bracketed ts ++ spaced p.text := by
    rw [joinBody_cons (bracketed_ne_nil ts), joinBody_singleton]
  obtain ⟨name, types, text⟩ := p
  rcases name with - | n
  · have hname : (if isNaming then splitParameter? text else none) = none := by
      split
      · next hnaming => exact h.no_name rfl hnaming
      · rfl
    rcases types with - | ts
    · show ofBody isNaming (joinBody [text]) = _
      rw [joinBody_singleton, ofBody, h.no_types rfl]
      simp only [hname]
    · show ofBody isNaming (joinBody [bracketed ts, text]) = _
      rw [hjoin, ofBody, hlist ts rfl]
      simp only [hname]
  · -- the name stands first, whatever is there besides
    obtain rfl := h.naming n rfl
    have hn := h.name n rfl
    have hfirst (pieces : List (List Char)) :
        joinBody (n :: pieces) = n ++ spaced (joinBody pieces) :=
      joinBody_cons (ne_nil_of_isName hn) pieces
    rcases types with - | ts
    · have hnone : splitTypeList? (trimStart text) = none := by
        rw [htext]
        exact h.no_types rfl
      show ofBody true (joinBody [n, text]) = _
      rw [hfirst, joinBody_singleton, ofBody_name hn hnone, htext]
    · have htypes : splitTypeList? (trimStart (bracketed ts ++ spaced text)) = some (ts, text) := by
        rw [bracketed, List.cons_append, trimStart_cons_of_not_isBlank (by decide)]
        exact hlist ts rfl
      show ofBody true (joinBody [n, bracketed ts, text]) = _
      rw [hfirst, hjoin, ofBody_name_types hn htypes]

end BodyParts

end ToolSchema
