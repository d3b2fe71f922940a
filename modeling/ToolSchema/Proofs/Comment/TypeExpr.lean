import ToolSchema.Proofs.Comment.TagLine

/-!
# Type expressions

The notation of types: a name, a name with arguments in brackets, or a name with pairs in braces,
where arguments, keys and values are type expressions again (`TypeText`). Its brackets stand in
pairs, but the arrow between a key and its value has a closing one in it. So the count of open
brackets falls behind by one with every arrow (`levelBehind_chars`), and a comma or a closing square
bracket behind enough arrows is taken for one outside of all brackets.

`KeptAt` says that this does not happen, and a list of type expressions is read as these types
exactly if all of them are kept (`parse_param_types`). Expressions without arrows are
(`keptAt_of_arrows_eq_zero`).
-/

namespace ToolSchema

/-- **A name of a type**: an identifier, several of them with colons between, or anything else that
has no blanks, brackets and commas in it. -/
structure TypeName where
  chars : List Char
  ne_nil : chars ≠ []
  plain : ∀ c ∈ chars, isPlainInType c = true
  not_blank : ∀ c ∈ chars, isBlank c = false

/-- The name that a word spells. -/
def TypeName.ofWord (word : String) (hne : word.toList ≠ [])
    (h : (word.toList.all fun c ↦ isPlainInType c && !isBlank c) = true) : TypeName where
  chars := word.toList
  ne_nil := hne
  plain c hc := by
    have hboth := List.all_eq_true.1 h c hc
    rw [Bool.and_eq_true] at hboth
    exact hboth.1
  not_blank c hc := by
    have hboth := List.all_eq_true.1 h c hc
    rw [Bool.and_eq_true, Bool.not_eq_true'] at hboth
    exact hboth.2

/-- The brackets that arguments of a type stand in. -/
inductive ArgBrackets where
  | angle
  | square
  | round
  deriving DecidableEq

namespace ArgBrackets

/-- The bracket before the arguments. -/
def opening : ArgBrackets → Char
  | angle => '<'
  | square => '['
  | round => '('

/-- The bracket behind the arguments. -/
def closing : ArgBrackets → Char
  | angle => '>'
  | square => ']'
  | round => ')'

end ArgBrackets

/-- What a part of a type expression is. -/
inductive TypePart where
  | expr
  /-- Arguments, parted by commas. -/
  | args
  /-- Keys with their values, parted by commas. -/
  | pairs

/-- **A type expression**, or the arguments or pairs in one; the index says which, so that one
induction serves all three. Behind a comma stands a number of spaces. -/
inductive TypeText : TypePart → Type
  | name (n : TypeName) : TypeText .expr
  | applied (n : TypeName) (b : ArgBrackets) (args : TypeText .args) : TypeText .expr
  | hash (n : TypeName) (pairs : TypeText .pairs) : TypeText .expr
  | arg (e : TypeText .expr) : TypeText .args
  | moreArgs (e : TypeText .expr) (spaces : Nat) (rest : TypeText .args) : TypeText .args
  | pair (key value : TypeText .expr) : TypeText .pairs
  | morePairs (key value : TypeText .expr) (spaces : Nat) (rest : TypeText .pairs) : TypeText .pairs

/-- What stands between a key and its value. -/
def typeArrow : List Char := [' ', '=', '>', ' ']

namespace TypeText

variable {part : TypePart}

/-- The text of a type expression. -/
def chars : {part : TypePart} → TypeText part → List Char
  | _, name n => n.chars
  | _, applied n b args => n.chars ++ b.opening :: (args.chars ++ [b.closing])
  | _, hash n pairs => n.chars ++ '\x7b' :: (pairs.chars ++ ['\x7d'])
  | _, arg e => e.chars
  | _, moreArgs e spaces rest => e.chars ++ ',' :: (List.replicate spaces ' ' ++ rest.chars)
  | _, pair key value => key.chars ++ (typeArrow ++ value.chars)
  | _, morePairs key value spaces rest =>
    key.chars ++ (typeArrow ++ (value.chars ++ ',' :: (List.replicate spaces ' ' ++ rest.chars)))

/-- The number of arrows in it. -/
def arrows : {part : TypePart} → TypeText part → Nat
  | _, name _ => 0
  | _, applied _ _ args => args.arrows
  | _, hash _ pairs => pairs.arrows
  | _, arg e => e.arrows
  | _, moreArgs e _ rest => e.arrows + rest.arrows
  | _, pair key value => key.arrows + 1 + value.arrows
  | _, morePairs key value _ rest => key.arrows + 1 + value.arrows + rest.arrows

/-- **The expression is kept together** inside of `level` open brackets: there are fewer arrows
before any of its commas and its closing square brackets than brackets that are open there. -/
def KeptAt : {part : TypePart} → TypeText part → Nat → Prop
  | _, name _, _ => True
  | _, applied _ b args, level =>
    args.KeptAt (level + 1) ∧ (b = .square → args.arrows < level + 1)
  | _, hash _ pairs, level => pairs.KeptAt (level + 1)
  | _, arg e, level => e.KeptAt level
  | _, moreArgs e _ rest, level =>
    e.KeptAt level ∧ e.arrows < level ∧ rest.KeptAt (level - e.arrows)
  | _, pair key value, level => key.KeptAt level ∧ value.KeptAt (level - (key.arrows + 1))
  | _, morePairs key value _ rest, level =>
    key.KeptAt level ∧ value.KeptAt (level - (key.arrows + 1)) ∧
      key.arrows + 1 + value.arrows < level ∧
      rest.KeptAt (level - (key.arrows + 1 + value.arrows))

/-! ### Levels -/

theorem levelBehind_cons (level : Nat) (c : Char) (cs : List Char) :
    levelBehind level (c :: cs) = levelBehind (levelAfter level c) cs := rfl

theorem levelBehind_spaces (level spaces : Nat) :
    levelBehind level (List.replicate spaces ' ') = level :=
  levelBehind_of_plain (fun _ hc ↦ List.eq_of_mem_replicate hc ▸ rfl) level

theorem levelBehind_typeArrow (level : Nat) : levelBehind level typeArrow = level - 1 := rfl

/-- **Every arrow closes a bracket**, as they are counted. -/
theorem levelBehind_chars (t : TypeText part) (level : Nat) :
    levelBehind level t.chars = level - t.arrows := by
  induction t generalizing level with
  | name n => exact levelBehind_of_plain n.plain level
  | applied n b args ih =>
    have hopen : levelAfter level b.opening = level + 1 := by cases b <;> rfl
    have hclose (l : Nat) : levelBehind l [b.closing] = l - 1 := by cases b <;> rfl
    rw [chars, levelBehind_append, levelBehind_of_plain n.plain, levelBehind_cons, hopen,
      levelBehind_append, ih, hclose, arrows]
    omega
  | hash n pairs ih =>
    have hopen : levelAfter level '\x7b' = level + 1 := rfl
    have hclose (l : Nat) : levelBehind l ['\x7d'] = l - 1 := rfl
    rw [chars, levelBehind_append, levelBehind_of_plain n.plain, levelBehind_cons, hopen,
      levelBehind_append, ih, hclose, arrows]
    omega
  | arg e ih => exact ih level
  | moreArgs e spaces rest ihe ih =>
    have hcomma (l : Nat) : levelAfter l ',' = l := rfl
    rw [chars, levelBehind_append, ihe, levelBehind_cons, hcomma, levelBehind_append,
      levelBehind_spaces, ih, arrows]
    omega
  | pair key value ihkey ihvalue =>
    rw [chars, levelBehind_append, ihkey, levelBehind_append, levelBehind_typeArrow, ihvalue,
      arrows]
    omega
  | morePairs key value spaces rest ihkey ihvalue ih =>
    have hcomma (l : Nat) : levelAfter l ',' = l := rfl
    rw [chars, levelBehind_append, ihkey, levelBehind_append, levelBehind_typeArrow,
      levelBehind_append, ihvalue, levelBehind_cons, hcomma, levelBehind_append,
      levelBehind_spaces, ih, arrows]
    omega

/-! ### Free marks -/

theorem noFreeMark_spaces (level spaces : Nat) :
    NoFreeMark level (List.replicate spaces ' ') :=
  noFreeMark_of_plain (fun _ hc ↦ List.eq_of_mem_replicate hc ▸ rfl) level

theorem noFreeMark_typeArrow (level : Nat) : NoFreeMark level typeArrow := by
  simp [typeArrow, noFreeMark_cons, noFreeMark_of_plain]

/-- Behind a comma that is not free stands a text without free marks, if its rest has none. -/
theorem noFreeMark_comma {level spaces : Nat} {cs : List Char} :
    NoFreeMark level (',' :: (List.replicate spaces ' ' ++ cs)) ↔
      0 < level ∧ NoFreeMark level cs := by
  have hcomma : levelAfter level ',' = level := rfl
  rw [noFreeMark_cons, hcomma, noFreeMark_append, levelBehind_spaces]
  simp [noFreeMark_spaces, Nat.pos_iff_ne_zero]

/-- **An expression is kept together** exactly if its text has no free mark. -/
theorem noFreeMark_chars (t : TypeText part) (level : Nat) :
    NoFreeMark level t.chars ↔ t.KeptAt level := by
  induction t generalizing level with
  | name n => exact iff_of_true (noFreeMark_of_plain n.plain level) trivial
  | applied n b args ih =>
    have hopen : levelAfter level b.opening = level + 1 ∧ b.opening ≠ ',' ∧ b.opening ≠ ']' := by
      cases b <;> exact ⟨rfl, by decide, by decide⟩
    have hclose (l : Nat) : NoFreeMark l [b.closing] ↔ (b = .square → 0 < l) := by
      cases b <;>
        simp [noFreeMark_cons, noFreeMark_of_plain, ArgBrackets.closing, Nat.pos_iff_ne_zero]
    rw [chars, noFreeMark_append, levelBehind_of_plain n.plain, noFreeMark_cons, hopen.1,
      noFreeMark_append, ih, levelBehind_chars, hclose, Nat.sub_pos_iff_lt, KeptAt]
    simp [noFreeMark_of_plain n.plain, hopen.2]
  | hash n pairs ih =>
    have hopen : levelAfter level '\x7b' = level + 1 := rfl
    have hclose (l : Nat) : NoFreeMark l ['\x7d'] := by
      simp [noFreeMark_cons, noFreeMark_of_plain]
    rw [chars, noFreeMark_append, levelBehind_of_plain n.plain, noFreeMark_cons, hopen,
      noFreeMark_append, ih, KeptAt]
    simp [noFreeMark_of_plain n.plain, hclose]
  | arg e ih => exact ih level
  | moreArgs e spaces rest ihe ih =>
    rw [chars, noFreeMark_append, ihe, levelBehind_chars, noFreeMark_comma, ih, KeptAt,
      Nat.sub_pos_iff_lt]
  | pair key value ihkey ihvalue =>
    rw [chars, noFreeMark_append, ihkey, levelBehind_chars, noFreeMark_append,
      levelBehind_typeArrow, ihvalue, KeptAt, Nat.sub_sub]
    simp [noFreeMark_typeArrow]
  | morePairs key value spaces rest ihkey ihvalue ih =>
    rw [chars, noFreeMark_append, ihkey, levelBehind_chars, noFreeMark_append,
      levelBehind_typeArrow, noFreeMark_append, ihvalue, levelBehind_chars, noFreeMark_comma, ih,
      KeptAt, Nat.sub_sub, Nat.sub_sub, Nat.sub_pos_iff_lt]
    simp [noFreeMark_typeArrow]

/-- **Without arrows** every expression is kept together, and so are arguments in brackets. -/
theorem keptAt_of_arrows_eq_zero (t : TypeText part) (h : t.arrows = 0) {level : Nat}
    (hlevel : part = .expr ∨ 0 < level) : t.KeptAt level := by
  induction t generalizing level with
  | name n => trivial
  | applied n b args ih =>
    have hargs : args.arrows = 0 := h
    exact ⟨ih hargs (.inr (Nat.succ_pos level)), fun _ ↦ by omega⟩
  | hash n pairs ih => exact ih h (.inr (Nat.succ_pos level))
  | arg e ih => exact ih h (.inl rfl)
  | moreArgs e spaces rest ihe ih =>
    obtain ⟨he, hrest⟩ := Nat.add_eq_zero_iff.1 h
    have hpos : 0 < level := hlevel.resolve_left nofun
    rw [KeptAt, he]
    exact ⟨ihe he (.inl rfl), hpos, ih hrest (.inr hpos)⟩
  | pair key value =>
    rw [arrows] at h
    omega
  | morePairs key value =>
    rw [arrows] at h
    omega

/-! ### Texts -/

/-- An expression has no blanks at its ends. -/
theorem trim_chars (e : TypeText .expr) : trim e.chars = e.chars ∧ e.chars ≠ [] := by
  have hbetween (n : TypeName) (cs : List Char) {d : Char} (hd : isBlank d = false) :
      trim (n.chars ++ cs ++ [d]) = n.chars ++ cs ++ [d] := by
    obtain ⟨c, rest, hn⟩ := List.exists_cons_of_ne_nil n.ne_nil
    have hc : isBlank c = false := n.not_blank c (hn ▸ List.mem_cons_self)
    rw [hn, List.cons_append, List.cons_append]
    exact trim_enclosed hc hd _
  cases e with
  | name n => exact ⟨trim_of_forall_not_isBlank n.not_blank, n.ne_nil⟩
  | applied n b args =>
    have hd : isBlank b.closing = false := by cases b <;> rfl
    have hchars : (applied n b args).chars =
        n.chars ++ b.opening :: args.chars ++ [b.closing] := by simp [chars]
    rw [hchars]
    exact ⟨hbetween n _ hd, by simp⟩
  | hash n pairs =>
    have hchars : (hash n pairs).chars = n.chars ++ '\x7b' :: pairs.chars ++ ['\x7d'] := by
      simp [chars]
    rw [hchars]
    exact ⟨hbetween n _ rfl, by simp⟩

theorem newline_notMem_chars (t : TypeText part) : '\n' ∉ t.chars := by
  have hname (n : TypeName) : '\n' ∉ n.chars := fun hmem ↦
    absurd (n.not_blank _ hmem) (by decide)
  induction t with
  | name n => exact hname n
  | applied n b args ih =>
    have hb : '\n' ≠ b.opening ∧ '\n' ≠ b.closing := by cases b <;> decide
    simp [chars, hname, hb, ih]
  | hash n pairs ih => simp [chars, hname, ih]
  | arg e ih => exact ih
  | moreArgs e spaces rest ihe ih => simp [chars, ihe, ih]
  | pair key value ihkey ihvalue => simp [chars, typeArrow, ihkey, ihvalue]
  | morePairs key value spaces rest ihkey ihvalue ih =>
    simp [chars, typeArrow, ihkey, ihvalue, ih]

/-- The text of an expression. -/
def text (e : TypeText .expr) : String := String.ofList e.chars

/-- Type expressions, parted by commas. -/
def listText (es : List (TypeText .expr)) : String :=
  String.ofList (joinWith typeGlue (es.map chars))

theorem newline_notMem_listText (es : List (TypeText .expr)) : '\n' ∉ (listText es).toList := by
  rw [listText, String.toList_ofList]
  intro h
  rcases mem_joinWith h with hglue | ⟨t, ht, hc⟩
  · exact absurd hglue (by decide)
  · obtain ⟨e, -, rfl⟩ := List.mem_map.1 ht
    exact newline_notMem_chars e hc

/-- **Reading a list of type expressions.** The list comes apart into its expressions and the text
behind it exactly if all of them are kept together. If they are, a `@param` tag has a parameter,
these types and a text. -/
theorem parse_param_types {es : List (TypeText .expr)} (hne : es ≠ []) :
    (∀ rest, splitTypeList? ('[' :: ((listText es).toList ++ ']' :: rest)) =
        some (es.map chars, trimStart rest) ↔ ∀ e ∈ es, e.KeptAt 0) ∧
    ((∀ e ∈ es, e.KeptAt 0) → ∀ parameter description : String, isIdentifier parameter = true →
      '\n' ∉ description.toList →
      DocComment.parse
          (TagKind.param.line (parameter ++ " [" ++ listText es ++ "] " ++ description)) =
        { description := ""
          tags := [{ tagName := "param", name := some parameter
                     types := some (es.map text), text := trimmed description }] }) := by
  have hsplit (rest : List Char) :
      splitTypeList? ('[' :: ((listText es).toList ++ ']' :: rest)) =
        some (es.map chars, trimStart rest) ↔ ∀ e ∈ es, e.KeptAt 0 := by
    have htrim : (es.map chars).map trim = es.map chars := by
      rw [List.map_map]
      exact List.map_congr_left fun e _ ↦ (trim_chars e).1
    have hlevel : ∀ t ∈ es.map chars, levelBehind 0 t = 0 :=
      List.forall_mem_map.2 fun e _ ↦ by rw [levelBehind_chars, Nat.zero_sub]
    have hblank : ∀ t ∈ es.map chars, trim t ≠ [] :=
      List.forall_mem_map.2 fun e _ ↦ by rw [(trim_chars e).1]; exact (trim_chars e).2
    have hiff := splitTypeList?_joinWith_iff (mt List.map_eq_nil_iff.1 hne) hlevel hblank rest
    rw [htrim, List.forall_mem_map] at hiff
    rw [listText, String.toList_ofList, hiff]
    exact forall₂_congr fun e _ ↦ noFreeMark_chars e 0
  refine ⟨hsplit, fun hkept parameter description hp hfeed ↦ ?_⟩
  have hlist (rest : List Char) := (hsplit rest).2 hkept
  have hreads : ReadsAs .permissive
      (TagKind.param.line (parameter ++ " [" ++ listText es ++ "] " ++ description)) _ :=
    readsAs_param_list hp hlist (newline_notMem_listText es) hfeed
  have hempty : DocComment.parse (joinLines []) = {} := rfl
  have hparse := parse_joinLines_append (congrArg DocComment.tags hempty)
    (List.forall_mem_singleton.2 ⟨_, hreads⟩)
  rw [hempty, List.nil_append, joinLines_singleton, List.filterMap_cons,
    tag?_param hp hlist description, List.map_map] at hparse
  exact hparse

/-- Arguments in brackets, and a hash with one pair. -/
theorem parse_param_types_nested :
    DocComment.parse
        "@param ids [Array<String, Integer>, Hash\x7bSymbol => Integer\x7d] Identifiers." =
      { tags := [{ tagName := "param", name := some "ids"
                   types := some ["Array<String, Integer>", "Hash\x7bSymbol => Integer\x7d"]
                   text := "Identifiers." }] } := by
  let array : TypeName := .ofWord "Array" (by decide) (by decide)
  let string : TypeName := .ofWord "String" (by decide) (by decide)
  let integer : TypeName := .ofWord "Integer" (by decide) (by decide)
  let hash' : TypeName := .ofWord "Hash" (by decide) (by decide)
  let symbol : TypeName := .ofWord "Symbol" (by decide) (by decide)
  let es : List (TypeText .expr) :=
    [.applied array .angle (.moreArgs (.name string) 1 (.arg (.name integer))),
      .hash hash' (.pair (.name symbol) (.name integer))]
  have hkept : ∀ e ∈ es, e.KeptAt 0 := by simp [es, KeptAt, arrows]
  exact (parse_param_types (List.cons_ne_nil _ _)).2 hkept "ids" "Identifiers." (by decide)
    (by decide)

/-- **A second pair of a hash** is taken for a type of its own: the arrow of the first one has
closed the brace. -/
theorem parse_two_pairs :
    (DocComment.parse "@param p [Hash\x7bSymbol => Integer, String => Float\x7d] t").tags.map
        Tag.types =
      [some ["Hash\x7bSymbol => Integer", "String => Float\x7d"]] := by
  decide

end TypeText

end ToolSchema
