import ToolSchema.Proofs.Json.Reader

/-!
# Reading printed objects

The loop over the members of an object meets the members that were printed, one after the other, and
then the brace that ends the object, in whatever layout it was printed (`foldMembers_write`). What
the loop makes of a member depends on its state: a record refuses a field that it has seen before,
and a tagged record waits for its tag. So the loop is described by a chain of states, one step for
each member (`MembersRead`), and a user of the loop only says how the state goes on.

With lists and objects both, every value that nests no deeper than there is room, and has neither
null nor a double in it (`Json.Fits`), is read back as the value that it is (`run_json_write`).
-/

namespace ToolSchema

namespace Json

/-- Plain values, and lists and objects around them that nest at most `room` deep. -/
inductive Fits : Nat → Json → Prop
  | plain {room : Nat} {j : Json} : j.isPlain = true → Fits room j
  | array {room : Nat} {items : List Json} :
    (∀ j ∈ items, Fits room j) → Fits (room + 1) (.array items)
  | object {room : Nat} {members : List (String × Json)} :
    (∀ m ∈ members, Fits room m.2) → Fits (room + 1) (.object members)

/-! ### First characters -/

variable {gap : List Char}

/-- A printed plain value does not look like null. -/
theorem head_write_ne_of_isPlain {v : Json} (hv : v.isPlain = true) {layout : Layout} {depth : Nat}
    {c : Char} {cs : List Char} (h : write layout depth v = c :: cs) : c ≠ 'n' := by
  rintro rfl
  obtain ⟨c', cs', hcs, -, -, -, -, hscan⟩ := exists_scanScalar_write hv layout depth
  obtain ⟨rfl, rfl⟩ := List.cons.inj (h.symm.trans hcs)
  -- what starts like null is scanned as null, which is not plain
  have hnull := hscan [] rfl
  rw [Reader.scanScalar, Reader.scanNamed] at hnull
  split at hnull
  · cases hnull
  · obtain ⟨rfl, -⟩ := Prod.mk.inj (Except.ok.inj hnull)
    cases hv

/-- **A printed value** starts with a character that is no blank, ends no list, and does not look
like null. -/
theorem exists_write_eq_cons {room : Nat} {j : Json} (h : j.Fits room) (layout : Layout)
    (depth : Nat) :
    ∃ c cs, write layout depth j = c :: cs ∧ isGap c = false ∧ c ≠ ']' ∧ c ≠ 'n' := by
  cases h with
  | plain hv =>
    obtain ⟨c, cs, hcs, hgap, hend, -⟩ := exists_scanScalar_write hv layout depth
    exact ⟨c, cs, hcs, hgap, hend, head_write_ne_of_isPlain hv hcs⟩
  | @array _ items _ =>
    rcases items with - | ⟨j, items⟩
    · exact ⟨'[', _, rfl, rfl, by decide, by decide⟩
    · exact ⟨'[', _, rfl, rfl, by decide, by decide⟩
  | @object _ members _ =>
    rcases members with - | ⟨⟨key, j⟩, members⟩
    · exact ⟨'\x7b', _, rfl, rfl, by decide, by decide⟩
    · exact ⟨'\x7b', _, rfl, rfl, by decide, by decide⟩

theorem Fits.startsItem_write {room : Nat} {j : Json} (h : j.Fits room) (layout : Layout)
    (depth : Nat) : startsItem (write layout depth j) = true := by
  obtain ⟨c, cs, hcs, hgap, hend, -⟩ := exists_write_eq_cons h layout depth
  rw [hcs, startsItem, hgap]
  simpa using hend

/-! ### Keys -/

theorem skipGap_append_cons (hgap : ∀ c ∈ gap, isGap c = true) {c : Char} (hc : isGap c = false)
    (cs : List Char) : skipGap (gap ++ c :: cs) = c :: cs := by
  rw [skipGap_append hgap]
  exact List.dropWhile_cons_of_neg (by simp [hc])

theorem endsNumber_append (hgap : ∀ c ∈ gap, isGap c = true) {cs : List Char}
    (h : endsNumber cs = true) : endsNumber (gap ++ cs) = true := by
  rcases gap with - | ⟨c, gap⟩
  · exact h
  · have hc := hgap c List.mem_cons_self
    simp only [isGap, Bool.or_eq_true, beq_iff_eq] at hc
    rcases hc with ((rfl | rfl) | rfl) | rfl <;> rfl

/-- A key is read behind its opening quote. -/
theorem keyStep_stringText (key : String) (rest : List Char) :
    keyStep (key.toList.flatMap escapedChar ++ '"' :: rest) = .ok (.key key.toList rest) := by
  rw [keyStep, scanString_flatMap]

theorem stringText_append (key : String) (rest : List Char) :
    stringText key ++ rest = '"' :: (key.toList.flatMap escapedChar ++ '"' :: rest) := by
  rw [stringText, List.cons_append, List.cons_append, List.append_assoc, List.singleton_append]

theorem nextKey_first (hgap : ∀ c ∈ gap, isGap c = true) (key : String) (rest : List Char) :
    nextKey true (gap ++ (stringText key ++ rest)) = .ok (.key key.toList rest) := by
  rw [stringText_append, nextKey, skipGap_append_cons hgap (by decide)]
  exact keyStep_stringText key rest

theorem nextKey_comma (hgap : ∀ c ∈ gap, isGap c = true) (key : String) (rest : List Char) :
    nextKey false (',' :: (gap ++ (stringText key ++ rest))) = .ok (.key key.toList rest) := by
  have hskip (cs : List Char) : skipGap (',' :: cs) = ',' :: cs :=
    List.dropWhile_cons_of_neg (by decide)
  rw [stringText_append, nextKey, hskip]
  split
  · next he => cases he
  · next he => exact absurd (List.cons.inj he).1 (by decide)
  · next he =>
    obtain ⟨rfl, rfl⟩ := List.cons.inj he
    rw [if_neg Bool.false_ne_true, if_pos rfl, skipGap_append_cons hgap (by decide)]
    exact keyStep_stringText key rest

theorem nextKey_end (hgap : ∀ c ∈ gap, isGap c = true) (first : Bool) (rest : List Char) :
    nextKey first (gap ++ '\x7d' :: rest) = .ok (.done rest) := by
  simp only [nextKey, skipGap_append_cons hgap (show isGap '\x7d' = false by decide)]

/-! ### Members -/

section Members

variable {σ : Type} {member : σ → String → Reader σ}

theorem foldMembers_of_key {first : Bool} {acc acc' : σ} {cs name rest rest' : List Char}
    (hstep : nextKey first cs = .ok (.key name rest))
    (hrun : (member acc (String.ofList name)).run rest = .ok (acc', rest')) :
    foldMembers member first acc cs = foldMembers member false acc' rest' := by
  rw [foldMembers.eq_def]
  split
  · next h => rw [hstep] at h; cases h
  · next h => rw [hstep] at h; cases h
  · next h =>
    rw [hstep] at h
    cases h
    split
    · next h => rw [hrun] at h; cases h
    · next h =>
      rw [hrun] at h
      cases h
      rfl

theorem foldMembers_of_done {first : Bool} {cs rest : List Char}
    (hstep : nextKey first cs = .ok (.done rest)) (acc : σ) :
    foldMembers member first acc cs = .ok (acc, rest) := by
  rw [foldMembers.eq_def]
  split
  · next h => rw [hstep] at h; cases h
  · next h =>
    rw [hstep] at h
    cases h
    rfl
  · next h => rw [hstep] at h; cases h

/-- **The state goes from one to the other** while printed members are read. -/
inductive MembersRead (member : σ → String → Reader σ) (layout : Layout) (depth : Nat) :
    σ → List (String × Json) → σ → Prop
  | nil (acc : σ) : MembersRead member layout depth acc [] acc
  | cons {acc acc' last : σ} {key : String} {j : Json} {members : List (String × Json)} :
    (∀ rest, endsNumber rest = true →
      (member acc key).run (layout.colon ++ (write layout depth j ++ rest)) = .ok (acc', rest)) →
    MembersRead member layout depth acc' members last →
    MembersRead member layout depth acc ((key, j) :: members) last

/-- Behind a member stands the comma before the next one, or the end. -/
theorem endsNumber_members (layout : Layout) (depth : Nat) {close : List Char}
    (hclose : ∀ c ∈ close, isGap c = true) (members : List (String × Json)) (rest : List Char) :
    endsNumber (writeMembers layout depth members ++ (close ++ '\x7d' :: rest)) = true := by
  rcases members with - | ⟨⟨key, j⟩, members⟩
  · exact endsNumber_append hclose rfl
  · rfl

/-- **The members behind the first one** are read one after the other, up to the end. -/
theorem foldMembers_writeMembers {layout : Layout} {depth : Nat} {acc last : σ}
    {members : List (String × Json)} (h : MembersRead member layout depth acc members last)
    {close : List Char} (hclose : ∀ c ∈ close, isGap c = true) (rest : List Char) :
    foldMembers member false acc (writeMembers layout depth members ++ (close ++ '\x7d' :: rest)) =
      .ok (last, rest) := by
  induction h with
  | nil acc => exact foldMembers_of_done (nextKey_end hclose false rest) acc
  | @cons acc acc' last key j members hread _ ih =>
    have hgap : ∀ c ∈ layout.gap depth, isGap c = true := fun _ ↦ isGap_of_mem_gap
    have hkey := nextKey_comma hgap key
      (layout.colon ++ (write layout depth j ++
        (writeMembers layout depth members ++ (close ++ '\x7d' :: rest))))
    have hrun := hread _ (endsNumber_members layout depth hclose members rest)
    rw [← String.ofList_toList (s := key)] at hrun
    simp only [writeMembers, List.cons_append, List.append_assoc]
    rw [foldMembers_of_key hkey hrun]
    exact ih

/-- **The members of a printed object** behind its opening brace. -/
theorem foldMembers_write {layout : Layout} {depth : Nat} {acc last : σ}
    {members : List (String × Json)}
    (h : MembersRead member layout (depth + 1) acc members last) (rest : List Char) :
    ∃ cs, write layout depth (.object members) ++ rest = '\x7b' :: cs ∧
      foldMembers member true acc cs = .ok (last, rest) := by
  have hgap (n : Nat) : ∀ c ∈ layout.gap n, isGap c = true := fun _ ↦ isGap_of_mem_gap
  cases h with
  | nil =>
    have hnone : ∀ c ∈ ([] : List Char), isGap c = true := fun c hc ↦ nomatch hc
    exact ⟨_, rfl, foldMembers_of_done (nextKey_end hnone true rest) acc⟩
  | @cons _ acc' _ key j members hread htail =>
    have hkey := nextKey_first (hgap (depth + 1)) key
      (layout.colon ++ (write layout (depth + 1) j ++
        (writeMembers layout (depth + 1) members ++ (layout.gap depth ++ '\x7d' :: rest))))
    have hrun := hread _ (endsNumber_members layout (depth + 1) (hgap depth) members rest)
    rw [← String.ofList_toList (s := key)] at hrun
    refine ⟨_, ?_, (foldMembers_of_key hkey hrun).trans
      (foldMembers_writeMembers htail (hgap depth) rest)⟩
    simp only [write, List.cons_append, List.append_assoc, List.nil_append]

end Members

/-! ### Values -/

namespace Reader

variable {α β : Type}

/-- Blanks before a value do not matter to the reader. -/
def IgnoresGap (r : Reader α) : Prop :=
  ∀ gap, (∀ c ∈ gap, isGap c = true) → ∀ cs, r.run (gap ++ cs) = r.run cs

theorem ignoresGap_value (accept : Json → Except Mismatch α) (list object : Reader α) :
    (value accept list object).IgnoresGap := by
  intro gap hgap cs
  simp only [value, skipGap_append hgap]

theorem ignoresGap_json (room : Nat) : (json room).IgnoresGap := by
  cases room with
  | zero => exact ignoresGap_value _ _ _
  | succ room => exact ignoresGap_value _ _ _

theorem IgnoresGap.map {r : Reader α} (h : r.IgnoresGap) (f : α → β) : (r.map f).IgnoresGap := by
  intro gap hgap cs
  simp only [Reader.map, h gap hgap cs]

/-- The value of a member is read behind the colon of every layout. -/
theorem IgnoresGap.run_afterColon {r : Reader α} (h : r.IgnoresGap) (layout : Layout)
    (cs : List Char) : r.afterColon.run (layout.colon ++ cs) = r.run cs := by
  cases layout with
  | compact => rfl
  | pretty => exact h [' '] (List.forall_mem_singleton.2 rfl) cs

/-- A list is read by the reader of lists, from behind its opening bracket. -/
theorem run_value_array (accept : Json → Except Mismatch α) (list object : Reader α)
    (cs : List Char) : (value accept list object).run ('[' :: cs) = list.run cs := rfl

/-- An object is read by the reader of objects, from behind its opening brace. -/
theorem run_value_object (accept : Json → Except Mismatch α) (list object : Reader α)
    (cs : List Char) : (value accept list object).run ('\x7b' :: cs) = object.run cs := rfl

end Reader

/-- **A value is read back** as it is. -/
theorem run_json_write {room : Nat} {j : Json} (h : j.Fits room) (layout : Layout) (depth : Nat)
    {rest : List Char} (hrest : endsNumber rest = true) :
    (Reader.json room).run (write layout depth j ++ rest) = .ok (j, rest) := by
  induction h generalizing depth rest with
  | @plain room j hj =>
    cases room with
    | zero => exact run_value_write hj rfl layout depth hrest
    | succ room => exact run_value_write hj rfl layout depth hrest
  | @array room items hitems ih =>
    have hstart : ∀ j ∈ items, startsItem (write layout (depth + 1) (id j)) = true :=
      fun j hj ↦ (hitems j hj).startsItem_write layout (depth + 1)
    have hitem : ∀ j ∈ items, ∀ (found : List Json) (rest : List Char), endsNumber rest = true →
        ((Reader.json room).map (· :: found)).run (write layout (depth + 1) (id j) ++ rest) =
          .ok (j :: found, rest) :=
      fun j hj found rest hrest ↦ run_map_of_ok (· :: found) (ih j hj (depth + 1) hrest)
    obtain ⟨cs, hcs, hfold⟩ := foldItems_write hstart hitem [] rest
    rw [List.foldl_flip_cons_eq_append', List.append_nil] at hfold
    have hlist := run_map_of_ok (r := Reader.items _ []) (fun found ↦ array found.reverse) hfold
    simp only [List.reverse_reverse] at hlist
    rw [List.map_id] at hcs
    rw [hcs, Reader.json, Reader.run_value_array]
    exact hlist
  | @object room members hmembers ih =>
    have hread (found : List (String × Json)) : MembersRead
        (fun found name ↦ ((Reader.json room).map fun j ↦ (name, j) :: found).afterColon)
        layout (depth + 1) found members (members.reverse ++ found) := by
      clear hmembers
      induction members generalizing found with
      | nil => exact .nil found
      | cons m members ihm =>
        obtain ⟨hm, ih⟩ := List.forall_mem_cons.1 ih
        rw [List.reverse_cons, List.append_assoc]
        refine .cons (fun rest hrest ↦ ?_) (ihm ih (m :: found))
        rw [((Reader.ignoresGap_json room).map _).run_afterColon]
        exact run_map_of_ok _ (hm (depth + 1) hrest)
    obtain ⟨cs, hcs, hfold⟩ := foldMembers_write (hread []) rest
    rw [List.append_nil] at hfold
    have hobject :=
      run_map_of_ok (r := Reader.members _ []) (fun found ↦ object found.reverse) hfold
    simp only [List.reverse_reverse] at hobject
    rw [hcs, Reader.json, Reader.run_value_object]
    exact hobject

end Json

end ToolSchema
