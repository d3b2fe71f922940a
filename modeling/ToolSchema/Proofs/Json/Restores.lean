import ToolSchema.Comment.Codec
import ToolSchema.Proofs.Json.Members

/-!
# Decoders that restore what was written

A decoder restores a value if it gives it back from the JSON that was made of it: from a text in
either layout, wherever the text stands, and from a value that is already there, for whatever reason
it is there (`Decoder.Restores`). Every combinator of decoders keeps this law, so that the decoder
of a domain type is shown to restore its values part by part, along its definition.

* Lists and dictionaries restore their contents one level further in (`restores_list`,
  `restores_dictionary`); the keys of a dictionary must differ.
* A record writes its fields in their order and leaves out some that have a default. Which members
  belong to which record is a relation over the fields (`RecordMembers`), and such members are
  restored (`restores_record`).
* A case is restored by its name (`restores_bare`, `restores_carrying`), and a tagged record if its
  tag stands first and its payload can be had from a value (`restores_tagged`).
-/

namespace ToolSchema

namespace Json

namespace Decoder

variable {α β : Type} {d : Decoder α} {room : Nat} {j : Json} {a : α}

/-- **The decoder gives `a` back** from its JSON `j`, with `room` levels left. -/
structure Restores (d : Decoder α) (room : Nat) (j : Json) (a : α) : Prop where
  /-- The levels are enough, and the JSON holds neither null nor a double. -/
  fits : j.Fits room
  /-- In a member the value may stand behind a blank. -/
  ignoresGap : (d.fromText room).IgnoresGap
  reads : ∀ layout depth, d.Reads room layout depth j a
  fromValue : ∀ origin, d.fromValue origin j = .ok a

namespace Restores

/-- What was written is read, in either layout. -/
theorem readText (h : d.Restores maxDepth j a) (layout : Layout) :
    d.readText (j.text layout) = .ok a :=
  readText_of_reads (h.reads layout 0)

theorem readValue (h : d.Restores maxDepth j a) : d.readValue j = .ok a :=
  h.fromValue .held

theorem map (h : d.Restores room j a) (f : α → β) : (d.map f).Restores room j (f a) where
  fits := h.fits
  ignoresGap := h.ignoresGap.map f
  reads layout depth rest hrest := run_map_of_ok f (h.reads layout depth rest hrest)
  fromValue origin := by
    show (d.fromValue origin j).map f = _
    rw [h.fromValue origin]
    rfl

/-- The value of a member is read behind its colon. -/
theorem run_afterColon (h : d.Restores room j a) (f : α → β) (layout : Layout) (depth : Nat)
    {rest : List Char} (hrest : endsNumber rest = true) :
    ((d.fromText room).map f).afterColon.run (layout.colon ++ (write layout depth j ++ rest)) =
      .ok (f a, rest) := by
  rw [(h.ignoresGap.map f).run_afterColon]
  exact run_map_of_ok f (h.reads layout depth rest hrest)

end Restores

/-! ### Values without parts -/

theorem restores_scalar {expected : String} {accept : Json → Except Mismatch α} {v : Json}
    (hv : v.isPlain = true) (ha : accept v = .ok a) :
    (scalar expected accept).Restores room v a where
  fits := .plain hv
  ignoresGap := Reader.ignoresGap_value _ _ _
  reads layout depth _ hrest := run_value_write hv ha layout depth hrest
  fromValue _ := ha

theorem restores_text (expected s : String) : (text expected).Restores room (.string s) s :=
  restores_scalar rfl rfl

theorem restores_string (s : String) : Decoder.string.Restores room (.string s) s :=
  restores_text _ s

theorem restores_natBelow {bound : Nat} (expected : String) {i : Integer64} {n : Nat}
    (hi : i.value = n) (hn : n < bound) :
    (natBelow bound expected).Restores room (.number (.integer i)) n := by
  have hbounds : 0 ≤ (n : Int) ∧ (n : Int) < bound := by omega
  refine restores_scalar rfl ?_
  simp only [hi, if_pos hbounds, Int.toNat_natCast]

theorem restores_u32 (n : UInt32) : u32.Restores room (.ofUInt32 n) n := by
  have h : (natBelow UInt32.size "u32").Restores room (.ofUInt32 n) n.toNat :=
    restores_natBelow "u32" rfl n.toNat_lt
  have hmap := h.map UInt32.ofNat
  rwa [UInt32.ofNat_toNat] at hmap

theorem restores_u64 (n : UInt64) : u64.Restores room (.ofUInt64 n) n := by
  have h : (natBelow UInt64.size "u64").Restores room (.ofUInt64 n) n.toNat :=
    restores_natBelow "u64" rfl n.toNat_lt
  have hmap := h.map UInt64.ofNat
  rwa [UInt64.ofNat_toNat] at hmap

/-- Plain values are values of their own. -/
theorem restores_any {v : Json} (hv : v.isPlain = true) : Decoder.any.Restores room v v where
  fits := .plain hv
  ignoresGap := (Reader.ignoresGap_json room).map merged
  reads := reads_any hv room
  fromValue _ := by
    cases v with
    | array => cases hv
    | object => cases hv
    | _ => rfl

/-- A value that is there is told from null by its first character. -/
theorem Restores.option (h : d.Restores room j a) : (option d).Restores room j (some a) where
  fits := h.fits
  ignoresGap := by
    intro gap hgap cs
    simp only [Decoder.option, skipGap_append hgap, (h.ignoresGap.map some) gap hgap cs]
  reads layout depth rest hrest := by
    obtain ⟨c, cs, hcs, hc, -, hn⟩ := exists_write_eq_cons h.fits layout depth
    have hskip : skipGap (write layout depth j ++ rest) = c :: (cs ++ rest) := by
      rw [hcs, List.cons_append]
      exact List.dropWhile_cons_of_neg (by simp [hc])
    simp only [Decoder.option, hskip]
    split
    · next he => exact absurd (List.cons.inj he).1 hn
    · exact run_map_of_ok some (h.reads layout depth rest hrest)
  fromValue origin := by
    have hj : j ≠ .null := by
      rintro rfl
      cases h.fits with
      | plain hv => cases hv
    simp only [Decoder.option, h.fromValue origin]
    rfl

/-! ### Lists and dictionaries -/

theorem itemsOf_map {item : Json → Except Mismatch α} {render : α → Json} {vs : List α}
    (h : ∀ v ∈ vs, item (render v) = .ok v) : itemsOf item (vs.map render) = .ok vs := by
  induction vs with
  | nil => rfl
  | cons v vs ih =>
    obtain ⟨hv, h⟩ := List.forall_mem_cons.1 h
    rw [List.map_cons, itemsOf, hv, ih h]
    rfl

/-- **A list is restored**, if its items are. -/
theorem restores_list {render : α → Json} {vs : List α}
    (h : ∀ v ∈ vs, d.Restores room (render v) v) :
    (list d).Restores (room + 1) (.array (vs.map render)) vs where
  fits := .array (List.forall_mem_map.2 fun v hv ↦ (h v hv).fits)
  ignoresGap := by
    dsimp only [list]
    exact Reader.ignoresGap_value _ _ _
  reads layout depth :=
    reads_list (fun v hv ↦ (h v hv).fits.startsItem_write layout (depth + 1))
      fun v hv ↦ (h v hv).reads layout (depth + 1)
  fromValue origin := itemsOf_map fun v hv ↦ (h v hv).fromValue origin

/-- The members of a dictionary as JSON. -/
def memberJson (render : α → Json) (m : String × α) : String × Json := (m.1, render m.2)

/-- A member with a new key goes to the end. -/
theorem insertMember_of_nodup {found ms : List (String × α)} {m : String × α}
    (hnd : ((found ++ m :: ms).map Prod.fst).Nodup) :
    insertMember found m.1 m.2 = found ++ [m] := by
  refine insertMember_of_notMem m.2 fun hmem ↦ ?_
  rw [List.map_append] at hnd
  exact (List.nodup_append.1 hnd).2.2 _ hmem _ (by simp) rfl

theorem membersRead_dictionary {render : α → Json} {found ms : List (String × α)}
    (hnd : ((found ++ ms).map Prod.fst).Nodup) (h : ∀ m ∈ ms, d.Restores room (render m.2) m.2)
    (layout : Layout) (depth : Nat) :
    MembersRead (fun found key ↦ ((d.fromText room).map (insertMember found key)).afterColon)
      layout depth found (ms.map (memberJson render)) (found ++ ms) := by
  induction ms generalizing found with
  | nil =>
    rw [List.append_nil]
    exact .nil found
  | cons m ms ih =>
    obtain ⟨hm, h⟩ := List.forall_mem_cons.1 h
    have hinsert := insertMember_of_nodup hnd
    rw [List.append_cons] at hnd ⊢
    refine .cons (fun rest hrest ↦ ?_) (ih hnd h)
    rw [← hinsert]
    exact hm.run_afterColon (insertMember found m.1) layout depth hrest

theorem membersOf_dictionary {value : Json → Except Mismatch α} {render : α → Json}
    {found ms : List (String × α)} (hnd : ((found ++ ms).map Prod.fst).Nodup)
    (h : ∀ m ∈ ms, value (render m.2) = .ok m.2) :
    membersOf value found (ms.map (memberJson render)) = .ok (found ++ ms) := by
  induction ms generalizing found with
  | nil => rw [List.append_nil, List.map_nil, membersOf]
  | cons m ms ih =>
    obtain ⟨hm, h⟩ := List.forall_mem_cons.1 h
    have hinsert := insertMember_of_nodup hnd
    rw [List.append_cons] at hnd ⊢
    rw [List.map_cons, memberJson, membersOf, hm]
    simp only [hinsert]
    exact ih hnd h

/-- **A dictionary is restored** in its order, if its keys differ and its values are restored. -/
theorem restores_dictionary {render : α → Json} {ms : List (String × α)}
    (hnd : (ms.map Prod.fst).Nodup) (h : ∀ m ∈ ms, d.Restores room (render m.2) m.2) :
    (dictionary d).Restores (room + 1) (.object (ms.map (memberJson render))) ms where
  fits := .object (List.forall_mem_map.2 fun m hm ↦ (h m hm).fits)
  ignoresGap := by
    dsimp only [dictionary]
    exact Reader.ignoresGap_value _ _ _
  reads layout depth rest _ := by
    have hnd' : (([] ++ ms).map Prod.fst).Nodup := hnd
    obtain ⟨cs, hcs, hfold⟩ :=
      foldMembers_write (membersRead_dictionary hnd' h layout (depth + 1)) rest
    rw [hcs]
    exact hfold
  fromValue origin := by
    have hnd' : (([] ++ ms).map Prod.fst).Nodup := hnd
    exact membersOf_dictionary hnd' fun m hm ↦ (h m hm).fromValue origin

/-! ### Records -/

/-- **The members of a record** in the order of its fields: the members that fill in a record `a` up
to `b`. A field that must be there is there; one with a default may be left out. -/
inductive RecordMembers (room : Nat) : List (Field α) → α → List (String × Json) → α → Prop
  | nil (a : α) : RecordMembers room [] a [] a
  | present {f : Field α} {fields : List (Field α)} {a b : α} {j : Json} {set : α → α}
      {ms : List (String × Json)} :
    f.fill.Restores room j set → RecordMembers room fields (set a) ms b →
    RecordMembers room (f :: fields) a ((f.name, j) :: ms) b
  | absent {f : Field α} {fields : List (Field α)} {a b : α} {ms : List (String × Json)} :
    f.isRequired = false → RecordMembers room fields a ms b →
    RecordMembers room (f :: fields) a ms b

namespace RecordMembers

variable {fields all : List (Field α)} {b : α} {ms : List (String × Json)}

/-- A member of a field that must be there. -/
theorem required {name : String} {e : Decoder β} {set : β → α → α} {v : β}
    (hv : e.Restores room j v) (h : RecordMembers room fields (set v a) ms b) :
    RecordMembers room (.required name e set :: fields) a ((name, j) :: ms) b :=
  .present (hv.map set) h

/-- A member of a field with a default. -/
theorem defaulted {name : String} {e : Decoder β} {set : β → α → α} {v : β}
    (hv : e.Restores room j v) (h : RecordMembers room fields (set v a) ms b) :
    RecordMembers room (.defaulted name e set :: fields) a ((name, j) :: ms) b :=
  .present (hv.map set) h

/-- A member that is there if its value is. -/
theorem optional {name : String} {e : Decoder β} {set : Option β → α → α} {encode : β → Json}
    {o : Option β} (hv : ∀ v, o = some v → e.Restores room (encode v) v)
    (hset : set none a = a) (h : RecordMembers room fields (set o a) ms b) :
    RecordMembers room (.defaulted name e.option set :: fields) a
      (optionalMember name encode o ++ ms) b := by
  rcases o with - | v
  · rw [hset] at h
    exact .absent rfl h
  · exact .present ((hv v rfl).option.map set) h

theorem fits (h : RecordMembers room fields a ms b) : ∀ m ∈ ms, m.2.Fits room := by
  induction h with
  | nil => exact fun m hm ↦ nomatch hm
  | present hj _ ih => exact List.forall_mem_cons.2 ⟨hj.fits, ih⟩
  | absent _ _ ih => exact ih

/-- What must be there is there. -/
theorem name_mem_of_isRequired (h : RecordMembers room fields a ms b) :
    ∀ f ∈ fields, f.isRequired = true → f.name ∈ ms.map Prod.fst := by
  induction h with
  | nil => exact fun f hf ↦ nomatch hf
  | present _ _ ih =>
    refine List.forall_mem_cons.2 ⟨fun _ ↦ List.mem_cons_self, fun f hf hr ↦ ?_⟩
    exact List.mem_cons_of_mem _ (ih f hf hr)
  | absent hoptional _ ih =>
    refine List.forall_mem_cons.2 ⟨fun hr ↦ ?_, ih⟩
    rw [hoptional] at hr
    cases hr

/-- The name of a field leads to the field, if all names differ. -/
theorem find?_name_eq {f : Field α} (hnd : (all.map Field.name).Nodup) (hf : f ∈ all) :
    (all.find? fun g ↦ g.name == f.name) = some f := by
  induction all with
  | nil => cases hf
  | cons g all ih =>
    rw [List.map_cons, List.nodup_cons] at hnd
    rcases List.mem_cons.1 hf with rfl | hf
    · exact List.find?_cons_of_pos (by simp)
    · have hne : g.name ≠ f.name := fun he ↦ hnd.1 (he ▸ List.mem_map_of_mem hf)
      rw [List.find?_cons_of_neg (by simpa using hne)]
      exact ih hnd.2 hf

/-- Once a field was seen, the fields behind it are still to be seen. -/
theorem notMem_seen_cons {f : Field α} {seen : List String}
    (hnd : ((f :: fields).map Field.name).Nodup) (hseen : ∀ g ∈ f :: fields, g.name ∉ seen) :
    ∀ g ∈ fields, g.name ∉ f.name :: seen := by
  intro g hg hmem
  rw [List.map_cons, List.nodup_cons] at hnd
  rcases List.mem_cons.1 hmem with he | hmem
  · exact hnd.1 (he ▸ List.mem_map_of_mem hg)
  · exact hseen g (List.mem_cons_of_mem f hg) hmem

/-- Members of different fields are taken up one by one from a text. -/
theorem membersRead (h : RecordMembers room fields a ms b) (hall : (all.map Field.name).Nodup)
    (hsub : ∀ f ∈ fields, f ∈ all) (hnd : (fields.map Field.name).Nodup) {seen : List String}
    (hseen : ∀ f ∈ fields, f.name ∉ seen) (layout : Layout) (depth : Nat) :
    MembersRead (readMember room all) layout depth ⟨a, seen⟩ ms
      ⟨b, (ms.map Prod.fst).reverse ++ seen⟩ := by
  induction h generalizing seen with
  | nil a => exact .nil _
  | @present f fields a b j set ms hj _ ih =>
    obtain ⟨hf, hsub⟩ := List.forall_mem_cons.1 hsub
    have hnext := notMem_seen_cons hnd hseen
    have hfseen := hseen f List.mem_cons_self
    rw [List.map_cons, List.nodup_cons] at hnd
    have htail := ih hsub hnd.2 hnext
    rw [List.map_cons, List.reverse_cons, List.append_assoc, List.singleton_append]
    refine .cons (fun rest hrest ↦ ?_) htail
    rw [readMember, find?_name_eq hall hf]
    simp only [List.contains_eq_mem, hfseen, decide_false, Bool.false_eq_true, if_false]
    exact hj.run_afterColon _ layout depth hrest
  | absent _ _ ih =>
    exact ih (List.forall_mem_cons.1 hsub).2 (List.nodup_cons.1 hnd).2
      (List.forall_mem_cons.1 hseen).2

/-- Members of different fields are taken up one by one from a value. -/
theorem fillMembers_eq (h : RecordMembers room fields a ms b) (hall : (all.map Field.name).Nodup)
    (hsub : ∀ f ∈ fields, f ∈ all) (hnd : (fields.map Field.name).Nodup) {seen : List String}
    (hseen : ∀ f ∈ fields, f.name ∉ seen) (origin : Origin) :
    fillMembers origin all ⟨a, seen⟩ ms = .ok ⟨b, (ms.map Prod.fst).reverse ++ seen⟩ := by
  induction h generalizing seen with
  | nil a => rfl
  | @present f fields a b j set ms hj _ ih =>
    obtain ⟨hf, hsub⟩ := List.forall_mem_cons.1 hsub
    have hnext := notMem_seen_cons hnd hseen
    have hfseen := hseen f List.mem_cons_self
    rw [List.map_cons, List.nodup_cons] at hnd
    rw [List.map_cons, List.reverse_cons, List.append_assoc, List.singleton_append,
      fillMembers, find?_name_eq hall hf]
    simp only [List.contains_eq_mem, hfseen, decide_false, Bool.false_eq_true, if_false,
      hj.fromValue origin]
    exact ih hsub hnd.2 hnext
  | absent _ _ ih =>
    exact ih (List.forall_mem_cons.1 hsub).2 (List.nodup_cons.1 hnd).2
      (List.forall_mem_cons.1 hseen).2

/-- The record is complete behind its members. -/
theorem finish_eq (h : RecordMembers room fields a ms b) :
    Filling.finish fields ⟨b, (ms.map Prod.fst).reverse ++ []⟩ = .ok b := by
  have hnone : (fields.find? fun f ↦
      f.isRequired && !((ms.map Prod.fst).reverse ++ []).contains f.name) = none := by
    refine List.find?_eq_none.2 fun f hf hr ↦ ?_
    rw [Bool.and_eq_true] at hr
    have hmem := h.name_mem_of_isRequired f hf hr.1
    simp only [List.append_nil, List.contains_eq_mem, List.mem_reverse, decide_eq_true hmem,
      Bool.not_true, Bool.false_eq_true, and_false] at hr
  simp only [Filling.finish, hnone]

end RecordMembers

/-- **A record is restored** from its members. -/
theorem restores_record {title : String} {blank : α} {fields : List (Field α)}
    {ms : List (String × Json)} (hnd : (fields.map Field.name).Nodup)
    (h : RecordMembers room fields blank ms a) :
    (record title blank fields).Restores (room + 1) (.object ms) a where
  fits := .object h.fits
  ignoresGap := by
    dsimp only [record]
    exact Reader.ignoresGap_value _ _ _
  reads layout depth rest _ := by
    have hseen : ∀ f ∈ fields, f.name ∉ ([] : List String) := fun _ _ ↦ List.not_mem_nil
    have hread := h.membersRead hnd (fun _ hf ↦ hf) hnd hseen layout (depth + 1)
    obtain ⟨cs, hcs, hfold⟩ := foldMembers_write hread rest
    rw [hcs]
    show (readRecord room blank fields).run cs = _
    simp only [readRecord, hfold, h.finish_eq]
  fromValue origin := by
    have hseen : ∀ f ∈ fields, f.name ∉ ([] : List String) := fun _ _ ↦ List.not_mem_nil
    have hfill := h.fillMembers_eq hnd (fun _ hf ↦ hf) hnd hseen origin
    simp only [record, hfill, h.finish_eq]

/-! ### Cases -/

theorem ignoresGap_choice (cases : List (Case α)) :
    ((choice cases).fromText room).IgnoresGap := by
  intro gap hgap cs
  simp only [choice, skipGap_append hgap]

/-- **A case without a value** is restored by its name. -/
theorem restores_bare {cases : List (Case α)} {name : String}
    (h : findCase cases name = .ok (.bare name a)) :
    (choice cases).Restores room (.string name) a where
  fits := .plain rfl
  ignoresGap := ignoresGap_choice cases
  reads layout depth rest _ := by
    have htext : write layout depth (.string name) ++ rest =
        '"' :: (name.toList.flatMap escapedChar ++ '"' :: rest) := stringText_append name rest
    rw [htext]
    show readAlone cases _ = _
    rw [readAlone, scanString_flatMap]
    simp only [String.ofList_toList, h, Case.alone]
  fromValue origin := by simp only [choice, h, Case.alone]

/-- **A case with a value** is restored by its name, if its value is. -/
theorem restores_carrying {cases : List (Case α)} {name : String}
    (h : findCase cases name = .ok (.carrying name d)) (hd : d.Restores room j a) :
    (choice cases).Restores (room + 1) (.object [(name, j)]) a where
  fits := .object (List.forall_mem_singleton.2 hd.fits)
  ignoresGap := ignoresGap_choice cases
  reads layout depth rest _ := by
    have hgap (n : Nat) : ∀ c ∈ layout.gap n, isGap c = true := fun _ ↦ isGap_of_mem_gap
    have hcolon (cs : List Char) : endsNumber (layout.colon ++ cs) = true := by
      cases layout <;> rfl
    have hname (rest : List Char) (hrest : endsNumber rest = true) :
        (Reader.scalar (named (findCase cases)) "variant identifier").run
          (layout.gap (depth + 1) ++ (write layout depth (.string name) ++ rest)) =
        .ok (.carrying name d, rest) := by
      rw [Reader.scalar, Reader.ignoresGap_value _ _ _ _ (hgap (depth + 1))]
      exact run_value_write rfl h layout depth hrest
    have hvalue : (d.fromText room).afterColon.run
        (layout.colon ++ (write layout (depth + 1) j ++ (layout.gap depth ++ '\x7d' :: rest))) =
        .ok (a, layout.gap depth ++ '\x7d' :: rest) := by
      rw [hd.ignoresGap.run_afterColon]
      exact hd.reads layout (depth + 1) _ (endsNumber_append (hgap depth) rfl)
    -- the text falls into the name, the colon, the value and the end
    have htext : write layout depth (.object [(name, j)]) ++ rest =
        '\x7b' :: (layout.gap (depth + 1) ++ (write layout depth (.string name) ++ (layout.colon ++
          (write layout (depth + 1) j ++ (layout.gap depth ++ '\x7d' :: rest))))) := by
      simp only [write, writeMembers, List.cons_append, List.append_assoc, List.nil_append]
    rw [htext]
    show (readCase room cases).run _ = _
    simp only [readCase, hname _ (hcolon _), Case.fromText, hvalue,
      skipGap_append_cons (hgap depth) (show isGap '\x7d' = false by decide)]
  fromValue origin := by
    simp only [choice, h, Case.fromValue]
    exact hd.fromValue origin

/-- A name in a list of names is restored, if the names differ. -/
theorem restores_names {values : List (String × α)} {name : String}
    (hfind : values.find? (fun v ↦ v.1 == name) = some (name, a)) :
    (names values).Restores room (.string name) a := by
  refine restores_bare ?_
  rw [findCase, List.find?_map]
  have hcomp : (fun c : Case α ↦ c.name == name) ∘ (fun v : String × α ↦ Case.bare v.1 v.2) =
      fun v ↦ v.1 == name := rfl
  rw [hcomp, hfind]
  rfl

/-! ### Tagged records -/

/-- The members behind the tag are kept for later. -/
theorem membersRead_tagged {key : String} {cases : List (String × Decoder α)}
    {ms : List (String × Json)} (hkey : key ∉ ms.map Prod.fst) (hfits : ∀ m ∈ ms, m.2.Fits room)
    (decoder : Option (Decoder α)) (kept : List (String × Json)) (layout : Layout) (depth : Nat) :
    MembersRead (readTagged room key cases) layout depth ⟨decoder, kept⟩ ms
      ⟨decoder, ms.reverse ++ kept⟩ := by
  induction ms generalizing kept with
  | nil => exact .nil _
  | cons m ms ih =>
    obtain ⟨hm, hfits⟩ := List.forall_mem_cons.1 hfits
    rw [List.map_cons, List.mem_cons, not_or] at hkey
    rw [List.reverse_cons, List.append_assoc, List.singleton_append]
    refine .cons (fun rest hrest ↦ ?_) (ih hkey.2 hfits (m :: kept))
    have hne : (m.1 == key) = false := by simpa using Ne.symm hkey.1
    rw [readTagged, hne, if_neg Bool.false_ne_true,
      ((Reader.ignoresGap_json room).map _).run_afterColon]
    exact run_map_of_ok _ (run_json_write hm layout depth hrest)

theorem splitTag_of_notMem {key : String} {cases : List (String × Decoder α)}
    {ms : List (String × Json)} (hkey : key ∉ ms.map Prod.fst) (decoder : Option (Decoder α))
    (kept : List (String × Json)) :
    splitTag key cases ⟨decoder, kept⟩ ms = .ok ⟨decoder, ms.reverse ++ kept⟩ := by
  induction ms generalizing kept with
  | nil => rfl
  | cons m ms ih =>
    rw [List.map_cons, List.mem_cons, not_or] at hkey
    have hne : (m.1 == key) = false := by simpa using Ne.symm hkey.1
    rw [splitTag, hne, if_neg Bool.false_ne_true, ih hkey.2, List.reverse_cons,
      List.append_assoc, List.singleton_append]

theorem forall_mem_of_fits_object {ms : List (String × Json)}
    (h : (Json.object ms).Fits (room + 1)) : ∀ m ∈ ms, m.2.Fits room := by
  cases h with
  | plain hv => cases hv
  | object h => exact h

/-- **A tagged record is restored** by its tag, if the decoder of its case restores it from its
other members. -/
theorem restores_tagged {key title tag : String} {cases : List (String × Decoder α)}
    (htag : findTagged cases tag = .ok d) {ms : List (String × Json)}
    (hkey : key ∉ ms.map Prod.fst) (hd : d.Restores (room + 1) (.object ms) a) :
    (tagged key title cases).Restores (room + 1) (.object ((key, .string tag) :: ms)) a where
  fits := .object (List.forall_mem_cons.2 ⟨.plain rfl, forall_mem_of_fits_object hd.fits⟩)
  ignoresGap := by
    dsimp only [tagged]
    exact Reader.ignoresGap_value _ _ _
  reads layout depth rest _ := by
    have hread : MembersRead (readTagged room key cases) layout (depth + 1) ⟨none, []⟩
        ((key, .string tag) :: ms) ⟨some d, ms.reverse ++ []⟩ := by
      refine .cons (fun rest hrest ↦ ?_)
        (membersRead_tagged hkey (forall_mem_of_fits_object hd.fits) (some d) [] layout (depth + 1))
      have htagged : (scalar "variant identifier" (named (findTagged cases))).Restores room
          (.string tag) d := restores_scalar rfl htag
      rw [readTagged, beq_self_eq_true, if_pos rfl]
      exact htagged.run_afterColon _ layout (depth + 1) hrest
    obtain ⟨cs, hcs, hfold⟩ := foldMembers_write hread rest
    rw [hcs]
    show (readTaggedObject room key cases).run cs = _
    simp only [readTaggedObject, hfold, List.append_nil, List.reverse_reverse, hd.fromValue]
  fromValue origin := by
    have hsplit : splitTag key cases ⟨none, []⟩ ((key, .string tag) :: ms) =
        .ok ⟨some d, ms.reverse ++ []⟩ := by
      rw [splitTag, beq_self_eq_true, if_pos rfl]
      simp only [Option.isSome_none, Bool.false_eq_true, if_false, named, htag]
      exact splitTag_of_notMem hkey (some d) []
    simp only [tagged, hsplit, List.append_nil, List.reverse_reverse, hd.fromValue]

end Decoder

end Json

end ToolSchema
