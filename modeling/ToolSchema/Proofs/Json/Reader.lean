import ToolSchema.Json.Decoder
import ToolSchema.Proofs.Json.Scanner

/-!
# Reading what was printed

A printed value is read back wherever it stands in a text, if what follows does not go on like a
number. This is stated for a decoder and a value at a time (`Decoder.Reads`), because a list only
asks its items for this much (`Decoder.reads_list`): in whatever layout it is printed, the loop over
its items meets one item after the other and then the bracket that ends it (`foldItems_flatMap`).

Values without parts that are no doubles are read back as they stand (`run_value_write`). Doubles
are left out: that the shortest numeral of a double is read back as that double is no matter of
scanning.
-/

namespace ToolSchema

/-- A string, a truth value or an integer. -/
def Json.isPlain : Json → Bool
  | .string _ | .bool _ | .number (.integer _) => true
  | _ => false

namespace Json

/-! ### Values without parts -/

/-- The first character of a text can be that of an item of a list. -/
def startsItem : List Char → Bool
  | c :: _ => !isGap c && c != ']'
  | [] => false

theorem exists_cons_of_startsItem {cs : List Char} (h : startsItem cs = true) :
    ∃ c rest, cs = c :: rest ∧ isGap c = false ∧ c ≠ ']' := by
  rcases cs with - | ⟨c, rest⟩
  · cases h
  · simp only [startsItem, Bool.and_eq_true, Bool.not_eq_true', bne_iff_ne] at h
    exact ⟨c, rest, rfl, h.1, h.2⟩

theorem startsItem_append {cs : List Char} (h : startsItem cs = true) (ds : List Char) :
    startsItem (cs ++ ds) = true := by
  obtain ⟨c, rest, rfl, -⟩ := exists_cons_of_startsItem h
  exact h

/-- A value that starts with a digit is a number. -/
theorem scanScalar_of_isDigit {c : Char} (h : isDigit c = true) {cs rest : List Char} {n : Number}
    (hscan : scanNumber false (c :: cs) = .ok (n, rest)) :
    Reader.scanScalar c cs = .ok (.number n, rest) := by
  unfold Reader.scanScalar
  split
  iterate 5 exact absurd h (by decide)
  rw [if_pos h, hscan]

theorem not_isGap_of_isDigit {c : Char} (h : isDigit c = true) : isGap c = false := by
  rw [isGap]
  simp only [Bool.or_eq_false_iff, beq_eq_false_iff_ne]
  refine ⟨⟨⟨?_, ?_⟩, ?_⟩, ?_⟩ <;> exact fun hc ↦ absurd (hc ▸ h) (by decide)

/-- **A printed value without parts** begins with a character that tells it from a list, an object
and the end of a list, and is scanned from there on. -/
theorem exists_scanScalar_write {v : Json} (hv : v.isPlain = true) (layout : Layout)
    (depth : Nat) :
    ∃ c cs, write layout depth v = c :: cs ∧ isGap c = false ∧ c ≠ ']' ∧ c ≠ '[' ∧ c ≠ '\x7b' ∧
      ∀ rest, endsNumber rest = true → Reader.scanScalar c (cs ++ rest) = .ok (v, rest) := by
  cases v with
  | bool b =>
    cases b with
    | true => exact ⟨'t', _, rfl, rfl, by decide, by decide, by decide, fun _ _ ↦ rfl⟩
    | false => exact ⟨'f', _, rfl, rfl, by decide, by decide, by decide, fun _ _ ↦ rfl⟩
  | string s =>
    refine ⟨'"', s.toList.flatMap escapedChar ++ ['"'], rfl, rfl, by decide, by decide, by decide,
      fun rest _ ↦ ?_⟩
    rw [Reader.scanScalar, List.append_assoc, List.singleton_append, scanString_flatMap]
    simp only [String.ofList_toList]
  | number n =>
    cases n with
    | double => cases hv
    | integer i =>
      rcases i with ⟨value, lower, upper⟩
      cases value with
      | ofNat n =>
        -- without a sign the first character is a digit, and so no other mark of a value
        obtain ⟨c, cs, hcs⟩ := List.exists_cons_of_ne_nil (decimalDigits_ne_nil n)
        have hc : isDigit c = true :=
          isDigit_of_mem_decimalDigits (hcs ▸ List.mem_cons_self)
        have hn : n < UInt64.size := by
          have : UInt64.size = 18446744073709551616 := rfl
          have : (Int.ofNat n) = (n : Int) := rfl
          omega
        refine ⟨c, cs, hcs, not_isGap_of_isDigit hc, ?_, ?_, ?_, fun rest hrest ↦ ?_⟩
        iterate 3 exact fun h ↦ absurd (h ▸ hc) (by decide)
        refine scanScalar_of_isDigit hc ?_
        rw [← List.cons_append, ← hcs, scanNumber_decimalDigits hn hrest]
        exact signedNumber_eq_ok false n _ rfl nofun rest
      | negSucc n =>
        refine ⟨'-', _, rfl, rfl, by decide, by decide, by decide, fun rest hrest ↦ ?_⟩
        have hn : n + 1 < UInt64.size := by
          have : UInt64.size = 18446744073709551616 := rfl
          have : Int.negSucc n = -((n : Int) + 1) := rfl
          omega
        rw [Reader.scanScalar, scanNumber_decimalDigits hn hrest,
          signedNumber_eq_ok true (n + 1) ⟨.negSucc n, lower, upper⟩ rfl fun _ ↦ Nat.succ_ne_zero n]
  | _ => cases hv

/-- A value without parts is read by every reader that accepts it. -/
theorem run_value_write {α : Type} {accept : Json → Except Mismatch α} {list object : Reader α}
    {v : Json} (hv : v.isPlain = true) {a : α} (ha : accept v = .ok a) (layout : Layout)
    (depth : Nat) {rest : List Char} (hrest : endsNumber rest = true) :
    (Reader.value accept list object).run (write layout depth v ++ rest) = .ok (a, rest) := by
  obtain ⟨c, cs, hcs, hgap, -, hlist, hobject, hscan⟩ := exists_scanScalar_write hv layout depth
  have hskip : skipGap (c :: (cs ++ rest)) = c :: (cs ++ rest) :=
    List.dropWhile_cons_of_neg (by simp [hgap])
  simp only [hcs, List.cons_append, Reader.value, hskip, if_neg hlist, if_neg hobject,
    hscan rest hrest, ha]

theorem run_map_of_ok {α β : Type} {r : Reader α} {cs rest : List Char} {v : α} (f : α → β)
    (h : r.run cs = .ok (v, rest)) : (r.map f).run cs = .ok (f v, rest) := by
  simp only [Reader.map, h]

/-! ### Items -/

theorem skipGap_append {gap : List Char} (h : ∀ c ∈ gap, isGap c = true) (cs : List Char) :
    skipGap (gap ++ cs) = skipGap cs :=
  List.dropWhile_append_of_pos h

theorem skipGap_of_startsItem {cs : List Char} (h : startsItem cs = true) : skipGap cs = cs := by
  obtain ⟨c, rest, rfl, hc, -⟩ := exists_cons_of_startsItem h
  exact List.dropWhile_cons_of_neg (by simp [hc])

variable {gap : List Char}

theorem nextItem_first (hgap : ∀ c ∈ gap, isGap c = true) {cs : List Char}
    (h : startsItem cs = true) : nextItem true (gap ++ cs) = .ok (.item cs) := by
  rw [nextItem, skipGap_append hgap, skipGap_of_startsItem h]
  obtain ⟨c, rest, rfl, -, hc⟩ := exists_cons_of_startsItem h
  split
  · next he => cases he
  · next he => exact absurd (List.cons.inj he).1 hc
  · next he =>
    obtain ⟨rfl, rfl⟩ := List.cons.inj he
    rfl

theorem nextItem_comma (hgap : ∀ c ∈ gap, isGap c = true) {cs : List Char}
    (h : startsItem cs = true) : nextItem false (',' :: (gap ++ cs)) = .ok (.item cs) := by
  have hskip : skipGap (',' :: (gap ++ cs)) = ',' :: (gap ++ cs) :=
    List.dropWhile_cons_of_neg (by decide)
  have hnext : skipGap (gap ++ cs) = cs := by
    rw [skipGap_append hgap, skipGap_of_startsItem h]
  obtain ⟨c, rest, rfl, -, hc⟩ := exists_cons_of_startsItem h
  rw [nextItem, hskip]
  split
  · next he => cases he
  · next he => exact absurd (List.cons.inj he).1 (by decide)
  · next he =>
    obtain ⟨rfl, rfl⟩ := List.cons.inj he
    rw [if_neg Bool.false_ne_true, if_pos rfl, hnext]
    split
    · next he => cases he
    · next he => exact absurd (List.cons.inj he).1 hc
    · next he =>
      obtain ⟨rfl, rfl⟩ := List.cons.inj he
      rfl

theorem nextItem_end (hgap : ∀ c ∈ gap, isGap c = true) (first : Bool) (rest : List Char) :
    nextItem first (gap ++ ']' :: rest) = .ok (.done rest) := by
  have hskip : skipGap (']' :: rest) = ']' :: rest := List.dropWhile_cons_of_neg (by decide)
  simp only [nextItem, skipGap_append hgap, hskip]

theorem endsNumber_gap_append (hgap : ∀ c ∈ gap, isGap c = true) (rest : List Char) :
    endsNumber (gap ++ ']' :: rest) = true := by
  rcases gap with - | ⟨c, gap⟩
  · rfl
  · have hc := hgap c List.mem_cons_self
    simp only [isGap, Bool.or_eq_true, beq_iff_eq] at hc
    rcases hc with ((rfl | rfl) | rfl) | rfl <;> rfl

section Items

variable {α σ : Type} {item : σ → Reader σ} {next : σ → α → σ} {text : α → List Char}
  {close : List Char}

/-- Behind an item of a list stands the comma before the next one, or the end. -/
theorem endsNumber_items (hclose : ∀ c ∈ close, isGap c = true) (vs : List α)
    (rest : List Char) :
    endsNumber ((vs.flatMap fun v ↦ ',' :: (gap ++ text v)) ++ (close ++ ']' :: rest)) = true := by
  rcases vs with - | ⟨v, vs⟩
  · exact endsNumber_gap_append hclose rest
  · rfl

theorem foldItems_of_item {first : Bool} {acc acc' : σ} {cs rest rest' : List Char}
    (hstep : nextItem first cs = .ok (.item rest))
    (hrun : (item acc).run rest = .ok (acc', rest')) :
    foldItems item first acc cs = foldItems item false acc' rest' := by
  rw [foldItems.eq_def]
  split
  · next h => rw [hstep] at h; cases h
  · next h => rw [hstep] at h; cases h
  · next h =>
    rw [hstep] at h
    cases h
    split
    · next h => rw [hrun] at h; cases h
    · next h =>
      rw [hrun] at h
      cases h
      rfl

theorem foldItems_of_done {first : Bool} {cs rest : List Char}
    (hstep : nextItem first cs = .ok (.done rest)) (acc : σ) :
    foldItems item first acc cs = .ok (acc, rest) := by
  rw [foldItems.eq_def]
  split
  · next h => rw [hstep] at h; cases h
  · next h =>
    rw [hstep] at h
    cases h
    rfl
  · next h => rw [hstep] at h; cases h

/-- **The items behind the first one** are read one after the other, up to the end of the list. -/
theorem foldItems_flatMap (hgap : ∀ c ∈ gap, isGap c = true) (hclose : ∀ c ∈ close, isGap c = true)
    {vs : List α} (hstart : ∀ v ∈ vs, startsItem (text v) = true)
    (hread : ∀ v ∈ vs, ∀ acc rest, endsNumber rest = true →
      (item acc).run (text v ++ rest) = .ok (next acc v, rest))
    (acc : σ) (rest : List Char) :
    foldItems item false acc
        ((vs.flatMap fun v ↦ ',' :: (gap ++ text v)) ++ (close ++ ']' :: rest)) =
      .ok (vs.foldl next acc, rest) := by
  induction vs generalizing acc with
  | nil =>
    rw [List.flatMap_nil, List.nil_append]
    exact foldItems_of_done (nextItem_end hclose false rest) acc
  | cons v vs ih =>
    obtain ⟨hv, hstart⟩ := List.forall_mem_cons.1 hstart
    obtain ⟨hreadv, hread⟩ := List.forall_mem_cons.1 hread
    have hends :
        endsNumber ((vs.flatMap fun v ↦ ',' :: (gap ++ text v)) ++ (close ++ ']' :: rest)) = true :=
      endsNumber_items hclose vs rest
    -- what stands behind the next item matters only in that the item ends there
    generalize hlast : (vs.flatMap fun v ↦ ',' :: (gap ++ text v)) ++ (close ++ ']' :: rest) = last
      at ih hends
    have hcs : ((v :: vs).flatMap fun v ↦ ',' :: (gap ++ text v)) ++ (close ++ ']' :: rest) =
        ',' :: (gap ++ (text v ++ last)) := by
      rw [List.flatMap_cons, List.append_assoc, hlast, List.cons_append, List.append_assoc]
    rw [hcs, foldItems_of_item (nextItem_comma hgap (startsItem_append hv last))
      (hreadv acc last hends)]
    exact ih hstart hread (next acc v)

/-- **The items of a list** behind its opening bracket. -/
theorem foldItems_list (hgap : ∀ c ∈ gap, isGap c = true) (hclose : ∀ c ∈ close, isGap c = true)
    {v : α} {vs : List α} (hstart : ∀ u ∈ v :: vs, startsItem (text u) = true)
    (hread : ∀ u ∈ v :: vs, ∀ acc rest, endsNumber rest = true →
      (item acc).run (text u ++ rest) = .ok (next acc u, rest))
    (acc : σ) (rest : List Char) :
    foldItems item true acc
        (gap ++ (text v ++
          ((vs.flatMap fun v ↦ ',' :: (gap ++ text v)) ++ (close ++ ']' :: rest)))) =
      .ok ((v :: vs).foldl next acc, rest) := by
  obtain ⟨hv, hstart⟩ := List.forall_mem_cons.1 hstart
  obtain ⟨hreadv, hread⟩ := List.forall_mem_cons.1 hread
  have hends : endsNumber ((vs.flatMap fun v ↦ ',' :: (gap ++ text v)) ++ (close ++ ']' :: rest)) =
      true := endsNumber_items hclose vs rest
  rw [foldItems_of_item (nextItem_first hgap (startsItem_append hv _)) (hreadv acc _ hends)]
  exact foldItems_flatMap hgap hclose hstart hread (next acc v) rest

end Items

/-! ### Lists -/

theorem isGap_of_mem_gap {layout : Layout} {depth : Nat} {c : Char} (h : c ∈ layout.gap depth) :
    isGap c = true := by
  cases layout with
  | compact => cases h
  | pretty =>
    rcases List.mem_cons.1 h with rfl | h
    · rfl
    · rw [List.eq_of_mem_replicate h]
      rfl

theorem writeItems_eq_flatMap (layout : Layout) (depth : Nat) (js : List Json) :
    writeItems layout depth js =
      js.flatMap fun j ↦ ',' :: (layout.gap depth ++ write layout depth j) := by
  induction js with
  | nil => rw [writeItems, List.flatMap_nil]
  | cons j js ih => rw [writeItems, ih, List.flatMap_cons, List.cons_append]

/-- **The items of a printed list** behind its opening bracket. -/
theorem foldItems_write {α σ : Type} {item : σ → Reader σ} {next : σ → α → σ} {layout : Layout}
    {depth : Nat} {render : α → Json} {vs : List α}
    (hstart : ∀ v ∈ vs, startsItem (write layout (depth + 1) (render v)) = true)
    (hread : ∀ v ∈ vs, ∀ acc rest, endsNumber rest = true →
      (item acc).run (write layout (depth + 1) (render v) ++ rest) = .ok (next acc v, rest))
    (acc : σ) (rest : List Char) :
    ∃ cs, write layout depth (.array (vs.map render)) ++ rest = '[' :: cs ∧
      foldItems item true acc cs = .ok (vs.foldl next acc, rest) := by
  rcases vs with - | ⟨v, vs⟩
  · have hnone : ∀ c ∈ ([] : List Char), isGap c = true := fun c hc ↦ nomatch hc
    have hend : nextItem true (']' :: rest) = .ok (.done rest) := nextItem_end hnone true rest
    exact ⟨_, rfl, foldItems_of_done hend acc⟩
  · have hgap (n : Nat) : ∀ c ∈ layout.gap n, isGap c = true := fun _ ↦ isGap_of_mem_gap
    refine ⟨_, ?_, foldItems_list (hgap (depth + 1)) (hgap depth) hstart hread acc rest⟩
    rw [List.map_cons, write, writeItems_eq_flatMap, List.flatMap_map]
    simp only [List.cons_append, List.append_assoc, List.nil_append]

namespace Decoder

variable {α : Type}

/-- **The decoder reads a printed value**, with `room` levels left, wherever it stands. -/
def Reads (d : Decoder α) (room : Nat) (layout : Layout) (depth : Nat) (j : Json) (a : α) : Prop :=
  ∀ rest, endsNumber rest = true →
    (d.fromText room).run (write layout depth j ++ rest) = .ok (a, rest)

/-- A text that holds nothing else is read whole. -/
theorem readText_of_reads {d : Decoder α} {layout : Layout} {j : Json} {a : α}
    (h : d.Reads maxDepth layout 0 j a) : d.readText (j.text layout) = .ok a := by
  have hrun := h [] rfl
  rw [List.append_nil] at hrun
  simp only [readText, Json.text, String.toList_ofList, hrun]
  rfl

/-- Values without parts are values of their own. -/
theorem reads_any {v : Json} (hv : v.isPlain = true) (room : Nat) (layout : Layout)
    (depth : Nat) : Decoder.any.Reads room layout depth v v := by
  intro rest hrest
  have hmerged : v.merged = v := by
    cases v with
    | array => cases hv
    | object => cases hv
    | _ => rfl
  have hrun : (Reader.json room).run (write layout depth v ++ rest) = .ok (v, rest) := by
    cases room with
    | zero => exact run_value_write hv rfl layout depth hrest
    | succ room => exact run_value_write hv rfl layout depth hrest
  show ((Reader.json room).map merged).run _ = _
  rw [run_map_of_ok merged hrun, hmerged]

theorem startsItem_write {v : Json} (hv : v.isPlain = true) (layout : Layout) (depth : Nat) :
    startsItem (write layout depth v) = true := by
  obtain ⟨c, cs, hcs, hgap, hend, -⟩ := exists_scanScalar_write hv layout depth
  rw [hcs, startsItem, hgap]
  simpa using hend

/-- **A list is read back**, if its items are. -/
theorem reads_list {d : Decoder α} {room depth : Nat} {layout : Layout} {render : α → Json}
    {vs : List α} (hstart : ∀ v ∈ vs, startsItem (write layout (depth + 1) (render v)) = true)
    (hread : ∀ v ∈ vs, d.Reads room layout (depth + 1) (render v) v) :
    (list d).Reads (room + 1) layout depth (.array (vs.map render)) vs := by
  intro rest _
  have hitem : ∀ v ∈ vs, ∀ (found : List α) (rest : List Char), endsNumber rest = true →
      ((d.fromText room).map (· :: found)).run (write layout (depth + 1) (render v) ++ rest) =
        .ok (v :: found, rest) :=
    fun v hv found rest hrest ↦ run_map_of_ok (· :: found) (hread v hv rest hrest)
  obtain ⟨cs, hcs, hfold⟩ := foldItems_write hstart hitem [] rest
  -- the loop has the last item in front, and the list is turned around at its end
  rw [List.foldl_flip_cons_eq_append', List.append_nil] at hfold
  have hlist := run_map_of_ok (r := Reader.items _ []) List.reverse hfold
  rw [List.reverse_reverse] at hlist
  rw [hcs]
  exact hlist

end Decoder

/-- **A list of values without parts** is read back from its text, whatever the layout. -/
theorem readText_list_any {vs : List Json} (h : ∀ v ∈ vs, v.isPlain = true) (layout : Layout) :
    (Decoder.list .any).readText ((array vs).text layout) = .ok vs := by
  have hreads : (Decoder.list .any).Reads maxDepth layout 0 (.array (vs.map id)) vs :=
    Decoder.reads_list (fun v hv ↦ Decoder.startsItem_write (h v hv) layout 1)
      (fun v hv ↦ Decoder.reads_any (h v hv) 126 layout 1)
  rw [List.map_id] at hreads
  exact Decoder.readText_of_reads hreads

end Json

end ToolSchema
