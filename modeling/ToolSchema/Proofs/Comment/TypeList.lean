import Mathlib.Algebra.GroupWithZero.Nat
import ToolSchema.Comment.TypeList
import ToolSchema.Proofs.Text.Lines

/-!
# Lists of types

What a list of types comes apart into depends on the marks that stand outside of all brackets, as
they are counted (`freeCount`): the first closing square bracket among them ends the list, and its
commas part the types. So types that are joined by commas are listed one by one if none of them has
such a mark of its own, and only then (`splitTypeList?_joinWith_iff`).
-/

namespace ToolSchema

variable {mark : Char} {level : Nat} {cs ds type piece : List Char}
  {ts pieces : List (List Char)}

/-! ### Levels -/

/-- The number of open brackets behind a text. -/
def levelBehind (level : Nat) (cs : List Char) : Nat := cs.foldl levelAfter level

/-- How often a mark stands outside of all brackets. -/
def freeCount (mark : Char) (level : Nat) : List Char → Nat
  | [] => 0
  | c :: cs => (if c = mark ∧ level = 0 then 1 else 0) + freeCount mark (levelAfter level c) cs

theorem levelBehind_append (level : Nat) (cs ds : List Char) :
    levelBehind level (cs ++ ds) = levelBehind (levelBehind level cs) ds :=
  List.foldl_append

theorem freeCount_append (mark : Char) (level : Nat) (cs ds : List Char) :
    freeCount mark level (cs ++ ds) =
      freeCount mark level cs + freeCount mark (levelBehind level cs) ds := by
  induction cs generalizing level with
  | nil => exact (Nat.zero_add _).symm
  | cons c cs ih =>
    rw [List.cons_append, freeCount, ih, freeCount, Nat.add_assoc]
    rfl

/-- The character neither nests nor parts types. -/
def isPlainInType (c : Char) : Bool := !isOpening c && !isClosing c && c != ','

theorem levelAfter_of_plain {c : Char} (h : isPlainInType c = true) (level : Nat) :
    levelAfter level c = level := by
  simp only [isPlainInType, Bool.and_eq_true, Bool.not_eq_true'] at h
  obtain ⟨⟨hopen, hclose⟩, -⟩ := h
  simp [levelAfter, hopen, hclose]

theorem levelBehind_of_plain (h : ∀ c ∈ cs, isPlainInType c = true) (level : Nat) :
    levelBehind level cs = level := by
  induction cs with
  | nil => rfl
  | cons c cs ih =>
    obtain ⟨hc, hcs⟩ := List.forall_mem_cons.1 h
    rw [levelBehind, List.foldl_cons, levelAfter_of_plain hc]
    exact ih hcs

theorem freeCount_of_plain (h : ∀ c ∈ cs, isPlainInType c = true)
    (hmark : isPlainInType mark = false) (level : Nat) : freeCount mark level cs = 0 := by
  induction cs with
  | nil => rfl
  | cons c cs ih =>
    obtain ⟨hc, hcs⟩ := List.forall_mem_cons.1 h
    have hne : c ≠ mark := by
      rintro rfl
      exact Bool.false_ne_true (hmark.symm.trans hc)
    rw [freeCount, levelAfter_of_plain hc, ih hcs, if_neg fun hfree ↦ hne hfree.1]

/-- **The text has no free mark**: no comma and no closing square bracket in it stands outside of
all brackets. -/
def NoFreeMark (level : Nat) (cs : List Char) : Prop :=
  freeCount ',' level cs = 0 ∧ freeCount ']' level cs = 0

theorem noFreeMark_append : NoFreeMark level (cs ++ ds) ↔
    NoFreeMark level cs ∧ NoFreeMark (levelBehind level cs) ds := by
  simp only [NoFreeMark, freeCount_append, Nat.add_eq_zero_iff]
  tauto

theorem noFreeMark_cons {c : Char} : NoFreeMark level (c :: cs) ↔
    (c = ',' ∨ c = ']' → level ≠ 0) ∧ NoFreeMark (levelAfter level c) cs := by
  have hif (mark : Char) : (if c = mark ∧ level = 0 then 1 else 0) = 0 ↔
      (c = mark → level ≠ 0) := by
    simp
  simp only [NoFreeMark, freeCount, Nat.add_eq_zero_iff, hif]
  tauto

theorem noFreeMark_of_plain (h : ∀ c ∈ cs, isPlainInType c = true) (level : Nat) :
    NoFreeMark level cs :=
  ⟨freeCount_of_plain h rfl level, freeCount_of_plain h rfl level⟩

/-! ### Where a list ends -/

/-- A text without a free bracket is passed on the way to the end of the list. -/
theorem splitAtClose_append (h : freeCount ']' level cs = 0) (ds : List Char) :
    splitAtClose level (cs ++ ds) =
      (splitAtClose (levelBehind level cs) ds).map fun (inner, after) ↦ (cs ++ inner, after) := by
  induction cs generalizing level with
  | nil =>
    rw [List.nil_append]
    exact Option.map_id'.symm
  | cons c cs ih =>
    rw [freeCount, Nat.add_eq_zero_iff] at h
    have hopen : ¬ (c = ']' ∧ level = 0) := fun hfree ↦ by simp [hfree] at h
    rw [List.cons_append, splitAtClose, if_neg (by simpa using hopen), ih h.2, Option.map_map]
    rfl

/-- A free bracket ends the list, whatever stands behind the text. -/
theorem exists_splitAtClose_append (h : freeCount ']' level cs ≠ 0) :
    ∃ inner more, ∀ ds, splitAtClose level (cs ++ ds) = some (inner, more ++ ds) := by
  induction cs generalizing level with
  | nil => exact absurd rfl h
  | cons c cs ih =>
    by_cases hfree : c = ']' ∧ level = 0
    · exact ⟨[], cs, fun ds ↦ by rw [List.cons_append, splitAtClose, if_pos (by simpa using hfree)]⟩
    · rw [freeCount, if_neg hfree, Nat.zero_add] at h
      obtain ⟨inner, more, hsplit⟩ := ih h
      refine ⟨c :: inner, more, fun ds ↦ ?_⟩
      rw [List.cons_append, splitAtClose, if_neg (by simpa using hfree), hsplit, Option.map_some]

/-- A text without a free bracket is all of a list. -/
theorem splitTypeList?_eq (hfree : freeCount ']' 0 cs = 0) (hlevel : levelBehind 0 cs = 0)
    (rest : List Char) :
    splitTypeList? ('[' :: (cs ++ ']' :: rest)) = some (listedTypes cs, trimStart rest) := by
  rw [splitTypeList?, splitAtClose_append hfree, hlevel, splitAtClose, if_pos (by decide)]
  simp only [Option.map_some, List.append_nil]

/-! ### Where the types are parted -/

/-- A text without a free comma belongs to one piece. -/
theorem splitAtCommas_append (h : freeCount ',' level cs = 0)
    (hds : splitAtCommas (levelBehind level cs) ds = piece :: pieces) :
    splitAtCommas level (cs ++ ds) = (cs ++ piece) :: pieces := by
  induction cs generalizing level with
  | nil => exact hds
  | cons c cs ih =>
    rw [freeCount, Nat.add_eq_zero_iff] at h
    have hopen : ¬ (c = ',' ∧ level = 0) := fun hfree ↦ by simp [hfree] at h
    rw [List.cons_append, splitAtCommas, if_neg (by simpa using hopen), ih h.2 hds]
    rfl

/-- Every free comma makes one more piece. -/
theorem length_splitAtCommas (level : Nat) (cs : List Char) :
    (splitAtCommas level cs).length = freeCount ',' level cs + 1 := by
  induction cs generalizing level with
  | nil => rfl
  | cons c cs ih =>
    rw [splitAtCommas, freeCount]
    split
    · next h =>
      obtain ⟨rfl, rfl⟩ : c = ',' ∧ level = 0 := by simpa using h
      have hlevel : levelAfter 0 ',' = 0 := rfl
      rw [List.length_cons, ih, if_pos ⟨rfl, rfl⟩, hlevel]
      omega
    · next h =>
      have hih := ih (levelAfter level c)
      rw [if_neg (by simpa using h), Nat.zero_add]
      split
      · next hnil => simp [hnil] at hih
      · next hpieces => rwa [hpieces] at hih

theorem splitAtCommas_ne_nil (level : Nat) (cs : List Char) : splitAtCommas level cs ≠ [] := by
  rw [← List.length_pos_iff, length_splitAtCommas]
  exact Nat.succ_pos _

/-- The pieces make up the text. -/
theorem joinWith_splitAtCommas (level : Nat) (cs : List Char) :
    joinWith [','] (splitAtCommas level cs) = cs := by
  induction cs generalizing level with
  | nil => rfl
  | cons c cs ih =>
    rw [splitAtCommas]
    split
    · next h =>
      obtain ⟨rfl, rfl⟩ : c = ',' ∧ level = 0 := by simpa using h
      rw [joinWith_cons _ _ (splitAtCommas_ne_nil 0 cs), ih]
      rfl
    · have hih := ih (levelAfter level c)
      split
      · next hnil => exact absurd hnil (splitAtCommas_ne_nil _ cs)
      · next piece pieces hpieces =>
        rw [joinWith_cons_head, ← hpieces, hih]

/-! ### Joined types -/

/-- What stands between two types of a list. -/
def typeGlue : List Char := [',', ' ']

theorem levelBehind_joinWith (h : ∀ t ∈ ts, levelBehind 0 t = 0) :
    levelBehind 0 (joinWith typeGlue ts) = 0 := by
  induction ts with
  | nil => rfl
  | cons t ts ih =>
    obtain ⟨ht, hts⟩ := List.forall_mem_cons.1 h
    rcases ts with - | ⟨u, us⟩
    · exact ht
    · rw [joinWith_cons _ _ (List.cons_ne_nil u us), levelBehind_append, levelBehind_append, ht]
      exact ih hts

/-- Between types every mark of the glue is free. -/
theorem freeCount_joinWith (mark : Char) (type : List Char)
    (h : ∀ t ∈ type :: ts, levelBehind 0 t = 0) :
    freeCount mark 0 (joinWith typeGlue (type :: ts)) =
      ts.length * freeCount mark 0 typeGlue + ((type :: ts).map (freeCount mark 0)).sum := by
  induction ts generalizing type with
  | nil => simp
  | cons u us ih =>
    obtain ⟨htype, hrest⟩ := List.forall_mem_cons.1 h
    have hglue : levelBehind 0 typeGlue = 0 := rfl
    rw [joinWith_cons _ _ (List.cons_ne_nil u us), freeCount_append, freeCount_append,
      levelBehind_append, htype, hglue, ih u hrest]
    simp only [List.map_cons, List.sum_cons, List.length_cons, Nat.succ_mul]
    omega

/-- Types without free commas come apart at the glue. -/
theorem splitAtCommas_joinWith (type : List Char)
    (h : ∀ t ∈ type :: ts, levelBehind 0 t = 0 ∧ freeCount ',' 0 t = 0) :
    splitAtCommas 0 (joinWith typeGlue (type :: ts)) = type :: ts.map (' ' :: ·) := by
  induction ts generalizing type with
  | nil =>
    have hnil : splitAtCommas (levelBehind 0 type) [] = [[]] := rfl
    simpa using splitAtCommas_append (h type List.mem_cons_self).2 hnil
  | cons u us ih =>
    obtain ⟨⟨hlevel, hfree⟩, hrest⟩ := List.forall_mem_cons.1 h
    -- the blank of the glue goes to the next piece
    have hblank : splitAtCommas 0 (' ' :: joinWith typeGlue (u :: us)) =
        (' ' :: u) :: us.map (' ' :: ·) := by
      have hlevel : levelAfter 0 ' ' = 0 := rfl
      rw [splitAtCommas, if_neg (by decide), hlevel, ih u hrest]
    have hglue : splitAtCommas (levelBehind 0 type) (typeGlue ++ joinWith typeGlue (u :: us)) =
        [] :: (u :: us).map (' ' :: ·) := by
      rw [hlevel]
      show [] :: splitAtCommas 0 (' ' :: joinWith typeGlue (u :: us)) = _
      rw [hblank, List.map_cons]
    rw [joinWith_cons _ _ (List.cons_ne_nil u us), List.append_assoc,
      splitAtCommas_append hfree hglue, List.append_nil]

/-- **Joined types are listed one by one**, without the blanks around them, if no comma and no
closing square bracket in them is free. -/
theorem splitTypeList?_joinWith (hne : ts ≠ []) (hlevel : ∀ t ∈ ts, levelBehind 0 t = 0)
    (htrim : ∀ t ∈ ts, trim t ≠ [])
    (hfree : ∀ t ∈ ts, NoFreeMark 0 t) (rest : List Char) :
    splitTypeList? ('[' :: (joinWith typeGlue ts ++ ']' :: rest)) =
      some (ts.map trim, trimStart rest) := by
  obtain ⟨type, us, rfl⟩ := List.exists_cons_of_ne_nil hne
  have hclose : freeCount ']' 0 (joinWith typeGlue (type :: us)) = 0 := by
    have hsum : ((type :: us).map (freeCount ']' 0)).sum = 0 :=
      List.sum_eq_zero_iff_forall_eq_nat.2 (List.forall_mem_map.2 fun t ht ↦ (hfree t ht).2)
    rw [freeCount_joinWith ']' type hlevel, hsum]
    rfl
  have hlisted : listedTypes (joinWith typeGlue (type :: us)) = (type :: us).map trim := by
    have hcommas := splitAtCommas_joinWith type fun t ht ↦ ⟨hlevel t ht, (hfree t ht).1⟩
    have hmap : (type :: us.map (' ' :: ·)).map trim = (type :: us).map trim := by
      rw [List.map_cons, List.map_map, List.map_cons]
      exact congrArg _ (List.map_congr_left fun t _ ↦ trim_cons_of_isBlank (by decide))
    rw [listedTypes, hcommas, hmap, List.filter_eq_self]
    refine List.forall_mem_map.2 fun t ht ↦ ?_
    simpa using htrim t ht
  rw [splitTypeList?_eq hclose (levelBehind_joinWith hlevel), hlisted]

/-- **A plain type in brackets** is a list of one type, without the blanks around it. -/
theorem splitTypeList?_bracketed (h : ∀ c ∈ type, isPlainInType c = true) (hne : trim type ≠ [])
    (rest : List Char) :
    splitTypeList? ('[' :: (type ++ ']' :: rest)) = some ([trim type], trimStart rest) := by
  have hjoin : joinWith typeGlue [type] = type := joinWith_singleton _ _
  have hlist := splitTypeList?_joinWith (List.cons_ne_nil type [])
    (List.forall_mem_singleton.2 (levelBehind_of_plain h 0)) (List.forall_mem_singleton.2 hne)
    (List.forall_mem_singleton.2 (noFreeMark_of_plain h 0)) rest
  rwa [hjoin] at hlist

/-! ### When they are listed one by one -/

theorem count_trimStart (h : isBlank mark = false) (cs : List Char) :
    (trimStart cs).count mark = cs.count mark := by
  obtain ⟨blanks, hblanks, hcs⟩ := exists_eq_append_trimStart cs
  have hzero : blanks.count mark = 0 :=
    List.count_eq_zero.2 fun hmem ↦ Bool.false_ne_true (h.symm.trans (hblanks mark hmem))
  conv_rhs => rw [hcs, List.count_append, hzero, Nat.zero_add]

theorem count_trim (h : isBlank mark = false) (cs : List Char) :
    (trim cs).count mark = cs.count mark := by
  obtain ⟨blanks, hblanks, hcs⟩ := exists_eq_trimEnd_append (trimStart cs)
  have hzero : blanks.count mark = 0 :=
    List.count_eq_zero.2 fun hmem ↦ Bool.false_ne_true (h.symm.trans (hblanks mark hmem))
  rw [← count_trimStart h cs, trim]
  conv_rhs => rw [hcs, List.count_append, hzero, Nat.add_zero]

theorem count_joinWith (mark : Char) (glue t : List Char) (ts : List (List Char)) :
    (joinWith glue (t :: ts)).count mark =
      ts.length * glue.count mark + ((t :: ts).map (List.count mark)).sum := by
  induction ts generalizing t with
  | nil => simp
  | cons u us ih =>
    rw [joinWith_cons _ _ (List.cons_ne_nil u us), List.count_append, List.count_append, ih]
    simp only [List.map_cons, List.sum_cons, List.length_cons, Nat.succ_mul]
    omega

/-- Empty pieces have no marks to lose. -/
theorem sum_count_filter (mark : Char) (pieces : List (List Char)) :
    ((pieces.filter fun t ↦ !t.isEmpty).map (List.count mark)).sum =
      (pieces.map (List.count mark)).sum := by
  induction pieces with
  | nil => rfl
  | cons t pieces ih =>
    rcases t with - | ⟨c, t⟩
    · simpa using ih
    · rw [List.filter_cons_of_pos rfl, List.map_cons, List.sum_cons, ih, List.map_cons,
        List.sum_cons]

/-- The types that are listed have the commas that part no two of them. -/
theorem sum_count_listedTypes (inner : List Char) :
    ((listedTypes inner).map (List.count ',')).sum + freeCount ',' 0 inner = inner.count ',' := by
  obtain ⟨piece, pieces, hpieces⟩ := List.exists_cons_of_ne_nil (splitAtCommas_ne_nil 0 inner)
  have hlength : pieces.length = freeCount ',' 0 inner := by
    have h := length_splitAtCommas 0 inner
    rw [hpieces, List.length_cons] at h
    omega
  have hcount : ((piece :: pieces).map trim).map (List.count ',') =
      (piece :: pieces).map (List.count ',') := by
    rw [List.map_map]
    exact List.map_congr_left fun t _ ↦ count_trim (by decide) t
  have hinner := joinWith_splitAtCommas 0 inner
  rw [hpieces] at hinner
  rw [← hinner, count_joinWith, hinner, listedTypes, hpieces, sum_count_filter, hcount, hlength]
  have hone : [','].count ',' = 1 := rfl
  rw [hone]
  omega

/-- **Joined types are listed one by one** exactly if no comma and no closing square bracket in them
is free. -/
theorem splitTypeList?_joinWith_iff (hne : ts ≠ []) (hlevel : ∀ t ∈ ts, levelBehind 0 t = 0)
    (htrim : ∀ t ∈ ts, trim t ≠ []) (rest : List Char) :
    splitTypeList? ('[' :: (joinWith typeGlue ts ++ ']' :: rest)) =
        some (ts.map trim, trimStart rest) ↔
      ∀ t ∈ ts, NoFreeMark 0 t := by
  refine ⟨fun h ↦ ?_, fun h ↦ splitTypeList?_joinWith hne hlevel htrim h rest⟩
  obtain ⟨type, us, rfl⟩ := List.exists_cons_of_ne_nil hne
  have hclose : freeCount ']' 0 (joinWith typeGlue (type :: us)) = 0 := by
    by_contra hfree
    -- the list ends too early, and what is left of it stands in the text behind it
    obtain ⟨inner, more, hsplit⟩ := exists_splitAtClose_append hfree
    rw [splitTypeList?, hsplit, Option.map_some] at h
    have hrest : trimStart (more ++ ']' :: rest) = trimStart rest :=
      (Prod.mk.inj (Option.some.inj h)).2
    have hcount := congrArg (List.count ']') hrest
    rw [count_trimStart (by decide), count_trimStart (by decide), List.count_append,
      List.count_cons_self] at hcount
    omega
  have hlisted : listedTypes (joinWith typeGlue (type :: us)) = (type :: us).map trim := by
    rw [splitTypeList?_eq hclose (levelBehind_joinWith hlevel)] at h
    exact (Prod.mk.inj (Option.some.inj h)).1
  have hsum (mark : Char) := freeCount_joinWith mark type hlevel
  have hcommas : ((type :: us).map (freeCount ',' 0)).sum = 0 := by
    have hcount := sum_count_listedTypes (joinWith typeGlue (type :: us))
    have htrimmed : ((type :: us).map trim).map (List.count ',') =
        (type :: us).map (List.count ',') := by
      rw [List.map_map]
      exact List.map_congr_left fun t _ ↦ count_trim (by decide) t
    have hglue : typeGlue.count ',' = 1 ∧ freeCount ',' 0 typeGlue = 1 := ⟨rfl, rfl⟩
    rw [hlisted, htrimmed, hsum, count_joinWith, hglue.1, hglue.2] at hcount
    omega
  have hbrackets : ((type :: us).map (freeCount ']' 0)).sum = 0 := by
    have hglue : freeCount ']' 0 typeGlue = 0 := rfl
    have hbracket := hsum ']'
    rw [hclose, hglue] at hbracket
    omega
  intro t ht
  exact ⟨List.sum_eq_zero_iff_forall_eq_nat.1 hcommas _ (List.mem_map_of_mem ht),
    List.sum_eq_zero_iff_forall_eq_nat.1 hbrackets _ (List.mem_map_of_mem ht)⟩

/-! ### What can be listed -/

/-- **A type as lists have it**: not empty, without blanks at its ends, with no free mark, and with
as many brackets closed as are opened, as they are counted. -/
structure IsListedType (type : List Char) : Prop where
  ne_nil : type ≠ []
  trim_eq : trim type = type
  level : levelBehind 0 type = 0
  noFreeMark : NoFreeMark 0 type

theorem isPlainInType_of_isBlank {c : Char} (h : isBlank c = true) : isPlainInType c = true := by
  by_contra hplain
  simp only [isPlainInType, isOpening, isClosing, Bool.and_eq_true, Bool.not_eq_true',
    Bool.or_eq_false_iff, beq_eq_false_iff_ne, bne_iff_ne, ne_eq, not_and_or, not_not] at hplain
  rcases hplain with ((((rfl | rfl) | rfl) | rfl) | (((rfl | rfl) | rfl) | rfl)) | rfl <;>
    exact absurd h (by decide)

/-- Blanks at the ends of a text nest nothing and part nothing. -/
theorem levelBehind_trim (level : Nat) (cs : List Char) :
    levelBehind level (trim cs) = levelBehind level cs := by
  obtain ⟨before, hbefore, hcs⟩ := exists_eq_append_trimStart cs
  obtain ⟨after, hafter, htrim⟩ := exists_eq_trimEnd_append (trimStart cs)
  have hplain {blanks : List Char} (h : ∀ c ∈ blanks, isBlank c = true) (level : Nat) :
      levelBehind level blanks = level :=
    levelBehind_of_plain (fun c hc ↦ isPlainInType_of_isBlank (h c hc)) level
  conv_rhs => rw [hcs, levelBehind_append, hplain hbefore, htrim, levelBehind_append, hplain hafter]
  rfl

theorem noFreeMark_trim (h : NoFreeMark level cs) : NoFreeMark level (trim cs) := by
  obtain ⟨before, hbefore, hcs⟩ := exists_eq_append_trimStart cs
  obtain ⟨after, hafter, htrim⟩ := exists_eq_trimEnd_append (trimStart cs)
  have hplain : levelBehind level before = level :=
    levelBehind_of_plain (fun c hc ↦ isPlainInType_of_isBlank (hbefore c hc)) level
  rw [hcs, noFreeMark_append, hplain, htrim, noFreeMark_append] at h
  exact h.2.1

/-- **Where a list has ended**, a bracket stands outside of all others, and it is the first. -/
theorem of_splitAtClose {inner after : List Char}
    (h : splitAtClose level cs = some (inner, after)) :
    inner ++ ']' :: after = cs ∧ freeCount ']' level inner = 0 ∧ levelBehind level inner = 0 := by
  induction cs generalizing level inner with
  | nil => exact nomatch h
  | cons c cs ih =>
    rw [splitAtClose] at h
    split at h
    · next hfree =>
      obtain ⟨rfl, rfl⟩ : c = ']' ∧ level = 0 := by simpa using hfree
      obtain ⟨rfl, rfl⟩ := Prod.mk.inj (Option.some.inj h)
      exact ⟨rfl, rfl, rfl⟩
    · next hfree =>
      obtain ⟨⟨inner', after'⟩, hsplit, heq⟩ := Option.map_eq_some_iff.1 h
      obtain ⟨rfl, rfl⟩ := Prod.mk.inj heq
      obtain ⟨hcs, hcount, hlevel⟩ := ih hsplit
      refine ⟨by rw [List.cons_append, hcs], ?_, hlevel⟩
      rw [freeCount, if_neg (by simpa using hfree), hcount]

/-- **The pieces of a list** have no free mark, and close what they open. -/
theorem of_splitAtCommas (h : splitAtCommas level cs = piece :: pieces)
    (hclose : freeCount ']' level cs = 0) (hlevel : levelBehind level cs = 0) :
    (NoFreeMark level piece ∧ levelBehind level piece = 0) ∧
      ∀ p ∈ pieces, NoFreeMark 0 p ∧ levelBehind 0 p = 0 := by
  induction cs generalizing level piece pieces with
  | nil =>
    obtain ⟨rfl, rfl⟩ := List.cons.inj h
    exact ⟨⟨⟨rfl, rfl⟩, hlevel⟩, nofun⟩
  | cons c cs ih =>
    obtain ⟨next, others, hrest⟩ :=
      List.exists_cons_of_ne_nil (splitAtCommas_ne_nil (levelAfter level c) cs)
    rw [freeCount, Nat.add_eq_zero_iff] at hclose
    obtain ⟨⟨hmark, hnext⟩, hothers⟩ := ih hrest hclose.2 hlevel
    rw [splitAtCommas] at h
    split at h
    · next hfree =>
      obtain ⟨rfl, rfl⟩ : c = ',' ∧ level = 0 := by simpa using hfree
      obtain ⟨rfl, rfl⟩ := List.cons.inj h
      refine ⟨⟨⟨rfl, rfl⟩, rfl⟩, fun p hp ↦ ?_⟩
      have hpieces : splitAtCommas 0 cs = next :: others := hrest
      rw [hpieces] at hp
      rcases List.mem_cons.1 hp with rfl | hp
      · exact ⟨hmark, hnext⟩
      · exact hothers p hp
    · next hfree =>
      rw [hrest] at h
      obtain ⟨rfl, rfl⟩ := List.cons.inj h
      have hcomma : ¬ (c = ',' ∧ level = 0) := by simpa using hfree
      have hbracket : ¬ (c = ']' ∧ level = 0) := fun hfree ↦ by simp [hfree] at hclose
      refine ⟨⟨noFreeMark_cons.2 ⟨?_, hmark⟩, hnext⟩, hothers⟩
      rintro (rfl | rfl) rfl
      · exact hcomma ⟨rfl, rfl⟩
      · exact hbracket ⟨rfl, rfl⟩

/-- **What a list is taken apart into**: types as lists have them, and the text behind the list. -/
theorem of_splitTypeList? {types : List (List Char)} {rest : List Char}
    (h : splitTypeList? cs = some (types, rest)) :
    (∀ t ∈ types, IsListedType t) ∧
      ∃ inner after, cs = '[' :: (inner ++ ']' :: after) ∧ types = listedTypes inner ∧
        rest = trimStart after := by
  unfold splitTypeList? at h
  split at h
  · next text =>
    obtain ⟨⟨inner, after⟩, hsplit, heq⟩ := Option.map_eq_some_iff.1 h
    obtain ⟨rfl, rfl⟩ := Prod.mk.inj heq
    obtain ⟨rfl, hclose, hlevel⟩ := of_splitAtClose hsplit
    refine ⟨fun t ht ↦ ?_, inner, after, rfl, rfl, rfl⟩
    obtain ⟨hmem, hne⟩ := List.mem_filter.1 ht
    obtain ⟨p, hp, rfl⟩ := List.mem_map.1 hmem
    have hpiece : NoFreeMark 0 p ∧ levelBehind 0 p = 0 := by
      obtain ⟨piece, pieces, hpieces⟩ := List.exists_cons_of_ne_nil (List.ne_nil_of_mem hp)
      obtain ⟨hfirst, hothers⟩ := of_splitAtCommas hpieces hclose hlevel
      rw [hpieces] at hp
      rcases List.mem_cons.1 hp with rfl | hp
      · exact hfirst
      · exact hothers p hp
    exact ⟨by simpa using hne, trim_trim p, by rw [levelBehind_trim, hpiece.2],
      noFreeMark_trim hpiece.1⟩
  · exact nomatch h

/-- **Types as lists have them are listed again** when they are joined. -/
theorem splitTypeList?_of_isListedType (h : ∀ t ∈ ts, IsListedType t) (rest : List Char) :
    splitTypeList? ('[' :: (joinWith typeGlue ts ++ ']' :: rest)) = some (ts, trimStart rest) := by
  by_cases hne : ts = []
  · rw [hne]
    rfl
  · have htrim : ts.map trim = ts :=
      (List.map_congr_left fun t ht ↦ (h t ht).trim_eq).trans (List.map_id' ts)
    rw [splitTypeList?_joinWith hne (fun t ht ↦ (h t ht).level)
      (fun t ht ↦ by rw [(h t ht).trim_eq]; exact (h t ht).ne_nil) (fun t ht ↦ (h t ht).noFreeMark),
      htrim]

end ToolSchema
