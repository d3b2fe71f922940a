import Mathlib.Data.List.DropRight
import ToolSchema.Proofs.Convert.Asked

/-!
# Calls on one index

An index serves calls one after the other, and the files on the disk stay as they are meanwhile.
What it holds after any number of calls can be read off them without running one (`find?_index`):
under a path stands the text that was put there last since the path was dropped, or else the text
that was read there first.

What a call answers does not tell which calls went before it (`docs_index`, `answer_congr`), with one
exception. Two spellings of a path are one path for an index, but need not be one for the disk: with
a slash at its end the path of a file cannot be read. Once the file was read under its other
spelling, it is had under this one, too. So the paths that a call asks for must be read as they were
read under other spellings (`Session.ReadsAlike`).
-/

namespace ToolSchema

/-- A call on an index. -/
inductive IndexCall where
  | insertSource (p : Path) (source : String)
  | file (p : Path)
  | lookup (l : Location)
  | invalidate (p : Path)
  | clear
  | convert (config : Config) (t : Target)

/-- What a call answers. -/
inductive IndexAnswer where
  | inserted (docs : FileDocs)
  | file (docs : Except DocError FileDocs)
  | comment (doc : Except DocError (Option DocComment))
  /-- The path was dropped, and was there or was not. -/
  | dropped (wasThere : Bool)
  | cleared
  | converted (notes : List Note) (result : Except ConvertError Tool)

namespace IndexCall

/-- What a call answers, and the index afterwards. -/
def run (disk : Disk) (index : DocIndex) : IndexCall → IndexAnswer × DocIndex
  | insertSource p source => (.inserted (.parse source), index.insertSource p source)
  | file p => ((.file (index.file disk p).1), (index.file disk p).2)
  | lookup l => ((.comment (index.lookup disk l).1), (index.lookup disk l).2)
  | invalidate p => (.dropped (index.contains p), index.erase p)
  | clear => (.cleared, {})
  | convert config t =>
    let c := t.convert config disk index
    (.converted c.notes c.result, c.index)

/-- The call drops what there is under a path. -/
def drops (p : Path) : IndexCall → Bool
  | invalidate q => q.same p
  | clear => true
  | _ => false

/-- The text that the call puts under a path. -/
def source? (p : Path) : IndexCall → Option String
  | insertSource q source => if q.same p then some source else none
  | _ => none

/-- The files that the call asks for. -/
def asked : IndexCall → List Path
  | file p => [p]
  | lookup l => [l.file]
  | convert _ t => t.asked
  | _ => []

/-- The call puts a text under a path, or asks for a file there that can be read. -/
def Provides (disk : Disk) (p : Path) (c : IndexCall) : Prop :=
  (∃ source, c.source? p = some source) ∨
    ∃ q ∈ c.asked, q.same p = true ∧ ∃ source, disk q = .ok source

end IndexCall

/-- The calls on an index, the first one first. The index is empty before them. -/
abbrev Session := List IndexCall

namespace Session

/-- The index after the calls. -/
def index (disk : Disk) (s : Session) : DocIndex :=
  s.foldl (fun index c ↦ (c.run disk index).2) {}

/-- The calls since a path was dropped. -/
def since (s : Session) (p : Path) : List IndexCall := s.rtakeWhile fun c ↦ !c.drops p

/-- The text that was last put under a path, if this was after the path was dropped. -/
def inserted? (s : Session) (p : Path) : Option String :=
  ((s.since p).filterMap (IndexCall.source? p)).getLast?

/-- The files that were asked for since a path was dropped. -/
def asked (s : Session) (p : Path) : List Path := (s.since p).flatMap IndexCall.asked

/-- A text was put under a path, or was read there, since the path was dropped. -/
def Holds (disk : Disk) (s : Session) (p : Path) : Prop := ∃ c ∈ s.since p, c.Provides disk p

/-- The disk with the texts that were put under paths in place of the files there. -/
def overlay (disk : Disk) (s : Session) : Disk := fun p ↦
  match s.inserted? p with
  | some source => .ok source
  | none => disk p

/-- A path under which no text was put is read as it was read under its other spellings. -/
def ReadsAlike (disk : Disk) (s : Session) (p : Path) : Prop :=
  s.inserted? p = none → ∀ q ∈ s.asked p, disk.ReadsAs p q

end Session

variable {disk : Disk} {s : Session} {c : IndexCall} {p : Path}

/-! ### One call -/

/-- **What one call does to an index.** It may drop a path; else it may put a text there; else what
was there stays, and if nothing was there, the files that the call asks for may give it. -/
theorem find?_run (disk : Disk) (index : DocIndex) (c : IndexCall) (p : Path) :
    (c.run disk index).2.find? p =
      if c.drops p then none
      else ((c.source? p).map FileDocs.parse).or
        ((index.find? p).or ((disk.readFirst c.asked p).map FileDocs.parse)) := by
  cases c with
  | insertSource q source =>
    show (index.insertSource q source).find? p = _
    rw [DocIndex.find?_insertSource]
    by_cases h : q.same p <;>
      simp [h, IndexCall.drops, IndexCall.source?, IndexCall.asked, Disk.readFirst]
  | file q => exact DocIndex.find?_readAll index disk [q] p
  | lookup l => exact DocIndex.find?_readAll index disk [l.file] p
  | invalidate q =>
    show (index.erase q).find? p = _
    rw [DocIndex.find?_erase]
    by_cases h : q.same p <;>
      simp [h, IndexCall.drops, IndexCall.source?, IndexCall.asked, Disk.readFirst]
  | clear => rfl
  | convert config t =>
    show (t.convert config disk index).index.find? p = _
    rw [index_convert_asked]
    exact DocIndex.find?_readAll index disk t.asked p

theorem nodup_keys_run {index : DocIndex} (h : index.keys.Nodup) (disk : Disk) (c : IndexCall) :
    (c.run disk index).2.keys.Nodup := by
  cases c with
  | insertSource q source => exact DocIndex.nodup_keys_insert h q _
  | file q => exact DocIndex.nodup_keys_file h disk q
  | lookup l => exact DocIndex.nodup_keys_file h disk l.file
  | invalidate q => exact DocIndex.nodup_keys_erase h q
  | clear => exact List.nodup_nil
  | convert config t =>
    show (t.convert config disk index).index.keys.Nodup
    rw [index_convert_asked]
    exact DocIndex.nodup_keys_readAll h disk t.asked

/-- A call that asks for files, none of which is there or can be read, changes nothing. -/
theorem index_run_of_error {index : DocIndex} (hasked : c.asked ≠ [])
    (h : ∀ p ∈ c.asked, index.find? p = none ∧ ∃ cause, disk p = .error cause) :
    (c.run disk index).2 = index := by
  cases c with
  | file q => exact DocIndex.readAll_of_error h
  | lookup l => exact DocIndex.readAll_of_error h
  | convert config t =>
    show (t.convert config disk index).index = index
    rw [index_convert_asked]
    exact DocIndex.readAll_of_error h
  | _ => exact absurd rfl hasked

/-! ### One more call -/

theorem index_concat (disk : Disk) (s : Session) (c : IndexCall) :
    Session.index disk (s ++ [c]) = (c.run disk (s.index disk)).2 := by
  rw [Session.index, List.foldl_append]
  rfl

theorem since_concat (s : Session) (c : IndexCall) (p : Path) :
    Session.since (s ++ [c]) p = if c.drops p then [] else s.since p ++ [c] := by
  rw [Session.since, List.rtakeWhile_concat]
  cases c.drops p <;> rfl

theorem inserted?_concat (s : Session) (c : IndexCall) (p : Path) :
    Session.inserted? (s ++ [c]) p =
      if c.drops p then none else (c.source? p).or (s.inserted? p) := by
  rw [Session.inserted?, since_concat]
  split
  · rfl
  · rw [List.filterMap_append, List.getLast?_append, Session.inserted?]
    congr 1
    rw [List.filterMap_cons]
    cases c.source? p <;> rfl

theorem asked_concat (s : Session) (c : IndexCall) (p : Path) :
    Session.asked (s ++ [c]) p = if c.drops p then [] else s.asked p ++ c.asked := by
  rw [Session.asked, since_concat]
  split
  · rfl
  · rw [List.flatMap_append, List.flatMap_singleton, Session.asked]

/-! ### All calls -/

/-- **What an index holds**, read off the calls. -/
theorem find?_index (disk : Disk) (s : Session) (p : Path) :
    (s.index disk).find? p =
      ((s.inserted? p).or (disk.readFirst (s.asked p) p)).map FileDocs.parse := by
  induction s using List.reverseRecOn with
  | nil => rfl
  | append_singleton s c ih =>
    rw [index_concat, find?_run, inserted?_concat, asked_concat, ih]
    split
    · rfl
    · -- what the call puts there, then what was put there before, then what was read
      rw [Disk.readFirst_append]
      simp only [Option.map_or, Option.or_assoc]

theorem nodup_keys_index (disk : Disk) (s : Session) : (s.index disk).keys.Nodup := by
  induction s using List.reverseRecOn with
  | nil => exact List.nodup_nil
  | append_singleton s c ih =>
    rw [index_concat]
    exact nodup_keys_run ih disk c

/-- The paths that an index holds are those that were inserted or read. -/
theorem contains_index_iff : (s.index disk).contains p = true ↔ s.Holds disk p := by
  rw [DocIndex.contains, find?_index, Option.isSome_map, Option.isSome_or, Bool.or_eq_true,
    Disk.isSome_readFirst_iff, Session.inserted?, Session.asked, Session.Holds]
  simp only [IndexCall.Provides, List.getLast?_isSome, List.mem_flatMap]
  constructor
  · rintro (h | ⟨q, ⟨c, hc, hq⟩, hread⟩)
    · obtain ⟨source, hsource⟩ := List.exists_mem_of_ne_nil _ h
      obtain ⟨c, hc, hcs⟩ := List.mem_filterMap.1 hsource
      exact ⟨c, hc, .inl ⟨source, hcs⟩⟩
    · exact ⟨c, hc, .inr ⟨q, hq, hread⟩⟩
  · rintro ⟨c, hc, ⟨source, hcs⟩ | ⟨q, hq, hread⟩⟩
    · exact .inl (List.ne_nil_of_mem (List.mem_filterMap.2 ⟨c, hc, hcs⟩))
    · exact .inr ⟨q, ⟨c, hc, hq⟩, hread⟩

theorem find?_index_eq_none (h : ¬ s.Holds disk p) : (s.index disk).find? p = none := by
  rw [← contains_index_iff, DocIndex.contains, Bool.not_eq_true, Option.isSome_eq_false_iff,
    Option.isNone_iff_eq_none] at h
  exact h

/-- **What is had for a path** is what the disk holds there, with the inserted texts laid over it. -/
theorem docs_index (h : s.ReadsAlike disk p) :
    (s.index disk).docs disk p = DocIndex.docs {} (s.overlay disk) p := by
  rw [DocIndex.docs_of_find?_none (DocIndex.find?_empty p), Disk.docs, Session.overlay]
  rcases hi : s.inserted? p with - | source
  · rcases hr : disk.readFirst (s.asked p) p with - | source
    · have hnone : (s.index disk).find? p = none := by rw [find?_index, hi, hr]; rfl
      rw [DocIndex.docs_of_find?_none hnone, Disk.docs]
    · rw [DocIndex.docs_of_find? disk (by rw [find?_index, hi, hr]; rfl),
        Disk.eq_ok_of_readFirst (h hi) hr]
  · rw [DocIndex.docs_of_find? disk (by rw [find?_index, hi]; rfl)]

/-- Two calls that had the same documentation for their files give the same answer, unless they drop
a path. -/
theorem answer_congr {index index' : DocIndex} {disk' : Disk} (hc : ∀ p, c ≠ .invalidate p)
    (h : ∀ p ∈ c.asked, index.docs disk p = index'.docs disk' p) :
    (c.run disk index).1 = (c.run disk' index').1 := by
  cases c with
  | insertSource q source => rfl
  | file q => exact congrArg IndexAnswer.file (h q (List.mem_singleton_self q))
  | lookup l =>
    show IndexAnswer.comment ((index.docs disk l.file).map _) =
      .comment ((index'.docs disk' l.file).map _)
    rw [h l.file (List.mem_singleton_self _)]
  | invalidate q => exact absurd rfl (hc q)
  | clear => rfl
  | convert config t =>
    obtain ⟨hnotes, hresult⟩ := convert_congr config h
    exact congrArg₂ IndexAnswer.converted hnotes hresult

/-- The paths of the entries are those that an index holds, each in one spelling. -/
theorem exists_paths_index (disk : Disk) (s : Session) :
    ∃ ps : List Path, (ps.map Path.parts).Nodup ∧
      (∀ p, s.Holds disk p ↔ ∃ q ∈ ps, q.same p = true) ∧ (s.index disk).size = ps.length := by
  have hkeys : ((s.index disk).files.map Prod.fst).map Path.parts = (s.index disk).keys := by
    rw [List.map_map]
    rfl
  refine ⟨(s.index disk).files.map Prod.fst, hkeys ▸ nodup_keys_index disk s, fun p ↦ ?_,
    (List.length_map _).symm⟩
  rw [← contains_index_iff, DocIndex.contains_iff, ← hkeys, List.mem_map]
  simp only [Path.same_iff]

/-- **An index cannot be told from the disk with the inserted texts laid over it.** After any calls
on a new index, with `s` for these calls:

* Under a path stands the text that was inserted last since the path was dropped, or else what was
  read under the first of its spellings that was asked for and could be read; and this is the text
  in the file of the path, if the path is read like these spellings.
* The index holds the paths that were inserted or read since they were dropped, its size is their
  number, and a path that is dropped is said to have been there if it is one of them.
* A file that is not held and cannot be read is an error and leaves the index as it is, and so do
  several such files.
* Every call but that which drops a path is answered as a new index answers it on the disk with the
  inserted texts laid over it, if the paths that it asks for are read like their other spellings
  that were asked for before. -/
theorem session_answers (disk : Disk) (s : Session) :
    ((∀ p, (s.index disk).find? p =
        ((s.inserted? p).or (disk.readFirst (s.asked p) p)).map FileDocs.parse) ∧
      ∀ p found, s.ReadsAlike disk p → (s.index disk).find? p = some found →
        (s.overlay disk).docs p = .ok found) ∧
    ((∀ p, (s.index disk).contains p = true ↔ s.Holds disk p) ∧
      (∃ ps : List Path, (ps.map Path.parts).Nodup ∧
        (∀ p, s.Holds disk p ↔ ∃ q ∈ ps, q.same p = true) ∧ (s.index disk).size = ps.length) ∧
      ∀ p, ∃ wasThere, ((IndexCall.invalidate p).run disk (s.index disk)).1 = .dropped wasThere ∧
        (wasThere = true ↔ s.Holds disk p)) ∧
    ((∀ p cause, ¬ s.Holds disk p → disk p = .error cause →
        (IndexCall.file p).run disk (s.index disk) = (.file (.error ⟨p, cause⟩), s.index disk) ∧
        ∀ n, (IndexCall.lookup ⟨p, n⟩).run disk (s.index disk) =
          (.comment (.error ⟨p, cause⟩), s.index disk)) ∧
      ∀ c : IndexCall, c.asked ≠ [] →
        (∀ p ∈ c.asked, ¬ s.Holds disk p ∧ ∃ cause, disk p = .error cause) →
        (c.run disk (s.index disk)).2 = s.index disk) ∧
    ∀ c : IndexCall, (∀ p, c ≠ .invalidate p) → (∀ p ∈ c.asked, s.ReadsAlike disk p) →
      (c.run disk (s.index disk)).1 = (c.run (s.overlay disk) {}).1 := by
  refine ⟨⟨find?_index disk s, fun p found hlike hfound ↦ ?_⟩,
    ⟨fun p ↦ contains_index_iff, exists_paths_index disk s,
      fun p ↦ ⟨(s.index disk).contains p, rfl, contains_index_iff⟩⟩,
    ⟨fun p cause hheld hdisk ↦ ?_, fun c hasked h ↦ ?_⟩, fun c hc hlike ↦ ?_⟩
  · have hdocs := docs_index hlike
    rw [DocIndex.docs_of_find? disk hfound,
      DocIndex.docs_of_find?_none (DocIndex.find?_empty p)] at hdocs
    exact hdocs.symm
  · have hfile := DocIndex.file_of_error (find?_index_eq_none hheld) hdisk
    constructor
    · rw [IndexCall.run, hfile]
    · intro n
      rw [IndexCall.run, DocIndex.lookup, hfile]
      rfl
  · exact index_run_of_error hasked fun p hp ↦ ⟨find?_index_eq_none (h p hp).1, (h p hp).2⟩
  · exact answer_congr hc fun p hp ↦ docs_index (hlike p hp)

/-- A file that was read under a spelling with two slashes, dropped under another one and read
again; a file that was replaced by an inserted text; and a file that is not there. -/
theorem session_answers_respelled :
    let text := "/// B.\nfn b() \x7b\x7d\n"
    let newText := "/// New.\nfn a() \x7b\x7d\n"
    let disk : Disk := Disk.ofReadings
      [(⟨"a.rs"⟩, .ok ""), (⟨"src/b.rs"⟩, .ok text), (⟨"src//b.rs"⟩, .ok text)]
    let t : Target := .function ⟨"b", [], .location ⟨⟨"src/b.rs"⟩, 2⟩⟩
    let s : Session := [.file ⟨"gone.rs"⟩, .lookup ⟨⟨"src//b.rs"⟩, 2⟩, .file ⟨"a.rs"⟩,
      .insertSource ⟨"./a.rs"⟩ "", .insertSource ⟨"a.rs"⟩ newText, .invalidate ⟨"src/./b.rs"⟩,
      .lookup ⟨⟨"src//b.rs"⟩, 2⟩]
    (s.overlay disk).docs ⟨"src/b.rs"⟩ = .ok (.parse text) ∧
      (s.index disk).find? ⟨"a.rs/"⟩ = some (.parse newText) ∧
      (IndexCall.file ⟨"gone.rs"⟩).run disk (s.index disk) =
        (.file (.error ⟨⟨"gone.rs"⟩, .notFound⟩), s.index disk) ∧
      ((IndexCall.convert {} t).run disk (s.index disk)).1 =
        ((IndexCall.convert {} t).run (s.overlay disk) {}).1 := by
  intro text newText disk t s
  obtain ⟨⟨hfind, hfound⟩, ⟨hcontains, -, -⟩, ⟨herror, -⟩, hanswer⟩ := session_answers disk s
  have hlike : s.ReadsAlike disk ⟨"src/b.rs"⟩ := by
    intro _ q hq
    have hasked : s.asked ⟨"src/b.rs"⟩ = [⟨"src//b.rs"⟩] := by decide
    rw [hasked, List.mem_singleton] at hq
    subst hq
    exact fun _ source hsource ↦ hsource
  have hgone : ¬ s.Holds disk ⟨"gone.rs"⟩ := by
    rw [← hcontains, DocIndex.contains, hfind]
    decide
  refine ⟨hfound _ _ hlike ?_, ?_, (herror _ .notFound hgone (by decide)).1, ?_⟩
  · rw [hfind]
    rfl
  · rw [hfind]
    rfl
  · refine hanswer (.convert {} t) (fun _ h ↦ by cases h) fun p hp ↦ ?_
    have hasked : (IndexCall.convert {} t).asked = [⟨"src/b.rs"⟩] := by decide
    rw [hasked, List.mem_singleton] at hp
    rw [hp]
    exact hlike

/-- **With a slash at its end**, the path of a file cannot be read, until the file was read without
it. No text was inserted, and what was asked for before makes the difference. -/
theorem file_answer_of_slash :
    let tree : FileTree := ⟨[(["a.rs"], .file "/// A.\nfn a() \x7b\x7d\n".toUTF8)]⟩
    let s : Session := [.file ⟨"a.rs"⟩]
    (∀ p, s.inserted? p = Session.inserted? [] p) ∧
      ((IndexCall.file ⟨"a.rs/"⟩).run tree.disk (Session.index tree.disk [])).1 =
        .file (.error ⟨⟨"a.rs/"⟩, .notDirectory⟩) ∧
      ((IndexCall.file ⟨"a.rs/"⟩).run tree.disk (s.index tree.disk)).1 =
        .file (.ok (.parse "/// A.\nfn a() \x7b\x7d\n")) := by
  intro tree s
  exact ⟨fun p ↦ rfl, rfl, rfl⟩

end ToolSchema
