import Mathlib.Data.List.Nodup
import ToolSchema.Source.DocIndex

/-!
# What an index answers

An index is a map from the parts of paths to documentation: what is found under a path after an
operation is said by what was found there before (`find?_insertSource`, `find?_erase`,
`find?_file`), and no two entries are for the same path.

What counts for a caller is the documentation that is had for a path, be it from the index or from
the disk (`docs`). Reading a file changes that for no path, except where two spellings of one path
are not read alike: whatever was read under one of them is then had for the other, too
(`docs_readAll`). So this is the condition on a disk under which an index cannot be seen.
-/

namespace ToolSchema

namespace Path

variable {p q : Path}

theorem same_iff : p.same q = true ↔ p.parts = q.parts := by rw [same, beq_iff_eq]

@[simp] theorem same_self (p : Path) : p.same p = true := same_iff.2 rfl

end Path

namespace Disk

variable {disk : Disk} {p : Path} {ps : List Path} {source : String}

/-- The documentation in the file of a path. -/
def docs (disk : Disk) (p : Path) : Except DocError FileDocs :=
  match disk p with
  | .error cause => .error ⟨p, cause⟩
  | .ok source => .ok (.parse source)

theorem docs_of_ok (h : disk p = .ok source) : disk.docs p = .ok (.parse source) := by
  rw [docs, h]

/-- What is read under the first of the paths that spells `p` and can be read. -/
def readFirst (disk : Disk) (ps : List Path) (p : Path) : Option String :=
  ps.findSome? fun q ↦ if q.same p then (disk q).toOption else none

/-- If `p` and `q` are spellings of the same path and a file is read under `q`, then it is read
under `p`, too. This need not be so: a slash at the end asks for a directory. -/
def ReadsAs (disk : Disk) (p q : Path) : Prop :=
  q.same p = true → ∀ source, disk q = .ok source → disk p = .ok source

theorem readFirst_append (disk : Disk) (ps qs : List Path) (p : Path) :
    disk.readFirst (ps ++ qs) p = (disk.readFirst ps p).or (disk.readFirst qs p) :=
  List.findSome?_append

theorem exists_of_readFirst (h : disk.readFirst ps p = some source) :
    ∃ q ∈ ps, q.same p = true ∧ disk q = .ok source := by
  obtain ⟨q, hq, hsome⟩ := List.exists_of_findSome?_eq_some h
  split at hsome
  · next hsame =>
    refine ⟨q, hq, hsame, ?_⟩
    rcases hdisk : disk q with cause | text
    · rw [hdisk] at hsome
      cases hsome
    · rw [hdisk] at hsome
      exact congrArg Except.ok (Option.some.inj hsome)
  · cases hsome

/-- Something is read if one of the spellings can be read. -/
theorem isSome_readFirst_iff : (disk.readFirst ps p).isSome = true ↔
    ∃ q ∈ ps, q.same p = true ∧ ∃ source, disk q = .ok source := by
  constructor
  · intro h
    obtain ⟨source, hsource⟩ := Option.isSome_iff_exists.1 h
    obtain ⟨q, hq, hsame, hdisk⟩ := exists_of_readFirst hsource
    exact ⟨q, hq, hsame, source, hdisk⟩
  · rintro ⟨q, hq, hsame, source, hdisk⟩
    rw [readFirst, List.findSome?_isSome_iff]
    exact ⟨q, hq, by rw [if_pos hsame, hdisk]; rfl⟩

/-- If `p` is read as its spellings among other paths are, then what is read under them first is
what is read under `p`. -/
theorem eq_ok_of_readFirst (hlike : ∀ q ∈ ps, disk.ReadsAs p q)
    (h : disk.readFirst ps p = some source) : disk p = .ok source := by
  obtain ⟨q, hq, hsame, hdisk⟩ := exists_of_readFirst h
  exact hlike q hq hsame source hdisk

end Disk

namespace DocIndex

variable {index : DocIndex} {disk : Disk} {p q : Path} {found : FileDocs}

/-! ### What is found -/

/-- Spellings of the same path find the same. -/
theorem find?_congr (index : DocIndex) (h : p.same q = true) : index.find? p = index.find? q := by
  have hparts : p.parts = q.parts := Path.same_iff.1 h
  simp only [find?, Path.same, hparts]

@[simp] theorem find?_empty (p : Path) : find? {} p = none := rfl

theorem find?_insertFile (p : Path) (docs : FileDocs) (files : List (Path × FileDocs)) (q : Path) :
    ((insertFile p docs files).find? fun entry ↦ entry.1.same q).map Prod.snd =
      if p.same q then some docs
      else (files.find? fun entry ↦ entry.1.same q).map Prod.snd := by
  induction files with
  | nil => by_cases h : p.same q <;> simp [insertFile, h]
  | cons entry rest ih =>
    rw [insertFile]
    split
    · next hp =>
      have hq : entry.1.same q = p.same q := by
        rw [Path.same, Path.same, Path.same_iff.1 hp]
      by_cases h : p.same q <;> simp [hq, h]
    · next hp =>
      by_cases hq : entry.1.same q
      · -- the entry is not for `p`, so `p` is not spelled like `q`
        have hpq : ¬ p.same q = true := fun h ↦
          hp (Path.same_iff.2 ((Path.same_iff.1 hq).trans (Path.same_iff.1 h).symm))
        simp [hq, hpq]
      · simpa [hq] using ih

/-- **What was inserted is found**, whatever the index held before, and nothing else changes. -/
theorem find?_insertSource (index : DocIndex) (p : Path) (source : String) (q : Path) :
    (index.insertSource p source).find? q =
      if p.same q then some (.parse source) else index.find? q :=
  find?_insertFile p _ index.files q

/-- What was dropped is not found, and nothing else changes. -/
theorem find?_erase (index : DocIndex) (p q : Path) :
    (index.erase p).find? q = if p.same q then none else index.find? q := by
  rw [find?, find?, erase, List.find?_filter]
  split
  · next h =>
    rw [Option.map_eq_none_iff, List.find?_eq_none]
    intro entry _
    simp [Path.same, Path.same_iff.1 h]
  · next h =>
    congr 2
    funext entry
    -- an entry for `q` is not for `p`
    have hp (hq : entry.1.same q = true) : entry.1.same p = false := by
      rw [← Bool.not_eq_true]
      exact fun hp ↦ h (Path.same_iff.2 ((Path.same_iff.1 hp).symm.trans (Path.same_iff.1 hq)))
    by_cases hq : entry.1.same q
    · simp [hq, hp hq]
    · simp [hq]

/-! ### Files -/

/-- A file that is there is not read. -/
theorem file_of_find? (disk : Disk) (h : index.find? p = some found) :
    index.file disk p = (.ok found, index) := by
  rw [file, h]

/-- A file that was inserted is not read. -/
theorem file_insertSource (index : DocIndex) (disk : Disk) (p : Path) (source : String) :
    (index.insertSource p source).file disk p =
      (.ok (.parse source), index.insertSource p source) :=
  file_of_find? disk (by rw [find?_insertSource, if_pos p.same_self])

/-- **A file that cannot be read leaves no trace.** -/
theorem file_of_error {cause : ReadError} (h : index.find? p = none)
    (hdisk : disk p = .error cause) : index.file disk p = (.error ⟨p, cause⟩, index) := by
  rw [file, h, hdisk]

theorem file_of_ok {source : String} (h : index.find? p = none) (hdisk : disk p = .ok source) :
    index.file disk p = (.ok (.parse source), index.insertSource p source) := by
  rw [file, h, hdisk]

/-- The documentation that is had for a path. -/
def docs (index : DocIndex) (disk : Disk) (p : Path) : Except DocError FileDocs :=
  (index.file disk p).1

theorem docs_of_find? (disk : Disk) (h : index.find? p = some found) :
    index.docs disk p = .ok found := by
  rw [DocIndex.docs, file_of_find? disk h]

theorem docs_of_find?_none (h : index.find? p = none) : index.docs disk p = disk.docs p := by
  rw [DocIndex.docs, file, h, Disk.docs]
  cases disk p <;> rfl

/-- What is found after a file was asked for: what was found before, and for the spellings of its
path else what was read. -/
theorem find?_file (index : DocIndex) (disk : Disk) (p q : Path) :
    (index.file disk p).2.find? q =
      (index.find? q).or ((if p.same q then (disk p).toOption else none).map FileDocs.parse) := by
  rcases hp : index.find? p with - | found
  · rcases hdisk : disk p with cause | source
    · rw [file_of_error hp hdisk]
      simp [Except.toOption]
    · rw [file_of_ok hp hdisk, find?_insertSource]
      split
      · next h => rw [← find?_congr index h, hp]; rfl
      · rw [Option.map_none, Option.or_none]
  · rw [file_of_find? disk hp]
    split
    · next h => rw [← find?_congr index h, hp, Option.some_or]
    · rw [Option.map_none, Option.or_none]

/-- What is had for a path after a file was asked for. -/
theorem docs_file (index : DocIndex) (disk : Disk) (p q : Path) :
    (index.file disk p).2.docs disk q =
      if p.same q then (index.docs disk p).toOption.elim (index.docs disk q) .ok
      else index.docs disk q := by
  split
  · next h =>
    rcases hp : index.find? p with - | found
    · rw [docs_of_find?_none hp, Disk.docs]
      rcases hdisk : disk p with cause | source
      · rw [file_of_error hp hdisk]
        rfl
      · refine docs_of_find? disk ?_
        rw [file_of_ok hp hdisk, find?_insertSource, if_pos h]
    · rw [file_of_find? disk hp, docs_of_find? disk hp]
      exact docs_of_find? disk (find?_congr index h ▸ hp)
  · next h =>
    have hfind : (index.file disk p).2.find? q = index.find? q := by
      rw [find?_file, if_neg h, Option.map_none, Option.or_none]
    rcases hq : index.find? q with - | found
    · rw [docs_of_find?_none hq, docs_of_find?_none (hfind.trans hq)]
    · rw [docs_of_find? disk hq, docs_of_find? disk (hfind.trans hq)]

/-! ### Several files -/

/-- The index after several files were asked for. -/
def readAll (index : DocIndex) (disk : Disk) (ps : List Path) : DocIndex :=
  ps.foldl (fun index p ↦ (index.file disk p).2) index

theorem readAll_append (index : DocIndex) (disk : Disk) (ps qs : List Path) :
    index.readAll disk (ps ++ qs) = (index.readAll disk ps).readAll disk qs :=
  List.foldl_append

/-- What is found after several files were asked for: what was found before, or else what was read
first under a spelling of the path. -/
theorem find?_readAll (index : DocIndex) (disk : Disk) (ps : List Path) (q : Path) :
    (index.readAll disk ps).find? q =
      (index.find? q).or ((disk.readFirst ps q).map FileDocs.parse) := by
  induction ps generalizing index with
  | nil => exact (Option.or_none).symm
  | cons p ps ih =>
    show ((index.file disk p).2.readAll disk ps).find? q = _
    rw [ih, find?_file, Option.or_assoc, Disk.readFirst, Disk.readFirst, List.findSome?_cons]
    cases (if p.same q then (disk p).toOption else none) <;> rfl

/-- Files that cannot be read leave no trace. -/
theorem readAll_of_error {ps : List Path}
    (h : ∀ p ∈ ps, index.find? p = none ∧ ∃ cause, disk p = .error cause) :
    index.readAll disk ps = index := by
  induction ps with
  | nil => rfl
  | cons p ps ih =>
    obtain ⟨⟨hp, cause, hdisk⟩, hps⟩ := List.forall_mem_cons.1 h
    show (index.file disk p).2.readAll disk ps = index
    rw [file_of_error hp hdisk]
    exact ih hps

/-- **What other files were read does not matter** for a path that the index holds, or that is read
as its other spellings are. -/
theorem docs_readAll {qs : List Path}
    (h : index.contains p = false → ∀ q ∈ qs, disk.ReadsAs p q) :
    (index.readAll disk qs).docs disk p = index.docs disk p := by
  rcases hp : index.find? p with - | found
  · have hlike := h (by rw [contains, hp]; rfl)
    rw [docs_of_find?_none hp]
    rcases hread : (index.readAll disk qs).find? p with - | found
    · exact docs_of_find?_none hread
    · rw [docs_of_find? disk hread]
      rw [find?_readAll, hp, Option.none_or, Option.map_eq_some_iff] at hread
      obtain ⟨source, hsource, rfl⟩ := hread
      exact (Disk.docs_of_ok (Disk.eq_ok_of_readFirst hlike hsource)).symm
  · rw [docs_of_find? disk hp]
    exact docs_of_find? disk (by rw [find?_readAll, hp, Option.some_or])

/-! ### Entries -/

/-- The paths that the entries are for. -/
def keys (index : DocIndex) : List (List PathPart) := index.files.map fun entry ↦ entry.1.parts

theorem contains_iff : index.contains p = true ↔ p.parts ∈ index.keys := by
  rw [contains, find?, Option.isSome_map, List.find?_isSome, keys, List.mem_map]
  simp only [Path.same_iff]

theorem keys_insert (index : DocIndex) (p : Path) (docs : FileDocs) :
    (index.insert p docs).keys =
      if p.parts ∈ index.keys then index.keys else index.keys ++ [p.parts] := by
  obtain ⟨files⟩ := index
  show (insertFile p docs files).map (fun entry ↦ entry.1.parts) = _
  rw [keys]
  induction files with
  | nil => rfl
  | cons entry rest ih =>
    rw [insertFile]
    split
    · next h => simp [Path.same_iff.1 h]
    · next h =>
      have hne : p.parts ≠ entry.1.parts := fun he ↦ h (Path.same_iff.2 he.symm)
      simp only [List.map_cons, ih, List.mem_cons, hne, false_or]
      split <;> rfl

theorem nodup_keys_insert (h : index.keys.Nodup) (p : Path) (docs : FileDocs) :
    (index.insert p docs).keys.Nodup := by
  rw [keys_insert]
  split
  · exact h
  · next hp => exact (List.concat_eq_append ▸ h.concat hp)

theorem nodup_keys_erase (h : index.keys.Nodup) (p : Path) : (index.erase p).keys.Nodup :=
  h.sublist (List.filter_sublist.map _)

theorem nodup_keys_file (h : index.keys.Nodup) (disk : Disk) (p : Path) :
    (index.file disk p).2.keys.Nodup := by
  rw [file]
  split
  · exact h
  · split
    · exact h
    · exact nodup_keys_insert h p _

theorem nodup_keys_readAll (h : index.keys.Nodup) (disk : Disk) (ps : List Path) :
    (index.readAll disk ps).keys.Nodup := by
  induction ps generalizing index with
  | nil => exact h
  | cons p ps ih => exact ih (nodup_keys_file h disk p)

end DocIndex

end ToolSchema
