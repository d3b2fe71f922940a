import ToolSchema.Proofs.Convert.Report
import ToolSchema.Proofs.Source.DocIndex

/-!
# The files that a conversion asks for

A target without a shape asks for no file; else the files of its locations are asked for, in their
order (`Target.asked`). So the index that a conversion leaves behind is that after these files were
asked for (`index_convert_asked`). And what the conversion tells and gives depends on the index and
the disk through the documentation that is had for these files, and not otherwise (`convert_congr`).
-/

namespace ToolSchema

/-- The files that the conversion of a target asks for, in their order. -/
def Target.asked (t : Target) : List Path :=
  match t.shape with
  | .error _ => []
  | .ok _ => t.locations.map Location.file

variable {disk disk' : Disk} {index index' : DocIndex}

theorem asked_of_shape {t : Target} {ps : List Parameter} (h : t.shape = .ok ps) :
    t.asked = t.locations.map Location.file := by
  rw [Target.asked, h]

/-! ### The index afterwards -/

theorem index_location_lookUp (disk : Disk) (index : DocIndex) (l : Location) :
    (l.lookUp disk index).index = (index.file disk l.file).2 := by
  rw [Location.lookUp, DocIndex.lookup]
  rcases index.file disk l.file with ⟨e | docs, after⟩
  · rfl
  · simp only [Except.map]
    cases docs.get? l.line.toNat <;> rfl

theorem index_docSource_lookUp (disk : Disk) (index : DocIndex) (source : DocSource) :
    (source.lookUp disk index).index =
      index.readAll disk (source.locations.map Location.file) := by
  cases source with
  | none => rfl
  | inline text => rfl
  | location l => exact index_location_lookUp disk index l

theorem index_lookUp (disk : Disk) (index : DocIndex) (t : Target) :
    (t.lookUp disk index).index = index.readAll disk (t.locations.map Location.file) := by
  cases t with
  | function c => exact index_docSource_lookUp disk index c.docs
  | classType c =>
    rw [Target.lookUp, Target.locations]
    cases c.constructor with
    | none => rw [List.append_nil]; exact index_docSource_lookUp disk index c.docs
    | some constructor =>
      rw [List.map_append, DocIndex.readAll_append, ← index_docSource_lookUp disk index c.docs]
      exact index_docSource_lookUp disk _ constructor.docs

/-- **A conversion leaves the index behind that its files do.** -/
theorem index_convert_asked (config : Config) (disk : Disk) (index : DocIndex) (t : Target) :
    (t.convert config disk index).index = index.readAll disk t.asked := by
  rcases h : t.shape with e | ps
  · rw [convert_of_shape_error h, Target.asked, h]
    rfl
  · rw [convert_of_shape h, asked_of_shape h]
    exact index_lookUp disk index t

/-! ### What a conversion depends on -/

/-- The two lookups found the same and noted the same. -/
def Lookup.SameAs (found found' : Lookup) : Prop :=
  found.doc = found'.doc ∧ found.notes = found'.notes

/-- Where the same documentation is had for two paths, the same is had for one of them after the
other was asked for. -/
theorem docs_file_congr {p q : Path} (hp : index.docs disk p = index'.docs disk' p)
    (hq : index.docs disk q = index'.docs disk' q) :
    (index.file disk p).2.docs disk q = (index'.file disk' p).2.docs disk' q := by
  rw [DocIndex.docs_file, DocIndex.docs_file, hp, hq]

theorem docs_readAll_congr {ps : List Path} {q : Path}
    (hps : ∀ p ∈ ps, index.docs disk p = index'.docs disk' p)
    (hq : index.docs disk q = index'.docs disk' q) :
    (index.readAll disk ps).docs disk q = (index'.readAll disk' ps).docs disk' q := by
  induction ps generalizing index index' with
  | nil => exact hq
  | cons p ps ih =>
    obtain ⟨hp, hps⟩ := List.forall_mem_cons.1 hps
    exact ih (fun p' hp' ↦ docs_file_congr hp (hps p' hp')) (docs_file_congr hp hq)

theorem location_lookUp_congr {l : Location}
    (h : index.docs disk l.file = index'.docs disk' l.file) :
    (l.lookUp disk index).SameAs (l.lookUp disk' index') := by
  rw [DocIndex.docs, DocIndex.docs] at h
  rw [Location.lookUp, Location.lookUp, DocIndex.lookup, DocIndex.lookup]
  generalize index.file disk l.file = asked at h ⊢
  generalize index'.file disk' l.file = asked' at h ⊢
  obtain ⟨docs, after⟩ := asked
  obtain ⟨docs', after'⟩ := asked'
  obtain rfl : docs = docs' := h
  rcases docs with e | docs
  · exact ⟨rfl, rfl⟩
  · simp only [Except.map]
    cases docs.get? l.line.toNat <;> exact ⟨rfl, rfl⟩

theorem docSource_lookUp_congr {source : DocSource}
    (h : ∀ p ∈ source.locations.map Location.file, index.docs disk p = index'.docs disk' p) :
    (source.lookUp disk index).SameAs (source.lookUp disk' index') := by
  cases source with
  | none => exact ⟨rfl, rfl⟩
  | inline text => exact ⟨rfl, rfl⟩
  | location l => exact location_lookUp_congr (h l.file (List.mem_singleton_self _))

/-- A lookup depends on the documentation that is had for its files. -/
theorem lookUp_congr {t : Target}
    (h : ∀ p ∈ t.locations.map Location.file, index.docs disk p = index'.docs disk' p) :
    (t.lookUp disk index).SameAs (t.lookUp disk' index') := by
  cases t with
  | function c => exact docSource_lookUp_congr h
  | classType c =>
    rw [Target.locations, List.map_append, List.forall_mem_append] at h
    obtain ⟨hown, hinner⟩ := h
    have own := docSource_lookUp_congr hown
    rw [Target.lookUp, Target.lookUp]
    cases hconstructor : c.constructor with
    | none => exact own
    | some constructor =>
      rw [hconstructor] at hinner
      -- the file of the class is asked for before that of its constructor
      have inner : (constructor.docs.lookUp disk (c.docs.lookUp disk index).index).SameAs
          (constructor.docs.lookUp disk' (c.docs.lookUp disk' index').index) := by
        refine docSource_lookUp_congr fun p hp ↦ ?_
        rw [index_docSource_lookUp, index_docSource_lookUp]
        exact docs_readAll_congr hown (hinner p hp)
      refine ⟨?_, ?_⟩
      · show DocComment.merge _ _ = DocComment.merge _ _
        rw [own.1, inner.1]
      · show _ ++ _ = _ ++ _
        rw [own.2, inner.2]

/-- **A conversion depends on the documentation that is had for its files.** -/
theorem convert_congr {t : Target} (config : Config)
    (h : ∀ p ∈ t.asked, index.docs disk p = index'.docs disk' p) :
    (t.convert config disk index).notes = (t.convert config disk' index').notes ∧
      (t.convert config disk index).result = (t.convert config disk' index').result := by
  rcases hshape : t.shape with e | ps
  · rw [convert_of_shape_error hshape, convert_of_shape_error hshape]
    exact ⟨rfl, rfl⟩
  · rw [asked_of_shape hshape] at h
    obtain ⟨hdoc, hnotes⟩ := lookUp_congr h
    rw [convert_of_shape hshape, convert_of_shape hshape, build, build, hdoc, hnotes]
    exact ⟨rfl, rfl⟩

end ToolSchema
