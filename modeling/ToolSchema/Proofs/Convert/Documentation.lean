import ToolSchema.Convert.Documentation
import ToolSchema.Proofs.Convert.Trace

/-!
# Warnings of a lookup

What looking documentation up warns about, said by what the index answers: a file that cannot be
read, or a file with nothing at the line. Documentation that is absent or inline warns about
nothing, and the file of a class is asked for before that of its constructor.
-/

namespace ToolSchema

/-- What is missing at a location: its file, or something documented at its line. -/
def Location.lookupWarnings (disk : Disk) (index : DocIndex) (l : Location) : List Warning :=
  match (index.file disk l.file).1 with
  | .error e => [.docLookupFailed l e]
  | .ok docs => if (docs.get? l.line.toNat).isSome then [] else [.missingDocs l]

/-- What is missing at a source of documentation. -/
def DocSource.lookupWarnings (disk : Disk) (index : DocIndex) : DocSource → List Warning
  | none => []
  | inline _ => []
  | location l => l.lookupWarnings disk index

/-- What is missing at the sources of a target, the class before its constructor. The files of the
constructor are asked for with the index that the class left behind. -/
def Target.lookupWarnings (disk : Disk) (index : DocIndex) : Target → List Warning
  | function c => c.docs.lookupWarnings disk index
  | classType c =>
    c.docs.lookupWarnings disk index ++
      match c.constructor with
      | some constructor =>
        constructor.docs.lookupWarnings disk (c.docs.lookUp disk index).index
      | none => []

theorem warningsOf_location_lookUp (disk : Disk) (index : DocIndex) (l : Location) :
    warningsOf (l.lookUp disk index).notes = l.lookupWarnings disk index := by
  rw [Location.lookUp, DocIndex.lookup, Location.lookupWarnings]
  rcases index.file disk l.file with ⟨e | docs, after⟩
  · rfl
  · simp only [Except.map]
    cases docs.get? l.line.toNat <;> rfl

theorem warningsOf_docSource_lookUp (disk : Disk) (index : DocIndex) (source : DocSource) :
    warningsOf (source.lookUp disk index).notes = source.lookupWarnings disk index := by
  cases source with
  | none => rfl
  | inline text => rfl
  | location l => exact warningsOf_location_lookUp disk index l

/-- **A lookup warns about what is missing**, in the order in which it looks. -/
theorem warningsOf_lookUp (disk : Disk) (index : DocIndex) (t : Target) :
    warningsOf (t.lookUp disk index).notes = t.lookupWarnings disk index := by
  cases t with
  | function c => exact warningsOf_docSource_lookUp disk index c.docs
  | classType c =>
    rw [Target.lookUp, Target.lookupWarnings, ← warningsOf_docSource_lookUp]
    cases c.constructor with
    | none => exact (List.append_nil _).symm
    | some constructor =>
      simp only [warningsOf_append, warningsOf_docSource_lookUp]

/-- The warning is about a place where documentation was looked for, and not about what it says. -/
def Warning.isAboutPlace : Warning → Bool
  | docLookupFailed .. => true
  | missingDocs _ => true
  | _ => false

theorem isAboutPlace_of_mem_docSource {disk : Disk} {index : DocIndex} {source : DocSource}
    {w : Warning} (h : w ∈ source.lookupWarnings disk index) : w.isAboutPlace = true := by
  cases source with
  | none => cases h
  | inline text => cases h
  | location l =>
    rw [DocSource.lookupWarnings, Location.lookupWarnings] at h
    split at h
    · rw [List.mem_singleton.1 h]
      rfl
    · split at h
      · cases h
      · rw [List.mem_singleton.1 h]
        rfl

/-- A lookup warns about places only. -/
theorem isAboutPlace_of_mem_lookupWarnings {disk : Disk} {index : DocIndex} {t : Target}
    {w : Warning} (h : w ∈ t.lookupWarnings disk index) : w.isAboutPlace = true := by
  cases t with
  | function c => exact isAboutPlace_of_mem_docSource h
  | classType c =>
    rw [Target.lookupWarnings] at h
    rcases List.mem_append.1 h with h | h
    · exact isAboutPlace_of_mem_docSource h
    · split at h
      · exact isAboutPlace_of_mem_docSource h
      · cases h

end ToolSchema
