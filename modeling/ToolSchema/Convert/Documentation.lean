import ToolSchema.Convert.Trace

/-!
# Looking documentation up

The comment of a target. Whatever goes wrong with a file is a warning and leaves the comment empty. A
class has the tags of its own comment before those of its constructor's, and the description of its
own, if there is one.
-/

namespace ToolSchema

/-- Documentation that was looked up: the comment, what was noted, and the index afterwards. -/
structure Lookup where
  doc : DocComment
  notes : List Note
  index : DocIndex

/-- Looks the comment at a location up. -/
def Location.lookUp (disk : Disk) (index : DocIndex) (l : Location) : Lookup :=
  match index.lookup disk l with
  | (.ok (some doc), index) => ⟨doc, [.loaded l doc.tags.length], index⟩
  | (.ok none, index) => ⟨{}, [.warning (.missingDocs l)], index⟩
  | (.error e, index) => ⟨{}, [.warning (.docLookupFailed l e)], index⟩

/-- Finds the comment of a source. -/
def DocSource.lookUp (disk : Disk) (index : DocIndex) : DocSource → Lookup
  | none => ⟨{}, [], index⟩
  | inline text => ⟨.parse text, [], index⟩
  | location l => l.lookUp disk index

/-- The comment of a class and that of its constructor as one. -/
def DocComment.merge (ofClass ofConstructor : DocComment) : DocComment :=
  { ofClass with
    description :=
      if ofClass.description.isEmpty then ofConstructor.description
      else ofClass.description }.extendTags ofConstructor

/-- Finds the comment of a target. -/
def Target.lookUp (disk : Disk) (index : DocIndex) : Target → Lookup
  | function c => c.docs.lookUp disk index
  | classType c =>
    let own := c.docs.lookUp disk index
    match c.constructor with
    | none => own
    | some constructor =>
      let inner := constructor.docs.lookUp disk own.index
      ⟨own.doc.merge inner.doc, own.notes ++ inner.notes, inner.index⟩

end ToolSchema
