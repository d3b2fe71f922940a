import ToolSchema.Convert.Trace

/-!
# Assembling a schema

The tags of a comment are taken up in three passes, wherever they stand: the descriptions of parameters,
then their values, then the constraints on arrays. Within a pass they are taken up in written order, so
that the last tag about a part of a parameter counts, and a constraint on an array makes an array of its
parameter whatever type was declared.
-/

namespace ToolSchema

/-- Reads the tags of a comment. A tag that does not follow its grammar is left out with a warning, or
stops the conversion. -/
def readTags (config : Config) : List Tag → Traced (List ParsedTag)
  | [] => return []
  | t :: rest =>
    match t.parse? config.valuesParsing with
    | none => readTags config rest
    | some (.ok parsed) => do
      let others ← readTags config rest
      return parsed :: others
    | some (.error e) => do
      let _ ← Traced.tolerate config.tagPolicy (.malformedTag e) (.invalidTag e) ()
      readTags config rest

/-- The tags in the order of the passes. -/
def inPasses (tags : List ParsedTag) : List ParsedTag :=
  (tags.filter fun t ↦ t.kind == .param) ++ (tags.filter fun t ↦ t.kind == .values) ++
    tags.filter fun t ↦ t.kind.isArrayConstraint

/-- The type of a documented type name. A name that stands for none is a string, or stops the
conversion. -/
def resolveType (policy : Policy) (parameter typeName : String) : Traced JsonType :=
  match JsonType.ofTypeName? typeName with
  | some type => return type
  | none =>
    .tolerate policy (.unknownType parameter typeName) (.unsupportedType parameter typeName) .string

/-- The parameter with what a tag says about it. -/
def Parameter.apply (policy : Policy) (p : Parameter) : ParsedTag → Traced Parameter
  | .param _ [] description => return { p with description }
  | .param _ (typeName :: _) description => do
    let type ← resolveType policy p.name typeName
    return { p with description, type }
  | .values _ values => return { p with enumValues := some values }
  | .itemsType _ typeName =>
    return { p with
      type := .array
      itemsType := some ((JsonType.ofTypeName? typeName).getD .string) }
  | .minItems _ count => return { p with type := .array, minItems := some count }
  | .maxItems _ count => return { p with type := .array, maxItems := some count }

/-- Takes up a tag. It must be about one of the parameters, and is left out with a warning if it is
not. -/
def applyTag (policy : Policy) (tag : ParsedTag) : List Parameter → Traced (List Parameter)
  | [] => do
    Traced.warn (.unknownParameter tag.kind tag.parameter)
    return []
  | p :: rest =>
    if p.name = tag.parameter then do
      let p ← p.apply policy tag
      Traced.note (.applied p.name tag.kind p.type)
      return p :: rest
    else do
      let rest ← applyTag policy tag rest
      return p :: rest

/-- Takes up tags one by one. -/
def applyTags (policy : Policy) (ps : List Parameter) : List ParsedTag → Traced (List Parameter)
  | [] => return ps
  | tag :: rest => do
    let ps ← applyTag policy tag ps
    applyTags policy ps rest

/-- The tool of a name, a description and parameters. -/
def Tool.ofParameters (name description : String) (ps : List Parameter) : Tool :=
  ⟨FunctionSchema.addParameters { name, description } ps⟩

/-- Builds the schema of a tool from what is known about its parameters and from its comment. -/
def assemble (config : Config) (name : String) (doc : DocComment) (ps : List Parameter) :
    Traced Tool := do
  let tags ← readTags config doc.tags
  let ps ← applyTags config.typePolicy ps (inPasses tags)
  return .ofParameters name doc.description ps

end ToolSchema
