import ToolSchema.Proofs.Comment.Outline
import ToolSchema.Proofs.Convert.WellFormed

/-!
# Classes and functions

A class is converted like a function whose comment is that of the class, a blank line, and that of
the constructor (`report_classType`). The comment of the one and that of the other have the same
tags (`tags_parse_append`), and an assembly makes no other use of a comment but to take the
description of the tool from it (`assemble_of_tags_eq`).

The tags of the constructor stand behind those of the class, so that they have the last word. What
comes of it for a parameter is said without an order of tags (`Param.documentedOver`).
-/

namespace ToolSchema

/-! ### The description of a tool -/

/-- The tool with another description. -/
def Tool.describedAs (description : String) (tool : Tool) : Tool where
  function := { tool.function with description }

@[simp] theorem Tool.name_describedAs (description : String) (tool : Tool) :
    (tool.describedAs description).function.name = tool.function.name := rfl

@[simp] theorem Tool.description_describedAs (description : String) (tool : Tool) :
    (tool.describedAs description).function.description = description := rfl

@[simp] theorem Tool.parameters_describedAs (description : String) (tool : Tool) :
    (tool.describedAs description).function.parameters = tool.function.parameters := rfl

/-- A description stands for itself while parameters are added. -/
theorem addParameters_description (f : FunctionSchema) (description : String)
    (ps : List Parameter) :
    ({ f with description } : FunctionSchema).addParameters ps =
      { f.addParameters ps with description } := by
  induction ps generalizing f with
  | nil => rfl
  | cons p ps ih => exact ih (f.addParameter p)

theorem describedAs_ofParameters (name d description : String) (ps : List Parameter) :
    (Tool.ofParameters name d ps).describedAs description = .ofParameters name description ps :=
  congrArg Tool.mk (addParameters_description { name, description := d } description ps).symm

variable {config : Config} {disk : Disk} {index : DocIndex}

/-- **An assembly depends on tags**; the description is only handed on. -/
theorem assemble_of_tags_eq {doc other : DocComment} (h : other.tags = doc.tags) (name : String)
    (ps : List Parameter) :
    assemble config name other ps =
      ⟨(assemble config name doc ps).notes,
        (assemble config name doc ps).result.map (Tool.describedAs other.description)⟩ := by
  rw [assemble, assemble, h]
  rcases readTags config doc.tags with ⟨ns, e | tags⟩
  · rfl
  · rw [Traced.ok_bind, Traced.ok_bind]
    rcases applyTags config.typePolicy ps (inPasses tags) with ⟨ms, e | qs⟩
    · rfl
    · simp only [Traced.ok_bind, Traced.pure_eq, Except.map, describedAs_ofParameters]

/-! ### Tags behind others -/

section

variable {own inner : List ParsedTag}

theorem lastSaid_append {α : Type} (respect : ParsedTag → Option α) (parameter : String) :
    lastSaid respect parameter (own ++ inner) =
      (lastSaid respect parameter inner).or (lastSaid respect parameter own) := by
  rw [lastSaid, List.filter_append, List.filterMap_append, List.getLast?_append]
  rfl

theorem isConstrained_append (parameter : String) :
    isConstrained parameter (own ++ inner) =
      (isConstrained parameter own || isConstrained parameter inner) :=
  List.any_append

/-- **A declared parameter of a constructor, as two comments document it.** In every respect it is
the constructor's tags that count, and where they say nothing those of the class. A constraint on
arrays in either comment makes an array. -/
def Param.documentedOver (own inner : List ParsedTag) (p : Param) : Parameter where
  name := p.name
  isRequired := p.kind.isRequired
  type :=
    if isConstrained p.name own || isConstrained p.name inner then .array
    else
      match (lastSaid ParsedTag.typeName? p.name inner).or
          (lastSaid ParsedTag.typeName? p.name own) with
      | some n => (JsonType.ofTypeName? n).getD .string
      | none => .string
  description :=
    ((lastSaid ParsedTag.description? p.name inner).or
      (lastSaid ParsedTag.description? p.name own)).getD (trimmed (p.doc.getD ""))
  enumValues :=
    (lastSaid ParsedTag.values? p.name inner).or (lastSaid ParsedTag.values? p.name own)
  itemsType :=
    (lastSaid ParsedTag.itemType? p.name inner).or (lastSaid ParsedTag.itemType? p.name own)
  minItems :=
    (lastSaid ParsedTag.minCount? p.name inner).or (lastSaid ParsedTag.minCount? p.name own)
  maxItems :=
    (lastSaid ParsedTag.maxCount? p.name inner).or (lastSaid ParsedTag.maxCount? p.name own)

theorem documented_append (p : Param) :
    p.documented (own ++ inner) = p.documentedOver own inner := by
  rw [Param.documented]
  simp only [lastSaid_append, isConstrained_append]
  rfl

end

/-! ### Classes -/

variable {name constructor : String} {params : List Param} {x y : String}

/-- The comment of a class with a constructor is that of both together, but for its description. -/
theorem tags_merge (x y : String) :
    ((DocComment.parse x).merge (DocComment.parse y)).tags =
      (DocComment.parse (x ++ "\n\n" ++ y)).tags :=
  (DocComment.tags_parse_append x y).symm

theorem description_merge (ofClass ofConstructor : DocComment) :
    (ofClass.merge ofConstructor).description =
      if ofClass.description = "" then ofConstructor.description else ofClass.description := by
  rw [DocComment.merge, DocComment.extendTags]
  simp only [String.isEmpty_iff]

theorem report_classType_eq_map :
    ((Target.classType ⟨name, .inline x, some ⟨constructor, params, .inline y⟩⟩).convert config disk
        index).report =
      ((Target.function ⟨name, params, .inline (x ++ "\n\n" ++ y)⟩).convert config disk
        index).report.map fun r ↦
          { r with
            tool := r.tool.describedAs
              ((DocComment.parse x).merge (DocComment.parse y)).description } := by
  rw [report_convert, report_convert]
  have hshape : (Target.classType ⟨name, .inline x, some ⟨constructor, params, .inline y⟩⟩).shape =
      (Target.function ⟨name, params, .inline (x ++ "\n\n" ++ y)⟩).shape := rfl
  rw [hshape]
  rcases (Target.function ⟨name, params, .inline (x ++ "\n\n" ++ y)⟩).shape with e | ps
  · rfl
  · show (assemble config name ((DocComment.parse x).merge (DocComment.parse y)) ps).report [] =
      ((assemble config name (DocComment.parse (x ++ "\n\n" ++ y)) ps).report []).map _
    rw [assemble_of_tags_eq (tags_merge x y)]
    rcases assemble config name (DocComment.parse (x ++ "\n\n" ++ y)) ps with ⟨ns, e | tool⟩ <;>
      rfl

/-- **A class is converted like a function** whose comment is that of the class and, behind a blank
line, that of its constructor: both fail with the same error, or they have the same warnings and the
same parameters. The tool is described by the class, or by the constructor if the class has no
description. What the constructor's tags say of a parameter counts in every respect, and what only
the tags of the class say stays. -/
theorem report_classType (config : Config) (disk : Disk) (index : DocIndex)
    (name constructor : String) (params : List Param) (x y : String) :
    let ofClass := ((Target.classType
      ⟨name, .inline x, some ⟨constructor, params, .inline y⟩⟩).convert config disk index).report
    let ofFunction := ((Target.function
      ⟨name, params, .inline (x ++ "\n\n" ++ y)⟩).convert config disk index).report
    (∃ e, ofClass = .error e ∧ ofFunction = .error e) ∨
      ∃ r r', ofClass = .ok r ∧ ofFunction = .ok r' ∧
        r.warnings = r'.warnings ∧
        r.tool.function.name = r'.tool.function.name ∧
        r.tool.function.parameters = r'.tool.function.parameters ∧
        (r.tool.function.description =
          if (DocComment.parse x).description = "" then (DocComment.parse y).description
          else (DocComment.parse x).description) ∧
        r.tool.function.parameters.properties = params.map fun p ↦
          (p.name, (p.documentedOver ((DocComment.parse x).parsedTags config.valuesParsing)
            ((DocComment.parse y).parsedTags config.valuesParsing)).property) := by
  intro ofClass ofFunction
  have hmap : ofClass = ofFunction.map _ := report_classType_eq_map
  rcases hr : ofFunction with e | r'
  · exact .inl ⟨e, hmap.trans (congrArg (Except.map _) hr), rfl⟩
  · refine .inr ⟨_, r', hmap.trans (congrArg (Except.map _) hr), rfl, rfl,
      Tool.name_describedAs _ _, Tool.parameters_describedAs _ _,
      (Tool.description_describedAs _ _).trans (description_merge _ _), ?_⟩
    -- the tags of the function are those of both comments, one behind the other
    have htags : (DocComment.parse (x ++ "\n\n" ++ y)).parsedTags config.valuesParsing =
        (DocComment.parse x).parsedTags config.valuesParsing ++
          (DocComment.parse y).parsedTags config.valuesParsing := by
      rw [DocComment.parsedTags, DocComment.tags_parse_append, List.filterMap_append]
      rfl
    obtain ⟨-, htool⟩ := tool_of_report hr
    rw [Tool.parameters_describedAs, htool]
    refine List.map_congr_left fun p _ ↦ ?_
    show (p.name, (p.documented
      ((DocComment.parse (x ++ "\n\n" ++ y)).parsedTags config.valuesParsing)).property) = _
    rw [htags, documented_append]

end ToolSchema
