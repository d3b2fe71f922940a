import ToolSchema.Schema.Tool

/-!
# Tools of distinct parameters

A tool is built by adding one parameter after the other. Where the names of the parameters differ,
adding never replaces, and the schema lists what it was built from, in its order.
-/

namespace ToolSchema

/-- The schemas of parameters, each under its name. -/
def propertiesOf (ps : List Parameter) : List (String × Property) :=
  ps.map fun p ↦ (p.name, p.property)

/-- The names of the parameters that must be supplied. -/
def requiredNames (ps : List Parameter) : List String :=
  (ps.filter Parameter.isRequired).map Parameter.name

/-- Adding parameters of new and different names lists them behind those that are there. -/
theorem parameters_addParameters (f : FunctionSchema) {ps : List Parameter}
    (h : (f.parameters.properties.map Prod.fst ++ ps.map Parameter.name).Nodup) :
    f.addParameters ps =
      { f with
        parameters :=
          { f.parameters with
            properties := f.parameters.properties ++ propertiesOf ps
            required := f.parameters.required ++ requiredNames ps } } := by
  induction ps generalizing f with
  | nil => simp [FunctionSchema.addParameters, propertiesOf, requiredNames]
  | cons p ps ih =>
    have hp : p.name ∉ f.parameters.properties.map Prod.fst := by
      intro hm
      exact (List.nodup_append.1 h).2.2 _ hm _ (by simp) rfl
    have hadd : (f.addParameter p).parameters.properties =
        f.parameters.properties ++ [(p.name, p.property)] :=
      insertMember_of_notMem _ hp
    rw [FunctionSchema.addParameters, List.foldl_cons, ← FunctionSchema.addParameters,
      ih (f.addParameter p) (by rw [hadd]; simpa using h), hadd]
    cases hr : p.isRequired <;>
      simp [FunctionSchema.addParameter, propertiesOf, requiredNames, hr]

end ToolSchema
