import Crossmap.Conversion.Phase
import Crossmap.Json.Printer
import Crossmap.Mapping.Model

/-!
# Plans

A plan lists what a conversion will do: a reading step for every data declaration and inspection of
the source model, then a writing step for every data declaration of the target model. It carries
the models along; its document names them only.
-/

namespace Crossmap

/-- A step of a plan. -/
structure PlanStep where
  phase : Phase
  /-- The object that is read, or the class whose records are written. -/
  source : String
  /-- The class of the records that are read, or the object that is written. -/
  target : String
  /-- The direction of the declaration, or that it is an inspection. -/
  detail : String
  deriving DecidableEq, Inhabited

namespace PlanStep

/-- The document of a step. -/
def toJson (s : PlanStep) : Json :=
  .object [("phase", .string s.phase.text), ("source", .string s.source),
    ("target", .string s.target), ("detail", .string s.detail)]

/-- Reads a step from a document. -/
def ofDocument? {δ : Type} [Document δ] (node : δ) : Option PlanStep := do
  match ← Document.fields? ["phase", "source", "target", "detail"] node with
  | [phase, source, target, detail] =>
    return {
      phase := ← phase.required Phase.ofDocument?
      source := ← source.required Document.text?
      target := ← target.required Document.text?
      detail := ← detail.required Document.text? }
  | _ => none

end PlanStep

/-- A plan of a conversion. -/
structure Plan where
  schemaName : String
  sourceName : String
  targetName : String
  sourceModel : Mapping.Model
  targetModel : Mapping.Model
  steps : List PlanStep
  deriving DecidableEq, Inhabited

namespace Plan

/-- The detail of the step of a data declaration. -/
def directionDetail (d : Mapping.DataDeclaration) : String := "direction=" ++ d.direction.text

/-- The step that reads a data declaration. -/
def readStep (d : Mapping.DataDeclaration) : PlanStep :=
  ⟨.read, d.object, d.className, directionDetail d⟩

/-- The step that reads an inspection. -/
def inspectStep (i : Mapping.Inspection) : PlanStep := ⟨.read, i.object, i.className, "inspection"⟩

/-- The step that writes a data declaration. -/
def writeStep (d : Mapping.DataDeclaration) : PlanStep :=
  ⟨.write, d.className, d.object, directionDetail d⟩

/-- The plan of a conversion between two models. -/
def build (schemaName : String) (source target : Mapping.Model) : Plan where
  schemaName := schemaName
  sourceName := source.name
  targetName := target.name
  sourceModel := source
  targetModel := target
  steps := source.data.map readStep ++ source.inspections.map inspectStep
    ++ target.data.map writeStep

/-- The steps of a phase. -/
def stepsOf (p : Plan) (phase : Phase) : List PlanStep := p.steps.filter fun s => s.phase = phase

/-- The document of a plan. -/
def toJson (p : Plan) : Json :=
  .object [("kmModel", .string p.schemaName), ("sourceLm", .string p.sourceName),
    ("targetLm", .string p.targetName), ("steps", .array (p.steps.map PlanStep.toJson))]

/-- The text of a plan. -/
def text (p : Plan) : String := p.toJson.pretty

/-- Reads a plan from a document, which does not say what the models are. -/
def ofDocument? {δ : Type} [Document δ] (node : δ) : Option Plan := do
  match ← Document.fields? ["kmModel", "sourceLm", "targetLm", "steps"] node with
  | [schemaName, sourceName, targetName, steps] =>
    return {
      schemaName := ← schemaName.required Document.text?
      sourceName := ← sourceName.required Document.text?
      targetName := ← targetName.required Document.text?
      sourceModel := .bare ""
      targetModel := .bare ""
      steps := ← steps.required (Document.listOf? PlanStep.ofDocument?) }
  | _ => none

end Plan

end Crossmap
