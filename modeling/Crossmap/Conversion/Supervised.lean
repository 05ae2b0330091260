import Crossmap.Conversion.Convert
import Crossmap.Conversion.Plan
import Crossmap.Conversion.Settings
import Crossmap.Findings.Models
import Crossmap.Findings.Records
import Crossmap.Findings.Rows

/-!
# Supervised conversions

A conversion under settings: a plan is made only of models that fit the schema, the source rows are
checked before the plan is carried out, and the records afterwards. Settings switch each of the
three checks off. A check refuses or lets pass; it changes nothing.
-/

namespace Crossmap

open Mapping

/-- Why a supervised conversion failed. -/
inductive SupervisionError where
  | unfitModels (messages : List String)
  | unfitRows (messages : List String)
  | unfitRecords (messages : List String)
  /-- The source rows could not be read to be checked. -/
  | storage (e : StorageError)
  | conversion (e : ConversionError)
  deriving DecidableEq, Inhabited

namespace SupervisionError

/-- The messages of a check that refused. -/
def messages : SupervisionError → List String
  | .unfitModels ms => ms
  | .unfitRows ms => ms
  | .unfitRecords ms => ms
  | .storage _ => []
  | .conversion _ => []

/-- The message of a failed supervised conversion. -/
def message : SupervisionError → String
  | .unfitModels ms => "LM validation failed: " ++ Text.joinWith "; " ms
  | .unfitRows ms => "Source data validation failed: " ++ Text.joinWith "; " ms
  | .unfitRecords ms => "Result validation failed: " ++ Text.joinWith "; " ms
  | .storage e => "Storage error: " ++ e.message
  | .conversion e => "Conversion failed: " ++ e.message

end SupervisionError

namespace Settings

variable {ω γ : Type}

/-- The plan of a conversion between two models. -/
def plan (settings : Settings) (schemaName : String) (schema : Schema) (source target : Model) :
    Except SupervisionError Plan :=
  let messages := source.check schema ++ target.check schema
  if settings.refuseUnfit && !messages.isEmpty then .error (.unfitModels messages)
  else .ok (.build schemaName source target)

/-- Refuses when there are messages. -/
def refuse (error : List String → SupervisionError) (messages : List String) :
    Run ω γ SupervisionError Unit :=
  if messages.isEmpty then pure () else throw (error messages)

/-- Checks the source rows of a plan. -/
def checkSourceRows [RecordSource ω] (settings : Settings) (plan : Plan) :
    Run ω γ SupervisionError Unit := do
  if settings.checkSource then
    refuse .unfitRows (← (missingColumns plan.sourceModel).mapError .storage)

/-- Checks the records of a conversion. -/
def checkRecords (settings : Settings) (schema : Schema) (records : List Record) :
    Run ω γ SupervisionError Unit :=
  if settings.checkResult then refuse .unfitRecords (schema.checkRecords records) else pure ()

/-- Carries out a plan. -/
def execute [RecordSource ω] [RecordTarget ω] [IdentSource γ] (settings : Settings)
    (schema : Schema) (plan : Plan) : Run ω γ SupervisionError Outcome := do
  settings.checkSourceRows plan
  let outcome ←
    (Crossmap.convert plan.sourceModel plan.targetModel settings.trace).mapError .conversion
  settings.checkRecords schema outcome.records
  return outcome

/-- Plans a conversion and carries the plan out. -/
def convert [RecordSource ω] [RecordTarget ω] [IdentSource γ] (settings : Settings)
    (schemaName : String) (schema : Schema) (source target : Model) :
    Run ω γ SupervisionError Outcome := do
  let plan ← Run.ofExcept (settings.plan schemaName schema source target)
  settings.execute schema plan

end Settings

end Crossmap
