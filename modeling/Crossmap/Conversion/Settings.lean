import Crossmap.Document.Basic
import Crossmap.Json.Value

/-!
# Settings of a conversion

What a conversion checks and whether it keeps a trace. By default it checks everything and keeps
none.
-/

namespace Crossmap

/-- The settings of a conversion. -/
structure Settings where
  trace : Bool
  /-- Whether source rows are checked for the columns that are read. -/
  checkSource : Bool
  /-- Whether records are checked for mandatory attributes. -/
  checkResult : Bool
  /-- Whether models that do not fit the schema are refused. -/
  refuseUnfit : Bool
  deriving DecidableEq

namespace Settings

/-- Checks everything and keeps no trace. -/
def standard : Settings where
  trace := false
  checkSource := true
  checkResult := true
  refuseUnfit := true

instance : Inhabited Settings := ⟨standard⟩

/-- The settings with the checks of rows and records switched off. -/
def withoutDataChecks (s : Settings) : Settings :=
  { s with checkSource := false, checkResult := false }

/-- The document of settings. -/
def toJson (s : Settings) : Json :=
  .object [("trace", .bool s.trace), ("validate_source_data", .bool s.checkSource),
    ("validate_result", .bool s.checkResult), ("fail_on_semantic_errors", .bool s.refuseUnfit)]

/-- Reads settings from a document; what it leaves out is standard. -/
def ofDocument? {δ : Type} [Document δ] (node : δ) : Option Settings := do
  match ← Document.fields? ["trace", "validate_source_data", "validate_result",
      "fail_on_semantic_errors"] node with
  | [trace, checkSource, checkResult, refuseUnfit] =>
    return {
      trace := ← trace.orElse standard.trace Document.truth?
      checkSource := ← checkSource.orElse standard.checkSource Document.truth?
      checkResult := ← checkResult.orElse standard.checkResult Document.truth?
      refuseUnfit := ← refuseUnfit.orElse standard.refuseUnfit Document.truth? }
  | _ => none

end Settings

end Crossmap
