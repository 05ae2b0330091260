import Crossmap.Conversion.Phase

/-!
# Traces

A trace event tells how one value passed from a column to a path, or from a path to a column. A
sink keeps the events of a run in order or drops them; which of the two it does has no bearing on
the run.
-/

namespace Crossmap

/-- The passage of one value. -/
structure TraceEvent where
  phase : Phase
  className : String
  ident : String
  /-- The column or path that it came from. -/
  source : String
  /-- The path or column that it went to. -/
  target : String
  value : Option String
  detail : String
  deriving DecidableEq, Inhabited

namespace TraceEvent

/-- The event on one line. -/
def line (e : TraceEvent) : String :=
  e.phase.text ++ "|" ++ e.className ++ "|" ++ e.ident ++ "|" ++ e.source ++ "->" ++ e.target
    ++ "|" ++ e.value.getD "null" ++ "|" ++ e.detail

/-- The document of an event. -/
def toJson (e : TraceEvent) : Json :=
  .object [("phase", .string e.phase.text), ("className", .string e.className),
    ("ident", .string e.ident), ("sourceColumn", .string e.source),
    ("targetPath", .string e.target), ("value", .ofText? e.value), ("detail", .string e.detail)]

/-- Reads an event from a document. -/
def ofDocument? {δ : Type} [Document δ] (node : δ) : Option TraceEvent := do
  match ← Document.fields? ["phase", "className", "ident", "sourceColumn", "targetPath", "value",
      "detail"] node with
  | [phase, className, ident, source, target, value, detail] =>
    return {
      phase := ← phase.required Phase.ofDocument?
      className := ← className.required Document.text?
      ident := ← ident.required Document.text?
      source := ← source.required Document.text?
      target := ← target.required Document.text?
      value := ← value.optional Document.text?
      detail := ← detail.required Document.text? }
  | _ => none

end TraceEvent

/-- A receiver of trace events. -/
inductive TraceSink where
  | discard
  /-- Events are kept, the first one first. -/
  | keep (events : Array TraceEvent)
  deriving Inhabited

namespace TraceSink

/-- A sink without events that keeps them if it is asked to. -/
def start (tracing : Bool) : TraceSink := if tracing then .keep #[] else .discard

/-- The sink after an event. -/
def receive (e : TraceEvent) : TraceSink → TraceSink
  | .discard => .discard
  | .keep events => .keep (events.push e)

/-- The events that were kept. -/
def events : TraceSink → List TraceEvent
  | .discard => []
  | .keep events => events.toList

end TraceSink

end Crossmap
