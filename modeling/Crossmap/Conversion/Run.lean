import Crossmap.Conversion.Ident
import Crossmap.Conversion.Resolve
import Crossmap.Conversion.Trace

/-!
# Runs

A `Run` acts on a session: stored rows, a source of idents and a sink for trace events. A run that
fails leaves the session as it was when it failed; what had been written stays written.
-/

namespace Crossmap

/-- What a run acts on. -/
structure Session (ω γ : Type) where
  stores : ω
  idents : γ
  sink : TraceSink

/-- A run that ends with a value or fails, and changes the session in either case. -/
abbrev Run (ω γ ε α : Type) := ExceptT ε (StateM (Session ω γ)) α

namespace Run

variable {ω γ ε α : Type}

/-- Starts a run on a session: how it ends, and the session afterwards. -/
def exec (r : Run ω γ ε α) (s : Session ω γ) : Except ε α × Session ω γ :=
  (ExceptT.run r).run s

/-- A run that ends at once, as the result says. -/
def ofExcept (r : Except ε α) : Run ω γ ε α := ExceptT.mk (pure r)

/-- The run with another wording of its failures. -/
def mapError {ε' : Type} (f : ε → ε') (r : Run ω γ ε α) : Run ω γ ε' α :=
  ExceptT.adapt f r

/-- A value that has to be resolved. -/
def resolved (r : Except ResolutionError α) : Run ω γ ConversionError α :=
  ofExcept (r.mapError .resolution)

/-- Reads the rows of an object that satisfy a filter. -/
def readRows [RecordSource ω] (object : String) (filter : Filter) :
    Run ω γ StorageError (List Row) :=
  ExceptT.mk fun s =>
    let r := RecordSource.read object filter s.stores
    (r.1, { s with stores := r.2 })

/-- Writes a batch to an object. -/
def writeRows [RecordTarget ω] (object : String) (rows : List Row) : Run ω γ StorageError Unit :=
  ExceptT.mk fun s =>
    let r := RecordTarget.write object rows s.stores
    (r.1, { s with stores := r.2 })

/-- Takes an ident from the source of idents. -/
def nextIdent [IdentSource γ] : Run ω γ ε String :=
  ExceptT.mk fun s =>
    let r := IdentSource.next s.idents
    (.ok r.1, { s with idents := r.2 })

/-- Gives an event to the sink. -/
def report (e : TraceEvent) : Run ω γ ε Unit :=
  ExceptT.mk fun s => (.ok (), { s with sink := s.sink.receive e })

/-- Begins a trace, if one is wanted. -/
def startTrace (tracing : Bool) : Run ω γ ε Unit :=
  ExceptT.mk fun s => (.ok (), { s with sink := .start tracing })

/-- The events of the trace so far. -/
def events : Run ω γ ε (List TraceEvent) := ExceptT.mk fun s => (.ok s.sink.events, s)

end Run

end Crossmap
