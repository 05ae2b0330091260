import Crossmap.Proofs.Conversion.Reading

/-! # What runs tell

A run that ends well has given the sink some events, which are a matter of its result
(`Run.Tells`). The events of a row are those of its columns, with the class and the ident of the
record that is made of it (`tells_readDataRow`, `tells_inspectRow`). Writing tells the events of the
columns of every declaration for every record that it writes (`tells_writeRecords`).
-/

namespace Crossmap

open Mapping

variable {ω γ : Type}

/-! ## Sinks -/

namespace TraceSink

/-- The sink after events, one after another. -/
def receiveAll (events : List TraceEvent) (sink : TraceSink) : TraceSink :=
  events.foldl (fun sink e => sink.receive e) sink

/-- A sink receives events one after another, however they are grouped. -/
theorem receiveAll_append (events events' : List TraceEvent) (sink : TraceSink) :
    sink.receiveAll (events ++ events') = (sink.receiveAll events).receiveAll events' :=
  List.foldl_append

/-- A sink that keeps events has those that it had and those that it receives. -/
theorem events_receiveAll_keep (kept : Array TraceEvent) (events : List TraceEvent) :
    ((keep kept).receiveAll events).events = kept.toList ++ events := by
  induction events generalizing kept with
  | nil => exact (List.append_nil _).symm
  | cons e rest ih =>
      change ((keep (kept.push e)).receiveAll rest).events = _
      rw [ih, Array.toList_push, List.append_assoc, List.singleton_append]

/-- A sink that keeps events from the start has those that it received. -/
theorem events_receiveAll_start (events : List TraceEvent) :
    ((start true).receiveAll events).events = events :=
  events_receiveAll_keep #[] events

end TraceSink

/-! ## Events of runs -/

namespace Run

variable {ε α β : Type}

/-- A run that, wherever it ends well, has given the sink events that go with its result. -/
def Tells (r : Run ω γ ε α) (told : α → List TraceEvent → Prop) : Prop :=
  ∀ (s s' : Session ω γ) (a : α), r.exec s = (.ok a, s') →
    ∃ events, told a events ∧ s'.sink = s.sink.receiveAll events

/-- A run that, wherever it ends well, has given the sink nothing. -/
def Silent (r : Run ω γ ε α) : Prop := r.Tells fun _ events => events = []

variable {told : α → List TraceEvent → Prop}

/-- A run tells all that follows from what it is known to tell. -/
theorem Tells.mono {r : Run ω γ ε α} {told' : α → List TraceEvent → Prop} (tells : r.Tells told)
    (more : ∀ a events, told a events → told' a events) : r.Tells told' := by
  intro s s' a ended
  obtain ⟨events, goes, received⟩ := tells s s' a ended
  exact ⟨events, more a events goes, received⟩

theorem tells_pure {a : α} (goes : told a []) : (pure a : Run ω γ ε α).Tells told := by
  intro s s' b ended
  obtain ⟨result, rfl⟩ := Prod.mk.inj ended
  obtain rfl := Except.ok.inj result
  exact ⟨[], goes, rfl⟩

/-- Reporting an event tells that event. -/
theorem tells_report (e : TraceEvent) :
    (report e : Run ω γ ε Unit).Tells fun _ events => events = [e] := by
  intro s s' _ ended
  obtain ⟨-, rfl⟩ := Prod.mk.inj ended
  exact ⟨[e], rfl, rfl⟩

/-- Runs in sequence tell the events of the first one and then those of the second one. -/
theorem Tells.bind {r : Run ω γ ε α} {f : α → Run ω γ ε β} {told' : β → List TraceEvent → Prop}
    (first : r.Tells told)
    (next : ∀ a events, told a events →
      (f a).Tells fun b events' => told' b (events ++ events')) : (r >>= f).Tells told' := by
  intro s s' b ended
  obtain ⟨a, mid, head, tail⟩ := exec_bind_eq_ok_iff.mp ended
  obtain ⟨events, goes, received⟩ := first s mid a head
  obtain ⟨events', goes', received'⟩ := next a events goes mid s' b tail
  refine ⟨events ++ events', goes', ?_⟩
  rw [TraceSink.receiveAll_append, ← received, received']

/-- What follows a silent run is all that is told. -/
theorem Silent.bind {r : Run ω γ ε α} {f : α → Run ω γ ε β} {told' : β → List TraceEvent → Prop}
    (first : r.Silent) (next : ∀ a, (f a).Tells told') : (r >>= f).Tells told' := by
  refine Tells.bind first fun a events none => ?_
  rw [none]
  exact next a

/-- A run that leaves the sink as it is, is silent. -/
theorem silent_of_exec {r : Run ω γ ε α} (untouched : ∀ s, (r.exec s).2.sink = s.sink) :
    r.Silent := by
  intro s s' a ended
  have same := untouched s
  rw [ended] at same
  exact ⟨[], rfl, same⟩

theorem silent_pure (a : α) : (pure a : Run ω γ ε α).Silent := tells_pure rfl

theorem silent_ofExcept (x : Except ε α) : (ofExcept x : Run ω γ ε α).Silent :=
  silent_of_exec fun _ => rfl

theorem silent_nextIdent [IdentSource γ] : (nextIdent : Run ω γ ε String).Silent :=
  silent_of_exec fun _ => rfl

/-- Handing rows over tells nothing. -/
theorem silent_writeRows [RecordTarget ω] (object : String) (rows : List Row) :
    ((writeRows object rows).mapError .storage : Run ω γ ConversionError Unit).Silent :=
  silent_of_exec fun _ => by rw [exec_mapError, exec_writeRows]

/-- What a resolved value is followed by is told of that value. -/
theorem tells_resolved_bind {x : Except ResolutionError α} {f : α → Run ω γ ConversionError β}
    {told' : β → List TraceEvent → Prop} (next : ∀ a, x = .ok a → (f a).Tells told') :
    (resolved x >>= f).Tells told' := by
  intro s s' b ended
  obtain ⟨a, mid, head, tail⟩ := exec_bind_eq_ok_iff.mp ended
  obtain ⟨result, rfl⟩ := Prod.mk.inj head
  exact next a (mapError_eq_ok_iff.mp result) _ s' b tail

/-- Steps from one accumulator of a kind to the next tell their events one after another. -/
theorem tells_foldlM {f : β → α → Run ω γ ε β} {kind : β → Prop} {told : α → List TraceEvent}
    (steps : ∀ b a, kind b → (f b a).Tells fun b' events => kind b' ∧ events = told a)
    (l : List α) {b : β} (of : kind b) :
    (l.foldlM f b).Tells fun b' events => kind b' ∧ events = l.flatMap told := by
  induction l generalizing b with
  | nil => exact tells_pure ⟨of, rfl⟩
  | cons a rest ih =>
      rw [List.foldlM_cons]
      refine (steps b a of).bind fun b' events first => ?_
      obtain ⟨of', rfl⟩ := first
      refine (ih of').mono fun b'' events further => ?_
      obtain ⟨of'', rfl⟩ := further
      exact ⟨of'', rfl⟩

/-- A list of steps tells the events of every step with its result. -/
theorem tells_mapM {f : α → Run ω γ ε β} {told : α → β → List TraceEvent}
    (steps : ∀ a, (f a).Tells fun b events => events = told a b) (l : List α) :
    (l.mapM f).Tells fun bs events => l.length = bs.length ∧
      events = (l.zip bs).flatMap fun p => told p.1 p.2 := by
  induction l with
  | nil => exact tells_pure ⟨rfl, rfl⟩
  | cons a rest ih =>
      rw [List.mapM_cons]
      refine (steps a).bind fun b events first => ?_
      subst first
      refine ih.bind fun bs events further => ?_
      obtain ⟨length, rfl⟩ := further
      refine tells_pure ⟨congrArg Nat.succ length, ?_⟩
      rw [List.append_nil, List.zip_cons_cons, List.flatMap_cons]

/-- Events that are no matter of the results. -/
theorem tells_mapM_of_forall {f : α → Run ω γ ε β} {told : α → List TraceEvent}
    (steps : ∀ a, (f a).Tells fun _ events => events = told a) (l : List α) :
    (l.mapM f).Tells fun _ events => events = l.flatMap told := by
  refine (tells_mapM steps l).mono fun bs events both => ?_
  obtain ⟨length, rfl⟩ := both
  rw [← List.flatMap_map, List.map_fst_zip (Nat.le_of_eq length)]

end Run

/-! ## Reading -/

/-- The event of a column that is read into a record. -/
def readEvent (m : Model) (row : Row) (detail : String) (record : Record) (c : Column) :
    TraceEvent where
  phase := .read
  className := record.className
  ident := record.ident
  source := c.sourceColumn
  target := c.targetPath
  value := (m.forward c.valueMap (row.text? c.sourceColumn)).toOption.join
  detail := detail

namespace Reading

/-- What the events of a declaration say of where they come from. -/
def detail : Reading → String
  | .data d => "source=" ++ d.object
  | .inspection i => "inspection=" ++ i.object

/-- The events of a row that a record is made of: one for every column. -/
def events (m : Model) (r : Reading) (row : Row) (record : Record) : List TraceEvent :=
  r.columns.map (readEvent m row r.detail record)

end Reading

/-- Reading a column changes nothing but the values of a record, and tells one event about it. -/
theorem tells_readColumn (m : Model) (row : Row) (detail : String) (record : Record) (c : Column) :
    (readColumn m row detail record c : Run ω γ ConversionError Record).Tells
      fun record' events => (∃ values, record' = { record with values := values }) ∧
        events = [readEvent m row detail record c] := by
  refine Run.tells_resolved_bind fun value found => ?_
  refine (Run.tells_report _).bind fun _ events told => ?_
  subst told
  refine Run.tells_pure ⟨?_, ?_⟩
  · cases value with
    | none => exact ⟨record.values, rfl⟩
    | some value => exact ⟨_, rfl⟩
  · rw [readEvent, found]
    rfl

/-- Reading columns tells one event for each of them, in their order. -/
theorem tells_readColumns (m : Model) (row : Row) (detail : String) (columns : List Column)
    (record : Record) :
    (readColumns m row detail columns record : Run ω γ ConversionError Record).Tells
      fun record' events => events = columns.map (readEvent m row detail record') := by
  have steps (r : Record) (c : Column) (of : ∃ values, r = { record with values := values }) :
      (readColumn m row detail r c : Run ω γ ConversionError Record).Tells fun r' events =>
        (∃ values, r' = { record with values := values }) ∧
          events = [readEvent m row detail record c] := by
    obtain ⟨values, rfl⟩ := of
    exact tells_readColumn m row detail { record with values := values } c
  refine (Run.tells_foldlM steps columns ⟨record.values, rfl⟩).mono fun r events told => ?_
  obtain ⟨⟨values, rfl⟩, rfl⟩ := told
  exact List.map_eq_flatMap.symm

section Read

variable [IdentSource γ]

/-- Finding an ident tells nothing. -/
theorem silent_identOf (row : Row) (identColumn : Option String) (object : String) :
    (identOf row identColumn object : Run ω γ ConversionError String).Silent := by
  unfold identOf
  split
  case h_1 => exact Run.silent_nextIdent
  case h_2 =>
    split
    case h_1 => exact Run.silent_pure _
    case h_2 => exact Run.silent_ofExcept _

/-- Reading a row tells the events of its columns, with the record that is made of it. -/
theorem tells_readDataRow (m : Model) (d : DataDeclaration) (row : Row) :
    (readDataRow m d row : Run ω γ ConversionError Record).Tells
      fun record events => events = (Reading.data d).events m row record :=
  (silent_identOf row _ _).bind fun _ => tells_readColumns m row _ _ _

/-- Inspecting a row tells the events of its columns, with the record that is made of it. -/
theorem tells_inspectRow (m : Model) (i : Inspection) (row : Row) :
    (inspectRow m i row : Run ω γ ConversionError Record).Tells
      fun record events => events = (Reading.inspection i).events m row record :=
  (silent_identOf row _ _).bind fun _ => (Run.silent_ofExcept _).bind fun _ =>
    (Run.silent_ofExcept _).bind fun _ => tells_readColumns m row _ _ _

end Read

/-! ## Writing -/

/-- The event of a column that is written for a record. -/
def writeEvent (m : Model) (detail : String) (record : Record) (c : Column) : TraceEvent where
  phase := .write
  className := record.className
  ident := record.ident
  source := c.targetPath
  target := c.sourceColumn
  value := (m.backward c.valueMap (record.field? c.targetPath)).toOption.bind cellText
  detail := detail

/-- The events of a record that a declaration writes: one for every column. -/
def Mapping.DataDeclaration.events (m : Model) (d : DataDeclaration) (record : Record) :
    List TraceEvent :=
  d.columns.map (writeEvent m ("target=" ++ d.object) record)

/-- Making a row of a record tells one event for each column. -/
theorem tells_writeRow (m : Model) (d : DataDeclaration) (record : Record) :
    (writeRow m d record : Run ω γ ConversionError Row).Tells
      fun _ events => events = d.events m record := by
  have steps (w : Row) (c : Column) (_ : True) :
      (writeColumn m record ("target=" ++ d.object) w c : Run ω γ ConversionError Row).Tells
        fun _ events => True ∧ events = [writeEvent m ("target=" ++ d.object) record c] := by
    refine Run.tells_resolved_bind fun cell found => ?_
    refine (Run.tells_report _).bind fun _ events told => ?_
    subst told
    refine Run.tells_pure ⟨trivial, ?_⟩
    rw [writeEvent, found]
    rfl
  refine (Run.tells_foldlM steps d.columns trivial).mono fun w events told => ?_
  rw [told.2]
  exact List.map_eq_flatMap.symm

/-- Writing records tells the events of every declaration for the records of its class, in the order
in which they are written. -/
theorem tells_writeRecords [RecordTarget ω] (m : Model) (records : List Record) :
    (writeRecords m records : Run ω γ ConversionError (Dict String Nat)).Tells
      fun _ events =>
        events = m.data.flatMap fun d => (recordsFor d records).flatMap (d.events m) := by
  have steps (counts : Dict String Nat) (d : DataDeclaration) (_ : True) :
      (writeData m records counts d : Run ω γ ConversionError (Dict String Nat)).Tells
        fun _ events => True ∧ events = (recordsFor d records).flatMap (d.events m) := by
    refine (Run.tells_mapM_of_forall (tells_writeRow m d) _).bind fun rows events told => ?_
    refine (Run.silent_writeRows d.object rows).bind fun _ => ?_
    refine Run.tells_pure ⟨trivial, ?_⟩
    rw [List.append_nil, told]
  exact (Run.tells_foldlM steps m.data trivial).mono fun _ _ told => told.2

end Crossmap
