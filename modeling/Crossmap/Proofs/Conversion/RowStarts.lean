import Crossmap.Proofs.Conversion.Dependence

/-! # The rows that reading starts

Reading goes through the rows that the stores give, declaration by declaration, until a row does not
resolve or a read is refused. It has then started certain rows, the one that does not resolve among
them, and no others (`Starts`). Every row that is started has an ident (`Start`): the text in its
ident column, or where no column is declared the next ident of the source of idents. However reading
ends, the idents that were taken from the source are those of the rows that were started without an
ident column, one each and in their order, and the events and the record of a row bear its ident
(`exists_draws_readRecords`).
-/

namespace Crossmap

open Mapping

variable {ω γ : Type}

/-! ## Runs that report events of a kind -/

namespace Run

variable {ε α β : Type} {kind : TraceEvent → Prop} {post : α → Prop}

/-- A run that, however it ends, changes nothing but the sink and gives it events of one kind only.
Where it ends well, its result is of one kind. -/
def Reports (r : Run ω γ ε α) (kind : TraceEvent → Prop) (post : α → Prop) : Prop :=
  ∀ s : Session ω γ, ∃ events, (∀ e ∈ events, kind e) ∧
    (r.exec s).2 = { s with sink := s.sink.receiveAll events } ∧
      ∀ a, (r.exec s).1 = .ok a → post a

/-- A value of a kind is reported without an event. -/
theorem reports_pure {a : α} (of : post a) : (pure a : Run ω γ ε α).Reports kind post := by
  refine fun s => ⟨[], List.forall_mem_nil _, rfl, fun b ended => ?_⟩
  obtain rfl := Except.ok.inj ended
  exact of

theorem reports_ofExcept (x : Except ε α) :
    (ofExcept x : Run ω γ ε α).Reports kind fun _ => True :=
  fun _ => ⟨[], List.forall_mem_nil _, rfl, fun _ _ => trivial⟩

theorem reports_report {e : TraceEvent} (of : kind e) :
    (report e : Run ω γ ε Unit).Reports kind fun _ => True :=
  fun _ => ⟨[e], List.forall_mem_singleton.mpr of, rfl, fun _ _ => trivial⟩

/-- Runs in sequence report the events of both, all of one kind. -/
theorem Reports.bind {r : Run ω γ ε α} {f : α → Run ω γ ε β} {post' : β → Prop}
    (first : r.Reports kind post) (next : ∀ a, post a → (f a).Reports kind post') :
    (r >>= f).Reports kind post' := by
  intro s
  obtain ⟨events, of, left, results⟩ := first s
  rcases ended : r.exec s with ⟨e | a, mid⟩
  · rw [ended] at left
    rw [exec_bind_error ended]
    exact ⟨events, of, left, nofun⟩
  · rw [ended] at left results
    subst left
    obtain ⟨events', of', left', results'⟩ := next a (results a rfl) _
    rw [exec_bind_ok ended]
    refine ⟨events ++ events', List.forall_mem_append.mpr ⟨of, of'⟩, ?_, results'⟩
    rw [left', TraceSink.receiveAll_append]

/-- A fold whose steps keep a property reports events of one kind and keeps it. -/
theorem reports_foldlM {f : α → β → Run ω γ ε α}
    (steps : ∀ a b, post a → (f a b).Reports kind post) (l : List β) {a : α} (of : post a) :
    (l.foldlM f a).Reports kind post := by
  induction l generalizing a with
  | nil => exact reports_pure of
  | cons b rest ih =>
      rw [List.foldlM_cons]
      exact (steps a b of).bind fun _ further => ih further

end Run

/-! ## Rows with idents -/

namespace Reading

/-- Whether all is found that is looked up for a row. -/
def Resolves (m : Model) (r : Reading) (row : Row) : Prop := ∀ l ∈ r.lookups row, l.Resolves m

/-- The ident that a row has, where a source of idents stands ready. -/
def identOfRow [IdentSource γ] (idents : γ) (row : Row) (r : Reading) : Option String :=
  match r.identColumn with
  | none => some (IdentSource.next idents).1
  | some column => row.text? column

/-- The source of idents after a row has been started. -/
def identsAfter [IdentSource γ] (idents : γ) (r : Reading) : γ :=
  match r.identColumn with
  | none => (IdentSource.next idents).2
  | some _ => idents

end Reading

/-- A row that is started, the declaration that reads it, and the ident that the row has. -/
structure Start where
  reading : Reading
  row : Row
  ident : Option String

namespace Start

/-- Whether events bear the ident of a row. -/
def Told (start : Start) (events : List TraceEvent) : Prop :=
  ∀ e ∈ events, start.ident = some e.ident

/-- Whether a record is that of a row, with its ident. -/
structure Becomes (m : Model) (start : Start) (record : Record) : Prop where
  made : start.reading.Makes m start.row record
  ident : start.ident = some record.ident

end Start

section Idents

variable [IdentSource γ]

/-- Rows that are started one after another, each with its ident. -/
def startsFrom (idents : γ) : List (Reading × Row) → List Start
  | [] => []
  | (r, row) :: rest => ⟨r, row, r.identOfRow idents row⟩ :: startsFrom (r.identsAfter idents) rest

/-- The source of idents after rows have been started. -/
def identsLeft (idents : γ) (origins : List (Reading × Row)) : γ :=
  origins.foldl (fun idents o => o.1.identsAfter idents) idents

/-- Idents are taken for rows that follow where those before them left the source. -/
theorem identsLeft_append (idents : γ) (origins origins' : List (Reading × Row)) :
    identsLeft idents (origins ++ origins') = identsLeft (identsLeft idents origins) origins' :=
  List.foldl_append

/-- Rows that follow are started with the idents that come after those of the first. -/
theorem startsFrom_append (idents : γ) (origins origins' : List (Reading × Row)) :
    startsFrom idents (origins ++ origins') =
      startsFrom idents origins ++ startsFrom (identsLeft idents origins) origins' := by
  induction origins generalizing idents with
  | nil => rfl
  | cons o rest ih =>
      rw [List.cons_append, startsFrom, startsFrom, ih, List.cons_append]
      rfl

/-- What a session comes to by starting rows, whatever comes of it: idents are taken for rows that
have none, the events of a row bear its ident, and so does its record, if there are records. -/
structure Drawn (m : Model) (s : Session ω γ) (origins : List (Reading × Row))
    (result : Except ConversionError (List Record)) (s' : Session ω γ) : Prop where
  idents : s'.idents = identsLeft s.idents origins
  told : ∃ told, List.Forall₂ Start.Told (startsFrom s.idents origins) told ∧
    s'.sink = s.sink.receiveAll told.flatten
  records : ∀ records, result = .ok records →
    List.Forall₂ (Start.Becomes m) (startsFrom s.idents origins) records

variable {m : Model} {s mid s' : Session ω γ} {origins origins' : List (Reading × Row)}
  {result : Except ConversionError (List Record)}

/-- A run that starts no row draws no ident and tells nothing. -/
theorem drawn_nothing (sameIdents : s'.idents = s.idents) (sameSink : s'.sink = s.sink)
    (nothing : ∀ records, result = .ok records → records = []) : Drawn m s [] result s' where
  idents := sameIdents
  told := ⟨[], .nil, sameSink⟩
  records := by
    intro records ended
    rw [nothing records ended]
    exact .nil

/-- What two runs in sequence draw is what the first one draws, and then the second one. -/
theorem Drawn.append {records : List Record} (first : Drawn m s origins (.ok records) mid)
    (second : Drawn m mid origins' result s') :
    Drawn m s (origins ++ origins') (result.map (records ++ ·)) s' := by
  obtain ⟨events, bear, told⟩ := first.told
  obtain ⟨events', bear', told'⟩ := second.told
  rw [first.idents] at bear'
  refine ⟨?_, ⟨events ++ events', ?_, ?_⟩, fun all ended => ?_⟩
  · rw [second.idents, first.idents, identsLeft_append]
  · rw [startsFrom_append]
    exact List.rel_append bear bear'
  · rw [told', told, List.flatten_append, TraceSink.receiveAll_append]
  · cases result with
    | error e => cases ended
    | ok others =>
        obtain rfl := Except.ok.inj ended
        have further := second.records others rfl
        rw [first.idents] at further
        rw [startsFrom_append]
        exact List.rel_append (first.records records rfl) further

end Idents

/-! ## One row -/

section Row

/-- The columns of a row are told, and set, under the ident of its record. -/
theorem reports_readColumns (m : Model) (row : Row) (detail : String) (columns : List Column)
    {ident : String} {record : Record} (of : record.ident = ident) :
    (readColumns m row detail columns record : Run ω γ ConversionError Record).Reports
      (fun e => e.ident = ident) fun record => record.ident = ident := by
  refine Run.reports_foldlM (fun record c of => ?_) columns of
  refine (Run.reports_ofExcept _).bind fun value _ => ?_
  refine (Run.reports_report of).bind fun _ _ => Run.reports_pure ?_
  cases value with
  | none => exact of
  | some value => exact of

variable [IdentSource γ]

/-- Reading a row is finding its ident, and then reporting nothing but events with this ident. -/
theorem Reading.exists_readRow_eq_bind (m : Model) (r : Reading) (row : Row) :
    ∃ f : String → Run ω γ ConversionError Record,
      r.readRow m row = (identOf row r.identColumn r.object >>= f) ∧
      ∀ ident, (f ident).Reports (fun e => e.ident = ident) fun record => record.ident = ident := by
  cases r with
  | data d => exact ⟨_, rfl, fun ident => reports_readColumns m row _ d.columns rfl⟩
  | inspection i =>
      refine ⟨_, rfl, fun ident => ?_⟩
      exact (Run.reports_ofExcept _).bind fun _ _ => (Run.reports_ofExcept _).bind fun _ _ =>
        reports_readColumns m row _ i.columns rfl

/-- Where a row has an ident, that one is taken, and the source is left accordingly. -/
theorem Reading.exec_identOf_of_some {r : Reading} {row : Row} {s : Session ω γ} {ident : String}
    (found : r.identOfRow s.idents row = some ident) :
    (identOf row r.identColumn r.object : Run ω γ ConversionError String).exec s =
      (.ok ident, { s with idents := r.identsAfter s.idents }) := by
  unfold identOf identsAfter
  unfold identOfRow at found
  cases declared : r.identColumn with
  | none =>
      rw [declared] at found
      obtain rfl := Option.some.inj found
      rfl
  | some column =>
      rw [declared] at found
      change row.text? column = some ident at found
      simp only [found]
      rfl

/-- Where the ident of a row is missing, the source is left accordingly all the same. -/
theorem Reading.exec_identOf_of_none {r : Reading} {row : Row} {s : Session ω γ}
    (missing : r.identOfRow s.idents row = none) :
    ∃ e, (identOf row r.identColumn r.object : Run ω γ ConversionError String).exec s =
      (.error e, { s with idents := r.identsAfter s.idents }) := by
  unfold identOf identsAfter
  unfold identOfRow at missing
  cases declared : r.identColumn with
  | none =>
      rw [declared] at missing
      cases missing
  | some column =>
      rw [declared] at missing
      change row.text? column = none at missing
      simp only [missing]
      exact ⟨_, rfl⟩

/-- Reading a row ends well exactly if all is found that is looked up for it. -/
theorem Reading.isOk_readRow_iff (m : Model) (r : Reading) (row : Row) (s : Session ω γ) :
    ((r.readRow m row).exec s).1.isOk = true ↔ r.Resolves m row :=
  ((looksUp_readRow (fun _ => True) m r row).ends s trivial).1

/-- **One row.** A row that is started takes an ident if its declaration has no column for it,
whether it resolves or not. -/
theorem Reading.drawn_readRow (m : Model) (r : Reading) (row : Row) (s : Session ω γ) :
    Drawn m s [(r, row)] (((r.readRow m row).exec s).1.map fun record => [record])
        ((r.readRow m row).exec s).2 ∧
      ((r.readRow m row).exec s).2.stores = s.stores := by
  obtain ⟨f, bound, follows⟩ := r.exists_readRow_eq_bind (ω := ω) (γ := γ) m row
  cases ident : r.identOfRow s.idents row with
  | none =>
      obtain ⟨e, missing⟩ := Reading.exec_identOf_of_none ident
      rw [bound, Run.exec_bind_error missing]
      exact ⟨⟨rfl, ⟨[[]], .cons (List.forall_mem_nil _) .nil, rfl⟩, nofun⟩, rfl⟩
  | some ident' =>
      have made (record : Record) (ended : ((r.readRow m row).exec s).1 = .ok record) :
          r.Makes m row record := Reading.makes_of_readRow (Prod.ext ended rfl)
      rw [bound, Run.exec_bind_ok (Reading.exec_identOf_of_some ident)] at made ⊢
      obtain ⟨events, bear, left, results⟩ :=
        follows ident' { s with idents := r.identsAfter s.idents }
      rw [left]
      refine ⟨⟨rfl, ⟨[events], .cons ?_ .nil, ?_⟩, fun records ended => ?_⟩, rfl⟩
      · intro e member
        rw [bear e member]
        exact ident
      · rw [List.flatten_cons, List.flatten_nil, List.append_nil]
      · obtain ⟨record, read, rfl⟩ := map_eq_ok_iff.mp ended
        have bears : some ident' = some record.ident := congrArg some (results record read).symm
        exact .cons ⟨made record read, ident.trans bears⟩ .nil

end Row

/-! ## Rows of one declaration -/

/-- The rows of a declaration that are started, of those that are given: up to the first that does
not resolve, or all of them. -/
inductive Reading.StartsRows (m : Model) (r : Reading) : List Row → List Row → Bool → Prop
  | nothing : StartsRows m r [] [] true
  | stops {row : Row} (fails : ¬ r.Resolves m row) (rest : List Row) :
      StartsRows m r (row :: rest) [row] false
  | goesOn {row : Row} {rest started : List Row} {all : Bool} (resolves : r.Resolves m row)
      (further : StartsRows m r rest started all) :
      StartsRows m r (row :: rest) (row :: started) all

namespace Reading

variable [IdentSource γ]

/-- The rows of a declaration are started up to the first that does not resolve, and draw their
idents in order. -/
theorem drawn_mapM_readRow (m : Model) (r : Reading) (rows : List Row) (s : Session ω γ) :
    ∃ started, r.StartsRows m rows started (((rows.mapM (r.readRow m ·)).exec s).1.isOk) ∧
      Drawn m s (started.map (r, ·)) ((rows.mapM (r.readRow m ·)).exec s).1
          ((rows.mapM (r.readRow m ·)).exec s).2 ∧
        ((rows.mapM (r.readRow m ·)).exec s).2.stores = s.stores := by
  induction rows generalizing s with
  | nil =>
      refine ⟨[], .nothing, drawn_nothing rfl rfl fun records ended => ?_, rfl⟩
      exact (Except.ok.inj ended).symm
  | cons row rest ih =>
      have resolves := r.isOk_readRow_iff m row s
      obtain ⟨drawn, stores⟩ := r.drawn_readRow m row s
      rw [List.mapM_cons]
      rcases ended : (r.readRow m row).exec s with ⟨e | record, mid⟩
      · rw [ended] at resolves drawn stores
        rw [Run.exec_bind_error ended]
        exact ⟨[row], .stops (resolves.not.mp Bool.false_ne_true) rest, drawn, stores⟩
      · rw [ended] at resolves drawn stores
        rw [Run.exec_bind_ok ended]
        rw [Run.exec_bind_pure _ (record :: ·), isOk_map]
        obtain ⟨started, starts, further, left⟩ := ih mid
        refine ⟨row :: started, .goesOn (resolves.mp rfl) starts, ?_, left.trans stores⟩
        exact drawn.append further

end Reading

/-! ## Declarations -/

/-- The rows that declarations start, one after another, of those that the stores give to them. What
the stores come to is given if all rows of all declarations are started and resolve. -/
inductive Starts [RecordSource ω] (m : Model) :
    ω → List Reading → List (Reading × Row) → Option ω → Prop
  | nothing (w : ω) : Starts m w [] [] (some w)
  | refused {w w' : ω} {r : Reading} {e : StorageError}
      (answer : RecordSource.read r.object r.filter w = (.error e, w')) (rest : List Reading) :
      Starts m w (r :: rest) [] none
  | stops {w w' : ω} {r : Reading} {rows started : List Row}
      (answer : RecordSource.read r.object r.filter w = (.ok rows, w'))
      (starts : r.StartsRows m rows started false) (rest : List Reading) :
      Starts m w (r :: rest) (started.map (r, ·)) none
  | goesOn {w w' : ω} {r : Reading} {rows started : List Row} {rest : List Reading}
      {origins : List (Reading × Row)} {left : Option ω}
      (answer : RecordSource.read r.object r.filter w = (.ok rows, w'))
      (starts : r.StartsRows m rows started true) (further : Starts m w' rest origins left) :
      Starts m w (r :: rest) (started.map (r, ·) ++ origins) left

namespace Starts

variable [RecordSource ω] {m : Model} {w w' : ω} {rs rs' : List Reading}
  {origins origins' : List (Reading × Row)} {left : Option ω}

/-- Declarations start their rows behind those that started all of theirs. -/
theorem append (first : Starts m w rs origins (some w')) (second : Starts m w' rs' origins' left) :
    Starts m w (rs ++ rs') (origins ++ origins') left := by
  generalize ended : some w' = complete at first
  induction first with
  | nothing w =>
      obtain rfl := Option.some.inj ended
      exact second
  | refused => cases ended
  | stops => cases ended
  | goesOn answer starts _ ih =>
      rw [List.append_assoc]
      exact .goesOn answer starts (ih ended)

/-- Declarations that come after the end start nothing. -/
theorem append_right (first : Starts m w rs origins none) (rs' : List Reading) :
    Starts m w (rs ++ rs') origins none := by
  generalize ended : none = complete at first
  induction first with
  | nothing => cases ended
  | refused answer rest => exact .refused answer (rest ++ rs')
  | stops answer starts rest => exact .stops answer starts (rest ++ rs')
  | goesOn answer starts _ ih => exact .goesOn answer starts (ih ended)

end Starts

/-- What a session comes to by reading for declarations: it starts the rows that the stores give to
them, up to the first that does not resolve, and draws their idents. -/
structure Draws [RecordSource ω] [IdentSource γ] (m : Model) (s : Session ω γ) (rs : List Reading)
    (origins : List (Reading × Row)) (result : Except ConversionError (List Record))
    (s' : Session ω γ) : Prop where
  starts : Starts m s.stores rs origins (result.toOption.map fun _ => s'.stores)
  drawn : Drawn m s origins result s'

section Read

variable [RecordSource ω] [IdentSource γ] {m : Model}

/-- Where all rows of some declarations resolve, those of further declarations draw the idents that
follow. -/
theorem Draws.append {s mid s' : Session ω γ} {rs rs' : List Reading}
    {origins origins' : List (Reading × Row)} {records : List Record}
    {result : Except ConversionError (List Record)}
    (first : Draws m s rs origins (.ok records) mid)
    (second : Draws m mid rs' origins' result s') :
    Draws m s (rs ++ rs') (origins ++ origins') (result.map (records ++ ·)) s' := by
  refine ⟨?_, first.drawn.append second.drawn⟩
  have further := first.starts.append second.starts
  cases result <;> exact further

/-- Declarations that come after a failure draw nothing. -/
theorem Draws.append_right {s s' : Session ω γ} {rs : List Reading}
    {origins : List (Reading × Row)} {e : ConversionError}
    (failed : Draws m s rs origins (.error e) s') (rs' : List Reading) :
    Draws m s (rs ++ rs') origins (.error e) s' :=
  ⟨failed.starts.append_right rs', failed.drawn⟩

/-- A run that reads the records of declarations. -/
def DrawsFor (m : Model) (rs : List Reading) (run : Run ω γ ConversionError (List Record)) : Prop :=
  ∀ s, ∃ origins, Draws m s rs origins (run.exec s).1 (run.exec s).2

/-- Reading the rows of an object, and then making a record of each. -/
theorem drawsFor_reading (m : Model) (r : Reading) :
    DrawsFor m [r] ((Run.readRows r.object r.filter).mapError .storage >>= fun rows =>
      rows.mapM (r.readRow m ·) : Run ω γ ConversionError (List Record)) := by
  intro s
  have read : ((Run.readRows r.object r.filter).mapError .storage :
      Run ω γ ConversionError (List Row)).exec s = _ := Run.exec_mapError _ _ s
  rw [Run.exec_readRows] at read
  rcases answer : RecordSource.read r.object r.filter s.stores with ⟨e | rows, w⟩
  · rw [answer] at read
    rw [Run.exec_bind_error read]
    exact ⟨[], .refused answer [], drawn_nothing rfl rfl nofun⟩
  · rw [answer] at read
    rw [Run.exec_bind_ok read]
    obtain ⟨started, starts, drawn, stores⟩ :=
      Reading.drawn_mapM_readRow m r rows { s with stores := w }
    refine ⟨started.map (r, ·), ?_, drawn.idents, drawn.told, drawn.records⟩
    rcases ended : (rows.mapM (r.readRow m ·)).exec { s with stores := w } with ⟨e | records, s'⟩
    · rw [ended] at starts
      exact .stops answer starts []
    · rw [ended] at starts stores
      obtain rfl : s'.stores = w := stores
      have all := Starts.goesOn answer starts (.nothing (m := m) s'.stores)
      rwa [List.append_nil] at all

/-- Runs in sequence draw for the declarations of the first one and then of the second one. -/
theorem DrawsFor.append {rs rs' : List Reading} {run run' : Run ω γ ConversionError (List Record)}
    (first : DrawsFor m rs run) (second : DrawsFor m rs' run') :
    DrawsFor m (rs ++ rs') (run >>= fun records => run' >>= fun others =>
      pure (records ++ others)) := by
  intro s
  obtain ⟨origins, draws⟩ := first s
  rcases ended : run.exec s with ⟨e | records, mid⟩
  · rw [ended] at draws
    rw [Run.exec_bind_error ended]
    exact ⟨origins, draws.append_right rs'⟩
  · rw [ended] at draws
    rw [Run.exec_bind_ok ended, Run.exec_bind_pure _ (records ++ ·)]
    obtain ⟨origins', further⟩ := second mid
    exact ⟨origins ++ origins', draws.append further⟩

/-- Reading for declarations one after another. -/
theorem drawsFor_mapM {δ : Type} {reading : δ → Reading}
    {f : δ → Run ω γ ConversionError (List Record)} (reads : ∀ d, DrawsFor m [reading d] (f d))
    (ds : List δ) :
    DrawsFor m (ds.map reading) (ds.mapM f >>= fun records => pure records.flatten) := by
  induction ds with
  | nil => exact fun s => ⟨[], .nothing s.stores, drawn_nothing rfl rfl fun records ended =>
      (Except.ok.inj ended).symm⟩
  | cons d rest ih =>
      have both := (reads d).append ih
      rw [List.mapM_cons, List.map_cons]
      simp only [bind_assoc, pure_bind, List.flatten_cons] at both ⊢
      exact both

/-- **Reading draws an ident for every row that it starts without an ident column**, in the order of
the rows, and draws no others, however it ends. -/
theorem exists_draws_readRecords (m : Model) (s : Session ω γ) :
    ∃ origins, Draws m s m.readings origins ((readRecords m).exec s).1
      ((readRecords m).exec s).2 := by
  have data : DrawsFor m (m.data.map .data) (m.data.mapM (readData m) >>= fun records =>
      pure records.flatten : Run ω γ ConversionError (List Record)) :=
    drawsFor_mapM (fun d => drawsFor_reading m (.data d)) m.data
  have inspections : DrawsFor m (m.inspections.map .inspection)
      (m.inspections.mapM (inspect m) >>= fun records =>
        pure records.flatten : Run ω γ ConversionError (List Record)) :=
    drawsFor_mapM (fun i => drawsFor_reading m (.inspection i)) m.inspections
  have both := data.append inspections
  simp only [bind_assoc, pure_bind] at both
  exact both s

end Read

end Crossmap
