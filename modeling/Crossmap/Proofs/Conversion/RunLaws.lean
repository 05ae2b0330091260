import Crossmap.Conversion.Run
import Crossmap.Proofs.Conversion.Results

/-! # Laws of runs

`exec_bind` takes a run apart at its first step. Five properties of runs follow the steps. A run
that *settles* on a result ends with it in every session and changes nothing but the sink for trace
events (`Run.Settles`); so do runs made of such runs, and their result is computed without a
session. Where the result is a matter of the stores as well, it settles at these stores
(`Run.SettlesAt`). A run that *fails only* with certain errors (`Run.FailsOnly`), that *leaves* a
part of the session as it is (`Run.Leaves`, or `Run.Keeps` for a part of the stores), that *yields*
results of a kind and leaves the stores as they are wherever it ends well (`Run.Yields`), or that
*returns* a value and keeps an invariant of the stores (`Run.Returns`) is made of such runs too.
-/

namespace Crossmap.Run

variable {ω γ ε α β : Type}

/-! ## Steps -/

@[simp] theorem exec_pure (a : α) (s : Session ω γ) :
    (pure a : Run ω γ ε α).exec s = (.ok a, s) := rfl

/-- A run goes on where its first step ended well, and ends where that one failed. -/
theorem exec_bind (r : Run ω γ ε α) (f : α → Run ω γ ε β) (s : Session ω γ) :
    (r >>= f).exec s =
      match r.exec s with
      | (.ok a, s') => (f a).exec s'
      | (.error e, s') => (.error e, s') := by
  change ((ExceptT.bind r f).run).run s = _
  simp only [ExceptT.bind, ExceptT.run, StateT.run, exec]
  rcases ended : (r : StateM (Session ω γ) (Except ε α)) s with ⟨_ | _, _⟩
  · simp only [bind, StateT.bind, ExceptT.bindCont, ended, ExceptT.mk, pure]
    rfl
  · simp only [bind, StateT.bind, ExceptT.bindCont, ended, ExceptT.mk]

/-- What follows a run that ended well starts in the session that the run has left. -/
theorem exec_bind_ok {r : Run ω γ ε α} {f : α → Run ω γ ε β} {s s' : Session ω γ} {a : α}
    (ended : r.exec s = (.ok a, s')) : (r >>= f).exec s = (f a).exec s' := by
  rw [exec_bind, ended]

/-- Nothing of what follows is run after an error. -/
theorem exec_bind_error {r : Run ω γ ε α} {f : α → Run ω γ ε β} {s s' : Session ω γ} {e : ε}
    (ended : r.exec s = (.error e, s')) : (r >>= f).exec s = (.error e, s') := by
  rw [exec_bind, ended]

/-- Two runs one after the other end well exactly if the first one does and the second one does in
the session that the first has left. -/
theorem exec_bind_eq_ok_iff {r : Run ω γ ε α} {f : α → Run ω γ ε β} {s s' : Session ω γ} {b : β} :
    (r >>= f).exec s = (.ok b, s') ↔
      ∃ a mid, r.exec s = (.ok a, mid) ∧ (f a).exec mid = (.ok b, s') := by
  constructor
  · intro ended
    rcases head : r.exec s with ⟨e | a, mid⟩
    · rw [exec_bind_error head] at ended
      cases ended
    · rw [exec_bind_ok head] at ended
      exact ⟨a, mid, rfl, ended⟩
  · rintro ⟨a, mid, head, tail⟩
    rw [exec_bind_ok head, tail]

/-- What is made of a result changes nothing else. -/
theorem exec_bind_pure (r : Run ω γ ε α) (f : α → β) (s : Session ω γ) :
    (r >>= fun a => pure (f a)).exec s = ((r.exec s).1.map f, (r.exec s).2) := by
  rcases ended : r.exec s with ⟨e | a, mid⟩
  · exact exec_bind_error ended
  · exact exec_bind_ok ended

/-- Rewording errors changes neither a good result nor the session. -/
theorem exec_mapError {ε' : Type} (f : ε → ε') (r : Run ω γ ε α) (s : Session ω γ) :
    (r.mapError f).exec s = ((r.exec s).1.mapError f, (r.exec s).2) := by
  change ((ExceptT.adapt f r).run).run s = _
  unfold ExceptT.adapt
  simp only [ExceptT.run, ExceptT.mk, exec, Functor.map, StateT.map, StateT.run, pure, bind]
  rfl

/-- A run that is known to end well has a result and a session that it leaves. -/
theorem exists_exec_eq_ok {r : Run ω γ ε α} {s : Session ω γ}
    (ended : (r.exec s).1.isOk = true) : ∃ a s', r.exec s = (.ok a, s') := by
  obtain ⟨a, result⟩ := exists_eq_ok_of_isOk ended
  exact ⟨a, (r.exec s).2, Prod.ext result rfl⟩

@[simp] theorem exec_ofExcept (x : Except ε α) (s : Session ω γ) :
    (ofExcept x : Run ω γ ε α).exec s = (x, s) := rfl

@[simp] theorem exec_throw (e : ε) (s : Session ω γ) :
    (throw e : Run ω γ ε α).exec s = (.error e, s) := rfl

/-- Rows are read from the stores, and nothing else of the session is touched. -/
theorem exec_readRows [RecordSource ω] (object : String) (filter : Filter) (s : Session ω γ) :
    (readRows object filter : Run ω γ StorageError (List Row)).exec s =
      ((RecordSource.read object filter s.stores).1,
        { s with stores := (RecordSource.read object filter s.stores).2 }) := rfl

/-- Rows are written to the stores, and nothing else of the session is touched. -/
theorem exec_writeRows [RecordTarget ω] (object : String) (rows : List Row) (s : Session ω γ) :
    (writeRows object rows : Run ω γ StorageError Unit).exec s =
      ((RecordTarget.write object rows s.stores).1,
        { s with stores := (RecordTarget.write object rows s.stores).2 }) := rfl

/-! ## Runs that settle on a result -/

/-- A run that ends with one result in every session, and changes nothing but the sink. -/
def Settles (r : Run ω γ ε α) (x : Except ε α) : Prop :=
  ∀ s : Session ω γ, ∃ sink, r.exec s = (x, { s with sink := sink })

/-- A result that is given is what the run settles on. -/
theorem settles_ofExcept (x : Except ε α) : (ofExcept x : Run ω γ ε α).Settles x :=
  fun s => ⟨s.sink, rfl⟩

theorem settles_pure (a : α) : (pure a : Run ω γ ε α).Settles (.ok a) :=
  fun s => ⟨s.sink, rfl⟩

/-- Reporting an event reaches the sink only. -/
theorem settles_report (e : TraceEvent) : (report e : Run ω γ ε Unit).Settles (.ok ()) :=
  fun s => ⟨s.sink.receive e, rfl⟩

/-- Where a run settles on a result, and what follows settles on a result for each of its values,
both together settle on the two results in sequence. -/
theorem Settles.bind {r : Run ω γ ε α} {f : α → Run ω γ ε β} {x : Except ε α}
    {g : α → Except ε β} (first : r.Settles x) (next : ∀ a, (f a).Settles (g a)) :
    (r >>= f).Settles (x >>= g) := by
  intro s
  obtain ⟨sink, ended⟩ := first s
  cases x with
  | error e => exact ⟨sink, exec_bind_error ended⟩
  | ok a =>
      obtain ⟨sink', ended'⟩ := next a { s with sink := sink }
      exact ⟨sink', (exec_bind_ok ended).trans ended'⟩

/-- A fold settles on the fold of the results that its steps settle on. -/
theorem settles_foldlM {f : β → α → Run ω γ ε β} {g : β → α → Except ε β}
    (steps : ∀ b a, (f b a).Settles (g b a)) (l : List α) (b : β) :
    (l.foldlM f b).Settles (l.foldlM g b) := by
  induction l generalizing b with
  | nil => exact settles_pure b
  | cons a rest ih =>
      rw [List.foldlM_cons, List.foldlM_cons]
      exact (steps b a).bind ih

/-- A list of settling steps settles on the list of their results. -/
theorem settles_mapM {f : α → Run ω γ ε β} {g : α → Except ε β}
    (steps : ∀ a, (f a).Settles (g a)) (l : List α) : (l.mapM f).Settles (l.mapM g) := by
  induction l with
  | nil => exact settles_pure []
  | cons a rest ih =>
      rw [List.mapM_cons, List.mapM_cons]
      exact (steps a).bind fun b => ih.bind fun bs => settles_pure (b :: bs)

/-- Runs for the items of a list that all settle on a value settle on the list of the values. -/
theorem settles_mapM_ok {f : α → Run ω γ ε β} {g : α → β} {l : List α}
    (steps : ∀ a ∈ l, (f a).Settles (.ok (g a))) : (l.mapM f).Settles (.ok (l.map g)) := by
  induction l with
  | nil => exact settles_pure []
  | cons a rest ih =>
      rw [List.mapM_cons]
      intro s
      obtain ⟨sink, ended⟩ := steps a List.mem_cons_self s
      obtain ⟨sink', ended'⟩ :=
        ih (fun a member => steps a (List.mem_cons_of_mem _ member)) { s with sink := sink }
      exact ⟨sink', by rw [exec_bind_ok ended, exec_bind_ok ended']; rfl⟩

/-- A run that settles on a result wherever the stores are certain ones. -/
def SettlesAt (r : Run ω γ ε α) (stores : ω) (x : Except ε α) : Prop :=
  ∀ s : Session ω γ, s.stores = stores → ∃ sink, r.exec s = (x, { s with sink := sink })

section SettlesAt

variable {stores : ω}

/-- A run that settles in every session does so with certain stores in particular. -/
theorem Settles.at {r : Run ω γ ε α} {x : Except ε α} (settles : r.Settles x) :
    r.SettlesAt stores x :=
  fun s _ => settles s

/-- What follows needs to settle only for the value that the first run settles on. -/
theorem SettlesAt.bind_ok {r : Run ω γ ε α} {f : α → Run ω γ ε β} {a : α} {y : Except ε β}
    (first : r.SettlesAt stores (.ok a)) (next : (f a).SettlesAt stores y) :
    (r >>= f).SettlesAt stores y := by
  intro s same
  obtain ⟨sink, ended⟩ := first s same
  obtain ⟨sink', ended'⟩ := next { s with sink := sink } same
  exact ⟨sink', (exec_bind_ok ended).trans ended'⟩

/-- A run that settles on an error does so whatever follows it. -/
theorem SettlesAt.bind_error {r : Run ω γ ε α} {e : ε} (first : r.SettlesAt stores (.error e))
    (f : α → Run ω γ ε β) : (r >>= f).SettlesAt stores (.error e) := by
  intro s same
  obtain ⟨sink, ended⟩ := first s same
  exact ⟨sink, exec_bind_error ended⟩

/-- With certain stores, runs in sequence settle on their results in sequence; the first leaves the
stores to the second as they were. -/
theorem SettlesAt.bind {r : Run ω γ ε α} {f : α → Run ω γ ε β} {x : Except ε α}
    {g : α → Except ε β} (first : r.SettlesAt stores x)
    (next : ∀ a, (f a).SettlesAt stores (g a)) : (r >>= f).SettlesAt stores (x >>= g) := by
  cases x with
  | error e => exact first.bind_error f
  | ok a => exact first.bind_ok (next a)

/-- Runs for the items of a list settle one after another, all with the same stores. -/
theorem settlesAt_mapM {f : α → Run ω γ ε β} {g : α → Except ε β} {l : List α}
    (steps : ∀ a ∈ l, (f a).SettlesAt stores (g a)) : (l.mapM f).SettlesAt stores (l.mapM g) := by
  induction l with
  | nil => exact (settles_pure []).at
  | cons a rest ih =>
      rw [List.mapM_cons, List.mapM_cons]
      have further := ih fun a member => steps a (List.mem_cons_of_mem _ member)
      exact (steps a List.mem_cons_self).bind fun b =>
        further.bind fun bs => (settles_pure (b :: bs)).at

end SettlesAt

/-! ## Runs that fail only with certain errors -/

/-- A run whose errors, in whatever session, are all of a kind. -/
def FailsOnly (r : Run ω γ ε α) (kind : ε → Prop) : Prop :=
  ∀ (s s' : Session ω γ) (e : ε), r.exec s = (.error e, s') → kind e

variable {kind : ε → Prop}

/-- Errors of one kind are of every kind that includes it. -/
theorem FailsOnly.mono {r : Run ω γ ε α} {kind' : ε → Prop} (only : r.FailsOnly kind)
    (more : ∀ e, kind e → kind' e) : r.FailsOnly kind' :=
  fun s s' e failed => more e (only s s' e failed)

theorem failsOnly_pure (a : α) : (pure a : Run ω γ ε α).FailsOnly kind := by
  intro s s' e failed
  cases failed

theorem failsOnly_throw {e : ε} (of : kind e) : (throw e : Run ω γ ε α).FailsOnly kind := by
  intro s s' e' failed
  rw [exec_throw] at failed
  cases failed
  exact of

theorem failsOnly_report (e : TraceEvent) : (report e : Run ω γ ε Unit).FailsOnly kind := by
  intro s s' e failed
  cases failed

theorem failsOnly_nextIdent [IdentSource γ] :
    (nextIdent : Run ω γ ε String).FailsOnly kind := by
  intro s s' e failed
  cases failed

theorem failsOnly_startTrace (tracing : Bool) :
    (startTrace tracing : Run ω γ ε Unit).FailsOnly kind := by
  intro s s' e failed
  cases failed

theorem failsOnly_events : (events : Run ω γ ε (List TraceEvent)).FailsOnly kind := by
  intro s s' e failed
  cases failed

/-- A result that is given fails with its own error only. -/
theorem failsOnly_ofExcept {x : Except ε α} (errors : ∀ e, x = .error e → kind e) :
    (ofExcept x : Run ω γ ε α).FailsOnly kind := by
  intro s s' e failed
  rw [exec_ofExcept] at failed
  exact errors e (congrArg Prod.fst failed)

/-- Whatever the errors of a run are, under another wording they are worded so. -/
theorem failsOnly_mapError {ε' : Type} {f : ε' → ε} (r : Run ω γ ε' α) (of : ∀ e, kind (f e)) :
    (r.mapError f).FailsOnly kind := by
  intro s s' e failed
  rw [exec_mapError] at failed
  obtain ⟨result, _⟩ := Prod.mk.inj failed
  cases ended : (r.exec s).1 with
  | ok a => rw [ended] at result; cases result
  | error e' =>
      rw [ended] at result
      cases result
      exact of e'

/-- Runs in sequence fail only with errors of a kind if each of them does. -/
theorem FailsOnly.bind {r : Run ω γ ε α} {f : α → Run ω γ ε β} (first : r.FailsOnly kind)
    (next : ∀ a, (f a).FailsOnly kind) : (r >>= f).FailsOnly kind := by
  intro s s' e failed
  rcases ended : r.exec s with ⟨result, mid⟩
  cases result with
  | error e' =>
      rw [exec_bind_error ended] at failed
      cases failed
      exact first s _ _ ended
  | ok a =>
      rw [exec_bind_ok ended] at failed
      exact next a mid s' e failed

/-- A fold fails only with errors of a kind if each of its steps does. -/
theorem failsOnly_foldlM {f : β → α → Run ω γ ε β} {l : List α}
    (steps : ∀ a ∈ l, ∀ b, (f b a).FailsOnly kind) (b : β) : (l.foldlM f b).FailsOnly kind := by
  induction l generalizing b with
  | nil => exact failsOnly_pure b
  | cons a rest ih =>
      rw [List.foldlM_cons]
      exact (steps a List.mem_cons_self b).bind
        (ih fun a member => steps a (List.mem_cons_of_mem _ member))

/-- Runs for the items of a list fail only with errors of a kind if each of them does. -/
theorem failsOnly_mapM {f : α → Run ω γ ε β} {l : List α}
    (steps : ∀ a ∈ l, (f a).FailsOnly kind) : (l.mapM f).FailsOnly kind := by
  induction l with
  | nil => exact failsOnly_pure []
  | cons a rest ih =>
      rw [List.mapM_cons]
      exact (steps a List.mem_cons_self).bind fun b =>
        (ih fun a member => steps a (List.mem_cons_of_mem _ member)).bind fun bs =>
          failsOnly_pure (b :: bs)

/-! ## Runs that leave a part of the session -/

/-- A run after which a part of the session is what it was, whether the run failed or not. -/
def Leaves {π : Type} (r : Run ω γ ε α) (part : Session ω γ → π) : Prop :=
  ∀ s : Session ω γ, part (r.exec s).2 = part s

section Leaves

variable {π : Type} {part : Session ω γ → π}

theorem leaves_pure (a : α) : (pure a : Run ω γ ε α).Leaves part := fun _ => rfl

theorem leaves_throw (e : ε) : (throw e : Run ω γ ε α).Leaves part := fun _ => rfl

/-- Rewording errors changes nothing of the session. -/
theorem Leaves.mapError {ε' : Type} {r : Run ω γ ε' α} (leaves : r.Leaves part) (f : ε' → ε) :
    (r.mapError f).Leaves part := by
  intro s
  rw [exec_mapError]
  exact leaves s

/-- Runs in sequence leave a part of the session if each of them does. -/
theorem Leaves.bind {r : Run ω γ ε α} {f : α → Run ω γ ε β} (first : r.Leaves part)
    (next : ∀ a, (f a).Leaves part) : (r >>= f).Leaves part := by
  intro s
  have left := first s
  rcases ended : r.exec s with ⟨_ | a, mid⟩
  · rw [exec_bind_error ended]
    rwa [ended] at left
  · rw [exec_bind_ok ended, next a mid]
    rwa [ended] at left

/-- A fold leaves a part of the session if each of its steps does. -/
theorem leaves_foldlM {f : β → α → Run ω γ ε β} (steps : ∀ b a, (f b a).Leaves part) (l : List α)
    (b : β) : (l.foldlM f b).Leaves part := by
  induction l generalizing b with
  | nil => exact leaves_pure b
  | cons a rest ih =>
      rw [List.foldlM_cons]
      exact (steps b a).bind ih

/-- Runs for the items of a list leave a part of the session if each of them does. -/
theorem leaves_mapM {f : α → Run ω γ ε β} (steps : ∀ a, (f a).Leaves part) (l : List α) :
    (l.mapM f).Leaves part := by
  induction l with
  | nil => exact leaves_pure []
  | cons a rest ih =>
      rw [List.mapM_cons]
      exact (steps a).bind fun b => ih.bind fun bs => leaves_pure (b :: bs)

end Leaves

/-- A run after which a part of the stores is what it was, whether the run failed or not. -/
def Keeps {π : Type} (r : Run ω γ ε α) (part : ω → π) : Prop :=
  ∀ s : Session ω γ, part (r.exec s).2.stores = part s.stores

section Keeps

variable {π : Type} {part : ω → π}

/-- What is kept of the stores is a part of the session that is left. -/
theorem Keeps.leaves {r : Run ω γ ε α} (keeps : r.Keeps part) :
    r.Leaves fun s => part s.stores := keeps

/-- A run that settles changes no part of the stores. -/
theorem Settles.keeps {r : Run ω γ ε α} {x : Except ε α} (settles : r.Settles x) :
    r.Keeps part := by
  intro s
  obtain ⟨sink, ended⟩ := settles s
  rw [ended]

theorem keeps_pure (a : α) : (pure a : Run ω γ ε α).Keeps part := fun _ => rfl

theorem keeps_throw (e : ε) : (throw e : Run ω γ ε α).Keeps part := fun _ => rfl

theorem keeps_ofExcept (x : Except ε α) : (ofExcept x : Run ω γ ε α).Keeps part := fun _ => rfl

theorem keeps_nextIdent [IdentSource γ] : (nextIdent : Run ω γ ε String).Keeps part :=
  fun _ => rfl

/-- Rewording errors changes nothing in the stores. -/
theorem Keeps.mapError {ε' : Type} {r : Run ω γ ε' α} (keeps : r.Keeps part) (f : ε' → ε) :
    (r.mapError f).Keeps part :=
  keeps.leaves.mapError f

/-- Runs in sequence keep a part of the stores if each of them does. -/
theorem Keeps.bind {r : Run ω γ ε α} {f : α → Run ω γ ε β} (first : r.Keeps part)
    (next : ∀ a, (f a).Keeps part) : (r >>= f).Keeps part :=
  first.leaves.bind fun a => (next a).leaves

/-- Runs for the items of a list keep a part of the stores if each of them does. -/
theorem keeps_mapM {f : α → Run ω γ ε β} (steps : ∀ a, (f a).Keeps part) (l : List α) :
    (l.mapM f).Keeps part :=
  leaves_mapM (fun a => (steps a).leaves) l

end Keeps

/-! ## Runs that yield results of a kind -/

/-- A run that, started with certain stores, leaves them as they are wherever it ends well, and then
ends with a result of a kind. -/
def Yields (r : Run ω γ ε α) (stores : ω) (kind : α → Prop) : Prop :=
  ∀ (s s' : Session ω γ) (a : α), s.stores = stores → r.exec s = (.ok a, s') →
    kind a ∧ s'.stores = stores

section Yields

variable {stores : ω}

/-- A run that settles on a result yields that result and no other. -/
theorem Settles.yields {r : Run ω γ ε α} {x : Except ε α} (settles : r.Settles x) :
    r.Yields stores fun a => x = .ok a := by
  intro s s' a same ended
  obtain ⟨sink, settled⟩ := settles s
  obtain ⟨result, rfl⟩ := Prod.mk.inj (settled.symm.trans ended)
  exact ⟨result, same⟩

/-- A result of one kind is of every kind that includes it. -/
theorem Yields.mono {r : Run ω γ ε α} {kind kind' : α → Prop} (yields : r.Yields stores kind)
    (more : ∀ a, kind a → kind' a) : r.Yields stores kind' := by
  intro s s' a same ended
  obtain ⟨of, left⟩ := yields s s' a same ended
  exact ⟨more a of, left⟩

/-- What has been resolved yields the value that it was resolved to. -/
theorem yields_resolved (x : Except ResolutionError α) :
    (resolved x : Run ω γ ConversionError α).Yields stores fun a => x = .ok a := by
  refine (settles_ofExcept _).yields.mono fun a result => ?_
  cases x with
  | error e => exact nomatch result
  | ok a' => exact congrArg Except.ok (Except.ok.inj result)

/-- A value yields itself. -/
theorem yields_pure {kind : α → Prop} {a : α} (of : kind a) :
    (pure a : Run ω γ ε α).Yields stores kind := by
  intro s s' b same ended
  obtain ⟨result, rfl⟩ := Prod.mk.inj ended
  obtain rfl := Except.ok.inj result
  exact ⟨of, same⟩

theorem yields_throw {kind : α → Prop} (e : ε) : (throw e : Run ω γ ε α).Yields stores kind := by
  intro s s' a _ ended
  cases ended

theorem yields_nextIdent [IdentSource γ] {kind : String → Prop} (all : ∀ ident, kind ident) :
    (nextIdent : Run ω γ ε String).Yields stores kind := by
  intro s s' ident same ended
  obtain ⟨-, rfl⟩ := Prod.mk.inj ended
  exact ⟨all ident, same⟩

/-- The second of two runs has to yield its kind only for values that the first one yields. -/
theorem Yields.bind {r : Run ω γ ε α} {f : α → Run ω γ ε β} {first : α → Prop} {kind : β → Prop}
    (yields : r.Yields stores first) (next : ∀ a, first a → (f a).Yields stores kind) :
    (r >>= f).Yields stores kind := by
  intro s s' b same ended
  rcases head : r.exec s with ⟨_ | a, mid⟩
  · rw [exec_bind_error head] at ended
    cases ended
  · rw [exec_bind_ok head] at ended
    obtain ⟨of, left⟩ := yields s mid a same head
    exact next a of mid s' b left ended

/-- A list of yielding steps yields results of the kinds of the steps, in their order. -/
theorem yields_mapM {f : α → Run ω γ ε β} {kind : α → β → Prop}
    (steps : ∀ a, (f a).Yields stores (kind a)) (l : List α) :
    (l.mapM f).Yields stores (List.Forall₂ kind l) := by
  induction l with
  | nil => exact yields_pure .nil
  | cons a rest ih =>
      rw [List.mapM_cons]
      refine (steps a).bind fun b of => ?_
      exact ih.bind fun bs further => yields_pure (.cons of further)

end Yields

/-! ## Runs that return a value -/

/-- A run that ends with one value wherever an invariant of the stores stands, changes nothing but
the stores, and leaves the invariant standing. -/
def Returns (r : Run ω γ ε α) (invariant : ω → Prop) (a : α) : Prop :=
  ∀ s : Session ω γ, invariant s.stores →
    ∃ stores, invariant stores ∧ r.exec s = (.ok a, { s with stores := stores })

section Returns

variable {invariant : ω → Prop}

theorem returns_pure (a : α) : (pure a : Run ω γ ε α).Returns invariant a :=
  fun s kept => ⟨s.stores, kept, rfl⟩

/-- The second of two runs finds the invariant standing, so the value that it returns is returned by
both in sequence. -/
theorem Returns.bind {r : Run ω γ ε α} {f : α → Run ω γ ε β} {a : α} {b : β}
    (first : r.Returns invariant a) (next : (f a).Returns invariant b) :
    (r >>= f).Returns invariant b := by
  intro s kept
  obtain ⟨mid, kept, ended⟩ := first s kept
  rw [exec_bind_ok ended]
  exact next _ kept

/-- A run that returns has no errors to reword. -/
theorem Returns.mapError {ε' : Type} {r : Run ω γ ε' α} {a : α} (returns : r.Returns invariant a)
    (f : ε' → ε) : (r.mapError f).Returns invariant a := by
  intro s kept
  obtain ⟨stores, kept, ended⟩ := returns s kept
  refine ⟨stores, kept, ?_⟩
  rw [exec_mapError, ended]
  rfl

/-- Runs for the items of a list that all return return the list of their values. -/
theorem returns_mapM {f : α → Run ω γ ε β} {g : α → β}
    (steps : ∀ a, (f a).Returns invariant (g a)) (l : List α) :
    (l.mapM f).Returns invariant (l.map g) := by
  induction l with
  | nil => exact returns_pure []
  | cons a rest ih =>
      rw [List.mapM_cons]
      exact (steps a).bind (ih.bind (returns_pure _))

end Returns

end Crossmap.Run
