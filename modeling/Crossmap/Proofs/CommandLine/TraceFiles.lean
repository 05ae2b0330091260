import Crossmap.Proofs.Conversion.Supervision
import Crossmap.Proofs.Conversion.TraceLines
import Crossmap.Proofs.Files.Tree
import Crossmap.Proofs.Text.Utf8

/-! # Files of traces

A command looks at its files before it carries a plan out, and looking changes nothing
(`CommandRun.Looks`). So where a command that converts ends well and was asked for a trace, a traced
conversion between the models of its files has ended well, and the text of its trace is in the file
that was asked for (`trace_file_holds_trace`).
-/

namespace Crossmap

open Mapping Text

variable {γ α β ε : Type}

/-! ## Commands in progress -/

namespace CommandRun

variable {w w' : Workplace γ}

/-- Carries out a command in progress. -/
def exec (r : CommandRun γ α) (w : Workplace γ) : Except CommandError α × Workplace γ :=
  (ExceptT.run r).run w

/-- A command goes on where its first step ended well, and ends where that one failed. -/
theorem exec_bind (r : CommandRun γ α) (f : α → CommandRun γ β) (w : Workplace γ) :
    (r >>= f).exec w =
      match r.exec w with
      | (.ok a, mid) => (f a).exec mid
      | (.error e, mid) => (.error e, mid) := by
  unfold exec ExceptT.run StateT.run
  simp only [bind, ExceptT.bind, ExceptT.mk, StateT.bind, ExceptT.bindCont]
  cases r w with
  | mk result mid => cases result <;> rfl

/-- Parts of a command in sequence end well exactly if each of them does, the second in the
workplace that the first has left. -/
theorem exec_bind_eq_ok_iff {r : CommandRun γ α} {f : α → CommandRun γ β} {b : β} :
    (r >>= f).exec w = (.ok b, w') ↔
      ∃ a mid, r.exec w = (.ok a, mid) ∧ (f a).exec mid = (.ok b, w') := by
  rw [exec_bind]
  rcases r.exec w with ⟨e | a, mid⟩
  · exact iff_of_false nofun nofun
  · constructor
    · intro ended
      exact ⟨a, mid, rfl, ended⟩
    · rintro ⟨_, _, ⟨⟩, ended⟩
      exact ended

theorem exec_get (w : Workplace γ) : (get : CommandRun γ (Workplace γ)).exec w = (.ok w, w) := rfl

/-- What is found out from files is found out without touching them. -/
theorem exec_fromFiles (wrap : ε → CommandError) (f : FileTree → Except ε α) (w : Workplace γ) :
    (fromFiles wrap f).exec w = ((f w.files).mapError wrap, w) := by
  unfold fromFiles
  rw [exec_bind, exec_get]
  dsimp only
  cases f w.files <;> rfl

/-- A file that a command has written holds the text. -/
theorem readText_of_writeFile {path text : String}
    (written : (writeFile path text).exec w = (.ok (), w')) :
    w'.files.readText path = .ok text := by
  unfold writeFile at written
  rw [exec_bind, exec_get] at written
  dsimp only at written
  cases ended : w.files.write path (Utf8.bytes text) with
  | error e =>
      rw [ended] at written
      cases written
  | ok files =>
      rw [ended] at written
      obtain ⟨-, rfl⟩ := Prod.mk.inj written
      obtain ⟨-, content⟩ := FileTree.read_of_write ended
      refine bind_eq_ok_iff.mpr ⟨_, content, ?_⟩
      rw [Utf8.decode_bytes]
      rfl

/-! ## Commands that only look -/

/-- A command in progress that leaves everything as it is. -/
def Looks (r : CommandRun γ α) : Prop := ∀ w : Workplace γ, (r.exec w).2 = w

theorem looks_pure (a : α) : (pure a : CommandRun γ α).Looks := fun _ => rfl

theorem looks_throw (e : CommandError) : (throw e : CommandRun γ α).Looks := fun _ => rfl

/-- Finding something out from files is looking. -/
theorem looks_fromFiles (wrap : ε → CommandError) (f : FileTree → Except ε α) :
    (fromFiles wrap f : CommandRun γ α).Looks := by
  intro w
  rw [exec_fromFiles]

/-- Parts of a command that only look do so in sequence. -/
theorem Looks.bind {r : CommandRun γ α} {f : α → CommandRun γ β} (first : r.Looks)
    (next : ∀ a, (f a).Looks) : (r >>= f).Looks := by
  intro w
  have left := first w
  rw [exec_bind]
  rcases ended : r.exec w with ⟨e | a, mid⟩
  · rwa [ended] at left
  · rw [ended] at left
    obtain rfl : mid = w := left
    exact next a mid

/-- What is done after looking is done to the same workplace. -/
theorem Looks.exists_of_bind {r : CommandRun γ α} {f : α → CommandRun γ β} (looks : r.Looks)
    {b : β} (ended : (r >>= f).exec w = (.ok b, w')) :
    ∃ a, (r.exec w).1 = .ok a ∧ (f a).exec w = (.ok b, w') := by
  obtain ⟨a, mid, first, further⟩ := exec_bind_eq_ok_iff.mp ended
  have left := looks w
  rw [first] at left
  obtain rfl : mid = w := left
  exact ⟨a, congrArg Prod.fst first, further⟩

/-- Settling the settings of a command is looking. -/
theorem looks_settingsFor (a : ConvertArguments) :
    (settingsFor a : CommandRun γ Settings).Looks := by
  unfold settingsFor readSettings
  refine Looks.bind ?_ fun _ => looks_pure _
  cases a.settings with
  | none => exact looks_pure _
  | some path =>
      refine (looks_fromFiles _ _).bind fun text => ?_
      split
      · exact looks_pure _
      · exact looks_throw _

/-- Loading models and a schema is looking. -/
theorem looks_load (paths : ModelPaths) : (load paths : CommandRun γ Loaded).Looks :=
  (looks_fromFiles _ _).bind fun _ => (looks_fromFiles _ _).bind fun _ =>
    (looks_fromFiles _ _).bind fun _ => looks_pure _

/-- Finding a directory of tables is looking. -/
theorem looks_tablesAt (kind : EndpointKind) (path : String) (delimiter : Char) :
    (tablesAt kind path delimiter : CommandRun γ TableDirectory).Looks := by
  unfold tablesAt
  cases kind with
  | duckdb => exact looks_throw _
  | csv =>
      dsimp only
      split
      · exact looks_pure _
      · exact looks_throw _

/-- Making a plan is looking. -/
theorem looks_makePlan (settings : Settings) (l : Loaded) :
    (makePlan settings l : CommandRun γ Plan).Looks := by
  unfold makePlan
  split
  · exact looks_pure _
  · exact looks_throw _

/-- Settings trace where arguments name a file for the trace. -/
theorem trace_of_settingsFor {a : ConvertArguments} {settings : Settings}
    (asked : a.traceOut.isSome = true) (ended : ((settingsFor a).exec w).1 = .ok settings) :
    settings.trace = true := by
  obtain ⟨read, mid, -, chosen⟩ := exec_bind_eq_ok_iff.mp (Prod.ext ended rfl)
  rw [asked] at chosen
  obtain rfl := Except.ok.inj (congrArg Prod.fst chosen)
  cases a.noValidate <;> rfl

/-- What is loaded are the models of the files. -/
theorem readModel_of_load {paths : ModelPaths} {l : Loaded}
    (ended : ((load paths).exec w).1 = .ok l) :
    w.files.readModel paths.source = .ok l.source ∧
      w.files.readModel paths.target = .ok l.target := by
  obtain ⟨schema, -, further⟩ := (looks_fromFiles _ _).exists_of_bind (Prod.ext ended rfl)
  obtain ⟨source, sourceRead, further⟩ := (looks_fromFiles _ _).exists_of_bind further
  obtain ⟨target, targetRead, further⟩ := (looks_fromFiles _ _).exists_of_bind further
  rw [exec_fromFiles] at sourceRead targetRead
  obtain rfl := Except.ok.inj (congrArg Prod.fst further)
  exact ⟨mapError_eq_ok_iff.mp sourceRead, mapError_eq_ok_iff.mp targetRead⟩

/-- What is planned is a conversion between the models that were loaded. -/
theorem models_of_makePlan {settings : Settings} {l : Loaded} {plan : Plan}
    (ended : ((makePlan settings l).exec w).1 = .ok plan) :
    plan.sourceModel = l.source ∧ plan.targetModel = l.target := by
  unfold makePlan at ended
  split at ended
  · next plan' planned =>
    obtain rfl := Except.ok.inj ended
    unfold Settings.plan at planned
    dsimp only at planned
    split at planned
    · cases planned
    · obtain rfl := Except.ok.inj planned
      exact ⟨rfl, rfl⟩
  · cases ended

/-! ## Conversions -/

/-- A command carries a plan out on its own files and idents. -/
theorem exists_of_execute_eq_ok [IdentSource γ] {settings : Settings} {schema : Schema}
    {plan : Plan} {source target : TableDirectory} {outcome : Outcome}
    (ended : (execute settings schema plan source target).exec w = (.ok outcome, w')) :
    ∃ after : Session TableDirectories γ,
      (settings.execute schema plan).exec ⟨⟨source, target, w.files⟩, w.idents, .discard⟩ =
        (.ok outcome, after) ∧ w' = ⟨after.stores.files, after.idents⟩ := by
  unfold execute at ended
  rw [exec_bind, exec_get] at ended
  dsimp only at ended
  rcases run : (settings.execute schema plan).exec
      (⟨⟨source, target, w.files⟩, w.idents, .discard⟩ : Session TableDirectories γ)
    with ⟨e | outcome', after⟩
  · rw [run] at ended
    cases ended
  · rw [run] at ended
    cases ended
    exact ⟨after, rfl, rfl⟩

/-- How a command that converts ends well: what it looks at, the plan that it carries out, and the
trace that it writes. -/
theorem exists_of_convert_eq_ok [IdentSource γ] {a : ConvertArguments} {output path : String}
    (asked : a.traceOut = some path) (ended : (convert a).exec w = (.ok output, w')) :
    ∃ settings l source target plan outcome mid,
      ((settingsFor a).exec w).1 = .ok settings ∧ ((load a.models).exec w).1 = .ok l ∧
      ((makePlan settings l).exec w).1 = .ok plan ∧
      (execute settings l.schema plan source target).exec w = (.ok outcome, mid) ∧
      (writeFile path (traceText outcome.trace)).exec mid = (.ok (), w') := by
  unfold convert at ended
  obtain ⟨settings, set, ended⟩ := (looks_settingsFor a).exists_of_bind ended
  obtain ⟨l, loaded, ended⟩ := (looks_load a.models).exists_of_bind ended
  obtain ⟨source, -, ended⟩ := (looks_tablesAt _ _ _).exists_of_bind ended
  obtain ⟨target, -, ended⟩ := (looks_tablesAt _ _ _).exists_of_bind ended
  obtain ⟨plan, planned, ended⟩ := (looks_makePlan settings l).exists_of_bind ended
  obtain ⟨outcome, mid, executed, ended⟩ := exec_bind_eq_ok_iff.mp ended
  rw [asked] at ended
  obtain ⟨_, last, written, ended⟩ := exec_bind_eq_ok_iff.mp ended
  obtain ⟨-, rfl⟩ := Prod.mk.inj ended
  exact ⟨settings, l, source, target, plan, outcome, mid, set, loaded, planned, executed, written⟩

end CommandRun

/-! ## Traces -/

/-- Between directories of tables, a plan that ends well has converted from the session in which it
began. -/
theorem TableDirectories.convert_of_execute_eq_ok [IdentSource γ]
    {s after : Session TableDirectories γ} {settings : Settings} {plan : Plan} {schema : Schema}
    {outcome : Outcome} (ended : (settings.execute schema plan).exec s = (.ok outcome, after)) :
    (convert plan.sourceModel plan.targetModel settings.trace).exec s = (.ok outcome, after) := by
  obtain ⟨before, checked, converted⟩ := Settings.exists_of_execute_eq_ok ended
  have reads (object : String) (filter : Filter) :
      (Run.readRows object filter : Run TableDirectories γ StorageError _).Leaves id := fun _ => rfl
  have left := Settings.leaves_checkSourceRows reads settings plan s
  rw [checked] at left
  obtain rfl : before = s := left
  exact converted

/-- A model that is read from a file is well-formed but for its name. -/
theorem bodyWellFormed_of_readModel {files : FileTree} {path : String} {m : Model}
    (read : files.readModel path = .ok m) : m.BodyWellFormed := by
  obtain ⟨text, -, parsed⟩ := bind_eq_ok_iff.mp read
  exact (bodyWellFormed_of_parse (mapError_eq_ok_iff.mp parsed)).1

/-- **The file of a trace.** Where a command that converts ends well and was asked for a trace, a
traced conversion between the models of its files has ended well, from the files and idents of the
command. The file that was asked for holds the text of the trace, whose lines are the events one by
one exactly if no ident and no value of them holds a line break. -/
theorem trace_file_holds_trace [IdentSource γ] {a : ConvertArguments} {output path : String}
    {w w' : Workplace γ} (asked : a.traceOut = some path)
    (ended : (CommandRun.convert a).exec w = (.ok output, w')) :
    ∃ (source target : Model) (outcome : Outcome) (before after : Session TableDirectories γ),
      w.files.readModel a.models.source = .ok source ∧
      w.files.readModel a.models.target = .ok target ∧
      before.stores.files = w.files ∧ before.idents = w.idents ∧
      (convert source target true).exec before = (.ok outcome, after) ∧
      ∃ text, w'.files.readText path = .ok text ∧
        lines text = outcome.trace.flatMap (fun e => lines e.line) ++ [""] ∧
        (lines text = outcome.trace.map TraceEvent.line ++ [""] ↔
          ∀ e ∈ outcome.trace, IsLine e.ident ∧ ∀ v ∈ e.value, IsLine v) := by
  obtain ⟨settings, l, source, target, plan, outcome, mid, chosen, loaded, planned, executed,
    written⟩ := CommandRun.exists_of_convert_eq_ok asked ended
  have traces := CommandRun.trace_of_settingsFor (by rw [asked]; rfl) chosen
  obtain ⟨sourceRead, targetRead⟩ := CommandRun.readModel_of_load loaded
  obtain ⟨after, executed, -⟩ := CommandRun.exists_of_execute_eq_ok executed
  have converted := TableDirectories.convert_of_execute_eq_ok executed
  obtain ⟨sourceLoaded, targetLoaded⟩ := CommandRun.models_of_makePlan planned
  rw [traces, sourceLoaded, targetLoaded] at converted
  obtain ⟨cut, whole⟩ := lines_traceText outcome.trace
  have unbroken : (∀ e ∈ outcome.trace, e.Unbroken) ↔
      ∀ e ∈ outcome.trace, IsLine e.ident ∧ ∀ v ∈ e.value, IsLine v :=
    forall₂_congr fun e member => unbroken_iff_of_mem_trace (bodyWellFormed_of_readModel sourceRead)
      (bodyWellFormed_of_readModel targetRead) converted member
  exact ⟨l.source, l.target, outcome, _, after, sourceRead, targetRead, rfl, rfl, converted,
    _, CommandRun.readText_of_writeFile written, cut, whole.trans unbroken⟩

end Crossmap
