import Crossmap.Proofs.Conversion.Answers
import Crossmap.Proofs.Conversion.Delivery
import Crossmap.Proofs.Conversion.Resolution

/-! # What a conversion looks up

A conversion in memory does nothing that can fail but look up idents, paths and codes (`Lookup`). A
lookup resolves (`Lookup.Resolves`) or fails with an error that says why (`Lookup.Fails`), and a
model with its rows or its records determines which lookups there are and in which order
(`readLookups`, `writeLookups`). A conversion fails exactly if one of them does, and with the error
of the first one (`convert_fails_at_first_fault`).
-/

namespace Crossmap

open Mapping

variable {σ ω γ α β : Type}

/-! ## Lookups -/

/-- What has to be found for a row or a record. -/
inductive Lookup where
  /-- The ident of a row, in a column of its object. -/
  | ident (object column : String) (row : Row)
  /-- The path to which a value map leads from the text of a code. -/
  | path (map : String) (text : Option String)
  /-- The code to which a value map leads back from a path. -/
  | code (map : String) (path : Option String)

namespace Lookup

/-- Whether there is what is looked up. Nothing has to be found for an absent value and for the text
that passes unchanged. -/
def Resolves (m : Model) : Lookup → Prop
  | .ident _ column row => ∃ cell, row.cell? column = some cell ∧ cell ≠ .null
  | .path map text =>
    ∀ t ∈ text, t = passThrough ∨ (∃ v, m.valueMap? map = some v) ∧ Code.IsWritten t
  | .code map value =>
    ∀ p ∈ value, p = passThrough ∨
      ∃ v, m.valueMap? map = some v ∧ ∃! code, v.path? code = some p

/-- Why there is not. -/
inductive Fails (m : Model) : Lookup → ResolutionError → Prop
  | missingIdent {object column : String} {row : Row}
      (nothing : ∀ cell, row.cell? column = some cell → cell = .null) :
      Fails m (.ident object column row) (.missingIdent object column)
  | unknownMapOfPath {map text : String} (value : text ≠ passThrough)
      (undeclared : m.valueMap? map = none) :
      Fails m (.path map (some text)) (.unknownValueMap map)
  | invalidCode {map text : String} {v : ValueMap} (value : text ≠ passThrough)
      (declared : m.valueMap? map = some v) (unwritten : ¬ Code.IsWritten text) :
      Fails m (.path map (some text)) (.invalidCode map text)
  | unknownMapOfCode {map path : String} (value : path ≠ passThrough)
      (undeclared : m.valueMap? map = none) :
      Fails m (.code map (some path)) (.unknownValueMap map)
  | unresolvable {map path : String} {v : ValueMap} (value : path ≠ passThrough)
      (declared : m.valueMap? map = some v) (none : ∀ code, v.path? code ≠ some path) :
      Fails m (.code map (some path)) (.unresolvableValue map path)
  | ambiguous {map path : String} {v : ValueMap} {code code' : Code} (value : path ≠ passThrough)
      (declared : m.valueMap? map = some v) (one : v.path? code = some path)
      (another : v.path? code' = some path) (apart : code ≠ code') :
      Fails m (.code map (some path)) (.ambiguousValue map path (v.codesFor path))

variable {m : Model} {l : Lookup} {e e' : ResolutionError}

/-- A lookup that fails does not resolve. -/
theorem Fails.not_resolves (fails : l.Fails m e) : ¬ l.Resolves m := by
  intro resolves
  cases fails with
  | missingIdent nothing =>
      obtain ⟨cell, found, ne⟩ := resolves
      exact ne (nothing cell found)
  | unknownMapOfPath value undeclared =>
      obtain ⟨⟨v, declared⟩, -⟩ := (resolves _ rfl).resolve_left value
      rw [undeclared] at declared
      cases declared
  | invalidCode value _ unwritten =>
      exact unwritten ((resolves _ rfl).resolve_left value).2
  | unknownMapOfCode value undeclared =>
      obtain ⟨v, declared, -⟩ := (resolves _ rfl).resolve_left value
      rw [undeclared] at declared
      cases declared
  | unresolvable value declared none =>
      obtain ⟨v, declared', code, leads, -⟩ := (resolves _ rfl).resolve_left value
      rw [declared] at declared'
      obtain rfl := Option.some.inj declared'
      exact none code leads
  | ambiguous value declared one another apart =>
      obtain ⟨v, declared', code, -, only⟩ := (resolves _ rfl).resolve_left value
      rw [declared] at declared'
      obtain rfl := Option.some.inj declared'
      exact apart ((only _ one).trans (only _ another).symm)

/-- A lookup fails with one error only. -/
theorem Fails.unique (fails : l.Fails m e) (fails' : l.Fails m e') : e = e' := by
  cases fails with
  | missingIdent => cases fails'; rfl
  | unknownMapOfPath _ undeclared =>
      cases fails' with
      | unknownMapOfPath => rfl
      | invalidCode _ declared => simp [undeclared] at declared
  | invalidCode _ declared =>
      cases fails' with
      | unknownMapOfPath _ undeclared => simp [undeclared] at declared
      | invalidCode => rfl
  | unknownMapOfCode _ undeclared =>
      cases fails' with
      | unknownMapOfCode => rfl
      | unresolvable _ declared => simp [undeclared] at declared
      | ambiguous _ declared => simp [undeclared] at declared
  | unresolvable _ declared none =>
      cases fails' with
      | unknownMapOfCode _ undeclared => simp [undeclared] at declared
      | unresolvable => rfl
      | ambiguous _ declared' one =>
          obtain rfl := Option.some.inj (declared.symm.trans declared')
          exact (none _ one).elim
  | ambiguous _ declared one =>
      cases fails' with
      | unknownMapOfCode _ undeclared => simp [undeclared] at declared
      | unresolvable _ declared' none =>
          obtain rfl := Option.some.inj (declared.symm.trans declared')
          exact (none _ one).elim
      | ambiguous _ declared' =>
          obtain rfl := Option.some.inj (declared.symm.trans declared')
          rfl

end Lookup

/-- The error of the first of some lookups that fails. -/
inductive FirstFault (m : Model) : List Lookup → ResolutionError → Prop
  | here {l : Lookup} {e : ResolutionError} (fails : l.Fails m e) (ls : List Lookup) :
      FirstFault m (l :: ls) e
  | later {l : Lookup} {ls : List Lookup} {e : ResolutionError} (resolves : l.Resolves m)
      (further : FirstFault m ls e) : FirstFault m (l :: ls) e

namespace FirstFault

variable {m : Model} {ls ls' : List Lookup} {e e' : ResolutionError}

/-- Lookups that come after the first fault do not matter. -/
theorem append_right (fault : FirstFault m ls e) (ls' : List Lookup) :
    FirstFault m (ls ++ ls') e := by
  induction fault with
  | here fails ls => exact .here fails (ls ++ ls')
  | later resolves _ ih => exact .later resolves ih

/-- Lookups that resolve put no fault in front of the first one. -/
theorem append_left (resolve : ∀ l ∈ ls, l.Resolves m) (fault : FirstFault m ls' e) :
    FirstFault m (ls ++ ls') e := by
  induction ls with
  | nil => exact fault
  | cons l rest ih =>
      obtain ⟨first, others⟩ := List.forall_mem_cons.mp resolve
      exact .later first (ih others)

/-- Where there is a first fault not every lookup resolves. -/
theorem not_resolve (fault : FirstFault m ls e) : ¬ ∀ l ∈ ls, l.Resolves m := by
  intro resolve
  induction fault with
  | here fails => exact fails.not_resolves (resolve _ List.mem_cons_self)
  | later _ _ ih => exact ih fun l member => resolve l (List.mem_cons_of_mem _ member)

/-- There is one first fault at most. -/
theorem unique (fault : FirstFault m ls e) (fault' : FirstFault m ls e') : e = e' := by
  induction fault with
  | here fails =>
      cases fault' with
      | here fails' => exact fails.unique fails'
      | later resolves => exact (fails.not_resolves resolves).elim
  | later resolves _ ih =>
      cases fault' with
      | here fails' => exact (fails'.not_resolves resolves).elim
      | later _ further => exact ih further

end FirstFault

/-! ## Values through value maps -/

section Resolution

variable {m : Model} {name : String}

/-- No code is listed twice for a path. -/
theorem Mapping.ValueMap.nodup_codesFor (v : ValueMap) (path : String) :
    (v.codesFor path).Nodup :=
  v.entries.nodup_keys.sublist (List.filter_sublist.map Prod.fst)

/-- A text that is led through a map is a lookup. -/
theorem forwardThrough_cases (m : Model) (name text : String) :
    (∃ path, m.forwardThrough name text = .ok path ∧
        (Lookup.path name (some text)).Resolves m) ∨
      ∃ e, m.forwardThrough name text = .error e ∧ (Lookup.path name (some text)).Fails m e := by
  unfold Model.forwardThrough
  by_cases passes : text = passThrough
  · rw [if_pos passes]
    refine .inl ⟨_, rfl, fun t same => .inl ?_⟩
    exact (Option.some.inj same).symm.trans passes
  · rw [if_neg passes]
    cases declared : m.valueMap? name with
    | none =>
        refine .inr ⟨.unknownValueMap name, ?_, .unknownMapOfPath passes declared⟩
        rw [Model.requireMap, declared]
        rfl
    | some v =>
        rw [Model.requireMap_eq_ok_iff.mpr declared]
        cases read : Code.ofText? text with
        | none =>
            have unwritten : ¬ Code.IsWritten text := by
              intro written
              obtain ⟨c, found⟩ := Code.exists_ofText?_eq_some_iff.mpr written
              rw [read] at found
              cases found
            exact .inr ⟨_, rfl, .invalidCode passes declared unwritten⟩
        | some c =>
            refine .inl ⟨_, rfl, fun t same => .inr ⟨⟨v, declared⟩, ?_⟩⟩
            obtain rfl := Option.some.inj same
            exact Code.exists_ofText?_eq_some_iff.mp ⟨c, read⟩

/-- A path that is led back through a map is a lookup. -/
theorem backwardThrough_cases (m : Model) (name path : String) :
    (∃ cell, m.backwardThrough name path = .ok cell ∧
        (Lookup.code name (some path)).Resolves m) ∨
      ∃ e, m.backwardThrough name path = .error e ∧ (Lookup.code name (some path)).Fails m e := by
  unfold Model.backwardThrough
  by_cases passes : path = passThrough
  · rw [if_pos passes]
    refine .inl ⟨_, rfl, fun p same => .inl ?_⟩
    exact (Option.some.inj same).symm.trans passes
  · rw [if_neg passes]
    cases declared : m.valueMap? name with
    | none =>
        refine .inr ⟨.unknownValueMap name, ?_, .unknownMapOfCode passes declared⟩
        rw [Model.requireMap, declared]
        rfl
    | some v =>
        have required : m.requireMap name = pure v := Model.requireMap_eq_ok_iff.mpr declared
        rw [required, pure_bind]
        have leads (code : Code) : code ∈ v.codesFor path ↔ v.path? code = some path :=
          ValueMap.mem_codesFor_iff
        have nodup := v.nodup_codesFor path
        have ambiguous (code code' : Code) :=
          @Lookup.Fails.ambiguous m name path v code code' passes declared
        generalize v.codesFor path = codes at leads nodup ambiguous
        rcases codes with _ | ⟨code, _ | ⟨code', rest⟩⟩
        · refine .inr ⟨_, rfl, .unresolvable passes declared fun code same => ?_⟩
          cases (leads code).mpr same
        · refine .inl ⟨_, rfl, fun p same => .inr ⟨v, declared, code, ?_, ?_⟩⟩
          · obtain rfl := Option.some.inj same
            exact (leads code).mp List.mem_cons_self
          · intro code' same'
            obtain rfl := Option.some.inj same
            exact List.mem_singleton.mp ((leads code').mpr same')
        · have one := (leads code).mp List.mem_cons_self
          have another := (leads code').mp (List.mem_cons_of_mem _ List.mem_cons_self)
          have apart : code ≠ code' := fun same =>
            (List.nodup_cons.mp nodup).1 (same ▸ List.mem_cons_self)
          exact .inr ⟨_, rfl, ambiguous code code' one another apart⟩

end Resolution

/-! ## Runs that look up -/

namespace Run

/-- Whether a run does nothing that can fail but certain lookups, one after another: it ends well,
and an invariant of the stores stands, if they all resolve, and else with the error of the first
that fails. -/
def LooksUp (r : Run ω γ ConversionError α) (invariant : ω → Prop) (m : Model)
    (ls : List Lookup) : Prop :=
  ∀ s : Session ω γ, invariant s.stores →
    ((∀ l ∈ ls, l.Resolves m) ∧ ∃ a s', r.exec s = (.ok a, s') ∧ invariant s'.stores) ∨
      ∃ e s', FirstFault m ls e ∧ r.exec s = (.error (.resolution e), s')

variable {invariant : ω → Prop} {m : Model} {ls ls' : List Lookup}

/-- How such a run ends is a matter of its lookups. -/
theorem LooksUp.ends {r : Run ω γ ConversionError α} (looksUp : r.LooksUp invariant m ls)
    (s : Session ω γ) (kept : invariant s.stores) :
    ((r.exec s).1.isOk ↔ ∀ l ∈ ls, l.Resolves m) ∧
      ∀ e, (r.exec s).1 = .error e ↔ ∃ r, e = .resolution r ∧ FirstFault m ls r := by
  rcases looksUp s kept with ⟨resolve, a, s', ended, -⟩ | ⟨r', s', fault, ended⟩
  · rw [ended]
    refine ⟨iff_of_true rfl resolve, fun e => iff_of_false nofun ?_⟩
    rintro ⟨r', -, fault⟩
    exact fault.not_resolve resolve
  · rw [ended]
    refine ⟨iff_of_false Bool.false_ne_true fault.not_resolve, fun e => ?_⟩
    constructor
    · intro same
      exact ⟨r', (Except.error.inj same).symm, fault⟩
    · rintro ⟨r, rfl, fault'⟩
      rw [fault.unique fault']

/-- A run that ends well wherever the invariant stands needs no lookups. -/
theorem looksUp_nothing {r : Run ω γ ConversionError α}
    (well : ∀ s, invariant s.stores → ∃ a s', r.exec s = (.ok a, s') ∧ invariant s'.stores) :
    r.LooksUp invariant m [] :=
  fun s kept => .inl ⟨nofun, well s kept⟩

theorem looksUp_pure (a : α) : (pure a : Run ω γ ConversionError α).LooksUp invariant m [] :=
  looksUp_nothing fun s kept => ⟨a, s, rfl, kept⟩

theorem looksUp_report (e : TraceEvent) :
    (report e : Run ω γ ConversionError Unit).LooksUp invariant m [] :=
  looksUp_nothing fun _ kept => ⟨(), _, rfl, kept⟩

/-- A single result that has to be found is a single lookup. -/
theorem looksUp_resolved {x : Except ResolutionError α} {l : Lookup}
    (cases : (∃ a, x = .ok a ∧ l.Resolves m) ∨ ∃ e, x = .error e ∧ l.Fails m e) :
    (resolved x : Run ω γ ConversionError α).LooksUp invariant m [l] := by
  intro s kept
  rcases cases with ⟨a, rfl, resolves⟩ | ⟨e, rfl, fails⟩
  · exact .inl ⟨List.forall_mem_singleton.mpr resolves, a, s, rfl, kept⟩
  · exact .inr ⟨e, s, .here fails [], rfl⟩

/-- Runs in sequence do their lookups in sequence. -/
theorem LooksUp.bind {r : Run ω γ ConversionError α} {f : α → Run ω γ ConversionError β}
    (first : r.LooksUp invariant m ls) (next : ∀ a, (f a).LooksUp invariant m ls') :
    (r >>= f).LooksUp invariant m (ls ++ ls') := by
  intro s kept
  rcases first s kept with ⟨resolve, a, mid, ended, kept⟩ | ⟨e, mid, fault, ended⟩
  · rw [exec_bind_ok ended]
    rcases next a mid kept with ⟨resolve', well⟩ | ⟨e, s', fault, ended'⟩
    · exact .inl ⟨List.forall_mem_append.mpr ⟨resolve, resolve'⟩, well⟩
    · exact .inr ⟨e, s', fault.append_left resolve, ended'⟩
  · exact .inr ⟨e, mid, fault.append_right ls', exec_bind_error ended⟩

/-- What follows a lookup often looks nothing up. -/
theorem LooksUp.bind_nothing {r : Run ω γ ConversionError α} {f : α → Run ω γ ConversionError β}
    (first : r.LooksUp invariant m ls) (next : ∀ a, (f a).LooksUp invariant m []) :
    (r >>= f).LooksUp invariant m ls := by
  have both := first.bind next
  rwa [List.append_nil] at both

/-- A fold does the lookups of its steps, item by item. -/
theorem looksUp_foldlM {f : β → α → Run ω γ ConversionError β} {lookups : α → List Lookup}
    (steps : ∀ b a, (f b a).LooksUp invariant m (lookups a)) (l : List α) (b : β) :
    (l.foldlM f b).LooksUp invariant m (l.flatMap lookups) := by
  induction l generalizing b with
  | nil => exact looksUp_pure b
  | cons a rest ih =>
      rw [List.foldlM_cons, List.flatMap_cons]
      exact (steps b a).bind ih

/-- Runs for the items of a list do their lookups item by item. -/
theorem looksUp_mapM {f : α → Run ω γ ConversionError β} {lookups : α → List Lookup}
    (steps : ∀ a, (f a).LooksUp invariant m (lookups a)) (l : List α) :
    (l.mapM f).LooksUp invariant m (l.flatMap lookups) := by
  induction l with
  | nil => exact looksUp_pure []
  | cons a rest ih =>
      rw [List.mapM_cons, List.flatMap_cons]
      exact (steps a).bind fun b => ih.bind_nothing fun bs => looksUp_pure (b :: bs)

end Run

/-! ## Reading -/

/-- Null is the only cell without a text. -/
theorem cellText_eq_none_iff {cell : Cell} : cellText cell = none ↔ cell = .null := by
  cases cell <;> simp [cellText]

/-- The lookup of a path for a text, if there is a value map between them. -/
def pathLookups (map text : Option String) : List Lookup :=
  map.toList.map fun name => .path name text

/-- The lookups for columns of a row. -/
def columnLookups (row : Row) (columns : List Column) : List Lookup :=
  columns.flatMap fun c => pathLookups c.valueMap (row.text? c.sourceColumn)

/-- The lookup of the ident of a row, if a column is declared for it. -/
def identLookups (object : String) (identColumn : Option String) (row : Row) : List Lookup :=
  identColumn.toList.map fun column => .ident object column row

/-- The lookups for a row: its ident, for an inspection the role and the class, and its columns. -/
def Reading.lookups (row : Row) : Reading → List Lookup
  | .data d => identLookups d.object d.identColumn row ++ columnLookups row d.columns
  | .inspection i =>
    identLookups i.object i.identColumn row ++
      (pathLookups i.structAttrMap (textIn? row i.structAttrColumn) ++
        (pathLookups i.classMap (textIn? row i.classColumn) ++ columnLookups row i.columns))

/-- The lookups for reading the records of a model, row by row. -/
def readLookups (m : Model) (held : String → List Row) : List Lookup :=
  m.readings.flatMap fun r => (r.rows held).flatMap fun row => r.lookups row

section Read

variable {invariant : ω → Prop} {m : Model}

/-- Resolving a text looks up its path, if there is a value map. -/
theorem looksUp_forward (m : Model) (map text : Option String) :
    (Run.resolved (m.forward map text) : Run ω γ ConversionError _).LooksUp invariant m
      (pathLookups map text) := by
  cases map with
  | none => exact Run.looksUp_pure text
  | some name =>
      apply Run.looksUp_resolved
      cases text with
      | none => exact .inl ⟨none, rfl, nofun⟩
      | some text =>
          rcases forwardThrough_cases m name text with ⟨path, found, resolves⟩ | ⟨e, failed, fails⟩
          · exact .inl ⟨path, found, resolves⟩
          · exact .inr ⟨e, failed, fails⟩

/-- Reading columns does one lookup for each of them that has a value map. -/
theorem looksUp_readColumns (m : Model) (row : Row) (detail : String) (columns : List Column)
    (record : Record) :
    (readColumns m row detail columns record : Run ω γ ConversionError Record).LooksUp invariant m
      (columnLookups row columns) := by
  apply Run.looksUp_foldlM
  intro record c
  apply (looksUp_forward m c.valueMap _).bind_nothing
  intro value
  exact (Run.looksUp_report _).bind_nothing fun _ => Run.looksUp_pure _

variable [IdentSource γ]

/-- An ident is looked up in its column; one that is given out needs no lookup. -/
theorem looksUp_identOf (row : Row) (identColumn : Option String) (object : String) :
    (identOf row identColumn object : Run ω γ ConversionError String).LooksUp invariant m
      (identLookups object identColumn row) := by
  intro s kept
  cases identColumn with
  | none => exact .inl ⟨nofun, _, _, rfl, kept⟩
  | some column =>
      rw [identOf]
      cases text : row.text? column with
      | some ident =>
          refine .inl ⟨List.forall_mem_singleton.mpr ?_, ident, s, rfl, kept⟩
          obtain ⟨cell, found, told⟩ := Option.bind_eq_some_iff.mp text
          refine ⟨cell, found, ?_⟩
          rintro rfl
          cases told
      | none =>
          refine .inr ⟨_, s, .here (.missingIdent fun cell found => ?_) [], rfl⟩
          rw [Row.text?, found, Option.bind_some] at text
          exact cellText_eq_none_iff.mp text

/-- Reading a row of a data declaration does the lookups for it: its ident, and its columns. -/
theorem looksUp_readDataRow (m : Model) (d : DataDeclaration) (row : Row) :
    (readDataRow m d row : Run ω γ ConversionError Record).LooksUp invariant m
      ((Reading.data d).lookups row) :=
  (looksUp_identOf row _ _).bind fun _ => looksUp_readColumns m row _ _ _

/-- Inspecting a row does the lookups for it: its ident, its role, its class, and its columns. -/
theorem looksUp_inspectRow (m : Model) (i : Inspection) (row : Row) :
    (inspectRow m i row : Run ω γ ConversionError Record).LooksUp invariant m
      ((Reading.inspection i).lookups row) :=
  (looksUp_identOf row _ _).bind fun _ => (looksUp_forward m _ _).bind fun _ =>
    (looksUp_forward m _ _).bind fun _ => looksUp_readColumns m row _ _ _

variable [RecordSource ω]

omit [IdentSource γ] in

/-- Rows that are returned are read without a lookup. -/
theorem looksUp_mapM_rows {object : String} {filter : Filter} {rows : List Row}
    (returns : (Run.readRows object filter : Run ω γ StorageError _).Returns invariant rows)
    {f : Row → Run ω γ ConversionError Record} {lookups : Row → List Lookup}
    (steps : ∀ row, (f row).LooksUp invariant m (lookups row)) :
    ((Run.readRows object filter).mapError .storage >>= fun rows => rows.mapM f).LooksUp
      invariant m (rows.flatMap lookups) := by
  intro s kept
  obtain ⟨stores, kept, ended⟩ := returns.mapError ConversionError.storage s kept
  rw [Run.exec_bind_ok ended]
  exact Run.looksUp_mapM steps rows _ kept

/-- Reading the records of a model does no lookups but those in the rows that are returned. -/
theorem looksUp_readRecords_of_returns {answer : String → Filter → List Row}
    (returns : ∀ object filter, (Run.readRows object filter : Run ω γ StorageError _).Returns
      invariant (answer object filter)) (m : Model) :
    (readRecords m : Run ω γ ConversionError (List Record)).LooksUp invariant m
      (m.readings.flatMap fun r =>
        (answer r.object r.filter).flatMap fun row => r.lookups row) := by
  have data (d : DataDeclaration) :
      (readData m d : Run ω γ ConversionError _).LooksUp invariant m
        ((answer d.object d.filter).flatMap fun row => (Reading.data d).lookups row) :=
    looksUp_mapM_rows (returns d.object d.filter) (looksUp_readDataRow m d)
  have inspections (i : Inspection) :
      (inspect m i : Run ω γ ConversionError _).LooksUp invariant m
        ((answer i.object .empty).flatMap fun row => (Reading.inspection i).lookups row) :=
    looksUp_mapM_rows (returns i.object .empty) (looksUp_inspectRow m i)
  rw [Model.flatMap_readings]
  exact (Run.looksUp_mapM data m.data).bind fun _ =>
    (Run.looksUp_mapM inspections m.inspections).bind_nothing fun _ => Run.looksUp_pure _

variable {stores : ω} {held : String → List Row}

omit [IdentSource γ] in
/-- Reading an object gives those of its rows that satisfy the filter. -/
theorem returns_readRows_of_holds (holds : Holds stores held) (object : String) (filter : Filter) :
    (Run.readRows object filter : Run ω γ StorageError _).Returns (· = stores)
      ((held object).filter fun row => row.satisfies filter) := by
  rintro s rfl
  refine ⟨s.stores, rfl, ?_⟩
  rw [Run.exec_readRows, holds object filter]

/-- The rows of a declaration are those of its object that satisfy its filter, which every row of an
inspection does. -/
theorem Reading.rows_eq_filter (r : Reading) (held : String → List Row) :
    r.rows held = (held r.object).filter fun row => row.satisfies r.filter := by
  cases r with
  | data => rfl
  | inspection => exact (List.filter_eq_self.mpr fun _ _ => rfl).symm

/-- Reading the records of a model does the lookups for its rows, in the order of its declarations.
-/
theorem looksUp_readRecords (holds : Holds stores held) (m : Model) :
    (readRecords m : Run ω γ ConversionError (List Record)).LooksUp (· = stores) m
      (readLookups m held) := by
  have reads := looksUp_readRecords_of_returns (γ := γ) (returns_readRows_of_holds holds) m
  simpa only [readLookups, Reading.rows_eq_filter] using reads

end Read

/-! ## Writing -/

/-- The lookups for a record, column by column. -/
def recordLookups (columns : List Column) (record : Record) : List Lookup :=
  columns.flatMap fun c => c.valueMap.toList.map fun name =>
    .code name (record.field? c.targetPath)

/-- The lookups for writing records through a model, record by record. -/
def writeLookups (m : Model) (records : List Record) : List Lookup :=
  m.data.flatMap fun d =>
    (records.filter fun r => r.className = d.className).flatMap (recordLookups d.columns)

section Write

variable {invariant : ω → Prop} {m : Model}

/-- Resolving a path looks up its code, if there is a value map. -/
theorem looksUp_backward (m : Model) (map path : Option String) :
    (Run.resolved (m.backward map path) : Run ω γ ConversionError _).LooksUp invariant m
      (map.toList.map fun name => .code name path) := by
  cases map with
  | none => cases path <;> exact Run.looksUp_pure _
  | some name =>
      apply Run.looksUp_resolved
      cases path with
      | none => exact .inl ⟨.null, rfl, nofun⟩
      | some path => exact backwardThrough_cases m name path

/-- Making a row of a record does one lookup for each column that has a value map. -/
theorem looksUp_writeRow (m : Model) (d : DataDeclaration) (record : Record) :
    (writeRow m d record : Run ω γ ConversionError Row).LooksUp invariant m
      (recordLookups d.columns record) := by
  apply Run.looksUp_foldlM
  intro row c
  apply (looksUp_backward m c.valueMap _).bind_nothing
  intro cell
  exact (Run.looksUp_report _).bind_nothing fun _ => Run.looksUp_pure _

/-- Rows are written to memory without a lookup. -/
theorem looksUp_writeRecords (m : Model) (records : List Record) :
    (writeRecords m records : Run (Endpoints σ MemoryStore) γ ConversionError _).LooksUp
      (fun _ => True) m (writeLookups m records) := by
  apply Run.looksUp_foldlM
  intro counts d
  apply (Run.looksUp_mapM (looksUp_writeRow m d) _).bind_nothing
  intro rows
  have accepted : ((Run.writeRows d.object rows).mapError .storage :
      Run (Endpoints σ MemoryStore) γ ConversionError Unit).LooksUp (fun _ => True) m [] :=
    Run.looksUp_nothing fun _ _ => ⟨(), _, rfl, trivial⟩
  exact accepted.bind_nothing fun _ => Run.looksUp_pure _

end Write

/-! ## The whole -/

/-- **A conversion fails at its first fault.** A conversion in memory reads its records exactly if
every lookup in its rows resolves, and ends well exactly if every lookup in its records does so as
well. Where it fails, it does so with the error of the first lookup that fails, those in the rows
coming before those in the records. -/
theorem convert_fails_at_first_fault [IdentSource γ] (source target : Model) (tracing : Bool)
    (before : Session (Endpoints MemoryStore MemoryStore) γ) :
    let reads := readLookups source before.stores.source.rows
    let read := (readRecords source).exec { before with sink := .start tracing }
    let run := (convert source target tracing).exec before
    (read.1.isOk ↔ ∀ l ∈ reads, l.Resolves source) ∧
      (run.1.isOk ↔ (∀ l ∈ reads, l.Resolves source) ∧
        ∀ records, read.1 = .ok records → ∀ l ∈ writeLookups target records, l.Resolves target) ∧
      ∀ e, run.1 = .error e ↔ ∃ r, e = .resolution r ∧
        (FirstFault source reads r ∨
          ∃ records, read.1 = .ok records ∧ FirstFault target (writeLookups target records) r) := by
  intro reads read run
  obtain ⟨readWell, readFailed⟩ := (looksUp_readRecords (γ := γ)
    (holds_endpoints before.stores.source before.stores.target) source).ends
      { before with sink := .start tracing } rfl
  change (read.1.isOk ↔ ∀ l ∈ reads, l.Resolves source) at readWell
  change ∀ e, read.1 = .error e ↔ ∃ r, e = .resolution r ∧ FirstFault source reads r at readFailed
  refine ⟨readWell, ?_⟩
  -- Nothing is looked up for writing unless the records were read.
  rcases ended : read with ⟨e' | records, mid⟩
  · have failed : run = (.error e', mid) := exec_convert_of_error ended
    rw [ended] at readWell readFailed
    rw [failed]
    refine ⟨⟨fun well => ⟨readWell.mp well, nofun⟩, fun both => readWell.mpr both.1⟩, fun e => ?_⟩
    constructor
    · intro same
      obtain ⟨r, worded, fault⟩ := (readFailed e).mp (congrArg _ (Except.error.inj same))
      exact ⟨r, worded, .inl fault⟩
    · rintro ⟨r, worded, fault | ⟨_, none, _⟩⟩
      · exact congrArg _ (Except.error.inj ((readFailed e).mpr ⟨r, worded, fault⟩))
      · cases none
  · have ends : run.1 = ((writeRecords target records).exec mid).1.map _ :=
      congrArg Prod.fst (exec_convert_of_ok ended rfl)
    rw [ended] at readWell readFailed
    have unfailed : ∀ r, ¬ FirstFault source reads r := fun r fault =>
      fault.not_resolve (readWell.mp rfl)
    obtain ⟨writeWell, writeFailed⟩ :=
      (looksUp_writeRecords (γ := γ) target records).ends mid trivial
    rw [ends, isOk_map, writeWell]
    refine ⟨⟨fun resolve => ⟨readWell.mp rfl, ?_⟩, fun both => both.2 records rfl⟩, fun e => ?_⟩
    · intro records' same
      exact Except.ok.inj same ▸ resolve
    · rw [map_eq_error_iff, writeFailed]
      constructor
      · rintro ⟨r, worded, fault⟩
        exact ⟨r, worded, .inr ⟨records, rfl, fault⟩⟩
      · rintro ⟨r, worded, fault | ⟨records', same, fault⟩⟩
        · exact (unfailed r fault).elim
        · exact ⟨r, worded, Except.ok.inj same ▸ fault⟩

/-- Fields with their use, as it stands in the rows. -/
def fieldSource : Model :=
  { Model.bare "fields" with
    data := [{ DataDeclaration.bare "F" "FIELDS" "Field" with
      identColumn := some "ID"
      columns := [⟨"USE", "Use", none⟩] }] }

/-- Uses of a field, one of them with two codes. -/
def fieldUses : ValueMap := ⟨"USES", .ofList [(1, "Hay"), (2, "Corn"), (3, "Hay")]⟩

/-- Fields with the code of their use. -/
def fieldTarget : Model :=
  { Model.bare "codes" with
    valueMaps := .ofList [("USES", fieldUses)]
    data := [
      { DataDeclaration.bare "B" "BARNS" "Barn" with columns := [⟨"CODE", "Use", some "NONE"⟩] },
      { DataDeclaration.bare "F" "FIELDS" "Field" with columns := [⟨"CODE", "Use", some "USES"⟩] }] }

def fieldSession (cells : List (String × Cell)) :
    Session (Endpoints MemoryStore MemoryStore) NumberedIdents :=
  ⟨⟨MemoryStore.empty.insertRows "FIELDS"
      [.ofList [("ID", .string "1"), ("USE", .string "Corn")], .ofList cells], .empty⟩,
    .fresh "n", .discard⟩

/-- A field without an ident is the first fault, and else the use of the second field is. The map
that is not declared would be looked up for barns alone. -/
theorem convert_fails_at_first_fault_fields :
    let unnumbered := fieldSession [("USE", .string "Hay")]
    let numbered := fieldSession [("ID", .string "2"), ("USE", .string "Hay")]
    ((convert fieldSource fieldTarget false).exec unnumbered).1 =
        .error (.resolution (.missingIdent "FIELDS" "ID")) ∧
      ∃ records, ((readRecords fieldSource).exec { numbered with sink := .start false }).1 =
          .ok records ∧
        writeLookups fieldTarget records =
          [.code "USES" (some "Corn"), .code "USES" (some "Hay")] ∧
        ((convert fieldSource fieldTarget false).exec numbered).1 =
          .error (.resolution (.ambiguousValue "USES" "Hay" [1, 3])) := by
  intro unnumbered numbered
  obtain ⟨-, -, unread⟩ := convert_fails_at_first_fault fieldSource fieldTarget false unnumbered
  obtain ⟨-, -, unwritten⟩ := convert_fails_at_first_fault fieldSource fieldTarget false numbered
  constructor
  · refine (unread _).mpr ⟨_, rfl, .inl (.later ?_ (.here (.missingIdent ?_) []))⟩
    · exact ⟨.string "1", rfl, Json.noConfusion⟩
    · intro cell found
      cases found
  let records : List Record :=
    [(Record.bare "Field" "1").setValue "Use" "Corn", (Record.bare "Field" "2").setValue "Use" "Hay"]
  have read : ((readRecords fieldSource).exec { numbered with sink := .start false }).1 =
      .ok records := by decide +kernel
  have lookups : writeLookups fieldTarget records =
      [.code "USES" (some "Corn"), .code "USES" (some "Hay")] := rfl
  refine ⟨records, read, lookups, (unwritten _).mpr ⟨_, rfl, .inr ⟨records, read, ?_⟩⟩⟩
  rw [lookups]
  refine .later ?_ (.here ?_ [])
  · intro path isCorn
    obtain rfl := Option.some.inj isCorn
    refine .inr ⟨fieldUses, rfl, 2, by decide, fun code leads => ?_⟩
    have listed : code ∈ fieldUses.codesFor "Corn" := ValueMap.mem_codesFor_iff.mpr leads
    exact List.mem_singleton.mp listed
  · have one : fieldUses.path? 1 = some "Hay" := by decide
    have another : fieldUses.path? 3 = some "Hay" := by decide
    exact .ambiguous (by decide) rfl one another (by decide)

end Crossmap
