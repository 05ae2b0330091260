import Crossmap.Proofs.Mapping.ClauseReading

/-! # Reading statements and models

Clauses added to a declaration one after another say what they say together
(`foldl_add_bare_data`, `foldl_add_bare_inspection`), and the entries of a value map and the
statements of a text are added as long as no code and no name comes twice
(`foldlM_addEntry_eq_some_iff`, `foldlM_addStatement_eq_some_iff`). With the clauses read as they
are derived, the main result follows: a text is read exactly if the grammar derives a model from its
tokens, and the model is the one that is read (`ofTokens_eq_ok_iff_derives`).
-/

namespace Crossmap.Mapping

open TokenReader

variable {ts rest : List Token}

/-! ## What clauses add up to -/

/-- What a last clause gives counts before all that others have given. -/
theorem lastGiven_concat {γ α : Type} (given : γ → Option α) (clauses : List γ) (c : γ) :
    lastGiven given (clauses ++ [c]) = (given c).or (lastGiven given clauses) := by
  cases value : given c with
  | none => simp [lastGiven, value]
  | some a => simp [lastGiven, value]

/-- A last pair is what stands under its key. -/
theorem lastWins_concat {κ α : Type} [DecidableEq κ] (pairs : List (κ × α)) (k : κ) (a : α) :
    lastWins (pairs ++ [(k, a)]) = (lastWins pairs).insert k a := by
  rw [← ofList_eq_lastWins, ← ofList_eq_lastWins]
  exact List.foldl_concat ..

/-- A declaration made of clauses is made of all but the last and has the last one added. -/
theorem Header.data_concat (h : Header) (clauses : List DataClause) (c : DataClause) :
    h.data (clauses ++ [c]) = (h.data clauses).add c := by
  cases c with
  | common c =>
      cases c <;> simp [Header.data, DataDeclaration.add, lastGiven_concat, List.filterMap_cons]
  | _ => simp [Header.data, DataDeclaration.add, lastWins_concat, List.filterMap_cons]

/-- An inspection made of clauses is made of all but the last and has the last one added. -/
theorem Header.inspection_concat (h : Header) (clauses : List InspectionClause)
    (c : InspectionClause) : h.inspection (clauses ++ [c]) = (h.inspection clauses).add c := by
  cases c with
  | common c =>
      cases c <;> simp [Header.inspection, Inspection.add, lastGiven_concat, List.filterMap_cons]
  | _ => simp [Header.inspection, Inspection.add, lastGiven_concat, List.filterMap_cons]

/-- The clauses of a data declaration, added one after another, say what they say together. -/
theorem foldl_add_bare_data (h : Header) (clauses : List DataClause) :
    clauses.foldl DataDeclaration.add (.bare h.name h.object h.className) = h.data clauses := by
  induction clauses using List.reverseRec with
  | nil => rfl
  | append_singleton clauses c ih => rw [List.foldl_concat, ih, Header.data_concat]

/-- Clauses added one after another to a bare inspection make the inspection of all of them. -/
theorem foldl_add_bare_inspection (h : Header) (clauses : List InspectionClause) :
    clauses.foldl Inspection.add (.bare h.name h.object h.className) = h.inspection clauses := by
  induction clauses using List.reverseRec with
  | nil => rfl
  | append_singleton clauses c ih => rw [List.foldl_concat, ih, Header.inspection_concat]

/-! ## Value maps -/

/-- A value map with one more entry; `none` where its code has come before. -/
def ValueMap.addEntry? (m : ValueMap) (e : Code × String) : Option ValueMap :=
  if m.entries.contains e.1 then none else some { m with entries := m.entries.insert e.1 e.2 }

/-- Entries can be added one after another exactly if they can stand in a map after those that are
there. -/
theorem foldlM_addEntry_eq_some_iff {entries : List (Code × String)} {m v : ValueMap} :
    entries.foldlM ValueMap.addEntry? m = some v ↔
      v.name = m.name ∧ v.entries.entries = m.entries.entries ++ entries := by
  induction entries generalizing m with
  | nil =>
      obtain ⟨name, ⟨entries, _⟩⟩ := m
      obtain ⟨name', ⟨entries', _⟩⟩ := v
      simp [eq_comm]
  | cons e rest ih =>
      rw [List.foldlM_cons, Option.bind_eq_bind, ValueMap.addEntry?]
      by_cases repeats : e.1 ∈ m.entries.keys
      · rw [if_pos (Dict.contains_eq_true_iff.mpr repeats)]
        refine iff_of_false (by rintro ⟨⟩) ?_
        rintro ⟨-, same⟩
        have nodup := v.entries.nodup_keys
        rw [same, List.map_append, List.nodup_append] at nodup
        exact nodup.2.2 _ repeats _ List.mem_cons_self rfl
      · rw [if_neg fun contained => repeats (Dict.contains_eq_true_iff.mp contained),
          Option.bind_some, ih, Dict.entries_insert_of_notMem _ repeats, List.append_assoc]
        rfl

/-- Behind its code an entry is read exactly where an arrow, a path and a semicolon stand, and the
code has not come before. -/
theorem run_mapEntry_eq_ok_iff {m m' : ValueMap} {code : Code} :
    (mapEntry m code).run ts = .ok (m', rest) ↔
      ∃ read path, DerivesPath read path ∧
        ts = .symbol .arrow :: read ++ .symbol .semicolon :: rest ∧
        m.addEntry? (code, path) = some m' := by
  simp only [mapEntry, run_bind_eq_ok_iff, run_ahead_eq_ok_iff, run_symbol_eq_ok_iff,
    run_path_eq_ok_iff, ValueMap.addEntry?]
  constructor
  · rintro ⟨_, _, ⟨rfl, rfl⟩, -, _, rfl, path, _, ⟨read, derived, rfl, -⟩, -, _, rfl, added⟩
    split at added
    case isTrue => exact (run_failAt_ne_ok added).elim
    case isFalse new =>
      obtain ⟨rfl, rfl⟩ := run_pure_eq_ok_iff.mp added
      exact ⟨read, path, derived, rfl, if_neg new⟩
  · rintro ⟨read, path, derived, rfl, added⟩
    refine ⟨_, _, ⟨rfl, rfl⟩, (), _, rfl, path, _, ⟨read, derived, rfl, by simp⟩, (), _, rfl, ?_⟩
    split at added
    case isTrue => cases added
    case isFalse new =>
      rw [if_neg new]
      exact run_pure_eq_ok_iff.mpr ⟨Option.some.inj added, rfl⟩

/-- The entries of a value map are read as they are derived, as long as no code comes twice. -/
theorem readsEntries_mapEntry : ReadsEntries mapEntry? DerivesEntry ValueMap.addEntry? where
  sound {m t p ts m' rest} chosen read := by
    cases t <;> cases chosen
    obtain ⟨taken, path, derived, rfl, added⟩ := run_mapEntry_eq_ok_iff.mp read
    exact ⟨_, _, .intro _ derived, by simp, added⟩
  complete := by
    rintro read _ m m' rest ⟨code, target⟩ added -
    refine ⟨_, _, _, rfl, rfl, run_mapEntry_eq_ok_iff.mpr ⟨_, _, target, by simp, added⟩⟩
  semicolon m := rfl

/-! ## Statements -/

@[simp] theorem run_header_eq_ok_iff {h : Header} :
    header.run ts = .ok (h, rest) ↔ ∃ head, DerivesHeader head h ∧ ts = head ++ rest := by
  simp only [header, run_bind_eq_ok_iff, run_name_eq_ok_iff, run_keyword_eq_ok_iff,
    run_path_eq_ok_iff, run_symbol_eq_ok_iff, run_pure_eq_ok_iff]
  constructor
  · rintro ⟨declName, _, rfl, -, _, rfl, object, _, rfl, -, _, rfl, className, _,
      ⟨read, derived, rfl, -⟩, -, _, rfl, rfl, rfl⟩
    exact ⟨_, .intro ⟨declName, object, className⟩ derived, by simp⟩
  · rintro ⟨_, ⟨_, className⟩, rfl⟩
    exact ⟨_, _, rfl, (), _, rfl, _, _, rfl, (), _, rfl, _, _,
      ⟨_, className, by simp, by simp⟩, (), _, rfl, rfl, rfl⟩

/-- What is read as a value map is derived as one. -/
theorem derivesStatement_of_run_valueMap {v : ValueMap} (read : valueMap.run ts = .ok (v, rest)) :
    ∃ taken, DerivesStatement (.name "VALUEMAP" :: taken) (.valueMap v) ∧ ts = taken ++ rest := by
  simp only [valueMap, run_bind_eq_ok_iff, run_name_eq_ok_iff, run_symbol_eq_ok_iff,
    run_closingBrace_eq_ok_iff, run_pure_eq_ok_iff] at read
  obtain ⟨mapName, _, rfl, -, _, rfl, v, _, loop, -, _, rfl, found, _, semicolon, rfl, rfl⟩ := read
  obtain ⟨stop, stops, rfl⟩ := derivesStop_of_run_skipIf semicolon
  obtain ⟨taken, items, derived, rfl, steps⟩ :=
    (run_many_rightBrace_iff readsEntries_mapEntry fun _ => rfl).mp loop
  obtain ⟨rfl, rfl⟩ := foldlM_addEntry_eq_some_iff.mp steps
  exact ⟨_, .valueMap v.name derived v.entries.nodup_keys stops, by simp⟩

/-- A value map that is derived is read, with the semicolon that may stand behind it. -/
theorem run_valueMap_of_repeated {v : ValueMap} {taken stop : List Token}
    (derived : Repeated DerivesEntry taken v.entries.entries) (stops : DerivesStop stop)
    (next : rest.head? ≠ some (.symbol .semicolon)) :
    valueMap.run
        (.name v.name :: .symbol .leftBrace :: taken ++ .symbol .rightBrace :: stop ++ rest) =
      .ok (v, rest) := by
  obtain ⟨found, semicolon⟩ := run_skipIf_of_derivesStop stops next
  have loop : (many mapEntry? ⟨v.name, .empty⟩).run
      (taken ++ .symbol .rightBrace :: (stop ++ rest)) =
      .ok (v, .symbol .rightBrace :: (stop ++ rest)) :=
    (run_many_rightBrace_iff readsEntries_mapEntry fun _ => rfl).mpr
      ⟨taken, _, derived, rfl, foldlM_addEntry_eq_some_iff.mpr ⟨rfl, rfl⟩⟩
  simp only [valueMap, run_bind_eq_ok_iff, run_name_eq_ok_iff, run_symbol_eq_ok_iff,
    run_closingBrace_eq_ok_iff, run_pure_eq_ok_iff, List.cons_append, List.append_assoc]
  exact ⟨v.name, _, rfl, (), _, rfl, v, _, loop, (), _, rfl, found, rest, semicolon, rfl, rfl⟩

/-- What is read as a data declaration is derived as one. -/
theorem derivesStatement_of_run_dataDeclaration {d : DataDeclaration}
    (read : dataDeclaration.run ts = .ok (d, rest)) :
    ∃ taken, DerivesStatement (.name "DATA" :: taken) (.data d) ∧ ts = taken ++ rest := by
  simp only [dataDeclaration, run_bind_eq_ok_iff, run_header_eq_ok_iff,
    run_closingBrace_eq_ok_iff, run_pure_eq_ok_iff] at read
  obtain ⟨h, _, ⟨head, headed, rfl⟩, d, _, loop, -, _, rfl, found, _, semicolon, rfl, rfl⟩ := read
  obtain ⟨stop, stops, rfl⟩ := derivesStop_of_run_skipIf semicolon
  obtain ⟨taken, clauses, derived, rfl, steps⟩ :=
    (run_many_rightBrace_iff readsEntries_dataClause fun _ => rfl).mp loop
  rw [foldlM_some, foldl_add_bare_data, Option.some.injEq] at steps
  obtain rfl := steps
  exact ⟨_, .data headed derived stops, by simp⟩

/-- A data declaration that is derived is read, with the semicolon that may stand behind it. -/
theorem run_dataDeclaration_of_repeated {h : Header} {clauses : List DataClause}
    {head taken stop : List Token} (headed : DerivesHeader head h)
    (derived : Repeated DerivesDataClause taken clauses) (stops : DerivesStop stop)
    (next : rest.head? ≠ some (.symbol .semicolon)) :
    dataDeclaration.run (head ++ taken ++ .symbol .rightBrace :: stop ++ rest) =
      .ok (h.data clauses, rest) := by
  obtain ⟨found, semicolon⟩ := run_skipIf_of_derivesStop stops next
  have loop : (many dataClause? (.bare h.name h.object h.className)).run
      (taken ++ .symbol .rightBrace :: (stop ++ rest)) =
        .ok (h.data clauses, .symbol .rightBrace :: (stop ++ rest)) := by
    refine (run_many_rightBrace_iff readsEntries_dataClause fun _ => rfl).mpr
      ⟨taken, clauses, derived, rfl, ?_⟩
    rw [foldlM_some, foldl_add_bare_data]
  simp only [dataDeclaration, run_bind_eq_ok_iff, run_header_eq_ok_iff,
    run_closingBrace_eq_ok_iff, run_pure_eq_ok_iff, List.cons_append, List.append_assoc]
  exact ⟨h, _, ⟨head, headed, rfl⟩, _, _, loop, (), _, rfl, found, rest, semicolon, rfl, rfl⟩

/-- What is read as an inspection is derived as one. -/
theorem derivesStatement_of_run_inspection {i : Inspection}
    (read : inspection.run ts = .ok (i, rest)) :
    ∃ taken, DerivesStatement (.name "INSPECTION" :: taken) (.inspection i) ∧
      ts = taken ++ rest := by
  simp only [inspection, run_bind_eq_ok_iff, run_header_eq_ok_iff, run_ahead_eq_ok_iff,
    run_closingBrace_eq_ok_iff] at read
  obtain ⟨h, _, ⟨head, headed, rfl⟩, i, _, loop, _, _, ⟨rfl, rfl⟩, -, _, rfl, named⟩ := read
  obtain ⟨taken, clauses, derived, rfl, steps⟩ :=
    (run_many_rightBrace_iff readsEntries_inspectionClause fun _ => rfl).mp loop
  rw [foldlM_some, foldl_add_bare_inspection, Option.some.injEq] at steps
  obtain rfl := steps
  split at named
  case isTrue => exact (run_failAt_ne_ok named).elim
  case isFalse ident =>
    obtain ⟨found, _, semicolon, result⟩ := run_bind_eq_ok_iff.mp named
    obtain ⟨rfl, rfl⟩ := run_pure_eq_ok_iff.mp result
    obtain ⟨stop, stops, rfl⟩ := derivesStop_of_run_skipIf semicolon
    have named := Header.isSome_identColumn_iff.mp
      (Option.isNone_eq_false_iff.mp (Bool.eq_false_iff.mpr ident))
    exact ⟨_, .inspection headed derived named stops, by simp⟩

/-- An inspection that is derived, with an ident clause among its clauses, is read. -/
theorem run_inspection_of_repeated {h : Header} {clauses : List InspectionClause}
    {head taken stop : List Token} (headed : DerivesHeader head h)
    (derived : Repeated DerivesInspectionClause taken clauses)
    (named : ∃ column, .common (.ident column) ∈ clauses) (stops : DerivesStop stop)
    (next : rest.head? ≠ some (.symbol .semicolon)) :
    inspection.run (head ++ taken ++ .symbol .rightBrace :: stop ++ rest) =
      .ok (h.inspection clauses, rest) := by
  obtain ⟨found, semicolon⟩ := run_skipIf_of_derivesStop stops next
  have loop : (many inspectionClause? (.bare h.name h.object h.className)).run
      (taken ++ .symbol .rightBrace :: (stop ++ rest)) =
        .ok (h.inspection clauses, .symbol .rightBrace :: (stop ++ rest)) := by
    refine (run_many_rightBrace_iff readsEntries_inspectionClause fun _ => rfl).mpr
      ⟨taken, clauses, derived, rfl, ?_⟩
    rw [foldlM_some, foldl_add_bare_inspection]
  simp only [inspection, run_bind_eq_ok_iff, run_header_eq_ok_iff, run_ahead_eq_ok_iff,
    run_closingBrace_eq_ok_iff, List.cons_append, List.append_assoc]
  refine ⟨h, _, ⟨head, headed, rfl⟩, _, _, loop, _, _, ⟨rfl, rfl⟩, (), _, rfl, ?_⟩
  rw [Option.isNone_eq_false_iff.mpr (Header.isSome_identColumn_iff.mpr named)]
  exact run_bind_eq_ok_iff.mpr ⟨found, rest, semicolon, run_pure_eq_ok_iff.mpr ⟨rfl, rfl⟩⟩

/-- A model with what a statement adds; `none` for a value map whose name has come before. -/
def Statement.addTo? (m : Model) : Statement → Option Model
  | .valueMap v => if m.hasValueMap v.name then none else some (m.addValueMap v)
  | .data d => some (m.addData d)
  | .inspection i => some (m.addInspection i)

/-- Statements can be added one after another exactly if their value maps can stand in a map after
those that are there; the other declarations are appended. -/
theorem foldlM_addTo_eq_some_iff {statements : List Statement} {m m' : Model} :
    statements.foldlM Statement.addTo? m = some m' ↔
      m'.name = m.name ∧ m'.valueMaps.entries = m.valueMaps.entries ++ namedMaps statements ∧
        m'.data = m.data ++ statements.filterMap Statement.data? ∧
        m'.inspections = m.inspections ++ statements.filterMap Statement.inspection? := by
  induction statements generalizing m with
  | nil =>
      obtain ⟨name, ⟨maps, _⟩, data, inspections⟩ := m
      obtain ⟨name', ⟨maps', _⟩, data', inspections'⟩ := m'
      simp [namedMaps, eq_comm]
  | cons statement rest ih =>
      rw [List.foldlM_cons, Option.bind_eq_bind]
      cases statement with
      | valueMap v =>
          have named : namedMaps (.valueMap v :: rest) = (v.name, v) :: namedMaps rest := rfl
          rw [Statement.addTo?, Model.hasValueMap, named]
          by_cases repeats : v.name ∈ m.valueMaps.keys
          · rw [if_pos (Dict.contains_eq_true_iff.mpr repeats)]
            refine iff_of_false (by rintro ⟨⟩) ?_
            rintro ⟨-, same, -⟩
            have nodup := m'.valueMaps.nodup_keys
            rw [same, List.map_append, List.nodup_append] at nodup
            exact nodup.2.2 _ repeats _ List.mem_cons_self rfl
          · rw [if_neg fun contained => repeats (Dict.contains_eq_true_iff.mp contained),
              Option.bind_some, ih]
            simp [Model.addValueMap, Dict.entries_insert_of_notMem _ repeats, List.filterMap_cons]
      | data d =>
          rw [Statement.addTo?, Option.bind_some, ih]
          simp [Model.addData, namedMaps, List.filterMap_cons]
      | inspection i =>
          rw [Statement.addTo?, Option.bind_some, ih]
          simp [Model.addInspection, namedMaps, List.filterMap_cons]

/-- A value map is added to a model that has none of its name. -/
theorem run_valueMapStatement_eq_ok_iff {m m' : Model} :
    (valueMapStatement m).run ts = .ok (m', rest) ↔
      ∃ v, valueMap.run ts = .ok (v, rest) ∧ Statement.addTo? m (.valueMap v) = some m' := by
  simp only [valueMapStatement, run_bind_eq_ok_iff, run_ahead_eq_ok_iff, Statement.addTo?]
  constructor
  · rintro ⟨_, _, ⟨rfl, rfl⟩, v, _, read, added⟩
    split at added
    case isTrue => exact (run_failAt_ne_ok added).elim
    case isFalse new =>
      obtain ⟨rfl, rfl⟩ := run_pure_eq_ok_iff.mp added
      exact ⟨v, read, if_neg new⟩
  · rintro ⟨v, read, added⟩
    refine ⟨_, _, ⟨rfl, rfl⟩, v, _, read, ?_⟩
    split at added
    case isTrue => cases added
    case isFalse new =>
      rw [if_neg new]
      exact run_pure_eq_ok_iff.mpr ⟨Option.some.inj added, rfl⟩

/-- The statements of a text are read as they are derived. -/
theorem readsEntries_statement : ReadsEntries statement? DerivesStatement Statement.addTo? where
  sound {m t p ts m' rest} chosen read := by
    unfold statement? at chosen
    split at chosen
    all_goals cases chosen
    · obtain ⟨v, read, added⟩ := run_valueMapStatement_eq_ok_iff.mp read
      obtain ⟨taken, derived, rfl⟩ := derivesStatement_of_run_valueMap read
      exact ⟨taken, _, derived, rfl, added⟩
    · obtain ⟨d, declaration, rfl⟩ := run_map_eq_ok_iff.mp read
      obtain ⟨taken, derived, rfl⟩ := derivesStatement_of_run_dataDeclaration declaration
      exact ⟨taken, _, derived, rfl, rfl⟩
    · obtain ⟨i, declaration, rfl⟩ := run_map_eq_ok_iff.mp read
      obtain ⟨taken, derived, rfl⟩ := derivesStatement_of_run_inspection declaration
      exact ⟨taken, _, derived, rfl, rfl⟩
  complete {read statement m m' rest} derived added next := by
    cases derived with
    | @valueMap name _ _ entries derived nodup stops =>
        have read := run_valueMap_of_repeated (v := ⟨name, ⟨entries, nodup⟩⟩) derived stops next
        exact ⟨_, _, _, rfl, rfl, run_valueMapStatement_eq_ok_iff.mpr ⟨_, read, added⟩⟩
    | data headed derived stops =>
        cases added
        exact ⟨_, _, _, rfl, rfl, run_map_eq_ok_iff.mpr
          ⟨_, run_dataDeclaration_of_repeated headed derived stops next, rfl⟩⟩
    | inspection headed derived named stops =>
        cases added
        exact ⟨_, _, _, rfl, rfl, run_map_eq_ok_iff.mpr
          ⟨_, run_inspection_of_repeated headed derived named stops next, rfl⟩⟩
  semicolon m := rfl

/-! ## Models -/

/-- No statement begins as the head of a text does. -/
theorem head?_ne_LM_of_repeated {taken : List Token} {statements : List Statement}
    (derived : Repeated DerivesStatement taken statements) : taken.head? ≠ some (.name "LM") := by
  cases derived with
  | nil => exact nofun
  | cons first further =>
      cases first <;> simp

/-- The name of a model is read as it is derived, where nothing that follows could be its head. -/
theorem run_modelName_eq_ok_iff {source name : String} (noHead : rest.head? ≠ some (.name "LM")) :
    (modelName source).run ts = .ok (name, rest) ↔
      ∃ head, DerivesName source head name ∧ ts = head ++ rest := by
  simp only [modelName, run_bind_eq_ok_iff]
  constructor
  · rintro ⟨found, _, head, further⟩
    rcases run_skipIf_eq_ok_iff.mp head with ⟨rfl, rfl⟩ | ⟨rfl, rfl, -⟩
    · obtain rfl := run_name_eq_ok_iff.mp (run_ended_eq_ok_iff.mp further)
      exact ⟨_, .present name, rfl⟩
    · obtain ⟨rfl, rfl⟩ := run_pure_eq_ok_iff.mp further
      exact ⟨_, .absent, rfl⟩
  · rintro ⟨head, headed, rfl⟩
    cases headed with
    | absent =>
        exact ⟨false, rest, run_skipIf_eq_ok_iff.mpr (.inr ⟨rfl, rfl, noHead⟩),
          run_pure_eq_ok_iff.mpr ⟨rfl, rfl⟩⟩
    | present =>
        exact ⟨true, _, run_skipIf_eq_ok_iff.mpr (.inl ⟨rfl, rfl⟩),
          run_ended_eq_ok_iff.mpr (run_name_eq_ok_iff.mpr rfl)⟩

/-- All tokens of a text are read exactly if a model is derived from them, and then that model. -/
theorem run_model_eq_ok_iff {source : String} {m : Model} :
    (model source).run ts = .ok (m, rest) ↔ Derives source ts m ∧ rest = [] := by
  simp only [model, run_bind_eq_ok_iff, run_finish_eq_ok_iff, run_pure_eq_ok_iff]
  constructor
  · rintro ⟨name, _, head, m, _, loop, -, _, ⟨rfl, rfl⟩, rfl, rfl⟩
    obtain ⟨taken, statements, derived, rfl, steps⟩ := readsEntries_statement.repeated_of_run loop
    rw [List.append_nil] at head
    obtain ⟨head, headed, rfl⟩ :=
      (run_modelName_eq_ok_iff (head?_ne_LM_of_repeated derived)).mp head
    obtain ⟨named, maps, data, inspections⟩ := foldlM_addTo_eq_some_iff.mp steps
    obtain ⟨name', ⟨entries, nodup⟩, data', inspections'⟩ := m
    obtain rfl : name' = name := named
    obtain rfl : entries = namedMaps statements := maps
    obtain rfl : data' = statements.filterMap Statement.data? := data
    obtain rfl : inspections' = statements.filterMap Statement.inspection? := inspections
    exact ⟨.intro headed derived nodup, rfl⟩
  · rintro ⟨@⟨_, _, name, statements, headed, derived, nodup⟩, rfl⟩
    have head := (run_modelName_eq_ok_iff (head?_ne_LM_of_repeated derived)).mpr ⟨_, headed, rfl⟩
    have steps : statements.foldlM Statement.addTo? (.bare name) =
        some (.ofStatements name statements nodup) :=
      foldlM_addTo_eq_some_iff.mpr ⟨rfl, rfl, rfl, rfl⟩
    have loop : (many statement? (.bare name)).run (_ ++ []) = .ok (_, []) :=
      readsEntries_statement.run_of_repeated derived steps (by simp) (by simp)
    rw [List.append_nil] at loop
    exact ⟨_, _, head, _, [], loop, (), [], ⟨rfl, rfl⟩, rfl, rfl⟩

/-- A model is read from tokens exactly if the token reader takes all of them. -/
theorem ofTokens_eq_ok_iff_run {source : String} {tokens : Tokens} {m : Model} :
    Model.ofTokens source tokens = .ok m ↔
      (model source).run (tokens.list.map LocatedToken.token) = .ok (m, []) := by
  rw [Model.ofTokens]
  constructor
  · intro read
    split at read
    case h_1 m' rest result =>
      obtain rfl := Except.ok.inj read
      rw [result, (run_model_eq_ok_iff.mp result).2]
    case h_2 => exact nomatch read
  · intro result
    rw [result]

/-- **Reading agrees with the grammar.** The tokens of a text are read as a model exactly if the
grammar derives that model from them. -/
theorem ofTokens_eq_ok_iff_derives (source : String) (tokens : Tokens) (m : Model) :
    Model.ofTokens source tokens = .ok m ↔
      Derives source (tokens.list.map LocatedToken.token) m := by
  rw [ofTokens_eq_ok_iff_run, run_model_eq_ok_iff]
  exact and_iff_left rfl

end Crossmap.Mapping
