import Crossmap.Proofs.Mapping.Concatenation

/-! # Sequences that repeat codes and names

`Sentence` is the grammar of mapping texts without its two conditions that something differs: the
codes of a value map, and the names of the value maps of a text. All of its sequences are read, up
to a repetition (`run_model_of_sentence`). `RepeatsCode` and `RepeatsMap` say where a repetition
stands, and it is reported there (`run_model_of_repeatsCode`, `run_model_of_repeatsMap`).
-/

namespace Crossmap.Mapping

open TokenReader

variable {source : String} {front body rest : List Token} {m m' : Model}

/-! ## Sequences -/

/-- Statements, and value maps in which codes come more than once. -/
inductive StatementForm : List Token → Prop
  | statement {ts : List Token} {s : Statement} (derived : DerivesStatement ts s) : StatementForm ts
  | valueMap (name : String) {ts stop : List Token} {entries : List (Code × String)}
      (derived : Repeated DerivesEntry ts entries) (stops : DerivesStop stop) :
      StatementForm
        (.name "VALUEMAP" :: .name name :: .symbol .leftBrace :: ts ++ .symbol .rightBrace :: stop)

/-- **The grammar of mapping texts without its conditions on codes and names.** -/
inductive Sentence : List Token → Prop
  | intro {source name : String} {head : List Token} {parts : List (List Token)}
      (headed : DerivesName source head name) (forms : ∀ part ∈ parts, StatementForm part) :
      Sentence (head ++ parts.flatten)

/-- Statements one after another are parts of the form of a statement. -/
theorem exists_parts_of_repeated {statements : List Statement}
    (derived : Repeated DerivesStatement body statements) :
    ∃ parts : List (List Token), body = parts.flatten ∧ ∀ part ∈ parts, StatementForm part := by
  induction derived with
  | nil => exact ⟨[], rfl, List.forall_mem_nil _⟩
  | cons first _ ih =>
      obtain ⟨parts, rfl, forms⟩ := ih
      exact ⟨_ :: parts, rfl, List.forall_mem_cons.mpr ⟨.statement first, forms⟩⟩

/-- Statements can go on with forms of statements. -/
theorem Derives.sentence_append (derives : Derives source front m) {parts : List (List Token)}
    (forms : ∀ part ∈ parts, StatementForm part) : Sentence (front ++ parts.flatten) := by
  obtain ⟨headed, derived, -⟩ := derives
  obtain ⟨before, rfl, formsBefore⟩ := exists_parts_of_repeated derived
  rw [List.append_assoc, ← List.flatten_append]
  exact .intro headed (List.forall_mem_append.mpr ⟨formsBefore, forms⟩)

/-! ## Statements one by one -/

/-- A header and statements that can be added one after another derive the model that comes of it.
-/
theorem derives_of_foldlM {head : List Token} {name : String} {statements : List Statement}
    (headed : DerivesName source head name) (derived : Repeated DerivesStatement body statements)
    (steps : statements.foldlM Statement.addTo? (.bare name) = some m) :
    Derives source (head ++ body) m := by
  have named := (run_modelName_eq_ok_iff (head?_ne_LM_of_repeated derived)).mpr ⟨_, headed, rfl⟩
  have loop : (many statement? (.bare name)).run (body ++ []) = .ok (m, []) :=
    readsEntries_statement.run_of_repeated derived steps (by simp) (by simp)
  rw [List.append_nil] at loop
  have read : (model source).run (head ++ body) = .ok (m, []) := by
    rw [model, run_bind_of_ok named, run_bind_of_ok loop]
    rfl
  exact (run_model_eq_ok_iff.mp read).1

/-- A model that is derived comes of its statements being added one after another. -/
theorem Derives.exists_foldlM (derives : Derives source front m) :
    ∃ head body name statements, front = head ++ body ∧ DerivesName source head name ∧
      Repeated DerivesStatement body statements ∧
      statements.foldlM Statement.addTo? (.bare name) = some m := by
  obtain ⟨headed, derived, nodup⟩ := derives
  exact ⟨_, _, _, _, rfl, headed, derived, foldlM_addTo_eq_some_iff.mpr ⟨rfl, rfl, rfl, rfl⟩⟩

/-- A statement that can be added prolongs a text. -/
theorem Derives.concat {ts : List Token} {s : Statement} (derives : Derives source front m)
    (derived : DerivesStatement ts s) (added : s.addTo? m = some m') :
    Derives source (front ++ ts) m' := by
  obtain ⟨head, body, name, statements, rfl, headed, before, steps⟩ := derives.exists_foldlM
  rw [List.append_assoc]
  refine derives_of_foldlM headed (before.concat derived) ?_
  rw [List.foldlM_append, steps]
  exact (congrArg (· >>= pure) added)

/-- Where a statement fails that stands behind others, the text fails. -/
theorem run_model_of_statement_error {t : Token} {p : TokenReader Model} {f : Failure}
    (derives : Derives source front m) (chosen : statement? m t = some p)
    (failed : p.run rest = .error f) : (model source).run (front ++ t :: rest) = .error f := by
  obtain ⟨head, body, name, statements, rfl, headed, derived, steps⟩ := derives.exists_foldlM
  have first : (t :: rest).head? ≠ some (.symbol .semicolon) ∧
      (t :: rest).head? ≠ some (.name "LM") := by
    unfold statement? at chosen
    split at chosen
    all_goals cases chosen
    all_goals simp
  have headless : (body ++ t :: rest).head? ≠ some (.name "LM") := by
    have none := head?_ne_LM_of_repeated derived
    cases body with
    | nil => exact first.2
    | cons u us => exact none
  have named := (run_modelName_eq_ok_iff headless).mpr ⟨head, headed, rfl⟩
  have loop := (readsEntries_statement.manyFrom_append_of_repeated derived steps first.1).trans
    (manyFrom_cons_of_error chosen failed)
  rw [model, List.append_assoc, run_bind_of_ok named]
  exact run_bind_of_error loop

/-! ## Repetitions -/

/-- Whether a value map, behind statements, goes on with an entry whose code it has already. -/
def RepeatsCode (source : String) (before after : List Token) (code : Code) (map : String) : Prop :=
  ∃ front m body entries entry path rest, Derives source front m ∧
    before = front ++ .name "VALUEMAP" :: .name map :: .symbol .leftBrace :: body ∧
    Repeated DerivesEntry body entries ∧ (entries.map Prod.fst).Nodup ∧
    code ∈ entries.map Prod.fst ∧ DerivesEntry entry (code, path) ∧ after = entry ++ rest

/-- Whether statements go on with a value map of a name that they have already. -/
def RepeatsMap (source : String) (before after : List Token) (name : String) : Prop :=
  ∃ m v ts rest, Derives source before m ∧ name ∈ m.valueMaps.keys ∧
    DerivesStatement ts (.valueMap v) ∧ v.name = name ∧ after = ts ++ rest

/-- An entry whose code the map has already is reported at its code. -/
theorem run_mapEntry_of_contained {map : ValueMap} {code : Code} {path : String} {ts : List Token}
    (contained : map.entries.contains code = true) (derived : DerivesPath ts path) :
    (mapEntry map code).run (.symbol .arrow :: ts ++ .symbol .semicolon :: rest) =
      .error ⟨.code code :: .symbol .arrow :: ts ++ .symbol .semicolon :: rest,
        .duplicateCode code map.name⟩ := by
  have target : (TokenReader.path "mapped path").run (ts ++ .symbol .semicolon :: rest) =
      .ok (path, .symbol .semicolon :: rest) :=
    run_path_eq_ok_iff.mpr ⟨ts, derived, rfl, by simp⟩
  simp only [List.cons_append]
  rw [mapEntry, run_bind_of_ok (run_ahead_eq_ok_iff.mpr ⟨rfl, rfl⟩),
    run_bind_of_ok ((run_symbol_eq_ok_iff (u := ())).mpr rfl), run_bind_of_ok target,
    run_bind_of_ok ((run_symbol_eq_ok_iff (u := ())).mpr rfl), if_pos contained]
  rfl

/-- A value map fails at the code of an entry whose code it has already. -/
theorem run_valueMap_of_repeats {name path : String} {entry : List Token} {code : Code}
    {entries : List (Code × String)} (derived : Repeated DerivesEntry body entries)
    (nodup : (entries.map Prod.fst).Nodup) (repeats : code ∈ entries.map Prod.fst)
    (last : DerivesEntry entry (code, path)) :
    valueMap.run (.name name :: .symbol .leftBrace :: (body ++ (entry ++ rest))) =
      .error ⟨entry ++ rest, .duplicateCode code name⟩ := by
  cases last with
  | @intro _ ts _ target =>
      have steps : entries.foldlM ValueMap.addEntry? ⟨name, .empty⟩ =
          some ⟨name, ⟨entries, nodup⟩⟩ :=
        foldlM_addEntry_eq_some_iff.mpr ⟨rfl, rfl⟩
      have failed : (mapEntry ⟨name, ⟨entries, nodup⟩⟩ code).run
          (.symbol .arrow :: ts ++ .symbol .semicolon :: rest) = _ :=
        run_mapEntry_of_contained (Dict.contains_eq_true_iff.mpr repeats) target
      have loop := (readsEntries_mapEntry.manyFrom_append_of_repeated derived steps
        (show (Token.code code :: _).head? ≠ _ by simp)).trans (manyFrom_cons_of_error rfl failed)
      simp only [List.cons_append, List.append_assoc, List.nil_append] at loop ⊢
      rw [valueMap, run_bind_of_ok (run_name_eq_ok_iff.mpr rfl),
        run_bind_of_ok ((run_symbol_eq_ok_iff (u := ())).mpr rfl)]
      exact run_bind_of_error loop

/-- A repeated code ends the reading, and is reported where it stands. -/
theorem run_model_of_repeatsCode {before after : List Token} {code : Code} {map : String}
    (repeats : RepeatsCode source before after code map) :
    (model source).run (before ++ after) = .error ⟨after, .duplicateCode code map⟩ := by
  obtain ⟨front, m, body, entries, entry, path, rest, derives, rfl, derived, nodup, repeats, last,
    rfl⟩ := repeats
  have failed : (valueMapStatement m).run
      (.name map :: .symbol .leftBrace :: (body ++ (entry ++ rest))) =
        .error ⟨entry ++ rest, .duplicateCode code map⟩ := by
    rw [valueMapStatement, run_bind_of_ok (run_ahead_eq_ok_iff.mpr ⟨rfl, rfl⟩)]
    exact run_bind_of_error (run_valueMap_of_repeats derived nodup repeats last)
  simpa using run_model_of_statement_error derives rfl failed

/-- What can be skipped need not be there. -/
theorem exists_run_skipIf (wanted : Token) (ts : List Token) :
    ∃ found rest, (skipIf wanted).run ts = .ok (found, rest) := by
  cases ts with
  | nil => exact ⟨false, [], rfl⟩
  | cons t ts =>
      by_cases same : t = wanted
      · exact ⟨true, ts, run_skipIf_eq_ok_iff.mpr (.inl ⟨rfl, congrArg (· :: ts) same⟩)⟩
      · exact ⟨false, t :: ts, run_skipIf_eq_ok_iff.mpr (.inr ⟨rfl, rfl, by simpa using same⟩)⟩

/-- A value map is read whatever follows its closing brace. -/
theorem exists_run_valueMap {v : ValueMap} (derived : Repeated DerivesEntry body v.entries.entries)
    (rest : List Token) :
    ∃ rest', valueMap.run (.name v.name :: .symbol .leftBrace :: body ++
      .symbol .rightBrace :: rest) = .ok (v, rest') := by
  obtain ⟨found, rest', semicolon⟩ := exists_run_skipIf (.symbol .semicolon) rest
  have loop : (many mapEntry? ⟨v.name, .empty⟩).run (body ++ .symbol .rightBrace :: rest) =
      .ok (v, .symbol .rightBrace :: rest) :=
    (run_many_rightBrace_iff readsEntries_mapEntry fun _ => rfl).mpr
      ⟨body, _, derived, rfl, foldlM_addEntry_eq_some_iff.mpr ⟨rfl, rfl⟩⟩
  simp only [List.cons_append]
  refine ⟨rest', ?_⟩
  rw [valueMap, run_bind_of_ok (run_name_eq_ok_iff.mpr rfl),
    run_bind_of_ok ((run_symbol_eq_ok_iff (u := ())).mpr rfl), run_bind_of_ok loop,
    run_bind_of_ok ((run_closingBrace_eq_ok_iff (u := ())).mpr rfl), run_bind_of_ok semicolon]
  rfl

/-- A repeated value map ends the reading, and is reported where it stands. -/
theorem run_model_of_repeatsMap {before after : List Token} {name : String}
    (repeats : RepeatsMap source before after name) :
    (model source).run (before ++ after) = .error ⟨after, .duplicateMap name⟩ := by
  obtain ⟨m, v, ts, rest, derives, declared, derived, rfl, rfl⟩ := repeats
  have contained : m.hasValueMap v.name = true := Dict.contains_eq_true_iff.mpr declared
  cases derived with
  | @valueMap name body stop entries derived nodup stops =>
      obtain ⟨rest', read⟩ := @exists_run_valueMap _ ⟨name, ⟨entries, nodup⟩⟩ derived (stop ++ rest)
      have failed := run_valueMapStatement_of_contained contained read
      simpa using run_model_of_statement_error derives rfl failed

/-! ## Up to repetitions all sequences are read -/

/-- A statement that cannot be added ends the reading, with nothing that was expected instead. -/
theorem exists_repetition_of_statement {ts : List Token} {s : Statement}
    (derives : Derives source front m) (derived : DerivesStatement ts s)
    (refused : s.addTo? m = none) (rest : List Token) :
    ∃ f, (model source).run (front ++ (ts ++ rest)) = .error f ∧ f.reason.expected = [] := by
  cases s with
  | valueMap v =>
      rw [Statement.addTo?, ite_eq_left_iff] at refused
      by_cases declared : m.hasValueMap v.name = true
      · have repeats : RepeatsMap source front (ts ++ rest) v.name :=
          ⟨m, v, ts, rest, derives, Dict.contains_eq_true_iff.mp declared, derived, rfl, rfl⟩
        exact ⟨_, run_model_of_repeatsMap repeats, rfl⟩
      · cases refused declared
  | data d => cases refused
  | inspection i => cases refused

/-- Forms of statements behind statements are read up to a repetition. -/
theorem run_model_of_forms {parts : List (List Token)} (derives : Derives source front m)
    (forms : ∀ part ∈ parts, StatementForm part) :
    (∃ m', (model source).run (front ++ parts.flatten) = .ok (m', [])) ∨
      ∃ f, (model source).run (front ++ parts.flatten) = .error f ∧ f.reason.expected = [] := by
  induction parts generalizing front m with
  | nil =>
      refine .inl ⟨m, run_model_eq_ok_iff.mpr ⟨?_, rfl⟩⟩
      rwa [List.flatten_nil, List.append_nil]
  | cons part parts ih =>
      rw [List.forall_mem_cons] at forms
      rw [List.flatten_cons]
      have goesOn {s : Statement} (derived : DerivesStatement part s) :
          (∃ m', (model source).run (front ++ (part ++ parts.flatten)) = .ok (m', [])) ∨
            ∃ f, (model source).run (front ++ (part ++ parts.flatten)) = .error f ∧
              f.reason.expected = [] := by
        cases added : s.addTo? m with
        | none => exact .inr (exists_repetition_of_statement derives derived added _)
        | some m' =>
            rw [← List.append_assoc]
            exact ih (derives.concat derived added) forms.2
      cases forms.1 with
      | statement derived => exact goesOn derived
      | @valueMap name body stop entries derived stops =>
          by_cases nodup : (entries.map Prod.fst).Nodup
          · exact goesOn (.valueMap name derived nodup stops)
          · obtain ⟨before, ⟨code, path⟩, after, rfl, nodup, repeats⟩ :=
              exists_repeat_of_not_nodup nodup
            obtain ⟨start, us, rfl, derivedBefore, derivedAfter⟩ := derived.exists_of_append
            cases derivedAfter with
            | @cons entry others _ _ last further =>
                have code : RepeatsCode source
                    (front ++ .name "VALUEMAP" :: .name name :: .symbol .leftBrace :: start)
                    (entry ++ (others ++ .symbol .rightBrace :: stop ++ parts.flatten)) code name :=
                  ⟨front, m, start, before, entry, path, _, derives, rfl, derivedBefore, nodup,
                    repeats, last, rfl⟩
                have failed := run_model_of_repeatsCode code
                simp only [List.cons_append, List.append_assoc] at failed ⊢
                exact .inr ⟨_, failed, rfl⟩

/-- **All sequences of the grammar without its conditions are read up to a repetition.** -/
theorem run_model_of_sentence {ts : List Token} (sentence : Sentence ts) (source : String) :
    (∃ m, (model source).run ts = .ok (m, [])) ∨
      ∃ f, (model source).run ts = .error f ∧ f.reason.expected = [] := by
  obtain ⟨headed, forms⟩ := sentence
  cases headed with
  | absent => exact run_model_of_forms (derives_of_foldlM .absent .nil rfl) forms
  | present => exact run_model_of_forms (derives_of_foldlM (.present _) .nil rfl) forms

end Crossmap.Mapping
