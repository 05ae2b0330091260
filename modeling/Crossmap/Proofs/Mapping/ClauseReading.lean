import Crossmap.Proofs.Mapping.ReaderLaws

/-! # Reading clauses

What follows the keyword of a clause is read as the grammar derives it (`readsClauses_common`,
`readsClauses_data`, `readsClauses_inspection`), so that the clauses of a declaration are read as a
loop of such entries (`readsEntries_dataClause`, `readsEntries_inspectionClause`).
-/

namespace Crossmap.Mapping

open TokenReader

variable {ts rest : List Token}

/-! ## Columns -/

theorem nameOrMarker?_eq_name_iff {t : Token} {s : String} :
    nameOrMarker? t = some (.name s) ↔ t = .name s := by
  cases t <;> simp [nameOrMarker?]

theorem nameOrMarker?_eq_marker_iff {t : Token} {s : String} :
    nameOrMarker? t = some (.marker s) ↔ t = .marker s := by
  cases t <;> simp [nameOrMarker?]

theorem directionOf?_eq_some_iff {t : Token} {d : Direction} :
    directionOf? t = some d ↔ t = .symbol d.symbol := by
  constructor
  · intro found
    unfold directionOf? at found
    split at found <;> cases found <;> rfl
  · rintro rfl
    cases d <;> rfl

/-- A direction is read where its arrow stands. -/
@[simp] theorem run_directionArrow_eq_ok_iff {d : Direction} :
    directionArrow.run ts = .ok (d, rest) ↔ ts = .symbol d.symbol :: rest := by
  simp [directionArrow, directionOf?_eq_some_iff]

/-- A target path is read as it is derived, where no dot follows. -/
theorem run_targetPath_eq_ok_iff {path : String} (noDot : rest.head? ≠ some (.symbol .dot)) :
    targetPath.run ts = .ok (path, rest) ↔ ∃ read, DerivesTarget read path ∧ ts = read ++ rest := by
  simp only [targetPath, run_bind_eq_ok_iff, run_next_eq_ok_iff]
  constructor
  · rintro ⟨first, between, ⟨t, rfl, accepted⟩, further⟩
    cases first with
    | marker s =>
        obtain rfl := nameOrMarker?_eq_marker_iff.mp accepted
        obtain ⟨rfl, rfl⟩ := run_pure_eq_ok_iff.mp further
        exact ⟨_, .marker s, rfl⟩
    | name s =>
        obtain rfl := nameOrMarker?_eq_name_iff.mp accepted
        obtain ⟨read, derived, rfl, -⟩ := run_furtherSegments_eq_ok_iff.mp further
        exact ⟨_, .path derived, rfl⟩
  · rintro ⟨read, derived, rfl⟩
    cases derived with
    | marker s => exact ⟨.marker s, rest, ⟨_, rfl, rfl⟩, run_pure_eq_ok_iff.mpr ⟨rfl, rfl⟩⟩
    | path dotted =>
        obtain ⟨s, further, rfl⟩ := exists_name_cons_of_derivesPath dotted
        exact ⟨.name s, further ++ rest, ⟨_, rfl, rfl⟩,
          run_furtherSegments_eq_ok_iff.mpr ⟨further, dotted, rfl, noDot⟩⟩

/-- A column is bound to a path in either spelling, as the grammar derives it. -/
theorem run_binding_eq_ok_iff {c : Column} (noDot : rest.head? ≠ some (.symbol .dot)) :
    binding.run ts = .ok (c, rest) ↔
      ∃ read column path, DerivesBinding read column path ∧ ts = read ++ rest ∧
        c = ⟨column, path, none⟩ := by
  simp only [binding, run_bind_eq_ok_iff, run_next_eq_ok_iff]
  constructor
  · rintro ⟨first, between, ⟨t, rfl, accepted⟩, further⟩
    cases first with
    | marker s =>
        obtain rfl := nameOrMarker?_eq_marker_iff.mp accepted
        simp only [run_bind_eq_ok_iff, run_symbol_eq_ok_iff, run_name_eq_ok_iff,
          run_pure_eq_ok_iff] at further
        obtain ⟨-, _, rfl, column, _, rfl, rfl, rfl⟩ := further
        exact ⟨_, column, _, .markerFirst s column, rfl, rfl⟩
    | name s =>
        obtain rfl := nameOrMarker?_eq_name_iff.mp accepted
        simp only [run_bind_eq_ok_iff, run_symbol_eq_ok_iff, run_pure_eq_ok_iff] at further
        obtain ⟨-, _, rfl, path, _, target, rfl, rfl⟩ := further
        obtain ⟨read, derived, rfl⟩ := (run_targetPath_eq_ok_iff noDot).mp target
        exact ⟨_, s, path, .columnFirst s derived, rfl, rfl⟩
  · rintro ⟨read, column, path, derived, rfl, rfl⟩
    cases derived with
    | columnFirst _ target =>
        refine ⟨.name column, _, ⟨_, rfl, rfl⟩, ?_⟩
        simp only [run_bind_eq_ok_iff, run_symbol_eq_ok_iff, run_pure_eq_ok_iff]
        exact ⟨(), _, rfl, path, rest, (run_targetPath_eq_ok_iff noDot).mpr ⟨_, target, rfl⟩,
          rfl, rfl⟩
    | markerFirst marker =>
        refine ⟨.marker marker, _, ⟨_, rfl, rfl⟩, ?_⟩
        simp

/-- A column, its value map included, is read up to its semicolon exactly where one is derived. -/
theorem run_ended_boundColumn_eq_ok_iff {c : Column} :
    (ended boundColumn).run ts = .ok (c, rest) ↔
      ∃ read, DerivesColumn read c ∧ ts = read ++ .symbol .semicolon :: rest := by
  simp only [run_ended_eq_ok_iff, boundColumn, run_bind_eq_ok_iff]
  constructor
  · rintro ⟨bound, between, read, found, next, comma, further⟩
    rcases run_skipIf_eq_ok_iff.mp comma with ⟨rfl, rfl⟩ | ⟨rfl, rfl, -⟩
    · obtain ⟨taken, column, path, derived, rfl, rfl⟩ := (run_binding_eq_ok_iff (by simp)).mp read
      simp only [if_true, run_bind_eq_ok_iff, run_name_eq_ok_iff, run_pure_eq_ok_iff] at further
      obtain ⟨map, _, rfl, rfl, rfl⟩ := further
      exact ⟨_, .mapped map derived, by simp⟩
    · simp only [Bool.false_eq_true, if_false, run_pure_eq_ok_iff] at further
      obtain ⟨rfl, rfl⟩ := further
      obtain ⟨taken, column, path, derived, rfl, rfl⟩ := (run_binding_eq_ok_iff (by simp)).mp read
      exact ⟨_, .plain derived, rfl⟩
  · rintro ⟨read, derived, rfl⟩
    cases derived with
    | @plain _ column path bound =>
        refine ⟨_, _, (run_binding_eq_ok_iff (by simp)).mpr ⟨_, column, path, bound, rfl, rfl⟩,
          false, _, run_skipIf_eq_ok_iff.mpr (.inr ⟨rfl, rfl, by simp⟩), ?_⟩
        simp
    | @mapped map taken column path bound =>
        have read : binding.run
            (taken ++ .symbol .comma :: .name map :: .symbol .semicolon :: rest) =
              .ok (⟨column, path, none⟩,
                .symbol .comma :: .name map :: .symbol .semicolon :: rest) :=
          (run_binding_eq_ok_iff (by simp)).mpr ⟨taken, column, path, bound, rfl, rfl⟩
        rw [List.append_assoc]
        refine ⟨_, _, read, true, _, run_skipIf_eq_ok_iff.mpr (.inl ⟨rfl, rfl⟩), ?_⟩
        simp

/-- The columns of a block are read as they are derived, and collected in their order. -/
theorem readsEntries_blockColumn :
    ReadsEntries blockColumn? DerivesColumnClause fun columns c => some (columns ++ [c]) where
  sound {columns t p ts columns' rest} entry read := by
    unfold blockColumn? at entry
    split at entry
    case isTrue isColumn =>
      cases entry
      obtain ⟨c, column, rfl⟩ := run_map_eq_ok_iff.mp read
      obtain ⟨taken, derived, rfl⟩ := run_ended_boundColumn_eq_ok_iff.mp column
      rw [isColumn]
      exact ⟨_, c, .intro derived, by simp, rfl⟩
    case isFalse => exact nomatch entry
  complete := by
    rintro read c columns columns' rest ⟨column⟩ ⟨⟩ -
    refine ⟨_, _, _, rfl, rfl, run_map_eq_ok_iff.mpr ⟨c, ?_, rfl⟩⟩
    exact run_ended_boundColumn_eq_ok_iff.mpr ⟨_, column, by simp⟩
  semicolon columns := rfl

/-! ## Blocks -/

/-- Steps that refuse no item make a fold. -/
theorem foldlM_some {σ ι : Type} (step : σ → ι → σ) (items : List ι) (s : σ) :
    items.foldlM (fun s i => some (step s i)) s = some (items.foldl step s) :=
  List.foldlM_pure

/-- A loop reads up to a closing brace what is derived by repetition. -/
theorem run_many_rightBrace_iff {σ ι : Type} {entry : σ → Token → Option (TokenReader σ)}
    {item : List Token → ι → Prop} {step : σ → ι → Option σ}
    (reads : ReadsEntries entry item step) (brace : ∀ s, entry s (.symbol .rightBrace) = none)
    {s s' : σ} :
    (many entry s).run ts = .ok (s', .symbol .rightBrace :: rest) ↔
      ∃ taken items, Repeated item taken items ∧ ts = taken ++ .symbol .rightBrace :: rest ∧
        items.foldlM step s = some s' := by
  refine ⟨reads.repeated_of_run, ?_⟩
  rintro ⟨taken, items, derived, rfl, steps⟩
  refine reads.run_of_repeated derived steps (by simp) ?_
  intro t isBrace
  rw [List.head?_cons, Option.some.injEq] at isBrace
  exact isBrace ▸ brace

/-- Collecting columns one by one gives their list. -/
theorem foldlM_blockColumns (columns : List Column) :
    columns.foldlM (fun columns c => some (columns ++ [c])) [] = some columns := by
  simp [foldlM_some, ← List.flatMap_def]

/-- What is read as a block of columns is derived as one. -/
theorem derivesCommonClause_of_run_columnBlock {w : WithBlock}
    (read : columnBlock.run ts = .ok (w, rest)) :
    ∃ taken, DerivesCommonClause (.name "WITH" :: taken) (.withBlock w) ∧ ts = taken ++ rest := by
  simp only [columnBlock, run_bind_eq_ok_iff, run_name_eq_ok_iff, run_symbol_eq_ok_iff,
    run_closingBrace_eq_ok_iff, run_pure_eq_ok_iff] at read
  obtain
    ⟨aliasName, _, rfl, -, _, rfl, columns, _, loop, -, _, rfl, found, _, semicolon, rfl, rfl⟩ :=
    read
  obtain ⟨stop, stops, rfl⟩ := derivesStop_of_run_skipIf semicolon
  obtain ⟨taken, items, derived, rfl, steps⟩ :=
    (run_many_rightBrace_iff readsEntries_blockColumn fun _ => rfl).mp loop
  obtain rfl := Option.some.inj ((foldlM_blockColumns items).symm.trans steps)
  exact ⟨_, .withBlock ⟨aliasName, items⟩ derived stops, by simp⟩

/-- A block of columns that is derived is read, with the semicolon that may stand behind it. -/
theorem run_columnBlock_of_repeated {w : WithBlock} {taken stop : List Token}
    (derived : Repeated DerivesColumnClause taken w.columns) (stops : DerivesStop stop)
    (next : rest.head? ≠ some (.symbol .semicolon)) :
    columnBlock.run (.name w.aliasName :: .symbol .leftBrace :: taken ++
      .symbol .rightBrace :: stop ++ rest) = .ok (w, rest) := by
  obtain ⟨found, semicolon⟩ := run_skipIf_of_derivesStop stops next
  have loop : (many blockColumn? []).run (taken ++ .symbol .rightBrace :: (stop ++ rest)) =
      .ok (w.columns, .symbol .rightBrace :: (stop ++ rest)) :=
    (run_many_rightBrace_iff readsEntries_blockColumn fun _ => rfl).mpr
      ⟨taken, w.columns, derived, rfl, foldlM_blockColumns w.columns⟩
  simp only [columnBlock, run_bind_eq_ok_iff, run_name_eq_ok_iff, run_symbol_eq_ok_iff,
    run_closingBrace_eq_ok_iff, run_pure_eq_ok_iff, List.cons_append, List.append_assoc]
  exact ⟨w.aliasName, _, rfl, (), _, rfl, w.columns, _, loop, (), _, rfl, found, rest, semicolon,
    rfl, rfl⟩

/-! ## Clauses -/

/-- The clauses of a kind are read after their keywords as a relation derives them. -/
structure ReadsClauses {γ : Type} (after? : String → Option (TokenReader γ))
    (clause : List Token → γ → Prop) : Prop where
  /-- What is read after a keyword is derived. -/
  sound : ∀ {word p ts c rest}, after? word = some p → p.run ts = .ok (c, rest) →
    ∃ read, clause (.name word :: read) c ∧ ts = read ++ rest
  /-- What is derived is read after its keyword. -/
  complete : ∀ {read c rest}, clause read c → rest.head? ≠ some (.symbol .semicolon) →
    ∃ word further p, read = .name word :: further ∧ after? word = some p ∧
      p.run (further ++ rest) = .ok (c, rest)

/-- A conversion is read exactly where its tokens stand. -/
@[simp] theorem run_conversionCall_eq_ok_iff {c : ConversionCall} :
    conversionCall.run ts = .ok (c, rest) ↔
      ts = .name c.valueMap :: .symbol .leftParen :: .name c.sourceColumn :: .symbol .doubleDash ::
        .name c.targetAlias :: .symbol .rightParen :: rest := by
  simp only [conversionCall, run_bind_eq_ok_iff, run_name_eq_ok_iff, run_symbol_eq_ok_iff,
    run_pure_eq_ok_iff]
  constructor
  · rintro ⟨map, _, rfl, -, _, rfl, column, _, rfl, -, _, rfl, target, _, rfl, -, _, rfl, rfl, rfl⟩
    rfl
  · rintro rfl
    exact ⟨_, _, rfl, (), _, rfl, _, _, rfl, (), _, rfl, _, _, rfl, (), _, rfl, rfl, rfl⟩

/-- A short name is read with the whole path behind it. -/
@[simp] theorem run_aliasDeclaration_eq_ok_iff {a : AliasDeclaration} :
    aliasDeclaration.run ts = .ok (a, rest) ↔
      ∃ read, DerivesPath read a.className ∧
        ts = .name a.shortName :: .symbol .tilde :: read ++ rest ∧
        rest.head? ≠ some (.symbol .dot) := by
  simp only [aliasDeclaration, run_bind_eq_ok_iff, run_name_eq_ok_iff, run_symbol_eq_ok_iff,
    run_path_eq_ok_iff, run_pure_eq_ok_iff]
  constructor
  · rintro ⟨short, _, rfl, -, _, rfl, className, _, ⟨read, derived, rfl, stops⟩, rfl, rfl⟩
    exact ⟨read, derived, rfl, stops⟩
  · rintro ⟨read, derived, rfl, stops⟩
    exact ⟨_, _, rfl, (), _, rfl, _, rest, ⟨read, derived, rfl, stops⟩, rfl, rfl⟩

/-- The clauses of both kinds of declaration are read as they are derived. -/
theorem readsClauses_common : ReadsClauses CommonClause.after? DerivesCommonClause where
  sound {word p ts c rest} keyword read := by
    unfold CommonClause.after? at keyword
    -- One goal for each keyword, in the order in which they are tried.
    split at keyword
    all_goals cases keyword
    · obtain ⟨d, arrow, rfl⟩ := run_map_eq_ok_iff.mp (run_ended_eq_ok_iff.mp read)
      obtain rfl := run_directionArrow_eq_ok_iff.mp arrow
      exact ⟨_, .direction d, rfl⟩
    · obtain ⟨column, name, rfl⟩ := run_map_eq_ok_iff.mp (run_ended_eq_ok_iff.mp read)
      obtain rfl := run_name_eq_ok_iff.mp name
      exact ⟨_, .ident column, rfl⟩
    · obtain ⟨call, tokens, rfl⟩ := run_map_eq_ok_iff.mp (run_ended_eq_ok_iff.mp read)
      obtain rfl := run_conversionCall_eq_ok_iff.mp tokens
      exact ⟨_, .conversion call, rfl⟩
    · obtain ⟨a, tokens, rfl⟩ := run_map_eq_ok_iff.mp (run_ended_eq_ok_iff.mp read)
      obtain ⟨path, derived, rfl, -⟩ := run_aliasDeclaration_eq_ok_iff.mp tokens
      exact ⟨_, .shortName a derived, by simp⟩
    · obtain ⟨w, block, rfl⟩ := run_map_eq_ok_iff.mp read
      exact derivesCommonClause_of_run_columnBlock block
    · obtain ⟨c, column, rfl⟩ := run_map_eq_ok_iff.mp (run_ended_eq_ok_iff.mp read)
      obtain ⟨taken, derived, rfl⟩ :=
        run_ended_boundColumn_eq_ok_iff.mp (run_ended_eq_ok_iff.mpr column)
      exact ⟨_, .column (.intro derived), by simp⟩
  complete {read c rest} derived next := by
    cases derived with
    | direction d =>
        refine ⟨"DIRECTION", _, _, rfl, rfl, ?_⟩
        simp
    | ident column =>
        refine ⟨"IDENT", _, _, rfl, rfl, ?_⟩
        simp
    | conversion c =>
        refine ⟨"CONVERSION", _, _, rfl, rfl, ?_⟩
        simp
    | @shortName a ts className =>
        refine ⟨"ALIAS", _, _, rfl, rfl, ?_⟩
        simpa using className
    | withBlock w columns stops =>
        refine ⟨"WITH", _, _, rfl, rfl, ?_⟩
        exact run_map_eq_ok_iff.mpr ⟨w, run_columnBlock_of_repeated columns stops next, rfl⟩
    | column clause =>
        obtain ⟨column⟩ := clause
        refine ⟨"COLUMN", _, _, rfl, rfl, ?_⟩
        rw [run_ended_eq_ok_iff, run_map_eq_ok_iff]
        refine ⟨_,
          run_ended_eq_ok_iff.mp (run_ended_boundColumn_eq_ok_iff.mpr ⟨_, column, ?_⟩), rfl⟩
        simp

/-- A filter is read with an equals sign or without one, up to its semicolon. -/
theorem run_ended_filterClause_eq_ok_iff {c : DataClause} :
    (ended filterClause).run ts = .ok (c, rest) ↔
      ∃ column sign literal, DerivesEquals sign ∧ c = .filter column literal ∧
        ts = .name column :: sign ++ .quoted literal :: .symbol .semicolon :: rest := by
  simp only [run_ended_eq_ok_iff, filterClause, run_bind_eq_ok_iff, run_name_eq_ok_iff,
    run_next_eq_ok_iff, run_pure_eq_ok_iff]
  constructor
  · rintro ⟨column, _, rfl, found, _, equals, literal, _, ⟨t, rfl, accepted⟩, rfl, rfl⟩
    cases t <;> cases accepted
    rcases run_skipIf_eq_ok_iff.mp equals with ⟨-, rfl⟩ | ⟨-, rfl, -⟩
    · exact ⟨column, _, literal, .present, rfl, rfl⟩
    · exact ⟨column, _, literal, .absent, rfl, rfl⟩
  · rintro ⟨column, sign, literal, equals, rfl, rfl⟩
    refine ⟨column, _, rfl, ?_⟩
    cases equals with
    | absent =>
        exact ⟨false, _, run_skipIf_eq_ok_iff.mpr (.inr ⟨rfl, rfl, by simp⟩), literal, _,
          ⟨_, rfl, rfl⟩, rfl, rfl⟩
    | present =>
        exact ⟨true, _, run_skipIf_eq_ok_iff.mpr (.inl ⟨rfl, rfl⟩), literal, _,
          ⟨_, rfl, rfl⟩, rfl, rfl⟩

@[simp] theorem run_joinDeclaration_eq_ok_iff {j : JoinDeclaration} :
    joinDeclaration.run ts = .ok (j, rest) ↔
      ts = .name j.joinType :: .name j.source :: .name "ON" :: .name j.leftColumn ::
        .symbol .equals :: .name j.rightColumn :: rest := by
  simp only [joinDeclaration, run_bind_eq_ok_iff, run_name_eq_ok_iff, run_keyword_eq_ok_iff,
    run_symbol_eq_ok_iff, run_pure_eq_ok_iff]
  constructor
  · rintro
      ⟨kind, _, rfl, source, _, rfl, -, _, rfl, left, _, rfl, -, _, rfl, right, _, rfl, rfl, rfl⟩
    rfl
  · rintro rfl
    exact ⟨_, _, rfl, _, _, rfl, (), _, rfl, _, _, rfl, (), _, rfl, _, _, rfl, rfl, rfl⟩

@[simp] theorem run_nestingDeclaration_eq_ok_iff {n : NestingDeclaration} :
    nestingDeclaration.run ts = .ok (n, rest) ↔
      ts = .name n.child :: .name "BY" :: .name n.byColumn :: rest := by
  simp only [nestingDeclaration, run_bind_eq_ok_iff, run_name_eq_ok_iff, run_keyword_eq_ok_iff,
    run_pure_eq_ok_iff]
  constructor
  · rintro ⟨child, _, rfl, -, _, rfl, column, _, rfl, rfl, rfl⟩
    rfl
  · rintro rfl
    exact ⟨_, _, rfl, (), _, rfl, _, _, rfl, rfl, rfl⟩

/-- The keyword of a clause that both kinds of declaration can hold means that clause in a data
declaration. -/
theorem DataClause.after?_of_common {word : String} {p : TokenReader CommonClause}
    (common : CommonClause.after? word = some p) :
    DataClause.after? word = some (.common <$> p) := by
  unfold CommonClause.after? at common
  split at common
  all_goals cases common
  all_goals rfl

/-- An inspection reads the clauses that it has in common as clauses of its own. -/
theorem InspectionClause.after?_of_common {word : String} {p : TokenReader CommonClause}
    (common : CommonClause.after? word = some p) :
    InspectionClause.after? word = some (.common <$> p) := by
  unfold CommonClause.after? at common
  split at common
  all_goals cases common
  all_goals rfl

/-- The clauses of a data declaration are read as they are derived. -/
theorem readsClauses_data : ReadsClauses DataClause.after? DerivesDataClause where
  sound {word p ts c rest} keyword read := by
    unfold DataClause.after? at keyword
    split at keyword
    case h_6 =>
      obtain ⟨common, after, rfl⟩ := Option.map_eq_some_iff.mp keyword
      obtain ⟨c, clause, rfl⟩ := run_map_eq_ok_iff.mp read
      obtain ⟨taken, derived, rfl⟩ := readsClauses_common.sound after clause
      exact ⟨taken, .common derived, rfl⟩
    all_goals cases keyword
    · obtain ⟨column, sign, literal, equals, rfl, rfl⟩ := run_ended_filterClause_eq_ok_iff.mp read
      exact ⟨_, .filter column literal equals, by simp⟩
    · obtain ⟨path, className, rfl⟩ := run_map_eq_ok_iff.mp (run_ended_eq_ok_iff.mp read)
      obtain ⟨taken, derived, rfl, -⟩ := run_path_eq_ok_iff.mp className
      exact ⟨_, .annexe derived, by simp⟩
    · obtain ⟨source, name, rfl⟩ := run_map_eq_ok_iff.mp (run_ended_eq_ok_iff.mp read)
      obtain rfl := run_name_eq_ok_iff.mp name
      exact ⟨_, .annexed source, rfl⟩
    · obtain ⟨j, tokens, rfl⟩ := run_map_eq_ok_iff.mp (run_ended_eq_ok_iff.mp read)
      obtain rfl := run_joinDeclaration_eq_ok_iff.mp tokens
      exact ⟨_, .join j, rfl⟩
    · obtain ⟨n, tokens, rfl⟩ := run_map_eq_ok_iff.mp (run_ended_eq_ok_iff.mp read)
      obtain rfl := run_nestingDeclaration_eq_ok_iff.mp tokens
      exact ⟨_, .nesting n, rfl⟩
  complete {read c rest} derived next := by
    cases derived with
    | common clause =>
        obtain ⟨word, further, p, rfl, after, clause⟩ := readsClauses_common.complete clause next
        exact ⟨word, further, _, rfl, DataClause.after?_of_common after,
          run_map_eq_ok_iff.mpr ⟨_, clause, rfl⟩⟩
    | filter column literal equals =>
        refine ⟨"WHERE", _, _, rfl, rfl, ?_⟩
        exact run_ended_filterClause_eq_ok_iff.mpr ⟨column, _, literal, equals, rfl, by simp⟩
    | @annexe ts path className =>
        refine ⟨"ANNEXE", _, _, rfl, rfl, ?_⟩
        simpa using className
    | annexed source =>
        refine ⟨"ANNEXED", _, _, rfl, rfl, ?_⟩
        simp
    | join j =>
        refine ⟨"JOIN", _, _, rfl, rfl, ?_⟩
        simp
    | nesting n =>
        refine ⟨"NESTING", _, _, rfl, rfl, ?_⟩
        simp

@[simp] theorem run_structAttrClause_eq_ok_iff {c : InspectionClause} :
    structAttrClause.run ts = .ok (c, rest) ↔
      ∃ column map, c = .structAttr column map ∧ ts = .name column :: .name map :: rest := by
  simp only [structAttrClause, run_bind_eq_ok_iff, run_name_eq_ok_iff, run_pure_eq_ok_iff]
  constructor
  · rintro ⟨column, _, rfl, map, _, rfl, rfl, rfl⟩
    exact ⟨column, map, rfl, rfl⟩
  · rintro ⟨column, map, rfl, rfl⟩
    exact ⟨column, _, rfl, map, _, rfl, rfl, rfl⟩

@[simp] theorem run_classColumnClause_eq_ok_iff {c : InspectionClause} :
    classColumnClause.run ts = .ok (c, rest) ↔
      ∃ column map, c = .classColumn column map ∧ ts = .name column :: .name map :: rest := by
  simp only [classColumnClause, run_bind_eq_ok_iff, run_name_eq_ok_iff, run_pure_eq_ok_iff]
  constructor
  · rintro ⟨column, _, rfl, map, _, rfl, rfl, rfl⟩
    exact ⟨column, map, rfl, rfl⟩
  · rintro ⟨column, map, rfl, rfl⟩
    exact ⟨column, _, rfl, map, _, rfl, rfl, rfl⟩

/-- The clauses of an inspection are read as they are derived. -/
theorem readsClauses_inspection : ReadsClauses InspectionClause.after? DerivesInspectionClause where
  sound {word p ts c rest} keyword read := by
    unfold InspectionClause.after? at keyword
    split at keyword
    case h_4 =>
      obtain ⟨common, after, rfl⟩ := Option.map_eq_some_iff.mp keyword
      obtain ⟨c, clause, rfl⟩ := run_map_eq_ok_iff.mp read
      obtain ⟨taken, derived, rfl⟩ := readsClauses_common.sound after clause
      exact ⟨taken, .common derived, rfl⟩
    all_goals cases keyword
    · obtain ⟨column, name, rfl⟩ := run_map_eq_ok_iff.mp (run_ended_eq_ok_iff.mp read)
      obtain rfl := run_name_eq_ok_iff.mp name
      exact ⟨_, .parent column, rfl⟩
    · obtain ⟨column, map, rfl, rfl⟩ :=
        run_structAttrClause_eq_ok_iff.mp (run_ended_eq_ok_iff.mp read)
      exact ⟨_, .structAttr column map, rfl⟩
    · obtain ⟨column, map, rfl, rfl⟩ :=
        run_classColumnClause_eq_ok_iff.mp (run_ended_eq_ok_iff.mp read)
      exact ⟨_, .classColumn column map, rfl⟩
  complete {read c rest} derived next := by
    cases derived with
    | common clause =>
        obtain ⟨word, further, p, rfl, after, clause⟩ := readsClauses_common.complete clause next
        exact ⟨word, further, _, rfl, InspectionClause.after?_of_common after,
          run_map_eq_ok_iff.mpr ⟨_, clause, rfl⟩⟩
    | parent column =>
        refine ⟨"PARENT", _, _, rfl, rfl, ?_⟩
        simp
    | structAttr column map =>
        refine ⟨"STRUCTATTR", _, _, rfl, rfl, ?_⟩
        simp
    | classColumn column map =>
        refine ⟨"CLASSCOL", _, _, rfl, rfl, ?_⟩
        simp

/-! ## Loops of clauses -/

/-- A loop that adds clauses to a declaration, each chosen by its keyword, reads its entries as
they are derived. -/
theorem ReadsClauses.readsEntries {σ γ : Type} {after? : String → Option (TokenReader γ)}
    {clause : List Token → γ → Prop} (reads : ReadsClauses after? clause) {add : σ → γ → σ}
    {entry : σ → Token → Option (TokenReader σ)}
    (keyword : ∀ s word, entry s (.name word) = (after? word).map (add s <$> ·))
    (other : ∀ s t, (∀ word, t ≠ .name word) → entry s t = none) :
    ReadsEntries entry clause fun s c => some (add s c) where
  sound {s t p ts s' rest} chosen read := by
    by_cases isKeyword : ∃ word, t = .name word
    · obtain ⟨word, rfl⟩ := isKeyword
      rw [keyword] at chosen
      obtain ⟨q, after, rfl⟩ := Option.map_eq_some_iff.mp chosen
      obtain ⟨c, clause, rfl⟩ := run_map_eq_ok_iff.mp read
      obtain ⟨taken, derived, rfl⟩ := reads.sound after clause
      exact ⟨taken, c, derived, rfl, rfl⟩
    · rw [other s t fun word same => isKeyword ⟨word, same⟩] at chosen
      exact nomatch chosen
  complete := by
    rintro read c s s' rest derived ⟨⟩ next
    obtain ⟨word, further, p, rfl, after, clause⟩ := reads.complete derived next
    refine ⟨_, further, add s <$> p, rfl, ?_, run_map_eq_ok_iff.mpr ⟨c, clause, rfl⟩⟩
    rw [keyword, after, Option.map_some]
  semicolon s := other s _ nofun

/-- The clauses of a data declaration are read one by one, each added to the declaration. -/
theorem readsEntries_dataClause :
    ReadsEntries dataClause? DerivesDataClause fun d c => some (d.add c) :=
  readsClauses_data.readsEntries (fun _ _ => rfl) fun _ t notName => by
    cases t with
    | name word => exact (notName word rfl).elim
    | _ => rfl

/-- The clauses of an inspection are read one by one, each added to the inspection. -/
theorem readsEntries_inspectionClause :
    ReadsEntries inspectionClause? DerivesInspectionClause fun i c => some (i.add c) :=
  readsClauses_inspection.readsEntries (fun _ _ => rfl) fun _ t notName => by
    cases t with
    | name word => exact (notName word rfl).elim
    | _ => rfl

end Crossmap.Mapping
