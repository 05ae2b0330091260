import Crossmap.Proofs.Mapping.ModelReading
import Crossmap.Proofs.Mapping.Prediction

/-! # What the readers of clauses predict

The readers of names, columns, clauses and headers predict what the grammar derives from their
tokens, and so does the reader of a data declaration (`predicts_dataDeclaration`).
-/

namespace Crossmap.Mapping

open TokenReader

variable {ts rest : List Token}

/-! ## Names and columns -/

/-- Further segments are predicted as those of a path that has begun. -/
theorem predicts_furtherSegments (role s : String) :
    Predicts (furtherSegments role s) fun us path => DerivesPath (.name s :: us) path where
  agrees := by
    refine agree_many (fun {s t p} some => ?_) s
    rw [Option.ite_none_right_eq_some] at some
    obtain rfl := Option.some.inj some.2
    exact agree_map _ (predicts_name role).agrees
  possible := ⟨[], lexical_nil, s, .last s⟩
  taken read := by
    obtain ⟨further, derived, rfl, -⟩ := derivesPath_of_run_furtherSegments read
    exact ⟨further, rfl, derived⟩
  foretold {ts f} failed := by
    change manyFrom (furtherSegment? role) s ts = _ at failed
    fun_induction manyFrom (furtherSegment? role) s ts with
    | case1 => cases failed
    | case2 => cases failed
    | case3 s t ts p some e first =>
        obtain rfl := Except.error.inj failed
        rw [furtherSegment?, Option.ite_none_right_eq_some] at some
        obtain ⟨rfl, same⟩ := some
        obtain rfl := Option.some.inj same
        have segment : Predicts ((s ++ "." ++ ·) <$> name role) fun us path =>
            DerivesPath (.name s :: .symbol .dot :: us) path :=
          (predicts_name role).map fun same => by
            subst same
            exact .more s (.last _)
        rw [← List.singleton_append]
        exact (segment.foretold first).lift id fun derived => ⟨[], lexical_nil, by simpa using derived⟩
    | case4 s t ts p some s' between first ih =>
        rw [furtherSegment?, Option.ite_none_right_eq_some] at some
        obtain ⟨rfl, same⟩ := some
        obtain rfl := Option.some.inj same
        obtain ⟨segment, taken, rfl⟩ := run_map_eq_ok_iff.mp first
        obtain rfl := run_name_eq_ok_iff.mp taken
        change Foretold _ _ ([.symbol .dot, .name segment] ++ _) _
        refine (ih failed).lift id ?_
        rintro us ⟨path, derived⟩
        exact ⟨[], lexical_nil, path, derivesPath_of_join (by simpa using derived)⟩

theorem predicts_path (role : String) : Predicts (TokenReader.path role) DerivesPath :=
  .name fun s => predicts_furtherSegments role s

/-- A name or a marker is predicted where names are listed, and markers perhaps. -/
theorem predicts_nameOrMarker {role : String} {others : List Expected}
    (markers : ∀ x ∈ others, x = .marker) :
    Predicts (next (.name role :: others) nameOrMarker?)
      fun ts a => ∃ t, ts = [t] ∧ nameOrMarker? t = some a := by
  have lexical : isName "x".toList = true := by decide
  refine predicts_next (List.cons_ne_nil _ _) (List.forall_mem_cons.mpr ⟨exists_name role, ?_⟩)
    (List.forall_mem_cons.mpr ⟨fun u fits => ?_, fun x member u fits => ?_⟩)
    fun {t _} accepted => ⟨t, rfl, accepted⟩
  · exact fun x member => ⟨.marker "x", lexical, markers x member ▸ rfl⟩
  · obtain ⟨s, rfl⟩ := accepts_name_iff.mp fits
    exact ⟨_, rfl⟩
  · obtain rfl := markers x member
    cases u <;> cases fits
    exact ⟨_, rfl⟩

/-- A target path is predicted, be it a path or a marker. -/
theorem predicts_targetPath : Predicts targetPath DerivesTarget := by
  refine (predicts_nameOrMarker (List.forall_mem_nil _)).bind ?_
  rintro _ a ⟨t, rfl, accepted⟩
  cases a with
  | marker s =>
      obtain rfl := nameOrMarker?_eq_marker_iff.mp accepted
      exact .pure (.marker s)
  | name s =>
      obtain rfl := nameOrMarker?_eq_name_iff.mp accepted
      exact (predicts_furtherSegments _ s).mono .path

/-- A column bound to a path is predicted in either spelling. -/
theorem predicts_binding :
    Predicts binding fun ts c => ∃ column path, DerivesBinding ts column path ∧
      c = ⟨column, path, none⟩ := by
  refine (predicts_nameOrMarker (List.forall_mem_singleton.mpr rfl)).bind ?_
  rintro _ a ⟨t, rfl, accepted⟩
  cases a with
  | marker s =>
      obtain rfl := nameOrMarker?_eq_marker_iff.mp accepted
      exact .symbol (.name fun column => .pure ⟨column, _, .markerFirst s column, rfl⟩)
  | name s =>
      obtain rfl := nameOrMarker?_eq_name_iff.mp accepted
      refine .symbol (predicts_targetPath.bind fun {us path} target => .pure ?_)
      refine ⟨s, path, ?_, rfl⟩
      simpa using .columnFirst s target

/-- A column is predicted with the value map that may follow it. -/
theorem predicts_boundColumn : Predicts boundColumn DerivesColumn := by
  refine predicts_binding.bind ?_
  rintro us _ ⟨column, path, bound, rfl⟩
  refine .skipIf (.name fun map => .pure (.mapped map bound)) (.pure ?_)
  simpa using .plain bound

/-- The clause of a column is predicted behind its keyword. -/
theorem predicts_ended_boundColumn :
    Predicts (ended boundColumn) fun us c => DerivesColumnClause (.name "COLUMN" :: us) c :=
  predicts_boundColumn.ended .intro

/-! ## Clauses -/

theorem predicts_directionArrow :
    Predicts directionArrow fun ts d => ts = [.symbol d.symbol] := by
  refine predicts_next (List.cons_ne_nil _ _) ?_ ?_
    fun accepted => congrArg (fun t => [t]) (directionOf?_eq_some_iff.mp accepted)
  · simp only [List.forall_mem_cons, accepts_symbol_iff, exists_eq_right]
    exact ⟨trivial, trivial, trivial, List.forall_mem_nil _⟩
  · simp only [List.forall_mem_cons, accepts_symbol_iff, forall_eq]
    exact ⟨⟨_, rfl⟩, ⟨_, rfl⟩, ⟨_, rfl⟩, List.forall_mem_nil _⟩

/-- A conversion is predicted, token by token. -/
theorem predicts_conversionCall :
    Predicts conversionCall fun ts c =>
      ts = [.name c.valueMap, .symbol .leftParen, .name c.sourceColumn, .symbol .doubleDash,
        .name c.targetAlias, .symbol .rightParen] :=
  .name fun _ => .symbol (.name fun _ => .symbol (.name fun _ => .symbol (.pure rfl)))

/-- A short name is predicted with the path behind it. -/
theorem predicts_aliasDeclaration :
    Predicts aliasDeclaration fun ts a => ∃ us, DerivesPath us a.className ∧
      ts = .name a.shortName :: .symbol .tilde :: us :=
  .name fun short => .symbol ((predicts_path _).bind fun {us _} derived =>
    .pure ⟨us, derived, by simp⟩)

/-- A further column of a block is predicted, and joins the columns that came before. -/
theorem predicts_blockColumn {columns : List Column} {t : Token}
    {p : TokenReader (List Column)} (some : blockColumn? columns t = some p) :
    Predicts p fun us columns' =>
      ∃ c, DerivesColumnClause (t :: us) c ∧ columns' = columns ++ [c] := by
  rw [blockColumn?, Option.ite_none_right_eq_some] at some
  obtain ⟨rfl, same⟩ := some
  obtain rfl := Option.some.inj same
  exact predicts_ended_boundColumn.map fun derived => ⟨_, derived, rfl⟩

/-- A keyword that is listed begins what a reader after it completes. -/
theorem exists_of_keyword {γ : Type} {after? : String → Option (TokenReader γ)}
    {clause : List Token → γ → Prop}
    (each : ∀ {word p}, after? word = some p → Predicts p fun us c => clause (.name word :: us) c)
    {keywords : List String}
    (known : ∀ word ∈ keywords, isName word.toList = true ∧ (after? word).isSome = true) :
    ∀ x ∈ keywords.map Expected.keyword, (∃ u, u.IsLexical ∧ x.accepts u = true) ∧
      ∀ u, x.accepts u = true → ∃ us c, Lexical us ∧ clause (u :: us) c := by
  intro x member
  obtain ⟨word, listed, rfl⟩ := List.mem_map.mp member
  obtain ⟨lexical, isSome⟩ := known word listed
  refine ⟨exists_keyword lexical, fun u fits => ?_⟩
  obtain rfl := accepts_keyword_iff.mp fits
  obtain ⟨p, some⟩ := Option.isSome_iff_exists.mp isSome
  obtain ⟨us, lexical, c, derived⟩ := (each some).possible
  exact ⟨us, c, lexical, derived⟩

/-- A block of columns is predicted behind its keyword. -/
theorem predicts_columnBlock :
    Predicts columnBlock fun ts w => DerivesCommonClause (.name "WITH" :: ts) (.withBlock w) := by
  refine .name fun aliasName => .symbol (.block readsEntries_blockColumn predicts_blockColumn
    ?_ fun {taken columns} derived => .stop fun _ stop stops => .pure ?_)
  · refine List.forall_mem_singleton.mpr ⟨exists_keyword (by decide), fun u fits => ?_⟩
    obtain rfl := accepts_keyword_iff.mp fits
    obtain ⟨us, lexical, c, derived⟩ := predicts_ended_boundColumn.possible
    exact ⟨us, c, lexical, derived⟩
  · have all : columns.foldl (fun columns c => columns ++ [c]) [] = columns := by
      have steps := foldlM_blockColumns columns
      rwa [foldlM_some, Option.some.injEq] at steps
    rw [all, List.append_nil]
    exact .withBlock ⟨aliasName, columns⟩ derived stops

/-- What follows the keyword of a clause is predicted as the clause is derived. -/
theorem predicts_commonClause {word : String} {p : TokenReader CommonClause}
    (after : CommonClause.after? word = some p) :
    Predicts p fun us c => DerivesCommonClause (.name word :: us) c := by
  unfold CommonClause.after? at after
  split at after
  all_goals cases after
  · exact .ended_map predicts_directionArrow fun {_ d} same => same ▸ .direction d
  · exact .ended_map (predicts_name _) fun {_ column} same => same ▸ .ident column
  · exact .ended_map predicts_conversionCall fun {_ c} same => same ▸ .conversion c
  · refine .ended_map predicts_aliasDeclaration ?_
    rintro _ a ⟨us, derived, rfl⟩
    exact .shortName a derived
  · exact predicts_columnBlock.map id
  · exact .ended_map predicts_boundColumn fun derived => .column (.intro derived)

/-- A filter is predicted with an equals sign or without one. -/
theorem predicts_filterClause :
    Predicts filterClause fun ts c => ∃ column sign literal, DerivesEquals sign ∧
      c = .filter column literal ∧ ts = .name column :: sign ++ [.quoted literal] := by
  refine .name fun column => predicts_skipIf.bind fun {sign found} same => ?_
  have equals : DerivesEquals sign := by
    subst same
    cases found with
    | true => exact .present
    | false => exact .absent
  refine @Predicts.bind _ _ _ _ (fun us (s : String) => us = [.quoted s]) _ ?_ ?_
  · refine predicts_next (List.cons_ne_nil _ _)
      (List.forall_mem_singleton.mpr ⟨.quoted "", trivial, rfl⟩)
      (List.forall_mem_singleton.mpr fun u fits => ?_) fun {t s} accepted => ?_
    · cases u <;> cases fits
      exact ⟨_, rfl⟩
    · cases t <;> cases accepted
      rfl
  · rintro _ literal rfl
    exact .pure ⟨column, sign, literal, equals, rfl, by simp⟩

/-- A join is predicted, token by token. -/
theorem predicts_joinDeclaration :
    Predicts joinDeclaration fun ts j =>
      ts = [.name j.joinType, .name j.source, .name "ON", .name j.leftColumn, .symbol .equals,
        .name j.rightColumn] :=
  .name fun _ => .name fun _ => .keyword (by decide) (.name fun _ => .symbol (.name fun _ =>
    .pure rfl))

theorem predicts_nestingDeclaration :
    Predicts nestingDeclaration fun ts n =>
      ts = [.name n.child, .name "BY", .name n.byColumn] :=
  .name fun _ => .keyword (by decide) (.name fun _ => .pure rfl)

/-- What follows the keyword of a clause is predicted as that clause of a data declaration. -/
theorem predicts_dataClause {word : String} {p : TokenReader DataClause}
    (after : DataClause.after? word = some p) :
    Predicts p fun us c => DerivesDataClause (.name word :: us) c := by
  unfold DataClause.after? at after
  split at after
  case h_6 =>
    obtain ⟨q, common, rfl⟩ := Option.map_eq_some_iff.mp after
    exact (predicts_commonClause common).map .common
  all_goals cases after
  · refine predicts_filterClause.ended ?_
    rintro _ _ ⟨column, sign, literal, equals, rfl, rfl⟩
    simpa using .filter column literal equals
  · exact .ended_map (predicts_path _) .annexe
  · exact .ended_map (predicts_name _) fun {_ source} same => same ▸ .annexed source
  · exact .ended_map predicts_joinDeclaration fun {_ j} same => same ▸ .join j
  · exact .ended_map predicts_nestingDeclaration fun {_ n} same => same ▸ .nesting n

/-- A column and its value map are predicted one after the other. -/
theorem predicts_columnAndMap (role role' : String)
    (make : String → String → InspectionClause) :
    Predicts (name role >>= fun column => name role' >>= fun map => pure (make column map))
      fun ts c => ∃ column map, c = make column map ∧ ts = [.name column, .name map] :=
  .name fun column => .name fun map => .pure ⟨column, map, rfl, rfl⟩

/-- What follows the keyword of a clause is predicted as that clause of an inspection. -/
theorem predicts_inspectionClause {word : String} {p : TokenReader InspectionClause}
    (after : InspectionClause.after? word = some p) :
    Predicts p fun us c => DerivesInspectionClause (.name word :: us) c := by
  unfold InspectionClause.after? at after
  split at after
  case h_4 =>
    obtain ⟨q, common, rfl⟩ := Option.map_eq_some_iff.mp after
    exact (predicts_commonClause common).map .common
  all_goals cases after
  · exact .ended_map (predicts_name _) fun {_ column} same => same ▸ .parent column
  · refine (predicts_columnAndMap _ _ .structAttr).ended ?_
    rintro _ _ ⟨column, map, rfl, rfl⟩
    exact .structAttr column map
  · refine (predicts_columnAndMap _ _ .classColumn).ended ?_
    rintro _ _ ⟨column, map, rfl, rfl⟩
    exact .classColumn column map

/-! ## Declarations -/

/-- A header is predicted up to its brace. -/
theorem predicts_header : Predicts header DerivesHeader := by
  refine .name fun declName => .keyword (by decide) (.name fun object => .keyword (by decide)
    ((predicts_path _).bind fun {us className} derived => .symbol (.pure ?_)))
  simpa using .intro ⟨declName, object, className⟩ derived

/-- A further clause is predicted, and joins the data declaration that came before. -/
theorem predicts_dataEntry {d : DataDeclaration} {t : Token} {p : TokenReader DataDeclaration}
    (some : dataClause? d t = some p) :
    Predicts p fun us d' => ∃ c, DerivesDataClause (t :: us) c ∧ d' = d.add c := by
  cases t with
  | name word =>
      obtain ⟨q, after, rfl⟩ := Option.map_eq_some_iff.mp some
      exact (predicts_dataClause after).map fun derived => ⟨_, derived, rfl⟩
  | _ => cases some

/-- A further clause is predicted, and joins the inspection that came before. -/
theorem predicts_inspectionEntry {i : Inspection} {t : Token} {p : TokenReader Inspection}
    (some : inspectionClause? i t = some p) :
    Predicts p fun us i' => ∃ c, DerivesInspectionClause (t :: us) c ∧ i' = i.add c := by
  cases t with
  | name word =>
      obtain ⟨q, after, rfl⟩ := Option.map_eq_some_iff.mp some
      exact (predicts_inspectionClause after).map fun derived => ⟨_, derived, rfl⟩
  | _ => cases some

/-- A data declaration is predicted as it is derived. -/
theorem predicts_dataDeclaration :
    Predicts dataDeclaration fun ts d => DerivesStatement (.name "DATA" :: ts) (.data d) := by
  refine predicts_header.bind fun {head h} headed => .block readsEntries_dataClause
    predicts_dataEntry (exists_of_keyword predicts_dataClause (by decide))
    fun {taken clauses} derived => .stop fun _ stop stops => .pure ?_
  rw [foldl_add_bare_data]
  simpa using DerivesStatement.data headed derived stops

end Crossmap.Mapping
