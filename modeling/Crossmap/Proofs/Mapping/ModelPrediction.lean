import Crossmap.Proofs.Mapping.ClausePrediction
import Crossmap.Proofs.Mapping.Sentences

/-! # What the reader of a model predicts

A failure of the reader of a model is foretold in the grammar without its conditions on codes and
names, or else it tells of a repetition (`foretold_or_repeats`). One listed token need not be
possible: the closing brace of an inspection, where no ident clause has come (`LacksIdent`).
-/

namespace Crossmap.Mapping

open TokenReader

variable {source : String} {ts rest : List Token} {f : Failure}

/-! ## Value maps -/

/-- What follows the code in an entry of a value map. -/
def entryTail : TokenReader String := do
  symbol .arrow
  let target ← TokenReader.path "mapped path"
  symbol .semicolon
  return target

/-- An entry is read to its end before its code is compared with those that have come. -/
theorem mapEntry_eq (m : ValueMap) (code : Code) :
    mapEntry m code = ahead >>= fun after => entryTail >>= fun target =>
      if m.entries.contains code then failAt (.code code :: after) (.duplicateCode code m.name)
      else pure { m with entries := m.entries.insert code target } := by
  simp only [mapEntry, entryTail, bind_assoc, pure_bind]

/-- What follows the code of an entry is predicted, whatever the code is. -/
theorem predicts_entryTail (code : Code) :
    Predicts entryTail fun ts path => DerivesEntry (.code code :: ts) (code, path) := by
  refine .symbol ((predicts_path _).bind fun {us path} derived => .symbol (.pure ?_))
  simpa using DerivesEntry.intro code derived

/-- The reader of an entry looks one token ahead. -/
theorem agree_mapEntry (m : ValueMap) (code : Code) : Agree (mapEntry m code) (mapEntry m code) := by
  rw [mapEntry_eq]
  refine agree_ahead fun _ _ => agree_bind (predicts_entryTail code).agrees fun _ => ?_
  split
  · exact agree_failAt rfl
  · exact agree_pure _

theorem agree_valueMap : Agree valueMap valueMap := by
  refine agree_bind (predicts_name _).agrees fun _ => agree_bind (predicts_symbol _).agrees fun _ =>
    agree_bind (agree_many (fun {m t p} chosen => ?_) _) fun _ =>
      agree_bind (agree_next _ _) fun _ => agree_bind (agree_skipIf _) fun _ => agree_pure _
  cases t <;> cases chosen
  exact agree_mapEntry m _

/-- Where an entry is stopped, that is foretold or its code has come before. -/
theorem foretold_or_repeats_of_mapEntry {m : ValueMap} {code : Code}
    (stopped : (mapEntry m code).run ts = .error f) :
    Foretold (fun _ _ => False) (fun us => ∃ path, DerivesEntry (.code code :: us) (code, path))
        ts f ∨
      code ∈ m.entries.keys ∧ f = ⟨.code code :: ts, .duplicateCode code m.name⟩ ∧
        ∃ us path rest, ts = us ++ rest ∧ DerivesEntry (.code code :: us) (code, path) := by
  rw [mapEntry_eq, run_bind_of_ok (run_ahead_eq_ok_iff.mpr ⟨rfl, rfl⟩)] at stopped
  rcases run_bind_eq_error_iff.mp stopped with failed | ⟨path, rest, read, failed⟩
  · exact .inl ((predicts_entryTail code).foretold failed)
  · obtain ⟨us, rfl, derived⟩ := (predicts_entryTail code).taken read
    split at failed
    case isTrue contained =>
      cases failed
      exact .inr ⟨Dict.contains_eq_true_iff.mp contained, rfl, us, path, rest, rfl, derived⟩
    case isFalse => cases failed

/-- An entry begins with a code. -/
theorem eq_of_mapEntry? {m : ValueMap} {t : Token} {p : TokenReader ValueMap}
    (chosen : mapEntry? m t = some p) : ∃ code, t = .code code ∧ p = mapEntry m code := by
  cases t <;> cases chosen
  exact ⟨_, rfl, rfl⟩

/-- Where the entries of a value map are stopped, that is foretold or a code has come before. -/
theorem foretold_or_repeats_of_entries {name : String}
    (stopped : (many mapEntry? ⟨name, .empty⟩).run ts = .error f) :
    Foretold (fun _ _ => False) (fun us => ∃ entries, Repeated DerivesEntry us entries) ts f ∨
      ∃ body entries code entry path rest, ts = body ++ (entry ++ rest) ∧
        Repeated DerivesEntry body entries ∧ (entries.map Prod.fst).Nodup ∧
        code ∈ entries.map Prod.fst ∧ DerivesEntry entry (code, path) ∧
        f = ⟨entry ++ rest, .duplicateCode code name⟩ := by
  obtain ⟨body, entries, m, t, rest, p, derived, steps, rfl, chosen, failed⟩ :=
    readsEntries_mapEntry.exists_of_error stopped
  obtain ⟨code, rfl, rfl⟩ := eq_of_mapEntry? chosen
  obtain ⟨rfl, all⟩ := foldlM_addEntry_eq_some_iff.mp steps
  have keys : m.entries.keys = entries.map Prod.fst := congrArg (List.map Prod.fst) all
  rcases foretold_or_repeats_of_mapEntry failed with told | ⟨repeats, rfl, us, path, rest, rfl, last⟩
  · left
    rw [List.append_cons]
    refine told.lift id ?_
    rintro us ⟨path, last⟩
    exact ⟨[], lexical_nil, entries ++ [(code, path)], by simpa using derived.concat last⟩
  · right
    exact ⟨body, entries, code, _, path, rest, rfl, derived, keys ▸ m.entries.nodup_keys,
      keys ▸ repeats, last, rfl⟩

/-- Behind its entries a value map is predicted to end, or to go on with a code. -/
theorem predicts_valueMapEnd (name : String) {body : List Token} {entries : List (Code × String)}
    (derived : Repeated DerivesEntry body entries) (m : ValueMap) :
    Predicts (do closingBrace [.code]; let _ ← skipIf (.symbol .semicolon); return m)
      fun us _ =>
        StatementForm (.name "VALUEMAP" :: .name name :: .symbol .leftBrace :: (body ++ us)) := by
  refine .closingBrace (.stop fun _ stop stops => .pure ?_)
    (List.forall_mem_singleton.mpr ⟨⟨.code 0, trivial, rfl⟩, fun u fits => ?_⟩)
  · simpa using StatementForm.valueMap name derived stops
  · cases u <;> cases fits
    rename_i code
    obtain ⟨us, lexical, path, last⟩ := (predicts_entryTail code).possible
    refine ⟨us ++ [.symbol .rightBrace], ?_, m, ?_⟩
    · simpa [Token.IsLexical] using lexical
    · simpa using StatementForm.valueMap name (derived.concat last) .absent

/-- Where a value map is stopped, that is foretold or a code has come before. -/
theorem foretold_or_repeats_of_valueMap (stopped : valueMap.run ts = .error f) :
    Foretold (fun _ _ => False) (fun us => StatementForm (.name "VALUEMAP" :: us)) ts f ∨
      ∃ name body entries code entry path rest, ts = .name name :: .symbol .leftBrace ::
          (body ++ (entry ++ rest)) ∧ Repeated DerivesEntry body entries ∧
        (entries.map Prod.fst).Nodup ∧ code ∈ entries.map Prod.fst ∧
        DerivesEntry entry (code, path) ∧ f = ⟨entry ++ rest, .duplicateCode code name⟩ := by
  rcases run_bind_eq_error_iff.mp stopped with failed | ⟨name, _, read, afterName⟩
  · refine .inl (((predicts_name _).foretold failed).extend ?_)
    rintro _ ⟨s, rfl⟩
    exact ⟨[.symbol .leftBrace, .symbol .rightBrace], by simp [Token.IsLexical],
      .valueMap s .nil .absent⟩
  obtain rfl := run_name_eq_ok_iff.mp read
  rcases run_bind_eq_error_iff.mp afterName with failed | ⟨⟨⟩, _, read, afterBrace⟩
  · rw [← List.singleton_append]
    refine .inl (((predicts_symbol _).foretold failed).lift id ?_)
    rintro _ ⟨-, rfl⟩
    exact ⟨[.symbol .rightBrace], by simp [Token.IsLexical], .valueMap name .nil .absent⟩
  obtain rfl := run_symbol_eq_ok_iff.mp read
  rcases run_bind_eq_error_iff.mp afterBrace with failed | ⟨m, _, read, afterEntries⟩
  · rcases foretold_or_repeats_of_entries failed with told | ⟨body, entries, code, entry, path,
      rest, rfl, repeats⟩
    · change Foretold _ _ ([.name name, .symbol .leftBrace] ++ _) _ ∨ _
      refine .inl (told.lift id ?_)
      rintro us ⟨entries, derived⟩
      exact ⟨[.symbol .rightBrace], by simp [Token.IsLexical], .valueMap name derived .absent⟩
    · exact .inr ⟨name, body, entries, code, entry, path, rest, rfl, repeats⟩
  · obtain ⟨body, entries, derived, rfl, -⟩ := readsEntries_mapEntry.repeated_of_run read
    change Foretold _ _ (.name name :: .symbol .leftBrace :: body ++ _) _ ∨ _
    refine .inl (((predicts_valueMapEnd name derived m).foretold afterEntries).lift id ?_)
    rintro us ⟨-, form⟩
    exact ⟨[], lexical_nil, by simpa using form⟩

/-! ## Inspections -/

/-- Whether tokens end in an inspection none of whose clauses names its ident column. -/
def LacksIdent (ts : List Token) : Prop :=
  ∃ front head body h clauses, ts = front ++ .name "INSPECTION" :: (head ++ body) ∧
    DerivesHeader head h ∧ Repeated DerivesInspectionClause body clauses ∧
    ∀ column, .common (.ident column) ∉ clauses

/-- The closing brace, where an inspection cannot end yet. -/
def Untimely (ts : List Token) (x : Expected) : Prop := x = .symbol .rightBrace ∧ LacksIdent ts

/-- A closing brace that is untimely behind some tokens is so whatever stands in front of them. -/
theorem Untimely.append (before : List Token) {x : Expected} (untimely : Untimely ts x) :
    Untimely (before ++ ts) x := by
  obtain ⟨isBrace, front, head, body, h, clauses, rfl, derived⟩ := untimely
  exact ⟨isBrace, before ++ front, head, body, h, clauses, by simp, derived⟩

/-- The end of an inspection, read after its clauses. -/
def inspectionEnd (i : Inspection) : TokenReader Inspection := do
  let brace ← ahead
  closingBrace (InspectionClause.keywords.map .keyword)
  if i.identColumn.isNone then failAt brace (.identMissing i.name)
  else
    let _ ← skipIf (.symbol .semicolon)
    return i

/-- The front of what begins a sequence of a language begins one as well. -/
theorem Viable.of_append {language : List Token → Prop} {more : List Token} (lexical : Lexical more)
    (viable : Viable language (ts ++ more)) : Viable language ts := by
  obtain ⟨further, lexical', derived⟩ := viable
  refine ⟨more ++ further, lexical_append.mpr ⟨lexical, lexical'⟩, ?_⟩
  rwa [← List.append_assoc]

/-- Any token is followed by the place where it stands. -/
theorem agree_inspectionEnd (i : Inspection) : Agree (inspectionEnd i) (inspectionEnd i) := by
  cases missing : i.identColumn.isNone with
  | false =>
      simp only [inspectionEnd, missing, Bool.false_eq_true, if_false]
      exact agree_ahead fun _ _ => agree_bind (agree_next _ _) fun _ =>
        agree_bind (agree_skipIf _) fun _ => agree_pure _
  | true =>
      simp only [inspectionEnd, missing, if_true]
      exact agree_refusal _ _ _

section Clauses

variable {head body : List Token} {h : Header} {clauses : List InspectionClause}

/-- An inspection can go on with an ident clause and end. -/
theorem viable_inspection (headed : DerivesHeader head h)
    (derived : Repeated DerivesInspectionClause body clauses) :
    Viable (fun us => StatementForm (.name "INSPECTION" :: us)) (head ++ body) := by
  have named : ∃ column, .common (.ident column) ∈ clauses ++ [.common (.ident "x")] :=
    ⟨"x", by simp⟩
  have all := DerivesStatement.inspection headed (derived.concat (.common (.ident "x"))) named .absent
  have lexical : isName "IDENT".toList = true ∧ isName "x".toList = true := by decide
  refine ⟨[.name "IDENT", .name "x", .symbol .semicolon, .symbol .rightBrace], ?_, ?_⟩
  · simpa [Token.IsLexical] using lexical
  · exact .statement (by simpa using all)

/-- Every keyword of a clause can follow the clauses of an inspection. -/
theorem admits_keyword (headed : DerivesHeader head h)
    (derived : Repeated DerivesInspectionClause body clauses) :
    ∀ x ∈ InspectionClause.keywords.map Expected.keyword,
      Admits (fun us => StatementForm (.name "INSPECTION" :: us)) (head ++ body) x := by
  intro x listed
  have begins := exists_of_keyword predicts_inspectionClause (by decide) x listed
  refine ⟨begins.1, fun u fits => ?_⟩
  obtain ⟨us, c, lexical, last⟩ := begins.2 u fits
  have viable := viable_inspection headed (derived.concat last)
  rw [List.append_cons, ← List.append_assoc, ← List.append_assoc] at viable
  exact viable.of_append lexical

/-- Where an inspection is stopped behind its clauses, that is foretold, but for the brace that
comes before any ident clause. -/
theorem foretold_inspectionEnd (headed : DerivesHeader head h)
    (derived : Repeated DerivesInspectionClause body clauses)
    (stopped : (inspectionEnd (h.inspection clauses)).run ts = .error f) :
    Foretold (fun us => Untimely (.name "INSPECTION" :: us))
      (fun us => StatementForm (.name "INSPECTION" :: us)) (head ++ body ++ ts) f := by
  have viable := viable_inspection headed derived
  have admits := admits_keyword headed derived
  change ((closingBrace _ >>= fun _ => _).run ts) = _ at stopped
  rcases run_bind_eq_error_iff.mp stopped with failed | ⟨⟨⟩, rest, brace, failed⟩
  · rw [eq_of_run_next_eq_error failed]
    refine ⟨head ++ body, rfl, by simp [Reason.expected], viable, fun x member => ?_⟩
    rcases List.mem_append.mp member with listed | isBrace
    · exact .inr (admits x listed)
    obtain rfl := List.mem_singleton.mp isBrace
    by_cases named : ∃ column, .common (.ident column) ∈ clauses
    · refine .inr ⟨⟨.symbol .rightBrace, trivial, accepts_symbol_iff.mpr rfl⟩, fun u fits => ?_⟩
      obtain rfl := accepts_symbol_iff.mp fits
      have all := DerivesStatement.inspection headed derived named .absent
      exact ⟨[], lexical_nil, .statement (by simpa using all)⟩
    · exact .inl ⟨rfl, [], head, body, h, clauses, rfl, headed, derived, not_exists.mp named⟩
  · split at failed
    case isTrue =>
      cases failed
      refine ⟨head ++ body, rfl, List.cons_ne_nil _ _, viable, fun x member => .inr ?_⟩
      obtain rfl := List.mem_singleton.mp member
      exact admits _ (by decide)
    case isFalse =>
      rcases run_bind_eq_error_iff.mp failed with failed | ⟨_, _, _, failed⟩
      · obtain ⟨found, rest', read⟩ := exists_run_skipIf (.symbol .semicolon) rest
        cases failed.symm.trans read
      · cases failed

/-- Where an inspection is stopped, that is foretold. -/
theorem foretold_inspection (stopped : inspection.run ts = .error f) :
    Foretold (fun us => Untimely (.name "INSPECTION" :: us))
      (fun us => StatementForm (.name "INSPECTION" :: us)) ts f := by
  change (header >>= fun h => many inspectionClause? (.bare h.name h.object h.className) >>=
    inspectionEnd).run ts = _ at stopped
  rcases run_bind_eq_error_iff.mp stopped with failed | ⟨h, _, read, afterHeader⟩
  · rw [← List.nil_append ts]
    refine (predicts_header.foretold failed).lift False.elim ?_
    rintro us ⟨h, headed⟩
    simpa using viable_inspection headed .nil
  have predicts := predicts_many readsEntries_inspectionClause predicts_inspectionEntry
  obtain ⟨head, rfl, headed⟩ := predicts_header.taken read
  rcases run_bind_eq_error_iff.mp afterHeader with failed | ⟨i, _, read, afterClauses⟩
  · refine ((predicts _).foretold failed).lift False.elim ?_
    rintro us ⟨_, clauses, derived, -⟩
    exact viable_inspection headed derived
  · obtain ⟨body, rfl, clauses, derived, rfl⟩ := (predicts _).taken read
    rw [foldl_add_bare_inspection] at afterClauses
    rw [← List.append_assoc]
    exact foretold_inspectionEnd headed derived afterClauses

end Clauses

/-- The reader of an inspection looks one token ahead. -/
theorem agree_inspection : Agree inspection inspection :=
  agree_bind predicts_header.agrees fun _ =>
    agree_bind (predicts_many readsEntries_inspectionClause predicts_inspectionEntry _).agrees
      fun _ => agree_inspectionEnd _

/-! ## Models -/

/-- A statement begins with one of three keywords, and is read accordingly. -/
theorem statement?_cases {m : Model} {t : Token} {p : TokenReader Model}
    (chosen : statement? m t = some p) :
    (t = .name "VALUEMAP" ∧ p = valueMapStatement m) ∨
      (t = .name "DATA" ∧ p = m.addData <$> dataDeclaration) ∨
      t = .name "INSPECTION" ∧ p = m.addInspection <$> inspection := by
  unfold statement? at chosen
  split at chosen
  all_goals cases chosen
  · exact .inl ⟨rfl, rfl⟩
  · exact .inr (.inl ⟨rfl, rfl⟩)
  · exact .inr (.inr ⟨rfl, rfl⟩)

/-- The reader of a statement looks one token ahead. -/
theorem agree_statement {m : Model} {t : Token} {p : TokenReader Model}
    (chosen : statement? m t = some p) : Agree p p := by
  rcases statement?_cases chosen with ⟨-, rfl⟩ | ⟨-, rfl⟩ | ⟨-, rfl⟩
  · refine agree_ahead fun _ _ => agree_bind agree_valueMap fun _ => ?_
    split
    · exact agree_failAt rfl
    · exact agree_pure _
  · exact agree_map _ predicts_dataDeclaration.agrees
  · exact agree_map _ agree_inspection

/-- The reader of a model looks one token ahead, but for repetitions. -/
theorem agree_model (source : String) : Agree (model source) (model source) := by
  refine agree_bind (agree_bind (agree_skipIf _) fun {_ found _} _ => ?_) fun _ =>
    agree_bind (agree_many agree_statement _) fun _ => agree_bind (agree_finish _) fun _ =>
      agree_pure _
  split
  · exact agree_bind (predicts_name _).agrees fun _ =>
      agree_bind (predicts_symbol _).agrees fun _ => agree_pure _
  · exact agree_pure _

/-- A failure that is foretold in a statement is foretold in the text. -/
theorem Foretold.of_form {m : Model} {front : List Token} {t : Token}
    {excused : List Token → Expected → Prop} (derives : Derives source front m)
    (told : Foretold excused (fun us => StatementForm (t :: us)) rest f)
    (excuses : ∀ {us x}, excused us x → Untimely (t :: us) x) :
    Foretold Untimely Sentence (front ++ t :: rest) f := by
  rw [List.append_cons]
  refine told.lift (fun {us x} excuse => ?_) fun {us} form => ⟨[], lexical_nil, ?_⟩
  · rw [← List.append_cons]
    exact (excuses excuse).append front
  · simpa using derives.sentence_append (List.forall_mem_singleton.mpr form)

/-- Where a statement is stopped, that is foretold or a code or name has come before. -/
theorem foretold_or_repeats_of_statement {m : Model} {front : List Token} {t : Token}
    {p : TokenReader Model} (derives : Derives source front m) (chosen : statement? m t = some p)
    (stopped : p.run rest = .error f) :
    Foretold Untimely Sentence (front ++ t :: rest) f ∨
      ∃ before, front ++ t :: rest = before ++ f.ahead ∧
        ((∃ code map, f.reason = .duplicateCode code map ∧
            RepeatsCode source before f.ahead code map) ∨
          ∃ name, f.reason = .duplicateMap name ∧ RepeatsMap source before f.ahead name) := by
  rcases statement?_cases chosen with ⟨rfl, rfl⟩ | ⟨rfl, rfl⟩ | ⟨rfl, rfl⟩
  · change (valueMap >>= fun v => _).run rest = _ at stopped
    rcases run_bind_eq_error_iff.mp stopped with failed | ⟨v, _, read, failed⟩
    · rcases foretold_or_repeats_of_valueMap failed with told | ⟨map, body, entries, code, entry,
        path, rest, rfl, derived, nodup, repeats, last, rfl⟩
      · exact .inl (told.of_form derives False.elim)
      · refine .inr ⟨front ++ .name "VALUEMAP" :: .name map :: .symbol .leftBrace :: body, by simp,
          .inl ⟨code, map, rfl, ?_⟩⟩
        exact ⟨front, m, body, entries, entry, path, rest, derives, rfl, derived, nodup, repeats,
          last, rfl⟩
    · obtain ⟨taken, derived, rfl⟩ := derivesStatement_of_run_valueMap read
      split at failed
      case isTrue declared =>
        cases failed
        exact .inr ⟨front, rfl, .inr ⟨v.name, rfl, m, v, _, _, derives,
          Dict.contains_eq_true_iff.mp declared, derived, rfl, rfl⟩⟩
      case isFalse => cases failed
  · have predicts : Predicts (m.addData <$> dataDeclaration)
        fun us _ => StatementForm (.name "DATA" :: us) :=
      predicts_dataDeclaration.map .statement
    refine .inl (Foretold.of_form derives ((predicts.foretold stopped).extend ?_) False.elim)
    rintro us ⟨-, form⟩
    exact ⟨[], lexical_nil, by simpa using form⟩
  · rcases run_bind_eq_error_iff.mp stopped with failed | ⟨i, _, -, failed⟩
    · exact .inl ((foretold_inspection failed).of_form derives id)
    · cases failed

/-- What is read as the name of a model is derived as one. -/
theorem derivesName_of_run {name : String} (read : (modelName source).run ts = .ok (name, rest)) :
    ∃ head, DerivesName source head name ∧ ts = head ++ rest := by
  obtain ⟨found, _, head, further⟩ := run_bind_eq_ok_iff.mp read
  rcases run_skipIf_eq_ok_iff.mp head with ⟨rfl, rfl⟩ | ⟨rfl, rfl, -⟩
  · obtain rfl := run_name_eq_ok_iff.mp (run_ended_eq_ok_iff.mp further)
    exact ⟨_, .present name, rfl⟩
  · obtain ⟨rfl, rfl⟩ := run_pure_eq_ok_iff.mp further
    exact ⟨_, .absent, rfl⟩

/-- Where the name of a model is stopped, that is foretold. -/
theorem foretold_modelName (stopped : (modelName source).run ts = .error f) :
    Foretold Untimely Sentence ts f := by
  rcases run_bind_eq_error_iff.mp stopped with failed | ⟨found, _, head, failed⟩
  · obtain ⟨found, rest, read⟩ := exists_run_skipIf (.name "LM") ts
    cases failed.symm.trans read
  rcases run_skipIf_eq_ok_iff.mp head with ⟨rfl, rfl⟩ | ⟨rfl, rfl, -⟩
  · have predicts : Predicts (ended (name "model name"))
        fun us s => DerivesName source (.name "LM" :: us) s :=
      (predicts_name _).ended fun same => same ▸ .present _
    rw [← List.singleton_append]
    refine (predicts.foretold failed).lift False.elim ?_
    rintro us ⟨name, headed⟩
    exact ⟨[], lexical_nil, Sentence.intro headed (List.forall_mem_nil _)⟩
  · cases failed

/-- Every keyword of a statement begins some statement. -/
theorem exists_form_of_keyword {word : String} (listed : word ∈ statementKeywords) :
    isName word.toList = true ∧ ∃ more, Lexical more ∧ StatementForm (.name word :: more) := by
  simp only [statementKeywords, List.mem_cons, List.not_mem_nil, or_false] at listed
  rcases listed with rfl | rfl | rfl
  · have lexical : isName "x".toList = true := by decide
    refine ⟨by decide, [.name "x", .symbol .leftBrace, .symbol .rightBrace], ?_,
      .valueMap "x" .nil .absent⟩
    simpa [Token.IsLexical] using lexical
  · obtain ⟨more, lexical, d, derived⟩ := predicts_dataDeclaration.possible
    exact ⟨by decide, more, lexical, .statement derived⟩
  · obtain ⟨head, lexical, h, headed⟩ := predicts_header.possible
    obtain ⟨more, lexical', form⟩ := viable_inspection headed .nil
    exact ⟨by decide, head ++ [] ++ more, by simpa using ⟨lexical, lexical'⟩, form⟩

/-- Behind statements, what is no statement is refused as foretold. -/
theorem foretold_finish {m : Model} {front : List Token} (derives : Derives source front m)
    (failed : (finish (statementKeywords.map .keyword)).run ts = .error f) :
    Foretold Untimely Sentence (front ++ ts) f := by
  cases ts with
  | nil => cases failed
  | cons t ts =>
      cases failed
      refine ⟨front, rfl, List.cons_ne_nil _ _, ⟨[], lexical_nil, ?_⟩, fun x member => .inr ?_⟩
      · exact derives.sentence_append (List.forall_mem_nil _)
      · obtain ⟨word, listed, rfl⟩ := List.mem_map.mp member
        obtain ⟨isLexical, more, lexical, form⟩ := exists_form_of_keyword listed
        refine ⟨exists_keyword isLexical, fun u fits => ?_⟩
        obtain rfl := accepts_keyword_iff.mp fits
        refine ⟨more, lexical, ?_⟩
        simpa using derives.sentence_append (List.forall_mem_singleton.mpr form)

/-- **Where a text is stopped, that is foretold or a code or name has come before.** -/
theorem foretold_or_repeats (stopped : (model source).run ts = .error f) :
    Foretold Untimely Sentence ts f ∨
      ∃ before, ts = before ++ f.ahead ∧
        ((∃ code map, f.reason = .duplicateCode code map ∧
            RepeatsCode source before f.ahead code map) ∨
          ∃ name, f.reason = .duplicateMap name ∧ RepeatsMap source before f.ahead name) := by
  rcases run_bind_eq_error_iff.mp stopped with failed | ⟨name, _, read, afterName⟩
  · exact .inl (foretold_modelName failed)
  obtain ⟨head, headed, rfl⟩ := derivesName_of_run read
  rcases run_bind_eq_error_iff.mp afterName with failed | ⟨m, _, read, afterStatements⟩
  · obtain ⟨body, statements, m, t, rest, p, derived, steps, rfl, chosen, failed⟩ :=
      readsEntries_statement.exists_of_error failed
    rw [← List.append_assoc]
    exact foretold_or_repeats_of_statement (derives_of_foldlM headed derived steps) chosen failed
  · obtain ⟨body, statements, derived, rfl, steps⟩ := readsEntries_statement.repeated_of_run read
    rcases run_bind_eq_error_iff.mp afterStatements with failed | ⟨_, _, _, failed⟩
    · rw [← List.append_assoc]
      exact .inl (foretold_finish (derives_of_foldlM headed derived steps) failed)
    · cases failed

end Crossmap.Mapping
