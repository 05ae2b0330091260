import Crossmap.Proofs.Mapping.Lexing
import Crossmap.Proofs.Mapping.Rendering

/-! # Texts one after another

`Declares source text name statements` says that a text, called `source`, gives a model a name and
makes certain statements. An accepted text denotes what it says (`parse_of_declares`,
`exists_declares_of_parse`), and one in which a value map comes a second time is refused there
(`parse_of_repeats`). Texts joined by a line break say one after the other what each of them says
(`Declares.append_line`); so the model of the whole is made of their models, and the order of
statements of different kinds is of no account (`parse_append`).
-/

namespace Crossmap.Mapping

open TokenReader

variable {source text name : String} {before after : List Statement} {statements : List Statement}

/-! ## Repetitions -/

/-- Where keys come twice, there is a first item whose key has come before. -/
theorem exists_repeat_of_not_nodup {α κ : Type} {key : α → κ} {items : List α}
    (twice : ¬ (items.map key).Nodup) :
    ∃ before a after, items = before ++ a :: after ∧ (before.map key).Nodup ∧
      key a ∈ before.map key := by
  induction items using List.reverseRecOn with
  | nil => exact absurd List.nodup_nil twice
  | append_singleton front a ih =>
      by_cases nodup : (front.map key).Nodup
      · refine ⟨front, a, [], rfl, nodup, ?_⟩
        by_contra new
        rw [List.map_append] at twice
        exact twice (nodup.append (List.nodup_singleton _) (List.disjoint_singleton.mpr new))
      · obtain ⟨before, a', after, rfl, nodup, repeats⟩ := ih nodup
        exact ⟨before, a', after ++ [a], by simp, nodup, repeats⟩

/-- The names of the value maps of statements. -/
def mapNames (statements : List Statement) : List String := (namedMaps statements).map Prod.fst

theorem mapNames_append (before after : List Statement) :
    mapNames (before ++ after) = mapNames before ++ mapNames after := by
  simp only [mapNames, namedMaps, List.filterMap_append, List.map_append]

theorem mapNames_cons_valueMap (v : ValueMap) (after : List Statement) :
    mapNames (.valueMap v :: after) = v.name :: mapNames after := rfl

/-- The names of the value maps are those of the statements that declare one. -/
theorem mapNames_eq (statements : List Statement) :
    mapNames statements = (statements.filterMap Statement.valueMap?).map ValueMap.name :=
  List.map_map ..

/-- Where names of value maps come twice, there is a first one that does. -/
theorem exists_repeats_of_not_nodup (twice : ¬ (mapNames statements).Nodup) :
    ∃ before v after, statements = before ++ .valueMap v :: after ∧ (mapNames before).Nodup ∧
      v.name ∈ mapNames before := by
  rw [mapNames_eq] at twice
  obtain ⟨first, v, last, split, nodup, repeats⟩ := exists_repeat_of_not_nodup twice
  obtain ⟨before, rest, rfl, rfl, further⟩ := List.filterMap_eq_append_iff.mp split
  obtain ⟨others, s, after, rfl, unnamed, named, -⟩ := List.filterMap_eq_cons_iff.mp further
  have none : mapNames others = [] := by
    rw [mapNames_eq, List.filterMap_eq_nil_iff.mpr unnamed, List.map_nil]
  cases s with
  | valueMap v =>
      obtain rfl := Option.some.inj named
      refine ⟨before ++ others, v, after, by simp, ?_, ?_⟩
      all_goals rwa [mapNames_append, none, List.append_nil, mapNames_eq]
  | data d => cases named
  | inspection i => cases named

/-! ## What texts say -/

/-- Whether a text gives a model a name, its own where it has no head, and makes statements. -/
def Declares (source text name : String) (statements : List Statement) : Prop :=
  ∃ head body, HasTokens text (head ++ body) ∧ DerivesName source head name ∧
    Repeated DerivesStatement body statements

/-- A text in which no value map comes twice is read as the model of its statements. -/
theorem parse_of_declares (declares : Declares source text name statements)
    (nodup : ((namedMaps statements).map Prod.fst).Nodup) :
    Model.parse source text = .ok (.ofStatements name statements nodup) := by
  obtain ⟨head, body, ⟨tokens, tokenized, all⟩, headed, derived⟩ := declares
  rw [Model.parse, tokenized]
  refine (ofTokens_eq_ok_iff_derives source tokens _).mpr ?_
  rw [all]
  exact .intro headed derived nodup

/-- Whatever is read from a text is the model of its statements. -/
theorem exists_declares_of_parse {m : Model} (read : Model.parse source text = .ok m) :
    ∃ name statements nodup, Declares source text name statements ∧
      m = .ofStatements name statements nodup := by
  rw [Model.parse] at read
  split at read
  case h_1 tokens tokenized =>
    have derived := (ofTokens_eq_ok_iff_derives source tokens m).mp read
    generalize all : tokens.list.map LocatedToken.token = ts at derived
    obtain ⟨headed, derived, nodup⟩ := derived
    exact ⟨_, _, nodup, ⟨_, _, ⟨tokens, tokenized, all⟩, headed, derived⟩, rfl⟩
  case h_2 => cases read

/-- What is written of a model makes its statements. -/
theorem declares_render {m : Model} (wellFormed : m.BodyWellFormed)
    (named : IsName m.name ∨ m.name = source) :
    Declares source m.render m.name m.statements := by
  have head : Writes (DerivesName source) (nameTokens m.name) m.name := writes_name named
  have body := writes_statements wellFormed
  exact ⟨_, _, tokenize_layout (lexical_append.mpr ⟨head.2, body.2⟩), head.1, body.1⟩

/-- A text that leaves a model without a name has no head. -/
theorem not_hasHead_of_parse {m : Model} (read : Model.parse source text = .ok m)
    (nameless : ¬ IsName m.name) : ∀ name, ¬ HasHead text name := by
  rintro name ⟨tokens, rest, tokenized, all⟩
  have lexical := lexical_of_tokensFrom tokenized
  rw [all] at lexical
  rw [Model.parse, tokenized] at read
  have derived := (ofTokens_eq_ok_iff_derives source tokens m).mp read
  generalize same : tokens.list.map LocatedToken.token = ts at derived
  obtain ⟨headed, derived, _⟩ := derived
  cases headed with
  | absent => exact head?_ne_LM_of_repeated derived (congrArg List.head? (same.symm.trans all))
  | present =>
      obtain ⟨-, tail⟩ := List.cons.inj (same.symm.trans all)
      obtain rfl := Token.name.inj (List.cons.inj tail).1
      simp only [lexical_cons] at lexical
      exact nameless lexical.2.1

/-- No statement begins with a semicolon. -/
theorem head?_ne_semicolon_of_repeated {ts : List Token}
    (derived : Repeated DerivesStatement ts statements) :
    ts.head? ≠ some (.symbol .semicolon) := by
  cases derived with
  | nil => exact nofun
  | cons first _ => cases first <;> simp

/-- A value map whose name has come before is refused at its keyword, once it has been read. -/
theorem run_valueMapStatement_of_contained {m : Model} {v : ValueMap} {ts rest : List Token}
    (contained : m.hasValueMap v.name = true) (read : valueMap.run ts = .ok (v, rest)) :
    (valueMapStatement m).run ts = .error ⟨.name "VALUEMAP" :: ts, .duplicateMap v.name⟩ := by
  rw [valueMapStatement, run_bind_of_ok (run_ahead_eq_ok_iff.mpr ⟨rfl, rfl⟩), run_bind_of_ok read,
    if_pos contained]
  rfl

/-- A statement with a value map whose name has come before is not read. -/
theorem run_model_of_repeats {head body : List Token} {v : ValueMap}
    (headed : DerivesName source head name)
    (derived : Repeated DerivesStatement body (before ++ .valueMap v :: after))
    (nodup : (mapNames before).Nodup) (repeats : v.name ∈ mapNames before) :
    ∃ ahead, (model source).run (head ++ body) = .error ⟨ahead, .duplicateMap v.name⟩ := by
  have headless := head?_ne_LM_of_repeated derived
  obtain ⟨front, rest, rfl, first, others⟩ := derived.exists_of_append
  have next := head?_ne_semicolon_of_repeated others
  have added : before.foldlM Statement.addTo? (.bare name) =
      some (.ofStatements name before nodup) :=
    foldlM_addTo_eq_some_iff.mpr ⟨rfl, rfl, rfl, rfl⟩
  have contained : (Model.ofStatements name before nodup).hasValueMap v.name = true :=
    Dict.contains_eq_true_iff.mpr repeats
  cases others with
  | @cons ts tail _ _ statement further =>
      cases statement with
      | @valueMap mapName _ stop entries derivedEntries distinct stops =>
          have read := run_valueMap_of_repeated (v := ⟨mapName, ⟨entries, distinct⟩⟩) derivedEntries
            stops (head?_ne_semicolon_of_repeated further)
          have failed := run_valueMapStatement_of_contained contained read
          have loop := (readsEntries_statement.manyFrom_append_of_repeated first added
            next).trans (manyFrom_cons_of_error rfl failed)
          have named := (run_modelName_eq_ok_iff headless).mpr ⟨head, headed, rfl⟩
          rw [model, run_bind_of_ok named]
          exact ⟨_, run_bind_of_error loop⟩

/-- A text is refused for the first value map that comes a second time. -/
theorem parse_of_repeats {v : ValueMap}
    (declares : Declares source text name (before ++ .valueMap v :: after))
    (nodup : (mapNames before).Nodup) (repeats : v.name ∈ mapNames before) :
    ∃ place, Model.parse source text = .error ⟨source, place, .duplicateMap v.name⟩ := by
  obtain ⟨head, body, ⟨tokens, tokenized, all⟩, headed, derived⟩ := declares
  obtain ⟨ahead, failed⟩ := run_model_of_repeats headed derived nodup repeats
  refine ⟨tokens.locate ahead, ?_⟩
  rw [Model.parse, tokenized]
  change Model.ofTokens source tokens = _
  rw [Model.ofTokens, all, failed]

/-- Texts joined by a line break make their statements one after the other, under the name of the
first. -/
theorem Declares.append_line {a b other : String} {further : List Statement}
    (first : Declares source a name statements) (second : Declares source b other further)
    (headless : ∀ name, ¬ HasHead b name) :
    Declares source (a ++ "\n" ++ b) name (statements ++ further) := by
  obtain ⟨head, body, tokens, headed, derived⟩ := first
  obtain ⟨head', body', tokens', headed', derived'⟩ := second
  cases headed' with
  | absent =>
      refine ⟨head, body ++ body', ?_, headed, derived.append derived'⟩
      rw [← List.append_assoc]
      exact tokens.append_line tokens'
  | present other =>
      obtain ⟨located, tokenized, all⟩ := tokens'
      exact (headless other ⟨located, body', tokenized, all⟩).elim

/-! ## Joined models -/

/-- Whether a model is made of two others: named as the first, with the declarations of the one
followed by those of the other. -/
structure Model.Joins (m a b : Model) : Prop where
  name : m.name = a.name
  valueMaps : m.valueMaps.entries = a.valueMaps.entries ++ b.valueMaps.entries
  data : m.data = a.data ++ b.data
  inspections : m.inspections = a.inspections ++ b.inspections

/-- The keyword that a statement begins with. -/
def Statement.keyword : Statement → String
  | .valueMap _ => "VALUEMAP"
  | .data _ => "DATA"
  | .inspection _ => "INSPECTION"

section Parse

variable {a b : String} {A B : Model}

/-- The model of statements one after another joins the models of the two parts. -/
theorem joins_ofStatements {other : String} {further : List Statement}
    (nodup : (mapNames statements).Nodup) (nodup' : (mapNames further).Nodup)
    (all : (mapNames (statements ++ further)).Nodup) :
    (Model.ofStatements name (statements ++ further) all).Joins
      (.ofStatements name statements nodup) (.ofStatements other further nodup') where
  name := rfl
  valueMaps := by simp only [Model.ofStatements, namedMaps, List.filterMap_append, List.map_append]
  data := List.filterMap_append
  inspections := List.filterMap_append

/-- Texts without a common value map are read as their models joined. -/
theorem exists_parse_append (first : Model.parse source a = .ok A)
    (second : Model.parse source b = .ok B) (headless : ∀ name, ¬ HasHead b name)
    (apart : ∀ v ∈ B.valueMaps.keys, v ∉ A.valueMaps.keys) :
    ∃ M, Model.parse source (a ++ "\n" ++ b) = .ok M ∧ M.Joins A B := by
  obtain ⟨name, statements, nodup, declares, rfl⟩ := exists_declares_of_parse first
  obtain ⟨other, further, nodup', declares', rfl⟩ := exists_declares_of_parse second
  have all : (mapNames (statements ++ further)).Nodup := by
    rw [mapNames_append]
    exact nodup.append nodup' fun k inFirst inSecond => apart k inSecond inFirst
  exact ⟨_, parse_of_declares (declares.append_line declares' headless) all,
    joins_ofStatements nodup nodup' all⟩

/-- The statement of the first value map that some condition holds of. -/
theorem exists_valueMap_of_find? {p : String → Bool}
    (found : (mapNames statements).find? p = some name) :
    ∃ before v after, statements = before ++ .valueMap v :: after ∧ v.name = name ∧
      p name = true ∧ ∀ k ∈ mapNames before, p k = false := by
  induction statements with
  | nil => cases found
  | cons s rest ih =>
      cases s with
      | valueMap v =>
          rw [mapNames_cons_valueMap, List.find?_cons] at found
          cases holds : p v.name with
          | true =>
              rw [holds] at found
              obtain rfl := Option.some.inj found
              exact ⟨[], v, rest, rfl, rfl, holds, nofun⟩
          | false =>
              rw [holds] at found
              obtain ⟨before, w, after, rfl, named, holds', none⟩ := ih found
              exact ⟨.valueMap v :: before, w, after, rfl, named, holds',
                List.forall_mem_cons.mpr ⟨holds, none⟩⟩
      | data d =>
          obtain ⟨before, w, after, rfl, named, holds, none⟩ := ih found
          exact ⟨.data d :: before, w, after, rfl, named, holds, none⟩
      | inspection i =>
          obtain ⟨before, w, after, rfl, named, holds, none⟩ := ih found
          exact ⟨.inspection i :: before, w, after, rfl, named, holds, none⟩

/-- Texts with a common value map are refused at the first one of the second text. -/
theorem exists_parse_append_eq_error {v : String} (first : Model.parse source a = .ok A)
    (second : Model.parse source b = .ok B) (headless : ∀ name, ¬ HasHead b name)
    (common : B.valueMaps.keys.find? A.hasValueMap = some v) :
    ∃ place, Model.parse source (a ++ "\n" ++ b) = .error ⟨source, place, .duplicateMap v⟩ := by
  obtain ⟨name, statements, nodup, declares, rfl⟩ := exists_declares_of_parse first
  obtain ⟨other, further, nodup', declares', rfl⟩ := exists_declares_of_parse second
  obtain ⟨before, map, after, rfl, rfl, declared, new⟩ := exists_valueMap_of_find? common
  have repeats : map.name ∈ mapNames statements := Dict.contains_eq_true_iff.mp declared
  have joined := declares.append_line declares' headless
  rw [← List.append_assoc] at joined
  apply parse_of_repeats joined
  · change (mapNames (before ++ .valueMap map :: after)).Nodup at nodup'
    rw [mapNames_append] at nodup' ⊢
    apply nodup.append nodup'.of_append_left
    intro k inFirst inSecond
    have notNew : (Model.ofStatements name statements nodup).hasValueMap k = true :=
      Dict.contains_eq_true_iff.mpr inFirst
    rw [new k inSecond] at notNew
    cases notNew
  · rw [mapNames_append]
    exact List.mem_append_left _ repeats

/-! ## The order of statements -/

/-- Models with the same name, value maps and declarations are the same. -/
theorem Model.eq_of_parts {m m' : Model} (name : m.name = m'.name)
    (valueMaps : m.valueMaps.entries = m'.valueMaps.entries) (data : m.data = m'.data)
    (inspections : m.inspections = m'.inspections) : m = m' := by
  obtain ⟨_, _, _, _⟩ := m
  obtain ⟨_, _, _, _⟩ := m'
  simp only [Model.mk.injEq]
  exact ⟨name, Dict.ext valueMaps, data, inspections⟩

/-- What only one of two neighbours contributes to is the same when they change places. -/
theorem filterMap_swap {α : Type} {f : Statement → Option α} {x y : Statement}
    (apart : f x = none ∨ f y = none) (before after : List Statement) :
    (before ++ y :: x :: after).filterMap f = (before ++ x :: y :: after).filterMap f := by
  rw [List.filterMap_append, List.filterMap_append]
  congr 1
  rcases apart with none | none
  · simp only [List.filterMap_cons, none]
  · simp only [List.filterMap_cons, none]

/-- Two neighbouring statements of different kinds can change places. -/
theorem parse_swap {x y : Statement} (kinds : x.keyword ≠ y.keyword)
    (declares : Declares source a name (before ++ x :: y :: after))
    (declares' : Declares source b name (before ++ y :: x :: after))
    (read : Model.parse source a = .ok A) : Model.parse source b = .ok A := by
  have maps : namedMaps (before ++ y :: x :: after) = namedMaps (before ++ x :: y :: after) := by
    refine congrArg (List.map _) (filterMap_swap ?_ before after)
    cases x <;> cases y <;> simp [Statement.keyword] at kinds ⊢
  have data := filterMap_swap (f := Statement.data?) (x := x) (y := y)
    (by cases x <;> cases y <;> simp [Statement.keyword] at kinds ⊢) before after
  have inspections := filterMap_swap (f := Statement.inspection?) (x := x) (y := y)
    (by cases x <;> cases y <;> simp [Statement.keyword] at kinds ⊢) before after
  by_cases nodup : (mapNames (before ++ x :: y :: after)).Nodup
  · have nodup' : ((namedMaps (before ++ y :: x :: after)).map Prod.fst).Nodup := maps ▸ nodup
    obtain rfl := Except.ok.inj (read.symm.trans (parse_of_declares declares nodup))
    rw [parse_of_declares declares' nodup']
    exact congrArg _ (Model.eq_of_parts rfl maps data inspections)
  · obtain ⟨front, v, back, split, nodup, repeats⟩ := exists_repeats_of_not_nodup nodup
    rw [split] at declares
    obtain ⟨place, failed⟩ := parse_of_repeats declares nodup repeats
    rw [failed] at read
    cases read

/-- Value maps can stand before or after the declarations that refer to them. -/
theorem exists_parse_maps {p v d : String} {P V D : Model} (first : Model.parse source p = .ok P)
    (maps : Model.parse source v = .ok V) (declarations : Model.parse source d = .ok D)
    (mapsHeadless : ∀ name, ¬ HasHead v name) (headless : ∀ name, ¬ HasHead d name)
    (onlyMaps : V.data = [] ∧ V.inspections = []) (noMaps : D.valueMaps.entries = [])
    (apart : ∀ v ∈ V.valueMaps.keys, v ∉ P.valueMaps.keys) :
    ∃ M, Model.parse source (p ++ "\n" ++ v ++ "\n" ++ d) = .ok M ∧
      Model.parse source (p ++ "\n" ++ d ++ "\n" ++ v) = .ok M := by
  have noKeys : D.valueMaps.keys = [] := congrArg (List.map Prod.fst) noMaps
  have without {A : Model} : ∀ v ∈ D.valueMaps.keys, v ∉ A.valueMaps.keys := by
    rw [noKeys]
    exact nofun
  obtain ⟨PV, readPV, joinsPV⟩ := exists_parse_append first maps mapsHeadless apart
  obtain ⟨M, read, joins⟩ := exists_parse_append readPV declarations headless without
  obtain ⟨PD, readPD, joinsPD⟩ := exists_parse_append first declarations headless without
  have entries : PD.valueMaps.entries = P.valueMaps.entries := by
    rw [joinsPD.valueMaps, noMaps, List.append_nil]
  have keys : PD.valueMaps.keys = P.valueMaps.keys := congrArg (List.map Prod.fst) entries
  have apart' : ∀ v ∈ V.valueMaps.keys, v ∉ PD.valueMaps.keys := by
    rw [keys]
    exact apart
  obtain ⟨M', read', joins'⟩ := exists_parse_append readPD maps mapsHeadless apart'
  have same : M' = M := by
    apply Model.eq_of_parts
    · rw [joins'.name, joinsPD.name, joins.name, joinsPV.name]
    · rw [joins'.valueMaps, entries, joins.valueMaps, joinsPV.valueMaps, noMaps, List.append_nil]
    · rw [joins'.data, joinsPD.data, joins.data, joinsPV.data, onlyMaps.1, List.append_nil,
        List.append_nil]
    · rw [joins'.inspections, joinsPD.inspections, joins.inspections, joinsPV.inspections,
        onlyMaps.2, List.append_nil, List.append_nil]
  exact ⟨M, read, same ▸ read'⟩

end Parse

/-- **Texts are read one after another.** Of two accepted texts, the second without a head, joined
by a line break, the model is made of their models; unless they declare a common value map, and then
the whole is refused as declaring the first such map of the second text twice. So neighbouring
statements of different kinds can change places in an accepted text, and value maps can stand before
or after the declarations that refer to them. -/
theorem parse_append (source : String) :
    (∀ {a b : String} {A B : Model}, Model.parse source a = .ok A → Model.parse source b = .ok B →
      (∀ name, ¬ HasHead b name) →
      ((∀ v ∈ B.valueMaps.keys, v ∉ A.valueMaps.keys) →
        ∃ M, Model.parse source (a ++ "\n" ++ b) = .ok M ∧ M.Joins A B) ∧
      ∀ v, B.valueMaps.keys.find? A.hasValueMap = some v →
        ∃ place, Model.parse source (a ++ "\n" ++ b) =
          .error ⟨source, place, .duplicateMap v⟩) ∧
    (∀ {a b name : String} {before after : List Statement} {x y : Statement},
      x.keyword ≠ y.keyword → Declares source a name (before ++ x :: y :: after) →
      Declares source b name (before ++ y :: x :: after) →
      ∀ M, Model.parse source a = .ok M ↔ Model.parse source b = .ok M) ∧
    ∀ {p v d : String} {P V D : Model}, Model.parse source p = .ok P →
      Model.parse source v = .ok V → Model.parse source d = .ok D →
      (∀ name, ¬ HasHead v name) → (∀ name, ¬ HasHead d name) →
      V.data = [] ∧ V.inspections = [] → D.valueMaps.entries = [] →
      (∀ v ∈ V.valueMaps.keys, v ∉ P.valueMaps.keys) →
      ∃ M, Model.parse source (p ++ "\n" ++ v ++ "\n" ++ d) = .ok M ∧
        Model.parse source (p ++ "\n" ++ d ++ "\n" ++ v) = .ok M := by
  refine ⟨fun first second headless => ⟨?_, fun v => ?_⟩, fun kinds declares declares' M => ?_, ?_⟩
  · exact exists_parse_append first second headless
  · exact exists_parse_append_eq_error first second headless
  · exact ⟨parse_swap kinds declares declares', parse_swap kinds.symm declares' declares⟩
  · exact exists_parse_maps

/-- A model with a value map and nothing else, in a text without a name. -/
def statesModel : Model :=
  { Model.bare "two parts" with
    valueMaps := ⟨[("STATE", ⟨"STATE", ⟨[(1, "Field.Active")], by decide⟩⟩)], by decide⟩ }

/-- A model whose only declaration refers to a value map of another one. -/
def fieldsModel : Model :=
  { Model.bare "two parts" with
    data := [{ DataDeclaration.bare "FIELDS" "fields" "Field" with
      columns := [⟨"s", "state", some "STATE"⟩] }] }

theorem bodyWellFormed_statesModel : statesModel.BodyWellFormed where
  keys := by decide
  valueMaps := List.forall_mem_singleton.mpr ⟨by decide, by decide⟩
  data := nofun
  inspections := nofun

theorem bodyWellFormed_fieldsModel : fieldsModel.BodyWellFormed where
  keys := nofun
  valueMaps := nofun
  data := List.forall_mem_singleton.mpr
    { name := by decide
      object := by decide
      className := by decide
      identColumn := nofun
      filter := by decide
      conversions := nofun
      aliases := nofun
      withBlocks := nofun
      annexeTargets := nofun
      annexedSources := nofun
      joins := nofun
      nestings := nofun
      columns := List.forall_mem_singleton.mpr ⟨by decide, .inl (by decide), by decide⟩ }
  inspections := nofun

/-- A declaration may come before or after the value map that it refers to, and the map cannot come
twice. -/
theorem parse_append_two_parts :
    (∃ M, Model.parse "two parts" (statesModel.render ++ "\n" ++ fieldsModel.render) = .ok M ∧
      M.Joins statesModel fieldsModel) ∧
    (∃ place, Model.parse "two parts" (statesModel.render ++ "\n" ++ statesModel.render) =
      .error ⟨"two parts", place, .duplicateMap "STATE"⟩) ∧
    (∀ M, Model.parse "two parts" (statesModel.render ++ "\n" ++ fieldsModel.render) = .ok M ↔
      Model.parse "two parts" (fieldsModel.render ++ "\n" ++ statesModel.render) = .ok M) ∧
    ∃ M,
      Model.parse "two parts" (fieldsModel.render ++ "\n" ++ statesModel.render ++ "\n" ++
        fieldsModel.render) = .ok M ∧
      Model.parse "two parts" (fieldsModel.render ++ "\n" ++ fieldsModel.render ++ "\n" ++
        statesModel.render) = .ok M := by
  obtain ⟨joined, swapped, moved⟩ := parse_append "two parts"
  have states := parse_render_of_named bodyWellFormed_statesModel (.inr rfl)
  have fields := parse_render_of_named bodyWellFormed_fieldsModel (.inr rfl)
  have statesHeadless := not_hasHead_of_parse states (by decide)
  have fieldsHeadless := not_hasHead_of_parse fields (by decide)
  have saysStates := declares_render bodyWellFormed_statesModel (.inr rfl)
  have saysFields := declares_render bodyWellFormed_fieldsModel (.inr rfl)
  refine ⟨?_, ?_, ?_, ?_⟩
  · exact (joined states fields fieldsHeadless).1 nofun
  · exact (joined states states statesHeadless).2 "STATE" rfl
  · exact @swapped _ _ _ [] [] _ _ (by decide) (saysStates.append_line saysFields fieldsHeadless)
      (saysFields.append_line saysStates statesHeadless)
  · exact moved fields states fields statesHeadless fieldsHeadless ⟨rfl, rfl⟩ rfl nofun

end Crossmap.Mapping
