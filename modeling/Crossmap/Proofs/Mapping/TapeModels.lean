import Crossmap.Proofs.Mapping.ScanRounds
import Crossmap.Proofs.Mapping.Spelling
import Crossmap.Proofs.Mapping.TapeClauses

/-! # Texts are read to their end in rounds

Reading a text with a cursor, character by character and then mark by mark, ends for every text,
with what `Model.parse` finds: it is never trapped when it has fuel for three rounds a character
(`parse_ends_in_rounds`).
-/

namespace Crossmap.Mapping

open TokenReader

namespace Tape

variable {source : String} {tokens : Tokens} {γ σ : Type}

/-! ## Declarations -/

/-- A header is read token by token as the token reader reads it. -/
theorem follows_header : Follows source tokens (tokens.tape source).header Mapping.header :=
  (follows_name _).bind fun _ => (follows_keyword _).bind fun _ => (follows_name _).bind fun _ =>
    (follows_keyword _).bind fun _ => (follows_path _).bind fun _ =>
      (follows_symbol _).bind fun _ => follows_pure _

/-- A clause is read if its keyword is listed; where no listed keyword stands, the text is
refused. -/
theorem run_clause_of_listed {c : Cursor Unit} {ts : List Token} {allowed : List String}
    {word : String} (stands : StandsBefore tokens c (.name word :: ts)) (listed : word ∈ allowed) :
    ((tokens.tape source).clause allowed).run c =
      ((tokens.tape source).clauseAfter word).run c.next := by
  rw [clause, Machine.run_bind_of_done (run_peek stands)]
  simp only [List.head?_cons, keyword?, listed, if_true]
  exact Machine.run_bind_of_done (run_advance stands)

/-- Where no keyword of a clause stands, the text is refused with the keywords and the closing brace
listed. -/
theorem run_clause_of_unlisted {c : Cursor Unit} {ts : List Token} {allowed : List String}
    (stands : StandsBefore tokens c ts)
    (unlisted : ∀ word, ts.head? = some (.name word) → word ∉ allowed) :
    ((tokens.tape source).clause allowed).run c =
      .failed ⟨source, tokens.locate ts,
        .unexpected ts.head? (allowed.map .keyword ++ [.symbol .rightBrace])⟩ := by
  have none : keyword? allowed ts.head? = none := by
    cases ts with
    | nil => rfl
    | cons t ts =>
        cases t with
        | name word => exact if_neg (unlisted word rfl)
        | _ => rfl
  rw [clause, Machine.run_bind_of_done (run_peek stands)]
  simp only [none]
  rfl

/-- The keywords of the clauses that both kinds of declaration can hold are keywords of either kind.
-/
theorem mem_keywords_of_common {word : String} {p : TokenReader CommonClause}
    (after : CommonClause.after? word = some p) :
    word ∈ DataClause.keywords ∧ word ∈ InspectionClause.keywords := by
  unfold CommonClause.after? at after
  split at after
  all_goals cases after
  all_goals decide

/-- The keywords that are listed for a data declaration are those that begin one of its clauses. -/
theorem mem_dataKeywords_iff {word : String} :
    word ∈ DataClause.keywords ↔ (DataClause.after? word).isSome = true := by
  constructor
  · revert word
    decide
  · intro known
    unfold DataClause.after? at known
    split at known
    case h_6 =>
      rw [Option.isSome_map] at known
      obtain ⟨p, after⟩ := Option.isSome_iff_exists.mp known
      exact (mem_keywords_of_common after).1
    all_goals decide

/-- The keywords that are listed for an inspection are those that begin one of its clauses. -/
theorem mem_inspectionKeywords_iff {word : String} :
    word ∈ InspectionClause.keywords ↔ (InspectionClause.after? word).isSome = true := by
  constructor
  · revert word
    decide
  · intro known
    unfold InspectionClause.after? at known
    split at known
    case h_4 =>
      rw [Option.isSome_map] at known
      obtain ⟨p, after⟩ := Option.isSome_iff_exists.mp known
      exact (mem_keywords_of_common after).2
    all_goals decide

/-- The clauses of a kind are read by their keywords, if these are listed and what follows them is
read as a clause of that kind. -/
theorem readsEntry_clause {keywords : List String} {after? : String → Option (TokenReader γ)}
    {kind : γ → Clause} {further : σ → Clause → TapeReader σ} {add : σ → γ → σ}
    {entry : σ → Token → Option (TokenReader σ)}
    (listed : ∀ {word}, word ∈ keywords ↔ (after? word).isSome = true)
    (follows : ∀ {word p}, after? word = some p →
      Follows source tokens ((tokens.tape source).clauseAfter word) (kind <$> p))
    (added : ∀ s x, further s (kind x) = pure (add s x))
    (keyword : ∀ s word, entry s (.name word) = (after? word).map (add s <$> ·))
    (other : ∀ s t, (∀ word, t ≠ .name word) → entry s t = none) :
    ReadsEntry source tokens (fun s => (tokens.tape source).clause keywords >>= further s) entry
      (keywords.map .keyword) where
  goes {s c t ts p} stands chosen := by
    by_cases isKeyword : ∃ word, t = .name word
    · obtain ⟨word, rfl⟩ := isKeyword
      rw [keyword] at chosen
      obtain ⟨q, after, rfl⟩ := Option.map_eq_some_iff.mp chosen
      have known : word ∈ keywords := listed.mpr (Option.isSome_iff_exists.mpr ⟨q, after⟩)
      refine ⟨_, Machine.run_bind_congr (run_clause_of_listed stands known) _, ?_⟩
      refine ((follows after).bind_of_map fun x => ?_).ends stands.next
      rw [added]
      exact follows_pure _
    · rw [other s t fun word same => isKeyword ⟨word, same⟩] at chosen
      cases chosen
  refuses {s c ts} stands none := by
    refine Machine.run_bind_of_failed (run_clause_of_unlisted stands fun word head known => ?_)
    have begins := none _ head
    rw [keyword, Option.map_eq_none_iff] at begins
    have some := listed.mp known
    rw [begins] at some
    cases some
  brace s := other s _ fun word same => by cases same

/-- The clauses of a data declaration are read as the token reader reads them. -/
theorem readsEntry_dataEntry :
    ReadsEntry source tokens (tokens.tape source).dataEntry dataClause?
      (DataClause.keywords.map .keyword) :=
  readsEntry_clause mem_dataKeywords_iff follows_dataClause (fun d x => by rw [x.data?_clause])
    (fun _ _ => rfl) fun _ t notName => by
      cases t with
      | name word => exact (notName word rfl).elim
      | _ => rfl

/-- The clauses of an inspection are read as the token reader reads them. -/
theorem readsEntry_inspectionEntry :
    ReadsEntry source tokens (tokens.tape source).inspectionEntry inspectionClause?
      (InspectionClause.keywords.map .keyword) :=
  readsEntry_clause mem_inspectionKeywords_iff follows_inspectionClause
    (fun i x => by rw [x.inspection?_clause]) (fun _ _ => rfl) fun _ t notName => by
      cases t with
      | name word => exact (notName word rfl).elim
      | _ => rfl

/-- A data declaration is read as the token reader reads it. -/
theorem follows_dataDeclaration :
    Follows source tokens (tokens.tape source).dataDeclaration Mapping.dataDeclaration :=
  follows_header.bind fun _ => readsEntry_dataEntry.follows_block_bind _ fun _ =>
    (follows_eat _).bind fun _ => follows_pure _

/-- The closing brace of an inspection, which can only stand where the ident column is known. -/
def inspectionBrace (i : Inspection) : TokenReader Inspection :=
  ahead >>= fun brace => closingBrace (InspectionClause.keywords.map .keyword) >>= fun _ =>
    if i.identColumn.isNone then TokenReader.failAt brace (.identMissing i.name) else pure i

/-- An inspection is read up to its closing brace, and then the semicolon that may follow. -/
theorem inspection_eq :
    Mapping.inspection = Mapping.header >>= fun h =>
      (many inspectionClause? (.bare h.name h.object h.className) >>= inspectionBrace) >>= fun i =>
        skipIf (.symbol .semicolon) >>= fun _ => pure i := by
  simp only [Mapping.inspection, inspectionBrace, bind_assoc]
  refine congrArg _ (funext fun h => congrArg _ (funext fun i => congrArg _ (funext fun brace =>
    congrArg _ (funext fun _ => ?_))))
  split
  · exact ext_run fun ts => rfl
  · rw [pure_bind]

/-- At its closing brace an inspection ends if its ident column is known, and else is refused there.
-/
theorem run_inspectionBrace_of_head {i : Inspection} {ts : List Token} :
    (inspectionBrace i).run (.symbol .rightBrace :: ts) =
      if i.identColumn.isNone then
        .error ⟨.symbol .rightBrace :: ts, .identMissing i.name⟩ else .ok (i, ts) := by
  have closed : (closingBrace (InspectionClause.keywords.map .keyword)).run
      (.symbol .rightBrace :: ts) = .ok ((), ts) := run_closingBrace_eq_ok_iff.mpr rfl
  rw [inspectionBrace, run_bind_of_ok (run_ahead_eq_ok_iff.mpr ⟨rfl, rfl⟩), run_bind_of_ok closed]
  split <;> rfl

/-- Without the brace at the head, an inspection that should end is refused there. -/
theorem run_inspectionBrace_of_ne {i : Inspection} {ts : List Token}
    (ne : ts.head? ≠ some (.symbol .rightBrace)) :
    (inspectionBrace i).run ts = .error ⟨ts, .unexpected ts.head?
      (InspectionClause.keywords.map .keyword ++ [.symbol .rightBrace])⟩ := by
  rw [inspectionBrace, run_bind_of_ok (run_ahead_eq_ok_iff.mpr ⟨rfl, rfl⟩)]
  exact run_bind_of_error (run_closingBrace_of_ne ne)

/-- An inspection is read as the token reader reads it; its loop ends with the brace. -/
theorem follows_inspection :
    Follows source tokens (tokens.tape source).inspection Mapping.inspection := by
  have reads : ReadsEntry source tokens _ _ _ := readsEntry_inspectionEntry
  rw [inspection_eq]
  refine follows_header.bind fun h => (follows_loop (fun {i c t ts p} stands chosen => ?_)
    (fun {i c ts} stands none => ?_) _).bind fun _ => (follows_eat _).bind fun _ => follows_pure _
  · obtain ⟨m, same, ends⟩ := reads.goes stands chosen
    refine ⟨_, (Machine.run_bind_of_done (run_peek stands)).trans ?_, endsAs_map ends _⟩
    refine (Machine.run_bind_of_done (run_eat_of_ne stands (reads.head?_ne chosen))).trans ?_
    exact Machine.run_bind_congr same _
  · have looked : ((tokens.tape source).inspectionRound i).run c = _ :=
      Machine.run_bind_of_done (run_peek stands)
    by_cases head : ts.head? = some (.symbol .rightBrace)
    · obtain ⟨ts, rfl⟩ := List.head?_eq_some_iff.mp head
      have round := looked.trans (Machine.run_bind_of_done (run_eat_of_head stands))
      have ended : (inspectionBrace i).run (.symbol .rightBrace :: ts) = _ :=
        run_inspectionBrace_of_head
      cases identless : i.identColumn.isNone with
      | true =>
          simp only [identless, if_true] at round ended
          rw [run_map_of_error ended]
          exact round
      | false =>
          simp only [identless, if_true] at round ended
          rw [run_map_of_ok ended]
          exact ⟨c.next, round, reaches_next stands⟩
    · rw [run_map_of_error (run_inspectionBrace_of_ne head)]
      refine looked.trans ((Machine.run_bind_of_done (run_eat_of_ne stands head)).trans ?_)
      exact Machine.run_bind_of_failed (reads.refuses stands none)

/-! ## Value maps -/

theorem readsEntry_mapEntry :
    ReadsEntry source tokens (tokens.tape source).mapEntry mapEntry? [.code] where
  goes {m c t ts p} stands chosen := by
    cases t with
    | code code =>
        cases chosen
        refine ⟨_, (Machine.run_bind_of_done (run_peek stands)).trans
          (Machine.run_bind_of_done (run_advance stands)), endsAs_ahead ?_⟩
        refine Follows.ends ((follows_symbol _).bind fun _ => (follows_path _).bind fun target =>
          (follows_symbol _).bind fun _ => ?_) stands.next
        split
        · exact follows_failAt (.code code :: ts) _
        · exact follows_pure _
    | _ => cases chosen
  refuses {m c ts} stands none := by
    have looked : ((tokens.tape source).mapEntry m).run c = _ :=
      Machine.run_bind_of_done (run_peek stands)
    cases ts with
    | nil => exact looked
    | cons t ts =>
        cases t with
        | code code => cases none _ rfl
        | _ => exact looked
  brace m := rfl

/-- A value map is read as the token reader reads it. -/
theorem follows_valueMap : Follows source tokens (tokens.tape source).valueMap Mapping.valueMap :=
  (follows_name _).bind fun _ => (follows_symbol _).bind fun _ =>
    readsEntry_mapEntry.follows_block_bind _ fun _ => (follows_eat _).bind fun _ => follows_pure _

/-! ## Models -/

/-- The statement that begins with a token. -/
def statementAfter? : Token → Option (TokenReader Statement)
  | .name "VALUEMAP" => some (.valueMap <$> Mapping.valueMap)
  | .name "DATA" => some (.data <$> Mapping.dataDeclaration)
  | .name "INSPECTION" => some (.inspection <$> Mapping.inspection)
  | _ => none

/-- A model with one more statement; a value map whose name has come before is refused at a
place. -/
def addAt (m : Model) (place : List Token) : Statement → TokenReader Model
  | .valueMap v =>
    if m.hasValueMap v.name then TokenReader.failAt place (.duplicateMap v.name)
    else return m.addValueMap v
  | .data d => return m.addData d
  | .inspection i => return m.addInspection i

/-- A statement is read and added, with the place of its keyword at hand. -/
theorem statement?_eq (m : Model) (t : Token) : statement? m t =
    (statementAfter? t).map fun p => ahead >>= fun after => p >>= addAt m (t :: after) := by
  unfold statement?
  split
  case h_4 noMap noData noInspection =>
    have begins : statementAfter? t = none := by
      unfold statementAfter?
      split
      · cases noMap rfl
      · cases noData rfl
      · cases noInspection rfl
      · rfl
    rw [begins, Option.map_none]
  all_goals
    simp only [statementAfter?, Option.map_some, bind_map_left]
    rfl

/-- What a statement adds is added, or refused at the place of the statement, alike. -/
theorem follows_add (m : Model) (place : List Token) (s : Statement) :
    Follows source tokens ((tokens.tape source).add m (tokens.locate place) s)
      (addAt m place s) := by
  cases s with
  | valueMap v =>
      rw [add, addAt]
      split
      · exact follows_failAt _ _
      · exact follows_pure _
  | data d => exact follows_pure _
  | inspection i => exact follows_pure _

variable {c : Cursor Unit} {t : Token} {ts : List Token}

/-- The statement that begins with a token is read after it, and the place of that is kept. -/
theorem exists_run_statement_eq (source : String) {p : TokenReader Statement}
    (stands : StandsBefore tokens c (t :: ts)) (begins : statementAfter? t = some p) :
    ∃ m, (tokens.tape source).statement.run c = m.run c.next ∧
      Follows source tokens m ((·, tokens.locate (t :: ts)) <$> p) := by
  have looked : (tokens.tape source).statement.run c = _ :=
    Machine.run_bind_of_done (run_peek stands)
  unfold statementAfter? at begins
  split at begins
  all_goals cases begins
  · refine ⟨_, looked.trans (Machine.run_bind_of_done (run_advance stands)), ?_⟩
    rw [Functor.map_map]
    exact follows_valueMap.map _
  · refine ⟨_, looked.trans (Machine.run_bind_of_done (run_advance stands)), ?_⟩
    rw [Functor.map_map]
    exact follows_dataDeclaration.map _
  · refine ⟨_, looked.trans (Machine.run_bind_of_done (run_advance stands)), ?_⟩
    rw [Functor.map_map]
    exact follows_inspection.map _

/-- Where no keyword of a statement stands, the text is refused with these keywords listed. -/
theorem run_statement_of_none (stands : StandsBefore tokens c ts)
    (none : ∀ t, ts.head? = some t → statementAfter? t = none) :
    (tokens.tape source).statement.run c = .failed
      ⟨source, tokens.locate ts, .unexpected ts.head? (statementKeywords.map .keyword)⟩ := by
  rw [statement, Machine.run_bind_of_done (run_peek stands)]
  simp only
  split
  · next head => cases none _ head
  · next head => cases none _ head
  · next head => cases none _ head
  · rfl

/-- The name of a model is read as the token reader reads it. -/
theorem follows_modelName :
    Follows source tokens (tokens.tape source).modelName (Mapping.modelName source) := by
  refine (follows_eat _).bind fun named => ?_
  cases named with
  | true => exact (follows_name _).ended
  | false => exact follows_pure _

/-- A text is read from its tape as from its tokens. -/
theorem follows_model :
    Follows source tokens (tokens.tape source).model (Mapping.model source) := by
  refine follows_modelName.bind fun n => follows_loop (fun {m c t ts p} stands chosen => ?_)
    (fun {m c ts} stands none => ?_) _
  · have looked : ((tokens.tape source).modelRound m).run c = _ :=
      Machine.run_bind_of_done (run_peek stands)
    rw [statement?_eq] at chosen
    obtain ⟨q, begins, rfl⟩ := Option.map_eq_some_iff.mp chosen
    obtain ⟨read, same, follows⟩ := exists_run_statement_eq source stands begins
    refine ⟨_, looked.trans (Machine.run_bind_congr same _), ?_⟩
    rw [map_bind]
    refine endsAs_ahead ?_
    rw [map_bind]
    refine Follows.ends (follows.bind_of_map fun s => ?_) stands.next
    exact (follows_add m (t :: ts) s).map _
  · have looked : ((tokens.tape source).modelRound m).run c = _ :=
      Machine.run_bind_of_done (run_peek stands)
    cases ts with
    | nil => exact ⟨c, looked, .refl stands⟩
    | cons t ts =>
        refine looked.trans (Machine.run_bind_of_failed (run_statement_of_none stands ?_))
        intro t head
        exact Option.map_eq_none_iff.mp ((statement?_eq m t).symm.trans (none t head))

/-- How a model is read from the marks of a text: they are refused, or the cursor comes to the last
of them. -/
inductive Ends (tape : Tape) (fuel : Nat) : Except SyntaxError Model → Prop where
  | refused {e : SyntaxError} (ran : tape.model.run ⟨0, fuel, ()⟩ = .failed e) :
      Ends tape fuel (.error e)
  | read {m : Model} {c : Cursor Unit} (ran : tape.model.run ⟨0, fuel, ()⟩ = .done (m, c))
      (atEnd : c.pos + 1 = tape.marks.length) : Ends tape fuel (.ok m)

/-- With fuel for a round a token, a model is read from the marks of the tokens of a text as from
the tokens. -/
theorem ends_model (source : String) {tokens : Tokens} {fuel : Nat}
    (enough : tokens.list.length ≤ fuel) :
    (tokens.tape source).Ends fuel (Model.ofTokens source tokens) := by
  have stands : StandsBefore tokens ⟨0, fuel, ()⟩ (tokens.list.map LocatedToken.token) :=
    ⟨rfl, Nat.zero_le _, by rwa [List.length_map]⟩
  have ends : EndsAs source tokens _ _ _ := follows_model.ends stands
  rw [Model.ofTokens]
  cases read : (Mapping.model source).run (tokens.list.map LocatedToken.token) with
  | error f =>
      rw [read] at ends
      exact .refused ends
  | ok r =>
      obtain ⟨m, rest⟩ := r
      rw [read] at ends
      obtain ⟨c, ran, reaches⟩ := ends
      obtain rfl := (run_model_eq_ok_iff.mp read).2
      have all := reaches.before.length
      refine .read ran ?_
      rw [Tokens.tape, tokens.length_marks, ← all, List.length_nil, Nat.zero_add]

end Tape

/-! ## Texts -/

/-- Every token of a text has a character of its own. -/
theorem length_list_le {l : Location} {cs : List Char} {tokens : Tokens}
    (read : tokensFrom l cs = .ok tokens) : tokens.list.length ≤ cs.length := by
  fun_induction tokensFrom l cs generalizing tokens with
  | case1 => cases read
  | case2 l cs blank split =>
      cases read
      exact Nat.zero_le _
  | case3 => cases read
  | case4 l cs blank x rest split lexed first ih =>
      obtain ⟨others, further, rfl⟩ := exists_of_map_eq_ok read
      have fewer := ih further
      have shorter := lexeme_rest_length first
      have whole := congrArg List.length (Scanner.append_of_gap split)
      rw [List.length_append, List.length_cons] at whole
      rw [List.length_cons]
      omega

/-- Whether marks end with the mark of the end, and it stands nowhere else. -/
def EndsOnce (marks : List Mark) : Prop :=
  ∃ front stop, marks = front ++ [⟨none, stop⟩] ∧ ∀ mark ∈ front, mark.token ≠ none

/-- The marks of a text end with the one of the end, and it stands nowhere else. -/
theorem Tokens.endsOnce_marks (tokens : Tokens) : EndsOnce tokens.marks := by
  refine ⟨_, tokens.stop, rfl, fun mark listed => ?_⟩
  obtain ⟨t, -, rfl⟩ := List.mem_map.mp listed
  exact Option.some_ne_none t.token

/-- How a text is read with a cursor and with fuel for so many rounds, with what `Model.parse`
finds. Neither the scanner nor the reader of its marks is trapped. -/
inductive ReadsInRounds (source text : String) (fuel : Nat) : Prop where
  /-- The scanner refuses the text. -/
  | unreadable {f : LocatedFault}
      (scanned : (Scanner.tokenize text.toList).run ⟨0, fuel, .start⟩ = .failed f)
      (tokenized : tokenize text = .error f)
      (parsed : Model.parse source text = .error ⟨source, f.location, .fault f.fault⟩)
  /-- The scanner passes over all characters; the marks are read with the fuel that it leaves. -/
  | readable {tokens : Tokens} {c : Cursor Location}
      (scanned : (Scanner.tokenize text.toList).run ⟨0, fuel, .start⟩ = .done (tokens.marks, c))
      (tokenized : tokenize text = .ok tokens)
      (whole : c.pos = text.length)
      (endsOnce : EndsOnce tokens.marks)
      (read : (tokens.tape source).Ends c.fuel (Model.parse source text))

/-- **Every text is read to its end in rounds.** With fuel for three rounds a character, no reading
is trapped: every round of a loop that another one follows moves the cursor on, and there is fuel
for the other one; nothing is looked at behind the last mark; every keyword that is let through
begins a clause, and one of the kind of the declaration. A text that is read is read up to the mark
of its end. -/
theorem parse_ends_in_rounds (source text : String) (spare : Nat) :
    ReadsInRounds source text (3 * text.length + spare) := by
  have scanned := @Scanner.run_tokenize text (3 * text.length + spare) (by omega)
  cases tokenized : tokenize text with
  | error f =>
      rw [tokenized] at scanned
      exact .unreadable scanned tokenized (by rw [Model.parse, tokenized])
  | ok tokens =>
      rw [tokenized] at scanned
      obtain ⟨c, scanned, passed⟩ := scanned
      have spent := passed.fuel
      have fewer := length_list_le tokenized
      rw [String.length_toList] at spent fewer
      refine .readable scanned tokenized ?_ tokens.endsOnce_marks ?_
      · rw [passed.pos, String.length_toList, Nat.zero_add]
      · rw [Model.parse, tokenized]
        exact Tape.ends_model source (by simp only at spent; omega)

end Crossmap.Mapping
