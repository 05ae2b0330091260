import Crossmap.Proofs.Mapping.ModelPrediction

/-! # Where texts are refused, and what could have stood there

A text that has tokens and is refused is refused at the first token that cannot stand where it does
(`errors_are_located`); a repetition is refused where it begins. What is listed in the place of such
a token could stand there (`listed_tokens_are_accepted`).
-/

namespace Crossmap.Mapping

open TokenReader

variable {source text : String} {ts before after more : List Token} {f : Failure}

/-! ## The first offending token -/

/-- Whether tokens begin a sequence of the grammar and those after them are wrong from the first on;
where none is left, the end is wrong. -/
def Offends (before after : List Token) : Prop :=
  Viable Sentence before ∧ ∀ more, more.head? = after.head? → ¬ Sentence (before ++ more)

/-- Whether tokens are refused, behind others, for a reason that they give. -/
def Blames (source : String) (before after : List Token) : Reason → Prop
  | .duplicateCode code map => RepeatsCode source before after code map
  | .duplicateMap name => RepeatsMap source before after name
  | _ => Offends before after

theorem blames_of_listed {reason : Reason} (listed : reason.expected ≠ [])
    (offends : Offends before after) : Blames source before after reason := by
  cases reason
  case duplicateCode => exact (listed rfl).elim
  case duplicateMap => exact (listed rfl).elim
  all_goals exact offends

/-- Where a text is stopped, no sequence of the grammar goes on. -/
theorem not_sentence_of_error (stopped : (model source).run (before ++ after) = .error ⟨after, f.reason⟩)
    (listed : f.reason.expected ≠ []) (more : List Token) (same : more.head? = after.head?) :
    ¬ Sentence (before ++ more) := by
  intro sentence
  obtain ⟨read, split, again⟩ := (agree_model source).error stopped listed
  obtain rfl := List.append_cancel_right split
  have failed := again more same
  rcases run_model_of_sentence sentence source with ⟨m, read⟩ | ⟨f', failed', bare⟩
  · cases failed.symm.trans read
  · cases failed.symm.trans failed'
    exact listed bare

theorem exists_blames (stopped : (model source).run ts = .error f) :
    ∃ before, ts = before ++ f.ahead ∧ Blames source before f.ahead f.reason := by
  rcases foretold_or_repeats stopped with ⟨before, rfl, listed, viable, -⟩ | ⟨before, rfl, repeats⟩
  · exact ⟨before, rfl, blames_of_listed listed ⟨viable, not_sentence_of_error stopped listed⟩⟩
  · rcases repeats with ⟨code, map, reason, repeats⟩ | ⟨name, reason, repeats⟩
    · exact ⟨before, rfl, by rwa [reason]⟩
    · exact ⟨before, rfl, by rwa [reason]⟩

/-- Tokens of a text from the place of a failure on are located there. -/
theorem exists_locate_eq {tokens : Tokens} {ahead : List Token}
    (all : tokens.list.map LocatedToken.token = before ++ ahead) :
    ∃ front back, tokens.list = front ++ back ∧ front.map LocatedToken.token = before ∧
      back.map LocatedToken.token = ahead ∧
      tokens.locate ahead = (back.head?.map LocatedToken.location).getD tokens.stop := by
  obtain ⟨front, back, split, rfl, rfl⟩ := List.map_eq_append_iff.mp all
  refine ⟨front, back, split, rfl, rfl, ?_⟩
  rw [Tokens.locate, split, List.length_append, List.length_map, Nat.add_sub_cancel,
    List.drop_left]
  cases back with
  | nil => rfl
  | cons t back => rfl

theorem exists_error_of_parse {tokens : Tokens} {e : SyntaxError}
    (tokenized : tokenize text = .ok tokens) (rejected : Model.parse source text = .error e) :
    ∃ f, (model source).run (tokens.list.map LocatedToken.token) = .error f ∧
      e = ⟨source, tokens.locate f.ahead, f.reason⟩ := by
  rw [Model.parse, tokenized] at rejected
  change Model.ofTokens source tokens = _ at rejected
  rw [Model.ofTokens] at rejected
  split at rejected
  case h_1 => cases rejected
  case h_2 f stopped => exact ⟨f, stopped, (Except.error.inj rejected).symm⟩

/-- **Errors are located at the first offending token.** Where a text that has tokens is refused,
the tokens before the place of the error begin a sequence of the grammar, which does not go on with
the token there; or else that token begins a repetition, an entry of a value map whose code has come
in it before, or a value map whose name has come before. -/
theorem errors_are_located {tokens : Tokens} {e : SyntaxError}
    (tokenized : tokenize text = .ok tokens) (rejected : Model.parse source text = .error e) :
    ∃ before after, tokens.list = before ++ after ∧
      e.location = (after.head?.map LocatedToken.location).getD tokens.stop ∧
      Blames source (before.map LocatedToken.token) (after.map LocatedToken.token) e.reason := by
  obtain ⟨f, stopped, rfl⟩ := exists_error_of_parse tokenized rejected
  obtain ⟨before, all, blames⟩ := exists_blames stopped
  obtain ⟨front, back, split, rfl, same, located⟩ := exists_locate_eq all
  exact ⟨front, back, split, located, same ▸ blames⟩

/-- The tokens of `LM x`, which lacks a semicolon. -/
def unfinishedTokens : Tokens :=
  ⟨[⟨.name "LM", ⟨1, 1⟩⟩, ⟨.name "x", ⟨1, 4⟩⟩], ⟨1, 5⟩⟩

/-- What is wrong with `LM x`. -/
def unfinishedError : SyntaxError :=
  ⟨"t", ⟨1, 5⟩, .unexpected none [.symbol .semicolon]⟩

/-- The tokens of `VALUEMAP V{1->A;1->B;}`, which repeats a code. -/
def repeatedTokens : Tokens :=
  ⟨[⟨.name "VALUEMAP", ⟨1, 1⟩⟩, ⟨.name "V", ⟨1, 10⟩⟩, ⟨.symbol .leftBrace, ⟨1, 11⟩⟩,
    ⟨.code 1, ⟨1, 12⟩⟩, ⟨.symbol .arrow, ⟨1, 13⟩⟩, ⟨.name "A", ⟨1, 15⟩⟩, ⟨.symbol .semicolon, ⟨1, 16⟩⟩,
    ⟨.code 1, ⟨1, 17⟩⟩, ⟨.symbol .arrow, ⟨1, 18⟩⟩, ⟨.name "B", ⟨1, 20⟩⟩, ⟨.symbol .semicolon, ⟨1, 21⟩⟩,
    ⟨.symbol .rightBrace, ⟨1, 22⟩⟩], ⟨1, 23⟩⟩

theorem errors_are_located_unfinished :
    (∃ before after, unfinishedTokens.list = before ++ after ∧
      ⟨1, 5⟩ = (after.head?.map LocatedToken.location).getD unfinishedTokens.stop ∧
      Offends (before.map LocatedToken.token) (after.map LocatedToken.token)) ∧
    ∃ before after, repeatedTokens.list = before ++ after ∧
      ⟨1, 17⟩ = (after.head?.map LocatedToken.location).getD repeatedTokens.stop ∧
      RepeatsCode "t" (before.map LocatedToken.token) (after.map LocatedToken.token) 1 "V" := by
  refine ⟨@errors_are_located "t" "LM x" unfinishedTokens unfinishedError ?_ ?_,
    @errors_are_located "t" "VALUEMAP V{1->A;1->B;}" repeatedTokens
      ⟨"t", ⟨1, 17⟩, .duplicateCode 1 "V"⟩ ?_ ?_⟩
  all_goals decide +kernel

/-! ## What could have stood there -/

/-- Whether a failure tells of a repetition, an entry or a value map, that a token is part of. -/
def RepeatsWith (before : List Token) (u : Token) (more : List Token) (f : Failure) : Prop :=
  ∃ front start left rest, before = front ++ start ∧ more = left ++ rest ∧
    f.ahead = start ++ u :: more ∧
    ((∃ code path map, DerivesEntry (start ++ u :: left) (code, path) ∧
        f.reason = .duplicateCode code map) ∨
      ∃ v, DerivesStatement (start ++ u :: left) (.valueMap v) ∧ f.reason = .duplicateMap v.name)

/-- Whether a token behind others is taken: all tokens are read, or a later place is wrong, or the
token completes a repetition. -/
def IsTaken (source : String) (before : List Token) (u : Token) (more : List Token) : Prop :=
  (∃ m, (model source).run (before ++ u :: more) = .ok (m, [])) ∨
    ∃ f, (model source).run (before ++ u :: more) = .error f ∧
      ((∃ front, more = front ++ f.ahead) ∨ RepeatsWith before u more f)

/-- The tokens of a failure lie behind a certain token, or go back to it. -/
theorem ahead_cases {u : Token} {ahead : List Token} {front : List Token}
    (split : before ++ u :: more = front ++ ahead) :
    (∃ left, more = left ++ ahead) ∨ ∃ start, before = front ++ start ∧ ahead = start ++ u :: more := by
  rcases List.append_eq_append_iff.mp split with ⟨start, rfl, tail⟩ | ⟨start, rfl, rfl⟩
  · cases start with
    | nil => exact .inr ⟨[], by simp, by simpa using tail.symm⟩
    | cons v start =>
        obtain ⟨-, rfl⟩ := List.cons.inj tail
        exact .inl ⟨start, rfl⟩
  · exact .inr ⟨start, rfl, rfl⟩

section Replacement

variable {u : Token}

/-- What is refused at its first token wherever it stands reaches up to a token that is put in the
place of an offending one. -/
theorem exists_left_of_refused {front start part : List Token}
    (stopped : (model source).run (front ++ start ++ after) = .error f)
    (listed : f.reason.expected ≠ [])
    (refused : ∀ rest, ∃ reason : Reason, reason.expected = [] ∧
      (model source).run (front ++ (part ++ rest)) = .error ⟨part ++ rest, reason⟩)
    (split : start ++ u :: more = part ++ rest) :
    ∃ left, more = left ++ rest ∧ part = start ++ u :: left := by
  rcases ahead_cases split with ⟨left, rfl⟩ | ⟨start', rfl, -⟩
  · rw [← List.cons_append, ← List.append_assoc] at split
    exact ⟨left, rfl, (List.append_cancel_right split).symm⟩
  · obtain ⟨reason, bare, failed⟩ := refused (start' ++ after)
    simp only [List.append_assoc] at stopped failed
    cases stopped.symm.trans failed
    exact (listed bare).elim

/-- With another token in the place of an offending one, a repetition is told of at a later place,
or the token is part of it. -/
theorem repeatsWith_of_error {f' : Failure}
    (stopped : (model source).run (before ++ after) = .error f) (listed : f.reason.expected ≠ [])
    (failed : (model source).run (before ++ u :: more) = .error f')
    (bare : f'.reason.expected = []) :
    (∃ left, more = left ++ f'.ahead) ∨ RepeatsWith before u more f' := by
  rcases foretold_or_repeats failed with ⟨-, -, listed', -⟩ | ⟨front, split, repeats⟩
  · exact (listed' bare).elim
  rcases ahead_cases split with later | ⟨start, rfl, same⟩
  · exact .inl later
  right
  rcases repeats with ⟨code, map, reason, repeats⟩ | ⟨name, reason, repeats⟩
  · obtain ⟨before, m, body, entries, entry, path, rest, derives, rfl, derived, nodup, repeats, last,
      whole⟩ := repeats
    have refused (rest : List Token) : RepeatsCode source _ (entry ++ rest) code map :=
      ⟨before, m, body, entries, entry, path, rest, derives, rfl, derived, nodup, repeats, last, rfl⟩
    obtain ⟨left, rfl, rfl⟩ := exists_left_of_refused stopped listed
      (fun rest => ⟨_, rfl, run_model_of_repeatsCode (refused rest)⟩) (same.symm.trans whole)
    exact ⟨_, start, left, rest, rfl, rfl, same, .inl ⟨code, path, map, last, reason⟩⟩
  · obtain ⟨m, v, part, rest, derives, declared, derived, rfl, whole⟩ := repeats
    have refused (rest : List Token) : RepeatsMap source front (part ++ rest) v.name :=
      ⟨m, v, part, rest, derives, declared, derived, rfl, rfl⟩
    obtain ⟨left, rfl, rfl⟩ := exists_left_of_refused stopped listed
      (fun rest => ⟨_, rfl, run_model_of_repeatsMap (refused rest)⟩) (same.symm.trans whole)
    exact ⟨front, start, left, rest, rfl, rfl, same, .inr ⟨v, derived, reason⟩⟩

/-- A token is taken that a sequence of the grammar has in its place. -/
theorem isTaken_of_viable (stopped : (model source).run (before ++ after) = .error f)
    (listed : f.reason.expected ≠ []) (viable : Viable Sentence (before ++ [u]))
    (more : List Token) : IsTaken source before u more := by
  cases result : (model source).run (before ++ u :: more) with
  | ok r =>
      obtain ⟨m, rest⟩ := r
      obtain ⟨-, rfl⟩ := run_model_eq_ok_iff.mp result
      exact .inl ⟨m, result⟩
  | error f' =>
      refine .inr ⟨f', result, ?_⟩
      by_cases bare : f'.reason.expected = []
      · exact repeatsWith_of_error stopped listed result bare
      · obtain ⟨read, split, -⟩ := (agree_model source).error result bare
        rcases ahead_cases split with later | ⟨start, rfl, same⟩
        · exact .inl later
        · obtain ⟨others, -, sentence⟩ := viable
          rw [split] at result
          refine (not_sentence_of_error result bare (start ++ u :: others) ?_ ?_).elim
          · rw [same]
            cases start <;> rfl
          · simpa using sentence

/-- **What is listed at an error could stand there.** Where a text that has tokens is refused, there
are tokens of each description that is listed, and any of them is taken in the place of the
offending token; but for the closing brace of an inspection without an ident clause. -/
theorem listed_tokens_are_taken {tokens : Tokens} {e : SyntaxError}
    (tokenized : tokenize text = .ok tokens) (rejected : Model.parse source text = .error e) :
    ∃ before after, tokens.list = before ++ after ∧
      e.location = (after.head?.map LocatedToken.location).getD tokens.stop ∧
      ∀ x ∈ e.reason.expected, ¬ Untimely (before.map LocatedToken.token) x →
        (∃ u, u.IsLexical ∧ x.accepts u = true) ∧ ∀ u, x.accepts u = true →
          IsTaken source (before.map LocatedToken.token) u (after.map LocatedToken.token).tail := by
  obtain ⟨f, stopped, rfl⟩ := exists_error_of_parse tokenized rejected
  obtain ⟨before, all, told⟩ : ∃ before, tokens.list.map LocatedToken.token = before ++ f.ahead ∧
      ∀ x ∈ f.reason.expected, Untimely before x ∨ Admits Sentence before x := by
    rcases foretold_or_repeats stopped with ⟨before, all, -, -, told⟩ | ⟨before, all, repeats⟩
    · exact ⟨before, all, told⟩
    · refine ⟨before, all, fun x member => ?_⟩
      rcases repeats with ⟨code, map, reason, -⟩ | ⟨name, reason, -⟩
      all_goals
        rw [reason] at member
        cases member
  obtain ⟨front, back, split, rfl, same, located⟩ := exists_locate_eq all
  refine ⟨front, back, split, located, fun x member timely => ?_⟩
  obtain ⟨fits, admits⟩ := (told x member).resolve_left timely
  rw [all] at stopped
  exact ⟨fits, fun u accepted =>
    isTaken_of_viable stopped (List.ne_nil_of_mem member) (admits u accepted) _⟩

end Replacement

/-- The tokens of `DATA P FROM O CLASS C { IDENT A; FOO }` before `FOO`, which begins no clause. -/
def strayFront : List LocatedToken :=
  [⟨.name "DATA", ⟨1, 1⟩⟩, ⟨.name "P", ⟨1, 6⟩⟩, ⟨.name "FROM", ⟨1, 8⟩⟩, ⟨.name "O", ⟨1, 13⟩⟩,
    ⟨.name "CLASS", ⟨1, 15⟩⟩, ⟨.name "C", ⟨1, 21⟩⟩, ⟨.symbol .leftBrace, ⟨1, 23⟩⟩,
    ⟨.name "IDENT", ⟨1, 25⟩⟩, ⟨.name "A", ⟨1, 31⟩⟩, ⟨.symbol .semicolon, ⟨1, 32⟩⟩]

def strayTokens : Tokens :=
  ⟨strayFront ++ [⟨.name "FOO", ⟨1, 34⟩⟩, ⟨.symbol .rightBrace, ⟨1, 38⟩⟩], ⟨1, 39⟩⟩

def strayError : SyntaxError :=
  ⟨"t", ⟨1, 34⟩, .unexpected (some (.name "FOO"))
    (DataClause.keywords.map .keyword ++ [.symbol .rightBrace])⟩

/-- Only one token stands at the place of the error. -/
theorem eq_strayFront {before after : List LocatedToken}
    (split : strayTokens.list = before ++ after)
    (located : strayError.location =
      (after.head?.map LocatedToken.location).getD strayTokens.stop) :
    before = strayFront ∧ after = strayTokens.list.drop 10 := by
  have places : ∀ k < 13, strayError.location =
      ((strayTokens.list.drop k).head?.map LocatedToken.location).getD strayTokens.stop →
        k = 10 := by
    decide
  have few : before.length < 13 := by
    have lengths := congrArg List.length split
    simp only [List.length_append, strayTokens, strayFront, List.length_cons,
      List.length_nil] at lengths
    omega
  have ahead : after = strayTokens.list.drop before.length := by rw [split, List.drop_left]
  have ten : before.length = 10 := places _ few (ahead ▸ located)
  constructor
  · rw [← @List.take_left _ before after, ← split, ten]
    rfl
  · rw [ahead, ten]

/-- A semicolon could stand at the end of `LM x`, and any keyword of a clause or the closing brace
in the place of `FOO`. -/
theorem listed_tokens_are_taken_unfinished :
    (∃ before after, unfinishedTokens.list = before ++ after ∧
      ⟨1, 5⟩ = (after.head?.map LocatedToken.location).getD unfinishedTokens.stop ∧
      ∀ x ∈ [Expected.symbol .semicolon], ¬ Untimely (before.map LocatedToken.token) x →
        (∃ u, u.IsLexical ∧ x.accepts u = true) ∧ ∀ u, x.accepts u = true →
          IsTaken "t" (before.map LocatedToken.token) u (after.map LocatedToken.token).tail) ∧
    ∀ x ∈ DataClause.keywords.map .keyword ++ [Expected.symbol .rightBrace],
      (∃ u, u.IsLexical ∧ x.accepts u = true) ∧ ∀ u, x.accepts u = true →
        IsTaken "t" (strayFront.map LocatedToken.token) u [.symbol .rightBrace] := by
  refine ⟨@listed_tokens_are_taken "t" "LM x" unfinishedTokens unfinishedError (by decide +kernel)
    (by decide +kernel), ?_⟩
  obtain ⟨before, after, split, located, taken⟩ := @listed_tokens_are_taken "t"
    "DATA P FROM O CLASS C \x7b IDENT A; FOO \x7d" strayTokens strayError (by decide +kernel)
    (by decide +kernel)
  obtain ⟨rfl, rfl⟩ := eq_strayFront split located
  intro x listed
  refine taken x listed ?_
  rintro ⟨-, start, head, body, h, clauses, same, -⟩
  have inspected : Token.name "INSPECTION" ∈ strayFront.map LocatedToken.token := by
    rw [same]
    simp
  revert inspected
  decide

/-- A token that is listed can be refused in its turn, where it begins or ends a repetition, and
where an inspection has no ident clause yet. -/
theorem listed_tokens_are_refused :
    (Model.parse "t" "VALUEMAP A { } FOO A { }" = .error ⟨"t", ⟨1, 16⟩,
        .unexpected (some (.name "FOO")) (statementKeywords.map .keyword)⟩ ∧
      Model.parse "t" "VALUEMAP A { } VALUEMAP A { }" =
        .error ⟨"t", ⟨1, 16⟩, .duplicateMap "A"⟩) ∧
    (Model.parse "t" "VALUEMAP M \x7b 1 -> A; 1 -> B C" = .error ⟨"t", ⟨1, 29⟩,
        .unexpected (some (.name "C")) [.symbol .semicolon]⟩ ∧
      Model.parse "t" "VALUEMAP M \x7b 1 -> A; 1 -> B ;" =
        .error ⟨"t", ⟨1, 22⟩, .duplicateCode 1 "M"⟩) ∧
    (Model.parse "t" "INSPECTION I FROM O CLASS C \x7b FOO" = .error ⟨"t", ⟨1, 31⟩,
        .unexpected (some (.name "FOO"))
          (InspectionClause.keywords.map .keyword ++ [.symbol .rightBrace])⟩ ∧
      Model.parse "t" "INSPECTION I FROM O CLASS C \x7b \x7d" =
        .error ⟨"t", ⟨1, 31⟩, .identMissing "I"⟩) ∧
    (∀ u, (Expected.keyword "VALUEMAP").accepts u = true → u = .name "VALUEMAP") ∧
    ∀ (s : Symbol) u, (Expected.symbol s).accepts u = true → u = .symbol s := by
  refine ⟨?_, ?_, ?_, fun u => accepts_keyword_iff.mp, fun s u => accepts_symbol_iff.mp⟩
  all_goals decide +kernel

end Crossmap.Mapping
