import Crossmap.Proofs.Mapping.Scanner

/-! # Texts are scanned in rounds

Every function of the `Scanner` takes what its counterpart splits off a text, and no more than one
round for each character that it takes; with the loops around them that makes two rounds a character
for a whole text (`run_tokenize`).
-/

namespace Crossmap.Mapping

namespace Scanner

variable {text cs xs ys : List Char} {c c' c'' : Cursor Location} {x y : Char} {rate : Nat}
  {start : Location}

/-! ## Classes of characters and comments -/

/-- A round takes one more character of the class. -/
theorem run_takeRound_of_pos {p : Char → Bool} (ahead : text.drop c.pos = x :: cs)
    (inClass : p x = true) (taken : List Char) :
    ∃ c', (takeRound text p taken).run c = .done (.again (taken ++ [x]), c') ∧
      Passed 0 c [x] c' := by
  obtain ⟨c', bumped, passed⟩ := run_bump ahead
  refine ⟨c', ?_, passed⟩
  rw [takeRound, Machine.run_bind_of_done (run_peek ahead)]
  simp only [List.head?_cons, inClass, if_true]
  exact Machine.run_bind_of_done bumped

/-- A round ends the loop before a character outside of the class, and takes nothing. -/
theorem run_takeRound_of_neg {p : Char → Bool} (ahead : text.drop c.pos = cs)
    (stops : ∀ x, cs.head? = some x → p x = false) (taken : List Char) :
    (takeRound text p taken).run c = .done (.leave taken, c) := by
  rw [takeRound, Machine.run_bind_of_done (run_peek ahead)]
  cases cs with
  | nil => rfl
  | cons x cs => simp [stops x rfl]

/-- The loop takes the longest piece of the class in as many rounds as the piece has characters, and
one to stop. -/
theorem run_loop_takeRound {p : Char → Bool} (ahead : text.drop c.pos = cs)
    (enough : cs.length ≤ c.fuel) (taken : List Char) :
    ∃ c', (Machine.loop (takeRound text p) taken).run c = .done (taken ++ cs.takeWhile p, c') ∧
      Passed 1 c (cs.takeWhile p) c' := by
  induction cs generalizing c taken with
  | nil =>
      refine ⟨c, ?_, .refl 1 c⟩
      rw [Machine.run_loop_of_leave (run_takeRound_of_neg ahead (by simp) taken)]
      simp
  | cons x cs ih =>
      rw [List.length_cons] at enough
      by_cases inClass : p x = true
      · obtain ⟨c₁, ran, passed⟩ := run_takeRound_of_pos ahead inClass taken
        obtain ⟨c₂, again, spent⟩ :=
          run_loop_of_again ran passed (List.cons_ne_nil _ _) (by simp; omega)
        obtain ⟨c₃, further, passed'⟩ :=
          ih (spent.drop ahead) (by have := spent.fuel; simp at this; omega) (taken ++ [x])
        rw [List.takeWhile_cons_of_pos inClass]
        refine ⟨c₃, ?_, spent.trans passed'⟩
        rw [again, further, List.append_assoc]
        rfl
      · rw [List.takeWhile_cons_of_neg inClass, List.append_nil]
        refine ⟨c, Machine.run_loop_of_leave (run_takeRound_of_neg ahead ?_ taken), .refl 1 c⟩
        simpa using inClass

/-- Characters of a class are taken one by one as a whole. -/
theorem run_takeWhile (ahead : text.drop c.pos = cs) (enough : cs.length ≤ c.fuel)
    (p : Char → Bool) :
    ∃ c', (takeWhile text p).run c = .done (cs.takeWhile p, c') ∧
      Passed 1 c (cs.takeWhile p) c' :=
  run_loop_takeRound ahead enough []

/-- Two characters that a text does not begin with do not stand at its front. -/
theorem not_front_of_forall {a b : Char} (other : ∀ rest, x = a → cs = b :: rest → False) :
    ¬((x :: cs).head? = some a ∧ (x :: cs).tail.head? = some b) := by
  rintro ⟨first, second⟩
  obtain ⟨rest, same⟩ := List.head?_eq_some_iff.mp second
  exact other rest (Option.some.inj first) same

/-- The rest of a comment is taken up to its end; without one, the text is refused. -/
theorem run_comment (ahead : text.drop c.pos = cs) (enough : cs.length ≤ c.fuel)
    (start : Location) :
    match commentBody? cs with
    | some (body, _) => ∃ c', (comment text start).run c = .done ((), c') ∧ Passed 1 c body c'
    | none => (comment text start).run c = .failed ⟨.openComment, start⟩ := by
  fun_induction commentBody? cs generalizing c with
  | case1 =>
      refine Machine.run_loop_of_failed ?_
      rw [commentRound, Machine.run_bind_of_done (run_peek ahead),
        Machine.run_bind_of_done (run_peekNext ahead)]
      rfl
  | case2 cs =>
      obtain ⟨c₁, star, passed⟩ := run_bump ahead
      obtain ⟨c₂, slash, passed'⟩ := run_bump (passed.drop ahead)
      refine ⟨c₂, Machine.run_loop_of_leave ?_, (passed.trans passed').mono (Nat.zero_le 1)⟩
      rw [commentRound, Machine.run_bind_of_done (run_peek ahead),
        Machine.run_bind_of_done (run_peekNext ahead)]
      exact (Machine.run_bind_of_done star).trans (Machine.run_bind_of_done slash)
  | case3 x cs notEnd ih =>
      rw [List.length_cons] at enough
      obtain ⟨c₁, bumped, passed⟩ := run_bump ahead
      have ran : (commentRound text start ()).run c = .done (.again (), c₁) := by
        rw [commentRound, Machine.run_bind_of_done (run_peek ahead),
          Machine.run_bind_of_done (run_peekNext ahead), if_neg (not_front_of_forall notEnd),
          if_pos (by simp)]
        exact Machine.run_bind_of_done bumped
      obtain ⟨c₂, again, spent⟩ :=
        run_loop_of_again ran passed (List.cons_ne_nil _ _) (by simp; omega)
      have further := ih (spent.drop ahead) (by have := spent.fuel; simp at this; omega)
      cases closed : commentBody? cs with
      | none =>
          rw [closed] at further
          exact again.trans further
      | some r =>
          rw [closed] at further
          obtain ⟨c₃, further, passed'⟩ := further
          exact ⟨c₃, again.trans further, spent.trans passed'⟩

/-! ## Trivia -/

/-- A comment is opened and then taken up to its end. -/
theorem run_triviaRound_of_block (ahead : text.drop c.pos = '/' :: '*' :: cs) :
    ∃ c', (triviaRound text ()).run c =
        (comment text c.place >>= fun _ => pure (.again ())).run c' ∧
      Passed 0 c ['/', '*'] c' := by
  have solid : Text.isBlank '/' = false := by decide
  obtain ⟨c₁, slash, passed⟩ := run_bump ahead
  obtain ⟨c₂, star, passed'⟩ := run_bump (passed.drop ahead)
  refine ⟨c₂, ?_, passed.trans passed'⟩
  rw [triviaRound, Machine.run_bind_of_done (run_peek ahead),
    Machine.run_bind_of_done (run_peekNext ahead), if_neg (by simp [solid]), if_neg (by simp),
    if_pos ⟨rfl, rfl⟩, Machine.run_bind_of_done Machine.run_place, Machine.run_bind_of_done slash,
    Machine.run_bind_of_done star]

/-- A piece of trivia at the front is taken in one round. -/
theorem run_triviaRound (ahead : text.drop c.pos = cs) (enough : cs.length ≤ c.fuel) :
    match trivia cs with
    | .none => (triviaRound text ()).run c = .done (.leave (), c)
    | .piece piece _ => ∃ c', (triviaRound text ()).run c = .done (.again (), c') ∧
        Passed 1 c piece c'
    | .unclosed => (triviaRound text ()).run c = .failed ⟨.openComment, c.place⟩ := by
  fun_cases trivia cs with
  | case1 cs =>
      have solid : Text.isBlank '!' = false := by decide
      obtain ⟨c', taken, passed⟩ := run_takeWhile ahead enough (· ≠ '\n')
      refine ⟨c', ?_, passed⟩
      rw [triviaRound, Machine.run_bind_of_done (run_peek ahead),
        Machine.run_bind_of_done (run_peekNext ahead), if_neg (by simp [solid]),
        if_pos ⟨rfl, rfl⟩]
      exact Machine.run_bind_of_done taken
  | case2 cs body rest closed =>
      obtain ⟨c₁, opened, passed⟩ := run_triviaRound_of_block ahead
      have inner := run_comment (passed.drop ahead)
        (by have := passed.fuel; simp at this enough; omega) c.place
      rw [closed] at inner
      obtain ⟨c₂, ended, passed'⟩ := inner
      exact ⟨c₂, opened.trans (Machine.run_bind_of_done ended),
        (passed.mono (Nat.zero_le 1)).trans passed'⟩
  | case3 cs unclosed =>
      obtain ⟨c₁, opened, passed⟩ := run_triviaRound_of_block ahead
      have inner := run_comment (passed.drop ahead)
        (by have := passed.fuel; simp at this enough; omega) c.place
      rw [unclosed] at inner
      exact opened.trans (Machine.run_bind_of_failed inner)
  | case4 x cs _ _ blank =>
      obtain ⟨c', bumped, passed⟩ := run_bump ahead
      refine ⟨c', ?_, passed.mono (Nat.zero_le 1)⟩
      rw [triviaRound, Machine.run_bind_of_done (run_peek ahead),
        Machine.run_bind_of_done (run_peekNext ahead), if_pos (by simpa using blank)]
      exact Machine.run_bind_of_done bumped
  | case5 x cs noLine noBlock solid =>
      rw [triviaRound, Machine.run_bind_of_done (run_peek ahead),
        Machine.run_bind_of_done (run_peekNext ahead), if_neg (by simpa using solid),
        if_neg (not_front_of_forall noLine), if_neg (not_front_of_forall noBlock)]
      rfl
  | case6 =>
      rw [triviaRound, Machine.run_bind_of_done (run_peek ahead),
        Machine.run_bind_of_done (run_peekNext ahead)]
      rfl

/-- The trivia at the front is taken piece by piece. -/
theorem run_skipTrivia (ahead : text.drop c.pos = cs) (enough : 2 * cs.length ≤ c.fuel) :
    match (gap cs).2 with
    | some _ => ∃ c', (skipTrivia text).run c = .done ((), c') ∧ Passed 2 c (gap cs).1 c'
    | none => (skipTrivia text).run c = .failed ⟨.openComment, c.place.past (gap cs).1⟩ := by
  fun_induction gap cs generalizing c with
  | case1 cs none =>
      have round := run_triviaRound ahead (by omega)
      rw [none] at round
      exact ⟨c, Machine.run_loop_of_leave round, .refl 2 c⟩
  | case2 cs unclosed =>
      have round := run_triviaRound ahead (by omega)
      rw [unclosed] at round
      exact Machine.run_loop_of_failed round
  | case3 cs piece rest split more =>
      rename_i ih
      have round := run_triviaRound ahead (by omega)
      rw [split] at round
      obtain ⟨c₁, ran, passed⟩ := round
      obtain ⟨same, nonempty⟩ := trivia_append split
      rw [← same] at ahead enough
      rw [List.length_append] at enough
      obtain ⟨c₂, again, spent⟩ := run_loop_of_again ran passed nonempty (by omega)
      have further := ih (spent.drop ahead) (by have := spent.fuel; omega)
      cases ends : more.2 with
      | none =>
          rw [ends, spent.place] at further
          change (skipTrivia text).run c = .failed ⟨.openComment, c.place.past (piece ++ more.1)⟩
          rw [Location.past, List.foldl_append]
          exact again.trans further
      | some _ =>
          rw [ends] at further
          obtain ⟨c₃, further, passed'⟩ := further
          exact ⟨c₃, again.trans further, spent.trans passed'⟩

/-! ## Tokens -/

/-- Whether a scanner, at a cursor, takes the lexeme that is read there, or refuses the text where
none can be read. -/
def Takes (m : Scanner Token) (start : Location) (c : Cursor Location) :
    Except Fault Lexeme → Prop
  | .ok l => ∃ c', m.run c = .done (l.token, c') ∧ Passed 1 c l.text c'
  | .error f => m.run c = .failed ⟨f, start⟩

/-- Whether a text in quotes, of which something has been taken, is taken to its end, or refused
where it cannot be read. -/
def Quotes (text : List Char) (start : Location) (value : List Char) (c : Cursor Location) :
    Except Fault Quotation → Prop
  | .ok q => ∃ c', (Machine.loop (quotedRound text start) value).run c =
      .done (value ++ q.value, c') ∧ Passed 1 c q.text c'
  | .error f => (Machine.loop (quotedRound text start) value).run c = .failed ⟨f, start⟩

/-- A round that takes a part of a quotation leaves the rest of it to the rounds that follow. -/
theorem quotes_of_again {value : List Char}
    (passed : Passed 0 c xs c') (nonempty : xs ≠ []) (enough : xs.length ≤ c.fuel)
    (ran : (quotedRound text start value).run c = .done (.again (value ++ [y]), c'))
    (further : ∀ c'', Passed 1 c xs c'' →
      Quotes text start (value ++ [y]) c'' (quotation cs)) :
    Quotes text start value c ((quotation cs).map (.after y xs)) := by
  obtain ⟨c₂, again, spent⟩ := run_loop_of_again ran passed nonempty (by omega)
  have ends := further c₂ spent
  cases read : quotation cs with
  | error f =>
      rw [read] at ends
      exact again.trans ends
  | ok q =>
      rw [read] at ends
      obtain ⟨c₃, ended, passed'⟩ := ends
      refine ⟨c₃, ?_, spent.trans passed'⟩
      rw [again, ended, List.append_assoc]
      rfl

/-- A text in quotes is taken character by character up to the closing quote. -/
theorem quotes_quotation (ahead : text.drop c.pos = cs) (enough : cs.length ≤ c.fuel)
    (start : Location) (value : List Char) :
    Quotes text start value c (quotation cs) := by
  fun_induction quotation cs generalizing c value with
  | case1 => exact Machine.run_loop_of_failed (Machine.run_bind_of_done (run_bump_nil ahead))
  | case2 cs =>
      obtain ⟨c', bumped, passed⟩ := run_bump ahead
      refine ⟨c', ?_, passed.mono (Nat.zero_le 1)⟩
      rw [List.append_nil]
      exact Machine.run_loop_of_leave (Machine.run_bind_of_done bumped)
  | case3 cs =>
      obtain ⟨c', bumped, -⟩ := run_bump ahead
      exact Machine.run_loop_of_failed (Machine.run_bind_of_done bumped)
  | case4 e cs y escapes ih =>
      obtain ⟨c₁, backslash, passed⟩ := run_bump ahead
      obtain ⟨c₂, letter, passed'⟩ := run_bump (passed.drop ahead)
      have both := passed.trans passed'
      -- One round passes two characters here, so a round is to spare.
      refine quotes_of_again both (List.cons_ne_nil _ _) (by simp at enough ⊢; omega) ?_
        fun c₃ spent => ih (spent.drop ahead) ?_ _
      · refine (Machine.run_bind_of_done backslash).trans ?_
        refine (Machine.run_bind_of_done letter).trans ?_
        simp only [escapes]
        rfl
      · have := spent.fuel
        simp at this enough
        omega
  | case5 e cs unknown =>
      obtain ⟨c₁, backslash, passed⟩ := run_bump ahead
      obtain ⟨c₂, letter, -⟩ := run_bump (passed.drop ahead)
      refine Machine.run_loop_of_failed ?_
      refine (Machine.run_bind_of_done backslash).trans ((Machine.run_bind_of_done letter).trans ?_)
      simp only [unknown]
      rfl
  | case6 =>
      obtain ⟨c₁, backslash, passed⟩ := run_bump ahead
      have ends := run_bump_nil (passed.drop ahead)
      exact Machine.run_loop_of_failed
        ((Machine.run_bind_of_done backslash).trans (Machine.run_bind_of_done ends))
  | case7 x cs noQuote noBreak noEscape noEnd ih =>
      obtain ⟨c₁, bumped, passed⟩ := run_bump ahead
      have noBackslash : x ≠ '\\' := by
        rintro rfl
        cases cs with
        | nil => exact noEnd rfl rfl
        | cons e cs => exact noEscape e cs rfl rfl
      refine quotes_of_again passed (List.cons_ne_nil _ _) (by simp at enough ⊢; omega) ?_
        fun c₂ spent => ih (spent.drop ahead) ?_ _
      · rw [quotedRound, Machine.run_bind_of_done bumped]
        simp only [show x ≠ '"' from noQuote, show x ≠ '\n' from noBreak, noBackslash, if_false]
        rfl
      · have := spent.fuel
        simp at this enough
        omega

/-- A text in quotes is scanned as its quotation is read. -/
theorem takes_quoted (ahead : text.drop c.pos = '"' :: cs) (enough : cs.length ≤ c.fuel)
    (start : Location) :
    Takes (quoted text start) start c ((quotation cs).map fun q =>
      ⟨.quoted (String.ofList q.value), '"' :: q.text, q.rest⟩) := by
  obtain ⟨c₁, quote, passed⟩ := run_bump ahead
  have inner := quotes_quotation (passed.drop ahead)
    (by have := passed.fuel; omega) start []
  cases read : quotation cs with
  | error f =>
      rw [read] at inner
      exact (Machine.run_bind_of_done quote).trans (Machine.run_bind_of_failed inner)
  | ok q =>
      rw [read] at inner
      obtain ⟨c₂, ended, passed'⟩ := inner
      exact ⟨c₂, (Machine.run_bind_of_done quote).trans (Machine.run_bind_of_done ended),
        (passed.mono (Nat.zero_le 1)).trans passed'⟩

/-- An integer is scanned to the end of its digits, and refused if it is out of range. -/
theorem run_code (ahead : text.drop c.pos = cs) (enough : cs.length ≤ c.fuel) (start : Location)
    (negative : Bool) :
    match Code.ofDigits? negative (cs.takeWhile Char.isDigit) with
    | some k => ∃ c', (code text start negative).run c = .done (.code k, c') ∧
        Passed 1 c (cs.takeWhile Char.isDigit) c'
    | none => (code text start negative).run c =
        .failed ⟨.codeOutOfRange negative (cs.takeWhile Char.isDigit), start⟩ := by
  obtain ⟨c', taken, passed⟩ := run_takeWhile ahead enough Char.isDigit
  have ran : (code text start negative).run c = _ := Machine.run_bind_of_done taken
  cases value : Code.ofDigits? negative (cs.takeWhile Char.isDigit) with
  | none =>
      rw [value] at ran
      exact ran
  | some k =>
      rw [value] at ran
      exact ⟨c', ran, passed⟩

/-- An integer without a sign is scanned as its lexeme is read. -/
theorem takes_code (ahead : text.drop c.pos = cs) (enough : cs.length ≤ c.fuel)
    (start : Location) : Takes (code text start false) start c (codeLexeme false [] cs) := by
  have ran := run_code ahead enough start false
  rw [codeLexeme]
  split
  · next k value =>
      rw [value] at ran
      exact ran
  · next outside =>
      rw [outside] at ran
      exact ran

/-- A marker is scanned as what follows a dollar sign is read. -/
theorem takes_marker (ahead : text.drop c.pos = '$' :: cs) (enough : cs.length ≤ c.fuel)
    (start : Location) : Takes (marker text start) start c (dollarLexeme cs) := by
  obtain ⟨c₁, dollar, passed⟩ := run_bump ahead
  have next := passed.drop ahead
  have ran : (marker text start).run c = _ :=
    (Machine.run_bind_of_done dollar).trans (Machine.run_bind_of_done (run_peek next))
  cases cs with
  | nil => exact ran
  | cons x cs =>
      rw [dollarLexeme]
      by_cases starts : isNameStart x = true
      · obtain ⟨c₂, name, passed'⟩ := run_takeWhile next (by have := passed.fuel; omega) isNamePart
        rw [if_pos starts]
        refine ⟨c₂, ?_, (passed.mono (Nat.zero_le 1)).trans passed'⟩
        rw [ran, if_pos (by simpa using starts)]
        exact Machine.run_bind_of_done name
      · rw [if_neg starts]
        refine ran.trans ?_
        rw [if_neg (by simpa using starts)]
        rfl

/-- The arrow to the left is scanned as what follows its first character is read. -/
theorem takes_less (ahead : text.drop c.pos = '<' :: cs) (start : Location) :
    Takes (less text start) start c (lessLexeme cs) := by
  obtain ⟨c₁, less, passed⟩ := run_bump ahead
  have next := passed.drop ahead
  have ran : (Scanner.less text start).run c = _ :=
    (Machine.run_bind_of_done less).trans (Machine.run_bind_of_done (run_peek next))
  fun_cases lessLexeme cs with
  | case1 cs =>
      obtain ⟨c₂, dash, passed'⟩ := run_bump next
      have next' := passed'.drop next
      obtain ⟨c₃, greater, passed''⟩ := run_bump next'
      refine ⟨c₃, ?_, ((passed.trans passed').trans passed'').mono (Nat.zero_le 1)⟩
      rw [ran, if_pos (by simp), Machine.run_bind_of_done dash,
        Machine.run_bind_of_done (run_peek next'), if_pos (by simp)]
      exact Machine.run_bind_of_done greater
  | case2 cs noArrow =>
      obtain ⟨c₂, dash, passed'⟩ := run_bump next
      have next' := passed'.drop next
      refine ⟨c₂, ?_, (passed.trans passed').mono (Nat.zero_le 1)⟩
      rw [ran, if_pos (by simp), Machine.run_bind_of_done dash,
        Machine.run_bind_of_done (run_peek next'), if_neg]
      · rfl
      · intro greater
        obtain ⟨cs, rfl⟩ := List.head?_eq_some_iff.mp greater
        exact noArrow cs rfl
  | case3 cs _ noDash =>
      refine ran.trans ?_
      rw [if_neg]
      · rfl
      · intro dash
        obtain ⟨cs, rfl⟩ := List.head?_eq_some_iff.mp dash
        exact noDash cs rfl

/-- A dash is scanned as what follows it is read, be that an arrow or an integer. -/
theorem takes_dash (ahead : text.drop c.pos = '-' :: cs) (enough : cs.length ≤ c.fuel)
    (start : Location) : Takes (dash text start) start c (dashLexeme cs) := by
  obtain ⟨c₁, dash, passed⟩ := run_bump ahead
  have next := passed.drop ahead
  have ran : (Scanner.dash text start).run c = _ := Machine.run_bind_of_done (run_peekNext ahead)
  fun_cases dashLexeme cs with
  | case1 cs =>
      obtain ⟨c₂, greater, passed'⟩ := run_bump next
      refine ⟨c₂, ?_, (passed.trans passed').mono (Nat.zero_le 1)⟩
      rw [ran, if_pos (by simp), Machine.run_bind_of_done dash]
      exact Machine.run_bind_of_done greater
  | case2 cs =>
      obtain ⟨c₂, dash', passed'⟩ := run_bump next
      refine ⟨c₂, ?_, (passed.trans passed').mono (Nat.zero_le 1)⟩
      rw [ran, if_neg (by simp), if_pos (by simp), Machine.run_bind_of_done dash]
      exact Machine.run_bind_of_done dash'
  | case3 y cs noArrow noDash digit =>
      have inner := run_code next (by have := passed.fuel; omega) start true
      have same : (Scanner.dash text start).run c = (code text start true).run c₁ := by
        rw [ran, if_neg (by simpa using noArrow), if_neg (by simpa using noDash),
          if_pos (by simpa using digit)]
        exact Machine.run_bind_of_done dash
      rw [codeLexeme]
      split
      · next k value =>
          rw [value] at inner
          obtain ⟨c₂, ended, passed'⟩ := inner
          exact ⟨c₂, same.trans ended, (passed.mono (Nat.zero_le 1)).trans passed'⟩
      · next outside =>
          rw [outside] at inner
          exact same.trans inner
  | case4 y cs noArrow noDash noDigit =>
      refine ran.trans ?_
      rw [if_neg (by simpa using noArrow), if_neg (by simpa using noDash),
        if_neg (by simpa using noDigit)]
      rfl
  | case5 => exact ran

/-- The token at the front is taken as its lexeme is read. -/
theorem takes_token (ahead : text.drop c.pos = x :: cs) (enough : (x :: cs).length ≤ c.fuel)
    (start : Location) : Takes (token text start x) start c (lexeme x cs) := by
  have enough' : cs.length ≤ c.fuel := by
    rw [List.length_cons] at enough
    omega
  rw [token, lexeme]
  cases symbolOf? x with
  | some s =>
      obtain ⟨c', bumped, passed⟩ := run_bump ahead
      exact ⟨c', Machine.run_bind_of_done bumped, passed.mono (Nat.zero_le 1)⟩
  | none =>
      simp only
      split
      · next quote => exact takes_quoted (quote ▸ ahead) enough' start
      · split
        · next dollar => exact takes_marker (dollar ▸ ahead) enough' start
        · split
          · next less => exact takes_less (less ▸ ahead) start
          · split
            · next dash => exact takes_dash (dash ▸ ahead) enough' start
            · split
              · exact takes_code ahead enough start
              · split
                · obtain ⟨c', name, passed⟩ := run_takeWhile ahead enough isNamePart
                  exact ⟨c', Machine.run_bind_of_done name, passed⟩
                · rfl

/-! ## Texts -/

/-- The gap before a lexeme and what follows it make up the text. -/
theorem append_of_gap {blank rest : List Char} (split : gap cs = (blank, some rest)) :
    blank ++ rest = cs := by
  have whole := gap_append (congrArg Prod.snd split)
  rwa [split] at whole

/-- A round takes the trivia at the front and then looks at what follows it. -/
theorem run_tokenRound {blank rest : List Char} (ahead : text.drop c.pos = cs)
    (enough : 2 * cs.length ≤ c.fuel) (split : gap cs = (blank, some rest)) (marks : List Mark) :
    ∃ c', Passed 2 c blank c' ∧ text.drop c'.pos = rest ∧ (tokenRound text marks).run c =
      (match rest.head? with
      | none => pure (.leave (marks ++ [⟨none, c'.place⟩]))
      | some x => do
        let t ← token text c'.place x
        return .again (marks ++ [⟨some t, c'.place⟩]) : Scanner _).run c' := by
  have skipped := run_skipTrivia ahead enough
  rw [split] at skipped
  obtain ⟨c', skipped, passed⟩ := skipped
  have next := passed.drop (ahead.trans (append_of_gap split).symm)
  refine ⟨c', passed, next, ?_⟩
  rw [tokenRound, Machine.run_bind_of_done skipped, Machine.run_bind_of_done Machine.run_place]
  refine (Machine.run_bind_of_done (run_peek next)).trans ?_
  cases rest <;> rfl

/-- A text is taken token by token up to its end. -/
theorem run_loop_tokenRound (ahead : text.drop c.pos = cs) (enough : 2 * cs.length ≤ c.fuel)
    (marks : List Mark) :
    match tokensFrom c.place cs with
    | .ok ts => ∃ c', (Machine.loop (tokenRound text) marks).run c = .done (marks ++ ts.marks, c') ∧
        Passed 2 c cs c'
    | .error f => (Machine.loop (tokenRound text) marks).run c = .failed f := by
  generalize here : c.place = l
  fun_induction tokensFrom l cs generalizing c marks with
  | case1 l cs blank split =>
      have skipped := run_skipTrivia ahead enough
      rw [split, here] at skipped
      exact Machine.run_loop_of_failed (Machine.run_bind_of_failed skipped)
  | case2 l cs blank split =>
      obtain ⟨c', passed, -, ran⟩ := run_tokenRound ahead enough split marks
      obtain rfl := append_of_gap split
      subst here
      rw [List.append_nil]
      refine ⟨c', ?_, passed⟩
      rw [Machine.run_loop_of_leave ran, passed.place]
      rfl
  | case3 l cs blank x rest split f failed =>
      obtain ⟨c₁, passed, next, ran⟩ := run_tokenRound ahead enough split marks
      obtain rfl := append_of_gap split
      subst here
      have left := passed.enough enough
      have taken := takes_token next (by omega) c₁.place
      rw [failed] at taken
      refine Machine.run_loop_of_failed (ran.trans (Machine.run_bind_of_failed ?_))
      rw [← passed.place]
      exact taken
  | case4 l cs blank x rest split lexed read ih =>
      obtain ⟨c₁, passed, next, ran⟩ := run_tokenRound ahead enough split marks
      obtain rfl := append_of_gap split
      subst here
      have left := passed.enough enough
      have taken := takes_token next (by omega) c₁.place
      rw [read] at taken
      obtain ⟨c₂, lexeme, passed'⟩ := taken
      have ended : (tokenRound text marks).run c =
          .done (.again (marks ++ [⟨some lexed.token, c₁.place⟩]), c₂) :=
        ran.trans (Machine.run_bind_of_done lexeme)
      rw [← lexeme_append read, ← List.append_assoc] at ahead enough
      have nonempty := List.length_pos_iff.mpr (lexeme_text_ne_nil read)
      -- The trivia costs two rounds a character, the lexeme one, so that one is left for the token.
      obtain ⟨c₃, again, spent⟩ := run_loop_of_spare ended
        (passed.trans (passed'.mono (Nat.le_succ 1))) (by simp [lexeme_text_ne_nil read])
        (by simp only [List.length_append] at enough ⊢; omega)
        (by have := passed.fuel; have := passed'.fuel; rw [List.length_append]; omega)
      have past : c₃.place = (c.place.past blank).past lexed.text := by
        rw [spent.place, Location.past, List.foldl_append]
        rfl
      have further := ih (spent.drop ahead) (spent.enough enough)
        (marks ++ [⟨some lexed.token, c₁.place⟩]) past
      cases onward : tokensFrom ((c.place.past blank).past lexed.text) lexed.rest with
      | error f =>
          rw [onward] at further
          exact again.trans further
      | ok ts =>
          rw [onward] at further
          obtain ⟨c₄, further, passed''⟩ := further
          refine ⟨c₄, ?_, ?_⟩
          · rw [again, further, passed.place, List.append_assoc]
            rfl
          · rw [← lexeme_append read, ← List.append_assoc]
            exact spent.trans passed''

/-- **A text is scanned in rounds.** With fuel for two rounds a character the scanner finds the
tokens of a text and marks its end behind them, or it refuses the text where it has none. -/
theorem run_tokenize {text : String} {fuel : Nat} (enough : 2 * text.length ≤ fuel) :
    match Crossmap.Mapping.tokenize text with
    | .ok ts => ∃ c, (tokenize text.toList).run ⟨0, fuel, .start⟩ = .done (ts.marks, c) ∧
        Passed 2 ⟨0, fuel, .start⟩ text.toList c
    | .error f => (tokenize text.toList).run ⟨0, fuel, .start⟩ = .failed f :=
  @run_loop_tokenRound text.toList text.toList ⟨0, fuel, .start⟩ rfl
    (by rwa [String.length_toList]) []

end Scanner

end Crossmap.Mapping
