import Crossmap.Proofs.Mapping.Lookahead
import Crossmap.Proofs.Mapping.TapeReader

/-! # A cursor follows a token reader

`Follows m p` says that a reading of a tape does what a token reader does, wherever the cursor
stands: it takes the same tokens, fails at the same place, is never trapped, and spends no more than
one round for each token that it takes. There is one law for every way to build a reader; the one
for loops (`follows_loop`) is where the rounds are counted.
-/

namespace Crossmap.Mapping

open TokenReader

/-- The tape of the tokens of a text. -/
def Tokens.tape (source : String) (tokens : Tokens) : Tape := ⟨source, tokens.marks⟩

/-- The cursor at the next mark. -/
def Cursor.next (c : Cursor Unit) : Cursor Unit := { c with pos := c.pos + 1 }

namespace Tape

variable {source : String} {tokens : Tokens} {α β γ σ : Type} {c c' c'' : Cursor Unit}
  {ts rest : List Token} {t : Token}

/-! ## Where a cursor stands -/

/-- Whether a cursor stands before the last tokens of a text, with fuel for each of them. -/
structure StandsBefore (tokens : Tokens) (c : Cursor Unit) (ts : List Token) : Prop where
  ahead : (tokens.list.drop c.pos).map LocatedToken.token = ts
  inside : c.pos ≤ tokens.list.length
  fuel : ts.length ≤ c.fuel

/-- Whether a cursor has come to stand before tokens, with no more than a round spent on each token
that was taken. -/
structure Reaches (tokens : Tokens) (c : Cursor Unit) (rest : List Token) (c' : Cursor Unit) :
    Prop where
  before : StandsBefore tokens c' rest
  forward : c.pos ≤ c'.pos
  spent : c.fuel + c.pos ≤ c'.fuel + c'.pos

namespace StandsBefore

/-- The position of a cursor and the tokens ahead of it make up the tokens of the text. -/
theorem length (stands : StandsBefore tokens c ts) : ts.length + c.pos = tokens.list.length := by
  have inside := stands.inside
  rw [← stands.ahead, List.length_map, List.length_drop]
  omega

/-- The place of the tokens ahead is that of the mark under the cursor. -/
theorem locate_eq (stands : StandsBefore tokens c ts) :
    tokens.locate ts =
      ((tokens.list.drop c.pos).head?.map LocatedToken.location).getD tokens.stop := by
  have length := stands.length
  rw [Tokens.locate, show tokens.list.length - ts.length = c.pos by omega]
  cases (tokens.list.drop c.pos).head? <;> rfl

/-- Behind its token a cursor stands before the others, with fuel for each of them. -/
theorem next (stands : StandsBefore tokens c (t :: ts)) : StandsBefore tokens c.next ts where
  ahead := by
    have ahead := congrArg List.tail stands.ahead
    rwa [← List.map_tail, List.tail_drop, List.tail_cons] at ahead
  inside := by
    have length := stands.length
    rw [List.length_cons] at length
    change c.pos + 1 ≤ _
    omega
  fuel := by
    have fuel := stands.fuel
    rw [List.length_cons] at fuel
    exact Nat.le_of_succ_le fuel

end StandsBefore

theorem Reaches.refl (stands : StandsBefore tokens c ts) : Reaches tokens c ts c :=
  ⟨stands, Nat.le_refl _, Nat.le_refl _⟩

/-- Rounds that are spent one after another add up to no more than a round for each token. -/
theorem Reaches.trans (first : Reaches tokens c ts c') (second : Reaches tokens c' rest c'') :
    Reaches tokens c rest c'' :=
  ⟨second.before, Nat.le_trans first.forward second.forward, Nat.le_trans first.spent second.spent⟩

/-- Taking a token by itself spends no round. -/
theorem reaches_next (stands : StandsBefore tokens c (t :: ts)) : Reaches tokens c ts c.next where
  before := stands.next
  forward := Nat.le_succ _
  spent := Nat.add_le_add_left (Nat.le_succ _) _

/-! ## Marks -/

/-- What is looked at is the token before which the cursor stands, at its place; or the end. -/
theorem run_peek (stands : StandsBefore tokens c ts) :
    (tokens.tape source).peek.run c = .done (⟨ts.head?, tokens.locate ts⟩, c) := by
  have mark : (tokens.tape source).marks[min c.pos ((tokens.tape source).marks.length - 1)]? =
      some ⟨ts.head?, tokens.locate ts⟩ := by
    rw [Tokens.tape, tokens.length_marks, Nat.add_sub_cancel, Nat.min_eq_left stands.inside,
      stands.locate_eq, ← stands.ahead, ← List.head?_drop, Tokens.marks,
      List.drop_append_of_le_length (by simpa using stands.inside), ← List.map_drop]
    cases tokens.list.drop c.pos <;> rfl
  simp only [peek, mark]

/-- Where a token is ahead, advancing goes to the next mark. -/
theorem run_advance (stands : StandsBefore tokens c (t :: ts)) :
    (tokens.tape source).advance.run c = .done ((), c.next) := by
  have length := stands.length
  rw [List.length_cons] at length
  have inside : c.pos + 1 < (tokens.tape source).marks.length := by
    rw [Tokens.tape, tokens.length_marks]
    omega
  simp only [advance, if_pos inside]
  rfl

/-! ## Following a reader -/

/-- Whether a reading of a tape, from a cursor on, ends as a token reader does: before the tokens
that are left, or at the place of its failure. -/
def EndsAs (source : String) (tokens : Tokens) (m : TapeReader α) (c : Cursor Unit) :
    Except Failure (α × List Token) → Prop
  | .ok (a, rest) => ∃ c', m.run c = .done (a, c') ∧ Reaches tokens c rest c'
  | .error f => m.run c = .failed ⟨source, tokens.locate f.ahead, f.reason⟩

/-- Whether a reading of a tape does what a token reader does, wherever the cursor stands. -/
structure Follows (source : String) (tokens : Tokens) (m : TapeReader α) (p : TokenReader α) :
    Prop where
  ends : ∀ {c ts}, StandsBefore tokens c ts → EndsAs source tokens m c (p.run ts)

/-- A reading that goes on as another one does from a place that was reached ends as that one does.
-/
theorem endsAs_of_run_eq {m m' : TapeReader α} {r : Except Failure (α × List Token)}
    (same : m.run c = m'.run c') (reaches : Reaches tokens c ts c')
    (ends : EndsAs source tokens m' c' r) : EndsAs source tokens m c r := by
  cases r with
  | error f => exact same.trans ends
  | ok r =>
      obtain ⟨a, rest⟩ := r
      obtain ⟨c'', ran, further⟩ := ends
      exact ⟨c'', same.trans ran, reaches.trans further⟩

/-- Readings in sequence end as token readers in sequence if the second one does so wherever the
first has left the cursor. -/
theorem endsAs_bind {m : TapeReader α} {p : TokenReader α} {f : α → TapeReader β}
    {g : α → TokenReader β} (first : EndsAs source tokens m c (p.run ts))
    (second : ∀ {a c' rest}, Reaches tokens c rest c' →
      EndsAs source tokens (f a) c' ((g a).run rest)) :
    EndsAs source tokens (m >>= f) c ((p >>= g).run ts) := by
  cases read : p.run ts with
  | error e =>
      rw [read] at first
      rw [run_bind_of_error read]
      exact Machine.run_bind_of_failed first
  | ok r =>
      obtain ⟨a, between⟩ := r
      rw [read] at first
      obtain ⟨c', ran, reaches⟩ := first
      rw [run_bind_of_ok read]
      exact endsAs_of_run_eq (Machine.run_bind_of_done ran) reaches (second reaches)

/-- A reader that looks at the tokens ahead is, at these, one that knows them. -/
theorem endsAs_ahead {m : TapeReader β} {g : List Token → TokenReader β}
    (ends : EndsAs source tokens m c ((g ts).run ts)) :
    EndsAs source tokens m c ((ahead >>= g).run ts) := ends

theorem endsAs_pure (stands : StandsBefore tokens c ts) (a : α) :
    EndsAs source tokens (pure a) c ((pure a : TokenReader α).run ts) :=
  ⟨c, Machine.run_pure, .refl stands⟩

/-- What is made of a value changes nothing about where a reading ends. -/
theorem endsAs_map {m : TapeReader α} {p : TokenReader α}
    (ends : EndsAs source tokens m c (p.run ts)) (f : α → β) :
    EndsAs source tokens (f <$> m) c ((f <$> p).run ts) :=
  endsAs_bind ends fun reaches => endsAs_pure reaches.before _

theorem follows_pure (a : α) : Follows source tokens (pure a) (pure a) where
  ends stands := endsAs_pure stands a

/-- A failure is placed where the tokens that it goes back to begin. -/
theorem follows_failAt (ahead : List Token) (r : Reason) :
    Follows source tokens ((tokens.tape source).failAt (tokens.locate ahead) r : TapeReader α)
      (TokenReader.failAt ahead r) where
  ends _ := rfl

/-- Readings in sequence follow token readers in sequence. -/
theorem Follows.bind {m : TapeReader α} {p : TokenReader α} {f : α → TapeReader β}
    {g : α → TokenReader β} (first : Follows source tokens m p)
    (second : ∀ a, Follows source tokens (f a) (g a)) :
    Follows source tokens (m >>= f) (p >>= g) where
  ends stands := endsAs_bind (first.ends stands) fun reaches => (second _).ends reaches.before

/-- A reading follows a token reader also where something is made of the value. -/
theorem Follows.map {m : TapeReader α} {p : TokenReader α} (follows : Follows source tokens m p)
    (f : α → β) : Follows source tokens (f <$> m) (f <$> p) where
  ends stands := endsAs_map (follows.ends stands) f

theorem run_map_of_ok {p : TokenReader α} {a : α} (read : p.run ts = .ok (a, rest)) (f : α → β) :
    (f <$> p).run ts = .ok (f a, rest) := run_bind_of_ok read

theorem run_map_of_error {p : TokenReader α} {e : Failure} (failed : p.run ts = .error e)
    (f : α → β) : (f <$> p).run ts = .error e := run_bind_of_error failed

/-- What is read as some value of a kind is gone on with as that value. -/
theorem Follows.bind_of_map {m : TapeReader γ} {p : TokenReader α} {h : α → γ}
    {f : γ → TapeReader β} {g : α → TokenReader β} (first : Follows source tokens m (h <$> p))
    (second : ∀ a, Follows source tokens (f (h a)) (g a)) :
    Follows source tokens (m >>= f) (p >>= g) := by
  refine ⟨fun {c ts} stands => ?_⟩
  have ends := first.ends stands
  cases read : p.run ts with
  | error e =>
      rw [run_map_of_error read] at ends
      rw [run_bind_of_error read]
      exact Machine.run_bind_of_failed ends
  | ok r =>
      obtain ⟨a, rest⟩ := r
      rw [run_map_of_ok read] at ends
      obtain ⟨c', ran, reaches⟩ := ends
      rw [run_bind_of_ok read]
      exact endsAs_of_run_eq (Machine.run_bind_of_done ran) reaches
        ((second a).ends reaches.before)

/-- One token is taken or refused as a token reader takes or refuses it. -/
theorem follows_take (expected : List Expected) (accept : Token → Option α) :
    Follows source tokens ((tokens.tape source).take expected accept) (next expected accept) := by
  refine ⟨fun {c ts} stands => ?_⟩
  have looked : ((tokens.tape source).take expected accept).run c = _ :=
    Machine.run_bind_of_done (run_peek stands)
  cases ts with
  | nil => exact looked
  | cons t ts =>
      cases accepted : accept t with
      | none =>
          simp only [List.head?_cons, Option.bind_some, accepted] at looked
          simp only [next, accepted]
          exact looked
      | some a =>
          simp only [List.head?_cons, Option.bind_some, accepted] at looked
          simp only [next, accepted]
          exact ⟨c.next, looked.trans (Machine.run_bind_of_done (run_advance stands)),
            reaches_next stands⟩

/-- A wanted token that is ahead is passed. -/
theorem run_eat_of_head {wanted : Token} (stands : StandsBefore tokens c (wanted :: ts)) :
    ((tokens.tape source).eat wanted).run c = .done (true, c.next) := by
  rw [eat, Machine.run_bind_of_done (run_peek stands), if_pos (by simp)]
  exact Machine.run_bind_of_done (run_advance stands)

/-- Where the wanted token is not ahead the cursor stays. -/
theorem run_eat_of_ne {wanted : Token} (stands : StandsBefore tokens c ts)
    (ne : ts.head? ≠ some wanted) :
    ((tokens.tape source).eat wanted).run c = .done (false, c) := by
  rw [eat, Machine.run_bind_of_done (run_peek stands), if_neg ne]
  rfl

/-- A token that may be there is passed as a token reader skips it. -/
theorem follows_eat (wanted : Token) :
    Follows source tokens ((tokens.tape source).eat wanted) (skipIf wanted) := by
  refine ⟨fun {c ts} stands => ?_⟩
  cases ts with
  | nil => exact ⟨c, run_eat_of_ne stands (by simp), .refl stands⟩
  | cons t ts =>
      by_cases same : t = wanted
      · subst same
        simp only [skipIf, if_true]
        exact ⟨c.next, run_eat_of_head stands, reaches_next stands⟩
      · simp only [skipIf, same, if_false]
        exact ⟨c, run_eat_of_ne stands (by simpa using same), .refl stands⟩

/-- A token that has to be there is demanded as a token reader does it. -/
theorem follows_demand (wanted : Token) (expected : Expected) :
    Follows source tokens ((tokens.tape source).demand wanted expected)
      (next [expected] fun t => if t = wanted then some () else none) := by
  refine ⟨fun {c ts} stands => ?_⟩
  by_cases head : ts.head? = some wanted
  · obtain ⟨ts, rfl⟩ := List.head?_eq_some_iff.mp head
    simp only [next, if_true]
    exact ⟨c.next, Machine.run_bind_of_done (run_eat_of_head stands), reaches_next stands⟩
  · have refused : ((tokens.tape source).demand wanted expected).run c = _ :=
      (Machine.run_bind_of_done (run_eat_of_ne stands head)).trans
        (Machine.run_bind_of_done (run_peek stands))
    cases ts with
    | nil => exact refused
    | cons t ts =>
        simp only [next, show t ≠ wanted by simpa using head, if_false]
        exact refused

theorem follows_symbol (s : Symbol) :
    Follows source tokens ((tokens.tape source).symbol s) (TokenReader.symbol s) :=
  follows_demand _ _

theorem follows_keyword (word : String) :
    Follows source tokens ((tokens.tape source).keyword word) (TokenReader.keyword word) :=
  follows_demand _ _

theorem follows_name (role : String) :
    Follows source tokens ((tokens.tape source).name role) (TokenReader.name role) :=
  follows_take _ _

/-- A reading with a semicolon after it follows a token reader with one. -/
theorem Follows.ended {m : TapeReader α} {p : TokenReader α} (follows : Follows source tokens m p) :
    Follows source tokens ((tokens.tape source).ended m) (Mapping.ended p) :=
  follows.bind fun a => (follows_symbol _).bind fun _ => follows_pure a

/-! ## Loops -/

/-- A round after which another one follows spends fuel; a token that was taken in it pays for
that. -/
theorem exists_run_loop_eq {round : σ → TapeReader (Machine.Round σ α)} {s s' : σ}
    (stands : StandsBefore tokens c (t :: ts)) (ran : (round s).run c = .done (.again s', c'))
    (reaches : Reaches tokens c.next rest c') :
    ∃ c'', (Machine.loop round s).run c = (Machine.loop round s').run c'' ∧
      Reaches tokens c rest c'' := by
  have total := stands.length
  have left := reaches.before.length
  have fuel := stands.fuel
  have forward : c.pos + 1 ≤ c'.pos := reaches.forward
  have spent : c.fuel + (c.pos + 1) ≤ c'.fuel + c'.pos := reaches.spent
  rw [List.length_cons] at total fuel
  obtain ⟨fuel', fuelled⟩ : ∃ fuel', c'.fuel = fuel' + 1 := Nat.exists_eq_add_one.mpr (by omega)
  refine ⟨_, Machine.run_loop_of_again ran forward fuelled,
    ⟨reaches.before.ahead, reaches.before.inside, ?_⟩, Nat.le_of_succ_le forward, ?_⟩
  · change rest.length ≤ fuel'
    omega
  · change c.fuel + c.pos ≤ fuel' + c'.pos
    omega

/-- **A loop follows a repetition** and what comes after it, if a round that goes on takes one token
by itself and then ends as the entry that begins with it, and a round that leaves does what comes
after the repetition. -/
theorem follows_loop {round : σ → TapeReader (Machine.Round σ β)}
    {entry : σ → Token → Option (TokenReader σ)} {after : σ → TokenReader β}
    (goes : ∀ {s c t ts p}, StandsBefore tokens c (t :: ts) → entry s t = some p →
      ∃ m, (round s).run c = m.run c.next ∧
        EndsAs source tokens m c.next ((Machine.Round.again <$> p).run ts))
    (leaves : ∀ {s c ts}, StandsBefore tokens c ts → (∀ t, ts.head? = some t → entry s t = none) →
      EndsAs source tokens (round s) c ((Machine.Round.leave <$> after s).run ts)) (s : σ) :
    Follows source tokens (.loop round s) (many entry s >>= after) := by
  -- The loop is left alike at the end of the tokens and before a token that no entry takes.
  have left {s c ts} (stands : StandsBefore tokens c ts)
      (none : ∀ t, ts.head? = some t → entry s t = none) :
      EndsAs source tokens (.loop round s) c ((after s).run ts) := by
    have ends := leaves stands none
    cases read : (after s).run ts with
    | error f =>
        rw [run_map_of_error read] at ends
        exact Machine.run_loop_of_failed ends
    | ok r =>
        obtain ⟨b, rest⟩ := r
        rw [run_map_of_ok read] at ends
        obtain ⟨c', ran, reaches⟩ := ends
        exact ⟨c', Machine.run_loop_of_leave ran, reaches⟩
  refine ⟨fun {c ts} stands => ?_⟩
  fun_induction manyFrom entry s ts generalizing c with
  | case1 s =>
      rw [run_bind_of_ok (manyFrom_nil entry s)]
      exact left stands (by simp)
  | case2 s t ts none =>
      rw [run_bind_of_ok (manyFrom_cons_of_none none ts)]
      exact left stands (by simpa using none)
  | case3 s t ts p some e failed =>
      obtain ⟨m, same, ends⟩ := goes stands some
      rw [run_map_of_error failed] at ends
      rw [run_bind_of_error (manyFrom_cons_of_error some failed)]
      exact Machine.run_loop_of_failed (same.trans ends)
  | case4 s t ts p some s' rest read ih =>
      obtain ⟨m, same, ends⟩ := goes stands some
      rw [run_map_of_ok read] at ends
      obtain ⟨c', ran, reaches⟩ := ends
      obtain ⟨c'', again, spent⟩ := exists_run_loop_eq stands (same.trans ran) reaches
      have onward : (many entry s >>= after).run (t :: ts) =
          (many entry s' >>= after).run rest := by
        have run := manyFrom_cons_of_some some read
        change TokenReader.run (TokenReader.bind _ _) _ = TokenReader.run (TokenReader.bind _ _) _
        simp only [TokenReader.bind, many, run]
      rw [onward]
      exact endsAs_of_run_eq again spent (ih spent.before)

/-- A loop that leaves where no entry begins follows a repetition. -/
theorem follows_many {round : σ → TapeReader (Machine.Round σ σ)}
    {entry : σ → Token → Option (TokenReader σ)}
    (goes : ∀ {s c t ts p}, StandsBefore tokens c (t :: ts) → entry s t = some p →
      ∃ m, (round s).run c = m.run c.next ∧
        EndsAs source tokens m c.next ((Machine.Round.again <$> p).run ts))
    (leaves : ∀ {s c ts}, StandsBefore tokens c ts → (∀ t, ts.head? = some t → entry s t = none) →
      (round s).run c = .done (.leave s, c)) (s : σ) :
    Follows source tokens (.loop round s) (many entry s) := by
  rw [← bind_pure (many entry s)]
  refine follows_loop @goes (fun {s c ts} stands none => ?_) s
  exact ⟨c, leaves stands none, .refl stands⟩

/-- A path is read segment by segment, with a round for each dot. -/
theorem follows_path (role : String) :
    Follows source tokens ((tokens.tape source).path role) (TokenReader.path role) := by
  refine (follows_name role).bind fun first => follows_many (fun {s c t ts p} stands some => ?_)
    (fun {s c ts} stands none => ?_) first
  · rw [Option.ite_none_right_eq_some] at some
    obtain ⟨rfl, same⟩ := some
    obtain rfl := Option.some.inj same
    refine ⟨_, Machine.run_bind_of_done (run_eat_of_head stands), ?_⟩
    rw [Functor.map_map]
    exact endsAs_map ((follows_name role).ends stands.next) _
  · have ne : ts.head? ≠ Option.some (.symbol .dot) := fun head => by simpa using none _ head
    rw [segmentRound, Machine.run_bind_of_done (run_eat_of_ne stands ne)]
    rfl

/-! ## Blocks -/

/-- Whether an entry of a block is read as a token reader reads the entries that certain tokens
begin: it takes such a token by itself, and where another one stands but the closing brace, it
refuses the text there. -/
structure ReadsEntry (source : String) (tokens : Tokens) (read : σ → TapeReader σ)
    (entry : σ → Token → Option (TokenReader σ)) (listed : List Expected) : Prop where
  goes : ∀ {s c t ts p}, StandsBefore tokens c (t :: ts) → entry s t = some p →
    ∃ m, (read s).run c = m.run c.next ∧ EndsAs source tokens m c.next (p.run ts)
  refuses : ∀ {s c ts}, StandsBefore tokens c ts → (∀ t, ts.head? = some t → entry s t = none) →
    (read s).run c =
      .failed ⟨source, tokens.locate ts, .unexpected ts.head? (listed ++ [.symbol .rightBrace])⟩
  brace : ∀ s, entry s (.symbol .rightBrace) = none

/-- Without the brace at the head, a block that should end is refused there. -/
theorem run_closingBrace_of_ne {listed : List Expected}
    (ne : ts.head? ≠ some (.symbol .rightBrace)) :
    (closingBrace listed).run ts =
      .error ⟨ts, .unexpected ts.head? (listed ++ [.symbol .rightBrace])⟩ := by
  cases ts with
  | nil => rfl
  | cons t ts => simp [closingBrace, next, show t ≠ .symbol .rightBrace by simpa using ne]

section Blocks

variable {read : σ → TapeReader σ} {entry : σ → Token → Option (TokenReader σ)}
  {listed : List Expected}

/-- No entry begins with the brace that ends its block. -/
theorem ReadsEntry.head?_ne (reads : ReadsEntry source tokens read entry listed) {s : σ}
    {p : TokenReader σ} (chosen : entry s t = some p) :
    (t :: ts).head? ≠ some (.symbol .rightBrace) := by
  intro head
  obtain rfl := Option.some.inj head
  cases (reads.brace s).symm.trans chosen

/-- A block follows the repetition of its entries and the closing brace. -/
theorem ReadsEntry.follows_block (reads : ReadsEntry source tokens read entry listed) (s : σ) :
    Follows source tokens ((tokens.tape source).block read s)
      (many entry s >>= fun s => closingBrace listed >>= fun _ => pure s) := by
  refine follows_loop (fun {s c t ts p} stands chosen => ?_) (fun {s c ts} stands none => ?_) s
  · obtain ⟨m, same, ends⟩ := reads.goes stands chosen
    exact ⟨_, (Machine.run_bind_of_done (run_eat_of_ne stands (reads.head?_ne chosen))).trans
      (Machine.run_bind_congr same _), endsAs_map ends _⟩
  · by_cases head : ts.head? = some (.symbol .rightBrace)
    · obtain ⟨ts, rfl⟩ := List.head?_eq_some_iff.mp head
      have closed : (closingBrace listed).run (.symbol .rightBrace :: ts) = .ok ((), ts) :=
        run_closingBrace_eq_ok_iff.mpr rfl
      rw [run_map_of_ok (a := s) ((run_bind_of_ok closed).trans rfl)]
      exact ⟨c.next, Machine.run_bind_of_done (run_eat_of_head stands), reaches_next stands⟩
    · rw [run_map_of_error (run_bind_of_error (run_closingBrace_of_ne head))]
      exact (Machine.run_bind_of_done (run_eat_of_ne stands head)).trans
        (Machine.run_bind_of_failed (reads.refuses stands none))

/-- A block and what follows it, such as the semicolon that may stand there. -/
theorem ReadsEntry.follows_block_bind (reads : ReadsEntry source tokens read entry listed) (s : σ)
    {f : σ → TapeReader α} {g : σ → TokenReader α}
    (further : ∀ s, Follows source tokens (f s) (g s)) :
    Follows source tokens ((tokens.tape source).block read s >>= f)
      (many entry s >>= fun s => closingBrace listed >>= fun _ => g s) := by
  have whole := (reads.follows_block s).bind further
  simpa only [bind_assoc, pure_bind] using whole

end Blocks

end Tape

end Crossmap.Mapping
