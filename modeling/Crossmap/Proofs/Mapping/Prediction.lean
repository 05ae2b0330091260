import Crossmap.Proofs.Mapping.ClauseReading
import Crossmap.Proofs.Mapping.Lookahead
import Crossmap.Proofs.Mapping.Spelling

/-! # Readers predict what they can go on with

`Foretold` says of a failure that the tokens before it begin something that can be read, and that
each of the tokens that it lists could follow them there. `Predicts p derives` says that a reader
takes what a relation derives and that all its failures are foretold. It is proved of a reader step
by step (`Predicts.bind`), in the order in which the reader takes its tokens.
-/

namespace Crossmap.Mapping

open TokenReader

variable {α β σ ι : Type} {ts rest before read : List Token} {f : Failure}

/-! ## Continuations -/

/-- Whether tokens begin a sequence of a language. -/
def Viable (language : List Token → Prop) (ts : List Token) : Prop :=
  ∃ more, Lexical more ∧ language (ts ++ more)

/-- Whether there are tokens of a description, and tokens begin a sequence of a language that goes
on with any of them. -/
def Admits (language : List Token → Prop) (ts : List Token) (x : Expected) : Prop :=
  (∃ u, u.IsLexical ∧ x.accepts u = true) ∧ ∀ u, x.accepts u = true → Viable language (ts ++ [u])

/-- Whether the tokens up to a failure begin a sequence of a language, one that goes on with any
token listed there, but for those that are excused. -/
def Foretold (excused : List Token → Expected → Prop) (language : List Token → Prop)
    (ts : List Token) (f : Failure) : Prop :=
  ∃ read, ts = read ++ f.ahead ∧ f.reason.expected ≠ [] ∧ Viable language read ∧
    ∀ x ∈ f.reason.expected, excused read x ∨ Admits language read x

section Languages

variable {language language' : List Token → Prop} {excused excused' : List Token → Expected → Prop}

/-- What begins a sequence of one language begins one of another behind the tokens that lead there.
-/
theorem Viable.lift (viable : Viable language ts)
    (extends' : ∀ {us}, language us → Viable language' (before ++ us)) :
    Viable language' (before ++ ts) := by
  obtain ⟨more, lexical, inLanguage⟩ := viable
  obtain ⟨more', lexical', inLanguage'⟩ := extends' inLanguage
  refine ⟨more ++ more', lexical_append.mpr ⟨lexical, lexical'⟩, ?_⟩
  simpa only [List.append_assoc] using inLanguage'

/-- A failure that is foretold in a part is foretold in the whole. -/
theorem Foretold.lift (told : Foretold excused language ts f)
    (excuses : ∀ {us x}, excused us x → excused' (before ++ us) x)
    (extends' : ∀ {us}, language us → Viable language' (before ++ us)) :
    Foretold excused' language' (before ++ ts) f := by
  obtain ⟨read, rfl, listed, viable, admits⟩ := told
  refine ⟨before ++ read, (List.append_assoc ..).symm, listed, viable.lift extends',
    fun x member => ?_⟩
  rcases admits x member with excuse | ⟨fits, admits⟩
  · exact .inl (excuses excuse)
  · refine .inr ⟨fits, fun u accepted => ?_⟩
    rw [List.append_assoc]
    exact (admits u accepted).lift extends'

/-- A failure is foretold in a language whose sequences begin with those of the first. -/
theorem Foretold.extend (told : Foretold excused language ts f)
    (extends' : ∀ {us}, language us → Viable language' us) : Foretold excused language' ts f := by
  rw [← List.nil_append ts]
  exact told.lift id extends'

/-- A token that is not accepted is the unexpected one. -/
theorem eq_of_run_next_eq_error {expected : List Expected} {accept : Token → Option α}
    (failed : (next expected accept).run ts = .error f) :
    f = ⟨ts, .unexpected ts.head? expected⟩ := by
  cases ts with
  | nil =>
      cases failed
      rfl
  | cons t ts =>
      cases accepted : accept t with
      | some a => simp [next, accepted] at failed
      | none =>
          simp only [next, accepted, Except.error.injEq] at failed
          exact failed.symm

/-- A token is refused where it is foretold which tokens are not. -/
theorem foretold_next {expected : List Expected} {accept : Token → Option α}
    (failed : (next expected accept).run ts = .error f) (listed : expected ≠ [])
    (viable : Viable language []) (admits : ∀ x ∈ expected, excused [] x ∨ Admits language [] x) :
    Foretold excused language ts f := by
  rw [eq_of_run_next_eq_error failed]
  exact ⟨[], rfl, listed, viable, admits⟩

end Languages

/-! ## Readers one after another -/

/-- Whether a reader looks one token ahead, takes what a relation derives, and fails as foretold. -/
structure Predicts (p : TokenReader α) (derives : List Token → α → Prop) : Prop where
  agrees : Agree p p
  possible : Viable (fun ts => ∃ a, derives ts a) []
  taken : ∀ {ts a rest}, p.run ts = .ok (a, rest) → ∃ read, ts = read ++ rest ∧ derives read a
  foretold : ∀ {ts f}, p.run ts = .error f →
    Foretold (fun _ _ => False) (fun ts => ∃ a, derives ts a) ts f

namespace Predicts

variable {p : TokenReader α} {g : α → TokenReader β} {first : List Token → α → Prop}
  {derives : List Token → β → Prop}

/-- What a reader can still take completes what has been derived before. -/
theorem completes {q : TokenReader β} (predicts : Predicts q fun us b => derives (before ++ us) b) :
    Viable (fun ts => ∃ b, derives ts b) before := by
  obtain ⟨more, lexical, b, derived⟩ := predicts.possible
  exact ⟨more, lexical, b, derived⟩

/-- A reader that takes nothing predicts what is derived from nothing. -/
theorem pure {b : β} (derived : derives [] b) : Predicts (Pure.pure b) derives where
  agrees := agree_pure b
  possible := ⟨[], lexical_nil, b, derived⟩
  taken read := by
    obtain ⟨rfl, rfl⟩ := run_pure_eq_ok_iff.mp read
    exact ⟨[], rfl, derived⟩
  foretold failed := by cases failed

/-- A reader followed by others predicts what is derived from the tokens of both, if each of the
others does so behind what the first one has taken. -/
theorem bind (leads : Predicts p first)
    (follows : ∀ {read a}, first read a → Predicts (g a) fun us b => derives (read ++ us) b) :
    Predicts (p >>= g) derives where
  agrees := by
    refine agree_bind leads.agrees fun read => ?_
    obtain ⟨_, -, derived⟩ := leads.taken read
    exact (follows derived).agrees
  possible := by
    obtain ⟨start, lexical, a, derived⟩ := leads.possible
    obtain ⟨more, lexical', derived'⟩ := (follows derived).completes
    exact ⟨start ++ more, lexical_append.mpr ⟨lexical, lexical'⟩, derived'⟩
  taken done := by
    obtain ⟨a, between, read, further⟩ := run_bind_eq_ok_iff.mp done
    obtain ⟨start, rfl, derived⟩ := leads.taken read
    obtain ⟨more, rfl, derived'⟩ := (follows derived).taken further
    exact ⟨start ++ more, (List.append_assoc ..).symm, derived'⟩
  foretold stopped := by
    rcases run_bind_eq_error_iff.mp stopped with failed | ⟨a, between, read, failed⟩
    · refine (leads.foretold failed).extend ?_
      rintro us ⟨a, derived⟩
      exact (follows derived).completes
    · obtain ⟨start, rfl, derived⟩ := leads.taken read
      refine ((follows derived).foretold failed).lift False.elim ?_
      exact fun derived' => ⟨[], lexical_nil, by simpa only [List.append_nil] using derived'⟩

/-- A reader predicts whatever follows from what it is known to predict. -/
theorem mono {p : TokenReader β} {first : List Token → β → Prop} (leads : Predicts p first)
    (gives : ∀ {us b}, first us b → derives us b) : Predicts p derives where
  agrees := leads.agrees
  possible := by
    obtain ⟨more, lexical, b, derived⟩ := leads.possible
    exact ⟨more, lexical, b, gives derived⟩
  taken read := by
    obtain ⟨us, rfl, derived⟩ := leads.taken read
    exact ⟨us, rfl, gives derived⟩
  foretold failed := by
    refine (leads.foretold failed).extend ?_
    rintro us ⟨b, derived⟩
    exact ⟨[], lexical_nil, b, by simpa only [List.append_nil] using gives derived⟩

/-- A reader predicts what is derived of the values that are made of its own. -/
theorem map {g : α → β} (leads : Predicts p first)
    (gives : ∀ {read a}, first read a → derives read (g a)) : Predicts (g <$> p) derives :=
  leads.bind fun derived => .pure (by simpa only [List.append_nil] using gives derived)

end Predicts

/-! ## Single tokens -/

@[simp] theorem accepts_symbol_iff {s : Symbol} {t : Token} :
    (Expected.symbol s).accepts t = true ↔ t = .symbol s := by
  unfold Expected.accepts
  exact beq_iff_eq

/-- A keyword is described by the name that it is. -/
@[simp] theorem accepts_keyword_iff {word : String} {t : Token} :
    (Expected.keyword word).accepts t = true ↔ t = .name word := by
  unfold Expected.accepts
  exact beq_iff_eq

/-- Any name fits the description of one, whatever its role. -/
@[simp] theorem accepts_name_iff {role : String} {t : Token} :
    (Expected.name role).accepts t = true ↔ ∃ s, t = .name s := by
  cases t <;> simp [Expected.accepts]

theorem lexical_singleton {t : Token} : Lexical [t] ↔ t.IsLexical := by
  rw [lexical_cons, and_iff_left lexical_nil]

/-- There is a name for every role. -/
theorem exists_name (role : String) : ∃ u, u.IsLexical ∧ (Expected.name role).accepts u = true :=
  have lexical : isName "x".toList = true := by decide
  ⟨.name "x", lexical, rfl⟩

/-- There is a token for every keyword that is a name. -/
theorem exists_keyword {word : String} (lexical : isName word.toList = true) :
    ∃ u, u.IsLexical ∧ (Expected.keyword word).accepts u = true :=
  ⟨.name word, lexical, accepts_keyword_iff.mpr rfl⟩

/-- A reader of one token predicts it if it accepts all tokens that it lists. -/
theorem predicts_next {expected : List Expected} {accept : Token → Option α}
    {derives : List Token → α → Prop} (listed : expected ≠ [])
    (possible : ∀ x ∈ expected, ∃ u, u.IsLexical ∧ x.accepts u = true)
    (accepts : ∀ x ∈ expected, ∀ u, x.accepts u = true → ∃ a, accept u = some a)
    (derived : ∀ {t a}, accept t = some a → derives [t] a) :
    Predicts (next expected accept) derives := by
  have viable : Viable (fun ts => ∃ a, derives ts a) [] := by
    obtain ⟨x, others, rfl⟩ := List.exists_cons_of_ne_nil listed
    obtain ⟨u, lexical, fits⟩ := possible x List.mem_cons_self
    obtain ⟨a, accepted⟩ := accepts x List.mem_cons_self u fits
    exact ⟨[u], lexical_singleton.mpr lexical, a, derived accepted⟩
  refine ⟨agree_next expected accept, viable, fun read => ?_, fun failed => ?_⟩
  · obtain ⟨t, rfl, accepted⟩ := run_next_eq_ok_iff.mp read
    exact ⟨[t], rfl, derived accepted⟩
  · refine foretold_next failed listed viable fun x member =>
      .inr ⟨possible x member, fun u fits => ?_⟩
    obtain ⟨a, accepted⟩ := accepts x member u fits
    exact ⟨[], lexical_nil, a, derived accepted⟩

/-- A reader of one certain token predicts it. -/
theorem predicts_certain {x : Expected} {wanted : Token}
    (accepts : ∀ {u}, x.accepts u = true ↔ u = wanted) (lexical : wanted.IsLexical) :
    Predicts (next [x] fun t => if t = wanted then some () else none)
      fun ts _ => ts = [wanted] := by
  refine predicts_next (List.cons_ne_nil _ _)
    (List.forall_mem_singleton.mpr ⟨wanted, lexical, accepts.mpr rfl⟩)
    (List.forall_mem_singleton.mpr fun u fits => ⟨(), if_pos (accepts.mp fits)⟩) ?_
  intro t _ accepted
  rw [Option.ite_none_right_eq_some] at accepted
  rw [accepted.1]

theorem predicts_symbol (s : Symbol) : Predicts (symbol s) fun ts _ => ts = [.symbol s] :=
  predicts_certain accepts_symbol_iff trivial

theorem predicts_keyword {word : String} (lexical : isName word.toList = true) :
    Predicts (keyword word) fun ts _ => ts = [.name word] :=
  predicts_certain accepts_keyword_iff lexical

/-- A name of a token. -/
theorem predicts_name (role : String) : Predicts (name role) fun ts s => ts = [.name s] := by
  refine predicts_next (List.cons_ne_nil _ _) (List.forall_mem_singleton.mpr (exists_name role))
    (List.forall_mem_singleton.mpr fun u fits => ?_) fun {t s} accepted => ?_
  · obtain ⟨s, rfl⟩ := accepts_name_iff.mp fits
    exact ⟨s, rfl⟩
  · cases t <;> cases accepted
    rfl

/-- A token that may be left out never stops a reader. -/
theorem predicts_skipIf {wanted : Token} :
    Predicts (skipIf wanted) fun ts found => ts = if found = true then [wanted] else [] where
  agrees := agree_skipIf wanted
  possible := ⟨[], lexical_nil, false, rfl⟩
  taken read := by
    rcases run_skipIf_eq_ok_iff.mp read with ⟨rfl, rfl⟩ | ⟨rfl, rfl, -⟩
    · exact ⟨[wanted], rfl, rfl⟩
    · exact ⟨[], rfl, rfl⟩
  foretold {ts f} failed := by
    cases ts with
    | nil => cases failed
    | cons t ts =>
        rw [skipIf] at failed
        simp only at failed
        split at failed <;> cases failed

namespace Predicts

variable {derives : List Token → β → Prop}

/-- A symbol in front leaves its token to what follows. -/
theorem symbol {s : Symbol} {g : Unit → TokenReader β}
    (follows : Predicts (g ()) fun us b => derives (.symbol s :: us) b) :
    Predicts (TokenReader.symbol s >>= g) derives :=
  (predicts_symbol s).bind fun same => by
    subst same
    exact follows

/-- A keyword in front leaves its token to what follows. -/
theorem keyword {word : String} {g : Unit → TokenReader β} (lexical : isName word.toList = true)
    (follows : Predicts (g ()) fun us b => derives (.name word :: us) b) :
    Predicts (TokenReader.keyword word >>= g) derives :=
  (predicts_keyword lexical).bind fun same => by
    subst same
    exact follows

/-- A name in front leaves its token to what follows. -/
theorem name {role : String} {g : String → TokenReader β}
    (follows : ∀ s, Predicts (g s) fun us b => derives (.name s :: us) b) :
    Predicts (TokenReader.name role >>= g) derives :=
  (predicts_name role).bind fun {_ s} same => by
    subst same
    exact follows s

/-- A token that may be left out is taken or not. -/
theorem skipIf {wanted : Token} {g : Bool → TokenReader β}
    (present : Predicts (g true) fun us b => derives (wanted :: us) b)
    (absent : Predicts (g false) derives) : Predicts (TokenReader.skipIf wanted >>= g) derives :=
  predicts_skipIf.bind fun {_ found} same => by
    subst same
    cases found with
    | true => exact present
    | false => exact absent

/-- The semicolon that may follow a block. -/
theorem stop {g : Bool → TokenReader β}
    (follows : ∀ found {stop}, DerivesStop stop → Predicts (g found)
      fun us b => derives (stop ++ us) b) :
    Predicts (TokenReader.skipIf (.symbol .semicolon) >>= g) derives :=
  skipIf (follows true .present) (follows false .absent)

/-- A reader and the semicolon after it. -/
theorem ended {p : TokenReader β} {first : List Token → β → Prop} (leads : Predicts p first)
    (gives : ∀ {us b}, first us b → derives (us ++ [.symbol .semicolon]) b) :
    Predicts (Mapping.ended p) derives :=
  leads.bind fun derived => .symbol (.pure (gives derived))

/-- With a semicolon behind it, a reader predicts what is derived with one. -/
theorem ended_map {p : TokenReader α} {first : List Token → α → Prop} {g : α → β}
    (leads : Predicts p first)
    (gives : ∀ {us a}, first us a → derives (us ++ [.symbol .semicolon]) (g a)) :
    Predicts (Mapping.ended (g <$> p)) derives := by
  have mapped : Predicts (g <$> p) fun us b => derives (us ++ [.symbol .semicolon]) b :=
    leads.map gives
  exact mapped.ended id

end Predicts

/-! ## Loops -/

/-- Where a loop fails, it has read entries and fails at a further one. -/
theorem TokenReader.ReadsEntries.exists_of_error {entry : σ → Token → Option (TokenReader σ)}
    {item : List Token → ι → Prop} {step : σ → ι → Option σ} {s : σ}
    (reads : ReadsEntries entry item step) (failed : (many entry s).run ts = .error f) :
    ∃ taken items s' t rest p, Repeated item taken items ∧ items.foldlM step s = some s' ∧
      ts = taken ++ t :: rest ∧ entry s' t = some p ∧ p.run rest = .error f := by
  change manyFrom entry s ts = _ at failed
  fun_induction manyFrom entry s ts with
  | case1 => cases failed
  | case2 => cases failed
  | case3 s t ts p some e first =>
      obtain rfl := Except.error.inj failed
      exact ⟨[], [], s, t, ts, p, .nil, rfl, rfl, some, first⟩
  | case4 s t ts p some s' between first ih =>
      obtain ⟨taken, items, s'', u, rest, q, derived, steps, rfl, some', failed⟩ := ih failed
      obtain ⟨start, i, derived', rfl, stepped⟩ := reads.sound some first
      refine ⟨t :: start ++ taken, i :: items, s'', u, rest, q, .cons derived' derived, ?_, ?_,
        some', failed⟩
      · rw [List.foldlM_cons, stepped]
        exact steps
      · rw [List.append_assoc]
        rfl

section Loops

variable {entry : σ → Token → Option (TokenReader σ)} {item : List Token → ι → Prop}
  {add : σ → ι → σ} {s : σ}

/-- A loop whose entries predict what is derived of them predicts their repetition. -/
theorem predicts_many (reads : ReadsEntries entry item fun s i => some (add s i))
    (each : ∀ {s t p}, entry s t = some p →
      Predicts p fun us s' => ∃ i, item (t :: us) i ∧ s' = add s i) (s : σ) :
    Predicts (many entry s) fun us s' =>
      ∃ items, Repeated item us items ∧ s' = items.foldl add s where
  agrees := agree_many (fun some => (each some).agrees) s
  possible := ⟨[], lexical_nil, s, [], .nil, rfl⟩
  taken read := by
    obtain ⟨taken, items, derived, rfl, steps⟩ := reads.repeated_of_run read
    rw [foldlM_some, Option.some.injEq] at steps
    exact ⟨taken, rfl, items, derived, steps.symm⟩
  foretold failed := by
    obtain ⟨taken, items, s', t, rest, p, derived, -, rfl, some, failed⟩ :=
      reads.exists_of_error failed
    rw [List.append_cons]
    refine ((each some).foretold failed).lift id ?_
    rintro us ⟨_, i, last, -⟩
    refine ⟨[], lexical_nil, _, items ++ [i], ?_, rfl⟩
    rw [List.append_nil, ← List.append_cons]
    exact derived.concat last

/-- A closing brace is predicted where everything that is listed in its place can stand there. -/
theorem Predicts.closingBrace {expected : List Expected} {g : Unit → TokenReader β}
    {derives : List Token → β → Prop}
    (closes : Predicts (g ()) fun us b => derives (.symbol .rightBrace :: us) b)
    (admits : ∀ x ∈ expected, Admits (fun ts => ∃ b, derives ts b) [] x) :
    Predicts (Mapping.closingBrace expected >>= g) derives := by
  obtain ⟨more, lexical, b, derived⟩ := closes.possible
  have viable : Viable (fun ts => ∃ b, derives ts b) [.symbol .rightBrace] :=
    ⟨more, lexical, b, derived⟩
  have possible : Viable (fun ts => ∃ b, derives ts b) [] :=
    ⟨.symbol .rightBrace :: more, lexical_cons.mpr ⟨trivial, lexical⟩, b, derived⟩
  refine ⟨agree_bind (agree_next _ _) fun _ => closes.agrees, possible, fun done => ?_,
    fun stopped => ?_⟩
  · obtain ⟨⟨⟩, _, brace, further⟩ := run_bind_eq_ok_iff.mp done
    obtain rfl := run_closingBrace_eq_ok_iff.mp brace
    obtain ⟨read, rfl, derived⟩ := closes.taken further
    exact ⟨_ :: read, rfl, derived⟩
  · rcases run_bind_eq_error_iff.mp stopped with failed | ⟨⟨⟩, _, brace, failed⟩
    · refine foretold_next failed (by simp) possible fun x member => .inr ?_
      rcases List.mem_append.mp member with listed | isBrace
      · exact admits x listed
      · obtain rfl := List.mem_singleton.mp isBrace
        refine ⟨⟨.symbol .rightBrace, trivial, accepts_symbol_iff.mpr rfl⟩, fun u fits => ?_⟩
        obtain rfl := accepts_symbol_iff.mp fits
        exact viable
    · obtain rfl := run_closingBrace_eq_ok_iff.mp brace
      rw [← List.singleton_append]
      exact (closes.foretold failed).lift id fun derived => ⟨[], lexical_nil, by simpa using derived⟩

/-- The entries of a block and its closing brace are predicted if each token that is listed in the
place of the brace begins an entry. -/
theorem Predicts.block {expected : List Expected} {g : σ → TokenReader β}
    {derives : List Token → β → Prop} (reads : ReadsEntries entry item fun s i => some (add s i))
    (each : ∀ {s t p}, entry s t = some p →
      Predicts p fun us s' => ∃ i, item (t :: us) i ∧ s' = add s i)
    (begins : ∀ x ∈ expected, (∃ u, u.IsLexical ∧ x.accepts u = true) ∧
      ∀ u, x.accepts u = true → ∃ us i, Lexical us ∧ item (u :: us) i)
    (follows : ∀ {taken items}, Repeated item taken items → Predicts (g (items.foldl add s))
      fun us b => derives (taken ++ .symbol .rightBrace :: us) b) :
    Predicts (many entry s >>= fun s' => Mapping.closingBrace expected >>= fun _ => g s')
      derives := by
  refine (predicts_many reads each s).bind ?_
  rintro taken _ ⟨items, derived, rfl⟩
  refine .closingBrace (follows derived) fun x member => ⟨(begins x member).1, fun u fits => ?_⟩
  obtain ⟨us, i, lexical, last⟩ := (begins x member).2 u fits
  obtain ⟨more, lexical', b, derived'⟩ := (follows (derived.concat last)).possible
  refine ⟨us ++ .symbol .rightBrace :: more, ?_, b, ?_⟩
  · exact lexical_append.mpr ⟨lexical, lexical_cons.mpr ⟨trivial, lexical'⟩⟩
  · simpa using derived'

end Loops

end Crossmap.Mapping
