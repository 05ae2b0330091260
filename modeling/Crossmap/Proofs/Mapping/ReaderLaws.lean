import Crossmap.Proofs.Mapping.Derivation

/-! # When token readers succeed

One law for every way to build a `TokenReader`: it says which tokens the reader takes and what it
gives for them. `ReadsEntries` says of the entries of a loop that they are read as a relation
derives them; the loop then reads what is derived by repeating the relation
(`ReadsEntries.repeated_of_run`, `ReadsEntries.run_of_repeated`).
-/

namespace Crossmap.Mapping

namespace TokenReader

variable {α β σ ι : Type} {ts rest : List Token}

/-! ## Single readers -/

@[simp] theorem run_pure_eq_ok_iff {a b : α} :
    (pure a : TokenReader α).run ts = .ok (b, rest) ↔ a = b ∧ ts = rest := by
  change Except.ok (a, ts) = .ok (b, rest) ↔ _
  rw [Except.ok.injEq, Prod.mk.injEq]

/-- Readers in sequence read what the first one takes and, behind it, what the second one takes. -/
@[simp] theorem run_bind_eq_ok_iff {p : TokenReader α} {f : α → TokenReader β} {b : β} :
    (p >>= f).run ts = .ok (b, rest) ↔
      ∃ a between, p.run ts = .ok (a, between) ∧ (f a).run between = .ok (b, rest) := by
  change (TokenReader.bind p f).run ts = _ ↔ _
  simp only [TokenReader.bind]
  cases read : p.run ts with
  | error e => simp
  | ok r =>
      obtain ⟨a, between⟩ := r
      simp only [Except.ok.injEq, Prod.mk.injEq]
      constructor
      · exact fun further => ⟨a, between, ⟨rfl, rfl⟩, further⟩
      · rintro ⟨_, _, ⟨rfl, rfl⟩, further⟩
        exact further

/-- The second of two readers starts where the first has ended. -/
theorem run_bind_of_ok {p : TokenReader α} {f : α → TokenReader β} {a : α}
    (read : p.run ts = .ok (a, rest)) : (p >>= f).run ts = (f a).run rest := by
  change (TokenReader.bind p f).run ts = _
  simp only [TokenReader.bind, read]

/-- Nothing is read after a failure. -/
theorem run_bind_of_error {p : TokenReader α} {f : α → TokenReader β} {e : Failure}
    (failed : p.run ts = .error e) : (p >>= f).run ts = .error e := by
  change (TokenReader.bind p f).run ts = _
  simp only [TokenReader.bind, failed]

/-- What is made of a value does not change what is taken. -/
@[simp] theorem run_map_eq_ok_iff {p : TokenReader α} {f : α → β} {b : β} :
    (f <$> p).run ts = .ok (b, rest) ↔ ∃ a, p.run ts = .ok (a, rest) ∧ f a = b := by
  change (p >>= fun a => pure (f a)).run ts = _ ↔ _
  simp only [run_bind_eq_ok_iff, run_pure_eq_ok_iff]
  constructor
  · rintro ⟨a, between, read, same, rfl⟩
    exact ⟨a, read, same⟩
  · rintro ⟨a, read, same⟩
    exact ⟨a, rest, read, same, rfl⟩

/-- Looking ahead gives the tokens and takes none. -/
@[simp] theorem run_ahead_eq_ok_iff {tokens : List Token} :
    ahead.run ts = .ok (tokens, rest) ↔ ts = tokens ∧ ts = rest := by
  rw [ahead, Except.ok.injEq, Prod.mk.injEq]

@[simp] theorem run_failAt_ne_ok {place : List Token} {reason : Reason} {a : α} :
    (failAt place reason : TokenReader α).run ts ≠ .ok (a, rest) :=
  nofun

/-- One token is taken, if it is accepted. -/
@[simp] theorem run_next_eq_ok_iff {expected : List Expected} {accept : Token → Option α} {a : α} :
    (next expected accept).run ts = .ok (a, rest) ↔ ∃ t, ts = t :: rest ∧ accept t = some a := by
  cases ts with
  | nil => simp [next]
  | cons t ts =>
      cases accepted : accept t with
      | none => simp [next, accepted]
      | some b => simp [next, accepted, and_comm]

/-- A wanted token is taken where it is, and else nothing is. -/
@[simp] theorem run_skipIf_eq_ok_iff {wanted : Token} {found : Bool} :
    (skipIf wanted).run ts = .ok (found, rest) ↔
      found = true ∧ ts = wanted :: rest ∨
        found = false ∧ ts = rest ∧ rest.head? ≠ some wanted := by
  cases ts with
  | nil => cases found <;> cases rest <;> simp [skipIf]
  | cons t ts =>
      by_cases same : t = wanted
      · cases found
        · simp only [skipIf, same, if_true, Except.ok.injEq, Prod.mk.injEq]
          refine iff_of_false (by simp) ?_
          rintro (⟨absurd, -⟩ | ⟨-, rfl, ne⟩)
          · cases absurd
          · exact ne rfl
        · simp [skipIf, same]
      · cases found
        · simp only [skipIf, same, if_false, Except.ok.injEq, Prod.mk.injEq]
          constructor
          · rintro ⟨-, rfl⟩
            exact .inr ⟨trivial, rfl, by simpa using same⟩
          · rintro (⟨absurd, -⟩ | ⟨-, rfl, -⟩)
            · cases absurd
            · exact ⟨trivial, rfl⟩
        · simp [skipIf, same]

/-- The end is read where no token is left. -/
@[simp] theorem run_finish_eq_ok_iff {expected : List Expected} {u : Unit} :
    (finish expected).run ts = .ok (u, rest) ↔ ts = [] ∧ rest = [] := by
  cases ts with
  | nil => simp [finish, eq_comm]
  | cons t ts => simp [finish]

@[simp] theorem run_symbol_eq_ok_iff {s : Symbol} {u : Unit} :
    (symbol s).run ts = .ok (u, rest) ↔ ts = .symbol s :: rest := by
  simp [symbol]

@[simp] theorem run_keyword_eq_ok_iff {word : String} {u : Unit} :
    (keyword word).run ts = .ok (u, rest) ↔ ts = .name word :: rest := by
  simp [keyword]

@[simp] theorem run_name_eq_ok_iff {role s : String} :
    (name role).run ts = .ok (s, rest) ↔ ts = .name s :: rest := by
  rw [name, run_next_eq_ok_iff]
  constructor
  · rintro ⟨t, rfl, accepted⟩
    cases t <;> simp at accepted
    rw [accepted]
  · rintro rfl
    exact ⟨_, rfl, rfl⟩

@[simp] theorem run_closingBrace_eq_ok_iff {entries : List Expected} {u : Unit} :
    (closingBrace entries).run ts = .ok (u, rest) ↔ ts = .symbol .rightBrace :: rest := by
  simp [closingBrace]

/-- What has to be ended is read with a semicolon behind it. -/
@[simp] theorem run_ended_eq_ok_iff {p : TokenReader α} {a : α} :
    (ended p).run ts = .ok (a, rest) ↔ p.run ts = .ok (a, .symbol .semicolon :: rest) := by
  simp [ended]

/-- A semicolon that may be left out is skipped, unless a second one stands behind it. -/
theorem run_skipIf_of_derivesStop {stop : List Token} (stops : DerivesStop stop)
    (next : rest.head? ≠ some (.symbol .semicolon)) :
    ∃ found, (skipIf (.symbol .semicolon)).run (stop ++ rest) = .ok (found, rest) := by
  cases stops with
  | absent => exact ⟨false, run_skipIf_eq_ok_iff.mpr (.inr ⟨rfl, rfl, next⟩)⟩
  | present => exact ⟨true, run_skipIf_eq_ok_iff.mpr (.inl ⟨rfl, rfl⟩)⟩

/-- What is skipped is a semicolon that may be left out. -/
theorem derivesStop_of_run_skipIf {found : Bool}
    (read : (skipIf (.symbol .semicolon)).run ts = .ok (found, rest)) :
    ∃ stop, DerivesStop stop ∧ ts = stop ++ rest := by
  rcases run_skipIf_eq_ok_iff.mp read with ⟨-, rfl⟩ | ⟨-, rfl, -⟩
  · exact ⟨_, .present, rfl⟩
  · exact ⟨_, .absent, rfl⟩

/-! ## Loops -/

/-- The entries of a loop are read as a relation derives them, where no more than a semicolon could
prolong an entry. An entry that `step` refuses is not read. -/
structure ReadsEntries (entry : σ → Token → Option (TokenReader σ))
    (item : List Token → ι → Prop) (step : σ → ι → Option σ) : Prop where
  sound : ∀ {s t p ts s' rest}, entry s t = some p → p.run ts = .ok (s', rest) →
    ∃ read i, item (t :: read) i ∧ ts = read ++ rest ∧ step s i = some s'
  complete : ∀ {read i s s' rest}, item read i → step s i = some s' →
    rest.head? ≠ some (.symbol .semicolon) → ∃ t further p, read = t :: further ∧
      entry s t = some p ∧ p.run (further ++ rest) = .ok (s', rest)
  semicolon : ∀ s, entry s (.symbol .semicolon) = none

theorem manyFrom_nil (entry : σ → Token → Option (TokenReader σ)) (s : σ) :
    manyFrom entry s [] = .ok (s, []) := by
  rw [manyFrom]

/-- A loop ends before a token that begins no entry. -/
theorem manyFrom_cons_of_none {entry : σ → Token → Option (TokenReader σ)} {s : σ} {t : Token}
    (none : entry s t = .none) (ts : List Token) :
    manyFrom entry s (t :: ts) = .ok (s, t :: ts) := by
  rw [manyFrom, none]

/-- A loop goes on behind an entry that is read. -/
theorem manyFrom_cons_of_some {entry : σ → Token → Option (TokenReader σ)} {s s' : σ} {t : Token}
    {p : TokenReader σ} (some : entry s t = .some p) (read : p.run ts = .ok (s', rest)) :
    manyFrom entry s (t :: ts) = manyFrom entry s' rest := by
  rw [manyFrom, some]
  simp only
  split
  · rename_i failed
    rw [read] at failed
    cases failed
  · rename_i result
    rw [read, Except.ok.injEq, Prod.mk.injEq] at result
    rw [← result.1, ← result.2]

/-- A loop fails where an entry does. -/
theorem manyFrom_cons_of_error {entry : σ → Token → Option (TokenReader σ)} {s : σ} {t : Token}
    {p : TokenReader σ} {e : Failure} (some : entry s t = .some p) (failed : p.run ts = .error e) :
    manyFrom entry s (t :: ts) = .error e := by
  rw [manyFrom, some]
  simp only
  split
  · rename_i result
    exact result.symm.trans failed
  · rename_i read
    rw [failed] at read
    cases read

namespace ReadsEntries

variable {entry : σ → Token → Option (TokenReader σ)} {item : List Token → ι → Prop}
  {step : σ → ι → Option σ} {s s' : σ}

/-- What a loop takes is entries one after another, and its value comes from them step by step. -/
theorem repeated_of_run (reads : ReadsEntries entry item step)
    (read : (many entry s).run ts = .ok (s', rest)) :
    ∃ taken items, Repeated item taken items ∧ ts = taken ++ rest ∧
      items.foldlM step s = some s' := by
  change manyFrom entry s ts = _ at read
  fun_induction manyFrom entry s ts with
  | case1 s =>
      rw [Except.ok.injEq, Prod.mk.injEq] at read
      exact ⟨[], [], .nil, read.2, by rw [read.1]; rfl⟩
  | case2 s t ts none =>
      rw [Except.ok.injEq, Prod.mk.injEq] at read
      exact ⟨[], [], .nil, read.2, by rw [read.1]; rfl⟩
  | case3 s t ts p some e failed => cases read
  | case4 s t ts p some s₁ between first ih =>
      obtain ⟨taken, items, further, same, steps⟩ := ih read
      obtain ⟨before, i, derived, sameFirst, stepped⟩ := reads.sound some first
      refine ⟨t :: before ++ taken, i :: items, .cons derived further, ?_, ?_⟩
      · rw [sameFirst, same, List.append_assoc]
        rfl
      · rw [List.foldlM_cons, stepped]
        exact steps

/-- What is repeated does not begin with a semicolon where what follows does not. -/
theorem head?_ne_semicolon (reads : ReadsEntries entry item step) {taken : List Token}
    {items : List ι} (derived : Repeated item taken items) (steps : items.foldlM step s = some s')
    (next : rest.head? ≠ some (.symbol .semicolon)) :
    (taken ++ rest).head? ≠ some (.symbol .semicolon) := by
  cases derived with
  | nil => exact next
  | @cons ts others i items first further =>
      rw [List.foldlM_cons, Option.bind_eq_bind, Option.bind_eq_some_iff] at steps
      obtain ⟨s₁, stepped, -⟩ := steps
      obtain ⟨t, tail, p, rfl, some, -⟩ :=
        reads.complete first stepped (show [].head? ≠ some (Token.symbol .semicolon) from nofun)
      rw [List.cons_append, List.cons_append, List.head?_cons, ne_eq, Option.some.injEq]
      rintro rfl
      rw [reads.semicolon] at some
      exact nomatch some

/-- What is derived by repetition is read by a loop, which then goes on. -/
theorem manyFrom_append_of_repeated (reads : ReadsEntries entry item step) {taken : List Token}
    {items : List ι} (derived : Repeated item taken items) (steps : items.foldlM step s = some s')
    (next : rest.head? ≠ some (.symbol .semicolon)) :
    manyFrom entry s (taken ++ rest) = manyFrom entry s' rest := by
  induction derived generalizing s with
  | nil =>
      rw [← Option.some.inj steps]
      rfl
  | @cons ts others i items first further ih =>
      rw [List.foldlM_cons, Option.bind_eq_bind, Option.bind_eq_some_iff] at steps
      obtain ⟨s₁, stepped, steps⟩ := steps
      have notSemicolon := reads.head?_ne_semicolon further steps next
      obtain ⟨t, tail, p, rfl, some, read⟩ := reads.complete first stepped notSemicolon
      rw [List.append_assoc, List.cons_append, manyFrom_cons_of_some some read]
      exact ih steps

/-- What is derived by repetition is read by a loop, up to a token that begins no entry. -/
theorem run_of_repeated (reads : ReadsEntries entry item step) {taken : List Token}
    {items : List ι} (derived : Repeated item taken items) (steps : items.foldlM step s = some s')
    (next : rest.head? ≠ some (.symbol .semicolon))
    (stops : ∀ t, rest.head? = some t → ∀ s, entry s t = none) :
    (many entry s).run (taken ++ rest) = .ok (s', rest) := by
  change manyFrom entry s (taken ++ rest) = _
  rw [reads.manyFrom_append_of_repeated derived steps next]
  cases rest with
  | nil => exact manyFrom_nil entry s'
  | cons t rest => exact manyFrom_cons_of_none (stops t rfl s') rest

end ReadsEntries

/-! ## Dotted names -/

/-- A path begins with a name. -/
theorem exists_name_cons_of_derivesPath {path : String} (derived : DerivesPath ts path) :
    ∃ s read, ts = .name s :: read := by
  cases derived with
  | last => exact ⟨path, [], rfl⟩
  | more s => exact ⟨s, _, rfl⟩

/-- A dotted name stays one when its first segment is taken apart at a dot. -/
theorem derivesPath_of_join {s s' path : String}
    (derived : DerivesPath (.name (s ++ "." ++ s') :: ts) path) :
    DerivesPath (.name s :: .symbol .dot :: .name s' :: ts) path := by
  cases derived with
  | last => exact .more s (.last s')
  | @more _ _ path further =>
      have assoc : s ++ "." ++ s' ++ "." ++ path = s ++ "." ++ (s' ++ "." ++ path) := by
        simp only [String.append_assoc]
      rw [assoc]
      exact .more s (.more s' further)

/-- A further segment after a dot. -/
def furtherSegment? (role path : String) (t : Token) : Option (TokenReader String) :=
  if t = .symbol .dot then some ((path ++ "." ++ ·) <$> name role) else none

/-- Behind its first name a path is read to its end, if no further dot follows. -/
theorem run_furtherSegments_of_derivesPath (role : String) {path : String}
    (derived : DerivesPath ts path)
    (stops : rest.head? ≠ some (.symbol .dot)) (before s : String) {read : List Token}
    (first : ts = .name s :: read) :
    (furtherSegments role (before ++ s)).run (read ++ rest) = .ok (before ++ path, rest) := by
  change manyFrom (furtherSegment? role) (before ++ s) (read ++ rest) = _
  induction derived generalizing before s read with
  | last =>
      cases first
      cases rest with
      | nil => exact manyFrom_nil _ _
      | cons t rest =>
          refine manyFrom_cons_of_none (if_neg fun isDot => stops ?_) rest
          rw [List.head?_cons, isDot]
  | @more s ts path further ih =>
      cases first
      obtain ⟨s', read, rfl⟩ := exists_name_cons_of_derivesPath further
      have next := ih (before ++ s ++ ".") s' rfl
      have taken : ((before ++ s ++ "." ++ ·) <$> name role).run (.name s' :: read ++ rest) =
          .ok (before ++ s ++ "." ++ s', read ++ rest) :=
        run_map_eq_ok_iff.mpr ⟨s', run_name_eq_ok_iff.mpr rfl, rfl⟩
      rw [List.cons_append, manyFrom_cons_of_some (if_pos rfl) taken, next]
      simp only [String.append_assoc]

/-- What is read behind a name makes a path with it, and no further dot follows. -/
theorem derivesPath_of_run_furtherSegments {role s path : String}
    (read : (furtherSegments role s).run ts = .ok (path, rest)) :
    ∃ further, DerivesPath (.name s :: further) path ∧ ts = further ++ rest ∧
      rest.head? ≠ some (.symbol .dot) := by
  change manyFrom (furtherSegment? role) s ts = _ at read
  fun_induction manyFrom (furtherSegment? role) s ts with
  | case1 s =>
      rw [Except.ok.injEq, Prod.mk.injEq] at read
      refine ⟨[], read.1 ▸ .last s, read.2, ?_⟩
      rw [← read.2]
      rintro ⟨⟩
  | case2 s t ts none =>
      rw [Except.ok.injEq, Prod.mk.injEq] at read
      refine ⟨[], read.1 ▸ .last s, read.2, ?_⟩
      rw [← read.2, List.head?_cons]
      rintro ⟨⟩
      cases none
  | case3 s t ts p some e failed => cases read
  | case4 s t ts p some s₁ between first ih =>
      unfold furtherSegment? at some
      split at some
      case isTrue isDot =>
        cases some
        obtain ⟨segment, taken, rfl⟩ := run_map_eq_ok_iff.mp first
        obtain rfl := run_name_eq_ok_iff.mp taken
        obtain ⟨further, derived, rfl, stops⟩ := ih read
        rw [isDot]
        exact ⟨_, derivesPath_of_join derived, rfl, stops⟩
      case isFalse => cases some

/-- Further segments are read exactly where they make a path with the first name and no dot follows.
-/
@[simp] theorem run_furtherSegments_eq_ok_iff {role s path : String} :
    (furtherSegments role s).run ts = .ok (path, rest) ↔
      ∃ further, DerivesPath (.name s :: further) path ∧ ts = further ++ rest ∧
        rest.head? ≠ some (.symbol .dot) := by
  refine ⟨derivesPath_of_run_furtherSegments, ?_⟩
  rintro ⟨further, derived, rfl, stops⟩
  have read := run_furtherSegments_of_derivesPath role derived stops "" s rfl
  rwa [String.empty_append, String.empty_append] at read

/-- A path is read exactly where one is derived and no dot follows. -/
@[simp] theorem run_path_eq_ok_iff {role path : String} :
    (TokenReader.path role).run ts = .ok (path, rest) ↔
      ∃ read, DerivesPath read path ∧ ts = read ++ rest ∧ rest.head? ≠ some (.symbol .dot) := by
  simp only [TokenReader.path, run_bind_eq_ok_iff, run_name_eq_ok_iff,
    run_furtherSegments_eq_ok_iff]
  constructor
  · rintro ⟨s, _, rfl, further, derived, rfl, stops⟩
    exact ⟨_, derived, rfl, stops⟩
  · rintro ⟨read, derived, rfl, stops⟩
    obtain ⟨s, further, rfl⟩ := exists_name_cons_of_derivesPath derived
    exact ⟨s, _, rfl, further, derived, rfl, stops⟩

end TokenReader

end Crossmap.Mapping
