import Crossmap.Proofs.Mapping.ReaderLaws

/-! # Readers look one token ahead

What a reader does on some tokens it does on all tokens that begin in the same way up to the place
where it stops, that is, up to the first token that it does not take. The place where a repetition
is reported lies behind the tokens that tell of it; two runs of one reader can so report it
differently. `Agree p q` therefore relates two readers, which may differ in such places, and says
nothing of failures that list no token as possible.
-/

namespace Crossmap.Mapping

namespace TokenReader

variable {α β σ : Type} {ts rest : List Token}

/-- Readers in sequence fail where the first of them fails that does. -/
theorem run_bind_eq_error_iff {p : TokenReader α} {f : α → TokenReader β} {e : Failure} :
    (p >>= f).run ts = .error e ↔
      p.run ts = .error e ∨ ∃ a between, p.run ts = .ok (a, between) ∧
        (f a).run between = .error e := by
  cases read : p.run ts with
  | error e' => simp [run_bind_of_error read]
  | ok r =>
      obtain ⟨a, between⟩ := r
      rw [run_bind_of_ok read]
      constructor
      · exact fun failed => .inr ⟨a, between, rfl, failed⟩
      · rintro (absurd | ⟨_, _, same, failed⟩)
        · cases absurd
        · cases same
          exact failed

/-- Readers that do the same with all tokens are the same. -/
theorem ext_run {p q : TokenReader α} (same : ∀ ts, p.run ts = q.run ts) : p = q := by
  cases p
  cases q
  congr
  exact funext same

instance : LawfulMonad TokenReader := LawfulMonad.mk' TokenReader
  (fun p => ext_run fun ts => by
    change (p >>= fun a => pure a).run ts = p.run ts
    cases read : p.run ts with
    | error e => exact run_bind_of_error read
    | ok r => exact run_bind_of_ok read)
  (fun a f => ext_run fun ts => run_bind_of_ok (run_pure_eq_ok_iff.mpr ⟨rfl, rfl⟩))
  (fun p f g => ext_run fun ts => by
    cases read : p.run ts with
    | error e => rw [run_bind_of_error read, run_bind_of_error (run_bind_of_error read)]
    | ok r =>
        obtain ⟨a, between⟩ := r
        rw [run_bind_of_ok read]
        cases further : (f a).run between with
        | error e =>
            rw [run_bind_of_error further, run_bind_of_error]
            rw [run_bind_of_ok read, further]
        | ok r =>
            obtain ⟨b, rest⟩ := r
            rw [run_bind_of_ok further, run_bind_of_ok]
            rw [run_bind_of_ok read, further])

/-- Lists with one first token keep having one behind the same tokens. -/
theorem head?_append_of_head? {rest' : List Token} (same : rest'.head? = rest.head?)
    (read : List Token) : (read ++ rest').head? = (read ++ rest).head? := by
  rw [List.head?_append, List.head?_append, same]

/-- Whether a reader does what another one does, whatever follows the first token not taken. -/
structure Agree (p q : TokenReader α) : Prop where
  ok : ∀ {ts a rest}, p.run ts = .ok (a, rest) → ∃ read, ts = read ++ rest ∧
    ∀ rest', rest'.head? = rest.head? → q.run (read ++ rest') = .ok (a, rest')
  error : ∀ {ts f}, p.run ts = .error f → f.reason.expected ≠ [] →
    ∃ read, ts = read ++ f.ahead ∧ ∀ ahead, ahead.head? = f.ahead.head? →
      q.run (read ++ ahead) = .error ⟨ahead, f.reason⟩

/-- A reader that takes nothing agrees with itself. -/
theorem agree_pure (a : α) : Agree (pure a) (pure a) where
  ok read := by
    obtain ⟨rfl, rfl⟩ := run_pure_eq_ok_iff.mp read
    exact ⟨[], rfl, fun _ _ => rfl⟩
  error failed := by cases failed

/-- Failures that expect nothing else agree, wherever they are reported. -/
theorem agree_failAt {place place' : List Token} {reason : Reason} (bare : reason.expected = []) :
    Agree (failAt place reason : TokenReader α) (failAt place' reason) where
  ok read := (run_failAt_ne_ok read).elim
  error failed listed := by
    cases failed
    exact (listed bare).elim

/-- Taking one token of a kind depends on no further one. -/
theorem agree_next (expected : List Expected) (accept : Token → Option α) :
    Agree (next expected accept) (next expected accept) where
  ok read := by
    obtain ⟨t, rfl, accepted⟩ := run_next_eq_ok_iff.mp read
    exact ⟨[t], rfl, fun rest' _ => run_next_eq_ok_iff.mpr ⟨t, rfl, accepted⟩⟩
  error {ts f} failed _ := by
    cases ts with
    | nil =>
        cases failed
        refine ⟨[], rfl, fun ahead same => ?_⟩
        obtain rfl := List.head?_eq_none_iff.mp same
        rfl
    | cons t ts =>
        cases accepted : accept t with
        | some a => simp [next, accepted] at failed
        | none =>
            simp only [next, accepted, Except.error.injEq] at failed
            subst failed
            refine ⟨[], rfl, fun ahead same => ?_⟩
            obtain ⟨ahead, rfl⟩ := List.head?_eq_some_iff.mp same
            simp [next, accepted]

/-- Skipping a token depends on no further one. -/
theorem agree_skipIf (wanted : Token) : Agree (skipIf wanted) (skipIf wanted) where
  ok read := by
    rcases run_skipIf_eq_ok_iff.mp read with ⟨rfl, rfl⟩ | ⟨rfl, rfl, stops⟩
    · exact ⟨[wanted], rfl, fun rest' _ => run_skipIf_eq_ok_iff.mpr (.inl ⟨rfl, rfl⟩)⟩
    · refine ⟨[], rfl, fun rest' same => run_skipIf_eq_ok_iff.mpr (.inr ⟨rfl, rfl, ?_⟩)⟩
      rwa [same]
  error {ts f} failed _ := by
    cases ts with
    | nil => cases failed
    | cons t ts =>
        rw [skipIf] at failed
        simp only at failed
        split at failed <;> cases failed

/-- The end of the tokens agrees with itself. -/
theorem agree_finish (expected : List Expected) : Agree (finish expected) (finish expected) where
  ok read := by
    obtain ⟨rfl, rfl⟩ := run_finish_eq_ok_iff.mp read
    refine ⟨[], rfl, fun rest' same => ?_⟩
    obtain rfl := List.head?_eq_none_iff.mp same
    rfl
  error {ts f} failed _ := by
    cases ts with
    | nil => cases failed
    | cons t ts =>
        cases failed
        refine ⟨[], rfl, fun ahead same => ?_⟩
        obtain ⟨ahead, rfl⟩ := List.head?_eq_some_iff.mp same
        rfl

/-- Readers agree one after another. -/
theorem agree_bind {p q : TokenReader α} {f g : α → TokenReader β} (first : Agree p q)
    (second : ∀ {ts a rest}, p.run ts = .ok (a, rest) → Agree (f a) (g a)) :
    Agree (p >>= f) (q >>= g) where
  ok done := by
    obtain ⟨a, between, read, further⟩ := run_bind_eq_ok_iff.mp done
    obtain ⟨taken, rfl, firstRun⟩ := first.ok read
    obtain ⟨taken', rfl, secondRun⟩ := (second read).ok further
    refine ⟨taken ++ taken', (List.append_assoc ..).symm, fun rest' same => ?_⟩
    rw [List.append_assoc, run_bind_of_ok (firstRun _ (head?_append_of_head? same taken'))]
    exact secondRun rest' same
  error stopped listed := by
    rcases run_bind_eq_error_iff.mp stopped with failed | ⟨a, between, read, failed⟩
    · obtain ⟨taken, rfl, firstRun⟩ := first.error failed listed
      exact ⟨taken, rfl, fun ahead same => run_bind_of_error (firstRun ahead same)⟩
    · obtain ⟨taken, rfl, firstRun⟩ := first.ok read
      obtain ⟨taken', rfl, secondRun⟩ := (second read).error failed listed
      refine ⟨taken ++ taken', (List.append_assoc ..).symm, fun ahead same => ?_⟩
      rw [List.append_assoc, run_bind_of_ok (firstRun _ (head?_append_of_head? same taken'))]
      exact secondRun ahead same

/-- Readers that agree do so when their results are mapped. -/
theorem agree_map {p q : TokenReader α} (g : α → β) (agree : Agree p q) :
    Agree (g <$> p) (g <$> q) :=
  agree_bind agree fun _ => agree_pure _

/-- Readers agree that are told the tokens ahead if they agree whatever they are told. -/
theorem agree_ahead {f g : List Token → TokenReader α} (agree : ∀ place place',
    Agree (f place) (g place')) : Agree (ahead >>= f) (ahead >>= g) where
  ok {ts a rest} read := by
    change (f ts).run ts = _ at read
    obtain ⟨taken, rfl, -⟩ := (agree ts []).ok read
    refine ⟨taken, rfl, fun rest' same => ?_⟩
    obtain ⟨taken', again, run⟩ := (agree (taken ++ rest) (taken ++ rest')).ok read
    obtain rfl := List.append_cancel_right again
    exact run rest' same
  error {ts e} failed listed := by
    change (f ts).run ts = _ at failed
    obtain ⟨taken, rfl, -⟩ := (agree ts []).error failed listed
    refine ⟨taken, rfl, fun ahead same => ?_⟩
    obtain ⟨taken', again, run⟩ := (agree (taken ++ e.ahead) (taken ++ ahead)).error failed listed
    obtain rfl := List.append_cancel_right again
    exact run ahead same

/-- A token that is taken and then refused is refused where it stands. -/
theorem agree_refusal (expected : List Expected) (accept : Token → Option α) (reason : Reason) :
    Agree (ahead >>= fun place => next expected accept >>= fun _ =>
        (failAt place reason : TokenReader β))
      (ahead >>= fun place => next expected accept >>= fun _ => failAt place reason) where
  ok {ts a rest} read := by
    change (next expected accept >>= fun _ => failAt ts reason).run ts = _ at read
    obtain ⟨_, _, -, failed⟩ := run_bind_eq_ok_iff.mp read
    exact (run_failAt_ne_ok failed).elim
  error {ts f} stopped listed := by
    change (next expected accept >>= fun _ => failAt ts reason).run ts = _ at stopped
    rcases run_bind_eq_error_iff.mp stopped with failed | ⟨a, rest, read, failed⟩
    · obtain ⟨taken, rfl, run⟩ := (agree_next expected accept).error failed listed
      refine ⟨taken, rfl, fun ahead same => ?_⟩
      change (next expected accept >>= fun _ => failAt (taken ++ ahead) reason).run _ = _
      exact run_bind_of_error (run ahead same)
    · obtain ⟨t, rfl, accepted⟩ := run_next_eq_ok_iff.mp read
      cases failed
      refine ⟨[], rfl, fun ahead same => ?_⟩
      obtain ⟨ahead, rfl⟩ := List.head?_eq_some_iff.mp same
      exact run_bind_of_ok (run_next_eq_ok_iff.mpr ⟨t, rfl, accepted⟩)

/-- A loop agrees with itself if its entries do. -/
theorem agree_many {entry : σ → Token → Option (TokenReader σ)}
    (each : ∀ {s t p}, entry s t = some p → Agree p p) (s : σ) :
    Agree (many entry s) (many entry s) where
  ok {ts a rest} read := by
    change manyFrom entry s ts = _ at read
    -- The loop ends by the first token that it leaves, which is why that one is kept.
    fun_induction manyFrom entry s ts with
    | case1 s =>
        obtain ⟨rfl, rfl⟩ := Prod.mk.inj (Except.ok.inj read)
        refine ⟨[], rfl, fun rest' same => ?_⟩
        obtain rfl := List.head?_eq_none_iff.mp same
        exact manyFrom_nil entry s
    | case2 s t ts none =>
        obtain ⟨rfl, rfl⟩ := Prod.mk.inj (Except.ok.inj read)
        refine ⟨[], rfl, fun rest' same => ?_⟩
        obtain ⟨rest', rfl⟩ := List.head?_eq_some_iff.mp same
        exact manyFrom_cons_of_none none rest'
    | case3 s t ts p some e failed => cases read
    | case4 s t ts p some s' between first ih =>
        obtain ⟨taken', same', loop⟩ := ih read
        obtain ⟨taken, rfl, run⟩ := (each some).ok first
        subst same'
        refine ⟨t :: taken ++ taken', by simp, fun rest' same => ?_⟩
        rw [List.append_assoc, List.cons_append]
        refine (manyFrom_cons_of_some some (run _ (head?_append_of_head? same taken'))).trans ?_
        exact loop rest' same
  error {ts f} failed listed := by
    change manyFrom entry s ts = _ at failed
    fun_induction manyFrom entry s ts with
    | case1 => cases failed
    | case2 => cases failed
    | case3 s t ts p some e first =>
        obtain rfl := Except.error.inj failed
        obtain ⟨taken, rfl, run⟩ := (each some).error first listed
        exact ⟨t :: taken, rfl, fun ahead same => manyFrom_cons_of_error some (run ahead same)⟩
    | case4 s t ts p some s' between first ih =>
        obtain ⟨taken', same', loop⟩ := ih failed
        obtain ⟨taken, rfl, run⟩ := (each some).ok first
        subst same'
        refine ⟨t :: taken ++ taken', by simp, fun ahead same => ?_⟩
        rw [List.append_assoc, List.cons_append]
        refine (manyFrom_cons_of_some some (run _ (head?_append_of_head? same taken'))).trans ?_
        exact loop ahead same

end TokenReader

end Crossmap.Mapping
