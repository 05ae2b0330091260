import Crossmap.Mapping.SyntaxError

/-!
# Reading tokens

A `TokenReader` reads a value from the front of a list of tokens and gives the tokens after it, or
fails at some of the tokens. It looks at no more than one token ahead of what it takes, and it
never leaves more tokens than it was given; with that in the type, `many` can repeat a reader that
takes at least the token by which it is chosen.
-/

namespace Crossmap.Mapping

/-- A failed reading: the tokens from the place of the error on, and the reason. -/
structure Failure where
  /-- The tokens from the offending one on; none where the text ends too early. -/
  ahead : List Token
  reason : Reason
  deriving DecidableEq, Inhabited

/-- A way to read a value from the front of a list of tokens. -/
structure TokenReader (α : Type) where
  /-- The value and the tokens that follow it. -/
  run : List Token → Except Failure (α × List Token)
  length_le : ∀ {ts a rest}, run ts = .ok (a, rest) → rest.length ≤ ts.length

namespace TokenReader

variable {α β σ : Type}

/-- Reads nothing. -/
protected def pure (a : α) : TokenReader α where
  run ts := .ok (a, ts)
  length_le h := by simp only [Except.ok.injEq, Prod.mk.injEq] at h; simp [← h.2]

/-- Reads one value and then another that may depend on it. -/
protected def bind (p : TokenReader α) (f : α → TokenReader β) : TokenReader β where
  run ts :=
    match p.run ts with
    | .ok (a, rest) => (f a).run rest
    | .error e => .error e
  length_le {ts b rest} h := by
    cases hp : p.run ts with
    | error e => simp [hp] at h
    | ok r =>
      obtain ⟨a, mid⟩ := r
      simp only [hp] at h
      exact Nat.le_trans ((f a).length_le h) (p.length_le hp)

instance : Monad TokenReader where
  pure := TokenReader.pure
  bind := TokenReader.bind

/-- The tokens ahead, none of them taken. -/
def ahead : TokenReader (List Token) where
  run ts := .ok (ts, ts)
  length_le h := by simp only [Except.ok.injEq, Prod.mk.injEq] at h; simp [← h.2]

/-- Fails at a place. -/
def failAt (place : List Token) (reason : Reason) : TokenReader α where
  run _ := .error ⟨place, reason⟩
  length_le h := by simp at h

/-- Takes the next token if `accept` gives a value for it, and fails at it otherwise. -/
def next (expected : List Expected) (accept : Token → Option α) : TokenReader α where
  run
    | [] => .error ⟨[], .unexpected none expected⟩
    | t :: rest =>
      match accept t with
      | some a => .ok (a, rest)
      | none => .error ⟨t :: rest, .unexpected (some t) expected⟩
  length_le {ts a rest} h := by
    cases ts with
    | nil => simp at h
    | cons t ts =>
      cases ha : accept t with
      | none => simp [ha] at h
      | some b =>
        simp only [ha, Except.ok.injEq, Prod.mk.injEq] at h
        simp [← h.2]

/-- Takes the next token if it is a certain one. -/
def skipIf (wanted : Token) : TokenReader Bool where
  run
    | [] => .ok (false, [])
    | t :: rest => if t = wanted then .ok (true, rest) else .ok (false, t :: rest)
  length_le {ts a rest} h := by
    cases ts with
    | nil => simp only [Except.ok.injEq, Prod.mk.injEq] at h; simp [← h.2]
    | cons t ts =>
      by_cases ht : t = wanted
      · simp only [ht, if_true, Except.ok.injEq, Prod.mk.injEq] at h
        simp [← h.2]
      · simp only [ht, if_false, Except.ok.injEq, Prod.mk.injEq] at h
        simp [← h.2]

/-- Succeeds only where no token is left. -/
def finish (expected : List Expected) : TokenReader Unit where
  run
    | [] => .ok ((), [])
    | t :: rest => .error ⟨t :: rest, .unexpected (some t) expected⟩
  length_le {ts a rest} h := by
    cases ts with
    | nil => simp only [Except.ok.injEq, Prod.mk.injEq] at h; simp [← h.2]
    | cons t ts => simp at h

/-- Reads entries one after another: `entry s t` reads the rest of an entry that begins with the
token `t`, and is `none` when no entry begins with it. -/
def manyFrom (entry : σ → Token → Option (TokenReader σ)) (s : σ) (ts : List Token) :
    Except Failure (σ × List Token) :=
  match ts with
  | [] => .ok (s, [])
  | t :: rest =>
    match entry s t with
    | none => .ok (s, t :: rest)
    | some p =>
      match _h : p.run rest with
      | .error e => .error e
      | .ok (s', rest') => manyFrom entry s' rest'
termination_by ts.length
decreasing_by
  have := p.length_le _h
  simp only [List.length_cons]
  omega

/-- Repetition adds no tokens. -/
theorem manyFrom_length_le {entry : σ → Token → Option (TokenReader σ)} {s s' : σ}
    {ts rest : List Token} (h : manyFrom entry s ts = .ok (s', rest)) :
    rest.length ≤ ts.length := by
  fun_induction manyFrom entry s ts with
  | case1 => simp only [Except.ok.injEq, Prod.mk.injEq] at h; simp [← h.2]
  | case2 => simp only [Except.ok.injEq, Prod.mk.injEq] at h; simp [← h.2]
  | case3 => simp at h
  | case4 s t mid p _ s₁ rest₁ hp ih =>
    have := ih h
    have := p.length_le hp
    simp only [List.length_cons]
    omega

/-- Reads entries as long as the next token begins one. -/
def many (entry : σ → Token → Option (TokenReader σ)) (s : σ) : TokenReader σ where
  run := manyFrom entry s
  length_le := manyFrom_length_le

/-- A symbol. -/
def symbol (s : Symbol) : TokenReader Unit :=
  next [.symbol s] fun t => if t = .symbol s then some () else none

/-- A name that serves as a keyword. -/
def keyword (word : String) : TokenReader Unit :=
  next [.keyword word] fun t => if t = .name word then some () else none

/-- Any name, in a role that messages can speak of. -/
def name (role : String) : TokenReader String :=
  next [.name role] fun
    | .name s => some s
    | _ => none

/-- The further segments of a dotted name, each after a dot. -/
def furtherSegments (role : String) (path : String) : TokenReader String :=
  many (fun path t =>
    if t = .symbol .dot then some ((path ++ "." ++ ·) <$> name role) else none) path

/-- A dotted name. -/
def path (role : String) : TokenReader String := do
  let first ← name role
  furtherSegments role first

end TokenReader

end Crossmap.Mapping
