import Crossmap.Mapping.Token

/-! # Reading with a cursor, in rounds

A `Machine` reads with a cursor that is moved over a tape. Nothing in it recurses but `loop`, which
spends fuel on every further round, so that a reading can run out of fuel; and what a reading must
never do is an ending of its own, a `Trap`: to look where nothing is, to go round without having
moved the cursor, to come to a case that is thought not to occur. A claim that a reading ends well
is then a claim that it is not trapped.
-/

namespace Crossmap.Mapping

/-! ## Machines -/

/-- What a reading must never come to. -/
inductive Trap where
  /-- A loop is to go round again, and no fuel is left. -/
  | outOfFuel
  /-- A round that is to be followed by another did not move the cursor on. -/
  | standstill
  /-- The cursor is off the tape. -/
  | outOfRange
  /-- A keyword begins a clause, but nothing says how the clause goes on. -/
  | unsupported (word : String)
  /-- A declaration holds a clause of the other kind of declaration. -/
  | misplaced
  deriving DecidableEq, Inhabited

/-- How a reading ends. -/
inductive Ending (ε α : Type) where
  | done (a : α)
  /-- The text is refused. -/
  | failed (e : ε)
  | trapped (t : Trap)

/-- Where a reading is. -/
structure Cursor (κ : Type) where
  /-- How much of the tape lies behind the cursor. -/
  pos : Nat
  /-- How many rounds can still follow others. -/
  fuel : Nat
  /-- What else a reading keeps along, such as line and column. -/
  place : κ
  deriving DecidableEq

/-- A reading with a cursor. It can spend fuel, but it never gains any. -/
structure Machine (κ ε α : Type) where
  run : Cursor κ → Ending ε (α × Cursor κ)
  fuel_le : ∀ {c a c'}, run c = .done (a, c') → c'.fuel ≤ c.fuel

namespace Machine

variable {κ ε α β σ : Type}

/-- Leaves the cursor where it is. -/
protected def pure (a : α) : Machine κ ε α where
  run c := .done (a, c)
  fuel_le h := by cases h; exact Nat.le_refl _

/-- One reading and then another that may depend on it. -/
protected def bind (m : Machine κ ε α) (f : α → Machine κ ε β) : Machine κ ε β where
  run c :=
    match m.run c with
    | .done (a, c') => (f a).run c'
    | .failed e => .failed e
    | .trapped t => .trapped t
  fuel_le {c b c''} h := by
    cases first : m.run c with
    | done r =>
        obtain ⟨a, c'⟩ := r
        simp only [first] at h
        exact Nat.le_trans ((f a).fuel_le h) (m.fuel_le first)
    | failed e => simp [first] at h
    | trapped t => simp [first] at h

instance : Monad (Machine κ ε) where
  pure := Machine.pure
  bind := Machine.bind

/-- Refuses the text. -/
def fail (e : ε) : Machine κ ε α where
  run _ := .failed e
  fuel_le h := by cases h

/-- Comes to what must not happen. -/
def trap (t : Trap) : Machine κ ε α where
  run _ := .trapped t
  fuel_le h := by cases h

/-- What is kept along at the cursor. -/
def place : Machine κ ε κ where
  run c := .done (c.place, c)
  fuel_le h := by cases h; exact Nat.le_refl _

/-! ## Loops -/

/-- What a round of a loop comes to. -/
inductive Round (σ α : Type) where
  /-- Another round is to follow. -/
  | again (s : σ)
  | leave (a : α)

/-- Goes round until a round leaves. What has to be true of every round that another one follows is
looked at as it ends: the cursor has moved on, and there is fuel for the other one. -/
def loopFrom (round : σ → Machine κ ε (Round σ α)) (s : σ) (c : Cursor κ) :
    Ending ε (α × Cursor κ) :=
  match _ran : (round s).run c with
  | .done (.leave a, c') => .done (a, c')
  | .done (.again s', c') =>
    if c'.pos ≤ c.pos then .trapped .standstill
    else if _empty : c'.fuel = 0 then .trapped .outOfFuel
    else loopFrom round s' { c' with fuel := c'.fuel - 1 }
  | .failed e => .failed e
  | .trapped t => .trapped t
termination_by c.fuel
decreasing_by
  have := (round s).fuel_le _ran
  omega

/-- A loop never adds to the rounds that are left. -/
theorem loopFrom_fuel_le {round : σ → Machine κ ε (Round σ α)} {s : σ} {c c' : Cursor κ} {a : α}
    (ended : loopFrom round s c = .done (a, c')) : c'.fuel ≤ c.fuel := by
  fun_induction loopFrom round s c with
  | case1 s c a' c₁ ran =>
      cases ended
      exact (round s).fuel_le ran
  | case2 => cases ended
  | case3 => cases ended
  | case4 s c s' c₁ ran moved fuelled ih =>
      have := (round s).fuel_le ran
      have := ih ended
      simp only at this
      omega
  | case5 => cases ended
  | case6 => cases ended

/-- Goes round until a round leaves. -/
def loop (round : σ → Machine κ ε (Round σ α)) (s : σ) : Machine κ ε α where
  run := loopFrom round s
  fuel_le := loopFrom_fuel_le

/-! ## What machines do -/

variable {m : Machine κ ε α} {f : α → Machine κ ε β} {c c' : Cursor κ} {a : α} {e : ε}

@[simp] theorem run_pure : (pure a : Machine κ ε α).run c = .done (a, c) := rfl

@[simp] theorem run_place : (place : Machine κ ε κ).run c = .done (c.place, c) := rfl

/-- What follows a part that is done goes on at its cursor. -/
theorem run_bind_of_done (first : m.run c = .done (a, c')) :
    (m >>= f).run c = (f a).run c' := by
  change (Machine.bind m f).run c = _
  simp only [Machine.bind, first]

/-- Nothing follows a part that fails. -/
theorem run_bind_of_failed (first : m.run c = .failed e) : (m >>= f).run c = .failed e := by
  change (Machine.bind m f).run c = _
  simp only [Machine.bind, first]

/-- What two readings come to from two cursors, they come to with the same after them. -/
theorem run_bind_congr {m' : Machine κ ε α} (same : m.run c = m'.run c')
    (f : α → Machine κ ε β) : (m >>= f).run c = (m' >>= f).run c' := by
  change (Machine.bind m f).run c = (Machine.bind m' f).run c'
  simp only [Machine.bind, same]

variable {round : σ → Machine κ ε (Round σ α)} {s s' : σ}

/-- A round that leaves the loop ends it. -/
theorem run_loop_of_leave (ran : (round s).run c = .done (.leave a, c')) :
    (loop round s).run c = .done (a, c') := by
  change loopFrom round s c = _
  rw [loopFrom]
  split
  all_goals
    rename_i same
    cases ran.symm.trans same
  rfl

/-- A round that fails ends the loop with its failure. -/
theorem run_loop_of_failed (ran : (round s).run c = .failed e) :
    (loop round s).run c = .failed e := by
  change loopFrom round s c = _
  rw [loopFrom]
  split
  all_goals
    rename_i same
    cases ran.symm.trans same
  rfl

/-- A round that moves the cursor on is followed by another one if there is fuel for it. -/
theorem run_loop_of_again {fuel : Nat} (ran : (round s).run c = .done (.again s', c'))
    (moved : c.pos < c'.pos) (fuelled : c'.fuel = fuel + 1) :
    (loop round s).run c = (loop round s').run { c' with fuel := fuel } := by
  change loopFrom round s c = loopFrom round s' _
  rw [loopFrom]
  split
  all_goals
    rename_i same
    cases ran.symm.trans same
  rw [if_neg (Nat.not_le.mpr moved), dif_neg (by omega), fuelled, Nat.add_sub_cancel]

end Machine

end Crossmap.Mapping
