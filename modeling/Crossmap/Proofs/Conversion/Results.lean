import Mathlib.Data.List.Forall2

/-! # Results of steps that can fail

A sequence of steps ends well exactly if each of its steps does (`bind_eq_ok_iff`,
`mapM_eq_ok_iff`), and fails with the error of one of them (`bind_eq_error_iff`,
`exists_of_mapM_eq_error`, `exists_of_foldlM_eq_error`).
-/

namespace Crossmap

variable {ε α β : Type}

/-- Steps in sequence end well exactly if each of them does. -/
theorem bind_eq_ok_iff {x : Except ε α} {f : α → Except ε β} {b : β} :
    x >>= f = .ok b ↔ ∃ a, x = .ok a ∧ f a = .ok b := by
  cases x with
  | error e => exact iff_of_false nofun nofun
  | ok a =>
      constructor
      · intro result
        exact ⟨a, rfl, result⟩
      · rintro ⟨_, ⟨⟩, result⟩
        exact result

/-- Steps in sequence fail with the error of the first that fails. -/
theorem bind_eq_error_iff {x : Except ε α} {f : α → Except ε β} {e : ε} :
    x >>= f = .error e ↔ x = .error e ∨ ∃ a, x = .ok a ∧ f a = .error e := by
  cases x with
  | error e' =>
      constructor
      · intro failed
        exact .inl (congrArg Except.error (Except.error.inj failed))
      · rintro (⟨⟨⟩⟩ | ⟨_, ⟨⟩, _⟩)
        rfl
  | ok a =>
      constructor
      · intro failed
        exact .inr ⟨a, rfl, failed⟩
      · rintro (⟨⟨⟩⟩ | ⟨_, ⟨⟩, failed⟩)
        exact failed

theorem mapError_eq_ok_iff {ε' : Type} {x : Except ε α} {f : ε → ε'} {a : α} :
    x.mapError f = .ok a ↔ x = .ok a := by
  cases x with
  | error e => exact iff_of_false nofun nofun
  | ok a' => exact ⟨fun same => congrArg _ (Except.ok.inj same), congrArg (Except.mapError f)⟩

/-- An error that is told in other words is still an error of the same step. -/
theorem mapError_eq_error_iff {ε' : Type} {x : Except ε α} {f : ε → ε'} {e : ε'} :
    x.mapError f = .error e ↔ ∃ e', x = .error e' ∧ f e' = e := by
  cases x with
  | ok a => exact iff_of_false nofun (by simp)
  | error e' =>
      constructor
      · intro failed
        exact ⟨e', rfl, Except.error.inj failed⟩
      · rintro ⟨_, ⟨⟩, rfl⟩
        rfl

theorem isOk_map (x : Except ε α) (f : α → β) : (x.map f).isOk = x.isOk := by
  cases x <;> rfl

/-- A result that is mapped is the image of one that was there before. -/
theorem map_eq_ok_iff {x : Except ε α} {f : α → β} {b : β} :
    x.map f = .ok b ↔ ∃ a, x = .ok a ∧ f a = b := by
  cases x with
  | error e => exact iff_of_false nofun nofun
  | ok a =>
      constructor
      · intro same
        exact ⟨a, rfl, Except.ok.inj same⟩
      · rintro ⟨_, ⟨⟩, rfl⟩
        rfl

theorem map_eq_error_iff {x : Except ε α} {f : α → β} {e : ε} :
    x.map f = .error e ↔ x = .error e := by
  cases x with
  | error e' =>
      exact ⟨fun same => congrArg _ (Except.error.inj same),
        fun same => congrArg _ (Except.error.inj same)⟩
  | ok a => exact iff_of_false nofun nofun

/-- A step that ends well has a result. -/
theorem exists_eq_ok_of_isOk {x : Except ε α} (ended : x.isOk = true) : ∃ a, x = .ok a := by
  cases x with
  | error e => cases ended
  | ok a => exact ⟨a, rfl⟩

/-- Where every step ends well, a fold of the steps is the fold of what they end with. -/
theorem foldlM_eq_ok {f : β → α → Except ε β} {g : β → α → β} {l : List α}
    (steps : ∀ a ∈ l, ∀ b, f b a = .ok (g b a)) (b : β) : l.foldlM f b = .ok (l.foldl g b) := by
  induction l generalizing b with
  | nil => rfl
  | cons a rest ih =>
      rw [List.foldlM_cons, List.foldl_cons, steps a List.mem_cons_self b]
      exact ih (fun a member => steps a (List.mem_cons_of_mem _ member)) (g b a)

/-- An accumulation that fails fails at an item of its list. -/
theorem exists_of_foldlM_eq_error {f : β → α → Except ε β} {l : List α} {b : β} {e : ε}
    (failed : l.foldlM f b = .error e) : ∃ a ∈ l, ∃ b', f b' a = .error e := by
  induction l generalizing b with
  | nil => cases failed
  | cons a rest ih =>
      rw [List.foldlM_cons] at failed
      rcases bind_eq_error_iff.mp failed with first | ⟨b', -, further⟩
      · exact ⟨a, List.mem_cons_self, b, first⟩
      · obtain ⟨a', member, step⟩ := ih further
        exact ⟨a', List.mem_cons_of_mem _ member, step⟩

/-- Steps for the items of a list end well together exactly if they do one by one. -/
theorem mapM_eq_ok_iff {f : α → Except ε β} {l : List α} {bs : List β} :
    l.mapM f = .ok bs ↔ List.Forall₂ (fun a b => f a = .ok b) l bs := by
  induction l generalizing bs with
  | nil =>
      rw [List.mapM_nil, List.forall₂_nil_left_iff]
      constructor
      · intro result
        exact (Except.ok.inj result).symm
      · rintro rfl
        rfl
  | cons a rest ih =>
      rw [List.mapM_cons, bind_eq_ok_iff, List.forall₂_cons_left_iff]
      constructor
      · rintro ⟨b, first, further⟩
        obtain ⟨bs', others, result⟩ := bind_eq_ok_iff.mp further
        exact ⟨b, bs', first, ih.mp others, (Except.ok.inj result).symm⟩
      · rintro ⟨b, bs', first, others, rfl⟩
        exact ⟨b, first, bind_eq_ok_iff.mpr ⟨bs', ih.mpr others, rfl⟩⟩

/-- Steps that all end well give their results in order. -/
theorem mapM_eq_ok {f : α → Except ε β} {g : α → β} {l : List α}
    (steps : ∀ a ∈ l, f a = .ok (g a)) : l.mapM f = .ok (l.map g) := by
  rw [mapM_eq_ok_iff, List.forall₂_map_right_iff, List.forall₂_same]
  exact steps

/-- Whatever stands in the second of two related lists is related to something in the first. -/
theorem exists_mem_of_forall₂ {R : α → β → Prop} {l : List α} {bs : List β}
    (related : List.Forall₂ R l bs) {b : β} (member : b ∈ bs) : ∃ a ∈ l, R a b := by
  induction related with
  | nil => cases member
  | @cons a b' l bs first _ ih =>
      rcases List.mem_cons.mp member with rfl | inRest
      · exact ⟨a, List.mem_cons_self, first⟩
      · obtain ⟨a', inList, further⟩ := ih inRest
        exact ⟨a', List.mem_cons_of_mem _ inList, further⟩

/-- Steps over numbered things whose results do not depend on the numbers. -/
theorem mapM_zipIdx_eq_ok {f : α × Nat → Except ε β} {l : List α} {bs : List β}
    (steps : List.Forall₂ (fun a b => ∀ n, f (a, n) = .ok b) l bs) (n : Nat) :
    (l.zipIdx n).mapM f = .ok bs := by
  rw [mapM_eq_ok_iff]
  induction steps generalizing n with
  | nil => exact .nil
  | cons first _ ih =>
      rw [List.zipIdx_cons]
      exact .cons (first n) (ih (n + 1))

/-- Steps for the items of a list fail with the error of one of them. -/
theorem exists_of_mapM_eq_error {f : α → Except ε β} {l : List α} {e : ε}
    (failed : l.mapM f = .error e) : ∃ a ∈ l, f a = .error e := by
  induction l with
  | nil => cases failed
  | cons a rest ih =>
      rw [List.mapM_cons] at failed
      rcases bind_eq_error_iff.mp failed with first | ⟨b, -, further⟩
      · exact ⟨a, List.mem_cons_self, first⟩
      · rcases bind_eq_error_iff.mp further with others | ⟨bs, -, ended⟩
        · obtain ⟨a', member, step⟩ := ih others
          exact ⟨a', List.mem_cons_of_mem _ member, step⟩
        · cases ended

end Crossmap
