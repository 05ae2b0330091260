import Crossmap.Proofs.Mapping.TapeLaws

/-! # Clauses are read from a tape

What is read of a clause after its keyword, whatever the kind of the declaration, is what the reader
for that kind reads (`follows_dataClause`, `follows_inspectionClause`). Every keyword that a kind
lists begins a clause that can be read, and one of that kind, so that neither of the two traps for
clauses is come to.
-/

namespace Crossmap.Mapping

/-- A clause of a data declaration as a clause. -/
def DataClause.clause : DataClause → Clause
  | .common c => .common c
  | .filter column literal => .filter column literal
  | .annexe className => .annexe className
  | .annexed source => .annexed source
  | .join j => .join j
  | .nesting n => .nesting n

/-- A clause of an inspection as a clause. -/
def InspectionClause.clause : InspectionClause → Clause
  | .common c => .common c
  | .parent column => .parent column
  | .structAttr column map => .structAttr column map
  | .classColumn column map => .classColumn column map

@[simp] theorem DataClause.data?_clause (c : DataClause) : c.clause.data? = some c := by
  cases c <;> rfl

@[simp] theorem InspectionClause.inspection?_clause (c : InspectionClause) :
    c.clause.inspection? = some c := by
  cases c <;> rfl

theorem map_ended {α β : Type} (f : α → β) (p : TokenReader α) :
    f <$> ended p = ended (f <$> p) := by
  simp only [ended, map_bind, map_pure, bind_map_left]

namespace Tape

variable {source : String} {tokens : Tokens}

/-! ## Columns -/

/-- A target path is read as the token reader reads it. -/
theorem follows_targetPath :
    Follows source tokens (tokens.tape source).targetPath Mapping.targetPath := by
  refine ⟨fun {c ts} stands => ?_⟩
  have looked : (tokens.tape source).targetPath.run c = _ :=
    Machine.run_bind_of_done (run_peek stands)
  have path : EndsAs source tokens _ c _ := (follows_path "target path").ends stands
  cases ts with
  | nil => exact endsAs_of_run_eq looked (.refl stands) path
  | cons t ts =>
      cases t with
      | marker s =>
          exact ⟨c.next, looked.trans (Machine.run_bind_of_done (run_advance stands)),
            reaches_next stands⟩
      | name s => exact endsAs_of_run_eq looked (.refl stands) path
      | code k => exact endsAs_of_run_eq looked (.refl stands) path
      | quoted s => exact endsAs_of_run_eq looked (.refl stands) path
      | symbol s => exact endsAs_of_run_eq looked (.refl stands) path

/-- A column is bound to a path as the token reader binds it. -/
theorem follows_binding : Follows source tokens (tokens.tape source).binding Mapping.binding := by
  refine (follows_take _ _).bind fun first => ?_
  cases first with
  | name s => exact (follows_symbol _).bind fun _ => follows_targetPath.bind fun _ => follows_pure _
  | marker s => exact (follows_symbol _).bind fun _ => (follows_name _).bind fun _ => follows_pure _

/-- A column is read with its value map as the token reader reads it. -/
theorem follows_boundColumn :
    Follows source tokens (tokens.tape source).boundColumn Mapping.boundColumn := by
  refine follows_binding.bind fun bound => (follows_eat _).bind fun comma => ?_
  cases comma with
  | false => exact follows_pure _
  | true => exact (follows_name _).bind fun _ => follows_pure _

/-! ## Clauses -/

/-- A conversion is read as the token reader reads it. -/
theorem follows_conversionCall :
    Follows source tokens (tokens.tape source).conversionCall Mapping.conversionCall :=
  (follows_name _).bind fun _ => (follows_symbol _).bind fun _ => (follows_name _).bind fun _ =>
    (follows_symbol _).bind fun _ => (follows_name _).bind fun _ => (follows_symbol _).bind fun _ =>
      follows_pure _

/-- A short name is read as the token reader reads it. -/
theorem follows_aliasDeclaration :
    Follows source tokens (tokens.tape source).aliasDeclaration Mapping.aliasDeclaration :=
  (follows_name _).bind fun _ => (follows_symbol _).bind fun _ => (follows_path _).bind fun _ =>
    follows_pure _

/-- The columns of a block are read as the token reader reads them. -/
theorem readsEntry_blockColumn :
    ReadsEntry source tokens (tokens.tape source).blockColumn blockColumn? [.keyword "COLUMN"] where
  goes {columns c t ts p} stands some := by
    rw [blockColumn?, Option.ite_none_right_eq_some] at some
    obtain ⟨rfl, same⟩ := some
    obtain rfl := Option.some.inj same
    refine ⟨_, ?_, endsAs_map (follows_boundColumn.ended.ends stands.next) _⟩
    rw [Tape.blockColumn, Machine.run_bind_of_done (run_peek stands), if_pos (by simp)]
    exact Machine.run_bind_of_done (run_advance stands)
  refuses {columns c ts} stands none := by
    rw [Tape.blockColumn, Machine.run_bind_of_done (run_peek stands), if_neg]
    · rfl
    · intro head
      simpa [blockColumn?] using none _ head
  brace columns := rfl

/-- A block of columns is read as the token reader reads it. -/
theorem follows_columnBlock :
    Follows source tokens (tokens.tape source).columnBlock Mapping.columnBlock :=
  (follows_name _).bind fun _ => (follows_symbol _).bind fun _ =>
    readsEntry_blockColumn.follows_block_bind _ fun _ => (follows_eat _).bind fun _ =>
      follows_pure _

/-- A filter is read as the token reader reads it. -/
theorem follows_filter :
    Follows source tokens (tokens.tape source).filter (DataClause.clause <$> filterClause) := by
  simp only [filterClause, map_bind, map_pure]
  exact (follows_name _).bind fun _ => (follows_eat _).bind fun _ =>
    (follows_take _ _).bind fun _ => follows_pure _

theorem follows_joinDeclaration :
    Follows source tokens (tokens.tape source).joinDeclaration Mapping.joinDeclaration :=
  (follows_name _).bind fun _ => (follows_name _).bind fun _ => (follows_keyword _).bind fun _ =>
    (follows_name _).bind fun _ => (follows_symbol _).bind fun _ => (follows_name _).bind fun _ =>
      follows_pure _

theorem follows_nestingDeclaration :
    Follows source tokens (tokens.tape source).nestingDeclaration Mapping.nestingDeclaration :=
  (follows_name _).bind fun _ => (follows_keyword _).bind fun _ => (follows_name _).bind fun _ =>
    follows_pure _

/-- What follows the keyword of a clause that both kinds of declaration can hold. -/
theorem follows_commonClause {word : String} {p : TokenReader CommonClause}
    (after : CommonClause.after? word = some p) :
    Follows source tokens ((tokens.tape source).clauseAfter word) (Clause.common <$> p) := by
  unfold CommonClause.after? at after
  split at after
  all_goals cases after
  · rw [map_ended, Functor.map_map]
    exact ((follows_take _ _).map _).ended
  · rw [map_ended, Functor.map_map]
    exact ((follows_name _).map _).ended
  · rw [map_ended, Functor.map_map]
    exact (follows_conversionCall.map _).ended
  · rw [map_ended, Functor.map_map]
    exact (follows_aliasDeclaration.map _).ended
  · rw [Functor.map_map]
    exact follows_columnBlock.map _
  · rw [map_ended, Functor.map_map]
    exact (follows_boundColumn.map _).ended

/-- What follows the keyword of a clause of a data declaration. -/
theorem follows_dataClause {word : String} {p : TokenReader DataClause}
    (after : DataClause.after? word = some p) :
    Follows source tokens ((tokens.tape source).clauseAfter word) (DataClause.clause <$> p) := by
  unfold DataClause.after? at after
  split at after
  case h_6 =>
    obtain ⟨q, common, rfl⟩ := Option.map_eq_some_iff.mp after
    rw [Functor.map_map]
    exact follows_commonClause common
  all_goals cases after
  · rw [map_ended]
    exact follows_filter.ended
  · rw [map_ended, Functor.map_map]
    exact ((follows_path _).map _).ended
  · rw [map_ended, Functor.map_map]
    exact ((follows_name _).map _).ended
  · rw [map_ended, Functor.map_map]
    exact (follows_joinDeclaration.map _).ended
  · rw [map_ended, Functor.map_map]
    exact (follows_nestingDeclaration.map _).ended

/-- What follows the keyword of a clause of an inspection. -/
theorem follows_inspectionClause {word : String} {p : TokenReader InspectionClause}
    (after : InspectionClause.after? word = some p) :
    Follows source tokens ((tokens.tape source).clauseAfter word)
      (InspectionClause.clause <$> p) := by
  unfold InspectionClause.after? at after
  split at after
  case h_4 =>
    obtain ⟨q, common, rfl⟩ := Option.map_eq_some_iff.mp after
    rw [Functor.map_map]
    exact follows_commonClause common
  all_goals cases after
  · rw [map_ended, Functor.map_map]
    exact ((follows_name _).map _).ended
  · rw [map_ended]
    simp only [structAttrClause, map_bind, map_pure]
    exact ((follows_name _).bind fun _ => (follows_name _).bind fun _ => follows_pure _).ended
  · rw [map_ended]
    simp only [classColumnClause, map_bind, map_pure]
    exact ((follows_name _).bind fun _ => (follows_name _).bind fun _ => follows_pure _).ended

end Tape

end Crossmap.Mapping
