import Crossmap.Proofs.Conversion.Results
import Crossmap.Proofs.Dict.Lookup
import Crossmap.Proofs.Number.CodeText

/-! # Values on their way out and back

What `Model.backward` writes for a value, `Model.forward` reads as that value: absent values, the
text that passes unchanged, values without a value map, and paths that a single code has
(`forward_cellText_of_backward`). A path of a value map without repeated paths has a single code
(`codesFor_eq_singleton`).
-/

namespace Crossmap

namespace Mapping

namespace ValueMap

/-- The codes of a path are those that are mapped to it. -/
theorem mem_codesFor_iff {v : ValueMap} {code : Code} {path : String} :
    code ∈ v.codesFor path ↔ v.path? code = some path := by
  rw [path?, Dict.get?_eq_some_iff, codesFor, List.mem_map]
  constructor
  · rintro ⟨⟨code', path'⟩, member, rfl⟩
    obtain ⟨entry, same⟩ := List.mem_filter.mp member
    have same : path' = path := of_decide_eq_true same
    exact same ▸ entry
  · intro entry
    exact ⟨(code, path), List.mem_filter.mpr ⟨entry, decide_eq_true rfl⟩, rfl⟩

/-- In a map without repeated paths every path of it has a single code. -/
theorem codesFor_eq_singleton {v : ValueMap} (nodup : v.entries.values.Nodup) {path : String}
    (member : path ∈ v.entries.values) : ∃ code, v.codesFor path = [code] := by
  obtain ⟨e, entry, rfl⟩ := List.mem_map.mp member
  exact ⟨e.1, by rw [codesFor, filter_key_eq_singleton nodup entry, List.map_cons, List.map_nil]⟩

end ValueMap

namespace Model

variable {m : Model}

/-- The text of a whole number is its decimal digits. -/
theorem cellText_whole (n : Int) : cellText (.whole n) = some (intText n) := by
  simp [cellText, Json.whole, Json.compact, Json.chars, Number.text]

/-- A value map that is asked for is found exactly if it is declared. -/
theorem requireMap_eq_ok_iff {name : String} {v : ValueMap} :
    m.requireMap name = .ok v ↔ m.valueMap? name = some v := by
  unfold requireMap
  cases m.valueMap? name <;> simp

/-- A value that is led back through a map passes unchanged or becomes its only code. -/
theorem backwardThrough_eq_ok_iff {name value : String} {cell : Cell} :
    m.backwardThrough name value = .ok cell ↔
      value = passThrough ∧ cell = .string value ∨
        value ≠ passThrough ∧ ∃ v code, m.valueMap? name = some v ∧ v.codesFor value = [code] ∧
          cell = .whole code.toInt := by
  unfold backwardThrough
  by_cases passes : value = passThrough
  · simp [passes, eq_comm]
  · rw [if_neg passes, bind_eq_ok_iff]
    constructor
    · rintro ⟨v, required, chosen⟩
      rcases codes : v.codesFor value with _ | ⟨code, _ | ⟨_, _⟩⟩
      · rw [codes] at chosen
        exact nomatch chosen
      · rw [codes] at chosen
        have cell := Except.ok.inj chosen
        exact .inr ⟨passes, v, code, requireMap_eq_ok_iff.mp required, codes, cell.symm⟩
      · rw [codes] at chosen
        exact nomatch chosen
    · rintro (⟨same, -⟩ | ⟨-, v, code, declared, single, rfl⟩)
      · exact (passes same).elim
      · refine ⟨v, requireMap_eq_ok_iff.mpr declared, ?_⟩
        rw [single]
        rfl

/-- A value that is led through a map to a path passes unchanged or writes a code of that path. -/
theorem forwardThrough_eq_ok_some_iff {name value path : String} :
    m.forwardThrough name value = .ok (some path) ↔
      value = passThrough ∧ path = value ∨
        value ≠ passThrough ∧ ∃ v code, m.valueMap? name = some v ∧
          Code.ofText? value = some code ∧ v.path? code = some path := by
  unfold forwardThrough
  by_cases passes : value = passThrough
  · simp [passes, eq_comm]
  · rw [if_neg passes, bind_eq_ok_iff]
    constructor
    · rintro ⟨v, required, led⟩
      cases code : Code.ofText? value with
      | none =>
          rw [code] at led
          exact nomatch led
      | some c =>
          rw [code] at led
          exact .inr ⟨passes, v, c, requireMap_eq_ok_iff.mp required, rfl, Except.ok.inj led⟩
    · rintro (⟨same, -⟩ | ⟨-, v, c, declared, code, leads⟩)
      · exact (passes same).elim
      · refine ⟨v, requireMap_eq_ok_iff.mpr declared, ?_⟩
        rw [code]
        exact congrArg Except.ok leads

/-- A value passes or is led to the path of the code that it writes. -/
theorem forwardThrough_passThrough (name : String) :
    m.forwardThrough name passThrough = .ok (some passThrough) := by
  rw [forwardThrough, if_pos rfl]

/-- The text of a code leads to what the code is mapped to. -/
theorem forwardThrough_text {name : String} {v : ValueMap} (declared : m.valueMap? name = some v)
    (code : Code) : m.forwardThrough name code.text = .ok (v.path? code) := by
  have ne : code.text ≠ passThrough := by
    intro same
    have read := Code.ofText?_text code
    rw [same] at read
    exact nomatch read
  rw [forwardThrough, if_neg ne, requireMap_eq_ok_iff.mpr declared]
  simp [bind, Except.bind, Code.ofText?_text, pure, Except.pure]

/-- The text that passes unchanged does so on the way out, whatever the value map. -/
theorem forward_passThrough (map : Option String) :
    m.forward map (some passThrough) = .ok (some passThrough) := by
  cases map with
  | none => rfl
  | some name => exact forwardThrough_passThrough name

/-- The text that passes unchanged does so on the way back, whatever the value map. -/
theorem backward_passThrough (map : Option String) :
    m.backward map (some passThrough) = .ok (.string passThrough) := by
  cases map with
  | none => rfl
  | some name => exact backwardThrough_eq_ok_iff.mpr (.inl ⟨rfl, rfl⟩)

/-- **What is written for a value reads as that value.** -/
theorem forward_cellText_of_backward {map value : Option String} {cell : Cell}
    (written : m.backward map value = .ok cell) : m.forward map (cellText cell) = .ok value := by
  cases value with
  | none =>
      simp only [backward, Except.ok.injEq] at written
      subst written
      cases map <;> rfl
  | some value =>
      cases map with
      | none =>
          simp only [backward, Except.ok.injEq] at written
          subst written
          rfl
      | some name =>
          rcases backwardThrough_eq_ok_iff.mp written with
            ⟨rfl, rfl⟩ | ⟨_, v, code, declared, codes, rfl⟩
          · exact forwardThrough_passThrough name
          · have leads : v.path? code = some value :=
              ValueMap.mem_codesFor_iff.mp (codes ▸ List.mem_singleton_self code)
            rw [cellText_whole]
            exact (forwardThrough_text declared code).trans (congrArg _ leads)

/-- A value under a declared map without repeated paths can be written if it passes unchanged or is
a path of the map. -/
theorem exists_backward_eq_ok {name value : String} {v : ValueMap}
    (declared : m.valueMap? name = some v) (nodup : v.entries.values.Nodup)
    (admitted : value = passThrough ∨ value ∈ v.entries.values) :
    ∃ cell, m.backward (some name) (some value) = .ok cell := by
  by_cases passes : value = passThrough
  · exact ⟨_, backwardThrough_eq_ok_iff.mpr (.inl ⟨passes, rfl⟩)⟩
  · obtain ⟨code, codes⟩ := ValueMap.codesFor_eq_singleton nodup (admitted.resolve_left passes)
    exact ⟨_, backwardThrough_eq_ok_iff.mpr (.inr ⟨passes, v, code, declared, codes, rfl⟩)⟩

end Model

end Mapping

end Crossmap
