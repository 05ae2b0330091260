import Crossmap.Proofs.Conversion.Lookups

/-! # Codes and their paths

A value map pairs the codes whose paths no other code has with these paths. Every spelling of such a
code leads to its path and the path back to the code. Nothing else is led back: a path without codes
is refused, and so is a path with several, which are named (`PairsCodes`,
`value_maps_pair_codes_with_paths`).
-/

namespace Crossmap

open Mapping

namespace Mapping.ValueMap

/-- Whether a code is the only one with a path. -/
def OnlyCode (v : ValueMap) (path : String) (code : Code) : Prop :=
  ∀ other, v.path? other = some path ↔ other = code

/-- The codes with a path stand in the order in which the map declares them. -/
theorem codesFor_eq_filter_keys (v : ValueMap) (path : String) :
    v.codesFor path = v.entries.keys.filter fun code => v.path? code = some path := by
  have leads : ∀ e ∈ v.entries.entries,
      decide (e.2 = path) = decide (v.path? e.1 = some path) := by
    intro e member
    have found : v.path? e.1 = some e.2 := Dict.get?_eq_some_iff.mpr member
    rw [found]
    exact decide_eq_decide.mpr ⟨congrArg some, Option.some.inj⟩
  rw [codesFor, Dict.keys, List.filter_map, List.filter_congr leads]
  rfl

/-- A path has a single code exactly if one code is mapped to it and no other one. -/
theorem codesFor_eq_singleton_iff {v : ValueMap} {path : String} {code : Code} :
    v.codesFor path = [code] ↔ v.OnlyCode path code := by
  constructor
  · intro single other
    rw [← mem_codesFor_iff, single, List.mem_singleton]
  · intro only
    apply List.perm_singleton.mp
    rw [List.perm_ext_iff_of_nodup (v.nodup_codesFor path) (List.nodup_singleton code)]
    intro other
    rw [mem_codesFor_iff, List.mem_singleton]
    exact only other

end Mapping.ValueMap

/-- How a model leads values through one of its value maps, in both directions. -/
structure PairsCodes (m : Model) (name : String) (v : ValueMap) : Prop where
  /-- What leads to a path is what spells one of its codes. -/
  forward_iff : ∀ text path, text ≠ passThrough →
    (m.forward (some name) (some text) = .ok (some path) ↔
      ∃ code, code.SpelledBy text ∧ v.path? code = some path)
  /-- Every spelling of the only code of a path leads to the path and back to the code. -/
  forth : ∀ code path text, path ≠ passThrough → v.OnlyCode path code → code.SpelledBy text →
    m.forward (some name) (some text) = .ok (some path) ∧
      (m.forward (some name) (some text) >>= m.backward (some name)) = .ok (.whole code.toInt)
  /-- What a path is led back to is its only code, whose text leads to the path again. -/
  back : ∀ path cell, path ≠ passThrough → m.backward (some name) (some path) = .ok cell →
    ∃ code, cell = .whole code.toInt ∧ v.OnlyCode path code ∧
      m.forward (some name) (cellText cell) = .ok (some path)
  unresolvable : ∀ path, path ≠ passThrough → (∀ code, v.path? code ≠ some path) →
    m.backward (some name) (some path) = .error (.unresolvableValue name path)
  /-- The codes of a path that has several are named, in declared order. -/
  ambiguous : ∀ path code other, path ≠ passThrough → code ≠ other →
    v.path? code = some path → v.path? other = some path →
      m.backward (some name) (some path) = .error (.ambiguousValue name path
        (v.entries.keys.filter fun k => v.path? k = some path))

section Resolution

variable {m : Model} {name : String} {v : ValueMap}

/-- The text that passes unchanged spells no code. -/
theorem Code.SpelledBy.ne_passThrough {code : Code} {text : String} (spelled : code.SpelledBy text) :
    text ≠ passThrough := by
  intro same
  have read := Code.ofText?_eq_some_iff.mpr spelled
  rw [same] at read
  exact nomatch read

/-- On the way out a text leads to a path exactly if it spells a code that is mapped to it. -/
theorem forward_eq_ok_some_iff (declared : m.valueMap? name = some v) {text path : String}
    (value : text ≠ passThrough) :
    m.forward (some name) (some text) = .ok (some path) ↔
      ∃ code, code.SpelledBy text ∧ v.path? code = some path := by
  constructor
  · intro led
    rcases Model.forwardThrough_eq_ok_some_iff.mp led with
      ⟨passes, -⟩ | ⟨-, v', code, declared', read, leads⟩
    · exact (value passes).elim
    · obtain rfl := Option.some.inj (declared.symm.trans declared')
      exact ⟨code, Code.ofText?_eq_some_iff.mp read, leads⟩
  · rintro ⟨code, spelled, leads⟩
    exact Model.forwardThrough_eq_ok_some_iff.mpr
      (.inr ⟨value, v, code, declared, Code.ofText?_eq_some_iff.mpr spelled, leads⟩)

/-- On the way back a path leads to a code exactly if it has this one only. -/
theorem backward_eq_ok_iff (declared : m.valueMap? name = some v) {path : String} {cell : Cell}
    (value : path ≠ passThrough) :
    m.backward (some name) (some path) = .ok cell ↔
      ∃ code, cell = .whole code.toInt ∧ v.OnlyCode path code := by
  constructor
  · intro led
    rcases Model.backwardThrough_eq_ok_iff.mp led with
      ⟨passes, -⟩ | ⟨-, v', code, declared', single, rfl⟩
    · exact (value passes).elim
    · obtain rfl := Option.some.inj (declared.symm.trans declared')
      exact ⟨code, rfl, ValueMap.codesFor_eq_singleton_iff.mp single⟩
  · rintro ⟨code, rfl, only⟩
    exact Model.backwardThrough_eq_ok_iff.mpr
      (.inr ⟨value, v, code, declared, ValueMap.codesFor_eq_singleton_iff.mpr only, rfl⟩)

/-- A path is refused with the error that says why it has not one code. -/
theorem backward_eq_error_of_fails {path : String} {e : ResolutionError}
    (fails : (Lookup.code name (some path)).Fails m e) :
    m.backward (some name) (some path) = .error e := by
  rcases backwardThrough_cases m name path with ⟨cell, -, resolves⟩ | ⟨e', refused, fails'⟩
  · exact (fails.not_resolves resolves).elim
  · rw [fails.unique fails']
    exact refused

/-- However the only code of a path is spelt, it leads to the path. -/
theorem forward_of_onlyCode (declared : m.valueMap? name = some v) {code : Code}
    {path text : String} (only : v.OnlyCode path code) (spelled : code.SpelledBy text) :
    m.forward (some name) (some text) = .ok (some path) :=
  (forward_eq_ok_some_iff declared spelled.ne_passThrough).mpr
    ⟨code, spelled, (only code).mpr rfl⟩

/-- Every value map that is declared pairs its codes with its paths. -/
theorem pairsCodes (declared : m.valueMap? name = some v) : PairsCodes m name v where
  forward_iff text path value := forward_eq_ok_some_iff declared value
  forth code path text value only spelled := by
    have forth := forward_of_onlyCode declared only spelled
    have back := (backward_eq_ok_iff declared value).mpr ⟨code, rfl, only⟩
    exact ⟨forth, bind_eq_ok_iff.mpr ⟨some path, forth, back⟩⟩
  back path cell value led := by
    obtain ⟨code, whole, only⟩ := (backward_eq_ok_iff declared value).mp led
    exact ⟨code, whole, only, Model.forward_cellText_of_backward led⟩
  unresolvable path value none := backward_eq_error_of_fails (.unresolvable value declared none)
  ambiguous path code other value apart one another := by
    rw [← ValueMap.codesFor_eq_filter_keys]
    exact backward_eq_error_of_fails (.ambiguous value declared one another apart)

end Resolution

/-- **Value maps pair codes with paths.** A declared value map leads every spelling of a code to its
path, and the path back to the code, if no other code has it. Paths without codes and paths with
several are refused. Absent values and the text that passes value maps are left alone in both
directions, whether the map is declared or not. -/
theorem value_maps_pair_codes_with_paths (m : Model) :
    (∀ name v, m.valueMap? name = some v → PairsCodes m name v) ∧
      ∀ map : Option String,
        m.forward map none = .ok none ∧ m.backward map none = .ok .null ∧
          m.forward map (some passThrough) = .ok (some passThrough) ∧
          m.backward map (some passThrough) = .ok (.string passThrough) := by
  refine ⟨fun name v declared => pairsCodes declared, fun map => ?_⟩
  refine ⟨?_, ?_, Model.forward_passThrough map, Model.backward_passThrough map⟩
  · cases map <;> rfl
  · cases map <;> rfl

/-- The least and the greatest code, and two codes with one path. -/
def edgeMap : ValueMap where
  name := "EDGE"
  entries := .ofList [(Int64.minValue, "Low"), (7, "Twin"), (Int64.maxValue, "High"), (8, "Twin")]

def edgeModel : Model := { Model.bare "edges" with valueMaps := .ofList [("EDGE", edgeMap)] }

/-- The least and the greatest code are the only ones of their paths. -/
theorem onlyCode_edgeMap :
    edgeMap.OnlyCode "Low" Int64.minValue ∧ edgeMap.OnlyCode "High" Int64.maxValue := by
  have low : edgeMap.codesFor "Low" = [Int64.minValue] := by decide
  have high : edgeMap.codesFor "High" = [Int64.maxValue] := by decide
  exact ⟨ValueMap.codesFor_eq_singleton_iff.mp low, ValueMap.codesFor_eq_singleton_iff.mp high⟩

theorem value_maps_pair_codes_with_paths_edge :
    edgeModel.forward (some "EDGE") (some "\u2003-009223372036854775808\n") = .ok (some "Low") ∧
      edgeModel.backward (some "EDGE") (some "Low") = .ok (.whole (-9223372036854775808)) ∧
      edgeModel.forward (some "EDGE") (some " +9223372036854775807") = .ok (some "High") ∧
      edgeModel.backward (some "EDGE") (some "High") = .ok (.whole 9223372036854775807) ∧
      edgeModel.backward (some "EDGE") (some "Twin") =
        .error (.ambiguousValue "EDGE" "Twin" [7, 8]) ∧
      edgeModel.backward (some "EDGE") (some "Mid") =
        .error (.unresolvableValue "EDGE" "Mid") ∧
      edgeModel.forward (some "GONE") (some "@") = .ok (some "@") := by
  obtain ⟨maps, passes⟩ := value_maps_pair_codes_with_paths edgeModel
  have pairs := maps "EDGE" edgeMap (by decide)
  obtain ⟨onlyLow, onlyHigh⟩ := onlyCode_edgeMap
  have emSpace : ∀ c ∈ ['\u2003'], Text.isBlank c := List.forall_mem_singleton.mpr (by decide)
  have lineFeed : ∀ c ∈ ['\n'], Text.isBlank c := List.forall_mem_singleton.mpr (by decide)
  have space : ∀ c ∈ [' '], Text.isBlank c := List.forall_mem_singleton.mpr (by decide)
  have low : Code.SpelledBy Int64.minValue "\u2003-009223372036854775808\n" :=
    ⟨['\u2003'], '-' :: Code.paddedDigits 2 9223372036854775808, ['\n'], by decide +kernel,
      emSpace, lineFeed, .minus 2 9223372036854775808⟩
  have high : Code.SpelledBy Int64.maxValue " +9223372036854775807" :=
    ⟨[' '], '+' :: Code.paddedDigits 0 9223372036854775807, [], by decide +kernel, space,
      List.forall_mem_nil _, .plus 0 9223372036854775807⟩
  obtain ⟨lowForth, lowBack⟩ := pairs.forth _ _ _ (by decide) onlyLow low
  obtain ⟨highForth, highBack⟩ := pairs.forth _ _ _ (by decide) onlyHigh high
  rw [lowForth] at lowBack
  rw [highForth] at highBack
  have twins := pairs.ambiguous "Twin" 7 8 (by decide) (by decide) (by decide) (by decide)
  have gone := pairs.unresolvable "Mid" (by decide) fun code leads => by
    have none : edgeMap.codesFor "Mid" = [] := by decide
    have member := ValueMap.mem_codesFor_iff.mpr leads
    rw [none] at member
    cases member
  exact ⟨lowForth, lowBack, highForth, highBack, twins, gone, (passes (some "GONE")).2.2.1⟩

end Crossmap
