import Crossmap.Dict
import Mathlib.Data.List.Induction
import Mathlib.Data.List.Nodup

/-! # Looking up and building ordered maps

An entry of a `Dict` is found under its key and nowhere else (`get?_eq_some_iff`). Inserting a list
of entries one after another gives every key its last value (`get?_foldl_insert`), and entries with
distinct keys stand in the map as they stand in the list (`entries_ofList`). `IsLast` says which of
some things comes last among those of a kind.
-/

namespace Crossmap

universe u v

variable {κ : Type u} {α : Type v}

/-- Among things with distinct keys, one thing has the key of a given one. -/
theorem filter_key_eq_singleton [DecidableEq κ] {key : α → κ} {l : List α}
    (nodup : (l.map key).Nodup) {a : α} (member : a ∈ l) :
    (l.filter fun b => key b = key a) = [a] := by
  induction l with
  | nil => exact absurd member List.not_mem_nil
  | cons b rest ih =>
      simp only [List.map_cons, List.nodup_cons] at nodup
      rcases List.mem_cons.mp member with rfl | inRest
      · rw [List.filter_cons_of_pos (by simp), List.cons.injEq]
        refine ⟨rfl, List.filter_eq_nil_iff.mpr fun b inRest same => nodup.1 ?_⟩
        exact List.mem_map.mpr ⟨b, inRest, of_decide_eq_true same⟩
      · have ne : key b ≠ key a := fun same =>
          nodup.1 (List.mem_map.mpr ⟨a, inRest, same.symm⟩)
        rw [List.filter_cons_of_neg (by simpa using ne), ih nodup.2 inRest]

/-- Whether something is the last of its kind in a list. -/
def IsLast (l : List α) (kind : α → Prop) (a : α) : Prop :=
  ∃ before after, l = before ++ a :: after ∧ kind a ∧ ∀ b ∈ after, ¬ kind b

/-- Where there is something of a kind, something is the last of it. -/
theorem exists_isLast {l : List α} {kind : α → Prop} (some : ∃ a ∈ l, kind a) :
    ∃ a, IsLast l kind a := by
  induction l using List.reverseRecOn with
  | nil =>
      obtain ⟨a, member, -⟩ := some
      cases member
  | append_singleton l b ih =>
      by_cases of : kind b
      · exact ⟨b, l, [], rfl, of, List.forall_mem_nil _⟩
      · obtain ⟨a, member, ofKind⟩ := some
        rcases List.mem_append.mp member with inList | isLast
        · obtain ⟨a', before, after, rfl, ofKind', none⟩ := ih ⟨a, inList, ofKind⟩
          refine ⟨a', before, after ++ [b], by simp, ofKind', ?_⟩
          exact List.forall_mem_append.mpr ⟨none, List.forall_mem_singleton.mpr of⟩
        · obtain rfl := List.mem_singleton.mp isLast
          exact (of ofKind).elim

/-- The last of a kind among images is the image of the last thing with an image of that kind. -/
theorem isLast_filterMap_iff {β : Type*} {f : α → Option β} {l : List α} {kind : β → Prop} {b : β} :
    IsLast (l.filterMap f) kind b ↔
      ∃ a, f a = some b ∧ IsLast l (fun a => ∃ b' ∈ f a, kind b') a := by
  constructor
  · rintro ⟨before, after, images, of, none⟩
    obtain ⟨l₁, l₂, rfl, rfl, second⟩ := List.filterMap_eq_append_iff.mp images
    obtain ⟨l₃, a, l₄, rfl, skipped, image, rfl⟩ := List.filterMap_eq_cons_iff.mp second
    refine ⟨a, image, l₁ ++ l₃, l₄, by simp, ⟨b, image, of⟩, ?_⟩
    rintro a' member ⟨b', image', of'⟩
    exact none b' (List.mem_filterMap.mpr ⟨a', member, image'⟩) of'
  · rintro ⟨a, image, before, after, rfl, ⟨b', image', of⟩, none⟩
    obtain rfl := Option.some.inj (image.symm.trans image')
    refine ⟨before.filterMap f, after.filterMap f, ?_, of, ?_⟩
    · rw [List.filterMap_append, List.filterMap_cons_some image]
    · intro c member of'
      obtain ⟨a', inAfter, image'⟩ := List.mem_filterMap.mp member
      exact none a' inAfter ⟨c, image', of'⟩

namespace Dict

@[simp] theorem entries_empty : (empty : Dict κ α).entries = [] := rfl

variable [DecidableEq κ]

@[simp] theorem get?_empty (k : κ) : (empty : Dict κ α).get? k = none := rfl

/-- A value that has been inserted is found under its key. -/
@[simp] theorem get?_insert_self (d : Dict κ α) (k : κ) (a : α) :
    (d.insert k a).get? k = some a := by
  rw [get?_insert, if_pos rfl]

/-- A new key goes to the end. -/
theorem entries_insert_of_notMem (d : Dict κ α) {k : κ} (new : k ∉ d.keys) (a : α) :
    (d.insert k a).entries = d.entries ++ [(k, a)] :=
  put_of_notMem a new

/-- Among distinct keys every pair is found under its key. -/
theorem lookup_eq_some_of_mem {es : List (κ × α)} (nodup : (es.map Prod.fst).Nodup) {k : κ} {a : α}
    (member : (k, a) ∈ es) : es.lookup k = some a := by
  induction es with
  | nil => exact absurd member List.not_mem_nil
  | cons e rest ih =>
      obtain ⟨k₀, a₀⟩ := e
      simp only [List.map_cons, List.nodup_cons] at nodup
      rcases List.mem_cons.mp member with same | inRest
      · cases same
        exact List.lookup_cons_self
      · have ne : k ≠ k₀ := by
          rintro rfl
          exact nodup.1 (List.mem_map.mpr ⟨_, inRest, rfl⟩)
        rw [List.lookup_cons, beq_false_of_ne ne]
        exact ih nodup.2 inRest

/-- What is looked up stands in the list. -/
theorem mem_of_lookup_eq_some {es : List (κ × α)} {k : κ} {a : α} (found : es.lookup k = some a) :
    (k, a) ∈ es := by
  obtain ⟨before, after, rfl, _⟩ := List.lookup_eq_some_iff.mp found
  exact List.mem_append_right _ List.mem_cons_self

/-- A value is found under a key exactly if the two are an entry. -/
theorem get?_eq_some_iff {d : Dict κ α} {k : κ} {a : α} : d.get? k = some a ↔ (k, a) ∈ d.entries :=
  ⟨mem_of_lookup_eq_some, lookup_eq_some_of_mem d.nodup_keys⟩

theorem get?_eq_none_iff {d : Dict κ α} {k : κ} : d.get? k = none ↔ k ∉ d.keys := by
  constructor
  · intro absent member
    obtain ⟨⟨_, a⟩, entry, rfl⟩ := List.mem_map.mp member
    rw [get?_eq_some_iff.mpr entry] at absent
    exact nomatch absent
  · intro absent
    cases found : d.get? k with
    | none => rfl
    | some a => exact (absent (List.mem_map.mpr ⟨_, get?_eq_some_iff.mp found, rfl⟩)).elim

theorem contains_eq_true_iff {d : Dict κ α} {k : κ} : d.contains k = true ↔ k ∈ d.keys := by
  rw [contains, Option.isSome_iff_ne_none, ne_eq, get?_eq_none_iff, not_not]

/-- After entries were inserted one after another, a key holds its last value among them, and what
it held before where it is not among them. -/
theorem get?_foldl_insert (es : List (κ × α)) (d : Dict κ α) (k : κ) :
    (es.foldl (fun d e => d.insert e.1 e.2) d).get? k = (es.reverse.lookup k).or (d.get? k) := by
  induction es generalizing d with
  | nil => rfl
  | cons e rest ih =>
      rw [List.foldl_cons, ih, List.reverse_cons, List.lookup_append, get?_insert, Option.or_assoc]
      by_cases same : k = e.1
      · rw [if_pos same, same, List.lookup_cons_self, Option.some_or]
      · rw [if_neg same, List.lookup_cons, beq_false_of_ne same, List.lookup_nil, Option.none_or]

/-- Pairs with distinct keys that are inserted are found afterwards. -/
theorem get?_foldl_insert_of_mem {es : List (κ × α)} (nodup : (es.map Prod.fst).Nodup)
    (d : Dict κ α) {k : κ} {a : α} (member : (k, a) ∈ es) :
    (es.foldl (fun d e => d.insert e.1 e.2) d).get? k = some a := by
  rw [get?_foldl_insert, lookup_eq_some_of_mem _ (List.mem_reverse.mpr member), Option.some_or]
  rw [List.map_reverse]
  exact List.nodup_reverse.mpr nodup

/-- Inserting other keys does not change what is found under a key. -/
theorem get?_foldl_insert_of_notMem {es : List (κ × α)} (d : Dict κ α) {k : κ}
    (absent : k ∉ es.map Prod.fst) :
    (es.foldl (fun d e => d.insert e.1 e.2) d).get? k = d.get? k := by
  have none : es.reverse.lookup k = none := by
    rw [List.lookup_eq_none_iff]
    intro e member
    rw [bne_iff_ne]
    rintro rfl
    exact absent (List.mem_map.mpr ⟨e, List.mem_reverse.mp member, rfl⟩)
  rw [get?_foldl_insert, none, Option.none_or]

/-- A map of pairs with distinct keys holds these pairs in their order. -/
theorem entries_ofList {es : List (κ × α)} (nodup : (es.map Prod.fst).Nodup) :
    (ofList es).entries = es := by
  rw [ofList, entries_foldl_insert es empty (by simpa using nodup)]
  rfl

/-- A map of pairs holds the last value of every key. -/
theorem get?_ofList (es : List (κ × α)) (k : κ) : (ofList es).get? k = es.reverse.lookup k := by
  rw [ofList, get?_foldl_insert, get?_empty, Option.or_none]

/-- A map made of a list of entries holds the last entry of every key. -/
theorem get?_ofList_eq_some_iff {es : List (κ × α)} {k : κ} {a : α} :
    (ofList es).get? k = some a ↔ IsLast es (fun e => e.1 = k) (k, a) := by
  rw [get?_ofList, List.lookup_eq_some_iff]
  constructor
  · rintro ⟨after, before, reversed, none⟩
    have list : es = before.reverse ++ (k, a) :: after.reverse := by
      rw [← List.reverse_inj, reversed]
      simp
    refine ⟨before.reverse, after.reverse, list, rfl, fun e member same => ?_⟩
    exact absurd same.symm (bne_iff_ne.mp (none e (List.mem_reverse.mp member)))
  · rintro ⟨before, after, rfl, -, none⟩
    refine ⟨after.reverse, before.reverse, by simp, fun e member => ?_⟩
    exact bne_iff_ne.mpr (Ne.symm (none e (List.mem_reverse.mp member)))

/-- After updates under one key after another, a map has these keys in the order in which they first
come. -/
theorem keys_foldl_update {δ : Type*} (key : δ → κ) (value : δ → Option α → α) (l : List δ) :
    (l.foldl (fun d x => d.update (key x) (value x)) empty).keys = (l.map key).eraseDups := by
  induction l using List.reverseRecOn with
  | nil => rfl
  | append_singleton l x ih =>
      rw [List.foldl_concat, update, keys_insert, ih, List.map_append, List.eraseDups_append]
      simp only [List.mem_eraseDups]
      by_cases member : key x ∈ l.map key
      · simp [member, List.removeAll, -List.mem_map]
      · simp [member, List.removeAll, List.eraseDups_cons, -List.mem_map]

/-- What a key leads to after updates is a matter of those under this key. -/
theorem get?_foldl_update {δ : Type*} (key : δ → κ) (value : δ → Option α → α) (l : List δ)
    (d : Dict κ α) (k : κ) :
    (l.foldl (fun d x => d.update (key x) (value x)) d).get? k =
      (l.filter fun x => key x = k).foldl (fun a x => some (value x a)) (d.get? k) := by
  induction l generalizing d with
  | nil => rfl
  | cons x rest ih =>
      rw [List.foldl_cons, ih, update, get?_insert]
      by_cases same : key x = k
      · rw [if_pos same.symm, List.filter_cons_of_pos (by simpa using same), List.foldl_cons, same]
      · rw [if_neg (Ne.symm same), List.filter_cons_of_neg (by simpa using same)]

/-- A map made of a list of entries has the keys of the list in the order in which they first
come. -/
theorem keys_ofList (es : List (κ × α)) : (ofList es).keys = (es.map Prod.fst).eraseDups :=
  keys_foldl_update Prod.fst (fun e _ => e.2) es

/-- No item is left twice when repetitions are erased. -/
theorem nodup_eraseDups (l : List κ) : l.eraseDups.Nodup := by
  have keys : (l.map fun k => (k, ())).map Prod.fst = l := by
    rw [List.map_map]
    exact List.map_id l
  have nodup := (ofList (l.map fun k => (k, ()))).nodup_keys
  rwa [← Dict.keys, keys_ofList, keys] at nodup

/-- A map is determined by its keys in their order and what is found under them. -/
theorem entries_eq_filterMap_keys (d : Dict κ α) :
    d.entries = d.keys.filterMap fun k => (d.get? k).map fun a => (k, a) := by
  have found : ∀ e ∈ d.entries, ((d.get? e.1).map fun a => (e.1, a)) = some e := by
    intro e member
    rw [get?_eq_some_iff.mpr member, Option.map_some]
  rw [keys, List.filterMap_map]
  exact (List.filterMap_some.symm.trans (List.filterMap_congr found).symm)

/-- A map made of a list of entries holds every key in the place of its first entry, with the value
of its last. -/
theorem entries_ofList_eq_filterMap (es : List (κ × α)) :
    (ofList es).entries =
      (es.map Prod.fst).eraseDups.filterMap fun k => (es.reverse.lookup k).map fun a => (k, a) := by
  simp only [entries_eq_filterMap_keys (ofList es), keys_ofList, get?_ofList]

end Dict

end Crossmap
