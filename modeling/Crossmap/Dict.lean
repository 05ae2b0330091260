/-!
# Maps that keep their order

A `Dict` lists its entries in the order in which their keys first came in. A key that comes in
again keeps its place and takes the new value. Rows, filters, value maps and the members of a
document are all of this kind, so that what is written out stands in the order in which it was
given.

The view of a `Dict` is `entries`. `keys_insert` and `get?_insert` say what an insertion does to it,
and `ofList_entries` says that inserting the entries of a `Dict` in order makes it again.
-/

namespace Crossmap

universe u v w

/-- A map whose entries stand in the order in which their keys first came in. -/
@[ext] structure Dict (κ : Type u) (α : Type v) where
  entries : List (κ × α)
  nodup_keys : (entries.map Prod.fst).Nodup
  deriving DecidableEq

namespace Dict

variable {κ : Type u} {α : Type v} {β : Type w}

/-- The map without entries. -/
def empty : Dict κ α := ⟨[], List.nodup_nil⟩

instance : Inhabited (Dict κ α) := ⟨empty⟩

instance : EmptyCollection (Dict κ α) := ⟨empty⟩

/-- The keys, oldest first. -/
def keys (d : Dict κ α) : List κ := d.entries.map Prod.fst

/-- The values, in the order of their keys. -/
def values (d : Dict κ α) : List α := d.entries.map Prod.snd

/-- The number of entries. -/
def size (d : Dict κ α) : Nat := d.entries.length

/-- Whether there is no entry. -/
def isEmpty (d : Dict κ α) : Bool := d.entries.isEmpty

/-- Every value replaced by its image, keys and order kept. -/
def mapValues (f : κ → α → β) (d : Dict κ α) : Dict κ β where
  entries := d.entries.map fun e => (e.1, f e.1 e.2)
  nodup_keys := by simpa [Function.comp_def] using d.nodup_keys

variable [DecidableEq κ]

/-- The value under a key. -/
def get? (d : Dict κ α) (k : κ) : Option α := d.entries.lookup k

/-- Whether a key has an entry. -/
def contains (d : Dict κ α) (k : κ) : Bool := (d.get? k).isSome

/-- Puts a value under a key: in the place of the entry with that key, else at the end. -/
def put (k : κ) (a : α) : List (κ × α) → List (κ × α)
  | [] => [(k, a)]
  | e :: rest => if e.1 = k then (k, a) :: rest else e :: put k a rest

/-- Putting a value adds at most its own key, at the end. -/
theorem map_fst_put (k : κ) (a : α) (es : List (κ × α)) :
    (put k a es).map Prod.fst =
      if k ∈ es.map Prod.fst then es.map Prod.fst else es.map Prod.fst ++ [k] := by
  induction es with
  | nil => simp [put]
  | cons e rest ih =>
    by_cases h : e.1 = k
    · simp [put, h]
    · have h' : k ≠ e.1 := fun eq => h eq.symm
      by_cases hk : k ∈ rest.map Prod.fst
      · simp only [hk, if_true] at ih
        simp only [put, h, if_false, List.map_cons, ih, List.mem_cons, hk, or_true, if_true]
      · simp only [hk, if_false] at ih
        simp only [put, h, if_false, List.map_cons, ih, List.mem_cons, h', hk, or_self,
          List.cons_append]

/-- Putting a value leaves every key with one entry. -/
theorem nodup_map_fst_put (k : κ) (a : α) {es : List (κ × α)} (h : (es.map Prod.fst).Nodup) :
    ((put k a es).map Prod.fst).Nodup := by
  rw [map_fst_put]
  split
  · exact h
  · rename_i hk
    exact List.nodup_append.mpr ⟨h, by simp, by
      intro x hx y hy
      simp only [List.mem_singleton] at hy
      subst hy
      exact fun eq => hk (eq ▸ hx)⟩

/-- The map with a value put under a key. -/
def insert (d : Dict κ α) (k : κ) (a : α) : Dict κ α :=
  ⟨put k a d.entries, nodup_map_fst_put k a d.nodup_keys⟩

/-- The map with the value under a key replaced by what `f` makes of it. -/
def update (d : Dict κ α) (k : κ) (f : Option α → α) : Dict κ α :=
  d.insert k (f (d.get? k))

/-- The map made by inserting the entries of a list one after another. -/
def ofList (es : List (κ × α)) : Dict κ α :=
  es.foldl (fun d e => d.insert e.1 e.2) empty

/-- An insertion keeps the order of the keys and adds a new one at the end. -/
theorem keys_insert (d : Dict κ α) (k : κ) (a : α) :
    (d.insert k a).keys = if k ∈ d.keys then d.keys else d.keys ++ [k] :=
  map_fst_put k a d.entries

/-- Looking a key up after a value was put. -/
theorem lookup_put (k k' : κ) (a : α) (es : List (κ × α)) :
    (put k a es).lookup k' = if k' = k then some a else es.lookup k' := by
  induction es with
  | nil =>
    by_cases h : k' = k
    · simp [put, h]
    · simp [put, h]
  | cons e rest ih =>
    obtain ⟨k₀, a₀⟩ := e
    by_cases h : k₀ = k
    · subst h
      by_cases h' : k' = k₀
      · simp [put, h']
      · simp [put, List.lookup_cons, h', beq_false_of_ne h']
    · by_cases h' : k' = k₀
      · subst h'
        simp [put, h]
      · simp [put, h, List.lookup_cons, beq_false_of_ne h', ih]

/-- Looking a key up after an insertion. -/
theorem get?_insert (d : Dict κ α) (k k' : κ) (a : α) :
    (d.insert k a).get? k' = if k' = k then some a else d.get? k' :=
  lookup_put k k' a d.entries

/-- A value put under a new key comes last. -/
theorem put_of_notMem {k : κ} (a : α) {es : List (κ × α)} (h : k ∉ es.map Prod.fst) :
    put k a es = es ++ [(k, a)] := by
  induction es with
  | nil => rfl
  | cons e rest ih =>
    simp only [List.map_cons, List.mem_cons, not_or] at h
    rw [put, if_neg (Ne.symm h.1), ih h.2, List.cons_append]

/-- Inserting entries with new keys appends them. -/
theorem entries_foldl_insert (es : List (κ × α)) (d : Dict κ α)
    (h : ((d.entries ++ es).map Prod.fst).Nodup) :
    (es.foldl (fun d e => d.insert e.1 e.2) d).entries = d.entries ++ es := by
  induction es generalizing d with
  | nil => simp
  | cons e rest ih =>
    have hnew : e.1 ∉ d.entries.map Prod.fst := by
      intro hmem
      rw [List.map_append, List.nodup_append] at h
      exact h.2.2 _ hmem _ (by simp) rfl
    have hins : (d.insert e.1 e.2).entries = d.entries ++ [e] := put_of_notMem e.2 hnew
    rw [List.foldl_cons, ih (d.insert e.1 e.2) (by simpa [hins] using h), hins]
    simp

/-- A map is made by its own entries. -/
theorem ofList_entries (d : Dict κ α) : ofList d.entries = d := by
  apply Dict.ext
  have h := entries_foldl_insert d.entries (empty : Dict κ α) (by
    simpa [empty] using d.nodup_keys)
  simpa [ofList, empty] using h

end Dict

end Crossmap
