import Crossmap.Proofs.Files.Tree

/-! # Where names lead

The names of a path lead to one place, whatever files there are (`destination`), and a text that is
followed to a member leads there (`eq_destination_of_locate_join`). Making directories puts
directories where nothing was, at places on the way, and changes nothing else
(`makeDirectories_makes`); where it ends well, the whole way is there
(`hasDirectory_of_makeDirectories`).
-/

namespace Crossmap.FileTree

variable {t t' : FileTree}

/-! ## Ways and their ends -/

/-- Where names lead from a directory, one after another. -/
def destination (dir : FilePath) (names : List String) : FilePath := names.foldl follow dir

/-- The places that names lead through from a directory, the last one included. -/
def way (dir : FilePath) : List String → List FilePath
  | [] => []
  | name :: rest => follow dir name :: way (follow dir name) rest

/-- Where the text of a path leads, if all on the way are directories. -/
def textDestination (text : String) : FilePath := destination (pathStart text) (pathNames text)

/-- The places that the text of a path leads through. -/
def textWay (text : String) : List FilePath := way (pathStart text) (pathNames text)

/-- A name behind others leads on from where these lead. -/
theorem eq_destination_of_walk {dir path : FilePath} {names : List String} {name : String}
    (walked : t.walk dir (names ++ [name]) = .ok (.member path)) :
    path = destination dir names ++ [name] := by
  induction names generalizing dir with
  | nil =>
      rw [List.nil_append, walk] at walked
      split at walked
      · cases entered : t.enter dir name with
        | error e =>
            rw [entered] at walked
            cases walked
        | ok path' =>
            rw [entered] at walked
            cases walked
      · split at walked
        · cases walked
        · exact (Place.member.inj (Except.ok.inj walked)).symm
  | cons next rest ih =>
      have more : rest ++ [name] ≠ [] :=
        List.append_ne_nil_of_right_ne_nil _ (List.cons_ne_nil _ _)
      rw [List.cons_append, walk_cons t dir next more] at walked
      obtain ⟨dir', entered, further⟩ := bind_eq_ok_iff.mp walked
      obtain ⟨-, rfl, -⟩ := enter_eq_ok_iff.mp entered
      exact ih further

/-! ## Making directories -/

/-- Whether a tree is another one with directories made where nothing was, at certain places. -/
def Makes (places : List FilePath) (t t' : FileTree) : Prop :=
  ∀ path, t'.entry? path = t.entry? path ∨
    path ∈ places ∧ t.entry? path = none ∧ t'.entry? path = some .directory

/-- A tree in which nothing is made is left as it is. -/
theorem makes_nothing (places : List FilePath) (t : FileTree) : Makes places t t :=
  fun _ => .inl rfl

namespace Makes

variable {places places' : List FilePath} {t'' : FileTree}

/-- What is made at some places is made at these and more. -/
theorem mono (makes : Makes places t t') (more : ∀ path ∈ places, path ∈ places') :
    Makes places' t t' := by
  intro path
  rcases makes path with same | ⟨member, missing, made⟩
  · exact .inl same
  · exact .inr ⟨more path member, missing, made⟩

/-- What is made in two steps is made at the places of both. -/
theorem trans (first : Makes places t t') (second : Makes places t' t'') : Makes places t t'' := by
  intro path
  rcases second path with same | ⟨member, missing, made⟩
  · rw [same]
    exact first path
  · rcases first path with same | ⟨-, -, there⟩
    · exact .inr ⟨member, same.symm.trans missing, made⟩
    · exact nomatch missing.symm.trans there

/-- A directory that was there still is. -/
theorem directory (makes : Makes places t t') {path : FilePath}
    (there : t.entry? path = some .directory) : t'.entry? path = some .directory := by
  rcases makes path with same | ⟨-, -, made⟩
  · exact same.trans there
  · exact made

end Makes

/-- A directory that is made stands at its own place and changes no other. -/
theorem entry?_insert_directory {path : FilePath} (missing : t.entry? path = none)
    (path' : FilePath) :
    FileTree.entry? ⟨t.entries.insert path .directory⟩ path' =
      if path' = path then some .directory else t.entry? path' := by
  have above : isGround path = false := by
    apply eq_false_of_ne_true
    intro ground
    rw [FileTree.entry?, if_pos ground] at missing
    cases missing
  by_cases same : path' = path
  · rw [if_pos same, same, entry?, above, if_neg Bool.false_ne_true, Dict.get?_insert_self]
  · rw [if_neg same, entry?, entry?, Dict.get?_insert, if_neg same]

/-- A directory is made where nothing was. -/
theorem makes_insert {path : FilePath} (missing : t.entry? path = none) :
    Makes [path] t ⟨t.entries.insert path .directory⟩ := by
  intro path'
  rw [entry?_insert_directory missing]
  by_cases same : path' = path
  · rw [if_pos same, same]
    exact .inr ⟨List.mem_cons_self, missing, rfl⟩
  · rw [if_neg same]
    exact .inl rfl

/-- Directories are made along the way only. -/
theorem makes_makeAlong (t : FileTree) (dir : FilePath) (names : List String) :
    Makes (way dir names) t (t.makeAlong dir names).2 := by
  induction names generalizing t dir with
  | nil => exact makes_nothing _ t
  | cons name rest ih =>
      have further (t : FileTree) :
          Makes (way dir (name :: rest)) t (t.makeAlong (follow dir name) rest).2 :=
        (ih t (follow dir name)).mono fun _ => List.mem_cons_of_mem _
      rw [makeAlong]
      split
      · exact further t
      · exact makes_nothing _ t
      · next missing =>
        have first : Makes (way dir (name :: rest)) t
            ⟨t.entries.insert (follow dir name) .directory⟩ := by
          refine (makes_insert missing).mono fun path member => ?_
          rw [List.mem_singleton.mp member]
          exact List.mem_cons_self
        split
        · exact makes_nothing _ t
        · split
          · exact makes_nothing _ t
          · exact first.trans (further _)

/-- Making directories puts them where nothing was, and changes nothing else. -/
theorem makeDirectories_makes (t : FileTree) (text : String) :
    Makes (textWay text) t (t.makeDirectories text).2 := by
  rw [makeDirectories]
  split
  · exact makes_nothing _ t
  · exact makes_makeAlong t _ _

/-- Names along which directories are made lead through directories. -/
theorem leads_of_makeAlong {dir : FilePath} {names : List String}
    (made : t.makeAlong dir names = (.ok (), t')) : t'.Leads dir names := by
  induction names generalizing t dir with
  | nil => trivial
  | cons name rest ih =>
      have left (t : FileTree) (ended : t.makeAlong (follow dir name) rest = (.ok (), t'))
          (there : t.entry? (follow dir name) = some .directory) :
          t'.Leads dir (name :: rest) := by
        have makes := makes_makeAlong t (follow dir name) rest
        rw [ended] at makes
        exact ⟨makes.directory there, ih ended⟩
      rw [makeAlong] at made
      split at made
      · next there => exact left t made there
      · cases made
      · next missing =>
        split at made
        · cases made
        · split at made
          · cases made
          · exact left _ made ((entry?_insert_directory missing _).trans (if_pos rfl))

/-- Where directories have been made, the text leads to a directory. -/
theorem hasDirectory_of_makeDirectories {text : String}
    (made : t.makeDirectories text = (.ok (), t')) : t'.HasDirectory text := by
  rw [makeDirectories] at made
  split at made
  · cases made
  · next sound => exact ⟨sound, leads_of_makeAlong made⟩

/-- Names that lead through directories end at one. -/
theorem entry?_destination {dir : FilePath} {names : List String} (leads : t.Leads dir names)
    (start : t.entry? dir = some .directory) :
    t.entry? (destination dir names) = some .directory := by
  induction names generalizing dir with
  | nil => exact start
  | cons name rest ih => exact ih leads.2 leads.1

/-- A text that leads through directories leads to a directory. -/
theorem HasDirectory.entry?_textDestination {text : String} (there : t.HasDirectory text) :
    t.entry? (textDestination text) = some .directory := by
  refine entry?_destination there.2 ?_
  rw [pathStart]
  split
  · exact if_pos (by decide)
  · exact if_pos (by decide)

/-! ## Names in directories -/

namespace IsFileName

variable {name : String}

/-- A name that is put behind a path does not change where the path starts. -/
theorem pathStart_join (named : IsFileName name) (base : String) :
    pathStart (PathText.join base name) = pathStart base := by
  have begins (s : String) : s.startsWith "/" = true ↔ s.toList.head? = some '/' := by
    rw [String.startsWith_string_iff]
    cases s.toList with
    | nil => decide
    | cons c cs => simp [eq_comm]
  have same : (PathText.join base name).startsWith "/" = base.startsWith "/" := by
    rw [Bool.eq_iff_iff, begins, begins, PathText.join]
    split
    · next empty =>
      rw [String.isEmpty_iff.mp empty]
      refine iff_of_false (fun first => ?_) (by decide)
      exact named.noSlash (List.mem_of_head? first)
    · next filled =>
      have chars : base.toList ≠ [] :=
        mt String.toList_eq_nil_iff.mp (mt String.isEmpty_iff.mpr filled)
      split
      · rw [String.toList_append, List.head?_append_of_ne_nil _ chars]
      · rw [String.append_assoc, String.toList_append, List.head?_append_of_ne_nil _ chars]
  rw [pathStart, pathStart, same]

/-- A text that is extended by a name leads to that name in the directory to which it led. -/
theorem eq_of_locate_join (named : IsFileName name) {base : String} {place : Place}
    (located : t.locate (PathText.join base name) = .ok place) :
    place = .member (textDestination base ++ [name]) := by
  obtain ⟨above, rfl⟩ := named.exists_member_of_locate_join located
  rw [locate] at located
  split at located
  · cases located
  · split at located
    · cases located
    · rw [named.pathNames_join, named.pathStart_join] at located
      exact congrArg Place.member (eq_destination_of_walk located)

end IsFileName

end Crossmap.FileTree
