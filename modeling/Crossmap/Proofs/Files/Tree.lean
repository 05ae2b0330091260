import Crossmap.Files.Tree
import Crossmap.Proofs.Conversion.Results
import Crossmap.Proofs.Dict.Lookup
import Crossmap.Proofs.Text.Split

/-! # Writing to and reading from trees of files

Where a text of a path leads depends on the directories of a tree only
(`SameDirectories.locate_eq_ok`), and writing a file changes no directory
(`sameDirectories_of_write`). So a file that was written is read back (`read_of_write`), and what
other texts lead to is as it was (`read_of_write_of_leadApart`). Different names in a directory lead
to different files (`IsFileName.leadApart_join`).
-/

namespace Crossmap.FileTree

variable {t t' : FileTree}

/-! ## Directories -/

/-- Whether two trees have the same directories. -/
def SameDirectories (t t' : FileTree) : Prop :=
  ∀ path, t.entry? path = some .directory ↔ t'.entry? path = some .directory

/-- A walk enters the directory of its first name and goes on from there. -/
theorem walk_cons (t : FileTree) (dir : FilePath) (name : String) {names : List String}
    (more : names ≠ []) :
    t.walk dir (name :: names) = t.enter dir name >>= fun next => t.walk next names := by
  rw [walk]
  exact more

/-- A name can be entered exactly if it is short enough and leads to a directory. -/
theorem enter_eq_ok_iff {dir path : FilePath} {name : String} :
    t.enter dir name = .ok path ↔
      isLongName name = false ∧ path = follow dir name ∧ t.entry? path = some .directory := by
  rw [enter]
  constructor
  · intro entered
    split at entered
    · cases entered
    · next short =>
      split at entered
      · next there =>
        obtain rfl := Except.ok.inj entered
        exact ⟨eq_false_of_ne_true short, rfl, there⟩
      · cases entered
      · cases entered
  · rintro ⟨short, rfl, there⟩
    rw [if_neg (by rw [short]; exact nofun), there]

namespace SameDirectories

theorem symm (same : SameDirectories t t') : SameDirectories t' t := fun path => (same path).symm

/-- What can be entered in a tree can be entered in any that has the same directories. -/
theorem enter_eq_ok (same : SameDirectories t t') {dir path : FilePath} {name : String}
    (entered : t.enter dir name = .ok path) : t'.enter dir name = .ok path := by
  obtain ⟨short, followed, there⟩ := enter_eq_ok_iff.mp entered
  exact enter_eq_ok_iff.mpr ⟨short, followed, (same path).mp there⟩

/-- A walk that gets through a tree gets through any that has the same directories. -/
theorem walk_eq_ok (same : SameDirectories t t') {dir : FilePath} {names : List String}
    {place : Place} (walked : t.walk dir names = .ok place) : t'.walk dir names = .ok place := by
  induction names generalizing dir with
  | nil => exact walked
  | cons name rest ih =>
      cases rest with
      | nil =>
          rw [walk] at walked ⊢
          split at walked
          · next stays =>
            rw [if_pos stays]
            cases entered : t.enter dir name with
            | error e =>
                rw [entered] at walked
                cases walked
            | ok path =>
                rw [entered] at walked
                rw [same.enter_eq_ok entered]
                exact walked
          · next goes =>
            rw [if_neg goes]
            exact walked
      | cons next rest =>
          rw [walk_cons _ _ _ (List.cons_ne_nil _ _)] at walked ⊢
          obtain ⟨path, entered, further⟩ := bind_eq_ok_iff.mp walked
          exact bind_eq_ok_iff.mpr ⟨path, same.enter_eq_ok entered, ih further⟩

/-- Where texts lead depends on the directories only. -/
theorem locate_eq_ok (same : SameDirectories t t') {text : String} {place : Place}
    (located : t.locate text = .ok place) : t'.locate text = .ok place := by
  rw [locate] at located ⊢
  split at located
  · cases located
  · split at located
    · cases located
    · next named =>
      rw [if_neg named]
      exact same.walk_eq_ok located

end SameDirectories

/-! ## Writing -/

/-- A file is written where its text leads, unless a directory is there or is asked for. -/
theorem write_eq_ok_iff {text : String} {content : List UInt8} :
    t.write text content = .ok t' ↔
      ∃ path, t.locate text = .ok (.member path) ∧ t.entry? path ≠ some .directory ∧
        asksForDirectory text = false ∧ t' = ⟨t.entries.insert path (.file content)⟩ := by
  rw [write, bind_eq_ok_iff]
  constructor
  · rintro ⟨place, located, written⟩
    cases place with
    | directory path => cases written
    | member path =>
        refine ⟨path, located, ?_⟩
        dsimp only at written
        split at written
        · cases written
        · next content' there =>
          split at written
          · cases written
          · next asks =>
            rw [there]
            exact ⟨nofun, eq_false_of_ne_true asks, (Except.ok.inj written).symm⟩
        · next missing =>
          split at written
          · cases written
          · next asks =>
            rw [missing]
            exact ⟨nofun, eq_false_of_ne_true asks, (Except.ok.inj written).symm⟩
  · rintro ⟨path, located, free, asks, rfl⟩
    refine ⟨.member path, located, ?_⟩
    dsimp only
    cases there : t.entry? path with
    | none => exact if_neg (by rw [asks]; exact nofun)
    | some entry =>
        cases entry with
        | directory => exact absurd there free
        | file content' => exact if_neg (by rw [asks]; exact nofun)

/-- Whether a file is written does not depend on its content. -/
theorem write_eq_error {text : String} {content : List UInt8} {e : FileError}
    (refused : t.write text content = .error e) (content' : List UInt8) :
    t.write text content' = .error e := by
  rw [write] at refused ⊢
  cases located : t.locate text with
  | error e' =>
      rw [located] at refused
      exact refused
  | ok place =>
      rw [located] at refused
      cases place with
      | directory path => exact refused
      | member path =>
          simp only [bind, Except.bind] at refused ⊢
          by_cases asks : asksForDirectory text = true
          · simp only [asks, if_true] at refused ⊢
            exact refused
          · simp only [asks, if_false, Bool.false_eq_true] at refused ⊢
            split at refused
            · exact refused
            · cases refused
            · cases refused

/-- A file under a path changes what stands under that path only. -/
theorem entry?_insert_file {path : FilePath} (free : t.entry? path ≠ some .directory)
    (content : List UInt8) (path' : FilePath) :
    FileTree.entry? ⟨t.entries.insert path (.file content)⟩ path' =
      if path' = path then some (.file content) else t.entry? path' := by
  have above : isGround path = false := by
    apply eq_false_of_ne_true
    intro ground
    exact free (if_pos ground)
  by_cases same : path' = path
  · rw [if_pos same, same, entry?, above, if_neg (by decide), Dict.get?_insert_self]
  · rw [if_neg same, entry?, entry?, Dict.get?_insert, if_neg same]

/-- Writing a file neither makes nor removes a directory. -/
theorem sameDirectories_of_write {text : String} {content : List UInt8}
    (written : t.write text content = .ok t') : SameDirectories t t' := by
  obtain ⟨path, -, free, -, rfl⟩ := write_eq_ok_iff.mp written
  intro path'
  rw [entry?_insert_file free]
  by_cases same : path' = path
  · rw [if_pos same, same]
    exact iff_of_false free nofun
  · rw [if_neg same]

/-- **A file that was written is read back.** -/
theorem read_of_write {text : String} {content : List UInt8}
    (written : t.write text content = .ok t') :
    t'.isThere text = true ∧ t'.read text = .ok content := by
  have same := sameDirectories_of_write written
  obtain ⟨path, located, free, asks, rfl⟩ := write_eq_ok_iff.mp written
  have located' := same.locate_eq_ok located
  have there := entry?_insert_file free content path
  rw [if_pos rfl] at there
  constructor
  · rw [isThere, located']
    dsimp only
    rw [there, asks]
    rfl
  · refine bind_eq_ok_iff.mpr ⟨_, located', ?_⟩
    dsimp only
    rw [there]
    exact if_neg (by rw [asks]; exact nofun)

/-- Whether two texts lead to different members wherever they lead to members. -/
def LeadApart (t : FileTree) (text text' : String) : Prop :=
  ∀ path path', t.locate text = .ok (.member path) → t.locate text' = .ok (.member path') →
    path' ≠ path

/-- What another text leads to is as it was before a file was written. -/
theorem read_of_write_of_leadApart {text text' : String} {content : List UInt8}
    (written : t.write text content = .ok t') (apart : t.LeadApart text text') :
    t'.isThere text' = t.isThere text' ∧
      (t.isThere text' = true → t'.read text' = t.read text') := by
  have same := sameDirectories_of_write written
  obtain ⟨path, located, free, -, rfl⟩ := write_eq_ok_iff.mp written
  cases leads : t.locate text' with
  | error e =>
      have unchanged : isThere ⟨t.entries.insert path (.file content)⟩ text' = false := by
        rw [isThere]
        split
        · next leads' => exact nomatch leads.symm.trans (same.symm.locate_eq_ok leads')
        · next leads' => exact nomatch leads.symm.trans (same.symm.locate_eq_ok leads')
        · rfl
      have missing : t.isThere text' = false := by rw [isThere, leads]
      exact ⟨unchanged.trans missing.symm, fun there => nomatch missing.symm.trans there⟩
  | ok place =>
      have leads' := same.locate_eq_ok leads
      cases place with
      | directory path' =>
          rw [isThere, isThere, read, read, leads, leads']
          exact ⟨rfl, fun _ => rfl⟩
      | member path' =>
          have kept := entry?_insert_file free content path'
          rw [if_neg (apart path path' located leads)] at kept
          rw [isThere, isThere, read, read, leads, leads']
          dsimp only
          rw [kept]
          exact ⟨rfl, fun _ => by simp only [bind, Except.bind, kept]⟩

/-! ## Making directories -/

/-- Whether names lead from directory to directory. -/
def Leads (t : FileTree) (dir : FilePath) : List String → Prop
  | [] => True
  | name :: rest =>
    t.entry? (follow dir name) = some .directory ∧ t.Leads (follow dir name) rest

/-- Whether the text of a path leads through directories to a directory. -/
def HasDirectory (t : FileTree) (text : String) : Prop :=
  pathFault? text = none ∧ t.Leads (pathStart text) (pathNames text)

/-- Where all directories are there, none is made. -/
theorem makeDirectories_of_hasDirectory {text : String} (there : t.HasDirectory text) :
    t.makeDirectories text = (.ok (), t) := by
  have along (dir : FilePath) (names : List String) (leads : t.Leads dir names) :
      t.makeAlong dir names = (.ok (), t) := by
    induction names generalizing dir with
    | nil => rfl
    | cons name rest ih =>
        rw [makeAlong, leads.1]
        exact ih _ leads.2
  rw [makeDirectories, there.1]
  exact along _ _ there.2

/-- Trees with the same directories have them under the same names. -/
theorem SameDirectories.hasDirectory (same : SameDirectories t t') {text : String}
    (there : t.HasDirectory text) : t'.HasDirectory text := by
  have along (dir : FilePath) (names : List String) (leads : t.Leads dir names) :
      t'.Leads dir names := by
    induction names generalizing dir with
    | nil => trivial
    | cons name rest ih => exact ⟨(same _).mp leads.1, ih _ leads.2⟩
  exact ⟨there.1, along _ _ there.2⟩

/-! ## Names in directories -/

/-- Whether a name can be that of a file in a directory. -/
structure IsFileName (name : String) : Prop where
  ne_empty : name ≠ ""
  noSlash : '/' ∉ name.toList
  ne_dot : name ≠ "."
  ne_dots : name ≠ ".."

/-- A slash separates the names before it from the names after it. -/
theorem pathNames_of_toList_eq_append {text : String} (cs ds : List Char)
    (chars : text.toList = cs ++ '/' :: ds) :
    pathNames text = pathNames (String.ofList cs) ++ pathNames (String.ofList ds) := by
  rw [pathNames, pathNames, pathNames, chars, String.toList_ofList, String.toList_ofList,
    Text.splitAt_append, List.filter_append, List.map_append]

namespace IsFileName

variable {name name' : String}

/-- The name of a file is a path of one name. -/
theorem pathNames_eq (named : IsFileName name) : pathNames name = [name] := by
  have chars : name.toList ≠ [] := mt String.toList_eq_nil_iff.mp named.ne_empty
  have filled : (!name.toList.isEmpty) = true := by simpa using chars
  rw [pathNames, Text.splitAt_of_notMem named.noSlash, List.filter, filled]
  exact congrArg (fun s => [s]) name.ofList_toList

/-- A path extended by a name leads through its own names, and ends in this one. -/
theorem pathNames_join (named : IsFileName name) (base : String) :
    pathNames (PathText.join base name) = pathNames base ++ [name] := by
  rw [PathText.join]
  split
  · next empty =>
    rw [String.isEmpty_iff.mp empty, named.pathNames_eq]
    rfl
  · split
    · next ends =>
      obtain ⟨cs, chars⟩ := List.getLast?_eq_some_iff.mp (of_decide_eq_true ends)
      have front : pathNames base = pathNames (String.ofList cs) := by
        rw [pathNames_of_toList_eq_append cs [] chars]
        exact List.append_nil _
      rw [pathNames_of_toList_eq_append cs name.toList, String.ofList_toList, named.pathNames_eq,
        front]
      rw [String.toList_append, chars, List.append_assoc]
      rfl
    · rw [pathNames_of_toList_eq_append base.toList name.toList,
        String.ofList_toList, String.ofList_toList, named.pathNames_eq]
      rw [String.toList_append, String.toList_append, List.append_assoc]
      rfl

/-- A walk to the name of a file ends at that name in some directory. -/
theorem exists_member_of_walk (named : IsFileName name) {dir : FilePath} {front : List String}
    {place : Place} (walked : t.walk dir (front ++ [name]) = .ok place) :
    ∃ above, place = .member (above ++ [name]) := by
  induction front generalizing dir with
  | nil =>
      rw [List.nil_append, walk, if_neg (by simp [named.ne_dot, named.ne_dots])] at walked
      split at walked
      · cases walked
      · exact ⟨dir, (Except.ok.inj walked).symm⟩
  | cons next front ih =>
      have more : front ++ [name] ≠ [] := List.append_ne_nil_of_right_ne_nil _ nofun
      rw [List.cons_append, walk_cons t dir next more] at walked
      obtain ⟨dir', -, further⟩ := bind_eq_ok_iff.mp walked
      exact ih further

/-- A path extended by a name leads to a member of this name. -/
theorem exists_member_of_locate_join (named : IsFileName name) {base : String} {place : Place}
    (located : t.locate (PathText.join base name) = .ok place) :
    ∃ above, place = .member (above ++ [name]) := by
  rw [locate] at located
  split at located
  · cases located
  · split at located
    · cases located
    · rw [named.pathNames_join] at located
      exact named.exists_member_of_walk located

/-- A path extended by different names leads to different members. -/
theorem leadApart_join (named : IsFileName name) (named' : IsFileName name') (ne : name ≠ name')
    (t : FileTree) (base base' : String) :
    t.LeadApart (PathText.join base name) (PathText.join base' name') := by
  intro path path' leads leads' same
  obtain ⟨above, here⟩ := named.exists_member_of_locate_join leads
  obtain ⟨above', here'⟩ := named'.exists_member_of_locate_join leads'
  obtain rfl := Place.member.inj here
  obtain rfl := Place.member.inj here'
  exact ne (List.singleton_inj.mp (List.append_inj' same rfl).2).symm

end IsFileName

end Crossmap.FileTree
