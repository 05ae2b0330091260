import Crossmap.Proofs.Conversion.Tracing

/-! # The order of declarations

Records of one class are read and rows of one object are written in the order of the declarations
that do so. How these declarations stand among those of other classes and other objects is of no
account (`convert_ignores_declaration_order`), provided that no data declaration takes idents from
the source of idents: rearranged records (`Rearranges`) are the same to every declaration that
writes, and an object holds what the declarations on it wrote, one after another.
-/

namespace Crossmap

open Mapping

variable {α β κ σ ω γ : Type}

/-! ## Rearranged lists -/

/-- Whether a list is another one rearranged so that things with the same key stay in their
order. -/
structure Rearranges [DecidableEq κ] (key : α → κ) (l l' : List α) : Prop where
  perm : l.Perm l'
  order : ∀ k, (l.filter fun a => key a = k) = l'.filter fun a => key a = k

namespace Rearranges

variable [DecidableEq κ] {key : α → κ} {l l' : List α}

/-- What is rearranged can be rearranged back. -/
theorem symm (rearranges : Rearranges key l l') : Rearranges key l' l :=
  ⟨rearranges.perm.symm, fun k => (rearranges.order k).symm⟩

/-- Neighbours with different keys can change places. -/
theorem swap {a b : α} (apart : key a ≠ key b) (l : List α) :
    Rearranges key (a :: b :: l) (b :: a :: l) := by
  refine ⟨.swap b a l, fun k => ?_⟩
  by_cases ofA : key a = k
  · have ofB : key b ≠ k := fun same => apart (ofA.trans same.symm)
    simp only [List.filter_cons, ofA, ofB, decide_true, decide_false, Bool.false_eq_true,
      ↓reduceIte]
  · simp only [List.filter_cons, ofA, decide_false, Bool.false_eq_true, ↓reduceIte]

/-- What follows does not matter to a rearrangement. -/
theorem append_right (rearranges : Rearranges key l l') (r : List α) :
    Rearranges key (l ++ r) (l' ++ r) := by
  refine ⟨rearranges.perm.append_right r, fun k => ?_⟩
  rw [List.filter_append, List.filter_append, rearranges.order k]

/-- Where all that comes of a thing has its key, what has a key comes of the things with
that key. -/
theorem filter_flatMap {key' : β → κ} {f : α → List β}
    (keys : ∀ a ∈ l, ∀ b ∈ f a, key' b = key a) (k : κ) :
    ((l.flatMap f).filter fun b => key' b = k) = (l.filter fun a => key a = k).flatMap f := by
  induction l with
  | nil => rfl
  | cons a rest ih =>
      have further := ih fun a member => keys a (List.mem_cons_of_mem _ member)
      rw [List.flatMap_cons, List.filter_append, further, List.filter_cons]
      by_cases same : key a = k
      · have all : (f a).filter (fun b => key' b = k) = f a := by
          apply List.filter_eq_self.mpr
          intro b member
          rw [keys a List.mem_cons_self b member]
          exact decide_eq_true same
        rw [all, if_pos (decide_eq_true same), List.flatMap_cons]
      · have none : (f a).filter (fun b => key' b = k) = [] := by
          apply List.filter_eq_nil_iff.mpr
          intro b member
          rw [keys a List.mem_cons_self b member]
          exact fun holds => same (of_decide_eq_true holds)
        rw [none, if_neg (fun holds => same (of_decide_eq_true holds)), List.nil_append]

/-- If things are replaced by lists under their own keys, the lists are rearranged with them. -/
theorem flatMap (rearranges : Rearranges key l l') {key' : β → κ} {f : α → List β}
    (keys : ∀ a ∈ l, ∀ b ∈ f a, key' b = key a) :
    Rearranges key' (l.flatMap f) (l'.flatMap f) := by
  refine ⟨rearranges.perm.flatMap_right f, fun k => ?_⟩
  have keys' : ∀ a ∈ l', ∀ b ∈ f a, key' b = key a :=
    fun a member => keys a (rearranges.perm.mem_iff.mpr member)
  rw [filter_flatMap keys, filter_flatMap keys', rearranges.order k]

end Rearranges

/-! ## Reading -/

section Read

variable [RecordSource ω] [IdentSource γ] {m : Model} {stores : ω} {held : String → List Row}

omit [RecordSource ω] in

/-- The record of a row whose ident has to stand in a column is a matter of the row alone. -/
theorem exists_settles_readDataRow {d : DataDeclaration} (named : d.identColumn.isSome)
    (row : Row) :
    ∃ x, (readDataRow m d row : Run ω γ ConversionError Record).Settles x := by
  obtain ⟨column, declared⟩ := Option.isSome_iff_exists.mp named
  cases stands : row.text? column with
  | some ident => exact ⟨_, settles_readDataRow m declared stands⟩
  | none =>
      refine ⟨.error (.resolution (.missingIdent d.object column)), fun s => ⟨s.sink, ?_⟩⟩
      have missing : (identOf row d.identColumn d.object : Run ω γ ConversionError String).exec s =
          (.error (.resolution (.missingIdent d.object column)), s) := by
        simp only [identOf, declared, stands]
        exact Run.exec_throw _ s
      rw [readDataRow, Run.exec_bind_error missing]

/-- The records of a declaration with an ident column are a matter of the rows alone. -/
theorem exists_settlesAt_readData (holds : Holds stores held) {d : DataDeclaration}
    (named : d.identColumn.isSome) :
    ∃ x, (readData m d : Run ω γ ConversionError (List Record)).SettlesAt stores x := by
  have found : ((Run.readRows d.object d.filter).mapError .storage :
      Run ω γ ConversionError (List Row)).SettlesAt stores
        (.ok ((held d.object).filter fun row => row.satisfies d.filter)) := by
    intro s same
    refine ⟨s.sink, ?_⟩
    rw [Run.exec_mapError, Run.exec_readRows, same, holds d.object d.filter, ← same]
    rfl
  choose record settles using exists_settles_readDataRow (ω := ω) (γ := γ) (m := m) named
  exact ⟨_, found.bind_ok (Run.settles_mapM settles _).at⟩

/-- The record that a data declaration makes is of the class of the declaration. -/
theorem className_of_makes {d : DataDeclaration} {row : Row} {record : Record}
    (made : Reading.Makes m (.data d) row record) : record.className = d.className := by
  cases made with
  | data identified read =>
      obtain ⟨values, rfl⟩ := exists_values_of_columnsRead read
      rfl

/-- What data declarations with ident columns read is what each of them reads alone, where they are
read in whatever order. -/
theorem exists_records_of_mapM_readData (holds : Holds stores held) {ds : List DataDeclaration}
    (named : ∀ d ∈ ds, d.identColumn.isSome) {s s' : Session ω γ} (same : s.stores = stores)
    {results : List (List Record)} (ended : (ds.mapM (readData m)).exec s = (.ok results, s')) :
    ∃ records : DataDeclaration → List Record, results = ds.map records ∧ s'.muted = s.muted ∧
      (∀ d ∈ ds, ∀ record ∈ records d, record.className = d.className) ∧
      ∀ ds' : List DataDeclaration, (∀ d ∈ ds', d ∈ ds) →
        ∃ sink, (ds'.mapM (readData m)).exec s =
          (.ok (ds'.map records), { s with sink := sink }) := by
  choose! result settles using fun d member =>
    exists_settlesAt_readData (γ := γ) (m := m) holds (named d member)
  obtain ⟨sink, settled⟩ := Run.settlesAt_mapM settles s same
  obtain ⟨all, rfl⟩ := Prod.mk.inj (settled.symm.trans ended)
  have each : ∀ d ∈ ds, ∃ records, result d = .ok records := by
    intro d member
    obtain ⟨records, -, read⟩ := exists_mem_of_forall₂ (mapM_eq_ok_iff.mp all).flip member
    exact ⟨records, read⟩
  choose! records read using each
  refine ⟨records, ?_, rfl, ?_, ?_⟩
  · exact Except.ok.inj (all.symm.trans (mapM_eq_ok read))
  · intro d member record inRecords
    obtain ⟨sink, alone⟩ := settles d member s same
    rw [read d member] at alone
    obtain ⟨made, -⟩ := yields_readData holds m d s _ _ same alone
    obtain ⟨row, -, makes⟩ := exists_mem_of_forall₂ made inRecords
    exact className_of_makes makes
  · intro ds' within
    have settled' := Run.settlesAt_mapM (fun d member => settles d (within d member)) s same
    rwa [mapM_eq_ok fun d member => read d (within d member)] at settled'

/-- Rearranged data declarations read the records rearranged. -/
theorem exec_readRecords_of_rearranges (holds : Holds stores held)
    (named : ∀ d ∈ m.data, d.identColumn.isSome) {ds : List DataDeclaration}
    (rearranged : Rearranges DataDeclaration.className m.data ds) {s s' : Session ω γ}
    (same : s.stores = stores) {records : List Record}
    (read : (readRecords m).exec s = (.ok records, s')) :
    ∃ records' t', (readRecords { m with data := ds }).exec s = (.ok records', t') ∧
      t'.stores = s'.stores ∧ Rearranges Record.className records records' := by
  obtain ⟨ofData, mid, first, read⟩ := Run.exec_bind_eq_ok_iff.mp read
  obtain ⟨ofInspections, last, second, read⟩ := Run.exec_bind_eq_ok_iff.mp read
  obtain ⟨result, rfl⟩ := Prod.mk.inj read
  obtain rfl := Except.ok.inj result
  obtain ⟨ofDeclaration, rfl, muted, classes, further⟩ :=
    exists_records_of_mapM_readData holds named same first
  obtain ⟨sink, first'⟩ := further ds fun d member => rearranged.perm.mem_iff.mpr member
  -- Inspections come after all data declarations, so that they find the idents where they were.
  obtain ⟨t', second', alike⟩ :=
    (Run.indifferent_mapM (indifferent_inspect m) m.inspections).exec_eq
      (t := { s with sink := sink }) muted.symm second
  have stores : t'.muted.stores = last.muted.stores := congrArg Session.stores alike
  refine ⟨ds.flatMap ofDeclaration ++ ofInspections.flatten, t', ?_, stores, ?_⟩
  · exact (Run.exec_bind_ok first').trans (Run.exec_bind_ok second')
  · exact (rearranged.flatMap classes).append_right _

end Read

/-! ## Writing -/

section Write

variable {m : Model} {records records' : List Record}

/-- A declaration writes the same records however those of other classes stand among them. -/
theorem recordsFor_of_rearranges (rearranged : Rearranges Record.className records records')
    (d : DataDeclaration) : recordsFor d records' = recordsFor d records :=
  (rearranged.order d.className).symm

/-- What writing to memory brings about, object by object: the rows that an object holds, the
writes that it received, and the rows that are counted for it. -/
structure SameObjects (t t' : MemoryStore) (counts counts' : Dict String Nat) : Prop where
  rows : ∀ object, t.rows object = t'.rows object
  writes : ∀ object, t.writeCount object = t'.writeCount object
  counts : ∀ object, counts.get? object = counts'.get? object

/-- Batches do the same to every object where those for one object stand in one order. -/
theorem sameObjects_of_rearranges {ds ds' : List DataDeclaration}
    (rearranged : Rearranges DataDeclaration.object ds ds') (batch : DataDeclaration → List Row)
    (t : MemoryStore) (counts : Dict String Nat) :
    SameObjects (ds.foldl (fun t d => t.append d.object (batch d)) t)
      (ds'.foldl (fun t d => t.append d.object (batch d)) t)
      (ds.foldl (fun c d => c.update d.object fun n => n.getD 0 + (batch d).length) counts)
      (ds'.foldl (fun c d => c.update d.object fun n => n.getD 0 + (batch d).length) counts) where
  rows object := by
    rw [MemoryStore.rows_foldl_append, MemoryStore.rows_foldl_append, rearranged.order]
  writes object := by
    rw [MemoryStore.writeCount_foldl_append, MemoryStore.writeCount_foldl_append, rearranged.order]
  counts object := by
    rw [Dict.get?_foldl_update DataDeclaration.object fun d n => n.getD 0 + (batch d).length,
      Dict.get?_foldl_update DataDeclaration.object fun d n => n.getD 0 + (batch d).length,
      rearranged.order]

/-- Records that have their rows are all written to memory, batch after batch. -/
theorem exec_writeRecords_memory {batch : DataDeclaration → List Row}
    (made : ∀ d ∈ m.data, (recordsFor d records).mapM (writtenRow m d) = .ok (batch d))
    (s : Session (Endpoints σ MemoryStore) γ) :
    ∃ s', (writeRecords m records).exec s =
        (.ok (m.data.foldl (fun c d => c.update d.object fun n => n.getD 0 + (batch d).length)
          .empty), s') ∧
      s'.stores.target = m.data.foldl (fun t d => t.append d.object (batch d)) s.stores.target := by
  obtain ⟨sink, ended⟩ := exec_foldlM_writeData_of_accepts
    (fun w object rows => { w with target := w.target.append object rows }) (fun _ _ _ => rfl) made
    .empty s
  refine ⟨_, ended, ?_⟩
  exact (List.foldl_hom Endpoints.target fun _ _ => rfl).symm

/-- Rearranged declarations write rearranged records as well as they did before, and do the same to
every object. -/
theorem exec_writeRecords_of_rearranges {ds : List DataDeclaration}
    (declarations : Rearranges DataDeclaration.object m.data ds)
    (rearranged : Rearranges Record.className records records')
    {s s' t : Session (Endpoints σ MemoryStore) γ} (same : t.stores = s.stores)
    {counts : Dict String Nat} (written : (writeRecords m records).exec s = (.ok counts, s')) :
    ∃ counts' t', (writeRecords { m with data := ds } records').exec t = (.ok counts', t') ∧
      SameObjects s'.stores.target t'.stores.target counts counts' := by
  obtain ⟨batches, fault, w, sink, result, ended, -, complete, ends⟩ :=
    exec_writeRecords m records s
  obtain ⟨rfl, -⟩ := Prod.mk.inj (ended.symm.trans written)
  obtain ⟨-, all, -⟩ := ends
  rw [all, List.take_length] at complete
  have each : ∀ d ∈ m.data, ∃ rows, (recordsFor d records).mapM (writtenRow m d) = .ok rows := by
    intro d member
    obtain ⟨b, -, whole⟩ := exists_mem_of_forall₂ complete.flip member
    exact ⟨b.rows, mapM_eq_ok_iff.mpr whole.rows⟩
  choose! batch made using each
  have made' : ∀ d ∈ ds,
      (recordsFor d records').mapM (writtenRow { m with data := ds } d) = .ok (batch d) := by
    intro d member
    rw [recordsFor_of_rearranges rearranged]
    exact made d (declarations.perm.mem_iff.mpr member)
  obtain ⟨after, ended, target⟩ := exec_writeRecords_memory made s
  obtain ⟨after', ended', target'⟩ :=
    exec_writeRecords_memory (m := { m with data := ds }) made' t
  obtain ⟨counted, rfl⟩ := Prod.mk.inj (ended.symm.trans written)
  obtain rfl := Except.ok.inj counted
  refine ⟨_, after', ended', ?_⟩
  rw [target, target', same]
  exact sameObjects_of_rearranges declarations batch _ _

end Write

/-! ## The whole -/

/-- Whether two conversions into memory brought about the same but for the order of records of
different classes. -/
structure SameByKind (outcome outcome' : Outcome) (t t' : MemoryStore) : Prop where
  records : Rearranges Record.className outcome.records outcome'.records
  objects : SameObjects t t' outcome.rowsWritten outcome'.rowsWritten

variable [IdentSource γ] {source target : Model} {ds ts : List DataDeclaration}

/-- A conversion that ends well does so with rearranged declarations. -/
theorem exec_convert_of_rearranges (named : ∀ d ∈ source.data, d.identColumn.isSome)
    (read : Rearranges DataDeclaration.className source.data ds)
    (written : Rearranges DataDeclaration.object target.data ts) {tracing : Bool}
    {before after : Session (Endpoints MemoryStore MemoryStore) γ} {outcome : Outcome}
    (ended : (convert source target tracing).exec before = (.ok outcome, after)) :
    ∃ outcome' after',
      (convert { source with data := ds } { target with data := ts } tracing).exec before =
          (.ok outcome', after') ∧
        SameByKind outcome outcome' after.stores.target after'.stores.target := by
  obtain ⟨mid, reading, writing, -⟩ := exists_of_convert_eq_ok ended
  obtain ⟨records', mid', reading', stores, rearranged⟩ := exec_readRecords_of_rearranges
    (s := { before with sink := .start tracing })
    (holds_endpoints before.stores.source before.stores.target) named read rfl reading
  obtain ⟨counts', after', writing', objects⟩ :=
    exec_writeRecords_of_rearranges written rearranged stores writing
  exact ⟨_, after', exec_convert_of_ok reading' writing', rearranged, objects⟩

/-- **The order of declarations of different kinds does not matter.** Let all data declarations of a
source model have ident columns. Rearrange them, those of one class staying in their order, and the
data declarations of a target model, those on one object staying in theirs. A conversion in memory
then ends well exactly if it did before. It reads the same records, those of one class in the same
order; and every object holds the same rows, received as many writes, and has the same count. -/
theorem convert_ignores_declaration_order (named : ∀ d ∈ source.data, d.identColumn.isSome)
    (read : Rearranges DataDeclaration.className source.data ds)
    (written : Rearranges DataDeclaration.object target.data ts) (tracing : Bool)
    (before : Session (Endpoints MemoryStore MemoryStore) γ) :
    let run := (convert source target tracing).exec before
    let run' :=
      (convert { source with data := ds } { target with data := ts } tracing).exec before
    (run.1.isOk ↔ run'.1.isOk) ∧
      ∀ outcome outcome', run.1 = .ok outcome → run'.1 = .ok outcome' →
        SameByKind outcome outcome' run.2.stores.target run'.2.stores.target := by
  intro run run'
  have named' : ∀ d ∈ ds, d.identColumn.isSome :=
    fun d member => named d (read.perm.mem_iff.mpr member)
  refine ⟨⟨fun well => ?_, fun well => ?_⟩, fun outcome outcome' first second => ?_⟩
  · obtain ⟨outcome, after, ended⟩ := Run.exists_exec_eq_ok well
    obtain ⟨outcome', after', ended', -⟩ := exec_convert_of_rearranges named read written ended
    exact congrArg (fun run => run.1.isOk) ended'
  · obtain ⟨outcome', after', ended'⟩ := Run.exists_exec_eq_ok well
    obtain ⟨outcome, after, ended, -⟩ := exec_convert_of_rearranges named'
      read.symm written.symm ended'
    exact congrArg (fun run => run.1.isOk) ended
  · obtain ⟨outcome₁, after₁, ended, same⟩ :=
      exec_convert_of_rearranges named read written (Prod.ext first rfl)
    have again : run' = (.ok outcome₁, after₁) := ended
    rw [again] at second ⊢
    obtain rfl := Except.ok.inj second
    exact same

/-- Apples and pears of two orchards, and crates of either. -/
def apples : DataDeclaration :=
  { DataDeclaration.bare "A" "ORCHARD" "Apple" with identColumn := some "ID" }

def pears : DataDeclaration :=
  { DataDeclaration.bare "P" "ORCHARD" "Pear" with identColumn := some "KEY" }

def crates : Inspection := Inspection.bare "C" "CRATES" "Pear"

def fruitSource : Model :=
  { Model.bare "Orchard" with data := [apples, pears], inspections := [crates] }

def fruitTarget : Model :=
  { Model.bare "Market" with
    data := [{ apples with object := "STALL" }, { pears with object := "CART" }] }

def fruitSession : Session (Endpoints MemoryStore MemoryStore) NumberedIdents where
  stores.source := (MemoryStore.empty.insertRows "ORCHARD"
    [.ofList [("ID", .string "a"), ("KEY", .string "b")]]).insertRows "CRATES" [.empty]
  stores.target := .empty
  idents := .fresh "crate"
  sink := .discard

/-- Pears are read and written before apples. -/
theorem convert_ignores_declaration_order_fruit :
    let run := (convert fruitSource fruitTarget true).exec fruitSession
    let run' := (convert { fruitSource with data := [pears, apples] }
      { fruitTarget with data := fruitTarget.data.reverse } true).exec fruitSession
    ∃ outcome outcome', run.1 = .ok outcome ∧ run'.1 = .ok outcome' ∧
      outcome.records = [.bare "Apple" "a", .bare "Pear" "b", .bare "Pear" "crate1"] ∧
      SameByKind outcome outcome' run.2.stores.target run'.2.stores.target := by
  intro run run'
  have named : ∀ d ∈ fruitSource.data, d.identColumn.isSome := by decide
  have read : Rearranges DataDeclaration.className fruitSource.data [pears, apples] :=
    .swap (by decide) []
  have written : Rearranges DataDeclaration.object fruitTarget.data fruitTarget.data.reverse :=
    .swap (by decide) []
  obtain ⟨together, same⟩ :=
    convert_ignores_declaration_order named read written true fruitSession
  have records : run.1.map Outcome.records =
      .ok [.bare "Apple" "a", .bare "Pear" "b", .bare "Pear" "crate1"] := by decide +kernel
  have well : run.1.isOk := by decide +kernel
  obtain ⟨outcome, first⟩ := exists_eq_ok_of_isOk well
  obtain ⟨outcome', second⟩ := exists_eq_ok_of_isOk (together.mp well)
  rw [first] at records
  exact ⟨outcome, outcome', first, second, Except.ok.inj records, same _ _ first second⟩

end Crossmap
