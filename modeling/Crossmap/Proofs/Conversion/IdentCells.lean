import Crossmap.Proofs.Conversion.Recoding

/-! # The idents of written rows

A row begins with the ident of its record, under the column that the declaration has for it. Its
columns are written after that, and one of the very same name replaces the cell. Every row that a
target is handed holds the ident of its record exactly if no such column writes anything else
(`rows_hold_idents`).
-/

namespace Crossmap

open Mapping

variable {ω γ : Type}

/-- What a row holds of the ident of its record under the column that is declared for it. -/
structure Mapping.DataDeclaration.HoldsIdent (m : Model) (d : DataDeclaration) (record : Record)
    (w : Row) (column : String) : Prop where
  kept : (∀ c ∈ d.columns, c.sourceColumn ≠ column) →
    w.get? column = some (.string record.ident)
  /-- The last column of the same name has the cell. -/
  replaced : ∀ c, IsLast d.columns (fun x => x.sourceColumn = column) c →
    ∃ cell, m.backward c.valueMap (record.field? c.targetPath) = .ok cell ∧
      w.get? column = some cell
  held_iff : w.get? column = some (.string record.ident) ↔
    ∀ c, IsLast d.columns (fun x => x.sourceColumn = column) c →
      m.backward c.valueMap (record.field? c.targetPath) = .ok (.string record.ident)

section Write

variable {m : Model} {d : DataDeclaration} {record : Record} {w : Row} {column : String}

theorem get?_identRow (declared : d.identColumn = some column) :
    (identRow d record).get? column = some (.string record.ident) := by
  rw [identRow, declared]
  exact Dict.get?_insert_self _ _ _

theorem get?_writtenRow_ident (written : writtenRow m d record = .ok w)
    (declared : d.identColumn = some column) (none : ∀ c ∈ d.columns, c.sourceColumn ≠ column) :
    w.get? column = some (.string record.ident) := by
  rw [get?_foldlM_columnWritten written none, get?_identRow declared]

theorem holdsIdent_writtenRow (written : writtenRow m d record = .ok w)
    (declared : d.identColumn = some column) : d.HoldsIdent m record w column := by
  have replaced : ∀ c, IsLast d.columns (fun x => x.sourceColumn = column) c →
      ∃ cell, m.backward c.valueMap (record.field? c.targetPath) = .ok cell ∧
        w.get? column = some cell := by
    intro c last
    obtain rfl : c.sourceColumn = column := by
      obtain ⟨_, _, _, same, _⟩ := last
      exact same
    exact get?_writtenRow_of_isLast written last
  refine ⟨get?_writtenRow_ident written declared, replaced, ?_⟩
  constructor
  · intro held c last
    obtain ⟨cell, backward, stands⟩ := replaced c last
    obtain rfl := Option.some.inj (stands.symm.trans held)
    exact backward
  · intro alike
    -- Without a column of the name, what is required of the last one says nothing.
    by_cases named : ∃ c ∈ d.columns, c.sourceColumn = column
    · obtain ⟨c, last⟩ := exists_isLast named
      obtain ⟨cell, backward, stands⟩ := replaced c last
      obtain rfl := Except.ok.inj (backward.symm.trans (alike c last))
      exact stands
    · have none : ∀ c ∈ d.columns, c.sourceColumn ≠ column :=
        fun c member same => named ⟨c, member, same⟩
      exact get?_writtenRow_ident written declared none

end Write

/-- **Rows hold the idents of their records.** Writing records that ends well hands every
declaration the rows of its records. Under the column for the ident, each row holds the ident of its
record, unless the last column of the very same name writes another cell there. -/
theorem rows_hold_idents [RecordTarget ω] {m : Model} {records : List Record}
    {counts : Dict String Nat} {s s' : Session ω γ}
    (ended : (writeRecords m records).exec s = (.ok counts, s')) :
    ∃ batches, Handed s.stores batches none s'.stores ∧
      List.Forall₂ (fun d b => CompleteBatch m records d b ∧
        ∀ column ∈ d.identColumn, List.Forall₂ (fun record w => d.HoldsIdent m record w column)
          (records.filter fun r => r.className = d.className) b.rows) m.data batches := by
  obtain ⟨batches, handed, complete⟩ := exists_of_writeRecords_eq_ok ended
  refine ⟨batches, handed, complete.imp fun d b batch => ⟨batch, fun column declared => ?_⟩⟩
  exact batch.rows.imp fun record w written => holdsIdent_writtenRow written declared

/-- Lots whose number is written to the column of their ident, and lots with a name beside it. -/
def numberText : String :=
  "DATA X FROM LOTS CLASS Lot { IDENT ID; COLUMN ID -> Number; } " ++
    "DATA Y FROM NAMES CLASS Lot { IDENT ID; COLUMN NAME -> Name; }"

def numberModel : Model :=
  { Model.bare "numbers" with
    data := [
      { DataDeclaration.bare "X" "LOTS" "Lot" with
        identColumn := some "ID"
        columns := [⟨"ID", "Number", none⟩] },
      { DataDeclaration.bare "Y" "NAMES" "Lot" with
        identColumn := some "ID"
        columns := [⟨"NAME", "Name", none⟩] }] }

def numberRecords : List Record := [.bare "Lot" "1", (Record.bare "Lot" "2").setValue "Number" "42"]

def numberSession : Session MemoryStore NumberedIdents := ⟨.empty, .fresh "n", .discard⟩

theorem rows_hold_idents_numbers :
    Model.parse "numbers" numberText = .ok numberModel ∧
      ∃ counts after,
        (writeRecords numberModel numberRecords).exec numberSession = (.ok counts, after) ∧
          ∃ batches, Handed numberSession.stores batches none after.stores ∧
            List.Forall₂ (fun d b => CompleteBatch numberModel numberRecords d b ∧
              ∀ column ∈ d.identColumn,
                List.Forall₂ (fun record w => d.HoldsIdent numberModel record w column)
                  (numberRecords.filter fun r => r.className = d.className) b.rows)
              numberModel.data batches := by
  obtain ⟨counts, after, ended⟩ :=
    Run.exists_exec_eq_ok (r := writeRecords numberModel numberRecords) (s := numberSession)
      (by decide +kernel)
  exact ⟨by decide +kernel, counts, after, ended, rows_hold_idents ended⟩

/-- A column of the name of the ident column puts another text in the place of an ident, or
nothing. -/
theorem writeRecords_replaces_idents :
    Model.parse "numbers" numberText = .ok numberModel ∧
      ((writeRecords numberModel numberRecords).exec numberSession).1.isOk ∧
      (((writeRecords numberModel numberRecords).exec numberSession).2.stores.rows "LOTS").map
          (fun w => (w.get? "ID").map cellText) = [some none, some (some "42")] ∧
      numberRecords.map Record.ident = ["1", "2"] := by
  decide +kernel

end Crossmap
