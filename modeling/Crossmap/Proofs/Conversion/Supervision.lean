import Crossmap.Conversion.Supervised
import Crossmap.Proofs.Conversion.RunLaws

/-! # What the checks of a conversion do

A check ends well or refuses, and leaves the session as it was: that of the records is settled by
the records (`exec_checkRecords`), and that of the source rows goes no further than reading them
(`exec_checkSourceRows_of_ok`) and leaves what reading leaves (`leaves_checkSourceRows`). A plan
ends as the first of its three parts that does not end well (`exec_execute_of_ok`), and well only if
all of them do (`exists_of_execute_eq_ok`).
-/

namespace Crossmap.Settings

open Mapping

variable {ω γ : Type} {settings : Settings} {plan : Plan} {s mid after : Session ω γ}

/-- Messages are a reason to refuse exactly if there are any. -/
theorem exec_refuse (error : List String → SupervisionError) (messages : List String)
    (s : Session ω γ) :
    (refuse error messages).exec s =
      (if messages.isEmpty then .ok () else .error (error messages), s) := by
  unfold refuse
  by_cases empty : messages.isEmpty = true
  · rw [if_pos empty, if_pos empty, Run.exec_pure]
  · rw [if_neg empty, if_neg empty, Run.exec_throw]

/-- How a conversion with an outcome ends. -/
def verdict (settings : Settings) (schema : Schema) (outcome : Outcome) :
    Except SupervisionError Outcome :=
  if settings.checkResult && !(schema.checkRecords outcome.records).isEmpty then
    .error (.unfitRecords (schema.checkRecords outcome.records))
  else .ok outcome

/-- The check of the records is settled by the outcome, and leaves the session as it was. -/
theorem exec_checkRecords (schema : Schema) (outcome : Outcome) (s : Session ω γ) :
    (settings.checkRecords schema outcome.records >>= fun _ => pure outcome).exec s =
      (settings.verdict schema outcome, s) := by
  unfold checkRecords verdict
  cases settings.checkResult with
  | false => rfl
  | true =>
      simp only [if_true, Bool.true_and, Bool.not_eq_true']
      rw [Run.exec_bind, exec_refuse]
      cases (schema.checkRecords outcome.records).isEmpty with
      | false => rfl
      | true => rfl

section Rows

variable [RecordSource ω]

/-- Source rows are not looked at if they need not be checked. -/
theorem exec_checkSourceRows_of_off (off : settings.checkSource = false) (s : Session ω γ) :
    (settings.checkSourceRows plan).exec s = (.ok (), s) := by
  simp only [checkSourceRows, off, Bool.false_eq_true, if_false]
  rfl

/-- A source that cannot be read ends the check of its rows. -/
theorem exec_checkSourceRows_of_error {e : StorageError} (on : settings.checkSource = true)
    (failed : (missingColumns plan.sourceModel).exec s = (.error e, mid)) :
    (settings.checkSourceRows plan).exec s = (.error (.storage e), mid) := by
  simp only [checkSourceRows, on, if_true]
  rw [Run.exec_bind, Run.exec_mapError, failed]
  rfl

/-- Source rows that were looked at are refused exactly if a column is missing in them. -/
theorem exec_checkSourceRows_of_ok {messages : List String} (on : settings.checkSource = true)
    (found : (missingColumns plan.sourceModel).exec s = (.ok messages, mid)) :
    (settings.checkSourceRows plan).exec s =
      (if messages.isEmpty then .ok () else .error (.unfitRows messages), mid) := by
  simp only [checkSourceRows, on, if_true]
  rw [Run.exec_bind, Run.exec_mapError, found]
  exact exec_refuse _ messages mid

/-- The check of source rows leaves what every read leaves. -/
theorem leaves_checkSourceRows {π : Type} {part : Session ω γ → π}
    (reads : ∀ object filter, (Run.readRows object filter : Run ω γ StorageError _).Leaves part)
    (settings : Settings) (plan : Plan) :
    (settings.checkSourceRows plan : Run ω γ SupervisionError Unit).Leaves part := by
  have missing : (missingColumns plan.sourceModel :
      Run ω γ StorageError (List String)).Leaves part := by
    refine (Run.leaves_mapM (fun d => ?_) _).bind fun _ => ?_
    · exact (reads d.object d.filter).bind fun _ => Run.leaves_pure _
    refine (Run.leaves_mapM (fun i => ?_) _).bind fun _ => Run.leaves_pure _
    exact (reads i.object .empty).bind fun _ => Run.leaves_pure _
  unfold checkSourceRows
  split
  · refine (missing.mapError _).bind fun messages => ?_
    unfold refuse
    split
    · exact Run.leaves_pure _
    · exact Run.leaves_throw _
  · exact Run.leaves_pure _

end Rows

section Execute

variable [RecordSource ω] [RecordTarget ω] [IdentSource γ] {schema : Schema}

/-- A plan whose source rows are refused does nothing further. -/
theorem exec_execute_of_refused {e : SupervisionError}
    (refused : (settings.checkSourceRows plan).exec s = (.error e, mid)) :
    (settings.execute schema plan).exec s = (.error e, mid) := by
  rw [execute, Run.exec_bind_error refused]

/-- A plan whose conversion fails ends with its error. -/
theorem exec_execute_of_error {e : ConversionError}
    (checked : (settings.checkSourceRows plan).exec s = (.ok (), mid))
    (failed : (Crossmap.convert plan.sourceModel plan.targetModel settings.trace).exec mid =
      (.error e, after)) :
    (settings.execute schema plan).exec s = (.error (.conversion e), after) := by
  rw [execute, Run.exec_bind_ok checked, Run.exec_bind, Run.exec_mapError, failed]
  rfl

/-- A plan whose conversion ends well is decided by the check of its records. -/
theorem exec_execute_of_ok {outcome : Outcome}
    (checked : (settings.checkSourceRows plan).exec s = (.ok (), mid))
    (converted : (Crossmap.convert plan.sourceModel plan.targetModel settings.trace).exec mid =
      (.ok outcome, after)) :
    (settings.execute schema plan).exec s = (settings.verdict schema outcome, after) := by
  rw [execute, Run.exec_bind_ok checked, Run.exec_bind, Run.exec_mapError, converted]
  exact exec_checkRecords schema outcome after

/-- A plan that ends well has passed the check of its source rows, and its conversion has ended
well. -/
theorem exists_of_execute_eq_ok {outcome : Outcome}
    (ended : (settings.execute schema plan).exec s = (.ok outcome, after)) :
    ∃ mid, (settings.checkSourceRows plan).exec s = (.ok (), mid) ∧
      (Crossmap.convert plan.sourceModel plan.targetModel settings.trace).exec mid =
        (.ok outcome, after) := by
  obtain ⟨_, mid, checked, ended⟩ := Run.exec_bind_eq_ok_iff.mp ended
  obtain ⟨outcome', after', converted, ended⟩ := Run.exec_bind_eq_ok_iff.mp ended
  rw [exec_checkRecords, verdict] at ended
  rw [Run.exec_mapError] at converted
  obtain ⟨result, rfl⟩ := Prod.mk.inj converted
  split at ended
  · cases ended
  · obtain ⟨same, rfl⟩ := Prod.mk.inj ended
    obtain rfl := Except.ok.inj same
    exact ⟨mid, checked, Prod.ext (mapError_eq_ok_iff.mp result) rfl⟩

end Execute

end Crossmap.Settings
