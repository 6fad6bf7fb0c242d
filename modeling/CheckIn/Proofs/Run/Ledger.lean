import CheckIn.Run.Ledger
import CheckIn.Task.Basic

/-! The reports of a ledger. While a run goes on, the ledger holds the final reports of the tasks
behind it and pending reports of those ahead. A task's report is made from its outcome and from what
went wrong when its app was left, whichever operations have brought it about. -/

namespace CheckIn.Run

open Calendar (Moment)

/-- The report of a task that has not begun. -/
def Report.ahead (task : Task) : Report := .pending task.id task.name

/-- The report of a task that will not begin. -/
def Report.dropped (task : Task) : Report := { Report.ahead task with status := .stopped }

/-- The report of a task that has ended, but for warnings. -/
def Report.ofOutcome (task : Task) (startedAt finishedAt : Moment) :
    Except StepFailure Nat → Report
  | .ok steps => ⟨task.id, task.name, .succeeded, none, none, [], steps, startedAt, finishedAt⟩
  | .error failure =>
    { id := task.id, name := task.name, status := Ledger.statusOf failure.error
      error := some failure.error.message
      failedStep := if failure.error.isStop then none else some failure.description
      warnings := [], stepsExecuted := failure.stepsExecuted
      startedAt := some startedAt, finishedAt := some finishedAt }

section Counts

variable {reports : List Report}

/-- Reports succeed, fail or are stopped, unless they are not at their end. -/
theorem counts_eq_countP_isTerminal : reports.countP (·.status == .succeeded) +
    reports.countP (·.status == .failed) + reports.countP (·.status == .stopped) =
      reports.countP (·.status.isTerminal) := by
  induction reports with
  | nil => rfl
  | cons r reports ih =>
    simp only [List.countP_cons, ← ih]
    cases r.status <;> simp [Status.isTerminal] <;> omega

theorem counts_eq_length_iff : reports.countP (·.status == .succeeded) +
    reports.countP (·.status == .failed) + reports.countP (·.status == .stopped) =
      reports.length ↔ ∀ r ∈ reports, r.status.isTerminal := by
  rw [counts_eq_countP_isTerminal, List.countP_eq_length]

theorem count_stopped_pos :
    reports.countP (·.status == .stopped) > 0 ↔ ∃ r ∈ reports, r.status = .stopped := by
  simp [List.countP_pos_iff]

end Counts

namespace Ledger

variable {l : Ledger} {past rest : List Report} {r : Report} {task : Task}

theorem change_reports (f : Report → Report) (h : l.reports = past ++ r :: rest) :
    (l.change past.length f).reports = past ++ f r :: rest := by
  show l.reports.modify past.length f = _
  rw [h, List.modify_eq_take_cons_drop (by simp)]
  simp

/-- A task that begins and fails has the report of its failure. -/
theorem fail_reports (startedAt finishedAt : Moment) (failure : StepFailure)
    (h : l.reports = past ++ Report.ahead task :: rest) :
    ((l.start past.length startedAt).fail past.length failure finishedAt).2.reports =
      past ++ Report.ofOutcome task startedAt finishedAt (.error failure) :: rest :=
  change_reports _ (change_reports _ h)

/-- A task that begins and succeeds has the report of its success. -/
theorem succeed_reports {startedAt finishedAt : Moment} (steps : Nat)
    (h : l.reports = past ++ Report.ahead task :: rest) :
    ((l.start past.length startedAt).succeed past.length steps finishedAt).reports =
      past ++ Report.ofOutcome task startedAt finishedAt (.ok steps) :: rest :=
  change_reports _ (change_reports _ h)

/-- Warnings change nothing else in a report. -/
theorem warn_reports (warnings : List StepError) (h : l.reports = past ++ r :: rest) :
    (l.warn past.length warnings).reports =
      past ++ { r with warnings := r.warnings ++ warnings.map StepError.message } :: rest :=
  change_reports _ h

/-- A run that is stopped drops the tasks ahead and leaves the reports behind it as they are. -/
theorem stopRemaining_reports {tasks : List Task}
    (h : l.reports = past ++ tasks.map Report.ahead) :
    (l.stopRemaining past.length).2.reports = past ++ tasks.map Report.dropped := by
  show l.reports.mapIdx _ = _
  rw [h, List.mapIdx_eq_iff]
  intro i
  rw [List.getElem?_append, List.getElem?_append]
  split
  · cases past[i]? with
    | none => rfl
    | some r => simp [show ¬past.length ≤ i by omega]
  · have hi : past.length ≤ i := by omega
    simp only [List.getElem?_map]
    cases tasks[i - past.length]? with
    | none => rfl
    | some task => simp [hi, Report.ahead, Report.pending, Report.dropped]

end Ledger

end CheckIn.Run
