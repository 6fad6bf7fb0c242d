import CheckIn.Proofs.Run.Chronicle
import CheckIn.Proofs.Run.Scope

/-! The accounts of a run. Whatever the phone does and whenever the run is stopped, it comes to an
end, and its result closes the books: every task has one report, the reports are final and agree
with themselves, and the counts, the outcome and the exit code agree with the reports. -/

namespace CheckIn.Run

open Process

variable {stop : Option Nat} {before after : Nat} {s : Scheduler}

/-- The final report of a task. One that was stopped has times and an error if it had begun, and
nothing at all if it had not. -/
structure Report.Closes (r : Report) (task : Task) : Prop where
  id : r.id = task.id
  name : r.name = task.name
  terminal : r.status.isTerminal
  succeeded : r.status = .succeeded → r.error = none ∧ r.failedStep = none ∧
    r.startedAt.isSome ∧ r.finishedAt.isSome ∧ r.stepsExecuted = task.steps.length
  failed : r.status = .failed → r.error.isSome ∧ r.failedStep.isSome ∧
    r.startedAt.isSome ∧ r.finishedAt.isSome
  stopped : r.status = .stopped →
    (r.startedAt.isSome ∧ r.finishedAt.isSome ∧ r.error = some "stopped by user" ∧
      r.failedStep = none) ∨
    (r.startedAt = none ∧ r.finishedAt = none ∧ r.error = none ∧ r.failedStep = none ∧
      r.stepsExecuted = 0)

/-- The result of a run accounts for its tasks. -/
structure RunResult.Accounts (r : RunResult) (tasks : List Task) : Prop where
  length : r.reports.length = tasks.length
  closes : ∀ (i : Nat) (task : Task), tasks[i]? = some task → ∃ report : Report,
    r.reports[i]? = some report ∧ report.Closes task
  total : r.total = tasks.length
  succeeded : r.succeeded = r.reports.countP (·.status == .succeeded)
  failed : r.failed = r.reports.countP (·.status == .failed)
  stopped : r.stopped = r.reports.countP (·.status == .stopped)
  sum : r.succeeded + r.failed + r.stopped = r.total
  outcome : r.outcome = .stopped ↔ ∃ report ∈ r.reports, report.status = .stopped
  exit_zero : r.exitCode = 0 ↔ r.allSucceeded
  exit_stopped : r.exitCode = 130 ↔ ∃ report ∈ r.reports, report.status = .stopped
  exit_else : r.exitCode ≠ 0 → r.exitCode ≠ 130 → r.exitCode = 2

/-! ### Reports -/

/-- Only an error that is no stop makes a failure. -/
theorem statusOf_eq (error : StepError) :
    (error = .stopped ∧ Ledger.statusOf error = .stopped) ∨
      (error.isStop = false ∧ Ledger.statusOf error = .failed) := by
  cases error <;> simp [Ledger.statusOf, StepError.isStop]

/-- The report of an outcome is final. A success has gone through all steps. -/
theorem Report.ofOutcome_closes {task : Task} {startedAt finishedAt : Calendar.Moment}
    {outcome : Except StepFailure Nat} (h : ∀ n, outcome = .ok n → n = task.steps.length) :
    (Report.ofOutcome task startedAt finishedAt outcome).Closes task := by
  cases outcome with
  | ok n => exact ⟨rfl, rfl, rfl, fun _ => ⟨rfl, rfl, rfl, rfl, h n rfl⟩, nofun, nofun⟩
  | error failure =>
    obtain ⟨index, description, error, executed⟩ := failure
    rcases statusOf_eq error with ⟨rfl, -⟩ | ⟨hstop, hstatus⟩
    · exact ⟨rfl, rfl, rfl, nofun, nofun, fun _ => .inl ⟨rfl, rfl, rfl, rfl⟩⟩
    · refine ⟨rfl, rfl, ?_, ?_, ?_, ?_⟩ <;>
        simp [Report.ofOutcome, hstatus, hstop, Status.isTerminal]

/-- Warnings leave a final report final. -/
theorem Report.Closes.warned {r : Report} {task : Task} (h : r.Closes task)
    (warnings : List String) : { r with warnings := warnings }.Closes task :=
  ⟨h.id, h.name, h.terminal, h.succeeded, h.failed, h.stopped⟩

theorem Report.dropped_closes (task : Task) : (Report.dropped task).Closes task :=
  ⟨rfl, rfl, rfl, nofun, nofun, fun _ => .inr ⟨rfl, rfl, rfl, rfl, rfl⟩⟩

/-- A task that was executed without an error has gone through all steps. -/
theorem Execution.eq_length {task : Task} {launch : Option Stretch.OfAttempt}
    {us : List Stretch.OfAttempt} {n : Nat}
    (h : Execution stop s task before launch us (.ok n) after) : n = task.steps.length := by
  generalize hresult : Except.ok n = result at h
  cases h with
  | @plain _ _ _ walked _ _ | @launched _ _ _ walked _ _ _ _ =>
    cases walked with
    | ok _ => exact Except.ok.inj hresult
    | error _ => cases hresult
  | grounded => cases hresult

theorem Fate.Of.closes {task : Task} {fate : Fate} (h : fate.Of stop s task) :
    (fate.report task).Closes task := by
  cases fate with
  | refused now moment =>
    show (Report.ofOutcome task moment moment (.error Scheduler.noSteps)).Closes task
    exact Report.ofOutcome_closes nofun
  | carried turn =>
    have hlength (n : Nat) (hn : turn.outcome = .ok n) : n = task.steps.length :=
      Execution.eq_length (hn ▸ h.2.2.execution)
    exact (Report.ofOutcome_closes hlength).warned _
  | dropped => exact Report.dropped_closes task

/-! ### Results -/

/-- A run of which the counts add up and whose outcome tells of stops exits with 0 only if all
tasks succeeded. -/
theorem RunResult.exitCode_eq_zero {r : RunResult}
    (hsum : r.succeeded + r.failed + r.stopped = r.total)
    (hstopped : r.outcome = .stopped ↔ 0 < r.stopped) : r.exitCode = 0 ↔ r.allSucceeded := by
  rw [RunResult.allSucceeded, beq_iff_eq]
  unfold RunResult.exitCode
  cases houtcome : r.outcome with
  | stopped =>
    have hpos := hstopped.mp houtcome
    constructor
    · nofun
    · omega
  | completed =>
    have hzero : r.stopped = 0 := by
      by_cases h : 0 < r.stopped
      · cases houtcome.symm.trans (hstopped.mpr h)
      · omega
    show (if r.failed > 0 then 2 else 0) = 0 ↔ r.succeeded = r.total
    split
    · omega
    · omega

theorem RunResult.exitCode_eq_stopped {r : RunResult} :
    r.exitCode = 130 ↔ r.outcome = .stopped := by
  unfold RunResult.exitCode
  cases houtcome : r.outcome with
  | stopped => exact ⟨fun _ => rfl, fun _ => rfl⟩
  | completed =>
    dsimp only
    split <;> exact ⟨nofun, nofun⟩

theorem RunResult.exitCode_cases (r : RunResult) :
    r.exitCode = 0 ∨ r.exitCode = 2 ∨ r.exitCode = 130 := by
  unfold RunResult.exitCode
  cases r.outcome with
  | stopped => exact .inr (.inr rfl)
  | completed =>
    dsimp only
    split
    · exact .inr (.inl rfl)
    · exact .inl rfl

/-- Whatever the final reports are, counts, outcome and exit code follow from them. -/
theorem RunResult.ofReports_accounts {tasks : List Task} {reports : List Report} {elapsed : Nat}
    (hlength : reports.length = tasks.length)
    (hcloses : ∀ (i : Nat) (task : Task), tasks[i]? = some task → ∃ report : Report,
      reports[i]? = some report ∧ report.Closes task) :
    (RunResult.ofReports reports elapsed).Accounts tasks := by
  have hterminal : ∀ r ∈ reports, r.status.isTerminal := by
    intro r hr
    obtain ⟨i, hi, rfl⟩ := List.mem_iff_getElem.mp hr
    obtain ⟨report, hreport, hclosed⟩ := hcloses i _ (List.getElem?_eq_getElem (hlength ▸ hi))
    rw [List.getElem?_eq_getElem hi] at hreport
    exact Option.some.inj hreport ▸ hclosed.terminal
  have hsum := counts_eq_length_iff.mpr hterminal
  have houtcome : (RunResult.ofReports reports elapsed).outcome = .stopped ↔
      0 < (RunResult.ofReports reports elapsed).stopped := by
    simp [RunResult.ofReports, Ledger.finish, Nat.pos_iff_ne_zero]
  have hstopped := houtcome.trans count_stopped_pos
  refine ⟨hlength, hcloses, hlength, rfl, rfl, rfl, hsum, hstopped, ?_, ?_, ?_⟩
  · exact RunResult.exitCode_eq_zero hsum houtcome
  · exact RunResult.exitCode_eq_stopped.trans hstopped
  · intro h₀ h₁₃₀
    rcases RunResult.exitCode_cases (.ofReports reports elapsed) with h | h | h
    · exact absurd h h₀
    · exact h
    · exact absurd h h₁₃₀

/-! ### Runs -/

/-- The result of a run that has come to its end accounts for its tasks. -/
theorem accounts_of_goes {tasks : List Task} {log : Log} {result : Option RunResult}
    (h : Goes stop (s.run tasks) before log result after) :
    ∃ r, result = some r ∧ r.Accounts tasks := by
  obtain ⟨fates, elapsed, hchron, rfl, -⟩ := chronicle_of_run h
  have hlength := hchron.length_eq
  refine ⟨_, rfl, RunResult.ofReports_accounts (by simp [hlength]) fun i task htask => ?_⟩
  obtain ⟨fate, hfate, hof⟩ := hchron.fate_of htask
  exact ⟨fate.report task, by rw [List.getElem?_zipWith, hfate, htask], hof.closes⟩

/-- A run in which the tries of recognition can be counted comes to an end. -/
theorem surely_of_countable {tasks : List Task} (h : ∀ task ∈ tasks, s.steps.AreCountable task)
    {Q : Option RunResult → Prop}
    (hQ : ∀ log result after, Goes stop (s.run tasks) before log result after → Q result) :
    Surely stop Q (s.run tasks) before :=
  surely_of_no_overrun ((s.run_asks (R := fun _ => False) tasks (.inr h)).mono
    fun _ _ hq => hq) hQ

/-- Whatever the phone does and whenever the run is stopped, a run of the enabled tasks and a run of
a single task come to an end with a result that accounts for the tasks that were to be run. -/
theorem runs_account (s : Scheduler) (tasks : List Task)
    (h : ∀ task ∈ tasks, s.steps.AreCountable task) (stop : Option Nat) (clock : Nat) :
    Surely stop (fun result => ∃ r, result = some r ∧ r.Accounts (tasks.filter (·.enabled)))
        (s.runAll tasks) clock ∧
      ∀ task ∈ tasks, Surely stop (fun result => ∃ r, result = some r ∧ r.Accounts [task])
        (s.runSingle task) clock := by
  constructor
  · refine surely_of_countable (fun task htask => ?_) fun _ _ _ hgoes => accounts_of_goes hgoes
    exact h task (List.mem_filter.mp htask).1
  · intro task htask
    refine surely_of_countable (fun task' htask' => ?_) fun _ _ _ hgoes => accounts_of_goes hgoes
    rw [List.mem_singleton.mp htask']
    exact h task htask

theorem runs_account_imageTask :
    Surely (some 5) (fun result => ∃ r, result = some r ∧ r.Accounts [imageTask])
        (Scheduler.standard.runAll [imageTask]) 0 ∧
      ∀ task ∈ [imageTask], Surely (some 5)
        (fun result => ∃ r, result = some r ∧ r.Accounts [task])
        (Scheduler.standard.runSingle task) 0 :=
  runs_account .standard [imageTask]
    (fun _ htask => List.mem_singleton.mp htask ▸ imageTask_areCountable) (some 5) 0

end CheckIn.Run
