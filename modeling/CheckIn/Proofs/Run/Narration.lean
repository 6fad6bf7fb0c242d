import CheckIn.Proofs.Run.Accounts
import CheckIn.Proofs.Run.Sequence

/-! What a run tells of its tasks. The progress of a task comes from two places: the run tells that
the task begins and how it ends, and its steps tell how far they have come. Both go into one stream,
to which errors are added as messages. A part of a run that tells a known stretch of this stream
`Tells` it; the whole run tells the stream that its result calls for. -/

namespace CheckIn.Run

open Process

variable {stop : Option Nat} {before after : Nat} {log log₁ log₂ : Log} {s : Scheduler}
  {task : Task}

/-- The progress that is told in an exchange, if any. -/
def Exchange.progress? : Exchange → Option Progress
  | ⟨_, .tell (.progress p), _, _⟩ => some p
  | _ => none

/-- The error that is told in an exchange, if any. -/
def Exchange.error? : Exchange → Option String
  | ⟨_, .tell (.message .error text), _, _⟩ => some text
  | _ => none

/-- The progress told in a log, in its order. -/
def progressOf (log : Log) : List Progress := log.filterMap Exchange.progress?

/-- The errors told in a log, in their order. -/
def errorsOf (log : Log) : List String := log.filterMap Exchange.error?

/-- What a log tells of the tasks of a run. -/
structure Tells (log : Log) (progress : List Progress) (errors : List String) : Prop where
  progress_eq : progressOf log = progress
  errors_eq : errorsOf log = errors

theorem Tells.append {ps₁ ps₂ : List Progress} {es₁ es₂ : List String} (h₁ : Tells log₁ ps₁ es₁)
    (h₂ : Tells log₂ ps₂ es₂) : Tells (log₁ ++ log₂) (ps₁ ++ ps₂) (es₁ ++ es₂) := by
  constructor
  · rw [progressOf, List.filterMap_append, ← progressOf, ← progressOf, h₁.progress_eq,
      h₂.progress_eq]
  · rw [errorsOf, List.filterMap_append, ← errorsOf, ← errorsOf, h₁.errors_eq, h₂.errors_eq]

theorem Tells.append_nothing {ps : List Progress} {es : List String} (h : Tells log₁ ps es)
    (hrest : Tells log₂ [] []) : Tells (log₁ ++ log₂) ps es := by
  simpa using h.append hrest

/-- Requests that tell nothing of the tasks. -/
def Request.IsPlain : Request → Prop
  | .tell note => note.IsPlain
  | _ => True

theorem Request.OfAction.isPlain {R : Nat → Prop} {now : Nat} :
    ∀ {q : Request}, q.OfAction R now → q.IsPlain
  | .tell _, h => h
  | .call _, _ | .query _ _ _, _ | .pause _ _, _ | .now, _ | .localTime, _ | .isStopped, _
  | .overflow, _ | .overrun, _ => trivial

theorem Request.OfTeardown.isPlain : ∀ {q : Request}, q.OfTeardown → q.IsPlain
  | .tell _, h => h
  | .call _, _ | .query _ _ _, _ | .pause _ _, _ | .now, _ | .sleep _, _ | .isStopped, _
  | .overflow, _ => trivial

theorem Exchange.plain {e : Exchange} (h : e.request.IsPlain) :
    e.progress? = none ∧ e.error? = none := by
  obtain ⟨made, q, answer, met⟩ := e
  cases q with
  | tell note =>
    cases note with
    | progress p => exact h.elim
    | message level text =>
      cases level with
      | error => exact h.elim
      | _ => exact ⟨rfl, rfl⟩
    | event e => exact ⟨rfl, rfl⟩
  | _ => exact ⟨rfl, rfl⟩

theorem Tells.cons_plain {e : Exchange} {ps : List Progress} {es : List String}
    (he : e.request.IsPlain) (h : Tells log ps es) : Tells (e :: log) ps es := by
  obtain ⟨hprogress, herror⟩ := Exchange.plain he
  constructor
  · rw [progressOf, List.filterMap_cons_none hprogress]
    exact h.progress_eq
  · rw [errorsOf, List.filterMap_cons_none herror]
    exact h.errors_eq

theorem Tells.cons_progress {p : Progress} {ps : List Progress} {es : List String}
    (h : Tells log ps es) :
    Tells (⟨before, .tell (.progress p), (), after⟩ :: log) (p :: ps) es :=
  ⟨congrArg _ h.progress_eq, h.errors_eq⟩

theorem tells_nothing (h : ∀ e ∈ log, e.request.IsPlain) : Tells log [] [] :=
  ⟨List.filterMap_eq_nil_iff.mpr fun e he => (Exchange.plain (h e he)).1,
    List.filterMap_eq_nil_iff.mpr fun e he => (Exchange.plain (h e he)).2⟩

/-! ### What is told of a task -/

def pendingProgress (index : Nat) (task : Task) : Progress :=
  ⟨index, 0, s!"{task.name} pending", .pending⟩

def startProgress (index : Nat) (task : Task) : Progress :=
  ⟨index, 30, s!"{task.name} started", .running⟩

/-- The percent that are told before a step. -/
def runningPercent (total step : Nat) : Nat := 30 + 60 * step / total

def stepProgress (index total step : Nat) : Progress :=
  ⟨index, runningPercent total step, s!"step {step + 1}/{total}", .running⟩

/-- How the end of a task is told, by its status. -/
def endProgress (index : Nat) (stoppedText name : String) : Status → Progress
  | .succeeded => ⟨index, 100, s!"{name} done", .succeeded⟩
  | .failed => ⟨index, 0, s!"{name} failed", .failed⟩
  | _ => ⟨index, 50, stoppedText, .stopped⟩

/-- The progress of a task from its start on, as its report has it. A task that has steps and was
started is told to be running, once at its start and once before each step that is carried out. -/
def taskProgress (index : Nat) (task : Task) (report : Report) : List Progress :=
  if report.startedAt.isNone then [endProgress index "stopped" task.name report.status]
  else
    let ending := endProgress index s!"{task.name} stopped" task.name report.status
    if task.steps.isEmpty then [ending]
    else
      startProgress index task ::
        (List.range report.stepsExecuted).map (stepProgress index task.steps.length) ++ [ending]

/-- What errors are told of a task: one with its name if it failed. -/
inductive Complains (task : Task) : Status → List String → Prop
  | failed {rest : String} : Complains task .failed [s!"[{task.name}]" ++ rest]
  | calm {status : Status} : status ≠ .failed → Complains task status []

/-! ### Steps -/

theorem runningPercent_lt {total step : Nat} (h : step < total) :
    30 ≤ runningPercent total step ∧ runningPercent total step ≤ 89 := by
  have hdiv : 60 * step / total < 60 := by
    rw [Nat.div_lt_iff_lt_mul (by omega)]
    omega
  exact ⟨Nat.le_add_right .., Nat.add_le_add_left (Nat.le_of_lt_succ hdiv) 30⟩

theorem runningPercent_mono {total m n : Nat} (h : m ≤ n) :
    runningPercent total m ≤ runningPercent total n :=
  Nat.add_le_add_left (Nat.div_le_div_right (Nat.mul_le_mul_left 60 h)) 30

/-- The percent fit into a byte, and are never more than 100. -/
theorem min_stepPercent {total step : Nat} (h : step < total) :
    min (stepPercent step total) 100 = runningPercent total step := by
  have hlt := runningPercent_lt h
  unfold runningPercent at hlt ⊢
  unfold stepPercent
  rw [if_neg (by omega), Nat.mul_comm step 60]
  omega

theorem announcement_tells {taskIndex total index now : Nat} {step : Step} (h : index < total) :
    Tells (announcement task taskIndex total index step now) [stepProgress taskIndex total index]
      [] := by
  refine ⟨?_, rfl⟩
  show [(⟨_, min (stepPercent index total) 100, _, _⟩ : Progress)] = _
  rw [min_stepPercent h]
  rfl

/-- The status of a task that ends with an outcome. -/
def outcomeStatus {α : Type} : Except StepFailure α → Status
  | .ok _ => .succeeded
  | .error failure => Ledger.statusOf failure.error

theorem complaint_tells {e : StepError} {text rest : String} (now : Nat)
    (h : text = s!"[{task.name}]" ++ rest) :
    ∃ errors, Tells (complaint (!e.isStop) text now) [] errors ∧
      Complains task (Ledger.statusOf e) errors := by
  unfold Ledger.statusOf complaint
  cases e.isStop with
  | true => exact ⟨[], ⟨rfl, rfl⟩, .calm nofun⟩
  | false => exact ⟨[text], ⟨rfl, rfl⟩, h ▸ .failed⟩

theorem failureText_eq (task : Task) (total index : Nat) (step : Step) (e : StepError) :
    ∃ rest, failureText task total index step e = s!"[{task.name}]" ++ rest := by
  refine ⟨s!" step {index + 1}/{total} '{step.description}' failed: {e.message}", ?_⟩
  apply String.toList_inj.mp
  simp [failureText, ToString.toString]

theorem step_tells_nothing {r : StepRunner} {step : Step} {u : Stretch.OfAttempt}
    (h : u.Of stop (r.runStep task step).run) : Tells u.log [] [] := by
  have hasks : (r.runStep task step).run.Asks (Meets stop) (Request.OfAction fun _ => True) :=
    r.runStep_asks task step (.inl fun _ _ _ _ _ => trivial)
  exact tells_nothing fun e he => (h.asks (hasks _) e he).isPlain

theorem Rounds.tells {r : StepRunner} {taskIndex total delay index : Nat} {steps : List Step}
    {us : List Stretch.OfAttempt} {result : Except StepFailure Unit}
    (h : Rounds stop r task taskIndex total delay index steps before log us result after)
    (htotal : index + steps.length = total) :
    ∃ errors, Tells log ((List.range' index us.length).map (stepProgress taskIndex total)) errors ∧
      Complains task (outcomeStatus result) errors := by
  induction h with
  | done => exact ⟨[], ⟨rfl, rfl⟩, .calm nofun⟩
  | stopped _ => exact ⟨[], ⟨rfl, rfl⟩, .calm nofun⟩
  | @failed index step later u e _ hu _ =>
    have hindex : index < total := by simp at htotal; omega
    obtain ⟨rest, htext⟩ := failureText_eq task total index step e
    obtain ⟨errors, hcomplaint, hcomplains⟩ := complaint_tells (e := e) u.ended htext
    exact ⟨errors, (announcement_tells hindex).append ((step_tells_nothing hu).append hcomplaint),
      hcomplains⟩
  | @cut index _ _ _ _ _ _ hu _ _ =>
    have hindex : index < total := by simp at htotal; omega
    exact ⟨[], (announcement_tells hindex).append ((step_tells_nothing hu).append ⟨rfl, rfl⟩),
      .calm nofun⟩
  | @passed index _ _ _ _ u _ _ us _ _ hu _ _ _ _ ih =>
    have hindex : index < total := by simp at htotal; omega
    obtain ⟨errors, hrest, hcomplains⟩ := ih (by simp at htotal; omega)
    refine ⟨errors, ?_, hcomplains⟩
    exact (announcement_tells hindex).append
      ((step_tells_nothing hu).append (hrest.cons_plain trivial))

/-- What is told while a task is executed, and what its outcome says of it. -/
structure Executes (task : Task) (index : Nat) (log : Log) (outcome : Except StepFailure Nat)
    (errors : List String) : Prop where
  tells : Tells log ((List.range (executed outcome)).map (stepProgress index task.steps.length))
    errors
  complains : Complains task (outcomeStatus outcome) errors
  executed_le : executed outcome ≤ task.steps.length

theorem runSteps_executes {r : StepRunner} {index : Nat} {outcome : Except StepFailure Nat}
    (h : Goes stop (r.runSteps task index).run before log outcome after) :
    ∃ errors, Executes task index log outcome errors := by
  obtain ⟨us, walked, hrounds, rfl⟩ := rounds_of_goes_runSteps h
  obtain ⟨errors, htells, hcomplains⟩ := hrounds.tells (Nat.zero_add _)
  have hlength : us.length = executed (walked.map fun _ => task.steps.length) := by
    simpa using hrounds.walk.1.ending.told.length_eq
  refine ⟨errors, ?_, ?_, hlength ▸ hrounds.walk.1.zip_of.1⟩
  · rw [← hlength, List.range_eq_range']
    exact htells
  · cases walked <;> exact hcomplains

theorem execute_executes {index : Nat} {outcome : Except StepFailure Nat}
    (h : Goes stop (s.execute task index).run before log outcome after) :
    ∃ errors, Executes task index log outcome errors := by
  unfold Scheduler.execute at h
  split at h
  case isFalse => exact runSteps_executes h
  case isTrue =>
    obtain ⟨log₁, launched, between, log₂, rfl, hlaunch, h⟩ :=
      (goes_lift_bind_run (p := (s.steps.launchApp task.package s.launchTimeout).run)).mp h
    have hasks : (s.steps.launchApp task.package s.launchTimeout).run.Asks (Meets stop)
        (Request.OfAction fun _ => True) := s.steps.launchApp_asks _ _
    have hquiet : Tells log₁ [] [] :=
      tells_nothing fun e he => (hlaunch.asks (hasks _) e he).isPlain
    cases launched with
    | ok _ =>
      obtain ⟨errors, hexecutes⟩ := runSteps_executes h
      exact ⟨errors, hquiet.append hexecutes.tells, hexecutes.complains, hexecutes.executed_le⟩
    | error e =>
      obtain ⟨rfl, rfl, rfl⟩ := goes_say_throw h
      have hnamed : s!"[{task.name}] clean launch failed: {e.message}" =
          s!"[{task.name}]" ++ s!" clean launch failed: {e.message}" := by
        apply String.toList_inj.mp
        simp [ToString.toString]
      obtain ⟨errors, hcomplaint, hcomplains⟩ := complaint_tells _ hnamed
      exact ⟨errors, hquiet.append hcomplaint, hcomplains, Nat.zero_le _⟩

/-! ### Tasks -/

theorem settle_tells {index started : Nat} {ledger ledger' : Ledger}
    {outcome : Except StepFailure Nat} (hindex : index < ledger.reports.length)
    (h : Goes stop (Scheduler.settle task index started ledger outcome) before log ledger' after) :
    Tells log [endProgress index s!"{task.name} stopped" task.name (outcomeStatus outcome)] [] := by
  cases outcome with
  | ok steps =>
    obtain ⟨_, _, _, rfl, rfl, _, _, _, rfl, rfl, _, _, _, rfl, -, _, _, _, rfl, rfl,
      rfl, -, -⟩ := h
    exact ⟨rfl, rfl⟩
  | error failure =>
    obtain ⟨_, _, log, rfl, rfl, h⟩ := h
    have hstatus (moment) : (ledger.fail index failure moment).1 =
        Ledger.statusOf failure.error := if_pos hindex
    dsimp only [Process.bind] at h
    rw [hstatus] at h
    show Tells _ [endProgress index _ task.name (Ledger.statusOf failure.error)] []
    rcases statusOf_eq failure.error with ⟨-, hstop⟩ | ⟨-, hfail⟩
    · rw [hstop] at h ⊢
      obtain ⟨_, _, _, rfl, rfl, _, _, _, rfl, rfl, rfl, -, -⟩ := h
      exact ⟨rfl, rfl⟩
    · rw [hfail] at h ⊢
      obtain ⟨_, _, _, rfl, rfl, rfl, -, -⟩ := h
      exact ⟨rfl, rfl⟩

/-- The report of a task agrees with what is told of it. -/
structure TellsTask (index : Nat) (task : Task) (report : Report) (log : Log)
    (errors : List String) : Prop where
  tells : Tells log (taskProgress index task report) errors
  complains : Complains task report.status errors
  terminal : report.status.isTerminal
  executed_le : report.stepsExecuted ≤ task.steps.length

theorem ofOutcome_status (task : Task) (startedAt finishedAt : Calendar.Moment)
    (outcome : Except StepFailure Nat) :
    (Report.ofOutcome task startedAt finishedAt outcome).status = outcomeStatus outcome ∧
      (Report.ofOutcome task startedAt finishedAt outcome).stepsExecuted = executed outcome ∧
      (Report.ofOutcome task startedAt finishedAt outcome).startedAt = some startedAt := by
  cases outcome <;> exact ⟨rfl, rfl, rfl⟩

theorem outcomeStatus_isTerminal {α : Type} (outcome : Except StepFailure α) :
    (outcomeStatus outcome).isTerminal := by
  cases outcome with
  | ok _ => rfl
  | error failure =>
    rcases statusOf_eq failure.error with ⟨-, h⟩ | ⟨-, h⟩ <;>
      simp [outcomeStatus, h, Status.isTerminal]

theorem runTask_tells {total : Nat} {ledger ledger' : Ledger} {past rest : List Report}
    (h : Goes stop (s.runTask task past.length total ledger) before log ledger' after)
    (hsteps : task.steps ≠ []) (hreports : ledger.reports = past ++ Report.ahead task :: rest) :
    ∃ report errors, ledger'.reports = past ++ report :: rest ∧
      TellsTask past.length task report log errors := by
  obtain ⟨startedAt, u, v, w, rfl, -, -, -, -, hexecute, hsettle, hleave, rfl⟩ :=
    stages_of_runTask h
  obtain ⟨errors, hexecutes⟩ := execute_executes hexecute
  obtain ⟨-, finishedAt, -, hnoted⟩ := goes_settle hsettle
  have hstarted : past.length < (ledger.start past.length startedAt).reports.length := by
    rw [Ledger.start, Ledger.change_reports _ hreports]
    simp
  have hsettled := settle_tells hstarted hsettle
  have hasks : (s.teardown.run task).Asks (Meets stop) fun _ => Request.OfTeardown :=
    s.teardown.run_asks task
  have hleft : Tells w.log [] [] :=
    tells_nothing fun e he => (hleave.asks (hasks _) e he).isPlain
  obtain ⟨hstatus, hexecuted, hbegan⟩ := ofOutcome_status task startedAt finishedAt u.result
  have hopened : Tells (opening task past.length total before startedAt)
      [startProgress past.length task] [] := ⟨rfl, rfl⟩
  refine ⟨{ Report.ofOutcome task startedAt finishedAt u.result with
    warnings := (Report.ofOutcome task startedAt finishedAt u.result).warnings ++
      w.result.map StepError.message }, errors, ?_, ?_, ?_, ?_, ?_⟩
  · rw [hnoted]
    exact Ledger.warn_reports _ (noted_reports _ _ hreports)
  · have hall := hopened.append (hexecutes.tells.append (hsettled.append hleft))
    simp only [List.append_nil, List.nil_append] at hall
    unfold taskProgress
    simp only [hbegan, hexecuted, hstatus]
    simpa [hsteps] using hall
  · rw [hstatus]
    exact hexecutes.complains
  · rw [hstatus]
    exact outcomeStatus_isTerminal _
  · rw [hexecuted]
    exact hexecutes.executed_le

theorem refuse_tells {ledger ledger' : Ledger} {past rest : List Report}
    (h : Goes stop (Scheduler.refuse task past.length ledger) before log ledger' after)
    (hsteps : task.steps = []) (hreports : ledger.reports = past ++ Report.ahead task :: rest) :
    ∃ report errors, ledger'.reports = past ++ report :: rest ∧
      TellsTask past.length task report log errors := by
  obtain ⟨moment, _, _, rfl, rfl, _, _, _, rfl, rfl, _, _, _, rfl, rfl, rfl, rfl, rfl⟩ := h
  have hnamed : s!"[{task.name}] has no steps; not started" =
      s!"[{task.name}]" ++ " has no steps; not started" := by
    apply String.toList_inj.mp
    simp [ToString.toString]
  have hprogress : taskProgress past.length task
      (.ofOutcome task moment moment (.error Scheduler.noSteps)) =
        [⟨past.length, 0, s!"{task.name} failed", .failed⟩] := by
    unfold taskProgress
    rw [hsteps]
    rfl
  refine ⟨_, _, Ledger.fail_reports moment moment Scheduler.noSteps hreports, ⟨?_, rfl⟩, ?_, rfl,
    Nat.zero_le _⟩
  · rw [hprogress]
    rfl
  · show Complains task .failed [_]
    rw [hnamed]
    exact .failed

theorem forM_tells {α : Type} {as : List α} {p : α → Progress} {u : Unit}
    (h : Goes stop (as.forM fun a => Part.tell (.progress (p a))) before log u after) :
    Tells log (as.map p) [] := by
  induction as generalizing before log with
  | nil =>
    obtain ⟨rfl, -, -⟩ := h
    exact ⟨rfl, rfl⟩
  | cons a as ih =>
    obtain ⟨_, _, log, rfl, rfl, h⟩ := h
    exact (ih h).cons_progress

/-! ### Runs -/

/-- The progress of tasks, the first of which is at `start` of the run. -/
def tasksProgress (start : Nat) (tasks : List Task) (reports : List Report) : List Progress :=
  ((tasks.zip reports).zipIdx start).flatMap fun x => taskProgress x.2 x.1.1 x.1.2

/-- The errors that are told are those of the failed tasks, one for each. -/
def ErrorsOf (tasks : List Task) (reports : List Report) (errors : List String) : Prop :=
  List.Forall₂ (fun x text => ∃ rest, text = s!"[{x.1.name}]" ++ rest)
    ((tasks.zip reports).filter (·.2.status == .failed)) errors

theorem Complains.errorsOf {tasks : List Task} {report : Report} {reports : List Report}
    {es errors : List String} (h : Complains task report.status es)
    (hrest : ErrorsOf tasks reports errors) :
    ErrorsOf (task :: tasks) (report :: reports) (es ++ errors) := by
  unfold ErrorsOf
  rw [List.zip_cons_cons, List.filter_cons]
  generalize hstatus : report.status = status at h
  cases h with
  | failed => exact .cons ⟨_, rfl⟩ hrest
  | calm hne =>
    rw [if_neg (by simpa using hne)]
    exact hrest

theorem tasksProgress_dropped (start : Nat) (tasks : List Task) :
    tasksProgress start tasks (tasks.map Report.dropped) =
      (List.range' start tasks.length).map fun i => ⟨i, 50, "stopped", .stopped⟩ := by
  induction tasks generalizing start with
  | nil => rfl
  | cons task tasks ih => exact congrArg _ (ih (start + 1))

theorem errorsOf_dropped (tasks : List Task) : ErrorsOf tasks (tasks.map Report.dropped) [] := by
  induction tasks with
  | nil => exact .nil
  | cons task tasks ih =>
    have hcalm : Complains task (Report.dropped task).status [] := .calm (by simp [Report.dropped])
    exact hcalm.errorsOf ih

/-- The place of a report, if it is a pending one from `start` on. -/
def pendingPlace (start : Nat) (x : Report × Nat) : Option Nat :=
  if start ≤ x.2 ∧ x.1.status = .pending then some x.2 else none

theorem filterMap_pendingPlace (tasks : List Task) {start place : Nat} (h : start ≤ place) :
    ((tasks.map Report.ahead).zipIdx place).filterMap (pendingPlace start) =
      List.range' place tasks.length := by
  induction tasks generalizing place with
  | nil => rfl
  | cons task tasks ih =>
    have hplace : pendingPlace start (Report.ahead task, place) = some place := if_pos ⟨h, rfl⟩
    rw [List.map_cons, List.zipIdx_cons, List.filterMap_cons, hplace, ih (Nat.le_succ_of_le h)]
    rfl

/-- The places at which tasks are pending are those of the tasks ahead. -/
theorem pendingFrom_eq {ledger : Ledger} {past : List Report} {tasks : List Task}
    (h : ledger.reports = past ++ tasks.map Report.ahead) :
    ledger.pendingFrom past.length = List.range' past.length tasks.length := by
  have hpast : (past.zipIdx 0).filterMap (pendingPlace past.length) = [] := by
    rw [List.filterMap_eq_nil_iff]
    rintro ⟨r, i⟩ hx
    have hi : i < past.length := by simpa using List.snd_lt_of_mem_zipIdx hx
    exact if_neg fun h => by omega
  show ledger.reports.zipIdx.filterMap (pendingPlace past.length) = _
  rw [h, List.zipIdx_append, List.filterMap_append, hpast, List.nil_append, Nat.zero_add]
  exact filterMap_pendingPlace tasks (Nat.le_refl _)

theorem stopRemaining_tells {total : Nat} {ledger ledger' : Ledger} {past : List Report}
    {tasks : List Task}
    (h : Goes stop (Scheduler.stopRemaining past.length total ledger) before log ledger' after)
    (hreports : ledger.reports = past ++ tasks.map Report.ahead) :
    Tells log (tasksProgress past.length tasks (tasks.map Report.dropped)) [] := by
  obtain ⟨log₁, _, between, log₂, rfl, htells, hlast⟩ := goes_bind
    (p := (ledger.stopRemaining past.length).1.forM fun i => Part.progress i 50 "stopped" .stopped)
      |>.mp h
  obtain ⟨_, _, _, rfl, rfl, rfl, rfl, rfl⟩ := hlast
  have htold := forM_tells (p := fun i => ⟨i, 50, "stopped", .stopped⟩) htells
  rw [tasksProgress_dropped, ← pendingFrom_eq hreports]
  exact htold.append_nothing ⟨rfl, rfl⟩

/-- What is told of tasks that the run comes to after those of the reports `past`, and what the
reports of all these say in the end. -/
structure TellsTasks (past : List Report) (tasks : List Task) (reports : List Report) (log : Log)
    (errors : List String) : Prop where
  length_eq : reports.length = tasks.length
  tells : Tells log (tasksProgress past.length tasks reports) errors
  errors : ErrorsOf tasks reports errors
  reports : ∀ x ∈ tasks.zip reports,
    x.2.status.isTerminal ∧ x.2.stepsExecuted ≤ x.1.steps.length

theorem TellsTasks.cons {past : List Report} {tasks : List Task} {report : Report}
    {reports : List Report} {es errors : List String}
    (h : TellsTask past.length task report log₁ es)
    (hrest : TellsTasks (past ++ [report]) tasks reports log₂ errors) :
    TellsTasks past (task :: tasks) (report :: reports) (log₁ ++ log₂) (es ++ errors) := by
  refine ⟨congrArg (· + 1) hrest.length_eq, ?_, h.complains.errorsOf hrest.errors,
    List.forall_mem_cons.mpr ⟨⟨h.terminal, h.executed_le⟩, hrest.reports⟩⟩
  have htells := hrest.tells
  rw [List.length_append] at htells
  exact h.tells.append htells

theorem TellsTasks.prepend {past : List Report} {tasks : List Task} {reports : List Report}
    {errors : List String} (h : TellsTasks past tasks reports log₂ errors)
    (hquiet : Tells log₁ [] []) : TellsTasks past tasks reports (log₁ ++ log₂) errors :=
  ⟨h.length_eq, by simpa using hquiet.append h.tells, h.errors, h.reports⟩

theorem runTasks_tell {total : Nat} {tasks : List Task} {ledger ledger' : Ledger}
    {past : List Report}
    (h : Goes stop (s.runTasks total past.length tasks ledger) before log ledger' after)
    (hreports : ledger.reports = past ++ tasks.map Report.ahead) :
    ∃ reports errors, ledger'.reports = past ++ reports ∧
      TellsTasks past tasks reports log errors := by
  induction tasks generalizing past before log ledger with
  | nil =>
    obtain ⟨rfl, rfl, rfl⟩ := h
    exact ⟨[], [], hreports, rfl, ⟨rfl, rfl⟩, .nil, fun _ hx => absurd hx List.not_mem_nil⟩
  | cons task tasks ih =>
    have hlength (r : Report) : past.length + 1 = (past ++ [r]).length := by simp
    have hasked (answer : Bool) : Tells [⟨before, .isStopped, answer, before⟩] [] [] := ⟨rfl, rfl⟩
    rcases stages_of_runTasks h with ⟨hr, log', rfl, hstop⟩ |
      ⟨hr, ⟨hsteps, u, log', rfl, rfl, hrefuse, hrest⟩ |
        ⟨hsteps, u, between, paused, log', rfl, rfl, htask, hle, hpaused, hrest⟩⟩
    · obtain ⟨-, -, rfl⟩ := goes_stopRemaining hstop
      have hdropped : TellsTasks past (task :: tasks) ((task :: tasks).map Report.dropped) log'
          [] := by
        refine ⟨List.length_map .., stopRemaining_tells hstop hreports, errorsOf_dropped _, ?_⟩
        intro x hx
        obtain ⟨y, -, hy⟩ := List.mem_map.mp (List.of_mem_zip hx).2
        rw [← hy]
        exact ⟨rfl, Nat.zero_le _⟩
      exact ⟨_, [], Ledger.stopRemaining_reports hreports, hdropped.prepend (hasked true)⟩
    · obtain ⟨report, es, hledger, htells⟩ := refuse_tells hrefuse hsteps hreports
      rw [hlength report] at hrest
      obtain ⟨reports, errors, hfinal, hall⟩ := ih hrest (by simpa using hledger)
      exact ⟨report :: reports, es ++ errors, by simpa using hfinal,
        (TellsTasks.cons htells hall).prepend (hasked false)⟩
    · obtain ⟨report, es, hledger, htells⟩ := runTask_tells htask hsteps hreports
      rw [hlength report] at hrest
      obtain ⟨reports, errors, hfinal, hall⟩ := ih hrest (by simpa using hledger)
      have hquiet : Tells paused [] [] :=
        tells_nothing fun e he => hpaused e he ▸ (trivial : Request.IsPlain (.pause _ _))
      exact ⟨report :: reports, es ++ errors, by simpa using hfinal,
        (TellsTasks.cons htells (hall.prepend hquiet)).prepend (hasked false)⟩

/-- What is told in a run agrees with its result. -/
structure Narrates (tasks : List Task) (r : RunResult) (log : Log) : Prop where
  length_eq : r.reports.length = tasks.length
  terminal : ∀ report ∈ r.reports, report.status.isTerminal
  /-- Every task is told to be pending. Then the tasks are told of one after the other. -/
  progress : progressOf log = (tasks.zipIdx.map fun x => pendingProgress x.2 x.1) ++
    tasksProgress 0 tasks r.reports
  /-- The percent of running steps do not go back, and stay between 30 and 89. -/
  running : ∀ x ∈ tasks.zip r.reports,
    let percents := (List.range x.2.stepsExecuted).map (runningPercent x.1.steps.length)
    percents.Pairwise (· ≤ ·) ∧ ∀ p ∈ percents, 30 ≤ p ∧ p ≤ 89
  errors : ErrorsOf tasks r.reports (errorsOf log)
  errors_length : (errorsOf log).length = r.failed

theorem running_percents {total count : Nat} (h : count ≤ total) :
    ((List.range count).map (runningPercent total)).Pairwise (· ≤ ·) ∧
      ∀ p ∈ (List.range count).map (runningPercent total), 30 ≤ p ∧ p ≤ 89 := by
  constructor
  · rw [List.pairwise_map]
    exact List.pairwise_lt_range.imp fun hlt => runningPercent_mono (Nat.le_of_lt hlt)
  · intro p hp
    obtain ⟨step, hstep, rfl⟩ := List.mem_map.mp hp
    exact runningPercent_lt (Nat.lt_of_lt_of_le (List.mem_range.mp hstep) h)

theorem ErrorsOf.length_eq {tasks : List Task} {reports : List Report} {errors : List String}
    (h : ErrorsOf tasks reports errors) (hlength : reports.length = tasks.length) :
    errors.length = reports.countP (·.status == .failed) := by
  have hsnd : (tasks.zip reports).map Prod.snd = reports := List.map_snd_zip (by omega)
  rw [← List.Forall₂.length_eq h, ← List.countP_eq_length_filter]
  conv_rhs => rw [← hsnd, List.countP_map]
  rfl

theorem narrates_of_tells {tasks : List Task} {r : RunResult} {errors : List String}
    (htasks : TellsTasks [] tasks r.reports log₁ errors)
    (htells : Tells log ((tasks.zipIdx.map fun x => pendingProgress x.2 x.1) ++
      tasksProgress 0 tasks r.reports) errors)
    (hfailed : r.failed = r.reports.countP (·.status == .failed)) : Narrates tasks r log := by
  have hsnd : (tasks.zip r.reports).map Prod.snd = r.reports :=
    List.map_snd_zip (Nat.le_of_eq htasks.length_eq)
  refine ⟨htasks.length_eq, fun report hreport => ?_, htells.progress_eq,
    fun x hx => running_percents (htasks.reports x hx).2, ?_, ?_⟩
  · rw [← hsnd] at hreport
    obtain ⟨x, hx, rfl⟩ := List.mem_map.mp hreport
    exact (htasks.reports x hx).1
  · rw [htells.errors_eq]
    exact htasks.errors
  · rw [htells.errors_eq, htasks.errors.length_eq htasks.length_eq, hfailed]

theorem narrates_of_goes {tasks : List Task} {result : Option RunResult}
    (h : Goes stop (s.run tasks) before log result after) :
    ∃ r, result = some r ∧ Narrates tasks r log := by
  rcases stages_of_run h with ⟨rfl, rfl, rfl, event, rfl⟩ | ⟨r, log', rfl, rfl, haccepted⟩
  · exact ⟨_, rfl, rfl, nofun, rfl, fun _ hx => absurd hx List.not_mem_nil, .nil, rfl⟩
  obtain ⟨event, text, told, u, elapsed, rfl, htells, hbegan, hended, htasks, rfl⟩ :=
    stages_of_runAccepted haccepted
  have hpending : Tells told (tasks.zipIdx.map fun x => pendingProgress x.2 x.1) [] :=
    forM_tells htells
  change Goes stop (s.runTasks _ ([] : List Report).length tasks _) _ _ _ _ at htasks
  obtain ⟨reports, errors, hreports, hall⟩ := runTasks_tell htasks (Ledger.opened_reports tasks)
  have hopening : Tells [⟨before, .claim, true, before⟩, ⟨before, .now, before, before⟩,
      ⟨before, .tell (.event event), (), before⟩] [] [] := ⟨rfl, rfl⟩
  have hclosing : Tells [⟨after, .now, after, after⟩,
      ⟨after, .tell (.message .info text), (), after⟩, ⟨after, .forget, (), after⟩,
      ⟨after, .release, (), after⟩] [] [] := ⟨rfl, rfl⟩
  have htold := hopening.append (hpending.append (hall.tells.append_nothing hclosing))
  obtain rfl : u.result.reports = reports := hreports
  refine ⟨_, rfl, narrates_of_tells hall ?_ rfl⟩
  show Tells _ (_ ++ tasksProgress 0 tasks u.result.reports) errors
  simpa using htold

/-- Whatever the phone does and whenever a stop comes, what a run tells of its tasks agrees with its
result. All tasks are told to be pending; then each has its turn, from its start over its steps to
one last word, which says how it ended. Every task that failed is told as one error with its name,
and nothing else is told as an error. -/
theorem runs_narrate (s : Scheduler) (tasks : List Task) (stop : Option Nat) (before : Nat) :
    ((∀ task ∈ tasks, s.steps.AreCountable task) →
        Surely stop (fun result => result.isSome) (s.run tasks) before) ∧
      ∀ log result after, Goes stop (s.run tasks) before log result after →
        ∃ r, result = some r ∧ Narrates tasks r log := by
  constructor
  · intro hcountable
    refine surely_of_countable hcountable fun log result after hgoes => ?_
    obtain ⟨r, rfl, -⟩ := narrates_of_goes hgoes
    rfl
  · intro log result after hgoes
    exact narrates_of_goes hgoes

/-- A run of two tasks that is stopped early. -/
theorem runs_narrate_imageTask :
    (∀ task ∈ [imageTask, imageTask], Scheduler.standard.steps.AreCountable task) ∧
      ∃ log r after,
        Goes (some 5) (Scheduler.standard.run [imageTask, imageTask]) 0 log (some r) after ∧
          Narrates [imageTask, imageTask] r log := by
  have hcountable :
      ∀ task ∈ [imageTask, imageTask], Scheduler.standard.steps.AreCountable task := by
    intro task htask
    have htask : task = imageTask := by simpa using htask
    exact htask ▸ imageTask_areCountable
  obtain ⟨hends, hnarrates⟩ := runs_narrate .standard [imageTask, imageTask] (some 5) 0
  obtain ⟨log, result, after, hgoes, -⟩ := (hends hcountable).exists_goes
  obtain ⟨r, rfl, hr⟩ := hnarrates log result after hgoes
  exact ⟨hcountable, log, r, after, hgoes, hr⟩

end CheckIn.Run
