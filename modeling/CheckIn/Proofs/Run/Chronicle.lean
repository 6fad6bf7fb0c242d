import CheckIn.Proofs.Run.Ledger
import CheckIn.Proofs.Run.Scope
import CheckIn.Proofs.Run.Walk

/-! The shape of a run. A task that the run comes to has its turn, or is refused if it has no steps;
once a stop is there, the tasks that are left are dropped. A chronicle tells the fates of all tasks.
Every run has one, which holds all calls of the run and all readings of the time of day in their
order, and from which its result can be told. -/

namespace CheckIn.Run

open Process
open Calendar (Moment)

variable {stop : Option Nat} {before after : Nat} {log : Log} {s : Scheduler}

/-! ### Marks -/

/-- Whether the time of day was read. -/
def Exchange.isReading : Exchange → Bool
  | ⟨_, .wallClock, _, _⟩ => true
  | _ => false

/-- A reading of the time of day. -/
def reading (now : Nat) (moment : Moment) : Exchange := ⟨now, .wallClock, moment, now⟩

/-- The calls that were issued in a log and the readings of the time of day, in their order. -/
def marks (log : Log) : Log := log.filter fun e => e.call?.isSome || e.isReading

@[simp] theorem marks_nil : marks [] = [] := rfl

@[simp] theorem marks_append (log₁ log₂ : Log) : marks (log₁ ++ log₂) = marks log₁ ++ marks log₂ :=
  List.filter_append ..

theorem Exchange.isReading_iff {e : Exchange} : e.isReading = true ↔ e.request = .wallClock := by
  obtain ⟨made, q, answer, met⟩ := e
  cases q <;> simp [Exchange.isReading]

/-- Where the time of day is not read, the marks are the calls. -/
theorem marks_eq_calls (h : ∀ e ∈ log, e.request ≠ .wallClock) : marks log = calls log := by
  refine List.filter_congr fun e he => ?_
  rw [show e.isReading = false from Bool.eq_false_iff.mpr (mt Exchange.isReading_iff.mp (h e he)),
    Bool.or_false]

theorem mem_marks {e : Exchange} :
    e ∈ marks log ↔ e ∈ log ∧ (e.call?.isSome = true ∨ e.isReading = true) := by
  rw [marks, List.mem_filter, Bool.or_eq_true]

theorem calls_marks (log : Log) : calls (marks log) = calls log := by
  unfold calls marks
  rw [List.filter_filter]
  exact List.filter_congr fun e _ => by cases e.call?.isSome <;> rfl

theorem calls_cons_reading (now : Nat) (moment : Moment) (log : Log) :
    calls (reading now moment :: log) = calls log := rfl

theorem calls_calls (log : Log) : calls (calls log) = calls log := by
  unfold calls
  rw [List.filter_filter]
  exact List.filter_congr fun e _ => Bool.and_self _

theorem marks_tellings (now : Nat) (notes : List Note) : marks (tellings now notes) = [] := by
  refine List.filter_eq_nil_iff.mpr fun x hx => ?_
  obtain ⟨note, -, rfl⟩ := List.mem_map.mp hx
  exact Bool.false_ne_true

/-! ### Fates -/

/-- What happened to a task while it was executed, and while its app was left. -/
structure Turn where
  began : Nat
  startedAt : Moment
  launch : Option Stretch.OfAttempt
  steps : List Stretch.OfAttempt
  outcome : Except StepFailure Nat
  settled : Nat
  finishedAt : Moment
  leaving : Stretch (List StepError)

namespace Turn

/-- The turn is one of the task. Its app is left as soon as it is settled what became of it. -/
structure Of (turn : Turn) (stop : Option Nat) (s : Scheduler) (task : Task) : Prop where
  execution : Execution stop s task turn.began turn.launch turn.steps turn.outcome turn.settled
  leaving_began : turn.leaving.began = turn.settled
  leaving : turn.leaving.Of stop (s.teardown.run task)

/-- The stretches in which the task was executed. -/
def executed (turn : Turn) : List Stretch.OfAttempt := turn.launch.toList ++ turn.steps

/-- The calls of the turn: those of the launch, of the steps, and of leaving the app. -/
def calls (turn : Turn) : Log := turn.executed.flatMap Stretch.calls ++ turn.leaving.calls

/-- The calls of the turn with the two readings of the time of day: the task begins with the first,
and with the second it is settled what became of it, before its app is left. -/
def marks (turn : Turn) : Log :=
  reading turn.began turn.startedAt :: (turn.executed.flatMap Stretch.calls ++
    reading turn.settled turn.finishedAt :: turn.leaving.calls)

theorem calls_marks (turn : Turn) : Run.calls turn.marks = turn.calls := by
  have hstretches (us : List Stretch.OfAttempt) :
      Run.calls (us.flatMap Stretch.calls) = us.flatMap Stretch.calls := by
    unfold Run.calls
    rw [List.filter_flatMap]
    exact congrArg (List.flatMap · us) (funext fun u => calls_calls u.log)
  rw [Turn.marks, calls_cons_reading, calls_append, calls_cons_reading, hstretches, Turn.calls]
  exact congrArg _ (calls_calls _)

/-- The report of the task but for warnings. It was settled before the app was left. -/
def verdict (turn : Turn) (task : Task) : Report :=
  .ofOutcome task turn.startedAt turn.finishedAt turn.outcome

def report (turn : Turn) (task : Task) : Report :=
  { turn.verdict task with warnings := turn.leaving.result.map StepError.message }

end Turn

/-- What became of a task of a run. -/
inductive Fate where
  | refused (now : Nat) (moment : Moment)
  | carried (turn : Turn)
  | dropped

namespace Fate

def report : Fate → Task → Report
  | refused _ moment, task => .ofOutcome task moment moment (.error Scheduler.noSteps)
  | carried turn, task => turn.report task
  | dropped, task => .dropped task

def calls : Fate → Log
  | carried turn => turn.calls
  | refused _ _ | dropped => []

/-- The calls for the task and the readings of the time of day. A task without steps begins and
fails with a single reading. -/
def marks : Fate → Log
  | refused now moment => [reading now moment]
  | carried turn => turn.marks
  | dropped => []

theorem calls_marks (fate : Fate) : Run.calls fate.marks = fate.calls := by
  cases fate with
  | refused | dropped => rfl
  | carried turn => exact turn.calls_marks

end Fate

/-- The calls of a run, from its marks. -/
theorem calls_of_marks {fates : List Fate} (h : marks log = fates.flatMap Fate.marks) :
    calls log = fates.flatMap Fate.calls := by
  rw [← calls_marks, h, calls, List.filter_flatMap]
  exact congrArg (List.flatMap · fates) (funext Fate.calls_marks)

/-- The fates of the tasks of a run, from the time at which the run comes to the first of them. -/
inductive Chronicle (stop : Option Nat) (s : Scheduler) : List Task → (before : Nat) →
    List Fate → (after : Nat) → Prop
  | done {before : Nat} : Chronicle stop s [] before [] before
  | dropped {before : Nat} {task : Task} {tasks : List Task} :
      raised stop before = true →
      Chronicle stop s (task :: tasks) before ((task :: tasks).map fun _ => Fate.dropped) before
  | refused {before after : Nat} {task : Task} {tasks : List Task} {moment : Moment}
      {fates : List Fate} :
      raised stop before = false → task.steps = [] → Chronicle stop s tasks before fates after →
      Chronicle stop s (task :: tasks) before (.refused before moment :: fates) after
  | carried {between after : Nat} {task : Task} {tasks : List Task} {turn : Turn}
      {fates : List Fate} :
      raised stop turn.began = false → task.steps ≠ [] → turn.Of stop s task →
      turn.leaving.ended ≤ between → Chronicle stop s tasks between fates after →
      Chronicle stop s (task :: tasks) turn.began (.carried turn :: fates) after

/-! ### Refusals -/

theorem goes_refuse {task : Task} {index : Nat} {ledger ledger' : Ledger}
    (h : Goes stop (Scheduler.refuse task index ledger) before log ledger' after) :
    after = before ∧ ∃ moment, marks log = [reading before moment] ∧
      ledger' = ((ledger.start index moment).fail index Scheduler.noSteps moment).2 := by
  obtain ⟨moment, _, _, rfl, rfl, _, _, _, rfl, rfl, _, _, _, rfl, rfl, rfl, rfl, rfl⟩ := h
  exact ⟨rfl, moment, rfl, rfl⟩

theorem goes_stopRemaining {index total : Nat} {ledger ledger' : Ledger}
    (h : Goes stop (Scheduler.stopRemaining index total ledger) before log ledger' after) :
    marks log = [] ∧ after = before ∧ ledger' = (ledger.stopRemaining index).2 := by
  obtain ⟨log₁, _, between, log₂, rfl, htells, hlast⟩ := goes_bind
    (p := (ledger.stopRemaining index).1.forM fun i => Part.progress i 50 "stopped" .stopped)
      |>.mp h
  obtain ⟨rfl, rfl⟩ := goes_tells htells
  obtain ⟨_, _, _, rfl, rfl, rfl, rfl, rfl⟩ := hlast
  refine ⟨?_, rfl, rfl⟩
  rw [marks_append, marks_tellings]
  rfl

/-- The ledger in which the outcome of a task has been noted. -/
def noted (index : Nat) (ledger : Ledger) (moment : Moment) : Except StepFailure Nat → Ledger
  | .ok steps => ledger.succeed index steps moment
  | .error failure => (ledger.fail index failure moment).2

/-- The ledger in which the turn of a task has been noted, from its start on. -/
def Turn.note (turn : Turn) (index : Nat) (ledger : Ledger) : Ledger :=
  (noted index (ledger.start index turn.startedAt) turn.finishedAt turn.outcome).warn index
    turn.leaving.result

theorem noted_reports {startedAt : Moment} {ledger : Ledger} {past rest : List Report} {task : Task}
    (finishedAt : Moment) (outcome : Except StepFailure Nat)
    (h : ledger.reports = past ++ Report.ahead task :: rest) :
    (noted past.length (ledger.start past.length startedAt) finishedAt outcome).reports =
      past ++ Report.ofOutcome task startedAt finishedAt outcome :: rest := by
  cases outcome with
  | ok steps => exact Ledger.succeed_reports steps h
  | error failure => exact Ledger.fail_reports _ _ failure h

theorem Turn.note_reports (turn : Turn) {ledger : Ledger} {past rest : List Report} {task : Task}
    (h : ledger.reports = past ++ Report.ahead task :: rest) :
    (turn.note past.length ledger).reports = past ++ turn.report task :: rest := by
  unfold Turn.note Turn.report Turn.verdict
  rw [Ledger.warn_reports _ (noted_reports _ _ h)]
  cases turn.outcome <;> rfl

theorem Turn.note_phase (turn : Turn) (index : Nat) (ledger : Ledger) :
    (turn.note index ledger).phase = ledger.phase := by
  unfold Turn.note
  cases turn.outcome <;> rfl

theorem goes_settle {task : Task} {index started : Nat} {ledger ledger' : Ledger}
    {outcome : Except StepFailure Nat}
    (h : Goes stop (Scheduler.settle task index started ledger outcome) before log ledger' after) :
    after = before ∧ ∃ moment, marks log = [reading before moment] ∧
      ledger' = noted index ledger moment outcome := by
  cases outcome with
  | ok steps =>
    obtain ⟨moment, _, _, rfl, rfl, _, _, _, rfl, rfl, _, _, _, rfl, ⟨-, rfl⟩, _, _, _, rfl, rfl,
      rfl, rfl, rfl⟩ := h
    exact ⟨rfl, moment, rfl, rfl⟩
  | error failure =>
    obtain ⟨moment, _, log, rfl, rfl, h⟩ := h
    dsimp only [Process.bind] at h
    split at h
    · obtain ⟨_, _, _, rfl, rfl, _, _, _, rfl, rfl, rfl, rfl, rfl⟩ := h
      exact ⟨rfl, moment, rfl, rfl⟩
    · obtain ⟨_, _, _, rfl, rfl, rfl, rfl, rfl⟩ := h
      exact ⟨rfl, moment, rfl, rfl⟩

/-! ### Turns -/

/-- What is asked and told before a task is executed. -/
def opening (task : Task) (index total now : Nat) (startedAt : Moment) : Log :=
  let told := s!"[{task.name}] starting task {index + 1}/{total} ({task.package})"
  [⟨now, .now, now, now⟩, ⟨now, .wallClock, startedAt, now⟩,
    ⟨now, .tell (.progress ⟨index, 30, s!"{task.name} started", .running⟩), (), now⟩,
    ⟨now, .tell (.message .info told), (), now⟩]

/-- A task is executed, it is settled what became of it, and its app is left. -/
theorem stages_of_runTask {task : Task} {index total : Nat} {ledger ledger' : Ledger}
    (h : Goes stop (s.runTask task index total ledger) before log ledger' after) :
    ∃ (startedAt : Moment) (u : Stretch (Except StepFailure Nat)) (v : Stretch Ledger)
      (w : Stretch (List StepError)),
      log = opening task index total before startedAt ++ (u.log ++ (v.log ++ w.log)) ∧
        u.began = before ∧ v.began = u.ended ∧ w.began = v.ended ∧ w.ended = after ∧
        u.Of stop (s.execute task index).run ∧
        v.Of stop (Scheduler.settle task index before (ledger.start index startedAt) u.result) ∧
        w.Of stop (s.teardown.run task) ∧ ledger' = v.result.warn index w.result := by
  obtain ⟨_, _, _, rfl, ⟨rfl, rfl⟩, startedAt, _, _, rfl, rfl, _, _, _, rfl, rfl, _, _, log, rfl,
    rfl, h⟩ := h
  obtain ⟨log₁, outcome, settled, log, rfl, hexecute, h⟩ :=
    goes_bind (p := (s.execute task index).run) |>.mp h
  obtain ⟨log₂, ledger₁, between, log, rfl, hsettle, h⟩ :=
    goes_bind (p := Scheduler.settle task index _ _ outcome) |>.mp h
  obtain ⟨log₃, warnings, ended, _, rfl, hleave, rfl, rfl, rfl⟩ :=
    goes_bind (p := s.teardown.run task) |>.mp h
  rw [List.append_nil]
  exact ⟨startedAt, ⟨_, log₁, outcome, _⟩, ⟨_, log₂, ledger₁, _⟩, ⟨_, log₃, warnings, _⟩, rfl, rfl,
    rfl, rfl, rfl, hexecute, hsettle, hleave, rfl⟩

/-- The time of day is not read while a task is executed. -/
theorem execute_noReading {task : Task} {index : Nat} {u : Stretch (Except StepFailure Nat)}
    (h : u.Of stop (s.execute task index).run) : ∀ e ∈ u.log, e.request ≠ .wallClock := by
  have hasks := s.execute_asks (W := Meets stop) (R := fun _ => True) task index
    (.inl fun _ _ _ _ _ => trivial)
  intro e he hreading
  have hof : e.request.OfStep (fun _ => True) e.made := h.asks (hasks _) e he
  rw [hreading] at hof
  exact hof

/-- The time of day is not read while an app is left. -/
theorem leave_noReading {task : Task} {w : Stretch (List StepError)}
    (h : w.Of stop (s.teardown.run task)) : ∀ e ∈ w.log, e.request ≠ .wallClock := by
  intro e he hreading
  have hof : e.request.OfTeardown := h.asks (s.teardown.run_asks task _) e he
  rw [hreading] at hof
  exact hof

theorem goes_runTask {task : Task} {index total : Nat} {ledger ledger' : Ledger}
    (h : Goes stop (s.runTask task index total ledger) before log ledger' after) :
    ∃ turn : Turn, turn.began = before ∧ turn.leaving.ended = after ∧ turn.Of stop s task ∧
      marks log = turn.marks ∧ ledger' = turn.note index ledger := by
  obtain ⟨startedAt, u, v, w, rfl, rfl, hv, hw, rfl, hexecute, hsettle, hleave, rfl⟩ :=
    stages_of_runTask h
  obtain ⟨launch, us, hexecution, hcalls⟩ := execution_of_goes hexecute
  obtain ⟨hended, finishedAt, hreading, hnoted⟩ := goes_settle hsettle
  have hsettled : w.began = u.ended := hw.trans (hended.trans hv)
  have hexecuted : marks u.log = (launch.toList ++ us).flatMap Stretch.calls := by
    rw [← hcalls]
    exact marks_eq_calls (execute_noReading hexecute)
  have hleft : marks w.log = calls w.log := marks_eq_calls (leave_noReading hleave)
  refine ⟨⟨_, startedAt, launch, us, u.result, _, finishedAt, w⟩, rfl, rfl,
    ⟨hexecution, hsettled, hleave⟩, ?_, by rw [hnoted]; rfl⟩
  rw [marks_append, marks_append, marks_append, hexecuted, hreading, hleft, hv]
  rfl

/-! ### Runs -/

/-- What a fate says of its task. -/
def Fate.Of (stop : Option Nat) (s : Scheduler) (task : Task) : Fate → Prop
  | refused now _ => raised stop now = false ∧ task.steps = []
  | carried turn => raised stop turn.began = false ∧ task.steps ≠ [] ∧ turn.Of stop s task
  | dropped => stop.isSome

theorem Chronicle.length_eq {tasks : List Task} {fates : List Fate}
    (h : Chronicle stop s tasks before fates after) : fates.length = tasks.length := by
  induction h with
  | done => rfl
  | dropped _ => simp
  | refused _ _ _ ih | carried _ _ _ _ _ ih => simp [ih]

/-- Every task has a fate that speaks of it. -/
theorem Chronicle.fate_of {tasks : List Task} {fates : List Fate} {i : Nat} {task : Task}
    (h : Chronicle stop s tasks before fates after) (htask : tasks[i]? = some task) :
    ∃ fate, fates[i]? = some fate ∧ fate.Of stop s task := by
  induction h generalizing i with
  | done => cases htask
  | dropped hr =>
    obtain ⟨t, rfl, -⟩ := raised_iff.mp hr
    refine ⟨.dropped, ?_, rfl⟩
    rw [List.getElem?_map, htask]
    rfl
  | refused hr hsteps _ ih =>
    cases i with
    | zero => exact ⟨_, rfl, hr, Option.some.inj htask ▸ hsteps⟩
    | succ i => exact ih htask
  | carried hr hsteps hturn _ _ ih =>
    cases i with
    | zero =>
      cases Option.some.inj htask
      exact ⟨_, rfl, hr, hsteps, hturn⟩
    | succ i => exact ih htask

/-- What the run does when it comes to a task: it drops the task and all that are left, refuses it,
or carries it out, after which there may be a pause. -/
theorem stages_of_runTasks {total index : Nat} {task : Task} {tasks : List Task}
    {ledger ledger' : Ledger}
    (h : Goes stop (s.runTasks total index (task :: tasks) ledger) before log ledger' after) :
    (raised stop before = true ∧ ∃ log', log = ⟨before, .isStopped, true, before⟩ :: log' ∧
        Goes stop (Scheduler.stopRemaining index total ledger) before log' ledger' after) ∨
      raised stop before = false ∧
        ((task.steps = [] ∧ ∃ (u : Stretch Ledger) (log' : Log), u.began = before ∧
            log = ⟨before, .isStopped, false, before⟩ :: (u.log ++ log') ∧
            u.Of stop (Scheduler.refuse task index ledger) ∧
            Goes stop (s.runTasks total (index + 1) tasks u.result) u.ended log' ledger' after) ∨
          task.steps ≠ [] ∧ ∃ (u : Stretch Ledger) (between : Nat) (paused log' : Log),
            u.began = before ∧
            log = ⟨before, .isStopped, false, before⟩ :: (u.log ++ (paused ++ log')) ∧
            u.Of stop (s.runTask task index total ledger) ∧ u.ended ≤ between ∧
            (∀ e ∈ paused, e.request = .pause s.taskDelay true) ∧
            Goes stop (s.runTasks total (index + 1) tasks u.result) between log' ledger' after) :=
    by
  obtain ⟨stopped, now, log, rfl, ⟨hs, ht⟩, h⟩ := h
  subst hs ht
  cases hr : raised stop now with
  | true =>
    rw [hr] at h
    exact .inl ⟨rfl, log, rfl, h⟩
  | false =>
    refine .inr ⟨rfl, ?_⟩
    rw [hr] at h
    change Goes stop (if task.steps.isEmpty then _ else _) now log ledger' after at h
    split at h
    case isTrue hsteps =>
      obtain ⟨log₁, refused, between, log₂, rfl, hrefuse, h⟩ :=
        goes_bind (p := Scheduler.refuse task index ledger) |>.mp h
      exact .inl ⟨List.isEmpty_iff.mp hsteps, ⟨now, log₁, refused, between⟩, log₂, rfl, rfl,
        hrefuse, h⟩
    case isFalse hsteps =>
      obtain ⟨log₁, carried, ended, log₂, rfl, htask, h⟩ :=
        goes_bind (p := s.runTask task index total ledger) |>.mp h
      refine .inr ⟨by simpa using hsteps, ⟨now, log₁, carried, ended⟩, ?_⟩
      dsimp only at h
      split at h
      · obtain ⟨stopped, between, log₃, rfl, hm, h⟩ := h
        exact ⟨between, [_], log₃, rfl, rfl, htask, hm.le, by simp, h⟩
      · exact ⟨ended, [], log₂, rfl, rfl, htask, Nat.le_refl _, by simp, h⟩

theorem goes_runTasks_cons {total index : Nat} {task : Task} {tasks : List Task}
    {ledger ledger' : Ledger}
    (h : Goes stop (s.runTasks total index (task :: tasks) ledger) before log ledger' after) :
    (raised stop before = true ∧ marks log = [] ∧ after = before ∧
        ledger' = (ledger.stopRemaining index).2) ∨
      raised stop before = false ∧
        ((task.steps = [] ∧ ∃ moment log', marks log = reading before moment :: marks log' ∧
            Goes stop (s.runTasks total (index + 1) tasks
              ((ledger.start index moment).fail index Scheduler.noSteps moment).2)
              before log' ledger' after) ∨
          task.steps ≠ [] ∧ ∃ (turn : Turn) (between : Nat) (log' : Log), turn.began = before ∧
            turn.Of stop s task ∧ turn.leaving.ended ≤ between ∧
            marks log = turn.marks ++ marks log' ∧
            Goes stop (s.runTasks total (index + 1) tasks (turn.note index ledger))
              between log' ledger' after) := by
  rcases stages_of_runTasks h with ⟨hr, log', rfl, hstop⟩ |
    ⟨hr, ⟨hsteps, u, log', rfl, rfl, hrefuse, hrest⟩ |
      ⟨hsteps, u, between, paused, log', rfl, rfl, htask, hle, hpaused, hrest⟩⟩
  · obtain ⟨hmarks, rfl, rfl⟩ := goes_stopRemaining hstop
    exact .inl ⟨hr, (marks_append [_] log').trans hmarks, rfl, rfl⟩
  · obtain ⟨hended, moment, hreading, hledger⟩ := goes_refuse hrefuse
    rw [hledger, hended] at hrest
    refine .inr ⟨hr, .inl ⟨hsteps, moment, log', ?_, hrest⟩⟩
    rw [← List.singleton_append, marks_append, marks_append, hreading]
    rfl
  · obtain ⟨turn, hbegan, hended, hturn, hmarks, hledger⟩ := goes_runTask htask
    rw [hledger] at hrest
    refine .inr ⟨hr, .inr ⟨hsteps, turn, between, log', hbegan, hturn, hended ▸ hle, ?_, hrest⟩⟩
    have hquiet : marks paused = [] := by
      refine List.filter_eq_nil_iff.mpr fun e he => ?_
      obtain ⟨made, q, answer, met⟩ := e
      obtain rfl : q = .pause s.taskDelay true := hpaused _ he
      exact Bool.false_ne_true
    rw [← List.singleton_append, marks_append, marks_append, marks_append, hmarks, hquiet]
    rfl

/-- What happens when tasks are carried out has a chronicle: it holds all marks, and the reports
that it tells of are those in the ledger, after the reports of the tasks before. Only where tasks
are dropped does the ledger say that the run was stopped. -/
theorem chronicle_of_goes {total : Nat} {past : List Report} {tasks : List Task}
    {ledger ledger' : Ledger}
    (h : Goes stop (s.runTasks total past.length tasks ledger) before log ledger' after)
    (hreports : ledger.reports = past ++ tasks.map Report.ahead)
    (hphase : ledger.phase ≠ .stopped) :
    ∃ fates, Chronicle stop s tasks before fates after ∧
      ledger'.reports = past ++ List.zipWith Fate.report fates tasks ∧
      marks log = fates.flatMap Fate.marks ∧
      (ledger'.phase = .stopped → Fate.dropped ∈ fates) := by
  induction tasks generalizing past before log ledger with
  | nil =>
    obtain ⟨rfl, rfl, rfl⟩ := h
    exact ⟨[], .done, hreports, rfl, fun h => absurd h hphase⟩
  | cons task tasks ih =>
    have hlength (r : Report) : past.length + 1 = (past ++ [r]).length := by simp
    rcases goes_runTasks_cons h with
      ⟨hr, hmarks, rfl, rfl⟩ | ⟨hr, ⟨hsteps, moment, log', hmarks, hrest⟩ |
        ⟨hsteps, turn, between, log', rfl, hturn, hle, hmarks, hrest⟩⟩
    · refine ⟨_, .dropped hr, ?_, ?_, fun _ => List.mem_cons_self ..⟩
      · rw [Ledger.stopRemaining_reports hreports, List.zipWith_map_left, List.zipWith_self]
        rfl
      · rw [List.flatMap_map]
        exact hmarks.trans (List.flatMap_eq_nil_iff.mpr fun _ _ => rfl).symm
    · have hnow := Ledger.fail_reports moment moment Scheduler.noSteps hreports
      rw [hlength (.ofOutcome task moment moment (.error Scheduler.noSteps))] at hrest
      obtain ⟨fates, hchron, hfates, hlog, hdropped⟩ := ih hrest (by simpa using hnow) hphase
      refine ⟨.refused _ moment :: fates, .refused hr hsteps hchron, ?_, ?_, ?_⟩
      · simpa [Fate.report] using hfates
      · rw [hmarks, hlog]
        rfl
      · exact fun h => List.mem_cons_of_mem _ (hdropped h)
    · have hnow := turn.note_reports hreports
      rw [hlength (turn.report task)] at hrest
      rw [← turn.note_phase past.length ledger] at hphase
      obtain ⟨fates, hchron, hfates, hlog, hdropped⟩ := ih hrest (by simpa using hnow) hphase
      refine ⟨_, .carried hr hsteps hturn hle hchron, ?_, ?_, ?_⟩
      · simpa [Fate.report] using hfates
      · rw [hmarks, hlog]
        rfl
      · exact fun h => List.mem_cons_of_mem _ (hdropped h)

/-- The result of a run that took `elapsed` milliseconds, from the reports of its tasks. -/
def RunResult.ofReports (reports : List Report) (elapsed : Nat) : RunResult :=
  Ledger.finish ⟨.running, reports⟩ elapsed

/-- A run that was stopped before it came to a task has a task that was stopped. -/
theorem finish_eq_ofReports {l : Ledger} {elapsed : Nat}
    (h : l.phase = .stopped → ∃ r ∈ l.reports, r.status = .stopped) :
    l.finish elapsed = .ofReports l.reports elapsed := by
  have hcount (hl : l.phase = .stopped) : l.count .stopped > 0 := by
    obtain ⟨r, hr, hstatus⟩ := h hl
    exact List.countP_pos_iff.mpr ⟨r, hr, by simp [hstatus]⟩
  have houtcome : (l.phase = .stopped ∨ l.count .stopped > 0) ↔ l.count .stopped > 0 :=
    ⟨fun h => h.elim hcount id, .inr⟩
  simp only [Ledger.finish, RunResult.ofReports, houtcome]
  simp [Ledger.count]

theorem dropped_report_mem {fates : List Fate} {tasks : List Task}
    (hlength : fates.length = tasks.length) (h : Fate.dropped ∈ fates) :
    ∃ r ∈ List.zipWith Fate.report fates tasks, r.status = .stopped := by
  obtain ⟨i, hi, hfate⟩ := List.mem_iff_getElem.mp h
  refine ⟨Fate.report fates[i] tasks[i], ?_, by rw [hfate]; rfl⟩
  exact List.mem_iff_getElem.mpr ⟨i, by simp; omega, by simp⟩

/-- The ledger of tasks when their run begins. -/
def Ledger.opened (tasks : List Task) : Ledger :=
  (Ledger.ofTasks (tasks.map fun task => (task.id, task.name))).beginRun

theorem Ledger.opened_reports (tasks : List Task) :
    (Ledger.opened tasks).reports = tasks.map Report.ahead :=
  List.map_map

/-- All tasks are told to be pending, they are carried out, and the ledger is closed. -/
theorem stages_of_runAccepted {tasks : List Task} {r : RunResult}
    (h : Goes stop (s.runAccepted tasks) before log r after) :
    ∃ (event : Log.Event) (text : String) (told : Log) (u : Stretch Ledger) (elapsed : Nat),
      log = [⟨before, .now, before, before⟩, ⟨before, .tell (.event event), (), before⟩] ++
        (told ++ (u.log ++
          [⟨after, .now, after, after⟩, ⟨after, .tell (.message .info text), (), after⟩])) ∧
      Goes stop (tasks.zipIdx.forM fun x => Part.progress x.2 0 s!"{x.1.name} pending" .pending)
        before told () before ∧
      u.began = before ∧ u.ended = after ∧
      u.Of stop (s.runTasks tasks.length 0 tasks (Ledger.opened tasks)) ∧
      r = u.result.finish elapsed := by
  obtain ⟨_, _, _, rfl, ⟨rfl, rfl⟩, _, _, log, rfl, rfl, h⟩ := h
  obtain ⟨told, _, _, log, rfl, htells, h⟩ :=
    goes_bind (p := tasks.zipIdx.forM fun x => Part.progress x.2 0 s!"{x.1.name} pending" .pending)
      |>.mp h
  obtain ⟨-, rfl⟩ := goes_tells htells
  obtain ⟨log₁, ledger, _, log, rfl, htasks, hend⟩ :=
    goes_bind (p := s.runTasks tasks.length 0 tasks _) |>.mp h
  obtain ⟨finished, _, log, rfl, ⟨hfinished, rfl⟩, hend⟩ := hend
  obtain ⟨_, _, _, rfl, rfl, rfl, rfl, rfl⟩ := hend
  subst hfinished
  exact ⟨_, _, told, ⟨_, log₁, ledger, _⟩, _, rfl, htells, rfl, rfl, htasks, rfl⟩

/-- A run that is let in takes its place, runs the tasks if there are any, and at the end forgets
any stop and gives its place back. -/
theorem stages_of_run {tasks : List Task} {result : Option RunResult}
    (h : Goes stop (s.run tasks) before log result after) :
    (tasks = [] ∧ result = some RunResult.empty ∧ after = before ∧ ∃ event,
        log = [⟨before, .claim, true, before⟩, ⟨before, .tell (.event event), (), before⟩,
          ⟨before, .forget, (), before⟩, ⟨before, .release, (), before⟩]) ∨
      ∃ r log', result = some r ∧
        log = ⟨before, .claim, true, before⟩ ::
          (log' ++ [⟨after, .forget, (), after⟩, ⟨after, .release, (), after⟩]) ∧
        Goes stop (s.runAccepted tasks) before log' r after := by
  obtain ⟨isFree, _, log, rfl, ⟨hfree, rfl⟩, h⟩ := h
  subst hfree
  cases tasks with
  | nil =>
    obtain ⟨_, _, _, rfl, rfl, _, _, _, rfl, rfl, _, _, _, rfl, rfl, rfl, rfl, rfl⟩ := h
    exact .inl ⟨rfl, rfl, rfl, _, rfl⟩
  | cons task tasks =>
    obtain ⟨log₁, r, _, log₂, rfl, haccepted, h⟩ :=
      goes_bind (p := s.runAccepted (task :: tasks)) |>.mp h
    obtain ⟨_, _, _, rfl, rfl, _, _, _, rfl, rfl, rfl, rfl, rfl⟩ := h
    exact .inr ⟨r, log₁, rfl, rfl, haccepted⟩

theorem goes_runAccepted {tasks : List Task} {r : RunResult}
    (h : Goes stop (s.runAccepted tasks) before log r after) :
    ∃ fates elapsed, Chronicle stop s tasks before fates after ∧
      r = .ofReports (List.zipWith Fate.report fates tasks) elapsed ∧
      marks log = fates.flatMap Fate.marks := by
  obtain ⟨event, text, told, u, elapsed, rfl, htells, hbegan, hended, htasks, rfl⟩ :=
    stages_of_runAccepted h
  subst hbegan hended
  obtain ⟨rfl, -⟩ := goes_tells htells
  have hreports : (Ledger.opened tasks).reports = [] ++ tasks.map Report.ahead :=
    Ledger.opened_reports tasks
  change Goes stop (s.runTasks _ ([] : List Report).length tasks _) _ _ _ _ at htasks
  obtain ⟨fates, hchron, hfates, hmarks, hdropped⟩ := chronicle_of_goes htasks hreports nofun
  have hfinish : u.result.finish elapsed =
      .ofReports (List.zipWith Fate.report fates tasks) elapsed := by
    rw [finish_eq_ofReports, hfates]
    · rfl
    · rw [hfates]
      exact fun h => dropped_report_mem hchron.length_eq (hdropped h)
  refine ⟨fates, elapsed, hchron, hfinish, ?_⟩
  rw [marks_append, marks_append, marks_append, marks_tellings, hmarks]
  exact List.append_nil _

/-- What happens in a run that is let in has a chronicle, which holds all marks of the run, and from
which the result of the run can be told. -/
theorem chronicle_of_run {tasks : List Task} {result : Option RunResult}
    (h : Goes stop (s.run tasks) before log result after) :
    ∃ fates elapsed, Chronicle stop s tasks before fates after ∧
      result = some (.ofReports (List.zipWith Fate.report fates tasks) elapsed) ∧
      marks log = fates.flatMap Fate.marks := by
  rcases stages_of_run h with ⟨rfl, rfl, rfl, event, rfl⟩ | ⟨r, log', rfl, rfl, haccepted⟩
  · exact ⟨[], 0, .done, rfl, rfl⟩
  · obtain ⟨fates, elapsed, hchron, rfl, hmarks⟩ := goes_runAccepted haccepted
    refine ⟨fates, elapsed, hchron, rfl, ?_⟩
    rw [← List.singleton_append, marks_append, marks_append, hmarks]
    exact List.append_nil _

end CheckIn.Run
