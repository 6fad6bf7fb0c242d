import CheckIn.Proofs.Run.Accounts

/-! Isolation and order. In a run that nobody stops, every task with steps has exactly one turn,
whatever happened in the turns before it, and one turn is over before the next begins. The calls of
the run are those of the turns: the clean launch if it is wanted, the steps up to the first that
fails, and the way out of the app. What happens on the way out shows in the warnings alone: the
report has its times from readings that come before it. -/

namespace CheckIn.Run

open Process

variable {stop : Option Nat} {before after : Nat} {log : Log} {s : Scheduler}

/-- What a turn consists of when nobody stops the run. -/
structure Turn.Brackets (turn : Turn) (s : Scheduler) (task : Task) : Prop where
  /-- There is a clean launch if lifecycles are enabled, apps are to be launched, and the first
  step does not do so itself. -/
  launch_iff : turn.launch.isSome ↔ s.teardown.settings.enabled ∧
    s.teardown.settings.autoLaunch ∧ ¬task.startsWithLaunch
  launch_of : ∀ u, turn.launch = some u →
    u.Of none (s.steps.launchApp task.package s.launchTimeout).run
  /-- The steps that were carried out are the first ones, each in its own stretch. -/
  steps_le : turn.steps.length ≤ task.steps.length
  steps_of : ∀ x ∈ turn.steps.zip task.steps, x.1.Of none (s.steps.runStep task x.2).run
  serial : turn.executed.Pairwise fun u v => u.ended ≤ v.began
  within : ∀ u ∈ turn.executed, turn.began ≤ u.began ∧ u.ended ≤ turn.settled
  /-- Either all went well to the last step, or the last stretch failed. -/
  ended : (turn.outcome = .ok task.steps.length ∧ turn.steps.length = task.steps.length ∧
      ∀ u ∈ turn.executed, u.result = .ok ()) ∨
    ∃ failure us u, turn.outcome = .error failure ∧ turn.executed = us ++ [u] ∧
      u.result = .error failure.error ∧ u.ended = turn.settled ∧ ∀ v ∈ us, v.result = .ok ()
  /-- The app is left once, after the outcome is settled. -/
  leaving_began : turn.leaving.began = turn.settled
  leaving_of : turn.leaving.Of none (s.teardown.run task)
  leaving_calls : (turn.leaving.calls ≠ []) ↔ s.teardown.settings.enabled

/-- The way out of an app begins with a call. -/
theorem teardown_calls {t : Teardown} {task : Task} {warnings : List StepError}
    (h : Goes stop (t.run task) before log warnings after) :
    calls log ≠ [] ↔ t.settings.enabled := by
  unfold Teardown.run at h
  cases henabled : t.settings.enabled with
  | false =>
    rw [henabled] at h
    obtain ⟨rfl, -, -⟩ := h
    exact ⟨fun h => absurd rfl h, nofun⟩
  | true =>
    rw [henabled] at h
    obtain ⟨answer, between, log, rfl, -, -⟩ := h
    exact ⟨fun _ => rfl, fun _ => List.cons_ne_nil _ _⟩

/-- Where no stop can come, a turn has its whole shape. -/
theorem Turn.Of.brackets {turn : Turn} {task : Task} (h : turn.Of none s task) :
    turn.Brackets s task where
  launch_iff := by
    rw [h.execution.launch_of.1]
    simp [Teardown.wantsLaunch]
  launch_of u hu := (h.execution.launch_of.2 u hu).2
  steps_le := h.execution.zip_of.1
  steps_of x hx := (h.execution.zip_of.2 x hx).2
  serial := h.execution.serial.2
  within := h.execution.serial.1
  ended := by
    rcases h.execution.ended with hok | ⟨failure, hfail, ⟨-, hr, -⟩ | ⟨us, u, hlast⟩⟩
    · exact .inl hok
    · cases hr
    · exact .inr ⟨failure, us, u, hfail, hlast⟩
  leaving_began := h.leaving_began
  leaving_of := h.leaving
  leaving_calls := teardown_calls h.leaving

/-- The turn of a task that was not dropped or refused. -/
def Fate.turn? : Fate → Option Turn
  | carried turn => some turn
  | refused _ _ | dropped => none

/-- Turns follow one another in time. -/
theorem Chronicle.serial {tasks : List Task} {fates : List Fate}
    (h : Chronicle stop s tasks before fates after) :
    (∀ turn ∈ fates.filterMap Fate.turn?, before ≤ turn.began) ∧
      (fates.filterMap Fate.turn?).Pairwise fun u v => u.leaving.ended ≤ v.began := by
  induction h with
  | done => exact ⟨fun _ h => absurd h List.not_mem_nil, .nil⟩
  | dropped _ =>
    have hnone (l : List Task) : (l.map fun _ => Fate.dropped).filterMap Fate.turn? = [] := by
      simp [Fate.turn?]
    rw [hnone]
    exact ⟨fun _ h => absurd h List.not_mem_nil, .nil⟩
  | refused _ _ _ ih => exact ih
  | @carried between _ _ _ turn _ _ _ hturn hle _ ih =>
    have hbegan : turn.began ≤ between := by
      have hsettled := hturn.execution.le
      have hleft := hturn.leaving.le
      have hfrom := hturn.leaving_began
      omega
    constructor
    · intro v hv
      rcases List.mem_cons.mp hv with rfl | hv
      · exact Nat.le_refl _
      · exact Nat.le_trans hbegan (ih.1 v hv)
    · exact .cons (fun v hv => Nat.le_trans hle (ih.1 v hv)) ih.2

/-- What became of a task in a run that nobody stops. -/
inductive Fate.Isolated (s : Scheduler) (task : Task) : Fate → Report → Prop
  /-- A task without steps fails at once. -/
  | refused {now : Nat} {moment : Calendar.Moment} : task.steps = [] →
      Isolated s task (.refused now moment)
        (.ofOutcome task moment moment (.error Scheduler.noSteps))
  /-- Of what happens after the outcome is settled, the report shows the warnings alone. -/
  | carried {turn : Turn} : task.steps ≠ [] → turn.Brackets s task →
      Isolated s task (.carried turn)
        { Report.ofOutcome task turn.startedAt turn.finishedAt turn.outcome with
          warnings := turn.leaving.result.map StepError.message }

theorem Fate.Of.isolated {task : Task} {fate : Fate} (h : fate.Of none s task) :
    fate.Isolated s task (fate.report task) := by
  cases fate with
  | refused now moment => exact .refused h.2
  | carried turn => exact .carried h.2.1 h.2.2.brackets
  | dropped => cases h

/-- The calls of fates are those of the turns among them. -/
theorem flatMap_calls (fates : List Fate) :
    fates.flatMap Fate.calls = (fates.filterMap Fate.turn?).flatMap Turn.calls := by
  induction fates with
  | nil => rfl
  | cons fate fates ih =>
    rw [List.flatMap_cons, ih]
    cases fate <;> rfl

theorem Turn.calls_eq (turn : Turn) : turn.calls =
    turn.launch.toList.flatMap Stretch.calls ++ turn.steps.flatMap Stretch.calls ++
      turn.leaving.calls := by
  rw [Turn.calls, Turn.executed, List.flatMap_append]

/-- A run that nobody stops comes to an end if the tries of recognition can be counted. Whatever the
phone does in it, every task has its fate for itself, in the order of the tasks and one turn after
the other. The calls of the run are the calls of the turns, and the time of day is read in between
at the beginning of each task and when it is settled what became of it, and at no other time. -/
theorem runs_isolate (s : Scheduler) (tasks : List Task) (clock : Nat) :
    ((∀ task ∈ tasks, s.steps.AreCountable task) →
      Surely none (fun result => result.isSome) (s.run tasks) clock) ∧
    ∀ log result after, Goes none (s.run tasks) clock log result after →
      ∃ (fates : List Fate) (reports : List Report) (elapsed : Nat),
        result = some (.ofReports reports elapsed) ∧
        fates.length = tasks.length ∧ reports.length = tasks.length ∧
        (∀ (i : Nat) (task : Task), tasks[i]? = some task → ∃ fate report,
          fates[i]? = some fate ∧ reports[i]? = some report ∧ fate.Isolated s task report) ∧
        ((fates.filterMap Fate.turn?).Pairwise fun u v => u.leaving.ended ≤ v.began) ∧
        (calls log = (fates.filterMap Fate.turn?).flatMap fun turn =>
          turn.launch.toList.flatMap Stretch.calls ++ turn.steps.flatMap Stretch.calls ++
            turn.leaving.calls) ∧
        marks log = fates.flatMap Fate.marks := by
  constructor
  · intro h
    refine surely_of_countable h fun log result after hgoes => ?_
    obtain ⟨r, rfl, -⟩ := accounts_of_goes hgoes
    rfl
  · intro log result after hgoes
    obtain ⟨fates, elapsed, hchron, rfl, hmarks⟩ := chronicle_of_run hgoes
    have hlength := hchron.length_eq
    refine ⟨fates, _, elapsed, rfl, hlength, by simp [hlength], ?_, hchron.serial.2, ?_, hmarks⟩
    · intro i task htask
      obtain ⟨fate, hfate, hof⟩ := hchron.fate_of htask
      refine ⟨fate, fate.report task, hfate, ?_, hof.isolated⟩
      rw [List.getElem?_zipWith, hfate, htask]
    · rw [calls_of_marks hmarks, flatMap_calls]
      exact congrArg (List.flatMap · _) (funext Turn.calls_eq)

/-- There is a run of a task that looks for a text. -/
theorem runs_isolate_imageTask : ∃ log result after,
    Goes none (Scheduler.standard.run [imageTask]) 0 log result after ∧ result.isSome :=
  have hcountable (task : Task) (h : task ∈ [imageTask]) :
      Scheduler.standard.steps.AreCountable task :=
    List.mem_singleton.mp h ▸ imageTask_areCountable
  ((runs_isolate .standard [imageTask] 0).1 hcountable).exists_goes

end CheckIn.Run
