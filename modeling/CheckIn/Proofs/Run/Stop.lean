import CheckIn.Proofs.Run.Caution
import CheckIn.Proofs.Run.Isolation

/-! The safety of the stop. From the time of a stop on, what a run still calls belongs to the way
out of an app whose task had begun before; queries in flight are given up, and gestures in flight
are carried through. No task begins after the stop, not even one without steps: every task begins
with a reading of the time of day. The one that is being executed then succeeds only if its last
step was begun before, and fails only if the gesture in flight does. -/

namespace CheckIn.Run

open Process

variable {stop : Option Nat} {t before after : Nat} {log : Log} {s : Scheduler}

/-- What becomes of a call that is in flight at the time of the stop: a look at the screen is given
up then, and everything else is carried through. -/
inductive Exchange.AtStop (t : Nat) : Exchange → Prop
  | abandoned {made : Nat} {c : Phone.Call} {deadline : Option Nat} :
      c.IsLook → made < t → AtStop t ⟨made, .query c true deadline, .stopped, t⟩
  | completed {made met : Nat} {c : Phone.Call} {answer : Except Failure c.Reply} :
      ¬c.IsLook → made < t → t ≤ met → AtStop t ⟨made, .call c, answer, met⟩

/-- A call of a step that is in flight at the time of the stop meets it. -/
theorem atStop_of_meets {e : Exchange} (hmeets : Meets (some t) e.made e.request e.answer e.met)
    (hscope : e.request.OfStep (fun _ => True) e.made) (hcall : e.call?.isSome)
    (hmade : e.made < t) (hmet : t ≤ e.met) : e.AtStop t := by
  obtain ⟨made, q, answer, met⟩ := e
  cases q with
  | call c => exact .completed hscope hmade hmet
  | query c heed deadline =>
    obtain ⟨hlook, rfl⟩ := hscope
    cases answer with
    | answered a => exact absurd ⟨rfl, raised_some.mpr hmet⟩ hmeets.2.2
    | timedOut => exact absurd ⟨rfl, raised_some.mpr hmet⟩ hmeets.2
    | stopped =>
      obtain ⟨-, ⟨t', ⟨⟩, hmet'⟩, -⟩ := hmeets
      have hlate : made < t := hmade
      have hmet : met = t := hmet'.trans (Nat.max_eq_right (Nat.le_of_lt hlate))
      subst hmet
      exact .abandoned hlook hlate
  | _ => cases hcall

/-- What the stretches of a task in execution are made of. -/
structure Stretch.IsWork (u : Stretch.OfAttempt) (t : Nat) : Prop where
  began_lt : u.began < t
  calls_lt : ∀ e ∈ u.calls, e.made < t
  atStop : ∀ e ∈ u.calls, t ≤ e.met → e.AtStop t
  settles : t ≤ u.ended → Settles t u.log u.result

theorem isWork_of {u : Stretch.OfAttempt} {x : Attempt Unit} (hu : u.Of (some t) x.run)
    (hbegan : u.began < t) (hcareful : Careful t x)
    (hasks : x.run.Asks (Meets (some t)) (Request.OfStep fun _ => True)) : u.IsWork t := by
  obtain ⟨hcalls, hsettles⟩ := hcareful _ _ _ _ hbegan hu
  refine ⟨hbegan, hcalls, fun e he hmet => ?_, hsettles⟩
  obtain ⟨hmem, hcall⟩ := mem_calls.mp he
  exact atStop_of_meets (hu.meets e hmem).1 (hu.asks (hasks _) e hmem) hcall (hcalls e he) hmet

/-- Whatever is done for a task that began before the stop is careful. -/
theorem Execution.isWork {task : Task} {launch : Option Stretch.OfAttempt}
    {us : List Stretch.OfAttempt} {result : Except StepFailure Nat}
    (h : Execution (some t) s task before launch us result after) (hbefore : before < t) :
    ∀ u ∈ launch.toList ++ us, u.IsWork t := by
  intro u hu
  rcases List.mem_append.mp hu with hu | hu
  · obtain ⟨hbegan, hof⟩ := h.launch_of.2 u (Option.mem_toList.mp hu)
    exact isWork_of hof (hbegan ▸ hbefore) (s.steps.launchApp_careful _ _)
      ((s.steps.launchApp_asks _ _).mono fun _ _ => Request.OfAction.ofStep)
  · obtain ⟨hlength, hsteps⟩ := h.zip_of
    obtain ⟨i, hi, rfl⟩ := List.mem_iff_getElem.mp hu
    have hmem : (us[i], task.steps[i]) ∈ us.zip task.steps :=
      List.mem_iff_getElem.mpr ⟨i, by simp; omega, by simp⟩
    obtain ⟨hraised, hof⟩ := hsteps _ hmem
    have hbegan : us[i].began < t := by simpa [raised] using hraised
    exact isWork_of hof hbegan (s.steps.runStep_careful _ _)
      ((s.steps.runStep_asks _ _ (.inl fun _ _ _ _ _ => trivial)).mono
        fun _ _ => Request.OfAction.ofStep)

/-- What the stop at `t` finds and leaves of a turn. -/
structure Turn.Heeds (turn : Turn) (s : Scheduler) (task : Task) (t : Nat) : Prop where
  /-- The turn is one of the task: its launch, its steps, and the way out of its app. -/
  of : turn.Of (some t) s task
  began_lt : turn.began < t
  calls_lt : ∀ u ∈ turn.executed, ∀ e ∈ u.calls, e.made < t
  atStop : ∀ u ∈ turn.executed, ∀ e ∈ u.calls, t ≤ e.met → e.AtStop t
  /-- If the task is being executed then and succeeds, its last step had begun, and went well. -/
  succeeded : t ≤ turn.settled → (turn.report task).status = .succeeded →
    turn.steps.length = task.steps.length ∧
      ∃ us u, turn.steps = us ++ [u] ∧ u.began < t ∧ u.result = .ok ()
  /-- If it fails, then because the gesture in flight failed. -/
  failed : t ≤ turn.settled → (turn.report task).status = .failed →
    ∃ u ∈ turn.executed, ∃ e, FailedAcross t u.log e ∧ (turn.report task).error = some e.message
  stopped : (turn.report task).status = .succeeded ∨ (turn.report task).status = .failed ∨
    (turn.report task).status = .stopped

section Turn

variable {turn : Turn} {task : Task} {failure : StepFailure}

theorem Turn.status_of_ok {n : Nat} (h : turn.outcome = .ok n) :
    (turn.report task).status = .succeeded := by
  show (Report.ofOutcome task _ _ turn.outcome).status = _
  rw [h]
  rfl

theorem Turn.report_of_error (task : Task) (h : turn.outcome = .error failure) :
    (turn.report task).status = Ledger.statusOf failure.error ∧
      (turn.report task).error = some failure.error.message := by
  show (Report.ofOutcome task _ _ turn.outcome).status = _ ∧
    (Report.ofOutcome task _ _ turn.outcome).error = _
  rw [h]
  exact ⟨rfl, rfl⟩

/-- The end of a turn is one of three. -/
theorem Turn.status_cases (turn : Turn) (task : Task) :
    (turn.report task).status = .succeeded ∨ (turn.report task).status = .failed ∨
      (turn.report task).status = .stopped := by
  cases houtcome : turn.outcome with
  | ok n => exact .inl (Turn.status_of_ok houtcome)
  | error failure =>
    rw [(Turn.report_of_error task houtcome).1]
    rcases statusOf_eq failure.error with ⟨-, hs⟩ | ⟨-, hs⟩
    · exact .inr (.inr hs)
    · exact .inr (.inl hs)

/-- Where a task succeeds, there is a last step, which went well. -/
theorem Turn.Of.last_of_succeeded (h : turn.Of stop s task) (hsteps : task.steps ≠ [])
    (hstatus : (turn.report task).status = .succeeded) :
    turn.steps.length = task.steps.length ∧
      ∃ us u, turn.steps = us ++ [u] ∧ u.result = .ok () := by
  rcases h.execution.ended with ⟨-, hlength, hall⟩ | ⟨failure, hfail, -⟩
  · have hlast : turn.steps ≠ [] := by
      intro hnil
      rw [hnil] at hlength
      exact hsteps (List.length_eq_zero_iff.mp hlength.symm)
    have hmem : turn.steps.getLast hlast ∈ turn.launch.toList ++ turn.steps :=
      List.mem_append_right _ (List.getLast_mem hlast)
    exact ⟨hlength, _, _, (List.dropLast_concat_getLast hlast).symm, hall _ hmem⟩
  · rw [(Turn.report_of_error task hfail).1] at hstatus
    rcases statusOf_eq failure.error with ⟨-, hs⟩ | ⟨-, hs⟩
    · cases hs.symm.trans hstatus
    · cases hs.symm.trans hstatus

/-- Where a task fails, the last that was done for it did. -/
theorem Turn.Of.last_of_failed (h : turn.Of stop s task)
    (hstatus : (turn.report task).status = .failed) :
    ∃ u ∈ turn.executed, ∃ e : StepError, e ≠ .stopped ∧ u.result = .error e ∧
      u.ended = turn.settled ∧ (turn.report task).error = some e.message := by
  rcases h.execution.ended with ⟨hok, -, -⟩ | ⟨failure, hfail, hend⟩
  · cases (Turn.status_of_ok hok).symm.trans hstatus
  · obtain ⟨hs, herror⟩ := Turn.report_of_error task hfail
    have hne : failure.error ≠ .stopped := by
      intro hstopped
      rw [hs, hstopped] at hstatus
      cases hstatus
    rcases hend with ⟨hstopped, -, -⟩ | ⟨us, u, hus, hu, hended, -⟩
    · exact absurd hstopped hne
    · have hmem : u ∈ turn.executed := by
        rw [Turn.executed, hus]
        exact List.mem_append_right _ (List.mem_singleton_self u)
      exact ⟨u, hmem, failure.error, hne, hu, hended, herror⟩

theorem Turn.Of.heeds (h : turn.Of (some t) s task) (hbegan : turn.began < t)
    (hsteps : task.steps ≠ []) : turn.Heeds s task t where
  of := h
  began_lt := hbegan
  calls_lt u hu := (h.execution.isWork hbegan u hu).calls_lt
  atStop u hu := (h.execution.isWork hbegan u hu).atStop
  succeeded _ hstatus := by
    obtain ⟨hlength, us, u, hus, hok⟩ := h.last_of_succeeded hsteps hstatus
    have hmem : u ∈ turn.launch.toList ++ turn.steps := by simp [hus]
    exact ⟨hlength, us, u, hus, (h.execution.isWork hbegan u hmem).began_lt, hok⟩
  failed ht hstatus := by
    obtain ⟨u, hmem, e, hne, hu, hended, herror⟩ := h.last_of_failed hstatus
    have hsettles := (h.execution.isWork hbegan u hmem).settles (hended ▸ ht)
    rw [hu] at hsettles
    cases hsettles with
    | stopped => exact absurd rfl hne
    | failed hacross => exact ⟨u, hmem, _, hacross, herror⟩
  stopped := turn.status_cases task

end Turn

/-- What became of a task in a run that was stopped at `t`. -/
inductive Fate.AtStop (s : Scheduler) (task : Task) (t : Nat) : Fate → Report → Prop
  /-- A task without steps that the run came to before the stop. It begins with the reading. -/
  | refused {now : Nat} {moment : Calendar.Moment} : now < t → task.steps = [] →
      AtStop s task t (.refused now moment)
        (.ofOutcome task moment moment (.error Scheduler.noSteps))
  | carried {turn : Turn} : task.steps ≠ [] → turn.Heeds s task t →
      AtStop s task t (.carried turn) (turn.report task)
  /-- A task that had not begun before the stop never does. -/
  | dropped {report : Report} : report.status = .stopped → report.startedAt = none →
      AtStop s task t .dropped report

theorem Fate.Of.atStop {task : Task} {fate : Fate} (h : fate.Of (some t) s task) :
    fate.AtStop s task t (fate.report task) := by
  cases fate with
  | refused now moment => exact .refused (by simpa [raised] using h.1) h.2
  | carried turn =>
    have hbegan : turn.began < t := by simpa [raised] using h.1
    exact .carried h.2.1 (h.2.2.heeds hbegan h.2.1)
  | dropped => exact .dropped rfl rfl

/-- What marks a stopped run after the stop belongs to a task that had begun before: it is settled
what became of it, and its app is left. -/
theorem Fate.AtStop.mem_marks {task : Task} {fate : Fate} {report : Report} {e : Exchange}
    (h : fate.AtStop s task t report) (he : e ∈ fate.marks) (hmade : t ≤ e.made) :
    ∃ turn, fate = .carried turn ∧ turn.began < t ∧
      (e = reading turn.settled turn.finishedAt ∨ e ∈ turn.leaving.calls) := by
  cases h with
  | dropped => exact absurd he List.not_mem_nil
  | refused hnow _ =>
    rw [List.mem_singleton.mp he] at hmade
    exact absurd hmade (Nat.not_le.mpr hnow)
  | @carried turn _ hturn =>
    rcases List.mem_cons.mp he with rfl | he
    · exact absurd hmade (Nat.not_le.mpr hturn.began_lt)
    rcases List.mem_append.mp he with he | he
    · obtain ⟨u, hu, he⟩ := List.mem_flatMap.mp he
      exact absurd hmade (Nat.not_le.mpr (hturn.calls_lt u hu e he))
    · exact ⟨turn, rfl, hturn.began_lt, List.mem_cons.mp he⟩

/-- Once the stop is there, a run comes to an end, whatever counts it may have come to. -/
theorem surely_of_reaches {tasks : List Task} {rest : Part (Option RunResult)}
    (h : Reaches (some t) (s.run tasks) before log rest after) (ht : t ≤ after) :
    Surely (some t) (fun result => result.isSome) rest after := by
  have hasks := s.run_asks (W := Meets (some t)) (R := fun now => now < t) tasks
    (.inl fun now later _ hm hover => by
      obtain ⟨hraised, rfl⟩ := hm
      obtain rfl := hover
      simpa [raised] using hraised)
  refine surely_of_asks (h.asksFrom (hasks before)) ht fun log' result finish hgoes => ?_
  obtain ⟨r, rfl, -⟩ := accounts_of_goes (h.goes hgoes)
  rfl

/-- A run that is stopped at `t` comes to an end from there on, and whatever the phone does, the
calls that it issues from then on belong to the way out of an app whose task had begun before. Every
task that the run had not come to is dropped, and every other heeds the stop: what begins a task is
a reading of the time of day, and the only ones from then on settle what became of a task that had
begun before. -/
theorem runs_heed_stop (s : Scheduler) (tasks : List Task) (t clock : Nat) :
    (∀ log rest now, Reaches (some t) (s.run tasks) clock log rest now → t ≤ now →
      Surely (some t) (fun result => result.isSome) rest now) ∧
    ∀ log result after, Goes (some t) (s.run tasks) clock log result after →
      ∃ (fates : List Fate) (reports : List Report) (elapsed : Nat),
        result = some (.ofReports reports elapsed) ∧
        fates.length = tasks.length ∧ reports.length = tasks.length ∧
        (∀ (i : Nat) (task : Task), tasks[i]? = some task → ∃ fate report,
          fates[i]? = some fate ∧ reports[i]? = some report ∧ fate.AtStop s task t report) ∧
        calls log = (fates.filterMap Fate.turn?).flatMap Turn.calls ∧
        marks log = fates.flatMap Fate.marks ∧
        (∀ e ∈ calls log, t ≤ e.made → ∃ turn, .carried turn ∈ fates ∧ turn.began < t ∧
          e ∈ turn.leaving.calls) ∧
        ∀ e ∈ log, e.request = .wallClock → t ≤ e.made → ∃ turn, .carried turn ∈ fates ∧
          turn.began < t ∧ e = reading turn.settled turn.finishedAt := by
  refine ⟨fun log rest now hreaches ht => surely_of_reaches hreaches ht, ?_⟩
  intro log result after hgoes
  obtain ⟨fates, elapsed, hchron, rfl, hmarks⟩ := chronicle_of_run hgoes
  have hlength := hchron.length_eq
  have hfates (i : Nat) (task : Task) (htask : tasks[i]? = some task) :
      ∃ fate, fates[i]? = some fate ∧ fate.AtStop s task t (fate.report task) := by
    obtain ⟨fate, hfate, hof⟩ := hchron.fate_of htask
    exact ⟨fate, hfate, hof.atStop⟩
  have hlate (e : Exchange) (he : e ∈ marks log) (hmade : t ≤ e.made) :
      ∃ turn, .carried turn ∈ fates ∧ turn.began < t ∧
        (e = reading turn.settled turn.finishedAt ∨ e ∈ turn.leaving.calls) := by
    rw [hmarks] at he
    obtain ⟨fate, hfate, he⟩ := List.mem_flatMap.mp he
    obtain ⟨i, hi, rfl⟩ := List.mem_iff_getElem.mp hfate
    obtain ⟨_, hsome, hstop⟩ := hfates i _ (List.getElem?_eq_getElem (hlength ▸ hi))
    obtain rfl := Option.some.inj ((List.getElem?_eq_getElem hi).symm.trans hsome)
    obtain ⟨turn, hturn, hbegan, he⟩ := hstop.mem_marks he hmade
    exact ⟨turn, hturn ▸ hfate, hbegan, he⟩
  refine ⟨fates, _, elapsed, rfl, hlength, by simp [hlength], ?_, ?_, hmarks, ?_, ?_⟩
  · intro i task htask
    obtain ⟨fate, hfate, hstop⟩ := hfates i task htask
    exact ⟨fate, _, hfate, by rw [List.getElem?_zipWith, hfate, htask], hstop⟩
  · exact (calls_of_marks hmarks).trans (flatMap_calls fates)
  · intro e he hmade
    obtain ⟨hmem, hcall⟩ := mem_calls.mp he
    obtain ⟨turn, hturn, hbegan, rfl | hleaving⟩ := hlate e (mem_marks.mpr ⟨hmem, .inl hcall⟩) hmade
    · cases hcall
    · exact ⟨turn, hturn, hbegan, hleaving⟩
  · intro e he hreading hmade
    have hmem := mem_marks.mpr ⟨he, .inr (Exchange.isReading_iff.mpr hreading)⟩
    obtain ⟨turn, hturn, hbegan, rfl | hleaving⟩ := hlate e hmem hmade
    · exact ⟨turn, hturn, hbegan, rfl⟩
    · have hquiet : e.request.IsQuiet := by rw [hreading]; trivial
      exact absurd (mem_calls.mp hleaving).2 (by simp [Exchange.call?_eq_none hquiet])

/-- A run of a task that looks for a text, with a stop after five milliseconds. -/
theorem runs_heed_stop_imageTask : ∃ log result after,
    Goes (some 5) (Scheduler.standard.run [imageTask]) 0 log result after ∧
      ∀ e ∈ calls log, 5 ≤ e.made → ∃ turn : Turn, turn.began < 5 ∧ e ∈ turn.leaving.calls := by
  have hcountable (task : Task) (h : task ∈ [imageTask]) :
      Scheduler.standard.steps.AreCountable task :=
    List.mem_singleton.mp h ▸ imageTask_areCountable
  have hsurely : Surely (some 5) (fun _ => True) (Scheduler.standard.run [imageTask]) 0 :=
    surely_of_countable hcountable fun _ _ _ _ => trivial
  obtain ⟨log, result, after, hgoes, -⟩ := hsurely.exists_goes
  obtain ⟨fates, reports, elapsed, -, -, -, -, -, -, hlate, -⟩ :=
    (runs_heed_stop .standard [imageTask] 5 0).2 log result after hgoes
  refine ⟨log, result, after, hgoes, fun e he hmade => ?_⟩
  obtain ⟨turn, -, hbegan, hleaving⟩ := hlate e he hmade
  exact ⟨turn, hbegan, hleaving⟩

end CheckIn.Run
