import CheckIn.Proofs.Run.Ledger

/-! Operations on a ledger, in any order and at any places. An operation edits the reports at the
places that it addresses, each from what it was alone (`apply_getElem?`). So the report at a place
is made by the operations that address it, whatever is done at other places between them, and two
operations at different places may change turns. Stopping the run is the one operation that
addresses many places, and beginning it takes back that it is stopped, but no report. -/

namespace CheckIn.Run

open Calendar (Moment)

namespace Ledger

/-- What may be done to a ledger before it is finished. -/
inductive Operation where
  | beginRun
  | start (index : Nat) (now : Moment)
  | succeed (index steps : Nat) (now : Moment)
  | fail (index : Nat) (failure : StepFailure) (now : Moment)
  | warn (index : Nat) (warnings : List StepError)
  | stopRemaining (first : Nat)

/-- The ledger after an operation. -/
def apply (l : Ledger) : Operation → Ledger
  | .beginRun => l.beginRun
  | .start index now => l.start index now
  | .succeed index steps now => l.succeed index steps now
  | .fail index failure now => (l.fail index failure now).2
  | .warn index warnings => l.warn index warnings
  | .stopRemaining first => (l.stopRemaining first).2

/-- The ledger after operations, one after the other. -/
def after (l : Ledger) (ops : List Operation) : Ledger := ops.foldl apply l

namespace Operation

/-- Whether the operation is for the report at a place. -/
def addresses (i : Nat) : Operation → Bool
  | beginRun => false
  | start index _ | succeed index _ _ | fail index _ _ | warn index _ => index = i
  | stopRemaining first => first ≤ i

/-- The operation is for a single report, which has this place. -/
def IsAt (index : Nat) : Operation → Prop
  | start i _ | succeed i _ _ | fail i _ _ | warn i _ => i = index
  | beginRun | stopRemaining _ => False

/-- What an operation makes of a report that it addresses. -/
def edit : Operation → Report → Report
  | beginRun, r => r
  | start _ now, r => { r with status := .executing, startedAt := some now }
  | succeed _ steps now, r =>
    { r with status := .succeeded, stepsExecuted := steps, finishedAt := some now }
  | fail _ failure now, r =>
    { r with status := statusOf failure.error, stepsExecuted := failure.stepsExecuted
             finishedAt := some now, error := some failure.error.message
             failedStep := if failure.error.isStop then r.failedStep
               else some failure.description }
  | warn _ warnings, r => { r with warnings := r.warnings ++ warnings.map StepError.message }
  | stopRemaining _, r => if r.status = .pending then { r with status := .stopped } else r

/-- The run is stopped, and not begun again after that. -/
def LeaveStopped (ops : List Operation) : Prop :=
  ∃ earlier first later, ops = earlier ++ stopRemaining first :: later ∧ beginRun ∉ later

theorem IsAt.addresses {op : Operation} {index i : Nat} (h : op.IsAt index) :
    op.addresses i = decide (index = i) := by
  cases op with
  | beginRun | stopRemaining => exact h.elim
  | start | succeed | fail | warn =>
    cases h
    rfl

theorem warnings_prefix_edit (op : Operation) (r : Report) : r.warnings <+: (op.edit r).warnings := by
  cases op with
  | beginRun | start | succeed | fail => exact List.prefix_refl _
  | warn => exact List.prefix_append ..
  | stopRemaining =>
    show r.warnings <+: (if r.status = .pending then _ else r).warnings
    split <;> exact List.prefix_refl _

end Operation

variable {l l' : Ledger} {op : Operation} {ops ops' : List Operation} {index start i : Nat}

/-! ### Single operations -/

/-- An operation edits the reports that it addresses and no other. -/
theorem apply_getElem? (l : Ledger) (op : Operation) (i : Nat) : (l.apply op).reports[i]? =
    l.reports[i]?.map fun r => if op.addresses i then op.edit r else r := by
  have hchange (index : Nat) (f : Report → Report) : (l.change index f).reports[i]? =
      l.reports[i]?.map fun r => if decide (index = i) then f r else r := by
    simp only [decide_eq_true_eq]
    exact List.getElem?_modify ..
  cases op with
  | beginRun => exact (Option.map_id' ..).symm
  | start | succeed | fail | warn => exact hchange _ _
  | stopRemaining first =>
    show (l.reports.mapIdx _)[i]? = _
    rw [List.getElem?_mapIdx]
    refine congrArg (Option.map · _) (funext fun r => ?_)
    by_cases hi : first ≤ i <;> simp [Operation.addresses, Operation.edit, hi]

theorem apply_length (l : Ledger) (op : Operation) :
    (l.apply op).reports.length = l.reports.length := by
  cases op with
  | beginRun => rfl
  | start | succeed | fail | warn => exact List.length_modify ..
  | stopRemaining => exact List.length_mapIdx

/-- An operation that addresses no report changes none. -/
theorem apply_reports_eq_self (h : ∀ i < l.reports.length, op.addresses i = false) :
    (l.apply op).reports = l.reports := by
  refine List.ext_getElem? fun i => ?_
  rw [apply_getElem?]
  by_cases hi : i < l.reports.length
  · simp [h i hi]
  · rw [List.getElem?_eq_none (Nat.not_lt.mp hi)]
    rfl

/-- An operation at a single place says nothing about the run. -/
theorem apply_phase (h : op.IsAt index) : (l.apply op).phase = l.phase := by
  cases op with
  | beginRun | stopRemaining => exact h.elim
  | start | succeed | fail | warn => rfl

theorem eq_of_phase_reports (hphase : l.phase = l'.phase) (hreports : l.reports = l'.reports) :
    l = l' := by
  cases l
  cases l'
  exact congr (congrArg mk hphase) hreports

/-- An operation at a place where there is no report changes nothing. -/
theorem apply_eq_self (h : op.IsAt index) (hindex : l.reports.length ≤ index) : l.apply op = l := by
  refine eq_of_phase_reports (apply_phase h) (apply_reports_eq_self fun i hi => ?_)
  rw [h.addresses, decide_eq_false_iff_not]
  omega

/-! ### Operations in turn -/

/-- Equal reports stay equal under the same operation. -/
theorem apply_congr (op : Operation) (h : l.reports[i]? = l'.reports[i]?) :
    (l.apply op).reports[i]? = (l'.apply op).reports[i]? := by
  rw [apply_getElem?, apply_getElem?, h]

theorem after_congr (ops : List Operation) (h : l.reports[i]? = l'.reports[i]?) :
    (l.after ops).reports[i]? = (l'.after ops).reports[i]? := by
  induction ops generalizing l l' with
  | nil => exact h
  | cons op ops ih => exact ih (apply_congr op h)

/-- Operations that do not address a place can be left out for it. -/
theorem after_filter (l : Ledger) (ops : List Operation) (i : Nat) :
    (l.after (ops.filter (·.addresses i))).reports[i]? = (l.after ops).reports[i]? := by
  induction ops generalizing l with
  | nil => rfl
  | cons op ops ih =>
    rw [List.filter_cons]
    split
    · exact ih (l.apply op)
    · next hop =>
      refine (after_congr _ ?_).trans (ih (l.apply op))
      rw [apply_getElem?]
      simp [hop]

/-- The report at a place is determined by what it was and by the operations that address it. -/
theorem after_local (h : l.reports[i]? = l'.reports[i]?)
    (hops : ops.filter (·.addresses i) = ops'.filter (·.addresses i)) :
    (l.after ops).reports[i]? = (l'.after ops').reports[i]? := by
  rw [← after_filter l ops, ← after_filter l' ops', hops]
  exact after_congr _ h

/-- Operations at different places may change turns. -/
theorem apply_comm {op' : Operation} {index' : Nat} (hop : op.IsAt index) (hop' : op'.IsAt index')
    (hne : index ≠ index') : (l.apply op).apply op' = (l.apply op').apply op := by
  refine eq_of_phase_reports ?_ (List.ext_getElem? fun i => ?_)
  · rw [apply_phase hop', apply_phase hop, apply_phase hop, apply_phase hop']
  · -- No place is addressed by both, so at each the same operations are left.
    have hsame : [op, op'].filter (·.addresses i) = [op', op].filter (·.addresses i) := by
      simp only [List.filter_cons, hop.addresses, hop'.addresses, decide_eq_true_eq,
        List.filter_nil]
      by_cases h : index = i <;> by_cases h' : index' = i <;> simp [h, h']
      omega
    exact (after_local rfl hsame : (l.after [op, op']).reports[i]? = _)

theorem after_length (l : Ledger) (ops : List Operation) :
    (l.after ops).reports.length = l.reports.length := by
  induction ops generalizing l with
  | nil => rfl
  | cons op ops ih => exact (ih (l.apply op)).trans (apply_length l op)

/-- Warnings are never lost. -/
theorem after_warnings {r : Report} (ops : List Operation) (h : l.reports[i]? = some r) :
    ∃ r', (l.after ops).reports[i]? = some r' ∧ r.warnings <+: r'.warnings := by
  induction ops generalizing l r with
  | nil => exact ⟨r, h, List.prefix_refl _⟩
  | cons op ops ih =>
    obtain ⟨r', hr', hprefix⟩ := ih (l := l.apply op) (by rw [apply_getElem?, h]; rfl)
    refine ⟨r', hr', List.IsPrefix.trans ?_ hprefix⟩
    split
    · exact op.warnings_prefix_edit r
    · exact List.prefix_refl _

/-! ### Stopping -/

theorem mem_pendingFrom : i ∈ l.pendingFrom start ↔ start ≤ i ∧ l.status? i = some .pending := by
  simp only [pendingFrom, status?, List.mem_filterMap, Prod.exists,
    List.mk_mem_zipIdx_iff_getElem?, Option.map_eq_some_iff]
  constructor
  · rintro ⟨r, j, hr, hj⟩
    split at hj
    · next h =>
      cases hj
      exact ⟨h.1, r, hr, h.2⟩
    · cases hj
  · rintro ⟨hi, r, hr, hstatus⟩
    exact ⟨r, i, hr, if_pos ⟨hi, hstatus⟩⟩

theorem pendingFrom_increasing (start : Nat) (l : Ledger) :
    (l.pendingFrom start).Pairwise (· < ·) := by
  have hplaces : l.reports.zipIdx.Pairwise fun x y => x.2 < y.2 := by
    rw [← List.pairwise_map, List.zipIdx_map_snd]
    exact List.pairwise_lt_range'
  refine hplaces.filterMap _ fun x y hlt i hi j hj => ?_
  obtain ⟨-, ⟨⟩⟩ := Option.ite_none_right_eq_some.mp hi
  obtain ⟨-, ⟨⟩⟩ := Option.ite_none_right_eq_some.mp hj
  exact hlt

/-- Stopping the run changes the status of the tasks that have not begun, and nothing else. -/
theorem stopRemaining_getElem? (l : Ledger) (start i : Nat) :
    (l.stopRemaining start).2.reports[i]? = l.reports[i]?.map fun r =>
      if i ∈ l.pendingFrom start then { r with status := .stopped } else r := by
  refine (l.apply_getElem? (.stopRemaining start) i).trans ?_
  cases hr : l.reports[i]? with
  | none => rfl
  | some r =>
    have hmem : i ∈ l.pendingFrom start ↔ start ≤ i ∧ r.status = .pending := by
      simp [mem_pendingFrom, status?, hr]
    by_cases hi : start ≤ i <;> simp [Operation.addresses, Operation.edit, hmem, hi]

/-- A run that is stopped has no task left to be stopped. -/
theorem pendingFrom_stopRemaining (l : Ledger) (start : Nat) :
    (l.stopRemaining start).2.pendingFrom start = [] := by
  refine List.eq_nil_iff_forall_not_mem.mpr fun i hi => ?_
  obtain ⟨hle, hstatus⟩ := mem_pendingFrom.mp hi
  rw [status?, stopRemaining_getElem?] at hstatus
  cases hr : l.reports[i]? with
  | none => simp [hr] at hstatus
  | some r =>
    have hmem : i ∈ l.pendingFrom start ↔ r.status = .pending := by
      simp [mem_pendingFrom, status?, hr, hle]
    by_cases hpending : r.status = .pending <;> simp [hr, hmem, hpending] at hstatus

theorem stopRemaining_again (l : Ledger) (start : Nat) :
    (l.stopRemaining start).2.stopRemaining start = ([], (l.stopRemaining start).2) := by
  have hnone := l.pendingFrom_stopRemaining start
  refine Prod.ext hnone (eq_of_phase_reports rfl (List.ext_getElem? fun i => ?_))
  rw [stopRemaining_getElem?, hnone]
  simp

/-- What it comes to that a run is stopped. -/
structure StopsPending (l : Ledger) (start : Nat) : Prop where
  /-- The answer has the places from `start` on at which tasks have not begun. -/
  mem_iff : ∀ i, i ∈ (l.stopRemaining start).1 ↔ start ≤ i ∧ l.status? i = some .pending
  increasing : (l.stopRemaining start).1.Pairwise (· < ·)
  getElem? : ∀ i, (l.stopRemaining start).2.reports[i]? = l.reports[i]?.map fun r =>
    if i ∈ (l.stopRemaining start).1 then { r with status := .stopped } else r
  again : (l.stopRemaining start).2.stopRemaining start = ([], (l.stopRemaining start).2)

theorem stopRemaining_stops (l : Ledger) (start : Nat) : l.StopsPending start :=
  ⟨fun _ => mem_pendingFrom, pendingFrom_increasing start l, l.stopRemaining_getElem? start,
    l.stopRemaining_again start⟩

/-! ### Finishing -/

theorem leaveStopped_cons : Operation.LeaveStopped (op :: ops) ↔
    Operation.LeaveStopped ops ∨ (∃ first, op = .stopRemaining first) ∧ .beginRun ∉ ops := by
  constructor
  · rintro ⟨earlier, first, later, heq, hlater⟩
    rcases List.cons_eq_append_iff.mp heq with ⟨rfl, hop⟩ | ⟨earlier, rfl, rfl⟩
    · obtain ⟨rfl, rfl⟩ := List.cons.inj hop
      exact .inr ⟨⟨first, rfl⟩, hlater⟩
    · exact .inl ⟨earlier, first, later, rfl, hlater⟩
  · rintro (⟨earlier, first, later, rfl, hlater⟩ | ⟨⟨first, rfl⟩, hlater⟩)
    · exact ⟨op :: earlier, first, later, rfl, hlater⟩
    · exact ⟨[], first, ops, rfl, hlater⟩

/-- The run is stopped in the end if it was stopped and not begun again. -/
theorem after_phase_eq_stopped : (l.after ops).phase = .stopped ↔
    Operation.LeaveStopped ops ∨ l.phase = .stopped ∧ .beginRun ∉ ops := by
  induction ops generalizing l with
  | nil => simp [after, Operation.LeaveStopped]
  | cons op ops ih =>
    have hcons : l.after (op :: ops) = (l.apply op).after ops := rfl
    rw [hcons, ih, leaveStopped_cons]
    cases op with
    | beginRun => simp [apply, beginRun]
    | start | succeed | fail | warn => simp [apply, start, succeed, fail, warn, change]
    | stopRemaining =>
      simp only [apply, stopRemaining, true_and, List.mem_cons, not_or]
      grind

/-- The result of a run after operations on its ledger. -/
structure Sums (tasks : List (UInt32 × String)) (ops : List Operation) (r : RunResult) : Prop where
  reports_eq : r.reports = ((ofTasks tasks).after ops).reports
  length_eq : r.reports.length = tasks.length
  total_eq : r.total = r.reports.length
  succeeded_eq : r.succeeded = r.reports.countP (·.status == .succeeded)
  failed_eq : r.failed = r.reports.countP (·.status == .failed)
  stopped_eq : r.stopped = r.reports.countP (·.status == .stopped)
  sum_iff : r.succeeded + r.failed + r.stopped = r.total ↔
    ∀ report ∈ r.reports, report.status.isTerminal
  outcome_iff : r.outcome = .stopped ↔
    (∃ report ∈ r.reports, report.status = .stopped) ∨ Operation.LeaveStopped ops

theorem finish_sums (tasks : List (UInt32 × String)) (ops : List Operation) (elapsed : Nat) :
    Sums tasks ops (((ofTasks tasks).after ops).finish elapsed) := by
  have hlength : ((ofTasks tasks).after ops).reports.length = tasks.length :=
    (after_length _ ops).trans (List.length_map ..)
  refine ⟨rfl, hlength, rfl, rfl, rfl, rfl, counts_eq_length_iff, ?_⟩
  -- The ledger of a run that is yet to begin is not stopped.
  have hphase : ((ofTasks tasks).after ops).phase = .stopped ↔ Operation.LeaveStopped ops := by
    simp [after_phase_eq_stopped, ofTasks]
  have houtcome : (((ofTasks tasks).after ops).finish elapsed).outcome = .stopped ↔
      ((ofTasks tasks).after ops).phase = .stopped ∨
        ((ofTasks tasks).after ops).count .stopped > 0 := by
    simp only [finish]
    split
    · next h => exact iff_of_true rfl h
    · next h => exact iff_of_false nofun h
  rw [houtcome, hphase, or_comm]
  exact or_congr_left count_stopped_pos

/-- What operations on a ledger come to, in any order and at any places. -/
structure ActsLocally (l : Ledger) : Prop where
  /-- The report at a place in the end is determined by what it was and by the operations that
  address it. -/
  report_eq : ∀ (l' : Ledger) (ops ops' : List Operation) (i : Nat),
    l.reports[i]? = l'.reports[i]? →
    ops.filter (·.addresses i) = ops'.filter (·.addresses i) →
    (l.after ops).reports[i]? = (l'.after ops').reports[i]?
  comm : ∀ (op op' : Operation) (index index' : Nat), op.IsAt index → op'.IsAt index' →
    index ≠ index' → (l.apply op).apply op' = (l.apply op').apply op
  /-- What is answered to a failure does not depend on what was done before. -/
  answer_eq : ∀ (op : Operation) (index : Nat) (failure : StepFailure) (now : Moment),
    ((l.apply op).fail index failure now).1 = (l.fail index failure now).1
  beyond : ∀ (op : Operation) (index : Nat), op.IsAt index → l.reports.length ≤ index →
    l.apply op = l
  stop_beyond : ∀ start, l.reports.length ≤ start →
    (l.stopRemaining start).2.reports = l.reports
  stops : ∀ start, l.StopsPending start
  warnings_prefix : ∀ (ops : List Operation) (i : Nat) (r : Report), l.reports[i]? = some r →
    ∃ r', (l.after ops).reports[i]? = some r' ∧ r.warnings <+: r'.warnings

/-- Whatever is done to a ledger, each report is made by the operations that address it, stopping
the run touches exactly the tasks that have not begun, and the result counts the reports as they are
in the end. The outcome tells of a stop if a report does, or if the run was stopped and not begun
again after that. -/
theorem operations_local :
    (∀ l : Ledger, l.ActsLocally) ∧
      ∀ (tasks : List (UInt32 × String)) (ops : List Operation) (elapsed : Nat),
        Sums tasks ops (((ofTasks tasks).after ops).finish elapsed) := by
  refine ⟨fun l => ?_, finish_sums⟩
  have hanswer (op : Operation) (index : Nat) (failure : StepFailure) (now : Moment) :
      ((l.apply op).fail index failure now).1 = (l.fail index failure now).1 := by
    simp only [fail, apply_length]
  have hbeyond (start : Nat) (hstart : l.reports.length ≤ start) :
      (l.apply (.stopRemaining start)).reports = l.reports :=
    apply_reports_eq_self fun i hi => decide_eq_false (by omega)
  exact {
    report_eq := fun _ _ _ _ => after_local
    comm := fun _ _ _ _ => apply_comm
    answer_eq := hanswer
    beyond := fun _ _ => apply_eq_self
    stop_beyond := hbeyond
    stops := l.stopRemaining_stops
    warnings_prefix := fun ops _ _ => after_warnings ops }

/-- Of two tasks the first has begun. What is noted of either may be noted in turn, and if the run
is stopped then the second is dropped, while the first may still succeed. -/
theorem operations_local_stopped :
    let l := (ofTasks [(1, "Daily"), (2, "Weekly")]).after [.beginRun, .start 0 ⟨0, 0⟩]
    let warn : Operation := .warn 0 [.device "offline"]
    let succeed : Operation := .succeed 0 4 ⟨9, 0⟩
    let failed : Operation := .fail 1 ⟨0, "sign in", .stopped, 0⟩ ⟨9, 0⟩
    (l.apply warn).apply failed = (l.apply failed).apply warn ∧
      (l.stopRemaining 0).1 = [1] ∧
      ((l.after [warn, .stopRemaining 0, succeed]).finish 9).outcome = .stopped ∧
      ((l.after [warn, .stopRemaining 0, succeed]).finish 9).succeeded = 1 := by
  intro l warn succeed failed
  refine ⟨(operations_local.1 l).comm warn failed 0 1 rfl rfl (by decide), by decide, ?_, by decide⟩
  have hsums := operations_local.2 [(1, "Daily"), (2, "Weekly")]
    ([.beginRun, .start 0 ⟨0, 0⟩] ++ [warn, .stopRemaining 0, succeed]) 9
  exact hsums.outcome_iff.mpr (.inr ⟨[.beginRun, .start 0 ⟨0, 0⟩, warn], 0, [succeed], rfl, by
    simp [succeed]⟩)

end Ledger

end CheckIn.Run
