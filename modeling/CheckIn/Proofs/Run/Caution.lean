import CheckIn.Proofs.Run.Heed

/-! The caution of steps. Lookups and recognition are prompt. Every action is careful, because
between two of its gestures, and after a gesture that is not the last, there is a pause or a check
that is barred once the stop is there. -/

namespace CheckIn.Run

open Process

variable {t : Nat}

/-! ### Lookups -/

namespace Lookup

theorem candidates_prompt (deadline : Nat) (atom : Atom) :
    Prompt t (candidates true deadline atom) := by
  unfold candidates
  refine (query_prompt _ _).bind fun found => ?_
  rcases found with _ | _ | _ <;> exact pure_prompt _

theorem narrow_prompt (deadline : Nat) (atoms : List Atom) (kept : List Screen.Element) :
    Prompt t (narrow true deadline atoms kept) := by
  induction atoms generalizing kept with
  | nil => exact pure_prompt _
  | cons atom atoms ih =>
    unfold narrow
    refine (candidates_prompt deadline atom).bind fun found => ?_
    rcases found with _ | found
    · exact pure_prompt _
    · dsimp only
      split
      · exact pure_prompt _
      · exact ih _

theorem look_prompt (deadline : Nat) (selector : Selector) :
    Prompt t (look true deadline selector) := by
  unfold look
  split
  · exact (candidates_prompt deadline _).bind fun _ => pure_prompt _
  · exact pure_prompt _
  · refine (candidates_prompt deadline _).bind fun found => ?_
    rcases found with _ | _ | _
    · exact pure_prompt _
    · exact pure_prompt _
    · exact (narrow_prompt deadline _ _).bind fun _ => pure_prompt _

theorem poll_prompt (l : Lookup) (selector : Selector) (deadline fuel : Nat) (looks : UInt32) :
    Prompt t (l.poll selector true deadline fuel looks) := by
  induction fuel generalizing looks with
  | zero => exact pure_prompt _
  | succ fuel ih =>
    unfold poll
    refine check_prompt.bind fun _ => Prompt.bind (checked_prompt _) fun _ => ?_
    refine Prompt.bind (lift_prompt trivial) fun started => ?_
    refine (look_prompt _ selector).bind fun found => ?_
    cases found with
    | some element => exact pure_prompt _
    | none =>
      refine Prompt.bind (lift_prompt trivial) fun now => ?_
      split
      · exact pure_prompt _
      · exact (pause_prompt _).bind fun _ => ih _

theorem resolve_prompt (l : Lookup) (selector : Selector) (timeout : Nat) :
    Prompt t (l.resolve selector timeout true) :=
  Prompt.bind (lift_prompt trivial) fun _ => l.poll_prompt selector _ _ _

theorem findOnce_prompt (l : Lookup) (selector : Selector) (timeout : Nat) :
    Prompt t (l.findOnce selector timeout true) :=
  check_prompt.bind fun _ => Prompt.bind (lift_prompt trivial) fun _ => look_prompt _ selector

end Lookup

/-! ### Recognition -/

namespace Recognition

/-- A count that overruns comes to nothing. -/
theorem countOn_prompt (count : Nat) : Prompt t (Attempt.countOn count) := by
  unfold Attempt.countOn
  split
  · exact pure_prompt _
  · rintro before log r after - ⟨_, _, _, -, -, answer, -⟩
    exact Empty.elim answer

theorem tries_prompt (r : Recognition) (target : String) (giveUp : Option Nat)
    (left attempts : Nat) : Prompt t (r.tries target giveUp left attempts) := by
  induction left generalizing attempts with
  | zero =>
    unfold tries
    refine check_prompt.bind fun _ => (countOn_prompt attempts).bind fun attempts => ?_
    refine (query_prompt _ _).bind fun answer => ?_
    dsimp only
    split
    · refine Prompt.bind (checked_prompt _) fun _ => ?_
      exact Prompt.bind (lift_prompt trivial) fun _ => pure_prompt _
    · exact Prompt.bind (lift_prompt trivial) fun _ => throw_prompt _
  | succ left ih =>
    unfold tries
    refine check_prompt.bind fun _ => (countOn_prompt attempts).bind fun attempts => ?_
    refine (query_prompt _ _).bind fun answer => ?_
    dsimp only
    split
    · refine Prompt.bind (checked_prompt _) fun _ => ?_
      exact Prompt.bind (lift_prompt trivial) fun _ => pure_prompt _
    · refine Prompt.bind (lift_prompt trivial) fun now => ?_
      split
      · exact (throw_prompt _).bind fun _ => (pause_prompt _).bind fun _ => ih attempts
      · exact (pause_prompt _).bind fun _ => ih attempts

theorem matchWith_prompt (r : Recognition) (text : String) (retries : UInt32)
    (budget : Option Nat) : Prompt t (r.matchWith text retries budget) :=
  Prompt.bind (lift_prompt trivial) fun _ => r.tries_prompt _ _ _ _

end Recognition

/-! ### Steps -/

namespace StepRunner

variable (r : StepRunner)

/-- A gesture and a pause after it. -/
theorem call_pause_careful (c : Phone.Call) (duration : Nat) :
    Careful t (Attempt.call c >>= fun _ => Attempt.pause duration true) :=
  (call_careful c).bind (fun _ => (pause_prompt duration).careful)
    fun _ => (pause_halted duration).barred

/-- Even a failure to stop the app is followed by the pause in which the stop is heeded. -/
theorem launchApp_careful (package : String) (timeout : Nat) :
    Careful t (r.launchApp package timeout) := by
  have hlaunch := call_pause_careful (t := t) (.launch package) timeout
  unfold launchApp
  refine (lift_call_careful _).bind (fun answer => ?_) fun answer => ?_
  · rcases answer with failure | _
    · refine Careful.bind_prompt (lift_prompt trivial) fun _ => ?_
      refine Careful.bind_prompt (lift_prompt trivial) fun _ => ?_
      refine Careful.bind_prompt (pause_prompt _) fun _ => ?_
      exact Careful.bind_prompt (lift_prompt trivial) fun _ => hlaunch
    · refine Careful.bind_prompt (pause_prompt _) fun _ => ?_
      exact Careful.bind_prompt (lift_prompt trivial) fun _ => hlaunch
  · rcases answer with failure | _
    · refine Barred.bind (lift_barred trivial) fun _ => ?_
      refine Barred.bind (lift_barred trivial) fun _ => ?_
      exact (pause_halted _).bind.barred
    · exact (pause_halted _).bind.barred

theorem clickElement_careful (e : Screen.Element) : Careful t (clickElement e) := by
  unfold clickElement
  split
  · exact call_careful _
  · exact Careful.bind_prompt (checked_prompt _) fun _ => call_careful _

/-- Recognition that the stop has ended is told as the stop. -/
theorem clickRecognised_careful (selector : Selector) (timeout : Nat) :
    Careful t (r.clickRecognised selector timeout) := by
  unfold clickRecognised
  split
  · exact (throw_prompt _).careful
  · next text _ =>
    intro before log result after hbefore hgoes
    rcases goes_bind_run.mp hgoes with ⟨e, rfl, h₁⟩ | ⟨log₁, found, between, log₂, rfl, h₁, h₂⟩
    · obtain ⟨a, ha, -⟩ := goes_outcome.mp h₁
      cases ha
    · obtain ⟨_, ⟨⟩, h₁⟩ := goes_outcome.mp h₁
      obtain ⟨hcalls, hstop⟩ := r.recognition.matchWith_prompt _ _ _ _ _ _ _ hbefore h₁
      by_cases ht : t ≤ between
      · cases hstop ht
        obtain ⟨rfl, rfl, rfl⟩ := h₂
        rw [List.append_nil]
        exact ⟨hcalls, fun _ => .stopped⟩
      · have hbetween := Nat.not_le.mp ht
        obtain ⟨hcalls₂, hend⟩ : (∀ e ∈ calls log₂, e.made < t) ∧
            (t ≤ after → Settles t log₂ result) := by
          rcases found with (_ | _ | _ | _ | _ | _) | found
          case ok => exact call_careful _ _ _ _ _ hbetween h₂
          all_goals exact (throw_prompt _).careful _ _ _ _ hbetween h₂
        exact ⟨calls_lt_append hcalls hcalls₂, fun ht => (hend ht).append⟩

theorem clickFound_careful (selector : Selector) (timeout : Nat) (found : Option Screen.Element) :
    Careful t (r.clickFound selector timeout found) := by
  unfold clickFound
  split
  · exact clickElement_careful _
  · split
    · exact r.clickRecognised_careful selector timeout
    · exact (throw_prompt _).careful

theorem swipe_careful (start finish : Screen.Point) (duration : Nat) :
    Careful t (r.swipe start finish duration) := by
  unfold swipe
  refine Careful.bind_prompt (lift_prompt trivial) fun before => ?_
  refine (call_careful _).bind (fun _ => ?_) fun _ => ?_
  · exact Careful.bind_prompt (lift_prompt trivial) fun _ => (pause_prompt _).careful
  · exact Barred.bind (lift_barred trivial) fun _ => (pause_halted _).barred

theorem swipeTimes_barred (start finish : Screen.Point) (duration count : Nat) :
    Barred t (r.swipeTimes start finish duration count) := by
  cases count with
  | zero => exact pure_barred _
  | succ count => exact check_halted.bind.barred

theorem swipeTimes_careful (start finish : Screen.Point) (duration count : Nat) :
    Careful t (r.swipeTimes start finish duration count) := by
  induction count with
  | zero => exact (pure_prompt _).careful
  | succ count ih =>
    refine Careful.bind_prompt check_prompt fun _ => ?_
    exact (r.swipe_careful start finish duration).bind (fun _ => ih) fun _ =>
      r.swipeTimes_barred start finish duration count

theorem pageSwipe_careful (up : Bool) (count : UInt32) (duration : Nat) :
    Careful t (r.pageSwipe up count duration) := by
  unfold pageSwipe
  refine (call_careful _).bind (fun size => ?_) fun size => ?_
  · refine Careful.bind_prompt (checked_prompt _) fun _ => ?_
    dsimp only
    split <;> exact r.swipeTimes_careful _ _ _ _
  · refine Barred.bind (checked_barred _) fun _ => ?_
    dsimp only
    split <;> exact r.swipeTimes_barred _ _ _ _

theorem clickRounds_careful (selector : Selector) (dwell rounds clicks : Nat) :
    Careful t (r.clickRounds selector dwell rounds clicks) := by
  induction rounds generalizing clicks with
  | zero => exact Prompt.careful (lift_prompt trivial)
  | succ rounds ih =>
    unfold clickRounds
    refine Careful.bind_prompt (r.lookup.findOnce_prompt _ _) fun found => ?_
    cases found with
    | none => exact Prompt.careful (lift_prompt trivial)
    | some e =>
      refine (clickElement_careful e).outcome.bind (fun result => ?_) fun result => ?_
      · cases result with
        | error e =>
          refine Careful.bind_prompt (lift_prompt trivial) fun _ => ?_
          exact Careful.bind_prompt (pause_prompt _) fun _ => ih clicks
        | ok _ =>
          refine Careful.bind_prompt (pause_prompt _) fun _ => ?_
          refine (call_careful _).bind (fun _ => ?_) fun _ => (pause_halted _).bind.barred
          exact Careful.bind_prompt (pause_prompt _) fun _ => ih (clicks + 1)
      · cases result with
        | error e => exact Barred.bind (lift_barred trivial) fun _ => (pause_halted _).bind.barred
        | ok _ => exact (pause_halted _).bind.barred

/-- Every action heeds the stop. -/
theorem act_careful (task : Task) (action : Action) : Careful t (r.act task action) := by
  cases action with
  | launch timeout => exact r.launchApp_careful task.package timeout
  | click selector timeout =>
    exact Careful.bind_prompt (r.lookup.findOnce_prompt _ _) fun found =>
      r.clickFound_careful selector timeout found
  | waitClick selector timeout =>
    exact Careful.bind_prompt (r.lookup.resolve_prompt _ _) fun found =>
      r.clickFound_careful selector timeout found
  | waitExists selector timeout =>
    refine ((r.lookup.resolve_prompt _ _).bind fun found => ?_).careful
    cases found
    · exact throw_prompt _
    · exact pure_prompt _
  | clickImage text retries timeout =>
    exact Careful.bind_prompt (r.recognition.matchWith_prompt _ _ _) fun _ => call_careful _
  | swipe start finish duration => exact r.swipe_careful start finish duration
  | swipeUp count duration => exact r.pageSwipe_careful true count duration
  | swipeDown count duration => exact r.pageSwipe_careful false count duration
  | back => exact call_pause_careful .back r.navSettle
  | home => exact call_pause_careful .home r.navSettle
  | sleep duration => exact (pause_prompt duration).careful
  | input selector text timeout =>
    refine Careful.bind_prompt (r.lookup.resolve_prompt _ _) fun found => ?_
    cases found
    · exact (throw_prompt _).careful
    · exact call_careful _
  | screenshot template =>
    refine Careful.bind_prompt (lift_prompt trivial) fun _ => ?_
    exact (call_careful _).bind (fun _ => Prompt.careful (lift_prompt trivial)) fun _ =>
      lift_barred trivial
  | clickLoop selector dwell => exact r.clickRounds_careful selector dwell _ _

theorem runStep_careful (task : Task) (step : Step) : Careful t (r.runStep task step) := by
  unfold runStep
  split
  · exact r.act_careful task _
  · exact (throw_prompt _).careful

end StepRunner

end CheckIn.Run
