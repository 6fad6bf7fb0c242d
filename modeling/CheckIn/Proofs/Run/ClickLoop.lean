import CheckIn.Proofs.Run.Targeting

/-! Click loops. A round looks once for the element and clicks it. After a click that succeeded the
loop dwells and goes back, after one that failed it only waits, and in either case the next round
follows. The loop ends when a look finds nothing or when its rounds are used up. `Loops` has a
constructor for each way to go on or to end, and what a loop comes to follows by induction on it. -/

namespace CheckIn

namespace Phone.Call

/-- Calls that ask what is on the screen. -/
def isQuery : Call → Bool
  | findAll _ | detect => true
  | _ => false

def isBack : Call → Bool
  | back => true
  | _ => false

end Phone.Call

namespace Run

open Process

open Phone.Call (isQuery isBack)

open StepRunner (roundLimit returnSettle retryDelay)

/-- A round of a click loop that found its element: the lookup, the click, and what came after it
up to the next round. -/
structure ClickRound where
  look : Lookup.Look
  click : Stretch.OfAttempt
  rest : Log
  ended : Nat

def ClickRound.log (u : ClickRound) : Log := u.look.log ++ (u.click.log ++ u.rest)

variable {stop : Option Nat} {before after : Nat} {log : Log} {r : StepRunner} {task : Task}
  {selector : Selector} {dwell rounds clicks : Nat} {result : Except StepError Unit}

/-! ### What is counted in a log -/

/-- The call of the exchange succeeded. -/
def Exchange.succeeds : Exchange → Bool
  | ⟨_, .call _, .ok _, _⟩ => true
  | _ => false

/-- How many gestures of a log succeeded. -/
def clickCount (log : Log) : Nat := (gestures log).countP Exchange.succeeds

theorem clickCount_append (log₁ log₂ : Log) :
    clickCount (log₁ ++ log₂) = clickCount log₁ + clickCount log₂ := by
  rw [clickCount, gestures_append, List.countP_append]
  rfl

/-- The queries of a log are `asked`, and it has so many gestures, of which so many succeeded, and
so many ways back. -/
structure Counts (log asked : Log) (tried clicked backs : Nat) : Prop where
  asked : callsOf isQuery log = asked
  tried : (gestures log).length = tried
  clicked : clickCount log = clicked
  backs : (callsOf isBack log).length = backs

theorem counts_nil : Counts [] [] 0 0 0 := ⟨rfl, rfl, rfl, rfl⟩

theorem Counts.append {log' asked asked' : Log} {m m' n n' k k' : Nat} (h : Counts log asked m n k)
    (h' : Counts log' asked' m' n' k') :
    Counts (log ++ log') (asked ++ asked') (m + m') (n + n') (k + k') := by
  refine ⟨?_, ?_, ?_, ?_⟩
  · rw [callsOf_append, h.asked, h'.asked]
  · rw [gestures_append, List.length_append, h.tried, h'.tried]
  · rw [clickCount_append, h.clicked, h'.clicked]
  · rw [callsOf_append, List.length_append, h.backs, h'.backs]

/-- A single click. -/
theorem Clicks.counts {e : Screen.Element} {now : Nat} (h : Clicks e now after log result) :
    Counts log [] 1 (if result = .ok () then 1 else 0) 0 := by
  obtain ⟨struck, rfl, hstrikes⟩ := h
  have hlead : Counts (leadIn e now) [] 0 0 0 :=
    ⟨callsOf_overflows, by rw [gestures_leadIn]; rfl, by rw [clickCount, gestures_leadIn]; rfl,
      by rw [leadIn, callsOf_overflows]; rfl⟩
  have hclick : isQuery (clickOf e) = false ∧ (clickOf e).isGesture = true ∧
      isBack (clickOf e) = false := by
    unfold clickOf
    split <;> exact ⟨rfl, rfl, rfl⟩
  obtain ⟨hquery, hgesture, hback⟩ := hclick
  have hstruck : Counts struck [] 1 (if result = .ok () then 1 else 0) 0 := by
    cases hstrikes with
    | succeeded | failed =>
      constructor <;>
      simp [callsOf, gestures, clickCount, Exchange.call?, Exchange.succeeds, hquery, hback,
        hgesture]
  simpa using hlead.append hstruck

/-- Requests that a click loop makes between its lookups, its clicks and the ways back. -/
def Request.IsBetween : Request → Prop
  | .tell _ | .pause _ _ => True
  | _ => False

theorem counts_between (h : ∀ x ∈ log, x.request.IsBetween) : Counts log [] 0 0 0 := by
  have hnone (kind : Phone.Call → Bool) : callsOf kind log = [] := by
    refine callsOf_eq_nil fun x hx => ?_
    have hx := h x hx
    revert hx
    cases x.request <;> simp [Request.IsBetween, Request.Avoids]
  have hgestures : gestures log = [] := hnone _
  exact ⟨hnone _, by rw [hgestures]; rfl, by rw [clickCount, hgestures]; rfl, by rw [hnone]; rfl⟩

theorem Request.OfLookup.any_isQuery {x : Exchange} (h : x.request.OfLookup true) :
    x.call?.any isQuery = x.call?.isSome := by
  obtain ⟨made, q, answer, met⟩ := x
  cases q with
  | query c heed deadline =>
    have hquery : isQuery c = true := by
      cases c <;> first | rfl | exact absurd h.1 id
    cases answer with
    | answered _ | timedOut => exact hquery
    | stopped => by_cases hmet : met = made <;> simp [Exchange.call?, hmet, hquery]
  | pause | now | isStopped | overflow => rfl
  | _ => exact h.elim

theorem Request.OfLookup.avoids_isBack : ∀ {q : Request}, q.OfLookup true → q.Avoids isBack
  | .query (.findAll _) _ _, _ | .query .detect _ _, _ => rfl
  | .pause _ _, _ | .now, _ | .isStopped, _ | .overflow, _ => trivial

/-- The calls of a lookup are all queries. -/
theorem Lookup.findOnce_counts {l : Lookup} {timeout : Nat}
    {found : Except StepError (Option Screen.Element)}
    (h : Goes stop (l.findOnce selector timeout true).run before log found after) :
    Counts log (calls log) 0 0 0 := by
  have hasks := h.asks (l.findOnce_asks selector timeout before)
  have hgestures := Lookup.findOnce_no_gesture h
  refine ⟨List.filter_congr fun x hx => (hasks x hx).any_isQuery, ?_, ?_, ?_⟩
  · rw [hgestures]
    rfl
  · rw [clickCount, hgestures]
    rfl
  · rw [callsOf_eq_nil fun x hx => (hasks x hx).avoids_isBack]
    rfl

/-! ### Rounds -/

/-- The lookup of a round. -/
def StepRunner.seek (r : StepRunner) (selector : Selector) : Attempt (Option Screen.Element) :=
  r.lookup.findOnce selector r.lookup.interval true

/-- It is over within an interval. -/
theorem StepRunner.seek_in_time {u : Lookup.Look} (h : u.Of stop (r.seek selector).run) :
    u.ended ≤ u.began + r.lookup.interval := by
  rcases goes_bind_run.mp h with ⟨_, -, hcheck⟩ | ⟨_, _, now, _, -, hcheck, hrest⟩
  · obtain ⟨-, hended, -⟩ := Lookup.goes_check_cases hcheck
    omega
  · obtain ⟨-, rfl, -⟩ := Lookup.goes_check_cases hcheck
    obtain ⟨log', -, hlook⟩ := goes_now_bind_run.mp hrest
    have hin := (Lookup.look_glances selector _ _ _ _ _ hlook).in_time
    rw [Nat.max_self] at hin
    omega

/-- What is told of a click that failed. -/
def retryNote (selector : Selector) (e : StepError) : Note :=
  .message .warn s!"click inside loop on {selector.print} failed: {e.message}"

/-- What follows a click at `clicked` up to the next round. After a click that succeeded back is
pressed once, after one that failed it is not pressed. -/
inductive Recovers (stop : Option Nat) (selector : Selector) (dwell clicked : Nat) :
    Except StepError Unit → Log → (after : Nat) → Prop
  | back {dwelt returned after : Nat} :
      Meets stop clicked (.pause dwell true) false dwelt → dwelt ≤ returned →
      Meets stop returned (.pause returnSettle true) false after →
      Recovers stop selector dwell clicked (.ok ())
        [⟨clicked, .pause dwell true, false, dwelt⟩, ⟨dwelt, .call .back, .ok (), returned⟩,
          ⟨returned, .pause returnSettle true, false, after⟩]
        after
  | retry {e : StepError} {after : Nat} :
      Meets stop clicked (.pause retryDelay true) false after →
      Recovers stop selector dwell clicked (.error e)
        [⟨clicked, .tell (retryNote selector e), (), clicked⟩,
          ⟨clicked, .pause retryDelay true, false, after⟩]
        after

/-- The round found its element, clicked it and left room for the next round. -/
structure ClickRound.Of (u : ClickRound) (stop : Option Nat) (r : StepRunner) (selector : Selector)
    (dwell : Nat) : Prop where
  looked : u.look.Of stop (r.seek selector).run
  clicked : ∃ e, u.look.result = .ok (some e) ∧ u.click.began = u.look.ended ∧
    Clicks e u.click.began u.click.ended u.click.log u.click.result
  recovered : Recovers stop selector dwell u.click.ended u.click.result u.rest u.ended

/-- What a loop tells when its element is gone. -/
def finishedNote (selector : Selector) (clicks : Nat) : Note :=
  .message .info s!"loop on {selector.print} finished after {clicks} clicks"

/-- What a loop tells when its rounds are used up. -/
def cappedNote (selector : Selector) (clicks : Nat) : Note :=
  .message .warn
    s!"loop on {selector.print} hit the {roundLimit}-iteration cap after {clicks} clicks"

/-- How a loop ends after the look `u`, with `clicks` successful clicks before it. -/
inductive Ends (stop : Option Nat) (selector : Selector) (dwell clicks : Nat) (u : Lookup.Look) :
    Log → Except StepError Unit → (after : Nat) → Prop
  | vanished : u.result = .ok none →
      Ends stop selector dwell clicks u
        [⟨u.ended, .tell (finishedNote selector clicks), (), u.ended⟩] (.ok ()) u.ended
  | unseen : u.result = .error .stopped →
      Ends stop selector dwell clicks u [] (.error .stopped) u.ended
  | retry {e : Screen.Element} {clicked after : Nat} {log : Log} {problem : StepError} :
      u.result = .ok (some e) → Clicks e u.ended clicked log (.error problem) →
      Meets stop clicked (.pause retryDelay true) true after →
      Ends stop selector dwell clicks u
        (log ++ [⟨clicked, .tell (retryNote selector problem), (), clicked⟩,
          ⟨clicked, .pause retryDelay true, true, after⟩])
        (.error .stopped) after
  | dwelling {e : Screen.Element} {clicked after : Nat} {log : Log} :
      u.result = .ok (some e) → Clicks e u.ended clicked log (.ok ()) →
      Meets stop clicked (.pause dwell true) true after →
      Ends stop selector dwell clicks u (log ++ [⟨clicked, .pause dwell true, true, after⟩])
        (.error .stopped) after
  | stuck {e : Screen.Element} {clicked dwelt after : Nat} {log : Log} {failure : Failure} :
      u.result = .ok (some e) → Clicks e u.ended clicked log (.ok ()) →
      Meets stop clicked (.pause dwell true) false dwelt →
      Ends stop selector dwell clicks u
        (log ++ [⟨clicked, .pause dwell true, false, dwelt⟩,
          ⟨dwelt, .call .back, .error failure, after⟩])
        (.error (.ofFailure failure)) after
  | returning {e : Screen.Element} {clicked dwelt returned after : Nat} {log : Log} :
      u.result = .ok (some e) → Clicks e u.ended clicked log (.ok ()) →
      Meets stop clicked (.pause dwell true) false dwelt →
      Meets stop returned (.pause returnSettle true) true after →
      Ends stop selector dwell clicks u
        (log ++ [⟨clicked, .pause dwell true, false, dwelt⟩, ⟨dwelt, .call .back, .ok (), returned⟩,
          ⟨returned, .pause returnSettle true, true, after⟩])
        (.error .stopped) after

/-- What happens in a loop that has `rounds` rounds left and `clicks` successful clicks behind it:
its lookups, the rounds that go on to the next, and the log of what comes after these. -/
inductive Loops (stop : Option Nat) (r : StepRunner) (selector : Selector) (dwell : Nat) :
    (rounds clicks before : Nat) → List Lookup.Look → List ClickRound → Log →
    Except StepError Unit → (after : Nat) → Prop
  | capped {clicks before : Nat} :
      Loops stop r selector dwell 0 clicks before [] []
        [⟨before, .tell (cappedNote selector clicks), (), before⟩] (.ok ()) before
  | last {rounds clicks : Nat} {u : Lookup.Look} {log : Log} {result : Except StepError Unit}
      {after : Nat} :
      u.Of stop (r.seek selector).run → Ends stop selector dwell clicks u log result after →
      Loops stop r selector dwell (rounds + 1) clicks u.began [u] [] (u.log ++ log) result after
  | again {rounds clicks : Nat} {u : ClickRound} {looks : List Lookup.Look} {us : List ClickRound}
      {log : Log} {result : Except StepError Unit} {after : Nat} :
      u.Of stop r selector dwell →
      Loops stop r selector dwell rounds (clicks + if u.click.result = .ok () then 1 else 0) u.ended
        looks us log result after →
      Loops stop r selector dwell (rounds + 1) clicks u.look.began (u.look :: looks) (u :: us) log
        result after

/-- A log is that of a loop. -/
def Looped (stop : Option Nat) (r : StepRunner) (selector : Selector) (dwell rounds clicks : Nat)
    (before : Nat) (log : Log) (result : Except StepError Unit) (after : Nat) : Prop :=
  ∃ looks us last, log = us.flatMap ClickRound.log ++ last ∧
    Loops stop r selector dwell rounds clicks before looks us last result after

section Found

variable {u : Lookup.Look} {e : Screen.Element} {clicked : Nat} {struck : Log}

theorem looped_again {outcome : Except StepError Unit} {rest : Log} {next : Nat}
    (hlook : u.Of stop (r.seek selector).run) (hfound : u.result = .ok (some e))
    (hclick : Clicks e u.ended clicked struck outcome)
    (hrecovers : Recovers stop selector dwell clicked outcome rest next)
    (h : Looped stop r selector dwell rounds (clicks + if outcome = .ok () then 1 else 0) next log
      result after) :
    Looped stop r selector dwell (rounds + 1) clicks u.began (u.log ++ (struck ++ (rest ++ log)))
      result after := by
  obtain ⟨looks, us, last, rfl, hloops⟩ := h
  let round : ClickRound := ⟨u, ⟨u.ended, struck, outcome, clicked⟩, rest, next⟩
  have hround : round.Of stop r selector dwell := ⟨hlook, ⟨e, hfound, rfl, hclick⟩, hrecovers⟩
  exact ⟨u :: looks, round :: us, last, by simp [round, ClickRound.log], .again hround hloops⟩

theorem looped_last (hlook : u.Of stop (r.seek selector).run)
    (h : Ends stop selector dwell clicks u log result after) :
    Looped stop r selector dwell (rounds + 1) clicks u.began (u.log ++ log) result after :=
  ⟨[u], [], _, rfl, .last hlook h⟩

/-- After a click that failed. -/
theorem looped_of_goes_retry {problem : StepError} (hlook : u.Of stop (r.seek selector).run)
    (hfound : u.result = .ok (some e))
    (hclick : Clicks e u.ended clicked struck (.error problem))
    (h : Goes stop (do
      Part.say .warn s!"click inside loop on {selector.print} failed: {problem.message}"
      Attempt.pause retryDelay true
      r.clickRounds selector dwell rounds clicks : Attempt Unit).run clicked log result after)
    (hrest : ∀ before log,
      Goes stop (r.clickRounds selector dwell rounds clicks).run before log result after →
      Looped stop r selector dwell rounds clicks before log result after) :
    Looped stop r selector dwell (rounds + 1) clicks u.began (u.log ++ (struck ++ log)) result
      after := by
  obtain ⟨_, now, _, rfl, rfl, stopped, next, rest, rfl, hpause, hend⟩ := h
  cases stopped with
  | true =>
    obtain ⟨rfl, rfl, rfl⟩ := hend
    exact looped_last hlook (.retry hfound hclick hpause)
  | false => exact looped_again hlook hfound hclick (.retry hpause) (hrest _ _ hend)

/-- After a click that succeeded. -/
theorem looped_of_goes_back (hlook : u.Of stop (r.seek selector).run)
    (hfound : u.result = .ok (some e))
    (hclick : Clicks e u.ended clicked struck (.ok ()))
    (h : Goes stop (do
      Attempt.pause dwell true
      Attempt.call .back
      Attempt.pause returnSettle true
      r.clickRounds selector dwell rounds (clicks + 1) : Attempt Unit).run clicked log result after)
    (hrest : ∀ before log,
      Goes stop (r.clickRounds selector dwell rounds (clicks + 1)).run before log result after →
      Looped stop r selector dwell rounds (clicks + 1) before log result after) :
    Looped stop r selector dwell (rounds + 1) clicks u.began (u.log ++ (struck ++ log)) result
      after := by
  obtain ⟨stopped, dwelt, _, rfl, hdwell, h₁⟩ := h
  cases stopped with
  | true =>
    obtain ⟨rfl, rfl, rfl⟩ := h₁
    exact looped_last hlook (.dwelling hfound hclick hdwell)
  | false =>
    obtain ⟨answer, returned, _, rfl, hback, h₂⟩ := h₁
    cases answer with
    | error failure =>
      obtain ⟨rfl, rfl, rfl⟩ := h₂
      exact looped_last hlook (.stuck hfound hclick hdwell)
    | ok _ =>
      obtain ⟨stopped, next, rest, rfl, hsettle, h₃⟩ := h₂
      cases stopped with
      | true =>
        obtain ⟨rfl, rfl, rfl⟩ := h₃
        exact looped_last hlook (.returning hfound hclick hdwell hsettle)
      | false => exact looped_again hlook hfound hclick (.back hdwell hback hsettle) (hrest _ _ h₃)

end Found

theorem looped_of_goes
    (h : Goes stop (r.clickRounds selector dwell rounds clicks).run before log result after) :
    Looped stop r selector dwell rounds clicks before log result after := by
  induction rounds generalizing clicks before log with
  | zero =>
    obtain ⟨_, rfl, htold⟩ := goes_lift_run.mp h
    obtain ⟨rfl, hnow⟩ := goes_perform.mp htold
    obtain rfl : after = before := hnow
    exact ⟨[], [], _, rfl, .capped⟩
  | succ rounds ih =>
    unfold StepRunner.clickRounds at h
    rcases goes_bind_run.mp h with ⟨e, rfl, hlook⟩ | ⟨looked, found, ended, rest, rfl, hlook, h⟩
    · -- A look fails only with the stop, and then it is the last.
      cases r.lookup.findOnce_failsOnly _ _ _ _ _ _ _ hlook
      rw [← List.append_nil log]
      exact looped_last (u := ⟨before, log, .error .stopped, after⟩) hlook (.unseen rfl)
    let u : Lookup.Look := ⟨before, looked, .ok found, ended⟩
    cases found with
    | none =>
      obtain ⟨_, rfl, htold⟩ := goes_lift_run.mp h
      obtain ⟨rfl, hnow⟩ := goes_perform.mp htold
      obtain rfl : after = ended := hnow
      exact looped_last (u := u) hlook (.vanished rfl)
    | some e =>
      obtain ⟨struck, clicked, now, log, rfl, hclick, h⟩ :=
        (goes_lift_bind_run (p := (StepRunner.clickElement e).run)).mp h
      have hclicks := clicks_of_goes hclick
      cases clicked with
      | error problem => exact looped_of_goes_retry (u := u) hlook rfl hclicks h fun _ _ => ih
      | ok _ => exact looped_of_goes_back (u := u) hlook rfl hclicks h fun _ _ => ih

/-! ### What a loop comes to -/

theorem Recovers.counts {clicked : Nat}
    (h : Recovers stop selector dwell clicked result log after) :
    Counts log [] 0 0 (if result = .ok () then 1 else 0) := by
  cases h with
  | back => exact ⟨rfl, rfl, rfl, rfl⟩
  | retry => exact counts_between (by simp [Request.IsBetween])

/-- A round has one lookup, one click, and one way back if the click succeeded. -/
theorem ClickRound.Of.counts {u : ClickRound} (h : u.Of stop r selector dwell) :
    Counts u.log u.look.calls 1 (if u.click.result = .ok () then 1 else 0)
      (if u.click.result = .ok () then 1 else 0) := by
  obtain ⟨e, -, -, hclick⟩ := h.clicked
  have hcounts := (Lookup.findOnce_counts h.looked).append (hclick.counts.append h.recovered.counts)
  simpa [Stretch.calls, ClickRound.log] using hcounts

/-- After the last look there may be a click and a way back, but not if the loop ends well. -/
theorem Ends.counts {u : Lookup.Look} (h : Ends stop selector dwell clicks u log result after) :
    ∃ tried clicked backs, Counts log [] tried clicked backs ∧ tried ≤ 1 ∧
      (result = .ok () → tried = 0 ∧ clicked = 0 ∧ backs = 0) := by
  cases h with
  | vanished => exact ⟨0, 0, 0, counts_between (by simp [Request.IsBetween]), by simp⟩
  | unseen => exact ⟨0, 0, 0, counts_nil, by simp⟩
  | retry _ hclick =>
    exact ⟨1, 0, 0, hclick.counts.append (counts_between (by simp [Request.IsBetween])), by simp⟩
  | dwelling _ hclick =>
    exact ⟨1, 1, 0, hclick.counts.append (counts_between (by simp [Request.IsBetween])), by simp⟩
  | stuck _ hclick => exact ⟨1, 1, 1, hclick.counts.append ⟨rfl, rfl, rfl, rfl⟩, by simp⟩
  | returning _ hclick => exact ⟨1, 1, 1, hclick.counts.append ⟨rfl, rfl, rfl, rfl⟩, by simp⟩

section Loops

variable {looks : List Lookup.Look} {us : List ClickRound} {last : Log}

theorem Loops.looks_of (h : Loops stop r selector dwell rounds clicks before looks us last result
    after) : ∀ u ∈ looks, u.Of stop (r.seek selector).run := by
  induction h with
  | capped => exact nofun
  | last hlook _ => exact List.forall_mem_singleton.mpr hlook
  | again hround _ ih => exact List.forall_mem_cons.mpr ⟨hround.looked, ih⟩

theorem Loops.rounds_of (h : Loops stop r selector dwell rounds clicks before looks us last result
    after) : ∀ u ∈ us, u.Of stop r selector dwell := by
  induction h with
  | capped | last => exact nofun
  | again hround _ ih => exact List.forall_mem_cons.mpr ⟨hround, ih⟩

theorem Loops.looks_le (h : Loops stop r selector dwell rounds clicks before looks us last result
    after) : looks.length ≤ rounds := by
  induction h with
  | capped => exact Nat.le_refl _
  | last => exact Nat.succ_le_succ (Nat.zero_le _)
  | again _ _ ih => exact Nat.succ_le_succ ih

/-- A loop ends well exactly if a look found nothing or all rounds went on to the next. -/
theorem Loops.ok_iff (h : Loops stop r selector dwell rounds clicks before looks us last result
    after) : result = .ok () ↔ (∃ u ∈ looks, u.result = .ok none) ∨ us.length = rounds := by
  induction h with
  | capped => simp
  | last _ hends => cases hends <;> simp_all
  | again hround _ ih =>
    -- The look of a round that goes on has found something, so it is none of those asked for.
    obtain ⟨e, hfound, -⟩ := hround.clicked
    simp [ih, hfound]

/-- In the rounds that went on, back was pressed as often as a click succeeded. -/
theorem counts_rounds (h : ∀ u ∈ us, u.Of stop r selector dwell) :
    ∃ clicked, Counts (us.flatMap ClickRound.log) (us.flatMap fun u => u.look.calls) us.length
      clicked clicked := by
  induction us with
  | nil => exact ⟨0, counts_nil⟩
  | cons u us ih =>
    obtain ⟨hround, hrest⟩ := List.forall_mem_cons.mp h
    obtain ⟨clicked, hcounts⟩ := ih hrest
    rw [List.length_cons, Nat.add_comm]
    exact ⟨_, hround.counts.append hcounts⟩

/-- After the rounds that went on there is at most one more lookup and one more click, and there is
no click if the loop ends well. -/
theorem Loops.counts_last (h : Loops stop r selector dwell rounds clicks before looks us last result
    after) : ∃ final tried clicked backs, looks = us.map ClickRound.look ++ final ∧
      Counts last (final.flatMap Stretch.calls) tried clicked backs ∧ us.length + tried ≤ rounds ∧
        (result = .ok () → tried = 0 ∧ clicked = 0 ∧ backs = 0) := by
  induction h with
  | capped =>
    exact ⟨[], 0, 0, 0, rfl, counts_between (by simp [Request.IsBetween]), Nat.le_refl _, by simp⟩
  | @last rounds _ u _ _ _ hlook hends =>
    obtain ⟨tried, clicked, backs, hcounts, htried, hok⟩ := hends.counts
    have hlast := (Lookup.findOnce_counts hlook).append hcounts
    refine ⟨[u], tried, clicked, backs, rfl, by simpa [Stretch.calls] using hlast, ?_, hok⟩
    rw [List.length_nil]
    omega
  | @again rounds _ u _ us _ _ _ _ _ ih =>
    obtain ⟨final, tried, clicked, backs, rfl, hcounts, htried, hok⟩ := ih
    refine ⟨final, tried, clicked, backs, rfl, hcounts, ?_, hok⟩
    rw [List.length_cons]
    omega

/-- What a loop that ends well says at last counts the clicks that succeeded. -/
theorem Loops.closes (h : Loops stop r selector dwell rounds clicks before looks us last result
    after) (hresult : result = .ok ()) : last.getLast? = some
      ⟨after, .tell (if us.length = rounds
          then cappedNote selector (clicks + clickCount (us.flatMap ClickRound.log))
          else finishedNote selector (clicks + clickCount (us.flatMap ClickRound.log))),
        (), after⟩ := by
  induction h with
  | capped => rfl
  | last _ hends =>
    cases hends with
    | vanished => simp [clickCount, gestures]
    | _ => cases hresult
  | again hround _ ih =>
    -- The count that the next round begins with has this round's click in it.
    rw [ih hresult, List.flatMap_cons, clickCount_append, hround.counts.clicked, Nat.add_assoc]
    simp

/-- Only the stop ends a loop badly, or a way back that fails. -/
theorem Loops.fails (h : Loops stop r selector dwell rounds clicks before looks us last result
    after) : ∀ e, result = .error e → e = .stopped ∨ ∃ failure made, e = .ofFailure failure ∧
      last.getLast? = some ⟨made, .call .back, .error failure, after⟩ := by
  induction h with
  | capped => exact nofun
  | again _ _ ih => exact ih
  | last _ hends =>
    intro e he
    cases hends with
    | vanished => cases he
    | unseen | retry | dwelling | returning =>
      cases he
      exact .inl rfl
    | @stuck _ _ dwelt _ _ failure =>
      cases he
      exact .inr ⟨failure, dwelt, rfl, by simp⟩

end Loops

/-- What a click loop comes to: its lookups, the rounds that went on to the next, each with a
lookup, a click and a way back if the click succeeded, and the log of what came after these. -/
structure Balanced (stop : Option Nat) (r : StepRunner) (selector : Selector) (dwell : Nat)
    (log : Log) (result : Except StepError Unit) (after : Nat) (looks : List Lookup.Look)
    (us : List ClickRound) (last : Log) : Prop where
  log_eq : log = us.flatMap ClickRound.log ++ last
  rounds_of : ∀ u ∈ us, u.Of stop r selector dwell
  looks_of : ∀ u ∈ looks, u.Of stop (r.seek selector).run ∧ u.ended ≤ u.began + r.lookup.interval
  looks_prefix : us.map ClickRound.look <+: looks
  /-- The phone is asked what is on the screen in the lookups alone. -/
  asks : callsOf isQuery log = looks.flatMap Stretch.calls
  looks_le : looks.length ≤ 50
  clicks_le : (gestures log).length ≤ 50
  ok_iff : result = .ok () ↔ (∃ u ∈ looks, u.result = .ok none) ∨ us.length = 50
  /-- A loop that ends well has no clicks but those of the rounds that went on. -/
  settled : result = .ok () → gestures last = [] ∧ callsOf isBack last = []
  backs : result = .ok () → (callsOf isBack log).length = clickCount log
  closes : result = .ok () → log.getLast? = some
    ⟨after, .tell (if us.length = 50 then cappedNote selector (clickCount log)
      else finishedNote selector (clickCount log)), (), after⟩
  fails : ∀ e, result = .error e → e = .stopped ∨ ∃ failure made, e = .ofFailure failure ∧
    log.getLast? = some ⟨made, .call .back, .error failure, after⟩

theorem balanced_of_loops {looks : List Lookup.Look} {us : List ClickRound} {last : Log}
    (h : Loops stop r selector dwell roundLimit 0 before looks us last result after) :
    Balanced stop r selector dwell (us.flatMap ClickRound.log ++ last) result after looks us
      last := by
  obtain ⟨clicked, hrounds⟩ := counts_rounds h.rounds_of
  obtain ⟨final, tried, clicked', backs, rfl, hlast, htried, hok⟩ := h.counts_last
  have hcounts := hrounds.append hlast
  refine
    { log_eq := rfl
      rounds_of := h.rounds_of
      looks_of := fun u hu => ⟨h.looks_of u hu, StepRunner.seek_in_time (h.looks_of u hu)⟩
      looks_prefix := List.prefix_append _ _
      asks := ?_
      looks_le := h.looks_le
      clicks_le := ?_
      ok_iff := h.ok_iff
      settled := ?_
      backs := ?_
      closes := ?_
      fails := ?_ }
  · rw [hcounts.asked, List.flatMap_append, List.flatMap_map]
  · rw [hcounts.tried]
    exact htried
  · intro hresult
    obtain ⟨rfl, rfl, rfl⟩ := hok hresult
    exact ⟨List.eq_nil_of_length_eq_zero hlast.tried, List.eq_nil_of_length_eq_zero hlast.backs⟩
  · intro hresult
    obtain ⟨rfl, rfl, rfl⟩ := hok hresult
    rw [hcounts.backs, hcounts.clicked]
  · intro hresult
    obtain ⟨rfl, rfl, rfl⟩ := hok hresult
    rw [List.getLast?_append, h.closes hresult, clickCount_append, hlast.clicked]
    simp [roundLimit]
  · intro e he
    rcases h.fails e he with hstopped | ⟨failure, made, rfl, hback⟩
    · exact .inl hstopped
    · refine .inr ⟨failure, made, rfl, ?_⟩
      rw [List.getLast?_append, hback]
      rfl

/-- Whatever the phone does and whenever a stop comes, a click loop comes to an end after no more
lookups and clicks than it has rounds. It ends well exactly if a lookup found nothing or all rounds
have passed; then back was pressed once after each click that succeeded and never after one that
failed, and the last message counts the clicks that succeeded. Otherwise it was stopped, or the
phone could not go back. -/
theorem clickLoop_balanced (r : StepRunner) (task : Task) (selector : Selector) (dwell : Nat)
    (stop : Option Nat) (before : Nat) :
    Surely stop (fun _ => True) (r.act task (.clickLoop selector dwell)).run before ∧
      ∀ log result after, Goes stop (r.act task (.clickLoop selector dwell)).run before log result
        after → ∃ looks us last, Balanced stop r selector dwell log result after looks us last := by
  constructor
  · have hasks : (r.clickRounds selector dwell roundLimit 0).run.Asks (Meets stop)
        (Request.OfAction fun _ => False) := r.clickRounds_asks selector dwell roundLimit 0
    refine surely_of_no_overrun (hasks.mono ?_) fun _ _ _ _ => trivial
    rintro now q hq rfl
    exact hq
  · intro log result after hgoes
    obtain ⟨looks, us, last, rfl, hloops⟩ := looped_of_goes hgoes
    exact ⟨looks, us, last, balanced_of_loops hloops⟩

/-- A button whose first click fails is clicked again, and is gone after that. -/
theorem clickLoop_balanced_browse :
    let selector : Selector := .one (.text "Browse")
    ∃ log looks us last,
      Goes none (Scheduler.standard.steps.act imageTask (.clickLoop selector 100)).run 0 log
          (.ok ()) 1600 ∧
        Balanced none Scheduler.standard.steps selector 100 log (.ok ()) 1600 looks us last ∧
        (gestures log).length = 2 ∧ (callsOf isBack log).length = 1 ∧
        log.getLast? = some ⟨1600, .tell (finishedNote selector 1), (), 1600⟩ := by
  intro selector
  let button : Screen.Element := ⟨"Browse", "", "", "", true, ⟨0, 0, 100, 100⟩⟩
  have hlook (now : Nat) (found : List Screen.Element) : Meets none now
      (.query (.findAll selector) true (some (now + 200))) (.answered (.ok found)) now :=
    ⟨Nat.le_refl _, fun _ _ => Nat.le_max_left .., by simp⟩
  have hcall (now : Nat) (c : Phone.Call) (answer : Except Failure c.Reply) :
      Meets none now (.call c) answer now := Nat.le_refl now
  have hpause (now duration : Nat) :
      Meets none now (.pause duration true) false (now + duration) := ⟨rfl, by simp⟩
  have htell (now : Nat) (note : Note) : Meets none now (.tell note) () now := rfl
  have hgoes : ∃ log, Goes none
      (Scheduler.standard.steps.act imageTask (.clickLoop selector 100)).run 0 log (.ok ()) 1600 ∧
      (gestures log).length = 2 ∧ clickCount log = 1 ∧
        log.getLast? = some ⟨1600, .tell (finishedNote selector 1), (), 1600⟩ :=
    ⟨_, .ask ⟨rfl, rfl⟩ (.ask ⟨rfl, rfl⟩ (.ask (hlook 0 [button])
      (.ask (hcall 0 (.click button) (.error (.of "offline"))) (.ask (htell 0 _)
      (.ask (hpause 0 1000) (.ask ⟨rfl, rfl⟩ (.ask ⟨rfl, rfl⟩ (.ask (hlook 1000 [button])
      (.ask (hcall 1000 (.click button) (.ok ())) (.ask (hpause 1000 100)
      (.ask (hcall 1100 .back (.ok ())) (.ask (hpause 1100 500)
      (.ask ⟨rfl, rfl⟩ (.ask ⟨rfl, rfl⟩ (.ask (hlook 1600 []) (.ask (htell 1600 _)
      ⟨rfl, rfl, rfl⟩)))))))))))))))), rfl, rfl, rfl⟩
  obtain ⟨log, hgoes, htried, hclicked, hlast⟩ := hgoes
  obtain ⟨looks, us, last, hbalanced⟩ :=
    (clickLoop_balanced Scheduler.standard.steps imageTask selector 100 none 0).2 _ _ _ hgoes
  exact ⟨log, looks, us, last, hgoes, hbalanced, htried, hclicked ▸ hbalanced.backs rfl, hlast⟩

end Run

end CheckIn
