import CheckIn.Proofs.Run.Attempt
import CheckIn.Run.Recognition

/-! One try of recognition. A try looks whether the run is stopped, detects, and ends the tries or
leaves it to the next after a pause. `trial_of_goes` says once what a try can come to; what all
tries come to follows by induction on those that are left. -/

namespace CheckIn.Run

open Process

variable {stop : Option Nat} {before after : Nat} {log : Log}

namespace Recognition

variable {r : Recognition} {target : String} {giveUp : Option Nat} {left attempts : Nat}

/-- How a try may be answered when it detects. -/
abbrev Sight : Type := (Request.query .detect true none).Answer

/-- The detection that shows the target, if the answer to a try has one. -/
def hitOf? (r : Recognition) (target : String) : Sight → Option Screen.Detection
  | .answered (.ok detections) => selectTarget r.threshold target detections
  | _ => none

/-- A try that is counted and not kept from detecting by the stop, and the answer it gets. -/
structure Looks (stop : Option Nat) (attempts before : Nat) (answer : Sight) (met : Nat) :
    Prop where
  calm : raised stop before = false
  counted : attempts + 1 < UInt32.size
  meets : Meets stop before (.query .detect true none) answer met

/-- How the log of such a try begins. -/
def looked (before : Nat) (answer : Sight) (met : Nat) (log : Log) : Log :=
  ⟨before, .isStopped, false, before⟩ :: ⟨before, .query .detect true none, answer, met⟩ :: log

/-- What a try detects is begun before the stop, also if the stop ends it. -/
theorem Looks.call?_eq {answer : Sight} {met : Nat} (h : Looks stop attempts before answer met) :
    Exchange.call? ⟨before, .query .detect true none, answer, met⟩ = some .detect := by
  obtain ⟨hcalm, -, hmeets⟩ := h
  cases answer with
  | answered _ | timedOut => rfl
  | stopped =>
    obtain ⟨-, ⟨t, rfl, rfl⟩, -⟩ := hmeets
    have hlate : ¬t ≤ before := fun hle => by simp [raised, hle] at hcalm
    have hmet : ¬max before t = before := by omega
    simp [Exchange.call?, hmet]

theorem Looks.calls_eq {answer : Sight} {met : Nat} (h : Looks stop attempts before answer met)
    (log : Log) : calls (looked before answer met log) =
    ⟨before, .query .detect true none, answer, met⟩ :: calls log := by
  show calls (⟨before, .query .detect true none, answer, met⟩ :: log) = _
  exact List.filter_cons_of_pos (by simp [h.call?_eq])

/-- The note tells after how many attempts the text was found. -/
def CountsAttempts (attempts : Nat) (note : Note) : Prop :=
  ∃ event, note = .event event ∧ ("attempts", .shown (toString attempts)) ∈ event.fields

/-- What a try comes to that begins at `before`, after `attempts` others and with `left` more. -/
inductive Trial (stop : Option Nat) (r : Recognition) (target : String) (giveUp : Option Nat)
    (left attempts before : Nat) : Log → Except StepError TextMatch → (after : Nat) → Prop
  | stopped : raised stop before = true →
      Trial stop r target giveUp left attempts before [⟨before, .isStopped, true, before⟩]
        (.error .stopped) before
  | cut {met : Nat} : Looks stop attempts before .stopped met →
      Trial stop r target giveUp left attempts before (looked before .stopped met [])
        (.error .stopped) met
  | found {answer : Sight} {met : Nat} {d : Screen.Detection} {note : Note} :
      Looks stop attempts before answer met → r.hitOf? target answer = some d →
      CountsAttempts (attempts + 1) note →
      Trial stop r target giveUp left attempts before
        (looked before answer met
          (overflows d.bounds.SumsFit met ++ [⟨met, .tell note, (), met⟩]))
        (.ok (ofDetection d)) met
  | missed {answer : Sight} {met : Nat} :
      Looks stop attempts before answer met → r.hitOf? target answer = none →
      (left = 0 ∨ ∃ t, giveUp = some t ∧ t ≤ met) →
      Trial stop r target giveUp left attempts before
        (looked before answer met [⟨met, .now, met, met⟩])
        (.error (.recognitionNotFound target (attempts + 1))) met
  | paused {answer : Sight} {met after : Nat} :
      Looks stop attempts before answer met → r.hitOf? target answer = none →
      Meets stop met (.pause r.backoff true) true after →
      Trial stop r target giveUp left attempts before
        (looked before answer met
          [⟨met, .now, met, met⟩, ⟨met, .pause r.backoff true, true, after⟩])
        (.error .stopped) after
  | again {answer : Sight} {met left' after : Nat} {log : Log}
      {result : Except StepError TextMatch} :
      Looks stop attempts before answer met → r.hitOf? target answer = none → left = left' + 1 →
      (∀ t, giveUp = some t → met < t) →
      Meets stop met (.pause r.backoff true) false (met + r.backoff) →
      Goes stop (r.tries target giveUp left' (attempts + 1)).run (met + r.backoff) log result
        after →
      Trial stop r target giveUp left attempts before
        (looked before answer met (⟨met, .now, met, met⟩ ::
          ⟨met, .pause r.backoff true, false, met + r.backoff⟩ :: log))
        result after

/-- What comes after a detection that found nothing. -/
theorem trial_of_miss {answer : Sight} {met : Nat} {result : Except StepError TextMatch}
    (hlooks : Looks stop attempts before answer met) (hnone : r.hitOf? target answer = none)
    (h : Goes stop (do
      let now ← Part.now
      match left with
      | 0 => throw (.recognitionNotFound target (attempts + 1))
      | left + 1 =>
        if giveUp.any (· ≤ now) then throw (.recognitionNotFound target (attempts + 1))
        Attempt.pause r.backoff true
        r.tries target giveUp left (attempts + 1) : Attempt TextMatch).run met log result after) :
    Trial stop r target giveUp left attempts before (looked before answer met log) result
      after := by
  obtain ⟨rest, rfl, hlate⟩ := goes_now_bind_run.mp h
  cases left with
  | zero =>
    obtain ⟨rfl, rfl, rfl⟩ := hlate
    exact .missed hlooks hnone (.inl rfl)
  | succ left =>
    dsimp only at hlate
    split at hlate
    case isTrue hspent =>
      obtain ⟨t, rfl, ht⟩ := (Option.any_eq_true _ _).mp hspent
      have ht := of_decide_eq_true ht
      rcases goes_bind_run.mp hlate with
        ⟨_, rfl, rfl, ⟨⟩, rfl⟩ | ⟨_, _, _, _, -, ⟨-, hthrown, -⟩, -⟩
      · exact .missed hlooks hnone (.inr ⟨t, rfl, ht⟩)
      · cases hthrown
    case isFalse hopen =>
      have hopen : ∀ t, giveUp = some t → met < t := by
        rintro t rfl
        simpa using hopen
      obtain ⟨stopped, between, log', rfl, hpause, hagain⟩ := hlate
      cases stopped with
      | true =>
        obtain ⟨rfl, rfl, rfl⟩ := hagain
        exact .paused hlooks hnone hpause
      | false =>
        obtain rfl : between = met + r.backoff := hpause.1
        exact .again hlooks hnone rfl hopen hpause hagain

theorem trial_of_goes {result : Except StepError TextMatch}
    (h : Goes stop (r.tries target giveUp left attempts).run before log result after) :
    Trial stop r target giveUp left attempts before log result after := by
  unfold tries at h
  rcases goes_bind_run.mp h with ⟨_, rfl, hcheck⟩ | ⟨_, _, now, _, rfl, hcheck, h₁⟩
  · obtain ⟨rfl, rfl, hr⟩ := goes_check.mp hcheck
    cases hraised : raised stop after with
    | true =>
      rw [hraised] at hr
      cases hr
      exact .stopped hraised
    | false => rw [hraised] at hr; cases hr
  obtain ⟨rfl, rfl, hr⟩ := goes_check.mp hcheck
  cases hcalm : raised stop now with
  | true => rw [hcalm] at hr; cases hr
  | false =>
    unfold Attempt.countOn at h₁
    split at h₁
    case isFalse =>
      -- Nothing comes after a count that overruns.
      obtain ⟨_, _, _, -, -, answer, -⟩ := h₁
      exact answer.elim
    case isTrue hcounted =>
      rcases (goes_bind_run (x := Attempt.query .detect true none)).mp h₁ with
        ⟨_, rfl, hquery⟩ | ⟨_, _, met, rest, rfl, hquery, h₂⟩
      · obtain ⟨answer, rfl, hmeets, hanswer⟩ := goes_query.mp hquery
        cases answer <;> cases hanswer
        exact .cut ⟨hcalm, hcounted, hmeets⟩
      obtain ⟨answer, rfl, hmeets, hanswer⟩ := goes_query.mp hquery
      have hlooks : Looks stop attempts now answer met := ⟨hcalm, hcounted, hmeets⟩
      dsimp only at h₂
      split at h₂
      case h_1 d hfound =>
        have hhit : r.hitOf? target answer = some d := by
          rcases answer with (_ | _) | _ | _ <;> cases hanswer <;> exact hfound
        obtain ⟨_, rfl, _, _, _, rfl, rfl, rfl, rfl, rfl⟩ := goes_checked_bind_run.mp h₂
        exact .found hlooks hhit ⟨_, rfl, by simp⟩
      case h_2 hmissed =>
        have hnone : r.hitOf? target answer = none := by
          rcases answer with (_ | _) | _ | _ <;> cases hanswer <;> exact hmissed
        exact trial_of_miss hlooks hnone h₂

end Recognition

end CheckIn.Run
