import CheckIn.Proofs.Run.Failures
import CheckIn.Proofs.Run.Trial

/-! Gestures at a target. A step that clicks or types looks for its target first. It makes one
gesture at what it found, and none if it found nothing or was stopped before. -/

namespace CheckIn

/-- Calls that touch an element or a point of the screen. -/
def Phone.Call.isGesture : Phone.Call → Bool
  | click _ | setText _ _ | tap _ => true
  | _ => false

/-- Actions that click or type at a target. -/
def Action.IsTargeting : Action → Prop
  | click _ _ | waitClick _ _ | clickImage _ _ _ | input _ _ _ => True
  | _ => False

namespace Run

open Process

variable {stop : Option Nat} {before after : Nat} {log : Log}

/-- The exchanges of a log in which a gesture was made. -/
def gestures (log : Log) : Log := log.filter (·.call?.any Phone.Call.isGesture)

theorem gestures_append (log₁ log₂ : Log) :
    gestures (log₁ ++ log₂) = gestures log₁ ++ gestures log₂ :=
  callsOf_append ..

/-- Requests in which no gesture can be made. -/
def Request.IsCalm : Request → Prop
  | .call c | .query c _ _ => c.isGesture = false
  | _ => True

theorem Request.OfLookup.isCalm {heed : Bool} : ∀ {q : Request}, q.OfLookup heed → q.IsCalm
  | .query (.findAll _) _ _, _ | .query .detect _ _, _ => rfl
  | .pause _ _, _ | .now, _ | .isStopped, _ | .overflow, _ => trivial

theorem Request.OfRecognition.isCalm {R : Nat → Prop} {now : Nat} :
    ∀ {q : Request}, q.OfRecognition R now → q.IsCalm
  | .query (.findAll _) _ _, _ | .query .detect _ _, _ => rfl
  | .pause _ _, _ | .now, _ | .isStopped, _ | .tell _, _ | .overflow, _ | .overrun, _ => trivial

theorem Request.IsCalm.avoids : ∀ {q : Request}, q.IsCalm → q.Avoids Phone.Call.isGesture
  | .call _, h | .query _ _ _, h => h
  | .now, _ | .wallClock, _ | .localTime, _ | .sleep _, _ | .pause _ _, _ | .isStopped, _
  | .tell _, _ | .claim, _ | .forget, _ | .release, _ | .overflow, _ | .overrun, _ => trivial

theorem gestures_eq_nil (h : ∀ e ∈ log, e.request.IsCalm) : gestures log = [] :=
  callsOf_eq_nil fun e he => (h e he).avoids

/-! ### Looking for the target -/

theorem Lookup.resolve_no_gesture {l : Lookup} {selector : Selector} {timeout : Nat}
    {r : Except StepError (Option Screen.Element)}
    (h : Goes stop (l.resolve selector timeout true).run before log r after) :
    gestures log = [] :=
  gestures_eq_nil fun e he => (h.asks (l.resolve_asks selector timeout before) e he).isCalm

theorem Lookup.findOnce_no_gesture {l : Lookup} {selector : Selector} {timeout : Nat}
    {r : Except StepError (Option Screen.Element)}
    (h : Goes stop (l.findOnce selector timeout true).run before log r after) :
    gestures log = [] :=
  gestures_eq_nil fun e he => (h.asks (l.findOnce_asks selector timeout before) e he).isCalm

namespace Recognition

variable {r : Recognition} {target text : String} {found : TextMatch}

theorem matchWith_no_gesture {retries : UInt32} {budget : Option Nat}
    {result : Except StepError TextMatch}
    (h : Goes stop (r.matchWith text retries budget).run before log result after) :
    gestures log = [] := by
  have hasks : (r.matchWith text retries budget).run.Asks (Meets stop)
      (Request.OfRecognition fun _ => True) :=
    r.matchWith_asks text retries budget (.inl fun _ _ _ _ _ => trivial)
  exact gestures_eq_nil fun e he => (h.asks (hasks before) e he).isCalm

/-- The last call of a log has found detections, of which `d` is the one that shows the target. -/
def Selects (r : Recognition) (target : String) (log : Log) (d : Screen.Detection) : Prop :=
  ∃ seen made detections met,
    calls log =
      seen ++ [⟨made, .query .detect true none, .answered (.ok detections), met⟩] ∧
    selectTarget r.threshold target detections = some d

/-- The target was found in `d`, whose center was needed then. -/
def Discovers (r : Recognition) (target : String) (log : Log) (found : TextMatch) (now : Nat)
    (d : Screen.Detection) : Prop :=
  r.Selects target log d ∧ found = ofDetection d ∧ (¬d.bounds.SumsFit → Overflowed log now)

theorem Selects.prepend {d : Screen.Detection} (h : r.Selects target log d) (past : Log) :
    r.Selects target (past ++ log) d := by
  obtain ⟨seen, made, detections, met, hseen, hd⟩ := h
  refine ⟨calls past ++ seen, made, detections, met, ?_, hd⟩
  rw [calls_append, hseen, List.append_assoc]

/-- The last call of a log shows the target in one detection. -/
theorem Selects.unique {d d' : Screen.Detection} (h : r.Selects target log d)
    (h' : r.Selects target log d') : d = d' := by
  obtain ⟨_, _, _, _, hseen, hd⟩ := h
  obtain ⟨_, _, _, _, hseen', hd'⟩ := h'
  obtain ⟨-, hlast⟩ := List.append_inj' (hseen.symm.trans hseen') rfl
  cases hlast
  exact Option.some.inj (hd.symm.trans hd')

/-- A try finds the target, or leaves it to the tries that are left. -/
theorem goes_tries {giveUp : Option Nat} {left attempts : Nat}
    (h : Goes stop (r.tries target giveUp left attempts).run before log (.ok found) after) :
    (∃ d, r.Discovers target log found after d) ∨
      ∃ left' between log₁ log₂, left = left' + 1 ∧ log = log₁ ++ log₂ ∧
        Goes stop (r.tries target giveUp left' (attempts + 1)).run between log₂ (.ok found)
          after := by
  cases trial_of_goes h with
  | @found answer met d note _ hhit =>
    left
    rcases answer with (_ | detections) | _ | _
    case answered.ok =>
      have hcalls : calls (looked before (.answered (.ok detections)) after
          (overflows d.bounds.SumsFit after ++ [⟨after, .tell note, (), after⟩])) =
          [⟨before, .query .detect true none, .answered (.ok detections), after⟩] := by
        show _ :: calls (overflows d.bounds.SumsFit after ++ [_]) = _
        rw [calls_append, calls_overflows]
        rfl
      refine ⟨d, ⟨[], _, detections, _, hcalls, hhit⟩, rfl, fun hwide => ?_⟩
      exact .tail _ (.tail _ (List.mem_append_left _ (overflowed_of_not_fits hwide)))
    all_goals cases hhit
  | @again answer met left' _ log' _ _ _ hleft _ _ hagain =>
    exact .inr ⟨left', _, looked before answer met [_, _], log', hleft, rfl, hagain⟩

theorem tries_discovers {giveUp : Option Nat} {left attempts : Nat}
    (h : Goes stop (r.tries target giveUp left attempts).run before log (.ok found) after) :
    ∃ d, r.Discovers target log found after d := by
  induction left generalizing attempts before log with
  | zero =>
    rcases goes_tries h with hfound | ⟨_, _, _, _, hleft, -⟩
    · exact hfound
    · cases hleft
  | succ left ih =>
    rcases goes_tries h with hfound | ⟨_, between, log₁, log₂, hleft, rfl, hagain⟩
    · exact hfound
    · cases hleft
      obtain ⟨d, hselects, hfound, hover⟩ := ih hagain
      refine ⟨d, hselects.prepend log₁, hfound, fun hwide => ?_⟩
      exact (hover hwide).of_suffix (List.suffix_append ..)

theorem matchWith_discovers {retries : UInt32} {budget : Option Nat}
    (h : Goes stop (r.matchWith text retries budget).run before log (.ok found) after) :
    ∃ d, r.Discovers (Text.unquote text) log found after d := by
  obtain ⟨log, rfl, htries⟩ := goes_now_bind_run.mp h
  obtain ⟨d, hselects, hfound, hover⟩ := tries_discovers htries
  refine ⟨d, hselects.prepend [_], hfound, fun hwide => ?_⟩
  exact (hover hwide).of_suffix (List.suffix_cons ..)

theorem matchWith_selects {retries : UInt32} {budget : Option Nat}
    (h : Goes stop (r.matchWith text retries budget).run before log (.ok found) after) :
    ∃ d, r.Selects (Text.unquote text) log d ∧ found = ofDetection d := by
  obtain ⟨d, hselects, hfound, -⟩ := matchWith_discovers h
  exact ⟨d, hselects, hfound⟩

end Recognition

/-! ### Aiming -/

/-- The element's own click if it has one, else a tap at its center. -/
def clickOf (e : Screen.Element) : Phone.Call := if e.clickable then .click e else .tap e.center

/-- What comes before the click of an element. A tap needs the center, where a sum may not fit. -/
def leadIn (e : Screen.Element) (now : Nat) : Log :=
  overflows (e.clickable = true ∨ e.bounds.SumsFit) now

/-- The action clicks what the lookup finds for the selector. -/
inductive StepRunner.Seeks (r : StepRunner) :
    Action → Selector → Attempt (Option Screen.Element) → Prop
  | click {selector : Selector} {timeout : Nat} :
      Seeks r (.click selector timeout) selector (r.lookup.findOnce selector timeout true)
  | waitClick {selector : Selector} {timeout : Nat} :
      Seeks r (.waitClick selector timeout) selector (r.lookup.resolve selector timeout true)

/-- The call that an action has to make for what it found at the end of a log. -/
inductive Aimed (stop : Option Nat) (r : StepRunner) (before : Nat) :
    Action → Log → (now : Nat) → Phone.Call → Prop
  | found {action : Action} {selector : Selector} {lookup : Attempt (Option Screen.Element)}
      {log : Log} {now : Nat} {e : Screen.Element} :
      r.Seeks action selector lookup → Goes stop lookup.run before log (.ok (some e)) now →
      Aimed stop r before action (log ++ leadIn e now) now (clickOf e)
  /-- Recognition is asked when the lookup found nothing. -/
  | fallback {action : Action} {selector : Selector} {lookup : Attempt (Option Screen.Element)}
      {log₁ log₂ : Log} {between now : Nat} {text : String} {d : Screen.Detection} :
      r.Seeks action selector lookup → Goes stop lookup.run before log₁ (.ok none) between →
      r.recognitionFallback = true → selector.literalText = some text →
      Goes stop (r.recognition.matchText text).run between log₂ (.ok (Recognition.ofDetection d))
        now →
      r.recognition.Selects (Text.unquote text) log₂ d →
      Aimed stop r before action (log₁ ++ log₂) now (.tap d.bounds.center)
  | recognised {text : String} {retries : UInt32} {timeout : Option Nat} {log : Log} {now : Nat}
      {d : Screen.Detection} :
      Goes stop (r.recognition.matchWith text retries timeout).run before log
        (.ok (Recognition.ofDetection d)) now →
      r.recognition.Selects (Text.unquote text) log d →
      Aimed stop r before (.clickImage text retries timeout) log now (.tap d.bounds.center)
  | typed {selector : Selector} {text : String} {timeout : Nat} {log : Log} {now : Nat}
      {e : Screen.Element} :
      Goes stop (r.lookup.resolve selector timeout true).run before log (.ok (some e)) now →
      Aimed stop r before (.input selector text timeout) log now (.setText e text)

/-- One call, and what comes of it. -/
inductive Strikes (c : Phone.Call) (now after : Nat) : Log → Except StepError Unit → Prop
  | succeeded {reply : c.Reply} : Strikes c now after [⟨now, .call c, .ok reply, after⟩] (.ok ())
  | failed {failure : Failure} :
      Strikes c now after [⟨now, .call c, .error failure, after⟩] (.error (.ofFailure failure))

/-- One click of an element, and what comes of it. -/
def Clicks (e : Screen.Element) (now after : Nat) (log : Log) (result : Except StepError Unit) :
    Prop :=
  ∃ struck, log = leadIn e now ++ struck ∧ Strikes (clickOf e) now after struck result

/-- What a search for a target may fail with. -/
def StepError.OfSearch : StepError → Prop
  | elementNotFound _ _ | recognitionNotFound _ _ | stopped => True
  | _ => False

theorem StepError.OfRecognition.ofSearch : ∀ {e : StepError}, e.OfRecognition → e.OfSearch
  | recognitionNotFound _ _, _ | stopped, _ => trivial

/-- A call at the target, after a search without gestures, or no gesture at all. -/
inductive Targets (stop : Option Nat) (r : StepRunner) (action : Action) (before : Nat) :
    Log → Except StepError Unit → (after : Nat) → Prop
  | struck {looked log : Log} {now after : Nat} {c : Phone.Call}
      {result : Except StepError Unit} :
      Aimed stop r before action looked now c → gestures looked = [] →
      Strikes c now after log result →
      Targets stop r action before (looked ++ log) result after
  | missed {log : Log} {after : Nat} {e : StepError} :
      gestures log = [] → e.OfSearch → Targets stop r action before log (.error e) after

theorem StepRunner.Seeks.no_gesture {r : StepRunner} {action : Action} {selector : Selector}
    {lookup : Attempt (Option Screen.Element)} {found : Except StepError (Option Screen.Element)}
    (h : r.Seeks action selector lookup) (hgoes : Goes stop lookup.run before log found after) :
    gestures log = [] := by
  cases h with
  | click => exact Lookup.findOnce_no_gesture hgoes
  | waitClick => exact Lookup.resolve_no_gesture hgoes

theorem strikes_of_goes {c : Phone.Call} {result : Except StepError c.Reply}
    (h : Goes stop (Attempt.call c).run before log result after) :
    Strikes c before after log (result.map fun _ => ()) := by
  obtain ⟨answer, rfl, -, rfl⟩ := goes_call.mp h
  cases answer with
  | ok reply => exact .succeeded
  | error failure => exact .failed

theorem map_unit (result : Except StepError Unit) : result.map (fun _ => ()) = result := by
  cases result <;> rfl

theorem clicks_of_goes {e : Screen.Element} {result : Except StepError Unit}
    (h : Goes stop (StepRunner.clickElement e).run before log result after) :
    Clicks e before after log result := by
  rw [← map_unit result]
  unfold StepRunner.clickElement at h
  unfold Clicks clickOf leadIn
  by_cases hclickable : e.clickable = true
  · rw [if_pos hclickable] at h ⊢
    refine ⟨log, ?_, strikes_of_goes h⟩
    rw [overflows_of_fits (.inl hclickable), List.nil_append]
  · rw [if_neg hclickable] at h ⊢
    obtain ⟨struck, rfl, htap⟩ := goes_checked_bind_run.mp h
    refine ⟨struck, ?_, strikes_of_goes htap⟩
    rw [overflows_congr (or_iff_right hclickable)]

theorem gestures_leadIn (e : Screen.Element) (now : Nat) : gestures (leadIn e now) = [] :=
  callsOf_overflows

theorem targets_of_goes_throw {r : StepRunner} {action : Action} {e : StepError} {between : Nat}
    {log₁ log₂ : Log} {result : Except StepError Unit} (hcalm : gestures log₁ = [])
    (h : Goes stop (throw e : Attempt Unit).run between log₂ result after) (he : e.OfSearch) :
    Targets stop r action before (log₁ ++ log₂) result after := by
  obtain ⟨rfl, rfl, rfl⟩ := h
  rw [List.append_nil]
  exact .missed hcalm he

section Clicks

variable {r : StepRunner} {action : Action} {selector : Selector}
  {lookup : Attempt (Option Screen.Element)} {timeout between : Nat} {log₁ log₂ : Log}
  {result : Except StepError Unit}

theorem targets_of_goes_clickRecognised (hseeks : r.Seeks action selector lookup)
    (hlookup : Goes stop lookup.run before log₁ (.ok none) between)
    (hfallback : r.recognitionFallback = true)
    (h : Goes stop (r.clickRecognised selector timeout).run between log₂ result after) :
    Targets stop r action before (log₁ ++ log₂) result after := by
  have hcalm := hseeks.no_gesture hlookup
  unfold StepRunner.clickRecognised at h
  split at h
  · exact targets_of_goes_throw hcalm h trivial
  · next text htext =>
    obtain ⟨log₂, matched, now, log₃, rfl, hmatch, h₃⟩ :=
      (goes_lift_bind_run (p := (r.recognition.matchText text).run)).mp h
    have hcalm' : gestures (log₁ ++ log₂) = [] := by
      rw [gestures_append, hcalm, r.recognition.matchWith_no_gesture hmatch]
      rfl
    rw [← List.append_assoc]
    cases matched with
    | ok found =>
      obtain ⟨d, hd, rfl⟩ := r.recognition.matchWith_selects hmatch
      rw [← map_unit result]
      exact .struck (.fallback hseeks hlookup hfallback htext hmatch hd) hcalm' (strikes_of_goes h₃)
    | error e =>
      have he := r.recognition.matchWith_failsOnly _ _ _ _ _ _ _ _ hmatch
      cases e with
      | recognitionNotFound _ _ | stopped => exact targets_of_goes_throw hcalm' h₃ trivial
      | _ => exact he.elim

/-- A click goes to what the lookup found. If it found nothing, recognition may take over. -/
theorem targets_of_goes_click (hseeks : r.Seeks action selector lookup)
    (hfails : FailsOnly (· = .stopped) lookup)
    (h : Goes stop (lookup >>= r.clickFound selector timeout).run before log result after) :
    Targets stop r action before log result after := by
  rcases goes_bind_run.mp h with ⟨e, rfl, hlookup⟩ | ⟨log₁, found, between, log₂, rfl, hlookup, h₂⟩
  · cases hfails _ _ _ _ _ hlookup
    exact .missed (hseeks.no_gesture hlookup) trivial
  · unfold StepRunner.clickFound at h₂
    cases found with
    | some e =>
      obtain ⟨struck, rfl, hstrikes⟩ := clicks_of_goes h₂
      rw [← List.append_assoc]
      refine .struck (.found hseeks hlookup) ?_ hstrikes
      rw [gestures_append, hseeks.no_gesture hlookup, gestures_leadIn]
      rfl
    | none =>
      dsimp only at h₂
      split at h₂
      case isTrue hfallback => exact targets_of_goes_clickRecognised hseeks hlookup hfallback h₂
      case isFalse => exact targets_of_goes_throw (hseeks.no_gesture hlookup) h₂ trivial

end Clicks

theorem targets_of_goes_act {r : StepRunner} {task : Task} {action : Action}
    {result : Except StepError Unit} (haction : action.IsTargeting)
    (h : Goes stop (r.act task action).run before log result after) :
    Targets stop r action before log result after := by
  cases action with
  | click selector timeout =>
    exact targets_of_goes_click .click (r.lookup.findOnce_failsOnly selector timeout) h
  | waitClick selector timeout =>
    exact targets_of_goes_click .waitClick (r.lookup.resolve_failsOnly selector timeout) h
  | clickImage text retries timeout =>
    rcases goes_bind_run.mp h with ⟨e, rfl, hmatch⟩ | ⟨log₁, found, between, log₂, rfl, hmatch, h₂⟩
    · have he := r.recognition.matchWith_failsOnly _ _ _ _ _ _ _ _ hmatch
      exact .missed (r.recognition.matchWith_no_gesture hmatch) he.ofSearch
    · obtain ⟨d, hd, rfl⟩ := r.recognition.matchWith_selects hmatch
      rw [← map_unit result]
      exact .struck (.recognised hmatch hd) (r.recognition.matchWith_no_gesture hmatch)
        (strikes_of_goes h₂)
  | input selector text timeout =>
    rcases goes_bind_run.mp h with
      ⟨e, rfl, hlookup⟩ | ⟨log₁, found, between, log₂, rfl, hlookup, h₂⟩
    · cases r.lookup.resolve_failsOnly _ _ _ _ _ _ _ hlookup
      exact .missed (Lookup.resolve_no_gesture hlookup) trivial
    · have hcalm := Lookup.resolve_no_gesture hlookup
      cases found with
      | some e =>
        rw [← map_unit result]
        exact .struck (.typed hlookup) hcalm (strikes_of_goes h₂)
      | none => exact targets_of_goes_throw hcalm h₂ trivial
  | _ => exact haction.elim

/-! ### At most one gesture -/

theorem Aimed.isGesture {r : StepRunner} {action : Action} {now : Nat} {c : Phone.Call}
    (h : Aimed stop r before action log now c) : c.isGesture = true := by
  cases h with
  | found => unfold clickOf; split <;> rfl
  | fallback | recognised | typed => rfl

theorem gestures_singleton {now : Nat} {c : Phone.Call} {answer : Except Failure c.Reply}
    (h : c.isGesture = true) :
    gestures [⟨now, .call c, answer, after⟩] = [⟨now, .call c, answer, after⟩] := by
  simp [gestures, Exchange.call?, h]

/-- What a step that aims at a target may come to. -/
structure OneGesture (stop : Option Nat) (r : StepRunner) (action : Action) (before : Nat)
    (log : Log) (result : Except StepError Unit) (after : Nat) : Prop where
  /-- A step that succeeds ends with its only gesture, which succeeded. -/
  succeeded : result = .ok () → ∃ looked c now reply,
    log = looked ++ [⟨now, .call c, .ok reply, after⟩] ∧
      gestures log = [⟨now, .call c, .ok reply, after⟩] ∧
      Aimed stop r before action looked now c
  failed : ∀ problem, result = .error (.device problem) → ∃ looked c now failure,
    log = looked ++ [⟨now, .call c, .error failure, after⟩] ∧
      gestures log = [⟨now, .call c, .error failure, after⟩] ∧
      Aimed stop r before action looked now c ∧ problem = failure.chain
  missed : ∀ e, result = .error e → (∀ problem, e ≠ .device problem) →
    gestures log = [] ∧ e.OfSearch

theorem Targets.oneGesture {r : StepRunner} {action : Action} {result : Except StepError Unit}
    (h : Targets stop r action before log result after) :
    OneGesture stop r action before log result after := by
  cases h with
  | @struck looked struck now _ c _ haimed hcalm hstrikes =>
    have hone : gestures (looked ++ struck) = struck := by
      rw [gestures_append, hcalm, List.nil_append]
      cases hstrikes <;> exact gestures_singleton haimed.isGesture
    cases hstrikes with
    | @succeeded reply =>
      exact ⟨fun _ => ⟨looked, c, now, reply, rfl, hone, haimed⟩, nofun, nofun⟩
    | @failed failure =>
      refine ⟨nofun, ?_, ?_⟩
      · rintro _ ⟨⟩
        exact ⟨looked, c, now, failure, rfl, hone, haimed, rfl⟩
      · rintro _ ⟨⟩ hne
        exact absurd rfl (hne failure.chain)
  | missed hcalm he =>
    refine ⟨nofun, ?_, ?_⟩
    · rintro _ ⟨⟩
      exact he.elim
    · rintro _ ⟨⟩ -
      exact ⟨hcalm, he⟩

/-- However the phone answers and whenever a stop comes, a step that clicks or types makes one
gesture at its target, as the last thing it does, or fails without any. A step that waits for an
element makes none. -/
theorem runStep_targets {r : StepRunner} {task : Task} {step : Step} {action : Action}
    (hstep : step.action = .ok action) (stop : Option Nat) (before : Nat) :
    (action.IsTargeting → ∀ log result after,
        Goes stop (r.runStep task step).run before log result after →
          OneGesture stop r action before log result after) ∧
      ∀ selector timeout, action = .waitExists selector timeout → ∀ log result after,
        Goes stop (r.runStep task step).run before log result after → gestures log = [] := by
  unfold StepRunner.runStep
  rw [hstep]
  constructor
  · intro haction log result after hgoes
    exact (targets_of_goes_act haction hgoes).oneGesture
  · rintro selector timeout rfl log result after hgoes
    rcases goes_bind_run.mp hgoes with
      ⟨e, rfl, hlookup⟩ | ⟨log₁, found, between, log₂, rfl, hlookup, h₂⟩
    · exact Lookup.resolve_no_gesture hlookup
    · rw [gestures_append, Lookup.resolve_no_gesture hlookup]
      cases found <;>
      · obtain ⟨rfl, -, -⟩ := h₂
        rfl

/-- A button that is there is clicked once. -/
theorem runStep_targets_signIn :
    let action : Action := .click (.one (.text "Sign In")) 500
    let step : Step := ⟨"sign in", "click", .ok action⟩
    step.action = .ok action ∧ action.IsTargeting ∧
      ∃ log, Goes none (Scheduler.standard.steps.runStep imageTask step).run 0 log (.ok ()) 20 ∧
        (gestures log).length = 1 := by
  intro action step
  let button : Screen.Element := ⟨"Sign In", "", "", "", true, ⟨0, 0, 100, 40⟩⟩
  have hgoes : ∃ log,
      Goes none (Scheduler.standard.steps.runStep imageTask step).run 0 log (.ok ()) 20 := by
    have hlook : Meets none 0 (.query (.findAll (.one (.text "Sign In"))) true (some 500))
        (.answered (.ok [button])) 5 := ⟨by decide, by simp, nofun⟩
    have hclick : Meets none 5 (.call (.click button)) (.ok ()) 20 :=
      show 5 ≤ 20 by decide
    have hend : Goes none (.done (.ok ())) 20 [] (.ok () : Except StepError Unit) 20 :=
      ⟨rfl, rfl, rfl⟩
    exact ⟨_, .ask ⟨rfl, rfl⟩ (.ask ⟨rfl, rfl⟩ (.ask hlook (.ask hclick hend)))⟩
  obtain ⟨log, hgoes⟩ := hgoes
  have hstep : step.action = .ok action := rfl
  have hone := (runStep_targets hstep none 0).1 trivial log (.ok ()) 20 hgoes
  obtain ⟨_, _, _, _, -, hgestures, -⟩ := hone.succeeded rfl
  exact ⟨hstep, trivial, log, hgoes, by rw [hgestures]; rfl⟩

end Run

end CheckIn
