import CheckIn.Proofs.Run.Cards
import CheckIn.Proofs.Run.ClickLoop
import CheckIn.Proofs.Screen.Center

/-! Taps. A step taps what a lookup or recognition came to just before, and leaving an app taps a
card. Either taps the center of the bounds. If the edges of these are in order then the center lies
between them exactly if the sums of opposite edges are numbers of 32 bits, and else the program has
found before the tap that they are not. -/

namespace CheckIn

def Phone.Call.isTap : Phone.Call → Bool
  | tap _ => true
  | _ => false

namespace Run

open Process

open Phone.Call (isTap isTouch)

open Screen (Rect)

variable {stop : Option Nat} {before after now : Nat} {earlier log : Log} {r : StepRunner}
  {task : Task} {result : Except StepError Unit}

/-! ### What is tapped -/

/-- The lookup at the end of a log came to an element, whose center was needed then. -/
inductive Lookup.Finds (stop : Option Nat) (l : Lookup) (earlier : Log) (now : Nat)
    (e : Screen.Element) : Prop
  | once {selector : Selector} {timeout began : Nat} {heed : Bool} {log : Log} :
      log ++ overflows e.bounds.SumsFit now <:+ earlier →
      Goes stop (l.findOnce selector timeout heed).run began log (.ok (some e)) now →
      Finds stop l earlier now e
  | polled {selector : Selector} {timeout began : Nat} {heed : Bool} {log : Log} :
      log ++ overflows e.bounds.SumsFit now <:+ earlier →
      Goes stop (l.resolve selector timeout heed).run began log (.ok (some e)) now →
      Finds stop l earlier now e

/-- What a step taps: an element without a click of its own, or a text. -/
inductive StepRunner.Sights (stop : Option Nat) (r : StepRunner) (earlier : Log) (now : Nat) :
    Rect → Prop
  | element {e : Screen.Element} :
      r.lookup.Finds stop earlier now e → e.clickable = false → Sights stop r earlier now e.bounds
  | text {d : Screen.Detection} {text : String} {retries : UInt32} {budget : Option Nat}
      {began : Nat} {log : Log} :
      log <:+ earlier →
      Goes stop (r.recognition.matchWith text retries budget).run began log
        (.ok (Recognition.ofDetection d)) now →
      r.recognition.Selects (Text.unquote text) log d → Sights stop r earlier now d.bounds

/-- The call taps the center of bounds. If the edges are in order then it lands within them exactly
if the sums of opposite edges fit their words, and it comes after an overflow if they do not. -/
def Exchange.TapsIn (earlier : Log) (x : Exchange) (bounds : Rect) : Prop :=
  ∃ p, x.request = .call (.tap p) ∧ p = bounds.center ∧
    (bounds.IsOrdered → (bounds.contains p = true ↔ bounds.SumsFit)) ∧
    (¬bounds.SumsFit → Overflowed earlier x.made)

theorem tapsIn_center {x : Exchange} {bounds : Rect} (h : x.request = .call (.tap bounds.center))
    (hover : ¬bounds.SumsFit → Overflowed earlier x.made) : x.TapsIn earlier bounds :=
  ⟨_, h, rfl, Rect.contains_center_iff, hover⟩

/-- The call taps what the step came to just before. -/
def StepRunner.Aims (stop : Option Nat) (r : StepRunner) (earlier : Log) (x : Exchange) : Prop :=
  ∃ bounds, r.Sights stop earlier x.made bounds ∧ x.TapsIn earlier bounds

/-- The call taps a card that leaving an app came to just before. -/
def Teardown.Aims (stop : Option Nat) (t : Teardown) (earlier : Log) (x : Exchange) : Prop :=
  ∃ card, t.lookup.Finds stop earlier x.made card ∧ x.TapsIn earlier card.bounds

/-- The center of what was found was needed, so its sums have overflowed if they do not fit. -/
theorem Lookup.Finds.overflowed {l : Lookup} {e : Screen.Element}
    (h : l.Finds stop earlier now e) (hwide : ¬e.bounds.SumsFit) : Overflowed earlier now := by
  cases h with
  | once hsuffix _ | polled hsuffix _ =>
    exact (overflowed_of_not_fits hwide).of_suffix ((List.suffix_append ..).trans hsuffix)

theorem StepRunner.Sights.overflowed {bounds : Rect} (h : r.Sights stop earlier now bounds)
    (hwide : ¬bounds.SumsFit) : Overflowed earlier now := by
  cases h with
  | element hfinds _ => exact hfinds.overflowed hwide
  | text hsuffix hgoes hselects =>
    obtain ⟨d, hselects', -, hover⟩ := Recognition.matchWith_discovers hgoes
    obtain rfl := hselects.unique hselects'
    exact (hover hwide).of_suffix hsuffix

theorem Lookup.Finds.prepend {l : Lookup} {e : Screen.Element} (h : l.Finds stop earlier now e)
    (log : Log) : l.Finds stop (log ++ earlier) now e := by
  cases h with
  | once hsuffix hgoes => exact .once (hsuffix.trans (List.suffix_append ..)) hgoes
  | polled hsuffix hgoes => exact .polled (hsuffix.trans (List.suffix_append ..)) hgoes

theorem StepRunner.Aims.prepend {x : Exchange} (h : r.Aims stop earlier x) (log : Log) :
    r.Aims stop (log ++ earlier) x := by
  obtain ⟨bounds, hsights, p, hp, hcenter, hlands, hover⟩ := h
  refine ⟨bounds, ?_, p, hp, hcenter, hlands, fun hwide => ?_⟩
  · cases hsights with
    | element hfinds hclickable => exact .element (hfinds.prepend log) hclickable
    | text hsuffix hgoes hselects =>
      exact .text (hsuffix.trans (List.suffix_append ..)) hgoes hselects
  · exact (hover hwide).of_suffix (List.suffix_append ..)

/-! ### Clicks -/

theorem isTap_eq_true {c : Phone.Call} (h : c.isTap = true) : ∃ p, c = .tap p := by
  cases c <;> first | exact ⟨_, rfl⟩ | cases h

theorem callsOf_isTap (h : gestures log = []) : callsOf isTap log = [] := by
  refine List.filter_eq_nil_iff.mpr fun x hx htap => List.filter_eq_nil_iff.mp h x hx ?_
  obtain ⟨c, hcall, hc⟩ := (Option.any_eq_true _ _).mp htap
  obtain ⟨p, rfl⟩ := isTap_eq_true hc
  exact (Option.any_eq_true _ _).mpr ⟨_, hcall, rfl⟩

/-- What is struck after a search is tapped where it was seen, if it is tapped at all. -/
theorem issues_of_strikes {c : Phone.Call} {looked struck later : Log}
    (hlooked : gestures looked = [])
    (hc : c.isTap = true → ∃ bounds, r.Sights stop looked now bounds ∧ c = .tap bounds.center)
    (h : Strikes c now after struck result) (hlater : gestures later = []) :
    Issues isTap (r.Aims stop) (looked ++ (struck ++ later)) := by
  obtain ⟨answer, rfl⟩ : ∃ answer, struck = [⟨now, .call c, answer, after⟩] := by
    cases h <;> exact ⟨_, rfl⟩
  cases htap : c.isTap with
  | true =>
    obtain ⟨bounds, hsights, rfl⟩ := hc htap
    exact issues_cons (callsOf_isTap hlooked)
      ⟨bounds, hsights, tapsIn_center rfl hsights.overflowed⟩ (callsOf_isTap hlater)
  | false =>
    have hstruck : callsOf isTap [⟨now, .call c, answer, after⟩] = [] :=
      callsOf_eq_nil fun x hx => List.mem_singleton.mp hx ▸ htap
    refine issues_of_nil ?_
    rw [callsOf_append, callsOf_append, callsOf_isTap hlooked, hstruck, callsOf_isTap hlater]
    rfl

/-- An element is tapped only if it has no click of its own. -/
theorem sights_of_clickOf {e : Screen.Element}
    (h : log ++ overflows e.bounds.SumsFit now <:+ log ++ leadIn e now →
      r.lookup.Finds stop (log ++ leadIn e now) now e) (htap : (clickOf e).isTap = true) :
    ∃ bounds, r.Sights stop (log ++ leadIn e now) now bounds ∧
      clickOf e = .tap bounds.center := by
  cases hclickable : e.clickable with
  | true =>
    unfold clickOf at htap
    rw [hclickable] at htap
    cases htap
  | false =>
    have hlead : leadIn e now = overflows e.bounds.SumsFit now :=
      overflows_congr (or_iff_right (by simp [hclickable]))
    refine ⟨e.bounds, .element (h (hlead ▸ List.suffix_refl _)) hclickable, ?_⟩
    unfold clickOf
    rw [hclickable]
    rfl

theorem sights_of_aimed {action : Action} {looked : Log} {c : Phone.Call}
    (h : Aimed stop r before action looked now c) (htap : c.isTap = true) :
    ∃ bounds, r.Sights stop looked now bounds ∧ c = .tap bounds.center := by
  cases h with
  | found hseeks hgoes =>
    cases hseeks with
    | click => exact sights_of_clickOf (.once · hgoes) htap
    | waitClick => exact sights_of_clickOf (.polled · hgoes) htap
  | fallback _ _ _ _ hgoes hselects =>
    exact ⟨_, .text (List.suffix_append ..) hgoes hselects, rfl⟩
  | recognised hgoes hselects => exact ⟨_, .text (List.suffix_refl _) hgoes hselects, rfl⟩
  | typed => cases htap

theorem issues_of_targets {action : Action}
    (h : Targets stop r action before log result after) : Issues isTap (r.Aims stop) log := by
  cases h with
  | missed hcalm => exact issues_of_nil (callsOf_isTap hcalm)
  | @struck looked log _ _ _ _ haimed hcalm hstrikes =>
    have hissues : Issues isTap (r.Aims stop) (looked ++ (log ++ [])) :=
      issues_of_strikes hcalm (sights_of_aimed haimed) hstrikes rfl
    rwa [List.append_nil] at hissues

/-! ### Click loops -/

variable {selector : Selector} {dwell rounds clicks : Nat}

theorem seek_no_gesture {u : Lookup.Look} (h : u.Of stop (r.seek selector).run) :
    gestures u.log = [] :=
  Lookup.findOnce_no_gesture h

/-- After a lookup of a click loop, what it found is clicked. -/
theorem issues_of_clicks {u : Lookup.Look} {e : Screen.Element} {clicked : Nat}
    {struck later : Log} (hlook : u.Of stop (r.seek selector).run)
    (hfound : u.result = .ok (some e)) (h : Clicks e u.ended clicked struck result)
    (hlater : gestures later = []) : Issues isTap (r.Aims stop) (u.log ++ (struck ++ later)) := by
  have hgoes : Goes stop (r.seek selector).run u.began u.log (.ok (some e)) u.ended :=
    hfound ▸ hlook
  obtain ⟨struck, rfl, hstrikes⟩ := h
  have hlooked : gestures (u.log ++ leadIn e u.ended) = [] := by
    rw [gestures_append, seek_no_gesture hlook, gestures_leadIn]
    rfl
  rw [List.append_assoc, ← List.append_assoc]
  exact issues_of_strikes hlooked (sights_of_clickOf (.once · hgoes)) hstrikes hlater

theorem issues_of_ends {u : Lookup.Look} (hlook : u.Of stop (r.seek selector).run)
    (h : Ends stop selector dwell clicks u log result after) :
    Issues isTap (r.Aims stop) (u.log ++ log) := by
  have hcalm := callsOf_isTap (seek_no_gesture hlook)
  cases h with
  | vanished _ | unseen _ => exact issues_of_nil (by rw [callsOf_append, hcalm]; rfl)
  | retry hfound hstrikes _ | dwelling hfound hstrikes _ | stuck hfound hstrikes _
  | returning hfound hstrikes _ _ => exact issues_of_clicks hlook hfound hstrikes rfl

theorem issues_of_loops {looks : List Lookup.Look} {us : List ClickRound}
    (h : Loops stop r selector dwell rounds clicks before looks us log result after) :
    Issues isTap (r.Aims stop) (us.flatMap ClickRound.log ++ log) := by
  induction h with
  | capped => exact issues_of_nil rfl
  | last hlook hends => exact issues_of_ends hlook hends
  | @again _ _ u _ us log _ _ hround _ ih =>
    obtain ⟨e, hfound, hbegan, hstrikes⟩ := hround.clicked
    have hrest : gestures u.rest = [] :=
      List.eq_nil_of_length_eq_zero hround.recovered.counts.tried
    have hissues : Issues isTap (r.Aims stop) u.log :=
      issues_of_clicks hround.looked hfound (hbegan ▸ hstrikes) hrest
    rw [List.flatMap_cons, List.append_assoc]
    exact hissues.append ih fun _ _ hx => hx.prepend u.log

/-! ### Steps -/

section Calm

variable {W : Surroundings interface Nat}

theorem launchApp_asks_calm (r : StepRunner) (package : String) (timeout : Nat) :
    (r.launchApp package timeout).run.Asks W fun _ => Request.IsCalm := by
  unfold StepRunner.launchApp
  refine Asks.bind_run (Asks.lift_run (asks_perform fun _ => rfl)) fun answer => ?_
  rcases answer with failure | _
  case' error =>
    refine Asks.bind_run (Asks.lift_run (tell_asks fun _ => trivial)) fun _ => ?_
    refine Asks.bind_run (Asks.lift_run (tell_asks fun _ => trivial)) fun _ => ?_
  all_goals
    refine Asks.bind_run (pause_asks fun _ => trivial) fun _ => ?_
    refine Asks.bind_run (Asks.lift_run (tell_asks fun _ => trivial)) fun _ => ?_
    exact Asks.bind_run (call_asks fun _ => rfl) fun _ => pause_asks fun _ => trivial

theorem swipe_asks_calm (r : StepRunner) (start finish : Screen.Point) (duration : Nat) :
    (r.swipe start finish duration).run.Asks W fun _ => Request.IsCalm := by
  unfold StepRunner.swipe
  refine Asks.bind_run (Asks.lift_run (asks_perform fun _ => trivial)) fun _ => ?_
  refine Asks.bind_run (call_asks fun _ => rfl) fun _ => ?_
  refine Asks.bind_run (Asks.lift_run (asks_perform fun _ => trivial)) fun _ => ?_
  exact pause_asks fun _ => trivial

theorem swipeTimes_asks_calm (r : StepRunner) (start finish : Screen.Point)
    (duration count : Nat) :
    (r.swipeTimes start finish duration count).run.Asks W fun _ => Request.IsCalm := by
  induction count with
  | zero => exact asks_done _
  | succ count ih =>
    unfold StepRunner.swipeTimes
    refine Asks.bind_run (check_asks fun _ => trivial) fun _ => ?_
    exact Asks.bind_run (swipe_asks_calm r start finish duration) fun _ => ih

theorem pageSwipe_asks_calm (r : StepRunner) (up : Bool) (count : UInt32) (duration : Nat) :
    (r.pageSwipe up count duration).run.Asks W fun _ => Request.IsCalm := by
  unfold StepRunner.pageSwipe
  refine Asks.bind_run (call_asks fun _ => rfl) fun _ => ?_
  refine Asks.bind_run (Asks.lift_run (checked_asks fun _ => trivial)) fun _ => ?_
  dsimp only
  split <;> exact swipeTimes_asks_calm r _ _ _ _

/-- Actions that neither click nor type make no gesture. -/
theorem act_asks_calm (r : StepRunner) (task : Task) {action : Action}
    (htargeting : ¬action.IsTargeting)
    (hloop : ∀ selector dwell, action ≠ .clickLoop selector dwell) :
    (r.act task action).run.Asks W fun _ => Request.IsCalm := by
  cases action with
  | click | waitClick | clickImage | input => exact absurd trivial htargeting
  | clickLoop => exact absurd rfl (hloop _ _)
  | launch timeout => exact launchApp_asks_calm r task.package timeout
  | waitExists selector timeout =>
    have hresolve : (r.lookup.resolve selector timeout true).run.Asks W fun _ => Request.IsCalm :=
      (r.lookup.resolve_asks selector timeout).mono fun _ _ hq => hq.isCalm
    refine Asks.bind_run hresolve fun found => ?_
    cases found <;> exact asks_done _
  | swipe start finish duration => exact swipe_asks_calm r start finish duration
  | swipeUp count duration => exact pageSwipe_asks_calm r true count duration
  | swipeDown count duration => exact pageSwipe_asks_calm r false count duration
  | back | home => exact Asks.bind_run (call_asks fun _ => rfl) fun _ => pause_asks fun _ => trivial
  | sleep duration => exact pause_asks fun _ => trivial
  | screenshot template =>
    refine Asks.bind_run (Asks.lift_run (asks_perform fun _ => trivial)) fun _ => ?_
    refine Asks.bind_run (call_asks fun _ => rfl) fun _ => ?_
    exact Asks.lift_run (tell_asks fun _ => trivial)

end Calm

theorem issues_of_goes_runStep {step : Step}
    (h : Goes stop (r.runStep task step).run before log result after) :
    Issues isTap (r.Aims stop) log := by
  unfold StepRunner.runStep at h
  split at h
  · next action _ =>
    -- What clicks or types has one target, a click loop has one a round, and nothing else taps.
    by_cases htargeting : action.IsTargeting
    · exact issues_of_targets (targets_of_goes_act htargeting h)
    · by_cases hloop : ∃ selector dwell, action = .clickLoop selector dwell
      · obtain ⟨selector, dwell, rfl⟩ := hloop
        obtain ⟨looks, us, last, rfl, hloops⟩ := looped_of_goes h
        exact issues_of_loops hloops
      · have hasks : (r.act task action).run.Asks (Meets stop) fun _ => Request.IsCalm :=
          act_asks_calm r task htargeting fun selector dwell heq => hloop ⟨selector, dwell, heq⟩
        exact issues_of_nil (callsOf_isTap (gestures_eq_nil (h.asks (hasks before))))
  · obtain ⟨rfl, -, -⟩ := h
    exact issues_of_nil rfl

/-! ### Leaving an app -/

theorem Teardown.Aims.of_touchesCard {t : Teardown} {x : Exchange} (htap : x.call?.any isTap = true)
    (h : TouchesCard stop t task earlier x) : t.Aims stop earlier x := by
  rcases h with
    ⟨u, card, answer, met, -, -, -, rfl⟩ | ⟨u, card, answer, met, hsuffix, hfinds, -, rfl⟩
  · cases htap
  · have hgoes : Goes stop (t.seekCard t.settings.hostLabel).run u.began u.log (.ok (some card))
        u.ended := hfinds.found ▸ hfinds.looked
    have hfinds : t.lookup.Finds stop earlier u.ended card := .polled hsuffix hgoes
    exact ⟨card, hfinds, tapsIn_center rfl hfinds.overflowed⟩

theorem Teardown.touches_of_goes {t : Teardown} {warnings : List StepError}
    (h : Goes stop (t.run task) before log warnings after) :
    Touches (TouchesCard stop t task) log := by
  cases henabled : t.settings.enabled with
  | false =>
    unfold run at h
    rw [henabled] at h
    obtain ⟨rfl, -, -⟩ := h
    exact touches_of_nil rfl
  | true =>
    obtain ⟨u, v, helped, told, dismissal, more, rfl, rfl, -, hdismisses, hv, -, rfl⟩ :=
      goes_run henabled h
    have hdismissed : Dismissed stop t task u.began u.log u.result :=
      dismissed_of_goes hdismisses.dismissed
    have hreturned : Returned stop t v.began v.log v.result := returned_of_goes hv
    have hdismissal := hdismissed.touches.append
      (touches_of_nil (hdismisses.only_home isTouch rfl)) fun _ _ hx => hx.prepend _
    have hboth := hdismissal.append hreturned.touches fun _ _ hx => hx.prepend _
    exact hboth.append (touches_of_nil (callsOf_tellings _ _)) fun _ _ hx => hx.prepend _

theorem Teardown.issues_of_goes {t : Teardown} {warnings : List StepError}
    (h : Goes stop (t.run task) before log warnings after) : Issues isTap (t.Aims stop) log := by
  intro earlier x later hlog htap
  obtain ⟨c, hcall, hc⟩ := (Option.any_eq_true _ _).mp htap
  obtain ⟨p, rfl⟩ := isTap_eq_true hc
  have htouch : x.call?.any isTouch = true := (Option.any_eq_true _ _).mpr ⟨_, hcall, rfl⟩
  exact .of_touchesCard htap (touches_of_goes h earlier x later hlog htouch)

/-- A click of an element without a click of its own never overflows exactly if the sums of opposite
edges fit their words. -/
theorem clickElement_neverOverflows_iff {e : Screen.Element} (hclickable : e.clickable = false) :
    NeverOverflows stop (StepRunner.clickElement e).run before ↔ e.bounds.SumsFit := by
  unfold StepRunner.clickElement
  rw [if_neg (by simp [hclickable]), neverOverflows_checked_bind_run]
  exact and_iff_left (call_asks (fun _ => nofun) before)

/-- The center of bounds whose edges are in order is their middle, and lies in them, exactly if the
sums of opposite edges fit their words, and only then it can be tapped without an overflow. Whatever
the phone does and whenever a stop comes, a step and leaving an app tap nothing but the center of
bounds that were found just before, and only after an overflow if the sums do not fit. -/
theorem taps_land (bounds : Rect) (hordered : bounds.IsOrdered) (stop : Option Nat)
    (before : Nat) (log : Log) (after : Nat) :
    (bounds.IsMiddle bounds.center ↔ bounds.SumsFit) ∧
      (bounds.contains bounds.center = true ↔ bounds.SumsFit) ∧
      (∀ e : Screen.Element, e.clickable = false → e.bounds = bounds →
        (NeverOverflows stop (StepRunner.clickElement e).run before ↔ bounds.SumsFit)) ∧
      (∀ (r : StepRunner) (task : Task) (step : Step) (result : Except StepError Unit),
        Goes stop (r.runStep task step).run before log result after →
          Issues isTap (r.Aims stop) log) ∧
      ∀ (t : Teardown) (task : Task) (warnings : List StepError),
        Goes stop (t.run task) before log warnings after → Issues isTap (t.Aims stop) log :=
  ⟨Rect.isMiddle_center_iff, Rect.contains_center_iff hordered,
    fun _ hclickable hbounds => hbounds ▸ clickElement_neverOverflows_iff hclickable,
    fun _ _ _ _ => issues_of_goes_runStep, fun _ _ _ => Teardown.issues_of_goes⟩

/-- A phone can show a button that has no click of its own, so that its center is needed. -/
theorem reaches_clickElement (bounds : Rect) :
    let step : Step := ⟨"sign in", "click", .ok (.click (.one (.text "Sign In")) 500)⟩
    let button : Screen.Element := ⟨"Sign In", "", "", "", false, bounds⟩
    ∃ log, Reaches none (Scheduler.standard.steps.runStep imageTask step).run 0 log
      (StepRunner.clickElement button).run 5 := by
  intro step button
  have hlook : Meets none 0 (.query (.findAll (.one (.text "Sign In"))) true (some 500))
      (.answered (.ok [button])) 5 := ⟨by decide, by simp, nofun⟩
  have hclick : Reaches none (StepRunner.clickElement button).run 5 []
      (StepRunner.clickElement button).run 5 := .here
  exact ⟨_, .later ⟨rfl, rfl⟩ (.later ⟨rfl, rfl⟩ (.later hlook hclick))⟩

theorem goes_clickElement {e : Screen.Element} (hclickable : e.clickable = false)
    (hfits : e.bounds.SumsFit) (hle : before ≤ after) :
    Goes stop (StepRunner.clickElement e).run before
      [⟨before, .call (.tap e.center), .ok (), after⟩] (.ok ()) after := by
  unfold StepRunner.clickElement
  rw [if_neg (by simp [hclickable])]
  refine goes_checked_bind_run.mpr ⟨_, ?_, goes_call.mpr ⟨.ok (), rfl, hle, rfl⟩⟩
  rw [overflows_of_fits hfits]
  rfl

theorem exists_tap {bounds : Rect} {p : Screen.Point} (hfits : bounds.SumsFit)
    (hcenter : bounds.center = p) :
    let step : Step := ⟨"sign in", "click", .ok (.click (.one (.text "Sign In")) 500)⟩
    ∃ log, Goes none (Scheduler.standard.steps.runStep imageTask step).run 0 log (.ok ()) 20 ∧
      ⟨5, .call (.tap p), .ok (), 20⟩ ∈ log := by
  subst hcenter
  obtain ⟨log, hreaches⟩ := reaches_clickElement bounds
  have hclick : Goes none (StepRunner.clickElement ⟨"Sign In", "", "", "", false, bounds⟩).run 5
      [⟨5, .call (.tap bounds.center), .ok (), 20⟩] (.ok ()) 20 :=
    goes_clickElement rfl hfits (by decide)
  exact ⟨_, hreaches.goes hclick, List.mem_append_right _ (.head _)⟩

/-- The element is not tapped if a sum for its center does not fit its word. -/
theorem clickElement_overflows {e : Screen.Element} (hclickable : e.clickable = false)
    (hwide : ¬e.bounds.SumsFit) :
    ∃ next, (StepRunner.clickElement e).run = .ask (I := interface) .overflow next := by
  unfold StepRunner.clickElement Part.checked
  rw [if_neg (by simp [hclickable]), if_neg hwide]
  exact ⟨_, rfl⟩

/-- A button that is partly off the screen is tapped within its bounds. -/
theorem taps_land_signIn :
    let step : Step := ⟨"sign in", "click", .ok (.click (.one (.text "Sign In")) 500)⟩
    let bounds : Rect := ⟨-101, 0, 40, 41⟩
    bounds.IsOrdered ∧ bounds.contains ⟨-30, 20⟩ = true ∧ ∃ log,
      Goes none (Scheduler.standard.steps.runStep imageTask step).run 0 log (.ok ()) 20 ∧
        Issues isTap (Scheduler.standard.steps.Aims none) log ∧
        ⟨5, .call (.tap ⟨-30, 20⟩), .ok (), 20⟩ ∈ log := by
  intro step bounds
  have hordered : bounds.IsOrdered := ⟨by decide, by decide⟩
  have hcenter : bounds.center = ⟨-30, 20⟩ := by decide
  have hfits : bounds.SumsFit := ⟨by decide, by decide⟩
  obtain ⟨log, hgoes, htap⟩ := exists_tap hfits hcenter
  obtain ⟨-, hlands, -, hsteps, -⟩ := taps_land bounds hordered none 0 log 20
  have hcontains := hlands.mpr hfits
  rw [hcenter] at hcontains
  exact ⟨hordered, hcontains, log, hgoes, hsteps _ _ _ _ hgoes, htap⟩

/-- A button that is so far to the right that a sum does not fit its word is not tapped: the program
ends with an overflow instead. -/
theorem tap_overflows :
    let step : Step := ⟨"sign in", "click", .ok (.click (.one (.text "Sign In")) 500)⟩
    let bounds : Rect := ⟨2000000000, 0, 2000000100, 40⟩
    bounds.IsOrdered ∧ bounds.contains ⟨2000000050, 20⟩ = true ∧ ∃ log next,
      Reaches none (Scheduler.standard.steps.runStep imageTask step).run 0 log
        (.ask (I := interface) .overflow next) 5 := by
  intro step bounds
  have hwide : ¬bounds.SumsFit := fun hfits => absurd hfits.1 (by decide)
  obtain ⟨log, hreaches⟩ := reaches_clickElement bounds
  obtain ⟨next, hnext⟩ :=
    clickElement_overflows (e := ⟨"Sign In", "", "", "", false, bounds⟩) rfl hwide
  exact ⟨⟨by decide, by decide⟩, by decide, log, next, hnext ▸ hreaches⟩

end Run

end CheckIn
