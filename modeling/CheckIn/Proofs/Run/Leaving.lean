import CheckIn.Proofs.Run.Candidates
import CheckIn.Proofs.Run.Failures

/-! Leaving an app. Its card is swiped away, or home is pressed if that fails, and then the return
to the host app is attempted whatever came before. Each part is turned into what it may come to:
it fails with trouble of leaving and with nothing else, and its log shows why it succeeds. -/

namespace CheckIn

def Phone.Call.isHome : Phone.Call → Bool
  | home => true
  | _ => false

def Phone.Call.isForeground : Phone.Call → Bool
  | foreground => true
  | _ => false

namespace Run

open Process

open Phone.Call (isHome isForeground)

variable {stop : Option Nat} {before after : Nat} {log : Log}

theorem Request.OfDismissal.avoids_home : ∀ {q : Request}, q.OfDismissal → q.Avoids isHome
  | .call .recents, _ | .call (.swipe _ _ _), _ | .query (.findAll _) _ _, _
  | .query .detect _ _, _ => rfl
  | .pause _ _, _ | .now, _ | .sleep _, _ | .isStopped, _ | .overflow, _ => trivial

theorem Request.OfDismissal.avoids_foreground :
    ∀ {q : Request}, q.OfDismissal → q.Avoids isForeground
  | .call .recents, _ | .call (.swipe _ _ _), _ | .query (.findAll _) _ _, _
  | .query .detect _ _, _ => rfl
  | .pause _ _, _ | .now, _ | .sleep _, _ | .isStopped, _ | .overflow, _ => trivial

/-! ### Cards -/

namespace Lookup

theorem resolve_failsOnly_unheeding {E : StepError → Prop} (l : Lookup) (selector : Selector)
    (timeout : Nat) : FailsOnly E (l.resolve selector timeout false) := by
  intro stop before log e after hgoes
  have hheed := ((bounds_of_goes hgoes).error e rfl).2.1
  cases hheed

/-- An element that is found was in the answers of the last look. -/
theorem Polls.offers {l : Lookup} {selector : Selector} {heed : Bool} {deadline : Nat}
    {us : List Look} {r : Except StepError (Option Screen.Element)} {card : Screen.Element}
    (h : Polls stop l selector heed deadline before us r after) (hr : r = .ok (some card)) :
    ∃ u ∈ us, List.Forall₂ (fun atom x => x.Offers card atom) selector.atoms u.calls := by
  induction h with
  | stopped | cut => cases hr
  | @last u hlook hlate =>
    rw [Stretch.Of, hr] at hlook
    exact ⟨u, List.mem_singleton_self u, (look_offers hlook).1⟩
  | again _ _ _ _ _ ih =>
    obtain ⟨u, hu, hoffers⟩ := ih hr
    exact ⟨u, List.mem_cons_of_mem _ hu, hoffers⟩

theorem resolve_offers {l : Lookup} {selector : Selector} {heed : Bool} {timeout : Nat}
    {card : Screen.Element}
    (h : Goes stop (l.resolve selector timeout heed).run before log (.ok (some card)) after) :
    ∃ seen ⊆ log, List.Forall₂ (fun atom x => x.Offers card atom) selector.atoms seen := by
  obtain ⟨us, hpolls, hcalls⟩ := polls_of_goes_resolve h
  obtain ⟨u, hu, hoffers⟩ := hpolls.offers rfl
  refine ⟨u.calls, fun x hx => ?_, hoffers⟩
  have hmem : x ∈ calls log := hcalls ▸ List.mem_flatMap_of_mem hu hx
  exact (mem_calls.mp hmem).1

end Lookup

/-- Somewhere in a log the phone was asked for the elements whose description contains `label`, and
`card` was in the answer. -/
def ShowsCard (label : String) (card : Screen.Element) (log : Log) : Prop :=
  ∃ atom, Selector.descContains label = .one atom ∧ ∃ x ∈ log, x.Offers card atom

theorem ShowsCard.append {label : String} {card : Screen.Element} (h : ShowsCard label card log)
    (log' : Log) : ShowsCard label card (log ++ log') := by
  obtain ⟨atom, hatom, x, hx, hoffers⟩ := h
  exact ⟨atom, hatom, x, List.mem_append_left _ hx, hoffers⟩

/-- Trouble with leaving an app. -/
def StepError.OfTeardown : StepError → Prop
  | appLifecycle _ => True
  | _ => False

namespace Teardown

variable {t : Teardown} {task : Task}

theorem exists_descContains (label : String) : ∃ atom, Selector.descContains label = .one atom := by
  unfold Selector.descContains
  dsimp only
  split <;> exact ⟨_, rfl⟩

theorem goes_callFor {what : String} {c : Phone.Call} {r : Except StepError c.Reply}
    (h : Goes stop (callFor what c).run before log r after) :
    ∃ answer : Except Failure c.Reply, log = [⟨before, .call c, answer, after⟩] ∧
      r = answer.mapError fun failure => .appLifecycle s!"{what}: {failure.chain}" := by
  obtain ⟨answer, between, rest, rfl, -, hr⟩ := h
  cases answer <;>
  · obtain ⟨rfl, rfl, rfl⟩ := hr
    exact ⟨_, rfl, rfl⟩

theorem callFor_failsOnly (what : String) (c : Phone.Call) :
    FailsOnly StepError.OfTeardown (callFor what c) := by
  intro stop before log e after hgoes
  obtain ⟨answer, -, he⟩ := goes_callFor hgoes
  cases answer with
  | ok reply => cases he
  | error failure =>
    cases he
    trivial

theorem findCard_failsOnly (t : Teardown) (label missing : String) :
    FailsOnly StepError.OfTeardown (t.findCard label missing) := by
  refine (callFor_failsOnly _ _).bind fun _ => (FailsOnly.lift _).bind fun _ => ?_
  refine (t.lookup.resolve_failsOnly_unheeding _ _).bind fun found => ?_
  cases found with
  | some card => exact .pure card
  | none => exact .throw trivial

theorem findCard_shows {label missing : String} {card : Screen.Element}
    (h : Goes stop (t.findCard label missing).run before log (.ok card) after) :
    ShowsCard label card log := by
  obtain ⟨opened, _, _, _, rfl, -, h⟩ := goes_bind_ok.mp h
  obtain ⟨settled, _, _, _, rfl, -, h⟩ := goes_lift_bind_run.mp h
  obtain ⟨looked, found, _, rest, rfl, hfound, hcard⟩ := goes_bind_ok.mp h
  cases found with
  | none => cases hcard.2.1
  | some found =>
    obtain ⟨rfl, ⟨⟩, rfl⟩ := hcard
    obtain ⟨atom, hatom⟩ := exists_descContains label
    obtain ⟨seen, hseen, hoffers⟩ := Lookup.resolve_offers hfound
    rw [hatom] at hoffers
    obtain ⟨x, _, hoffer, -, rfl⟩ := List.forall₂_cons_left_iff.mp hoffers
    have hx := hseen (List.mem_cons_self ..)
    exact ⟨atom, hatom, x, by simp [hx], hoffer⟩

/-! ### Dismissal -/

/-- A card of the task's app was swiped from its center to the top of the screen. -/
def Swiped (task : Task) (log : Log) : Prop :=
  ∃ card seen made met later, ShowsCard task.label card seen ∧
    log = seen ++ ⟨made, .call (.swipe card.center ⟨card.center.x, 0⟩ cardSwipe), .ok (), met⟩ ::
      later

theorem Swiped.append (h : Swiped task log) (log' : Log) : Swiped task (log ++ log') := by
  obtain ⟨card, seen, made, met, later, hcard, rfl⟩ := h
  exact ⟨card, seen, made, met, later ++ log', hcard, by simp⟩

theorem dismiss_failsOnly (t : Teardown) (task : Task) :
    FailsOnly StepError.OfTeardown (t.dismiss task) := by
  have hswipe (card : Screen.Element) : FailsOnly StepError.OfTeardown (do
      Part.checked card.bounds.SumsFit
      callFor "swiping card" (.swipe card.center ⟨card.center.x, 0⟩ cardSwipe)
      Part.sleep t.settings.recentsSettle) := by
    refine (FailsOnly.lift _).bind fun _ => ?_
    exact (callFor_failsOnly _ _).bind fun _ => FailsOnly.lift _
  refine (t.findCard_failsOnly _ _).bind fun card => ?_
  dsimp only
  split
  · exact (FailsOnly.throw trivial).bind fun _ => hswipe card
  · exact hswipe card

theorem swiped_of_dismiss (h : Goes stop (t.dismiss task).run before log (.ok ()) after) :
    Swiped task log := by
  obtain ⟨looked, card, found, _, rfl, hcard, h⟩ := goes_bind_ok.mp h
  split at h
  · obtain ⟨_, _, _, _, -, ⟨-, hthrown, -⟩, -⟩ := goes_bind_ok.mp h
    cases hthrown
  · obtain ⟨_, rfl, hrest⟩ := goes_checked_bind_run.mp h
    obtain ⟨_, _, met, settled, rfl, hswipe, -⟩ := goes_bind_ok.mp hrest
    obtain ⟨answer, rfl, hr⟩ := goes_callFor hswipe
    cases answer with
    | error failure => cases hr
    | ok reply =>
      refine ⟨card, looked ++ overflows card.bounds.SumsFit found, found, met, settled,
        (findCard_shows hcard).append _, ?_⟩
      rw [List.append_assoc]
      rfl

/-- Home is pressed once, and does not make up for the dismissal that failed. -/
theorem goes_pressHome {warnings : List StepError}
    (h : Goes stop pressHome before log warnings after) :
    (∃ answer, log = [⟨before, .call .home, answer, after⟩]) ∧ warnings.length ≤ 1 ∧
      ∀ e ∈ warnings, e.OfTeardown := by
  obtain ⟨answer, between, rest, rfl, -, hr⟩ := h
  cases answer with
  | ok reply =>
    obtain ⟨rfl, rfl, rfl⟩ := hr
    exact ⟨⟨_, rfl⟩, Nat.zero_le _, nofun⟩
  | error failure =>
    obtain ⟨rfl, rfl, rfl⟩ := hr
    refine ⟨⟨_, rfl⟩, Nat.le_refl _, fun e he => ?_⟩
    rw [List.mem_singleton.mp he]
    trivial

/-- The app is dismissed, or home is pressed for it. -/
structure Dismisses (stop : Option Nat) (t : Teardown) (task : Task) (u : Stretch.OfAttempt)
    (helped : Log) (warnings : List StepError) : Prop where
  dismissed : u.Of stop (t.dismiss task).run
  home : (callsOf isHome (u.log ++ helped)).length = if u.result = .ok () then 0 else 1
  no_foreground : callsOf isForeground u.log = []
  /-- Nothing but home is pressed for it. -/
  only_home : ∀ kind, kind .home = false → callsOf kind helped = []
  warnings_le : warnings.length ≤ 2
  warns : ∀ e ∈ warnings, e.OfTeardown
  warned : ∀ e, u.result = .error e → e ∈ warnings
  swiped : warnings = [] → Swiped task u.log

theorem dismisses_of_goes {warnings : List StepError}
    (h : Goes stop (t.dismissOrHome task) before log warnings after) :
    ∃ u helped, log = u.log ++ helped ∧ u.began = before ∧
      Dismisses stop t task u helped warnings := by
  obtain ⟨log₁, result, between, log₂, rfl, hdismiss, h⟩ := goes_bind.mp h
  have hasks : ∀ e ∈ log₁, e.request.OfDismissal := hdismiss.asks (t.dismiss_asks task before)
  have hhome : callsOf isHome log₁ = [] := callsOf_eq_nil fun e he => (hasks e he).avoids_home
  have hforeground : callsOf isForeground log₁ = [] :=
    callsOf_eq_nil fun e he => (hasks e he).avoids_foreground
  refine ⟨⟨before, log₁, result, between⟩, log₂, rfl, rfl, ?_⟩
  cases result with
  | ok _ =>
    obtain ⟨rfl, rfl, rfl⟩ := h
    exact ⟨hdismiss, by simp [hhome], hforeground, fun _ _ => rfl, Nat.zero_le _, nofun, nofun,
      fun _ => swiped_of_dismiss hdismiss⟩
  | error e =>
    obtain ⟨noted, _, _, _, rfl, hnoted, h⟩ := goes_bind.mp h
    obtain ⟨pressed, more, _, _, rfl, hpressed, h⟩ := goes_bind.mp h
    obtain ⟨slept, _, _, _, rfl, hslept, hend⟩ := goes_bind.mp h
    obtain ⟨rfl, rfl, rfl⟩ := hend
    have hnoted (kind) : callsOf kind noted = [] := callsOf_perform (by trivial) hnoted
    have hslept (kind) : callsOf kind slept = [] := callsOf_perform (by trivial) hslept
    obtain ⟨⟨answer, rfl⟩, hmore, hwarns⟩ := goes_pressHome hpressed
    have he := t.dismiss_failsOnly task _ _ _ _ _ hdismiss
    refine ⟨hdismiss, ?_, hforeground, fun kind hkind => ?_, Nat.succ_le_succ hmore,
      List.forall_mem_cons.mpr ⟨he, hwarns⟩, ?_, nofun⟩
    · rw [callsOf_append, callsOf_append, callsOf_append, callsOf_append, hhome, hnoted, hslept]
      rfl
    · rw [callsOf_append, callsOf_append, callsOf_append, hnoted, hslept]
      simp [callsOf, Exchange.call?, hkind]
    · rintro _ ⟨⟩
      exact List.mem_cons_self ..

/-! ### Return -/

/-- The last time that the phone said which app is in the foreground, it was this one. -/
def LastSeen (package : String) (log : Log) : Prop :=
  ∃ made met, (callsOf isForeground log).getLast? =
    some ⟨made, .call .foreground, .ok (some package), met⟩

theorem LastSeen.prepend {package : String} (h : LastSeen package log) (log' : Log) :
    LastSeen package (log' ++ log) := by
  obtain ⟨made, met, hlast⟩ := h
  exact ⟨made, met, by simp [List.getLast?_append, hlast]⟩

/-- Home is not pressed on the way to the host app, up to `count` times the phone is asked which app
is in the foreground, and the way ends well only if that is the host app at last. -/
structure Returns (t : Teardown) (count : Nat) (log : Log) (r : Except StepError Unit) :
    Prop where
  no_home : callsOf isHome log = []
  foreground_le : (callsOf isForeground log).length ≤ count
  seen : r = .ok () → LastSeen t.settings.hostPackage log
  fails : ∀ e, r = .error e → e.OfTeardown

theorem Returns.prepend {m n : Nat} {log' : Log} {r : Except StepError Unit}
    (h : Returns t n log r) (hhome : callsOf isHome log' = [])
    (hforeground : (callsOf isForeground log').length ≤ m) : Returns t (n + m) (log' ++ log) r := by
  refine ⟨by simp [hhome, h.no_home], ?_, fun hr => (h.seen hr).prepend log', h.fails⟩
  rw [callsOf_append, List.length_append, Nat.add_comm]
  exact Nat.add_le_add h.foreground_le hforeground

/-- Requests that neither press home nor ask which app is in the foreground. -/
def Request.IsAside (q : Request) : Prop := q.Avoids isHome ∧ q.Avoids isForeground

theorem goes_foregroundIs {package : String} {isThere : Bool}
    (h : Goes stop (foregroundIs package) before log isThere after) :
    ∃ answer : Except Failure (Option String), log = [⟨before, .call .foreground, answer, after⟩] ∧
      (isThere = true → answer = .ok (some package)) := by
  obtain ⟨answer, between, rest, rfl, -, hr⟩ := h
  cases answer with
  | ok current =>
    obtain ⟨rfl, rfl, rfl⟩ := hr
    exact ⟨.ok current, rfl, fun h => congrArg _ (beq_iff_eq.mp h)⟩
  | error failure =>
    obtain ⟨rfl, rfl, rfl⟩ := hr
    exact ⟨.error failure, rfl, nofun⟩

theorem returns_throw {count : Nat} {r : Except StepError Unit} {problem : String}
    (h : Goes stop (throw (.appLifecycle problem) : Attempt Unit).run before log r after) :
    Returns t count log r := by
  obtain ⟨rfl, rfl, rfl⟩ := h
  refine ⟨rfl, Nat.zero_le _, nofun, fun e he => ?_⟩
  cases he
  trivial

/-- Something else comes first on the way. -/
theorem returns_bind {α : Type} {x : Attempt α} {f : α → Attempt Unit} {count : Nat}
    {r : Except StepError Unit} (h : Goes stop (x >>= f).run before log r after)
    (hasks : x.run.Asks (Meets stop) fun _ => Request.IsAside)
    (hfails : FailsOnly StepError.OfTeardown x)
    (hf : ∀ a between log, Goes stop (f a).run between log r after → Returns t count log r) :
    Returns t count log r := by
  have hquiet {log : Log} {a : Except StepError α} {between : Nat}
      (hgoes : Goes stop x.run before log a between) :
      callsOf isHome log = [] ∧ callsOf isForeground log = [] :=
    ⟨callsOf_eq_nil fun e he => (hgoes.asks (hasks before) e he).1,
      callsOf_eq_nil fun e he => (hgoes.asks (hasks before) e he).2⟩
  rcases goes_bind_run.mp h with ⟨e, rfl, hx⟩ | ⟨log₁, a, between, log₂, rfl, hx, hrest⟩
  · obtain ⟨hhome, hforeground⟩ := hquiet hx
    refine ⟨hhome, by simp [hforeground], nofun, fun e' he' => ?_⟩
    cases he'
    exact hfails _ _ _ _ _ hx
  · obtain ⟨hhome, hforeground⟩ := hquiet hx
    exact (hf a between log₂ hrest).prepend (m := 0) hhome (by simp [hforeground])

/-- The app in the foreground is asked for, and the way goes on only if it is not the host app. -/
theorem returns_foregroundIs {found missed : Attempt Unit} {count : Nat}
    {r : Except StepError Unit}
    (h : Goes stop (liftM (foregroundIs t.settings.hostPackage) >>= fun isThere =>
      if isThere = true then found else missed).run before log r after)
    (hfound : ∀ between log, Goes stop found.run between log r after →
      r = .ok () ∧ callsOf isHome log = [] ∧ callsOf isForeground log = [])
    (hmissed : ∀ between log, Goes stop missed.run between log r after → Returns t count log r) :
    Returns t (count + 1) log r := by
  obtain ⟨log₁, isThere, between, log₂, rfl, hlooked, h⟩ := goes_lift_bind_run.mp h
  obtain ⟨answer, rfl, hanswer⟩ := goes_foregroundIs hlooked
  cases isThere with
  | true =>
    obtain ⟨rfl, hhome, hforeground⟩ := hfound between log₂ h
    obtain rfl := hanswer rfl
    refine ⟨?_, ?_, fun _ => ⟨before, between, ?_⟩, nofun⟩
    · rw [callsOf_append, hhome]
      rfl
    · rw [callsOf_append, hforeground]
      exact Nat.le_add_left 1 count
    · rw [callsOf_append, hforeground]
      rfl
  | false => exact (hmissed between log₂ h).prepend rfl (Nat.le_refl 1)

theorem returns_confirm {left attempt : Nat} {r : Except StepError Unit}
    (h : Goes stop (t.confirm left attempt).run before log r after) : Returns t left log r := by
  induction left generalizing attempt before log with
  | zero => exact returns_throw h
  | succ left ih =>
    unfold confirm at h
    refine returns_bind h (Asks.lift_run (asks_perform fun _ => ⟨trivial, trivial⟩)) (.lift _) ?_
    intro stopped between rest h
    cases stopped with
    | true => exact returns_throw h
    | false =>
      refine returns_foregroundIs h (fun _ _ hfound => ?_) fun _ _ hmissed => ?_
      · obtain ⟨_, rfl, hnoted⟩ := goes_lift_run.mp hfound
        exact ⟨rfl, callsOf_perform (by trivial) hnoted, callsOf_perform (by trivial) hnoted⟩
      · dsimp only at hmissed
        split at hmissed
        · exact returns_bind hmissed (Asks.lift_run (asks_perform fun _ => ⟨trivial, trivial⟩))
            (.lift _) fun _ _ _ => ih
        · exact ih hmissed

theorem returns_returnToHost {r : Except StepError Unit}
    (h : Goes stop t.returnToHost.run before log r after) :
    Returns t (t.settings.returnRetries.toNat + 1) log r := by
  refine returns_foregroundIs h (fun _ _ hfound => ?_) fun _ _ hmissed => ?_
  · obtain ⟨rfl, rfl, -⟩ := hfound
    exact ⟨rfl, rfl, rfl⟩
  · refine returns_bind hmissed ((t.findCard_asks _ _).mono fun _ _ hq =>
      ⟨hq.avoids_home, hq.avoids_foreground⟩) (t.findCard_failsOnly _ _) fun card _ _ htap => ?_
    refine returns_bind htap (Asks.lift_run (checked_asks fun _ => ⟨trivial, trivial⟩)) (.lift _)
      fun _ _ _ htap => ?_
    exact returns_bind htap (callFor_asks _ fun _ => ⟨rfl, rfl⟩) (callFor_failsOnly _ _)
      fun _ _ _ => returns_confirm

/-- The return to the host app begins with a question to the phone. -/
theorem exists_foreground_of_returnToHost {r : Except StepError Unit}
    (h : Goes stop t.returnToHost.run before log r after) :
    ∃ answer met later, log = ⟨before, .call .foreground, answer, met⟩ :: later := by
  obtain ⟨_, isThere, met, later, rfl, hlooked, -⟩ := goes_lift_bind_run.mp h
  obtain ⟨answer, rfl, -⟩ := goes_foregroundIs hlooked
  exact ⟨answer, met, later, rfl⟩

/-! ### Leaving -/

/-- What leaving an app comes to. The app is dismissed, or home is pressed for it, and then the
return to the host app is attempted, which begins with a question to the phone. -/
structure Leaves (stop : Option Nat) (t : Teardown) (task : Task) (before : Nat) (log : Log)
    (warnings : List StepError) : Prop where
  warnings_le : warnings.length ≤ 3
  warns : ∀ e ∈ warnings, ∃ problem, e = .appLifecycle problem
  attempts : ∃ (u v : Stretch.OfAttempt) (helped told : Log),
    log = u.log ++ helped ++ v.log ++ told ∧
      u.began = before ∧ u.Of stop (t.dismiss task).run ∧
      (callsOf isHome log).length = (if u.result = .ok () then 0 else 1) ∧
      v.Of stop t.returnToHost.run ∧
      ∃ answer met later, v.log = ⟨v.began, .call .foreground, answer, met⟩ :: later
  foreground_le : (callsOf isForeground log).length ≤ 1 + t.settings.returnRetries.toNat
  swiped : warnings = [] → Swiped task log
  returned : warnings = [] → LastSeen t.settings.hostPackage log

/-- What is told of a problem with the leaving. -/
def warning (task : Task) (problem : StepError) : Note :=
  .message .warn s!"[{task.name}] {problem.message}"

/-- After the attempt to return, the warnings so far and its own are told and given. -/
theorem goes_warn {warnings problems : List StepError}
    (h : Goes stop (do
      problems.forM fun w => Part.say .warn s!"[{task.name}] {w.message}"
      pure problems) before log warnings after) :
    warnings = problems ∧ log = tellings before (warnings.map (warning task)) := by
  obtain ⟨told, _, _, _, rfl, htold, hend⟩ := goes_bind.mp h
  obtain ⟨rfl, rfl, rfl⟩ := hend
  have htells : told = tellings before (warnings.map (warning task)) := (goes_tells htold).1
  exact ⟨rfl, (List.append_nil _).trans htells⟩

/-- The attempt to return adds its own warning, if there is one. -/
theorem goes_run {warnings : List StepError} (henabled : t.settings.enabled = true)
    (h : Goes stop (t.run task) before log warnings after) :
    ∃ (u v : Stretch.OfAttempt) (helped told : Log) (dismissal more : List StepError),
      log = u.log ++ helped ++ v.log ++ told ∧ warnings = dismissal ++ more ∧ u.began = before ∧
        Dismisses stop t task u helped dismissal ∧ v.Of stop t.returnToHost.run ∧
        more = (match v.result with | .ok _ => [] | .error e => [e]) ∧
        told = tellings v.ended (warnings.map (warning task)) := by
  unfold run at h
  rw [henabled] at h
  obtain ⟨_, dismissal, between, _, rfl, hdismiss, hleft⟩ := goes_bind.mp h
  obtain ⟨u, helped, rfl, hu, hdismisses⟩ := dismisses_of_goes hdismiss
  obtain ⟨returned, r, ended, told, rfl, hreturn, htell⟩ := goes_bind.mp hleft
  refine ⟨u, ⟨between, returned, r, ended⟩, helped, told, dismissal, _, by simp, ?_, hu, hdismisses,
    hreturn, rfl, ?_⟩
  all_goals cases r with
    | ok _ =>
      obtain ⟨rfl, rfl⟩ := goes_warn htell
      simp
    | error e =>
      obtain ⟨rfl, rfl⟩ := goes_warn htell
      simp

theorem leaves_of_goes {warnings : List StepError} (henabled : t.settings.enabled = true)
    (h : Goes stop (t.run task) before log warnings after) :
    Leaves stop t task before log warnings := by
  obtain ⟨u, v, helped, told, dismissal, more, rfl, rfl, hu, hdismisses, hv, hmore, htold⟩ :=
    goes_run henabled h
  have hquiet (kind) : callsOf kind told = [] := htold ▸ callsOf_tellings _ _
  have hreturns := returns_returnToHost hv
  have hwarns : more.length ≤ 1 ∧ (∀ e ∈ more, e.OfTeardown) ∧ (more = [] → v.result = .ok ()) := by
    subst hmore
    cases hr : v.result with
    | ok _ => exact ⟨Nat.zero_le _, nofun, fun _ => rfl⟩
    | error e =>
      refine ⟨Nat.le_refl _, fun e' he' => ?_, nofun⟩
      rw [List.mem_singleton.mp he']
      exact hreturns.fails e hr
  refine ⟨?_, ?_, ?_, ?_, ?_, ?_⟩
  · have := hdismisses.warnings_le
    have := hwarns.1
    rw [List.length_append]
    omega
  · intro e he
    have hteardown : e.OfTeardown :=
      (List.mem_append.mp he).elim (hdismisses.warns e) (hwarns.2.1 e)
    cases e with
    | appLifecycle problem => exact ⟨problem, rfl⟩
    | _ => exact hteardown.elim
  · refine ⟨u, v, helped, told, rfl, hu, hdismisses.dismissed, ?_, hv,
      exists_foreground_of_returnToHost hv⟩
    rw [callsOf_append, callsOf_append, hquiet, hreturns.no_home, List.append_nil, List.append_nil]
    exact hdismisses.home
  · rw [callsOf_append, callsOf_append, callsOf_append, hquiet, hdismisses.no_foreground,
      hdismisses.only_home isForeground rfl, Nat.add_comm]
    simpa using hreturns.foreground_le
  · intro hnil
    simp only [List.append_assoc]
    exact (hdismisses.swiped (List.append_eq_nil_iff.mp hnil).1).append _
  · intro hnil
    have hseen := hreturns.seen (hwarns.2.2 (List.append_eq_nil_iff.mp hnil).2)
    obtain ⟨made, met, hlast⟩ := hseen.prepend (u.log ++ helped)
    exact ⟨made, met, by rw [callsOf_append, hquiet, List.append_nil, hlast]⟩

/-- Whatever the phone does and whenever a stop comes, leaving an app comes to an end, with three
warnings at most, all of them about the leaving. Home is pressed exactly once if the app could not
be dismissed and not at all otherwise, and the return to the host app is attempted in any case.
There is no warning only if the card of the task's app was swiped away and the host app was seen in
the foreground at last. -/
theorem teardown_honest (t : Teardown) (task : Task) (henabled : t.settings.enabled = true)
    (stop : Option Nat) (before : Nat) :
    Surely stop (fun warnings => warnings.length ≤ 3) (t.run task) before ∧
      ∀ log warnings after, Goes stop (t.run task) before log warnings after →
        Leaves stop t task before log warnings := by
  constructor
  · refine surely_of_no_overrun ((t.run_asks task).mono ?_) ?_
    · rintro now q hq rfl
      exact hq
    · intro log warnings after hgoes
      exact (leaves_of_goes henabled hgoes).warnings_le
  · intro log warnings after hgoes
    exact leaves_of_goes henabled hgoes

/-- A phone that fails every call, after a stop: dismissal, home and the return each give a
warning. -/
theorem teardown_honest_failing :
    let t := Scheduler.standard.teardown
    t.settings.enabled = true ∧ ∃ log warnings,
      Goes (some 0) (t.run imageTask) 0 log warnings 1000 ∧ warnings.length = 3 ∧
        (callsOf isHome log).length = 1 ∧ Leaves (some 0) t imageTask 0 log warnings := by
  intro t
  have hfails {before : Nat} (c : Phone.Call) :
      Meets (some 0) before (.call c) (.error (.of "offline")) before := Nat.le_refl _
  have htell {now : Nat} (note : Note) : Meets (some 0) now (.tell note) () now := rfl
  have hsleep : Meets (some 0) 0 (.sleep 1000) () 1000 := rfl
  have hgoes : ∃ log warnings, Goes (some 0) (t.run imageTask) 0 log warnings 1000 ∧
      warnings.length = 3 ∧ (callsOf isHome log).length = 1 :=
    ⟨_, _, .ask (hfails .recents) (.ask (htell _) (.ask (hfails .home) (.ask hsleep
      (.ask (hfails .foreground) (.ask (hfails .recents) (.ask (htell _) (.ask (htell _)
        (.ask (htell _) ⟨rfl, rfl, rfl⟩)))))))), rfl, rfl⟩
  obtain ⟨log, warnings, hgoes, hthree, hhome⟩ := hgoes
  have hleaves := (teardown_honest t imageTask rfl (some 0) 0).2 log warnings 1000 hgoes
  exact ⟨rfl, log, warnings, hgoes, hthree, hhome, hleaves⟩

end Teardown

end Run

end CheckIn
