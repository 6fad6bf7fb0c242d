import CheckIn.Proofs.Run.Leaving
import CheckIn.Proofs.Selector.Containing

/-! Cards of the recent apps. Leaving an app looks for two of them: its own card, which is swiped
away, and that of the host app, which is tapped. Both are handled in one way, `Handles`, with a
guard that says which cards are refused: the card of the app is refused if its bounds are empty, and
the card of the host app never is. So whatever is swiped is a card with an extent, and whatever is
tapped is a card that the lookup before it came to, though it may have none. -/

namespace CheckIn

/-- Calls that touch the screen. -/
def Phone.Call.isTouch : Phone.Call → Bool
  | click _ | setText _ _ | tap _ | swipe _ _ _ => true
  | _ => false

namespace Run

open Process

open Phone.Call (isTouch)

variable {stop : Option Nat} {before after : Nat} {log : Log}

/-- If the exchange asks for the elements for which a selector holds, it holds for all in the
answer. -/
def Exchange.IsHonest : Exchange → Prop
  | ⟨_, .query (.findAll selector) _ _, .answered (.ok found), _⟩ =>
    ∀ e ∈ found, selector.holds e = true
  | _ => True

theorem Request.OfLookup.avoids_touch {heed : Bool} :
    ∀ {q : Request}, q.OfLookup heed → q.Avoids isTouch
  | .query (.findAll _) _ _, _ | .query .detect _ _, _ => rfl
  | .pause _ _, _ | .now, _ | .isStopped, _ | .overflow, _ => trivial

theorem Request.OfWatch.avoids_touch : ∀ {q : Request}, q.OfWatch → q.Avoids isTouch
  | .call .foreground, _ => rfl
  | .sleep _, _ | .isStopped, _ | .tell _, _ => trivial

/-! ### Touches -/

/-- Whatever touches the screen in a log satisfies `P` after what came before it. -/
def Touches (P : Log → Exchange → Prop) (log : Log) : Prop :=
  ∀ earlier x later, log = earlier ++ x :: later → x.call?.any isTouch = true → P earlier x

variable {P Q : Log → Exchange → Prop} {log₁ log₂ : Log}

theorem touches_of_nil (h : callsOf isTouch log = []) : Touches P log := issues_of_nil h

theorem Touches.imp (h : Touches P log) (hPQ : ∀ earlier x, P earlier x → Q earlier x) :
    Touches Q log :=
  Issues.imp h hPQ

/-- What is allowed after a log is allowed after more. -/
theorem Touches.append (h₁ : Touches P log₁) (h₂ : Touches P log₂)
    (hP : ∀ earlier x, P earlier x → P (log₁ ++ earlier) x) : Touches P (log₁ ++ log₂) :=
  Issues.append h₁ h₂ hP

/-- A single touch. -/
theorem touches_cons {x : Exchange} {later : Log} (h : callsOf isTouch log = []) (hx : P log x)
    (hlater : callsOf isTouch later = []) : Touches P (log ++ x :: later) :=
  issues_cons h hx hlater

namespace Teardown

variable {t : Teardown} {task : Task} {label missing : String} {u : Lookup.Look}
  {card : Screen.Element} {result : Except StepError Unit}

/-! ### Looking for a card -/

/-- The lookup for a card that says `label`. -/
def seekCard (t : Teardown) (label : String) : Attempt (Option Screen.Element) :=
  t.lookup.resolve (.descContains label) t.settings.cardTimeout false

/-- The lookup `u` for a card that says `label` came to `card`. The phone had it in an answer, and
if it answered honestly then the card does say `label`. -/
structure Finds (stop : Option Nat) (t : Teardown) (label : String) (u : Lookup.Look)
    (card : Screen.Element) : Prop where
  looked : u.Of stop (t.seekCard label).run
  found : u.result = .ok (some card)
  offered : ∃ atom, Selector.descContains label = .one atom ∧ ∃ x ∈ u.log, x.Offers card atom ∧
    (x.IsHonest → label.toList <:+: card.desc.toList)

theorem finds_of (hlooked : u.Of stop (t.seekCard label).run)
    (hfound : u.result = .ok (some card)) : Finds stop t label u card := by
  refine ⟨hlooked, hfound, ?_⟩
  obtain ⟨atom, hatom⟩ := exists_descContains label
  have hgoes : Goes stop (t.seekCard label).run u.began u.log (.ok (some card)) u.ended :=
    hfound ▸ hlooked
  obtain ⟨seen, hseen, hoffers⟩ := Lookup.resolve_offers hgoes
  rw [hatom] at hoffers
  obtain ⟨x, _, hoffer, -, rfl⟩ := List.forall₂_cons_left_iff.mp hoffers
  -- The selector has one atom, so the answer to it is the card's only source.
  refine ⟨atom, hatom, x, hseen (List.mem_cons_self ..), hoffer, fun hhonest => ?_⟩
  obtain ⟨made, heed, deadline, found, met, rfl, hmem⟩ := hoffer
  have hholds : (Selector.descContains label).holds card = true := hatom ▸ hhonest card hmem
  exact Selector.infix_of_holds_descContains hholds

theorem seekCard_no_touch (h : u.Of stop (t.seekCard label).run) : callsOf isTouch u.log = [] :=
  callsOf_eq_nil fun x hx => (h.asks (t.lookup.resolve_asks _ _ _) x hx).avoids_touch

/-- The recent apps are opened and settle, and the lookup `u` for a card follows. -/
structure Sought (stop : Option Nat) (t : Teardown) (label : String) (before : Nat) (log : Log)
    (u : Lookup.Look) : Prop where
  opened : ∃ opened, log = ⟨before, .call .recents, .ok (), opened⟩ ::
    ⟨opened, .sleep t.settings.recentsSettle, (), u.began⟩ :: u.log
  looked : u.Of stop (t.seekCard label).run

theorem Sought.suffix (h : Sought stop t label before log u) : u.log <:+ log := by
  obtain ⟨opened, rfl⟩ := h.opened
  exact ⟨[_, _], rfl⟩

theorem Sought.no_touch (h : Sought stop t label before log u) : callsOf isTouch log = [] := by
  obtain ⟨opened, rfl⟩ := h.opened
  exact seekCard_no_touch h.looked

theorem goes_findCard {r : Except StepError Screen.Element}
    (h : Goes stop (t.findCard label missing).run before log r after) :
    (∃ failure : Failure, log = [⟨before, .call .recents, .error failure, after⟩] ∧
      r = .error (.appLifecycle s!"opening recent apps: {failure.chain}")) ∨
    ∃ u, Sought stop t label before log u ∧ u.ended = after ∧
      (u.result = .ok none ∧ r = .error (.appLifecycle missing) ∨
        ∃ card, u.result = .ok (some card) ∧ r = .ok card) := by
  rcases goes_bind_run.mp h with ⟨e, rfl, hopen⟩ | ⟨_, _, opened, _, rfl, hopen, hopened⟩
  · obtain ⟨answer, rfl, hr⟩ := goes_callFor hopen
    cases answer with
    | ok reply => cases hr
    | error failure =>
      cases hr
      exact .inl ⟨failure, rfl, rfl⟩
  · obtain ⟨answer, rfl, hr⟩ := goes_callFor hopen
    cases answer with
    | error failure => cases hr
    | ok reply =>
      obtain ⟨_, _, settled, _, rfl, hsleep, hsettled⟩ := goes_lift_bind_run.mp hopened
      obtain ⟨rfl, -⟩ := goes_perform.mp hsleep
      rcases goes_bind_run.mp hsettled with
        ⟨e, rfl, hlook⟩ | ⟨looked, found, ended, _, rfl, hlook, hend⟩
      · -- A lookup that does not heed the stop cannot fail.
        exact (t.lookup.resolve_failsOnly_unheeding (E := fun _ => False) _ _ _ _ _ _ _ hlook).elim
      · let u : Lookup.Look := ⟨settled, looked, .ok found, ended⟩
        cases found with
        | none =>
          obtain ⟨rfl, rfl, rfl⟩ := hend
          exact .inr ⟨u, ⟨⟨opened, by simp [u]⟩, hlook⟩, rfl, .inl ⟨rfl, rfl⟩⟩
        | some card =>
          obtain ⟨rfl, rfl, rfl⟩ := hend
          exact .inr ⟨u, ⟨⟨opened, by simp [u]⟩, hlook⟩, rfl, .inr ⟨card, rfl, rfl⟩⟩

/-! ### Handling a card -/

/-- A card that says `label` is looked for, and `act` is done with it, unless it is refused for a
reason. -/
inductive Handles (stop : Option Nat) (t : Teardown) (label missing : String)
    (refusal : Screen.Element → Option String) (act : Screen.Element → Phone.Call) (before : Nat) :
    Log → Except StepError Unit → Prop
  | unopened {failure : Failure} {met : Nat} :
      Handles stop t label missing refusal act before
        [⟨before, .call .recents, .error failure, met⟩]
        (.error (.appLifecycle s!"opening recent apps: {failure.chain}"))
  | missing {log : Log} {u : Lookup.Look} :
      Sought stop t label before log u → u.result = .ok none →
      Handles stop t label missing refusal act before log (.error (.appLifecycle missing))
  | refused {log : Log} {u : Lookup.Look} {card : Screen.Element} {reason : String} :
      Sought stop t label before log u → u.result = .ok (some card) → refusal card = some reason →
      Handles stop t label missing refusal act before log (.error (.appLifecycle reason))
  | acted {log later : Log} {u : Lookup.Look} {card : Screen.Element}
      {answer : Except Failure (act card).Reply} {met : Nat} {result : Except StepError Unit} :
      Sought stop t label before log u → u.result = .ok (some card) → refusal card = none →
      callsOf isTouch later = [] →
      Handles stop t label missing refusal act before
        (log ++ (overflows card.bounds.SumsFit u.ended ++
          ⟨u.ended, .call (act card), answer, met⟩ :: later)) result

variable {refusal : Screen.Element → Option String} {act : Screen.Element → Phone.Call}

theorem handles_of_goes {f : Screen.Element → Attempt Unit}
    (h : Goes stop (t.findCard label missing >>= f).run before log result after)
    (hrefused : ∀ card reason now log, refusal card = some reason →
      Goes stop (f card).run now log result after →
        log = [] ∧ result = .error (.appLifecycle reason))
    (hacted : ∀ card now log, refusal card = none → Goes stop (f card).run now log result after →
      ∃ answer met later, log = overflows card.bounds.SumsFit now ++
        ⟨now, .call (act card), answer, met⟩ :: later ∧ callsOf isTouch later = []) :
    Handles stop t label missing refusal act before log result := by
  rcases goes_bind_run.mp h with ⟨e, rfl, hfind⟩ | ⟨seen, card, now, rest, rfl, hfind, hrest⟩
  · rcases goes_findCard hfind with ⟨failure, rfl, ⟨⟩⟩ | ⟨u, hsought, -, ⟨hnone, ⟨⟩⟩ | ⟨_, -, ⟨⟩⟩⟩
    · exact .unopened
    · exact .missing hsought hnone
  · rcases goes_findCard hfind with ⟨_, -, ⟨⟩⟩ | ⟨u, hsought, rfl, ⟨-, ⟨⟩⟩ | ⟨_, hsome, ⟨⟩⟩⟩
    cases hrefusal : refusal card with
    | some reason =>
      obtain ⟨rfl, rfl⟩ := hrefused card reason _ _ hrefusal hrest
      rw [List.append_nil]
      exact .refused hsought hsome hrefusal
    | none =>
      obtain ⟨answer, met, later, rfl, hlater⟩ := hacted card _ _ hrefusal hrest
      exact .acted hsought hsome hrefusal hlater

/-- The touch comes right after the lookup for the card, but for an overflow of the sums for its
center, and the card was not refused. -/
def Guided (stop : Option Nat) (t : Teardown) (label : String)
    (refusal : Screen.Element → Option String) (act : Screen.Element → Phone.Call) (earlier : Log)
    (x : Exchange) : Prop :=
  ∃ u card answer met, u.log ++ overflows card.bounds.SumsFit u.ended <:+ earlier ∧
    Finds stop t label u card ∧ refusal card = none ∧ x = ⟨u.ended, .call (act card), answer, met⟩

theorem Guided.prepend {earlier : Log} {x : Exchange}
    (h : Guided stop t label refusal act earlier x) (log : Log) :
    Guided stop t label refusal act (log ++ earlier) x := by
  obtain ⟨u, card, answer, met, hsuffix, hfinds, hrefusal, rfl⟩ := h
  exact ⟨u, card, answer, met, hsuffix.trans (List.suffix_append ..), hfinds, hrefusal, rfl⟩

theorem Handles.touches (h : Handles stop t label missing refusal act before log result) :
    Touches (Guided stop t label refusal act) log := by
  cases h with
  | unopened => exact touches_of_nil rfl
  | missing hsought | refused hsought => exact touches_of_nil hsought.no_touch
  | acted hsought hsome hrefusal hlater =>
    rw [← List.append_assoc]
    refine touches_cons ?_ ⟨_, _, _, _, ?_, finds_of hsought.looked hsome, hrefusal, rfl⟩ hlater
    · rw [callsOf_append, hsought.no_touch, callsOf_overflows]
      rfl
    · obtain ⟨opened, hopened⟩ := hsought.suffix
      exact ⟨opened, by rw [← hopened, List.append_assoc]⟩

/-! ### The two cards -/

/-- Why the card of an app is not swiped. -/
def hollow (task : Task) (card : Screen.Element) : Option String :=
  if card.bounds.isEmpty then some s!"recent-apps card for '{task.label}' has empty bounds"
  else none

def swipeAway (card : Screen.Element) : Phone.Call :=
  .swipe card.center ⟨card.center.x, 0⟩ cardSwipe

def tapOn (card : Screen.Element) : Phone.Call := .tap card.center

/-- The card of the app is swiped away, unless its bounds are empty. -/
def Dismissed (stop : Option Nat) (t : Teardown) (task : Task) : (before : Nat) → Log →
    Except StepError Unit → Prop :=
  Handles stop t task.label s!"no recent-apps card matching '{task.label}'" (hollow task) swipeAway

/-- Unless the host app is in the foreground already, its card is tapped, whatever the bounds. -/
inductive Returned (stop : Option Nat) (t : Teardown) (before : Nat) :
    Log → Except StepError Unit → Prop
  | there {met : Nat} :
      Returned stop t before
        [⟨before, .call .foreground, .ok (some t.settings.hostPackage), met⟩] (.ok ())
  | handled {answer : Except Failure (Option String)} {asked : Nat} {log : Log}
      {result : Except StepError Unit} :
      Handles stop t t.settings.hostLabel
        s!"no recent-apps card for host '{t.settings.hostLabel}'" (fun _ => none) tapOn asked log
        result →
      Returned stop t before (⟨before, .call .foreground, answer, asked⟩ :: log) result

/-- A call, unless a number for it does not fit, and nothing after it that touches the screen. -/
theorem goes_touch {fits : Prop} [Decidable fits] {what : String} {c : Phone.Call}
    {f : c.Reply → Attempt Unit}
    (h : Goes stop (liftM (Part.checked fits) >>= fun _ => callFor what c >>= f).run before log
      result after)
    (hasks : ∀ reply, (f reply).run.Asks (Meets stop) fun _ => Request.Avoids isTouch) :
    ∃ answer met later, log = overflows fits before ++ ⟨before, .call c, answer, met⟩ :: later ∧
      callsOf isTouch later = [] := by
  obtain ⟨_, rfl, hrest⟩ := goes_checked_bind_run.mp h
  rcases goes_bind_run.mp hrest with ⟨e, rfl, hcall⟩ | ⟨_, reply, met, later, rfl, hcall, hlater⟩
  · obtain ⟨answer, rfl, -⟩ := goes_callFor hcall
    exact ⟨answer, after, [], rfl, rfl⟩
  · obtain ⟨answer, rfl, -⟩ := goes_callFor hcall
    exact ⟨answer, met, later, rfl, callsOf_eq_nil (hlater.asks (hasks reply met))⟩

theorem dismissed_of_goes (h : Goes stop (t.dismiss task).run before log result after) :
    Dismissed stop t task before log result := by
  refine handles_of_goes h (fun card reason now rest hrefusal hrest => ?_)
    fun card now rest hrefusal hrest => ?_
  all_goals
    unfold hollow at hrefusal
    dsimp only at hrest
    split at hrefusal <;> cases hrefusal
  · next hempty =>
    rw [if_pos hempty] at hrest
    obtain ⟨rfl, rfl, -⟩ := hrest
    exact ⟨rfl, rfl⟩
  · next hempty =>
    rw [if_neg hempty] at hrest
    exact goes_touch hrest fun _ => Asks.lift_run (asks_perform fun _ => trivial)

theorem returned_of_goes (h : Goes stop t.returnToHost.run before log result after) :
    Returned stop t before log result := by
  obtain ⟨_, isThere, asked, rest, rfl, hlooked, hrest⟩ := goes_lift_bind_run.mp h
  obtain ⟨answer, rfl, hanswer⟩ := goes_foregroundIs hlooked
  cases isThere with
  | true =>
    obtain rfl := hanswer rfl
    obtain ⟨rfl, rfl, rfl⟩ := hrest
    exact .there
  | false =>
    refine .handled (handles_of_goes hrest (fun _ _ _ _ => nofun) fun card now log _ htap => ?_)
    exact goes_touch htap fun _ => (t.confirm_asks _ _).mono fun _ _ => Request.OfWatch.avoids_touch

/-- What a touch of the screen may be while the app of a task is left: a swipe on the app's card,
which has an extent, or a tap on the host app's card. -/
def TouchesCard (stop : Option Nat) (t : Teardown) (task : Task) (earlier : Log) (x : Exchange) :
    Prop :=
  Guided stop t task.label (hollow task) swipeAway earlier x ∨
    Guided stop t t.settings.hostLabel (fun _ => none) tapOn earlier x

theorem TouchesCard.prepend {earlier : Log} {x : Exchange} (h : TouchesCard stop t task earlier x)
    (log : Log) : TouchesCard stop t task (log ++ earlier) x :=
  h.imp (·.prepend log) (·.prepend log)

theorem Dismissed.touches (h : Dismissed stop t task before log result) :
    Touches (TouchesCard stop t task) log :=
  Handles.touches h |>.imp fun _ _ => .inl

theorem Returned.touches (h : Returned stop t before log result) :
    Touches (TouchesCard stop t task) log := by
  cases h with
  | there => exact touches_of_nil rfl
  | @handled answer asked log result hhandles =>
    have hasked : Touches (TouchesCard stop t task) [⟨before, .call .foreground, answer, asked⟩] :=
      touches_of_nil rfl
    exact hasked.append (hhandles.touches.imp fun _ _ => .inr) fun _ _ hx => hx.prepend _

/-- What leaving an app does to the screen, and what is told of it. -/
structure OnCards (stop : Option Nat) (t : Teardown) (task : Task) (before : Nat) (log : Log)
    (warnings : List StepError) : Prop where
  touches : Touches (TouchesCard stop t task) log
  attempts : t.settings.enabled = true → ∃ (u v : Stretch.OfAttempt) (helped : Log),
    log = u.log ++ helped ++ v.log ++ tellings v.ended (warnings.map (warning task)) ∧
      u.began = before ∧ Dismissed stop t task u.began u.log u.result ∧
      Returned stop t v.began v.log v.result ∧ callsOf isTouch helped = [] ∧
      ∀ e, u.result = .error e ∨ v.result = .error e → e ∈ warnings

/-- Whatever the phone does and whenever a stop comes, leaving an app touches the screen on cards
alone, each right after the lookup that came to it. The card that says the task's label is swiped
from its center if its bounds are not empty; if they are, that is the warning that is given instead.
The card that says the host's label is tapped at its center. -/
theorem teardown_on_cards (t : Teardown) (task : Task) (stop : Option Nat) (before : Nat)
    (log : Log) (warnings : List StepError) (after : Nat)
    (h : Goes stop (t.run task) before log warnings after) :
    OnCards stop t task before log warnings := by
  cases henabled : t.settings.enabled with
  | false =>
    unfold run at h
    rw [henabled] at h
    obtain ⟨rfl, -, -⟩ := h
    exact ⟨touches_of_nil rfl, fun h => absurd (henabled.symm.trans h) Bool.false_ne_true⟩
  | true =>
    obtain ⟨u, v, helped, told, dismissal, more, rfl, rfl, rfl, hdismisses, hv, rfl, rfl⟩ :=
      goes_run henabled h
    have hdismissed : Dismissed stop t task u.began u.log u.result :=
      dismissed_of_goes hdismisses.dismissed
    have hreturned : Returned stop t v.began v.log v.result := returned_of_goes hv
    have hhelped : callsOf isTouch helped = [] := hdismisses.only_home isTouch rfl
    refine ⟨?_, fun _ => ⟨u, v, helped, rfl, rfl, hdismissed, hreturned, hhelped, ?_⟩⟩
    · have hdismissal := hdismissed.touches.append (touches_of_nil hhelped)
        fun _ _ hx => hx.prepend _
      have hboth := hdismissal.append hreturned.touches fun _ _ hx => hx.prepend _
      exact hboth.append (touches_of_nil (callsOf_tellings _ _)) fun _ _ hx => hx.prepend _
    · rintro e (he | he)
      · exact List.mem_append_left _ (hdismisses.warned e he)
      · simp [he]

/-! ### A phone that shows both cards -/

/-- A phone can show the recent apps with a card that is looked for. -/
theorem exists_findCard (t : Teardown) (label missing : String) (card : Screen.Element)
    (now : Nat) : ∃ log u, Goes none (t.findCard label missing).run now log (.ok card)
        (now + t.settings.recentsSettle) ∧ Sought none t label now log u ∧
      u.result = .ok (some card) ∧ u.ended = now + t.settings.recentsSettle := by
  obtain ⟨atom, hatom⟩ := exists_descContains label
  have hlook (now : Nat) :
      ∃ log, Goes none (t.seekCard label).run now log (.ok (some card)) now := by
    unfold seekCard
    rw [hatom]
    have hquery (deadline : Nat) : Meets none now
        (.query (.findAll (.one atom)) false (some (max deadline (now + t.lookup.interval))))
        (.answered (.ok [card])) now :=
      ⟨Nat.le_refl _, fun _ _ => Nat.le_max_left .., by simp⟩
    exact ⟨_, .ask ⟨rfl, rfl⟩ (.ask ⟨rfl, rfl⟩ (.ask (hquery _) ⟨rfl, rfl, rfl⟩))⟩
  obtain ⟨log, hlook⟩ := hlook (now + t.settings.recentsSettle)
  have hopen : Meets none now (.call .recents) (.ok ()) now := Nat.le_refl now
  have hsettle : Meets none now (.sleep t.settings.recentsSettle) ()
      (now + t.settings.recentsSettle) := rfl
  refine ⟨_, ⟨_, log, .ok (some card), _⟩, .ask hopen (.ask hsettle ?_), ⟨⟨now, rfl⟩, hlook⟩, rfl,
    rfl⟩
  exact goes_bind_ok.mpr ⟨log, some card, _, [], (List.append_nil _).symm, hlook, rfl, rfl, rfl⟩

/-- A phone can show both cards. The card of the app is swiped away, the card of the host app is
tapped, and that brings the host app back. -/
theorem exists_leaving (card host : Screen.Element) (hcard : card.bounds.isEmpty = false)
    (hfits : card.bounds.SumsFit) (hfitsHost : host.bounds.SumsFit) :
    let t := Scheduler.standard.teardown
    ∃ log earlier u between v later, Goes none (t.run imageTask) 0 log [] 3000 ∧
      log = earlier ++ ⟨u.ended, .call (swipeAway card), .ok (), u.ended⟩ :: between ++
        ⟨v.ended, .call (tapOn host), .ok (), v.ended⟩ :: later ∧
      v.log <:+ between ∧ Finds none t "Daily" u card ∧ Finds none t "AutoJs6" v host := by
  intro t
  obtain ⟨log₁, u, hfind, hsought, hfound, hended⟩ := t.exists_findCard "Daily"
    "no recent-apps card matching 'Daily'" card 0
  obtain ⟨log₂, v, hfindHost, hsoughtHost, hfoundHost, hendedHost⟩ := t.exists_findCard "AutoJs6"
    "no recent-apps card for host 'AutoJs6'" host 2000
  have hcall (now : Nat) (c : Phone.Call) (answer : Except Failure c.Reply) :
      Meets none now (.call c) answer now := Nat.le_refl now
  have hsleep : Meets none 1000 (.sleep 1000) () 2000 := rfl
  have htell (note : Note) : Meets none 3000 (.tell note) () 3000 := rfl
  have hdismiss : Goes none (t.dismiss imageTask).run 0
      (log₁ ++ [⟨1000, .call (swipeAway card), .ok (), 1000⟩, ⟨1000, .sleep 1000, (), 2000⟩])
      (.ok ()) 2000 := by
    refine goes_bind_ok.mpr ⟨log₁, card, 1000, _, rfl, hfind, ?_⟩
    dsimp only
    rw [hcard]
    refine goes_checked_bind_run.mpr ⟨_, by rw [overflows_of_fits hfits]; rfl, ?_⟩
    exact .ask (hcall 1000 (swipeAway card) (.ok ())) (.ask hsleep ⟨rfl, rfl, rfl⟩)
  have htap : ∃ later, Goes none (do
      callFor "tapping host card" (tapOn host)
      t.confirm t.settings.returnRetries.toNat 1).run 3000
        (⟨3000, .call (tapOn host), .ok (), 3000⟩ :: later) (.ok ()) 3000 :=
    ⟨_, .ask (hcall 3000 (tapOn host) (.ok ())) (.ask ⟨rfl, rfl⟩
      (.ask (hcall 3000 .foreground (.ok (some "org.autojs.autojs6"))) (.ask (htell _)
        ⟨rfl, rfl, rfl⟩)))⟩
  obtain ⟨later, htap⟩ := htap
  have hreturn : Goes none t.returnToHost.run 2000
      (⟨2000, .call .foreground, .ok none, 2000⟩ ::
        (log₂ ++ ⟨3000, .call (tapOn host), .ok (), 3000⟩ :: later)) (.ok ()) 3000 :=
    .ask (hcall 2000 .foreground (.ok none))
      (goes_bind_ok.mpr ⟨log₂, host, 3000, _, rfl, hfindHost,
        goes_checked_bind_run.mpr ⟨_, by rw [overflows_of_fits hfitsHost]; rfl, htap⟩⟩)
  have hleave : Goes none (t.dismissOrHome imageTask) 0 _ [] 2000 :=
    goes_bind.mpr ⟨_, .ok (), 2000, [], (List.append_nil _).symm, hdismiss, rfl, rfl, rfl⟩
  have hrun : Goes none (t.run imageTask) 0 _ [] 3000 :=
    goes_bind.mpr ⟨_, [], 2000, _, rfl, hleave,
      goes_bind.mpr ⟨_, .ok (), 3000, [], (List.append_nil _).symm, hreturn, rfl, rfl, rfl⟩⟩
  have hthen : u.ended = 1000 := hended
  have hlast : v.ended = 3000 := hendedHost
  refine ⟨_, log₁, u, ⟨1000, .sleep 1000, (), 2000⟩ :: ⟨2000, .call .foreground, .ok none, 2000⟩ ::
    log₂, v, later, hrun, ?_, hsoughtHost.suffix.trans (List.suffix_append [_, _] log₂),
    finds_of hsought.looked hfound, finds_of hsoughtHost.looked hfoundHost⟩
  simp only [hthen, hlast, List.append_assoc, List.cons_append, List.nil_append]

/-- The card of the app is swiped away, and the host app is tapped. -/
theorem teardown_on_cards_both :
    let t := Scheduler.standard.teardown
    ∃ log, Goes none (t.run imageTask) 0 log [] 3000 ∧ OnCards none t imageTask 0 log [] ∧
      (∃ x ∈ log, x.request = .call (.swipe ⟨540, 1000⟩ ⟨540, 0⟩ 300)) ∧
      ∃ x ∈ log, x.request = .call (.tap ⟨540, 1800⟩) := by
  intro t
  let card : Screen.Element :=
    { Screen.Element.blank with desc := "Daily", bounds := ⟨0, 500, 1080, 1500⟩ }
  let host : Screen.Element :=
    { Screen.Element.blank with desc := "AutoJs6", bounds := ⟨0, 1600, 1080, 2000⟩ }
  obtain ⟨log, earlier, u, between, v, later, hgoes, hlog, -⟩ :=
    exists_leaving card host (by decide) (by decide) (by decide)
  have hcards := teardown_on_cards t imageTask none 0 log [] 3000 hgoes
  have hcard : card.center = ⟨540, 1000⟩ := by decide
  have hhost : host.center = ⟨540, 1800⟩ := by decide
  refine ⟨log, hgoes, hcards, ?_, ?_⟩
  · exact ⟨⟨u.ended, .call (swipeAway card), .ok (), u.ended⟩, by simp [hlog],
      by simp [swipeAway, hcard, cardSwipe]⟩
  · exact ⟨⟨v.ended, .call (tapOn host), .ok (), v.ended⟩, by simp [hlog], by simp [tapOn, hhost]⟩

/-- The card of the host app is tapped even if its bounds are empty, which is no warning. -/
theorem taps_hollow_card :
    let t := Scheduler.standard.teardown
    let host : Screen.Element := { Screen.Element.blank with desc := "AutoJs6", bounds := .zero }
    host.bounds.isEmpty = true ∧ host.center = ⟨0, 0⟩ ∧ ∃ log earlier v later,
      Goes none (t.run imageTask) 0 log [] 3000 ∧
        log = earlier ++ ⟨v.ended, .call (.tap host.center), .ok (), v.ended⟩ :: later ∧
        v.log <:+ earlier ∧ Finds none t "AutoJs6" v host := by
  intro t host
  let card : Screen.Element :=
    { Screen.Element.blank with desc := "Daily", bounds := ⟨0, 500, 1080, 1500⟩ }
  obtain ⟨log, earlier, u, between, v, later, hgoes, hlog, hsuffix, -, hfinds⟩ :=
    exists_leaving card host (by decide) (by decide) (by decide)
  have hearlier :
      v.log <:+ earlier ++ ⟨u.ended, .call (swipeAway card), .ok (), u.ended⟩ :: between :=
    (hsuffix.trans (List.suffix_cons ..)).trans (List.suffix_append ..)
  exact ⟨by decide, by decide, log, _, v, later, hgoes, hlog, hearlier, hfinds⟩

end Teardown

end Run

end CheckIn
