import CheckIn.Proofs.Run.Caution
import CheckIn.Proofs.Run.Looks
import CheckIn.Proofs.Run.Scope
import CheckIn.Proofs.Run.Walk
import Mathlib.Algebra.Order.BigOperators.Group.List
import Mathlib.Algebra.Order.Floor.Div

/-! Bounded polling. A look at the screen is over once its deadline has come, and it yields to the
stop. Looks follow one another with a pause of an interval, or of what is left up to the deadline of
the lookup, so every look begins no later than that deadline. From this come the time that a lookup
takes, the number of its looks, and what it answers, whatever time the phone takes for an answer. -/

namespace CheckIn.Run

open Process

variable {α β : Type} {stop : Option Nat} {heed : Bool} {before between after deadline : Nat}
  {log : Log}

/-! ### Yielding -/

/-- How an attempt ends that yields to a stop which it heeds: with the stop, as soon as that is
there, or with a value before it. An attempt that takes no time need not see the stop. -/
def Yields (stop : Option Nat) (heed : Bool) (before : Nat) :
    Except StepError α → (after : Nat) → Prop
  | .ok _, after => after = before ∨ ¬(heed ∧ raised stop after)
  | .error e, after => e = .stopped ∧ heed ∧ ∃ t, stop = some t ∧ after = max before t

theorem Yields.eq_stopped {r : Except StepError α} {e : StepError}
    (h : Yields stop heed before r after) (hr : r = .error e) :
    e = .stopped ∧ heed ∧ stop.isSome := by
  subst hr
  obtain ⟨he, hheed, t, rfl, -⟩ := h
  exact ⟨he, hheed, rfl⟩

/-- What yields after a value that was there before the stop yields as a whole. -/
theorem Yields.trans {a : α} {r : Except StepError β} (hle : before ≤ between)
    (h : Yields stop heed before (.ok a) between) (hr : Yields stop heed between r after) :
    Yields stop heed before r after := by
  cases r with
  | ok b =>
    rcases hr with rfl | hcalm
    · exact h
    · exact .inr hcalm
  | error e =>
    obtain ⟨he, hheed, t, ht, rfl⟩ := hr
    refine ⟨he, hheed, t, ht, ?_⟩
    rcases h with rfl | hcalm
    · rfl
    · have hlate : ¬t ≤ between := fun hle => hcalm ⟨hheed, raised_iff.mpr ⟨t, ht, hle⟩⟩
      omega

theorem yields_of_pause {duration : Nat} {stopped : Bool}
    (h : Meets stop before (.pause duration heed) stopped after) :
    Yields (α := Unit) stop heed before (if stopped then .error .stopped else .ok ()) after := by
  cases stopped with
  | true =>
    obtain ⟨hheed, t, ht, -, hafter⟩ := h
    exact ⟨rfl, hheed, t, ht, hafter⟩
  | false => exact .inr h.2

/-! ### Looks -/

/-- A look is over once its deadline has come, yields to the stop, and issues up to `count`
calls. -/
structure Glance (stop : Option Nat) (heed : Bool) (deadline count before : Nat) (log : Log)
    (r : Except StepError α) (after : Nat) : Prop where
  in_time : after ≤ max before deadline
  yields : Yields stop heed before r after
  calls_le : (calls log).length ≤ count

/-- Whatever the surroundings do, the attempt is a look. -/
def Glances (heed : Bool) (deadline count : Nat) (x : Attempt α) : Prop :=
  ∀ stop before log r after, Goes stop x.run before log r after →
    Glance stop heed deadline count before log r after

namespace Glances

theorem pure (a : α) (count : Nat) : Glances heed deadline count (Pure.pure a) := by
  rintro stop before _ _ _ ⟨rfl, rfl, rfl⟩
  exact ⟨Nat.le_max_left .., .inl rfl, Nat.zero_le _⟩

theorem bind {x : Attempt α} {f : α → Attempt β} {m n : Nat} (hx : Glances heed deadline m x)
    (hf : ∀ a, Glances heed deadline n (f a)) : Glances heed deadline (m + n) (x >>= f) := by
  intro stop before log r after hgoes
  rcases goes_bind_run.mp hgoes with ⟨e, rfl, h₁⟩ | ⟨log₁, a, between, log₂, rfl, h₁, h₂⟩
  · have h := hx _ _ _ _ _ h₁
    exact ⟨h.in_time, h.yields, Nat.le_add_right_of_le h.calls_le⟩
  · have h := hx _ _ _ _ _ h₁
    have h' := hf a _ _ _ _ _ h₂
    have hcalls : (calls (log₁ ++ log₂)).length ≤ m + n := by
      rw [calls_append, List.length_append]
      exact Nat.add_le_add h.calls_le h'.calls_le
    refine ⟨?_, h.yields.trans h₁.le h'.yields, hcalls⟩
    have := h.in_time
    have := h'.in_time
    omega

theorem query (c : Phone.Call) :
    Glances heed deadline 1 (Attempt.query c heed (some deadline)) := by
  intro stop before log r after hgoes
  obtain ⟨answer, rfl, hmeets, rfl⟩ := goes_query.mp hgoes
  have hcalls (e : Exchange) : (calls [e]).length ≤ 1 := List.length_filter_le ..
  cases answer with
  | answered a => exact ⟨hmeets.2.1 deadline rfl, .inr hmeets.2.2, hcalls _⟩
  | timedOut =>
    obtain ⟨⟨d, hd, rfl⟩, hcalm⟩ := hmeets
    cases hd
    exact ⟨Nat.le_refl _, .inr hcalm, hcalls _⟩
  | stopped => exact ⟨hmeets.2.2 deadline rfl, ⟨rfl, hmeets.1, hmeets.2.1⟩, hcalls _⟩

end Glances

namespace Lookup

theorem candidates_glances (atom : Atom) :
    Glances heed deadline 1 (candidates heed deadline atom) := by
  unfold candidates
  refine Glances.bind (n := 0) (.query _) fun found => ?_
  rcases found with _ | _ | _ <;> exact .pure _ _

theorem narrow_glances (atoms : List Atom) (kept : List Screen.Element) :
    Glances heed deadline atoms.length (narrow heed deadline atoms kept) := by
  induction atoms generalizing kept with
  | nil => exact .pure _ _
  | cons atom atoms ih =>
    unfold narrow
    rw [List.length_cons, Nat.add_comm]
    refine (candidates_glances atom).bind fun found => ?_
    rcases found with _ | found
    · exact .pure _ _
    · dsimp only
      split
      · exact .pure _ _
      · exact ih _

/-- A look asks once for each atom of the selector at most. -/
theorem look_glances (selector : Selector) :
    Glances heed deadline selector.atoms.length (look heed deadline selector) := by
  unfold look
  split
  · exact (candidates_glances _).bind fun _ => .pure _ 0
  · exact .pure _ _
  · next atom atoms clickable =>
    show Glances heed deadline (atoms.length + 1) _
    rw [Nat.add_comm]
    refine (candidates_glances _).bind fun found => ?_
    rcases found with _ | _ | _
    · exact .pure _ _
    · exact .pure _ _
    · exact (narrow_glances _ _).bind fun _ => .pure _ 0

/-- A look of a lookup. -/
abbrev Look : Type := Stretch (Except StepError (Option Screen.Element))

/-- The looks of a lookup from `before` on, and what it comes to. A look that finds nothing before
the deadline is followed by a pause, and no look begins later than the deadline. -/
inductive Polls (stop : Option Nat) (l : Lookup) (selector : Selector) (heed : Bool)
    (deadline : Nat) : (before : Nat) → List Look → Except StepError (Option Screen.Element) →
    (after : Nat) → Prop
  | stopped {before : Nat} : heed → raised stop before →
      Polls stop l selector heed deadline before [] (.error .stopped) before
  | last {u : Look} : u.Of stop (look heed (max deadline (u.began + l.interval)) selector).run →
      (u.result = .ok none → deadline ≤ u.ended) →
      Polls stop l selector heed deadline u.began [u] u.result u.ended
  | cut {u : Look} {after : Nat} :
      u.Of stop (look heed (max deadline (u.began + l.interval)) selector).run →
      u.result = .ok none → u.ended < deadline →
      Meets stop u.ended (.pause (min l.interval (deadline - u.ended)) heed) true after →
      Polls stop l selector heed deadline u.began [u] (.error .stopped) after
  | again {u : Look} {us : List Look} {r : Except StepError (Option Screen.Element)} {after : Nat} :
      u.Of stop (look heed (max deadline (u.began + l.interval)) selector).run →
      u.result = .ok none → u.ended < deadline →
      ¬(heed ∧ raised stop (u.ended + min l.interval (deadline - u.ended))) →
      Polls stop l selector heed deadline (u.ended + min l.interval (deadline - u.ended)) us r
        after →
      Polls stop l selector heed deadline u.began (u :: us) r after

variable {l : Lookup} {selector : Selector} {looks : UInt32}
  {r : Except StepError (Option Screen.Element)}

theorem goes_check_cases {r : Except StepError Unit}
    (h : Goes stop (Attempt.check heed).run before log r after) :
    calls log = [] ∧ after = before ∧
      (r = .ok () ∨ heed ∧ raised stop before ∧ r = .error .stopped) := by
  cases heed with
  | false =>
    obtain ⟨rfl, rfl, rfl⟩ := h
    exact ⟨rfl, rfl, .inl rfl⟩
  | true =>
    obtain ⟨rfl, rfl, rfl⟩ := goes_check.mp h
    refine ⟨rfl, rfl, ?_⟩
    cases hr : raised stop after with
    | false => exact .inl rfl
    | true => exact .inr ⟨rfl, rfl, rfl⟩

theorem goes_pause_cases {duration : Nat} {r : Except StepError Unit}
    (h : Goes stop (Attempt.pause duration heed).run before log r after) :
    calls log = [] ∧
      ((r = .ok () ∧ after = before + duration ∧ ¬(heed ∧ raised stop after)) ∨
        r = .error .stopped ∧ Meets stop before (.pause duration heed) true after) := by
  obtain ⟨stopped, rfl, hmeets, rfl⟩ := goes_pause.mp h
  cases stopped with
  | false => exact ⟨rfl, .inl ⟨rfl, hmeets⟩⟩
  | true => exact ⟨rfl, .inr ⟨rfl, hmeets⟩⟩

theorem polls_of_look {began ended : Nat} {r : Except StepError (Option Screen.Element)}
    (h : Goes stop (look heed (max deadline (began + l.interval)) selector).run began log r ended)
    (hr : r ≠ .ok none) :
    Polls stop l selector heed deadline began [⟨began, log, r, ended⟩] r ended :=
  .last (u := ⟨began, log, r, ended⟩) h fun hnone => absurd hnone hr

/-- What happens at first: either that is all, or a look that finds nothing is followed by a pause
and by the looks that are left. -/
theorem goes_poll_succ {n : Nat}
    (h : Goes stop (l.poll selector heed deadline (n + 1) looks).run before log r after) :
    (∃ us, Polls stop l selector heed deadline before us r after ∧
        calls log = us.flatMap Stretch.calls) ∨
      ∃ (u : Look) (log' : Log), u.began = before ∧
        u.Of stop (look heed (max deadline (u.began + l.interval)) selector).run ∧
        u.result = .ok none ∧ u.ended < deadline ∧
        ¬(heed ∧ raised stop (u.ended + min l.interval (deadline - u.ended))) ∧
        calls log = u.calls ++ calls log' ∧
        Goes stop (l.poll selector heed deadline n (looks + 1)).run
          (u.ended + min l.interval (deadline - u.ended)) log' r after := by
  unfold poll at h
  rcases goes_bind_run.mp h with ⟨e, rfl, hcheck⟩ | ⟨log₁, _, now, log₂, rfl, hcheck, hrest⟩
  · obtain ⟨hcalls, rfl, hend⟩ := goes_check_cases hcheck
    rcases hend with hok | ⟨hheed, hraised, hstopped⟩
    · cases hok
    · cases hstopped
      exact .inl ⟨[], .stopped hheed hraised, hcalls⟩
  obtain ⟨hcalls₁, rfl, -⟩ := goes_check_cases hcheck
  obtain ⟨_, rfl, hcounted⟩ := goes_checked_bind_run.mp hrest
  obtain ⟨log₃, rfl, hlooks⟩ := goes_now_bind_run.mp hcounted
  rw [calls_append, hcalls₁, calls_append, calls_overflows, calls_cons_of_quiet (by trivial),
    List.nil_append, List.nil_append]
  rcases goes_bind_run.mp hlooks with
    ⟨e, rfl, hlook⟩ | ⟨log₄, found, ended, log₅, rfl, hlook, hnext⟩
  · exact .inl ⟨_, polls_of_look hlook (by simp), (List.append_nil _).symm⟩
  cases found with
  | some element =>
    obtain ⟨rfl, rfl, rfl⟩ := hnext
    rw [List.append_nil]
    exact .inl ⟨_, polls_of_look hlook (by simp), (List.append_nil _).symm⟩
  | none =>
    obtain ⟨log₆, rfl, hpoll⟩ := goes_now_bind_run.mp hnext
    rw [calls_append, calls_cons_of_quiet (by trivial)]
    let u : Look := ⟨now, log₄, .ok none, ended⟩
    split at hpoll
    case isTrue hdue =>
      obtain ⟨rfl, rfl, rfl⟩ := hpoll
      exact .inl ⟨[u], .last (u := u) hlook fun _ => hdue, rfl⟩
    case isFalse hearly =>
      have hearly := Nat.lt_of_not_le hearly
      rcases goes_bind_run.mp hpoll with
        ⟨e, rfl, hpause⟩ | ⟨log₇, _, next, log₈, rfl, hpause, hagain⟩
      · obtain ⟨hcalls₂, ⟨he, -⟩ | ⟨he, hmeets⟩⟩ := goes_pause_cases hpause
        · cases he
        · cases he
          rw [hcalls₂]
          exact .inl ⟨[u], .cut (u := u) hlook rfl hearly hmeets, rfl⟩
      · obtain ⟨hcalls₂, ⟨-, rfl, hcalm⟩ | ⟨he, -⟩⟩ := goes_pause_cases hpause
        · rw [calls_append, hcalls₂]
          exact .inr ⟨u, log₈, rfl, hlook, rfl, hearly, hcalm, rfl, hagain⟩
        · cases he

/-- What happens in a lookup is its looks. The number of looks that it is allowed is enough. -/
theorem polls_of_goes {n : Nat}
    (h : Goes stop (l.poll selector heed deadline (n + 1) looks).run before log r after)
    (hn : deadline ≤ before + n * l.interval) :
    ∃ us, Polls stop l selector heed deadline before us r after ∧
      calls log = us.flatMap Stretch.calls := by
  induction n generalizing before log looks with
  | zero =>
    rcases goes_poll_succ h with hpolls | ⟨u, log', rfl, hlook, -, hearly, -⟩
    · exact hpolls
    · -- The look cannot have ended before the deadline, which has come already.
      have := hlook.le
      omega
  | succ n ih =>
    rcases goes_poll_succ h with hpolls | ⟨u, log', rfl, hlook, hnone, hearly, hcalm, hcalls, h⟩
    · exact hpolls
    · have hle := hlook.le
      rw [Nat.succ_mul] at hn
      obtain ⟨us, hpolls, hlog⟩ := ih h (by omega)
      refine ⟨u :: us, .again hlook hnone hearly hcalm hpolls, ?_⟩
      rw [hcalls, hlog]
      rfl

theorem polls_of_goes_resolve {timeout started : Nat}
    (h : Goes stop (l.resolve selector timeout heed).run started log r after) :
    ∃ us, Polls stop l selector heed (started + timeout) started us r after ∧
      calls log = us.flatMap Stretch.calls := by
  obtain ⟨log, rfl, hpoll⟩ := goes_now_bind_run.mp h
  have hfits : timeout < (timeout / l.interval + 1) * l.interval :=
    Nat.lt_mul_of_div_lt (Nat.lt_succ_self _) l.interval_pos
  rw [calls_cons_of_quiet (by trivial)]
  exact polls_of_goes hpoll (by omega)

section Polls

variable {us : List Look}

theorem Polls.look_of (h : Polls stop l selector heed deadline before us r after) :
    ∀ u ∈ us, ∃ d, u.Of stop (look heed d selector).run := by
  induction h with
  | stopped => exact nofun
  | last hlook _ | cut hlook _ _ _ =>
    intro v hv
    rw [List.mem_singleton.mp hv]
    exact ⟨_, hlook⟩
  | again hlook _ _ _ _ ih =>
    intro v hv
    rcases List.mem_cons.mp hv with rfl | hv
    · exact ⟨_, hlook⟩
    · exact ih v hv

theorem Polls.calls_le (h : Polls stop l selector heed deadline before us r after) :
    (us.flatMap Stretch.calls).length ≤ us.length * selector.atoms.length := by
  have hcalls (x : Nat) (hx : x ∈ us.map fun u => u.calls.length) : x ≤ selector.atoms.length := by
    obtain ⟨u, hu, rfl⟩ := List.mem_map.mp hx
    obtain ⟨d, hlook⟩ := h.look_of u hu
    exact (look_glances selector _ _ _ _ _ hlook).calls_le
  have hsum := List.sum_le_card_nsmul _ _ hcalls
  rw [List.length_flatMap]
  simpa using hsum

theorem Polls.le (h : Polls stop l selector heed deadline before us r after)
    (hbefore : before ≤ deadline) : after ≤ deadline + l.interval := by
  induction h with
  | stopped => omega
  | last hlook _ =>
    have := (look_glances selector _ _ _ _ _ hlook).in_time
    omega
  | cut _ _ hearly hmeets =>
    obtain ⟨-, t, -, ht, rfl⟩ := hmeets
    omega
  | again _ _ _ _ _ ih => exact ih (by omega)

theorem Polls.deadline_le (h : Polls stop l selector heed deadline before us r after)
    (hnone : r = .ok none) : deadline ≤ after := by
  induction h with
  | stopped | cut => cases hnone
  | last _ hlate => exact hlate hnone
  | again _ _ _ _ _ ih => exact ih hnone

theorem Polls.yields (h : Polls stop l selector heed deadline before us r after) :
    Yields stop heed before r after := by
  induction h with
  | stopped hheed hraised =>
    obtain ⟨t, ht, hle⟩ := raised_iff.mp hraised
    exact ⟨rfl, hheed, t, ht, by omega⟩
  | last hlook _ => exact (look_glances selector _ _ _ _ _ hlook).yields
  | cut hlook hnone _ hmeets =>
    have hyields := (look_glances selector _ _ _ _ _ hlook).yields
    rw [hnone] at hyields
    exact hyields.trans hlook.le (yields_of_pause hmeets : Yields (α := Unit) _ _ _ (.error _) _)
  | again hlook hnone _ hcalm _ ih =>
    have hyields := (look_glances selector _ _ _ _ _ hlook).yields
    rw [hnone] at hyields
    have hle := hlook.le
    have hpaused : Yields (α := Unit) _ _ _ (.ok ()) _ := hyields.trans hle (.inr hcalm)
    exact hpaused.trans (by omega) ih

/-- Each look but the last takes away an interval of the time up to the deadline, or all of it. -/
theorem Polls.length_mul_lt (h : Polls stop l selector heed deadline before us r after)
    (hbefore : before ≤ deadline) :
    us.length * l.interval < deadline - before + 2 * l.interval := by
  have hpos := l.interval_pos
  induction h with
  | stopped => simp; omega
  | last _ _ | cut _ _ _ _ => simp; omega
  | @again u us _ _ hlook _ hearly _ _ ih =>
    have hle := hlook.le
    have hrest := ih (by omega)
    rw [List.length_cons, Nat.succ_mul]
    by_cases hfits : l.interval ≤ deadline - u.ended
    · omega
    · -- The next look begins at the deadline, and is the last.
      have hlast : us.length < 2 := by
        have hlt : us.length * l.interval < 2 * l.interval := by omega
        exact Nat.lt_of_mul_lt_mul_right hlt
      have hone : us.length * l.interval ≤ 1 * l.interval := Nat.mul_le_mul_right _ (by omega)
      omega

theorem Polls.length_le (h : Polls stop l selector heed deadline before us r after)
    (hbefore : before ≤ deadline) :
    us.length ≤ (deadline - before) ⌈/⌉ l.interval + 1 := by
  have hlt := h.length_mul_lt hbefore
  rw [Nat.ceilDiv_eq_add_pred_div]
  have hdiv : us.length - 1 ≤ (deadline - before + l.interval - 1) / l.interval := by
    rw [Nat.le_div_iff_mul_le l.interval_pos, Nat.sub_mul]
    omega
  omega

end Polls

/-! ### Lookups -/

/-- A lookup that is begun after the stop does not look. -/
theorem resolve_halted (l : Lookup) (selector : Selector) (timeout t : Nat) :
    Halted t (l.resolve selector timeout true) := by
  intro before log r after hbefore hgoes
  obtain ⟨log, rfl, hpoll⟩ := goes_now_bind_run.mp hgoes
  have hhalted : Halted t (l.poll selector true (before + timeout) (timeout / l.interval + 2) 0) :=
    check_halted.bind
  rw [calls_cons_of_quiet (by trivial)]
  exact hhalted _ _ _ _ hbefore hpoll

/-- What a lookup may come to that was started at a time. -/
structure Bounds (interval timeout : Nat) (selector : Selector) (heed : Bool) (stop : Option Nat)
    (started : Nat) (log : Log) (r : Except StepError (Option Screen.Element)) (after : Nat) :
    Prop where
  in_time : after ≤ started + timeout + interval
  not_found : r = .ok none → started + timeout ≤ after
  error : ∀ e, r = .error e → e = .stopped ∧ heed ∧ stop.isSome
  /-- All calls are those of the looks, which ask once for each atom at most. -/
  looks : ∃ looks : List Look, looks.length ≤ timeout ⌈/⌉ interval + 1 ∧
    (∀ u ∈ looks, ∃ deadline, u.Of stop (look heed deadline selector).run) ∧
    calls log = looks.flatMap Stretch.calls
  calls_le : (calls log).length ≤ (timeout ⌈/⌉ interval + 1) * selector.atoms.length
  /-- A stop that comes meanwhile ends the lookup at once. -/
  stopped : ∀ t, heed → stop = some t → started < t →
    after < t ∨ after = t ∧ r = .error .stopped ∧ ∀ e ∈ calls log, e.made < t
  /-- A stop that is there at the start leaves no time to look. -/
  not_begun : ∀ t, heed → stop = some t → t ≤ started →
    after = started ∧ r = .error .stopped ∧ calls log = []

theorem bounds_of_goes {timeout started : Nat}
    (h : Goes stop (l.resolve selector timeout heed).run started log r after) :
    Bounds l.interval timeout selector heed stop started log r after := by
  obtain ⟨us, hpolls, hlog⟩ := polls_of_goes_resolve h
  have hyields := hpolls.yields
  have hlength := hpolls.length_le (Nat.le_add_right ..)
  rw [Nat.add_sub_cancel_left] at hlength
  refine ⟨hpolls.le (Nat.le_add_right ..), hpolls.deadline_le, ?_, ⟨us, hlength, ?_, hlog⟩, ?_,
    ?_, ?_⟩
  · intro e he
    exact hyields.eq_stopped he
  · exact hpolls.look_of
  · rw [hlog]
    exact Nat.le_trans hpolls.calls_le (Nat.mul_le_mul_right _ hlength)
  · rintro t hheed rfl hlate
    subst hheed
    obtain ⟨hcalls, hstop⟩ := l.resolve_prompt selector timeout _ _ _ _ hlate h
    by_cases ht : t ≤ after
    · have hr := hstop ht
      rw [hr] at hyields
      obtain ⟨-, -, t', ht', hafter⟩ := hyields
      cases ht'
      exact .inr ⟨by omega, hr, hcalls⟩
    · exact .inl (by omega)
  · rintro t hheed rfl hearly
    subst hheed
    obtain ⟨hcalls, hr⟩ := l.resolve_halted selector timeout t _ _ _ _ hearly h
    rw [hr] at hyields
    obtain ⟨-, -, t', ht', hafter⟩ := hyields
    cases ht'
    exact ⟨by omega, hr, hcalls⟩

/-- Whatever time the phone takes for its answers, a lookup comes to an end. It is over an interval
after its timeout at the latest, it does not give up before, and it looks no more often than there
are intervals. Nothing but a stop fails it, and that at once. -/
theorem resolve_bounded (interval timeout : Nat) (selector : Selector) (heed : Bool)
    (stop : Option Nat) (started : Nat) :
    Surely stop (fun r => ∀ e, r = .error e → e = .stopped)
        ((Lookup.ofInterval interval).resolve selector timeout heed).run started ∧
      ∀ log r after,
        Goes stop ((Lookup.ofInterval interval).resolve selector timeout heed).run started log r
          after →
        Bounds (max interval 1) timeout selector heed stop started log r after := by
  constructor
  · have hasks : ((Lookup.ofInterval interval).resolve selector timeout heed).run.Asks (Meets stop)
        fun _ => Request.OfLookup heed := resolve_asks _ selector timeout
    refine surely_of_no_overrun (hasks.mono ?_) ?_
    · rintro now q hq rfl
      exact hq.elim
    · intro log r after hgoes e he
      exact ((bounds_of_goes hgoes).error e he).1
  · intro log r after hgoes
    exact bounds_of_goes hgoes

/-- A lookup of half a second with an interval of 200 milliseconds, while nobody stops it: it looks
four times at most. -/
theorem resolve_bounded_signIn : ∃ log r after,
    Goes none ((Lookup.ofInterval 200).resolve (.one (.text "Sign In")) 500 true).run 0 log r
        after ∧
      after ≤ 700 ∧ (r = .ok none → 500 ≤ after) ∧ (calls log).length ≤ 4 := by
  obtain ⟨hends, hbounds⟩ := resolve_bounded 200 500 (.one (.text "Sign In")) true none 0
  obtain ⟨log, r, after, hgoes, -⟩ := hends.exists_goes
  have h := hbounds log r after hgoes
  exact ⟨log, r, after, hgoes, h.in_time, h.not_found, h.calls_le⟩

end Lookup

end CheckIn.Run
