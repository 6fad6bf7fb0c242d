import CheckIn.Proofs.Run.Candidates
import CheckIn.Proofs.Run.Staged
import CheckIn.Rehearsal.World

/-! A lookup on a scripted phone does not miss an element that lasts. The phone takes its time to
answer, and the answer shows the screen as it is when that time has passed. A look is made at least
once an interval up to the deadline, and it is never cut short while an answer takes less than an
interval. So the first look that ends when the element is there comes in time. -/

namespace CheckIn

namespace Run

open Process Timeline

variable {W F C α : Type} {stop : Option Nat} {heed : Bool} {before after : Nat} {log : Log}

/-! ### Stages that keep a condition -/

/-- What a course reads at a time satisfies `P`. -/
def Reads (P : Nat → W → Prop) (now : Nat) : (q : Course.Request W F C) → q.Answer → Prop
  | .get, world => P now world
  | _, _ => True

/-- How the world answers a course that nobody stops, if it satisfies `P` whenever it is read. -/
def OffersWith (s : Staging W F) (P : Nat → W → Prop) :
    Surroundings (Course.interface W F C) Nat :=
  fun now q answer after => Offers s none now q answer after ∧ Reads P now q answer

variable {s : Staging W F} {P : Nat → W → Prop}

theorem exists_offersWith (hP : ∀ now, ∃ world, P now world ∧ s.raised world s.stop = false)
    (now : Nat) {q : Course.Request W F C} (hq : q ≠ .halt) :
    ∃ answer after, OffersWith s P now q answer after := by
  cases q with
  | get =>
    obtain ⟨world, hworld, hcalm⟩ := hP now
    exact ⟨world, now, ⟨hcalm, rfl⟩, hworld⟩
  | now => exact ⟨now, now, ⟨rfl, rfl⟩, trivial⟩
  | set _ | schedule _ _ => exact ⟨(), now, rfl, trivial⟩
  | wait duration flag =>
    cases flag with
    | none => exact ⟨false, now + duration, ⟨rfl, rfl⟩, trivial⟩
    | some _ => exact ⟨false, now + duration, ⟨rfl, rfl⟩, trivial⟩
  | halt => exact absurd rfl hq

/-- A wait that nobody stops takes all its time. -/
theorem comes_wait_with {duration : Nat} {flag : Option F} {isRaised : Bool}
    (h : (Course.wait (C := C) duration flag).Comes (OffersWith s P) before isRaised after) :
    isRaised = false ∧ after = before + duration := by
  obtain ⟨answer, between, ⟨hoffer, -⟩, rfl, rfl⟩ := h
  cases flag with
  | none => exact hoffer
  | some _ =>
    cases isRaised with
    | false => exact ⟨rfl, hoffer.1⟩
    | true =>
      obtain ⟨_, hstop, -⟩ := hoffer
      cases hstop

section Guarded

variable {flag : Option F} {deadline : Nat} {result : Guarded α}

theorem comes_guarded_get {next : W → Script W α}
    (h : ((Script.get >>= next).guarded (C := C) flag (some deadline)).Comes (OffersWith s P) before
      result after) :
    ∃ world, P before world ∧
      ((next world).guarded (C := C) flag (some deadline)).Comes (OffersWith s P) before result
        after := by
  obtain ⟨world, _, ⟨⟨-, rfl⟩, hworld⟩, hnext⟩ := h
  exact ⟨world, hworld, hnext⟩

theorem comes_guarded_now {next : Nat → Script W α}
    (h : ((Script.now >>= next).guarded (C := C) flag (some deadline)).Comes (OffersWith s P) before
      result after) :
    ((next before).guarded (C := C) flag (some deadline)).Comes (OffersWith s P) before result
      after := by
  obtain ⟨_, _, ⟨⟨rfl, rfl⟩, -⟩, hnext⟩ := h
  exact hnext

theorem comes_guarded_set {world : W} {next : Unit → Script W α}
    (h : ((Script.set world >>= next).guarded (C := C) flag (some deadline)).Comes (OffersWith s P)
      before result after) :
    ((next ()).guarded (C := C) flag (some deadline)).Comes (OffersWith s P) before result after := by
  obtain ⟨_, _, ⟨rfl, -⟩, hnext⟩ := h
  exact hnext

theorem comes_guarded_modify {f : W → W} {next : Unit → Script W α}
    (h : ((Script.modify f >>= next).guarded (C := C) flag (some deadline)).Comes (OffersWith s P)
      before result after) :
    ((next ()).guarded (C := C) flag (some deadline)).Comes (OffersWith s P) before result after := by
  have hget : ((Script.get >>= fun w => Script.set (f w) >>= next).guarded (C := C) flag
      (some deadline)).Comes (OffersWith s P) before result after := h
  obtain ⟨_, -, hset⟩ := comes_guarded_get hget
  exact comes_guarded_set hset

/-- If there is time for a wait before the deadline, the script goes on after it. -/
theorem comes_guarded_wait {duration : Nat} {next : Unit → Script W α}
    (hin : before + duration ≤ deadline)
    (h : ((Script.wait duration >>= next).guarded (C := C) flag (some deadline)).Comes
      (OffersWith s P) before result after) :
    ((next ()).guarded (C := C) flag (some deadline)).Comes (OffersWith s P) (before + duration)
      result after := by
  obtain ⟨early, between, hguarded, hnext⟩ := comes_bind.mp h
  obtain ⟨now, _, ⟨_, _, ⟨⟨rfl, rfl⟩, -⟩, hnow, rfl⟩, hrest⟩ := comes_bind.mp hguarded
  subst hnow
  have hcut : (some deadline).filter (· < now + duration) = none := by
    simpa [Option.filter_eq_none_iff] using hin
  rw [hcut] at hrest
  obtain ⟨isRaised, _, hwait, rfl, rfl⟩ := comes_bind (p := Course.wait _ _) |>.mp hrest
  obtain ⟨rfl, rfl⟩ := comes_wait_with hwait
  exact hnext

end Guarded

/-- A script that halts nothing halts nothing when it is guarded. -/
theorem guarded_asks {V : Surroundings (Course.interface W F C) Nat} {script : Script W α}
    (hscript : script.Asks .any fun _ (q : Script.Request W) => q ≠ .halt) (flag : Option F)
    (deadline : Option Nat) :
    (script.guarded flag deadline).Asks V fun _ (q : Course.Request W F C) => q ≠ .halt := by
  induction script with
  | done a => exact asks_done _
  | ask q next ih =>
    obtain ⟨hq, hnext⟩ := hscript ()
    have ih (answer) := ih answer fun _ => hnext answer () trivial
    cases q with
    | now | get | set _ => exact Asks.bind (asks_perform nofun) ih
    | wait duration =>
      refine Asks.bind ?_ fun early => ?_
      · exact Asks.bind (asks_perform nofun) fun _ => Asks.bind (asks_perform nofun) fun _ =>
          asks_done _
      · cases early with
        | some result => exact asks_done _
        | none => exact ih ()
    | halt => exact absurd rfl hq

/-- What is staged for a request of a look comes to something, where no call halts anything. -/
theorem exists_comes_meet (hP : ∀ now, ∃ world, P now world ∧ s.raised world s.stop = false)
    (hreply : ∀ c, (s.reply c).Asks .any fun _ (q : Script.Request W) => q ≠ .halt)
    {q : Request} (hq : q.OfLook heed) :
    ∃ answer after, (s.meet (C := C) q).Comes (OffersWith s P) before answer after := by
  have hasks : (s.meet (C := C) q).Asks (OffersWith s P)
      fun _ (q : Course.Request W F C) => q ≠ .halt := by
    cases q with
    | query c heed deadline =>
      refine Asks.bind (asks_perform nofun) fun world => Asks.ite (fun _ => asks_done _) fun _ => ?_
      exact guarded_asks (hreply c) _ _
    | now => exact asks_perform nofun
    | isStopped => exact Asks.bind (asks_perform nofun) fun _ => asks_done _
    | _ => exact hq.elim
  exact (hasks before).exists_comes fun now q hq => exists_offersWith hP now hq

end Run

namespace Rehearsal

open Process Timeline Run

variable {R C : Type} {flag : Flag} {heed : Bool} {added latency since before after : Nat}
  {atom : Atom} {log : Log}

/-- A search for elements takes the time `latency` on the phone and `added` before it comes there.
It does not fail, and from `since` on there is an element for which the atom holds. -/
structure Serves (added latency since : Nat) (atom : Atom) (now : Nat) (w : World R) : Prop where
  added : w.latency .findAll = added
  takes : w.phone.queryLatency = latency
  passes : (strike .findAll w.faults).1 = none
  answers : w.phone.failsQueries = false
  lasts : since ≤ now → ∃ e ∈ w.phone.visible now, atom.holds e

/-- Searches that are served with an element early are served with one later. -/
theorem Serves.later {since' now : Nat} {w : World R} (h : Serves added latency since atom now w)
    (hle : since ≤ since') : Serves added latency since' atom now w :=
  { h with lasts := fun hnow => h.lasts (Nat.le_trans hle hnow) }

/-- A rehearsal that nobody stops, in which searches are served. -/
abbrev serving (R C : Type) (flag : Flag) (added latency since : Nat) (atom : Atom) :
    Surroundings (Course.interface (World R) Flag C) Nat :=
  OffersWith (staging flag) (Serves added latency since atom)

variable {deadline : Nat} {result : Guarded (Except Failure (List Screen.Element))}

theorem answer_findAll {phone : Phone.Scripted} (now : Nat) {selector : Selector}
    (h : phone.failsQueries = false) :
    phone.answer now (.findAll selector) =
      (.ok ((phone.visible now).filter selector.holds), phone) := by
  simp [Phone.Scripted.answer, h]

/-- A search that has come to the phone is answered with the elements that are there after its
time, if there is time for it. -/
theorem comes_answer {heeded : Option Flag} {selector : Selector}
    (hin : before + latency ≤ deadline)
    (h : ((answer (.findAll selector)).guarded heeded (some deadline)).Comes
      (serving R C flag added latency since atom) before result after) :
    after = before + latency ∧ ∃ w : World R, Serves added latency since atom after w ∧
      result = .answered (.ok ((w.phone.visible after).filter selector.holds)) := by
  obtain ⟨w₁, hw₁, h₁⟩ := comes_guarded_get h
  obtain rfl : w₁.phone.latency (.findAll selector) = latency := hw₁.takes
  have h₂ := comes_guarded_wait hin (comes_guarded_modify h₁)
  obtain ⟨w₂, hw₂, h₃⟩ := comes_guarded_get (comes_guarded_now h₂)
  rw [answer_findAll _ hw₂.answers] at h₃
  obtain ⟨rfl, rfl⟩ := comes_guarded_set h₃
  exact ⟨rfl, w₂, hw₂, rfl⟩

/-- A search waits, comes to the phone as no fault strikes, and waits again. Then it is answered, if
there is time for all that. -/
theorem comes_meet_findAll {selector : Selector} (hin : before + (added + latency) ≤ deadline)
    (h : ((staging flag).meet (.query (.findAll selector) heed (some deadline))).Comes
      (serving R C flag added latency since atom) before result after) :
    after = before + (added + latency) ∧ ∃ w : World R, Serves added latency since atom after w ∧
      result = .answered (.ok ((w.phone.visible after).filter selector.holds)) := by
  obtain ⟨world, now, ⟨_, _, ⟨⟨hraised, rfl⟩, -⟩, rfl, rfl⟩, hrest⟩ := comes_bind.mp h
  have hflag : ((staging (R := R) flag).flag heed).any ((staging flag).raised world) = false := by
    cases heed with
    | false => rfl
    | true => exact hraised
  rw [if_neg (by simp [hflag])] at hrest
  obtain ⟨w₁, hw₁, h₁⟩ := comes_guarded_get hrest
  obtain rfl : w₁.latency (.of (.findAll selector)) = added := hw₁.added
  have h₂ := comes_guarded_wait (by omega) h₁
  obtain ⟨w₂, hw₂, h₃⟩ := comes_guarded_get h₂
  have hpasses : strike (.of (.findAll selector)) w₂.faults =
      (none, (strike .findAll w₂.faults).2) := by
    rw [← hw₂.passes]
    rfl
  rw [hpasses] at h₃
  obtain ⟨rfl, w, hw, rfl⟩ := comes_answer (by omega) (comes_guarded_set h₃)
  exact ⟨by omega, w, hw, rfl⟩

end Rehearsal

/-! ### Looks at a screen with an element that lasts -/

namespace Run

open Process

variable {stop : Option Nat} {heed : Bool} {took since before after deadline : Nat} {atom : Atom}
  {log : Log} {r : Except StepError (Option Screen.Element)}

/-- If the exchange is a search for elements, with a deadline that leaves it the time `took`, it is
answered after that time with elements of a screen. From `since` on there is one for which the atom
holds. -/
def Exchange.Samples (took since : Nat) (atom : Atom) : Exchange → Prop
  | ⟨made, .query (.findAll selector) _ (some deadline), answer, met⟩ =>
    made + took ≤ deadline → met = made + took ∧ ∃ screen : List Screen.Element,
      answer = .answered (.ok (screen.filter selector.holds)) ∧
        (since ≤ met → ∃ e ∈ screen, atom.holds e)
  | _ => True

namespace Lookup

variable {l : Lookup}

theorem candidates_samples {r : Except StepError (Option (List Screen.Element))}
    (h : Goes none (candidates heed deadline atom).run before log r after)
    (hsamples : ∀ x ∈ calls log, x.Samples took since atom) (hin : before + took ≤ deadline) :
    after = before + took ∧ ∃ screen : List Screen.Element,
      r = .ok (some (screen.filter atom.holds)) ∧ (since ≤ after → ∃ e ∈ screen, atom.holds e) := by
  obtain ⟨answer, rfl, rfl⟩ := goes_candidates h
  obtain ⟨hmeets, -⟩ := h.meets _ (List.mem_singleton_self _)
  have hcall : answer ≠ .stopped := by
    rintro rfl
    obtain ⟨-, ⟨_, hstop, -⟩, -⟩ := hmeets
    cases hstop
  have hmem : ⟨before, .query (.findAll (.one atom)) heed (some deadline), answer, after⟩ ∈
      calls [⟨before, .query (.findAll (.one atom)) heed (some deadline), answer, after⟩] := by
    refine mem_calls.mpr ⟨List.mem_singleton_self _, ?_⟩
    cases answer with
    | answered _ | timedOut => rfl
    | stopped => exact absurd rfl hcall
  obtain ⟨hafter, screen, rfl, hlasts⟩ := hsamples _ hmem hin
  exact ⟨hafter, screen, rfl, hlasts⟩

/-- A look for which there is time finds an element that is there when it ends. -/
theorem look_samples (h : Goes none (look heed deadline (.one atom)).run before log r after)
    (hsamples : ∀ x ∈ calls log, x.Samples took since atom) (hin : before + took ≤ deadline) :
    after = before + took ∧
      ((∃ e, r = .ok (some e) ∧ atom.holds e) ∨ r = .ok none ∧ after < since) := by
  unfold look at h
  rcases goes_bind_run.mp h with ⟨e, rfl, hfirst⟩ | ⟨log₁, found, _, log₂, rfl, hfirst, hrest⟩
  · obtain ⟨-, _, hr, -⟩ := candidates_samples hfirst hsamples hin
    cases hr
  obtain ⟨rfl, rfl, rfl⟩ := hrest
  rw [List.append_nil] at hsamples
  obtain ⟨hafter, screen, hr, hlasts⟩ := candidates_samples hfirst hsamples hin
  obtain rfl := Except.ok.inj hr
  refine ⟨hafter, ?_⟩
  rw [Option.bind_some]
  cases hhead : (screen.filter atom.holds).head? with
  | some e => exact .inl ⟨e, rfl, (List.mem_filter.mp (List.mem_of_head? hhead)).2⟩
  | none =>
    refine .inr ⟨rfl, Nat.lt_of_not_le fun hsince => ?_⟩
    obtain ⟨e, he, hholds⟩ := hlasts hsince
    have hnil := List.head?_eq_none_iff.mp hhead
    exact List.filter_eq_nil_iff.mp hnil e he hholds

/-- While looks are sampled, a lookup finds an element that is there from `since` on. -/
theorem Polls.finds {us : List Look} (h : Polls none l (.one atom) heed deadline before us r after)
    (hsamples : ∀ u ∈ us, ∀ x ∈ u.calls, x.Samples took since atom) (htook : took < l.interval)
    (hsince : since ≤ deadline) (hbefore : before ≤ since + l.interval) :
    ∃ e, r = .ok (some e) ∧ atom.holds e ∧ after ≤ since + l.interval + took := by
  induction h with
  | stopped _ hraised => cases hraised
  | @last u hlook hlate =>
    obtain ⟨hended, ⟨e, hr, he⟩ | ⟨hr, hearly⟩⟩ :=
      look_samples hlook (hsamples u (List.mem_singleton_self u)) (by omega)
    · exact ⟨e, hr, he, by omega⟩
    · -- It has not come to the deadline, so it is not the last.
      have hdue := hlate hr
      omega
  | cut _ _ _ hmeets =>
    obtain ⟨-, _, hstop, -⟩ := hmeets
    cases hstop
  | @again u us r after hlook hnone hearly _ _ ih =>
    obtain ⟨hsample, hsamples⟩ := List.forall_mem_cons.mp hsamples
    obtain ⟨hended, ⟨e, hr, -⟩ | ⟨-, hmissed⟩⟩ := look_samples hlook hsample (by omega)
    · rw [hnone] at hr
      cases hr
    · exact ih hsamples (by omega)

theorem resolve_finds {timeout delay started : Nat}
    (h : Goes none (l.resolve (.one atom) timeout heed).run started log r after)
    (hsamples : ∀ x ∈ log, x.Samples took (started + delay) atom) (htook : took < l.interval)
    (hdelay : delay ≤ timeout) :
    ∃ e, r = .ok (some e) ∧ atom.holds e ∧ after ≤ started + delay + l.interval + took := by
  obtain ⟨us, hpolls, hcalls⟩ := polls_of_goes_resolve h
  refine hpolls.finds (fun u hu x hx => hsamples x ?_) htook (by omega) (by omega)
  have hmem : x ∈ calls log := hcalls ▸ List.mem_flatMap.mpr ⟨u, hu, hx⟩
  exact (mem_calls.mp hmem).1

end Lookup

end Run

namespace Rehearsal

open Process Run

variable {R C : Type} {flag : Flag} {heed : Bool} {added latency since : Nat} {atom : Atom}

/-- What is staged for a request of a lookup meets it, and samples the screen if it is a search. -/
theorem samples_of_comes {q : Request} {answer : q.Answer} {before after : Nat}
    (hq : q.OfLookup heed)
    (h : ((staging flag).meet q).Comes (serving R C flag added latency since atom) before answer
      after) :
    Meets none before q answer after ∧
      Exchange.Samples (added + latency) since atom ⟨before, q, answer, after⟩ := by
  have hmeets : Meets none before q answer after := by
    refine comes_meet (fun hclaim => ?_) (h.imp fun _ _ _ _ hoffer => hoffer.1)
    rw [hclaim] at hq
    exact hq
  refine ⟨hmeets, ?_⟩
  unfold Exchange.Samples
  split
  next heq =>
    cases heq
    intro hin
    obtain ⟨rfl, w, hw, rfl⟩ := comes_meet_findAll hin h
    exact ⟨rfl, _, rfl, hw.lasts⟩
  next => trivial

/-- No call halts a rehearsal. -/
theorem reply_asks (c : Phone.Call) : (reply (R := R) c).Asks .any
    fun _ (q : Timeline.Script.Request (World R)) => q ≠ .halt := by
  have hanswer : (answer (R := R) c).Asks .any
      fun _ (q : Timeline.Script.Request (World R)) => q ≠ .halt := by
    refine Asks.bind (asks_perform nofun) fun _ => ?_
    refine Asks.bind (Asks.bind (asks_perform nofun) fun _ => asks_perform nofun) fun _ => ?_
    refine Asks.bind (asks_perform nofun) fun _ => Asks.bind (asks_perform nofun) fun _ => ?_
    refine Asks.bind (asks_perform nofun) fun _ => Asks.bind (asks_perform nofun) fun _ => ?_
    exact asks_done _
  refine Asks.bind (asks_perform nofun) fun _ => Asks.bind (asks_perform nofun) fun _ => ?_
  refine Asks.bind (asks_perform nofun) fun w => Asks.bind (asks_perform nofun) fun _ => ?_
  cases (strike (.of c) w.faults).1 with
  | some failure => exact asks_done _
  | none => exact hanswer

/-- A phone that shows an element from a time on. -/
def showing (added latency since : Nat) (e : Screen.Element) : World R :=
  World.setLatency { World.start with
    phone := { Phone.Scripted.blank with
      showings := [⟨e, since, none⟩]
      queryLatency := latency } } .findAll added

theorem showing_serves {e : Screen.Element} (he : atom.holds e) (now : Nat) :
    Serves added latency since atom now (showing (R := R) added latency since e) where
  added := rfl
  takes := rfl
  passes := rfl
  answers := rfl
  lasts hsince := by
    refine ⟨e, ?_, he⟩
    simp [showing, World.setLatency, Phone.Scripted.visible, hsince]

/-- How the requests of a lookup are met in such a rehearsal. -/
abbrev served (R C : Type) (flag : Flag) (added latency since : Nat) (atom : Atom) :
    Surroundings Run.interface Nat :=
  fun now q answer met =>
    ((staging flag).meet q).Comes (serving R C flag added latency since atom) now answer met

/-- Where an element is shown, every part of a look comes to something. -/
theorem exists_comes_look (R C : Type) (flag : Flag) (added latency since before : Nat)
    {e : Screen.Element} (he : atom.holds e) {α : Type} {p : Run.Part α}
    (hp : ∀ {σ : Type} {W : Surroundings Run.interface σ}, p.Asks W fun _ => Request.OfLook heed) :
    ∃ log a after, p.Comes (served R C flag added latency since atom) before a after ∧
      Goes none p before log a after ∧ ∀ x ∈ log, x.Samples (added + latency) since atom := by
  have hserves (now : Nat) : ∃ w : World R,
      Serves added latency since atom now w ∧ (staging flag).raised w flag = false := by
    refine ⟨_, showing_serves he now, ?_⟩
    cases flag <;> rfl
  obtain ⟨a, after, hcomes⟩ := (hp before).exists_comes
    (W := served R C flag added latency since atom) fun now q hq =>
      exists_comes_meet hserves reply_asks hq
  obtain ⟨log, hgoes, hsamples⟩ := exists_goes_all_iff.mpr <| hcomes.mono (hp before)
    fun now q answer met hq hmeet => samples_of_comes hq.ofLookup hmeet
  exact ⟨log, a, after, hcomes, hgoes, hsamples⟩

theorem comes_now_bind_run {β : Type} {f : Nat → Attempt β} {r : Except StepError β}
    {before after : Nat}
    (h : (f before).run.Comes (served R C flag added latency since atom) before r after) :
    (liftM Part.now >>= f).run.Comes (served R C flag added latency since atom) before r after :=
  ⟨before, before, ⟨before, before, ⟨⟨rfl, rfl⟩, trivial⟩, rfl, rfl⟩, h⟩

/-- If an element is there from the beginning, a lookup comes to its end with the first look, so
that its looks are not too many to be counted. -/
theorem exists_comes_resolve (R C : Type) (flag : Flag) {e : Screen.Element} (he : atom.holds e)
    (l : Lookup) (heed : Bool) (timeout : Nat) (hlatency : added + latency < l.interval)
    (started : Nat) :
    ∃ r after, (l.resolve (.one atom) timeout heed).run.Comes
      (served R C flag added latency 0 atom) started r after := by
  obtain ⟨_, _, now, hcheck, hcalm, -⟩ := exists_comes_look R C flag added latency 0 started he
    (p := (Attempt.check heed).run) (Lookup.check_asks heed)
  obtain ⟨-, rfl, rfl | ⟨-, hraised, -⟩⟩ := Lookup.goes_check_cases hcalm
  · obtain ⟨log, r, after, hlook, hgoes, hsamples⟩ := exists_comes_look R C flag added latency 0
      now he (p := (Lookup.look heed (max (now + timeout) (now + l.interval)) (.one atom)).run)
      (Lookup.look_asks _ _)
    obtain ⟨-, ⟨e, rfl, -⟩ | ⟨-, hearly⟩⟩ := Lookup.look_samples hgoes
      (fun x hx => hsamples x (mem_calls.mp hx).1) (by omega)
    · refine ⟨.ok (some e), after, comes_now_bind_run (hcheck.bind_run ?_)⟩
      exact comes_now_bind_run (hlook.bind_run ⟨rfl, rfl⟩)
    · exact absurd hearly (Nat.not_lt_zero _)
  · cases hraised

/-- On a phone that answers within an interval and shows, from a time before the timeout on, an
element for which the atom holds, a lookup that nobody stops finds such an element, no later than an
interval and an answer after that time. -/
theorem resolve_lasting (R C : Type) (flag : Flag) (l : Lookup) (atom : Atom) (heed : Bool)
    {timeout delay added latency : Nat} (hlatency : added + latency < l.interval)
    (hdelay : delay ≤ timeout) (started : Nat) :
    let lookup : Timeline.Course (World R) Flag C (Except StepError (Option Screen.Element)) :=
      (staging flag).carry (l.resolve (.one atom) timeout heed).run
    let surroundings := serving R C flag added latency (started + delay) atom
    ((∃ e, atom.holds e) → ∃ r after, lookup.Comes surroundings started r after) ∧
      ∀ r after, lookup.Comes surroundings started r after →
        ∃ e, r = .ok (some e) ∧ atom.holds e ∧
          after ≤ started + delay + l.interval + (added + latency) := by
  intro lookup surroundings
  have hasks {V : Surroundings interface Nat} : (l.resolve (.one atom) timeout heed).run.Asks V
      fun _ => Request.OfLookup heed := l.resolve_asks (.one atom) timeout
  constructor
  · rintro ⟨e, he⟩
    obtain ⟨r, after, h⟩ := exists_comes_resolve R C flag he l heed timeout hlatency started
    refine ⟨r, after, (comes_interpret.mpr h).imp fun now q answer met hoffer => ⟨hoffer.1, ?_⟩⟩
    cases q with
    | get => exact hoffer.2.later (Nat.zero_le _)
    | _ => trivial
  · intro r after h
    have hcomes := (comes_interpret.mp h).mono (hasks started) fun now q answer met hq hmeet =>
      samples_of_comes hq hmeet
    obtain ⟨log, hgoes, hsamples⟩ := exists_goes_all_iff.mpr hcomes
    exact Lookup.resolve_finds hgoes hsamples hlatency hdelay

/-- An element that appears as the timeout is over is found within the interval after it. -/
theorem resolve_lasting_signIn :
    let lookup : Timeline.Course (World Unit) Flag Empty (Except StepError (Option Screen.Element)) :=
      (staging .run).carry ((Lookup.ofInterval 200).resolve (.one (.text "Sign In")) 500 true).run
    120 + 60 < 200 ∧ 500 ≤ 500 ∧ ∃ r after,
      lookup.Comes (serving Unit Empty .run 120 60 500 (.text "Sign In")) 0 r after ∧
        (∃ e, r = .ok (some e) ∧ (Atom.text "Sign In").holds e) ∧ after ≤ 880 := by
  intro lookup
  have hlatency : 120 + 60 < (Lookup.ofInterval 200).interval := by decide
  obtain ⟨hcomes, hfound⟩ := resolve_lasting Unit Empty .run (Lookup.ofInterval 200)
    (.text "Sign In") true hlatency (Nat.le_refl 500) 0
  obtain ⟨r, after, h⟩ := hcomes ⟨{ Screen.Element.blank with text := "Sign In" }, by decide⟩
  obtain ⟨e, hr, he, hafter⟩ := hfound r after h
  exact ⟨hlatency, Nat.le_refl 500, r, after, h, ⟨e, hr, he⟩, hafter⟩

end Rehearsal

end CheckIn
