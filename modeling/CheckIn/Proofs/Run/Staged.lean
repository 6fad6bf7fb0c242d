import CheckIn.Proofs.Run.Exclusion
import CheckIn.Proofs.Run.Log
import CheckIn.Run.Staging

/-! Runs on a stage. A course waits in a world in which a flag may be raised once; `Offers` says how
the world answers it then. What is staged for a request meets it: a script that is guarded is given
up when the flag is raised or the deadline comes, and one that is not is carried through. So what a
part of a run comes to on a stage has a log. -/

namespace CheckIn.Run

open Process Timeline

variable {W F C α : Type} {stop : Option Nat} {before after : Nat}

/-- How the world answers a course if the flag of the stage is raised at the time `stop`, or not at
all. A wait that heeds the flag ends when it is raised, also if that is at the end of the wait. -/
def Offers (s : Staging W F) (stop : Option Nat) :
    Surroundings (Course.interface W F C) Nat
  | before, .now, now, after => now = before ∧ after = before
  | before, .get, world, after => s.raised world s.stop = raised stop before ∧ after = before
  | before, .set _, _, after | before, .schedule _ _, _, after => after = before
  | before, .wait duration none, isRaised, after => isRaised = false ∧ after = before + duration
  | before, .wait duration (some _), true, after =>
    ∃ t, stop = some t ∧ t ≤ before + duration ∧ after = max before t
  | before, .wait duration (some _), false, after =>
    after = before + duration ∧ raised stop after = false
  | _, .halt, _, _ => False

variable {s : Staging W F}

theorem offers_le {q : Course.Request W F C} {answer : Course.Request.Answer q}
    (h : Offers s stop before q answer after) : before ≤ after := by
  cases q with
  | now | get => exact Nat.le_of_eq h.2.symm
  | set _ | schedule _ _ => exact Nat.le_of_eq (Eq.symm h)
  | wait duration flag =>
    cases flag with
    | none => exact h.2 ▸ Nat.le_add_right ..
    | some f =>
      cases answer with
      | true => obtain ⟨t, -, -, rfl⟩ := h; omega
      | false => exact h.1 ▸ Nat.le_add_right ..
  | halt => exact h.elim

theorem comes_le {course : Course W F C α} {a : α}
    (h : course.Comes (Offers s stop) before a after) : before ≤ after := by
  induction course generalizing before with
  | done a => exact Nat.le_of_eq h.2.symm
  | ask q next ih =>
    obtain ⟨answer, between, hoffer, hnext⟩ := h
    exact Nat.le_trans (offers_le hoffer) (ih answer hnext)

/-- A wait with the flag of the stage. -/
theorem comes_wait {duration : Nat} {heed isRaised : Bool}
    (h : (Course.wait (C := C) duration (s.flag heed)).Comes (Offers s stop) before isRaised
      after) :
    Meets stop before (.pause duration heed) isRaised after := by
  obtain ⟨answer, between, hoffer, rfl, rfl⟩ := h
  cases heed with
  | false =>
    obtain ⟨rfl, rfl⟩ := hoffer
    exact ⟨rfl, nofun⟩
  | true =>
    cases isRaised with
    | true => exact ⟨rfl, hoffer⟩
    | false => exact ⟨hoffer.1, fun h => by rw [hoffer.2] at h; cases h.2⟩

/-- What is left of a query after a wait that heeded the stop and was over before the deadline. -/
theorem Meets.after_wait {c : Phone.Call} {heed : Bool} {deadline : Option Nat}
    {result : Request.Answer (.query c heed deadline)} {duration between : Nat}
    (h : Meets stop between (.query c heed deadline) result after)
    (hbetween : between = before + duration) (hcalm : ¬(heed ∧ raised stop between))
    (hin : ∀ d, deadline = some d → between ≤ d) :
    Meets stop before (.query c heed deadline) result after := by
  cases result with
  | answered answer =>
    obtain ⟨hle, hdeadline, hraised⟩ := h
    refine ⟨by omega, fun d hd => ?_, hraised⟩
    have := hdeadline d hd
    have := hin d hd
    omega
  | timedOut =>
    obtain ⟨⟨d, hd, rfl⟩, hraised⟩ := h
    have := hin d hd
    exact ⟨⟨d, hd, by omega⟩, hraised⟩
  | stopped =>
    obtain ⟨hheed, ⟨t, ht, rfl⟩, hdeadline⟩ := h
    have hlate : ¬t ≤ between := fun hle => hcalm ⟨hheed, raised_iff.mpr ⟨t, ht, hle⟩⟩
    refine ⟨hheed, ⟨t, ht, by omega⟩, fun d hd => ?_⟩
    have := hdeadline d hd
    have := hin d hd
    omega

/-- A wait is cut so that it ends no later than the deadline. -/
theorem add_cut_le (now duration : Nat) {deadline : Option Nat} {d : Nat} (h : deadline = some d) :
    now + ((deadline.filter (· < now + duration)).map (· - now)).getD duration ≤ max now d := by
  subst h
  by_cases hd : d < now + duration
  · rw [Option.filter_some_pos (by simpa using hd), Option.map_some, Option.getD_some]
    omega
  · rw [Option.filter_some_neg (by simpa using hd), Option.map_none, Option.getD_none]
    omega

/-- A wait of a script that is guarded: either it ends the query, or it is over in time. -/
theorem comes_waitGuarded {c : Phone.Call} {heed : Bool} {deadline : Option Nat} {duration : Nat}
    {early : Option (Request.Answer (.query c heed deadline))}
    (h : (Script.waitGuarded (C := C) (s.flag heed) deadline duration).Comes (Offers s stop) before
      early after) :
    (∀ result, early = some result → Meets stop before (.query c heed deadline) result after) ∧
      (early = none → after = before + duration ∧ ¬(heed ∧ raised stop after) ∧
        ∀ d, deadline = some d → after ≤ d) := by
  obtain ⟨now, _, ⟨_, _, ⟨rfl, rfl⟩, hnow, rfl⟩, hrest⟩ := comes_bind.mp h
  subst hnow
  obtain ⟨isRaised, between, hwait, rfl, rfl⟩ := comes_bind (p := Course.wait _ _) |>.mp hrest
  have hpause := comes_wait hwait
  cases isRaised with
  | true =>
    obtain ⟨hheed, t, ht, hle, rfl⟩ := hpause
    refine ⟨?_, nofun⟩
    rintro _ ⟨⟩
    refine ⟨hheed, ⟨t, ht, rfl⟩, fun d hd => ?_⟩
    have hcut := add_cut_le now duration hd
    omega
  | false =>
    obtain ⟨rfl, hcalm⟩ := hpause
    cases hcut : deadline.filter (· < now + duration) with
    | none =>
      rw [hcut] at hcalm
      have hlate : ∀ d, deadline = some d → now + duration ≤ d := by
        rintro d rfl
        simpa [Option.filter_eq_none_iff] using hcut
      exact ⟨nofun, fun _ => ⟨rfl, hcalm, hlate⟩⟩
    | some d =>
      obtain ⟨rfl, hearly⟩ := Option.filter_eq_some_iff.mp hcut
      rw [hcut] at hcalm
      refine ⟨?_, nofun⟩
      rintro _ ⟨⟩
      refine ⟨⟨d, rfl, ?_⟩, hcalm⟩
      rw [Option.map_some, Option.getD_some]
      omega

/-- A script that is guarded meets a query. -/
theorem comes_guarded {c : Phone.Call} {heed : Bool} {deadline : Option Nat}
    {script : Script W (Except Failure c.Reply)}
    {result : Request.Answer (.query c heed deadline)}
    (h : (script.guarded (C := C) (s.flag heed) deadline).Comes (Offers s stop) before result after)
    (hcalm : ¬(heed ∧ raised stop before)) :
    Meets stop before (.query c heed deadline) result after := by
  induction script generalizing before with
  | done a =>
    obtain ⟨rfl, rfl⟩ := h
    exact ⟨Nat.le_refl _, fun _ _ => Nat.le_max_left .., hcalm⟩
  | ask q next ih =>
    cases q with
    | now | get =>
      obtain ⟨answer, between, ⟨-, rfl⟩, hnext⟩ := h
      exact ih answer hnext hcalm
    | set world =>
      obtain ⟨answer, between, rfl, hnext⟩ := h
      exact ih answer hnext hcalm
    | wait duration =>
      obtain ⟨early, between, hwait, hnext⟩ := comes_bind.mp h
      obtain ⟨hsome, hnone⟩ := comes_waitGuarded hwait
      cases early with
      | some result' =>
        obtain ⟨rfl, rfl⟩ := hnext
        exact hsome _ rfl
      | none =>
        obtain ⟨hbetween, hcalm', hin⟩ := hnone rfl
        exact (ih () hnext hcalm').after_wait hbetween hcalm' hin
    | halt =>
      obtain ⟨nothing, -⟩ := h
      exact nothing.elim

/-- What is staged for a request meets it. -/
theorem comes_meet {q : Request} {answer : q.Answer} (hq : q ≠ .claim)
    (h : (s.meet (C := C) q).Comes (Offers s stop) before answer after) :
    Meets stop before q answer after := by
  cases q with
  | call c => exact comes_le h
  | query c heed deadline =>
    obtain ⟨world, now, ⟨_, _, ⟨hraised, rfl⟩, rfl, rfl⟩, hrest⟩ := comes_bind.mp h
    have hflag : (s.flag heed).any (s.raised world) = (heed && raised stop now) := by
      cases heed with
      | false => rfl
      | true => exact hraised
    rw [hflag] at hrest
    split at hrest
    case isTrue hstopped =>
      rw [Bool.and_eq_true] at hstopped
      obtain ⟨t, ht, hle⟩ := raised_iff.mp hstopped.2
      obtain ⟨rfl, rfl⟩ := hrest
      exact ⟨hstopped.1, ⟨t, ht, by omega⟩, fun d _ => by omega⟩
    case isFalse hcalm =>
      rw [Bool.and_eq_true] at hcalm
      exact comes_guarded hrest hcalm
  | now =>
    obtain ⟨answer', _, ⟨rfl, rfl⟩, rfl, rfl⟩ := h
    exact ⟨rfl, rfl⟩
  | wallClock | localTime =>
    obtain ⟨now, _, ⟨rfl, rfl⟩, -, rfl⟩ := h
    exact rfl
  | sleep duration =>
    obtain ⟨isRaised, _, ⟨-, rfl⟩, -, rfl⟩ := h
    exact rfl
  | pause duration heed => exact comes_wait h
  | isStopped =>
    obtain ⟨world, _, ⟨hraised, rfl⟩, rfl, rfl⟩ := h
    exact ⟨hraised, rfl⟩
  | tell note | forget | release =>
    obtain ⟨world, _, ⟨-, rfl⟩, answer', _, rfl, -, rfl⟩ := h
    exact rfl
  | claim => exact absurd rfl hq
  | overflow =>
    obtain ⟨nothing, -⟩ := h
    exact nothing.elim
  | overrun => exact answer.elim

/-- A part that comes to a value where its requests are met, and met in some way, has a log of
exchanges in that way. -/
theorem exists_goes_all_iff {Q : Exchange → Prop} {part : Part α} {a : α} :
    (∃ log, Goes stop part before log a after ∧ ∀ x ∈ log, Q x) ↔
      part.Comes (fun now q answer met => Meets stop now q answer met ∧ Q ⟨now, q, answer, met⟩)
        before a after := by
  induction part generalizing before with
  | done b =>
    constructor
    · rintro ⟨_, ⟨rfl, hab, hafter⟩, -⟩
      exact ⟨hab, hafter⟩
    · rintro ⟨hab, hafter⟩
      exact ⟨[], ⟨rfl, hab, hafter⟩, fun _ he => absurd he List.not_mem_nil⟩
  | ask q next ih =>
    constructor
    · rintro ⟨_, ⟨answer, between, log, rfl, hmeets, hgoes⟩, hlog⟩
      obtain ⟨hfirst, hrest⟩ := List.forall_mem_cons.mp hlog
      exact ⟨answer, between, ⟨hmeets, hfirst⟩, (ih answer).mp ⟨log, hgoes, hrest⟩⟩
    · rintro ⟨answer, between, ⟨hmeets, hfirst⟩, hcomes⟩
      obtain ⟨log, hgoes, hrest⟩ := (ih answer).mpr hcomes
      exact ⟨_, .ask hmeets hgoes, List.forall_mem_cons.mpr ⟨hfirst, hrest⟩⟩

theorem exists_goes_iff {part : Part α} {a : α} :
    (∃ log, Goes stop part before log a after) ↔ part.Comes (Meets stop) before a after := by
  have h : (∃ log, Goes stop part before log a after ∧ ∀ x ∈ log, True) ↔ _ := exists_goes_all_iff
  simpa using h

/-- What a part that asks for no place comes to on a stage has a log. -/
theorem goes_of_carry {part : Part α} {a : α}
    (hpart : part.AsksFrom (Meets stop) (fun _ (q : Request) => q ≠ .claim) before)
    (h : (s.carry (C := C) part).Comes (Offers s stop) before a after) :
    ∃ log, Goes stop part before log a after :=
  exists_goes_iff.mpr <| (comes_interpret.mp h).mono hpart fun _ _ _ _ hq hmeet =>
    comes_meet hq hmeet

theorem Leaving.asksFrom {σ : Type} {W : Surroundings interface σ} {p : Part (Option RunResult)}
    (h : Leaving p) (x : σ) : p.AsksFrom W (fun _ (q : Request) => q ≠ .claim) x := by
  cases h with
  | leaves hnext => exact ⟨nofun, fun _ _ _ => hnext ▸ trivial⟩

theorem Inside.asksFrom {σ : Type} {W : Surroundings interface σ} {p : Part (Option RunResult)}
    (h : Inside p) (x : σ) : p.AsksFrom W (fun _ (q : Request) => q ≠ .claim) x := by
  induction h generalizing x with
  | forgets hleaving => exact ⟨nofun, fun _ y _ => hleaving.asksFrom y⟩
  | goes hclaim _ _ _ ih => exact ⟨hclaim, fun answer y _ => ih answer y⟩

/-- An invocation asks for a place first. If it has one, what it comes to on a stage has a log. -/
theorem goes_of_invocation (scheduler : Scheduler) (v : Invocation) :
    ∃ next : Bool → Part (Option RunResult),
      v.part scheduler = .ask (I := interface) .claim next ∧
      ∀ before result after,
        (s.carry (C := C) (next true)).Comes (Offers s stop) before result after →
        ∃ log, Goes stop (v.part scheduler) before log result after := by
  obtain ⟨next, hpart, -, hinside⟩ := part_eq scheduler v
  refine ⟨next, hpart, fun before result after h => ?_⟩
  obtain ⟨log, hgoes⟩ := goes_of_carry (hinside.asksFrom before) h
  rw [hpart]
  exact ⟨_, true, before, log, rfl, ⟨rfl, rfl⟩, hgoes⟩

end CheckIn.Run
