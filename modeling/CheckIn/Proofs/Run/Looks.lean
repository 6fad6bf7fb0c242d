import CheckIn.Proofs.Run.Attempt
import CheckIn.Run.Lookup

/-! The looks of a lookup. Each look but the last is followed by a pause of an interval, or of what
is left up to the deadline, so only so many fit before it. The number of looks that `resolve` allows
is never used up, and a larger one would change nothing. -/

namespace CheckIn.Run

open Process

variable {α β ε : Type} {stop : Option Nat} {before after : Nat} {log : Log}

/-- What comes after an attempt may be replaced by what goes the same way. -/
theorem Goes.bind_run_congr {x : ExceptT ε (Process interface) α}
    {f g : α → ExceptT ε (Process interface) β} {r : Except ε β}
    (h : Goes stop (x >>= f).run before log r after)
    (hfg : ∀ log₁ a between log₂, Goes stop x.run before log₁ (.ok a) between →
      Goes stop (f a).run between log₂ r after → Goes stop (g a).run between log₂ r after) :
    Goes stop (x >>= g).run before log r after := by
  rcases goes_bind_run.mp h with ⟨e, rfl, hx⟩ | ⟨log₁, a, between, log₂, rfl, hx, hf⟩
  · exact goes_bind_run.mpr (.inl ⟨e, rfl, hx⟩)
  · exact goes_bind_run.mpr (.inr ⟨log₁, a, between, log₂, rfl, hx, hfg _ _ _ _ hx hf⟩)

namespace Lookup

variable {l : Lookup} {selector : Selector} {heed : Bool} {deadline : Nat} {looks : UInt32}
  {r : Except StepError (Option Screen.Element)}

/-- After a look and a pause, the looks that are left may be replaced by what goes the same way. -/
theorem goes_poll_congr {n m : Nat}
    (h : Goes stop (l.poll selector heed deadline (n + 1) looks).run before log r after)
    (hrest : ∀ later log', before ≤ later → later < deadline →
      Goes stop (l.poll selector heed deadline n (looks + 1)).run
        (later + min l.interval (deadline - later)) log' r after →
      Goes stop (l.poll selector heed deadline m (looks + 1)).run
        (later + min l.interval (deadline - later)) log' r after) :
    Goes stop (l.poll selector heed deadline (m + 1) looks).run before log r after := by
  unfold poll at h ⊢
  refine h.bind_run_congr fun _ _ _ _ hcheck h => ?_
  refine h.bind_run_congr fun _ _ _ _ hcounted h => ?_
  refine h.bind_run_congr fun _ _ _ _ hbegan h => ?_
  refine h.bind_run_congr fun _ found _ _ hlook h => ?_
  cases found with
  | some element => exact h
  | none =>
    refine h.bind_run_congr fun _ _ later _ hlater hlast => ?_
    obtain ⟨_, ⟨⟩, hnow⟩ := goes_lift_run.mp hlater
    obtain ⟨-, rfl, rfl⟩ := goes_perform.mp hnow
    have hle := Nat.le_trans (Nat.le_trans hcheck.le hcounted.le)
      (Nat.le_trans hbegan.le hlook.le)
    by_cases hdue : deadline ≤ later
    · rw [if_pos hdue] at hlast ⊢
      exact hlast
    · rw [if_neg hdue] at hlast ⊢
      refine hlast.bind_run_congr fun _ _ _ _ hpause hpoll => ?_
      obtain ⟨stopped, -, hmeets, hgoes⟩ := goes_pause.mp hpause
      cases stopped with
      | true => cases hgoes
      | false =>
        obtain ⟨rfl, -⟩ := hmeets
        exact hrest _ _ hle (Nat.lt_of_not_le hdue) hpoll

/-- Any two numbers of looks that fit all intervals up to the deadline come to the same. -/
theorem goes_poll {n m : Nat}
    (h : Goes stop (l.poll selector heed deadline (n + 1) looks).run before log r after)
    (hn : deadline ≤ before + n * l.interval) (hm : deadline ≤ before + m * l.interval) :
    Goes stop (l.poll selector heed deadline (m + 1) looks).run before log r after := by
  induction n generalizing m before log looks with
  | zero =>
    -- The first look ends no earlier than the deadline.
    refine goes_poll_congr h fun later log' hle hlater _ => ?_
    omega
  | succ n ih =>
    refine goes_poll_congr h fun later log' hle hlater hgoes => ?_
    cases m with
    | zero => omega
    | succ m =>
      rw [Nat.succ_mul] at hn hm
      exact ih hgoes (by omega) (by omega)

/-- A larger number of looks changes nothing. -/
theorem goes_resolve {timeout fuel : Nat} (hfuel : timeout / l.interval + 2 ≤ fuel) :
    Goes stop (l.resolve selector timeout heed).run before log r after ↔
      Goes stop (do l.poll selector heed ((← Part.now) + timeout) fuel 0 : Attempt _).run
        before log r after := by
  obtain ⟨m, rfl⟩ := Nat.exists_eq_add_of_le' (Nat.le_trans (Nat.le_add_left 1 _) hfuel)
  have hfits : timeout ≤ (timeout / l.interval + 1) * l.interval :=
    Nat.le_of_lt (Nat.lt_mul_of_div_lt (Nat.lt_succ_self _) l.interval_pos)
  have hmore : (timeout / l.interval + 1) * l.interval ≤ m * l.interval :=
    Nat.mul_le_mul_right _ (by omega)
  constructor <;> intro h <;>
  · refine h.bind_run_congr fun _ started _ _ hstarted hpoll => ?_
    obtain ⟨_, ⟨⟩, hnow⟩ := goes_lift_run.mp hstarted
    obtain ⟨-, rfl, rfl⟩ := goes_perform.mp hnow
    exact goes_poll hpoll (by omega) (by omega)

end Lookup

end CheckIn.Run
