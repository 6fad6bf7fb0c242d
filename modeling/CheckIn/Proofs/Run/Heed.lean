import CheckIn.Proofs.Run.Attempt
import CheckIn.Run.Steps

/-! How the stop of a run is heeded by what steps are made of. Let `t` be the time of the stop. What
is `Prompt` fails with the stop as soon as it comes. What is `Careful` calls nothing after the stop,
but carries a gesture through, and only the failure of that gesture can then be another error. What
is `Barred` calls nothing if it begins after the stop. These go through sequencing: after a gesture
only what is barred may follow. -/

namespace CheckIn.Run

open Process

variable {t before after : Nat} {log : Log} {α β : Type}

/-- A gesture that was in flight at `t` failed with this error. -/
def FailedAcross (t : Nat) (log : Log) (e : StepError) : Prop :=
  ∃ made c failure met, (⟨made, .call c, .error failure, met⟩ : Exchange) ∈ log ∧
    made < t ∧ t ≤ met ∧ e = .ofFailure failure

/-- How an attempt may end that was there when the stop came. -/
inductive Settles (t : Nat) (log : Log) : Except StepError α → Prop
  | ok (a : α) : Settles t log (.ok a)
  | stopped : Settles t log (.error .stopped)
  | failed {e : StepError} : FailedAcross t log e → Settles t log (.error e)

/-- Begun before the stop, the attempt calls nothing after it, and fails with it once it is
there. -/
def Prompt (t : Nat) (x : Attempt α) : Prop :=
  ∀ before log r after, before < t → Goes (some t) x.run before log r after →
    (∀ e ∈ calls log, e.made < t) ∧ (t ≤ after → r = .error .stopped)

/-- Begun before the stop, the attempt calls nothing after it, and fails only with it or with the
gesture in flight once it is there. -/
def Careful (t : Nat) (x : Attempt α) : Prop :=
  ∀ before log r after, before < t → Goes (some t) x.run before log r after →
    (∀ e ∈ calls log, e.made < t) ∧ (t ≤ after → Settles t log r)

/-- Begun after the stop, the attempt calls nothing, and fails only with the stop. -/
def Barred (t : Nat) (x : Attempt α) : Prop :=
  ∀ before log r after, t ≤ before → Goes (some t) x.run before log r after →
    calls log = [] ∧ ∀ e, r = .error e → e = .stopped

/-- Begun after the stop, the attempt calls nothing, and fails with the stop. -/
def Halted (t : Nat) (x : Attempt α) : Prop :=
  ∀ before log r after, t ≤ before → Goes (some t) x.run before log r after →
    calls log = [] ∧ r = .error .stopped

theorem Prompt.careful {x : Attempt α} (h : Prompt t x) : Careful t x := by
  intro before log r after hbefore hgoes
  obtain ⟨hcalls, hstop⟩ := h before log r after hbefore hgoes
  exact ⟨hcalls, fun ht => hstop ht ▸ .stopped⟩

theorem Halted.barred {x : Attempt α} (h : Halted t x) : Barred t x := by
  intro before log r after hbefore hgoes
  obtain ⟨hcalls, rfl⟩ := h before log r after hbefore hgoes
  exact ⟨hcalls, fun e he => (Except.error.inj he).symm⟩

/-! ### Sequencing -/

section Sequencing

variable {x : Attempt α} {f : α → Attempt β}

theorem Settles.of_error {e : StepError} (h : Settles (α := α) t log (.error e)) :
    Settles (α := β) t log (.error e) := by
  cases h with
  | stopped => exact .stopped
  | failed h => exact .failed h

theorem Settles.append {log' : Log} {r : Except StepError α} (h : Settles t log' r) :
    Settles t (log ++ log') r := by
  cases h with
  | ok a => exact .ok a
  | stopped => exact .stopped
  | failed h =>
    obtain ⟨made, c, failure, met, hmem, h⟩ := h
    exact .failed ⟨made, c, failure, met, List.mem_append_right _ hmem, h⟩

theorem calls_lt_of_eq_nil (h : calls log = []) : ∀ e ∈ calls log, e.made < t := by
  intro e he
  rw [h] at he
  exact absurd he List.not_mem_nil

/-- Calls of two logs in turn. -/
theorem calls_lt_append {log' : Log} (h : ∀ e ∈ calls log, e.made < t)
    (h' : ∀ e ∈ calls log', e.made < t) : ∀ e ∈ calls (log ++ log'), e.made < t := by
  intro e he
  rw [calls_append] at he
  rcases List.mem_append.mp he with he | he
  · exact h e he
  · exact h' e he

theorem Prompt.bind (hx : Prompt t x) (hf : ∀ a, Prompt t (f a)) : Prompt t (x >>= f) := by
  intro before log r after hbefore hgoes
  rcases goes_bind_run.mp hgoes with ⟨e, rfl, h₁⟩ | ⟨log₁, a, between, log₂, rfl, h₁, h₂⟩
  · obtain ⟨hcalls, hstop⟩ := hx _ _ _ _ hbefore h₁
    exact ⟨hcalls, fun ht => congrArg _ (Except.error.inj (hstop ht))⟩
  · obtain ⟨hcalls₁, hstop⟩ := hx _ _ _ _ hbefore h₁
    have hbetween : between < t := by
      by_cases ht : t ≤ between
      · cases hstop ht
      · omega
    obtain ⟨hcalls₂, hend⟩ := hf a _ _ _ _ hbetween h₂
    exact ⟨calls_lt_append hcalls₁ hcalls₂, hend⟩

/-- What is prompt comes before what is careful. -/
theorem Careful.bind_prompt (hx : Prompt t x) (hf : ∀ a, Careful t (f a)) :
    Careful t (x >>= f) := by
  intro before log r after hbefore hgoes
  rcases goes_bind_run.mp hgoes with ⟨e, rfl, h₁⟩ | ⟨log₁, a, between, log₂, rfl, h₁, h₂⟩
  · obtain ⟨hcalls, hend⟩ := hx.careful _ _ _ _ hbefore h₁
    exact ⟨hcalls, fun ht => (hend ht).of_error⟩
  · obtain ⟨hcalls₁, hstop⟩ := hx _ _ _ _ hbefore h₁
    have hbetween : between < t := by
      by_cases ht : t ≤ between
      · cases hstop ht
      · omega
    obtain ⟨hcalls₂, hend⟩ := hf a _ _ _ _ hbetween h₂
    exact ⟨calls_lt_append hcalls₁ hcalls₂, fun ht => (hend ht).append⟩

/-- After a gesture, the stop may be there already. -/
theorem Careful.bind (hx : Careful t x) (hf : ∀ a, Careful t (f a)) (hb : ∀ a, Barred t (f a)) :
    Careful t (x >>= f) := by
  intro before log r after hbefore hgoes
  rcases goes_bind_run.mp hgoes with ⟨e, rfl, h₁⟩ | ⟨log₁, a, between, log₂, rfl, h₁, h₂⟩
  · obtain ⟨hcalls, hend⟩ := hx _ _ _ _ hbefore h₁
    exact ⟨hcalls, fun ht => (hend ht).of_error⟩
  · obtain ⟨hcalls₁, -⟩ := hx _ _ _ _ hbefore h₁
    by_cases hbetween : between < t
    · obtain ⟨hcalls₂, hend⟩ := hf a _ _ _ _ hbetween h₂
      exact ⟨calls_lt_append hcalls₁ hcalls₂, fun ht => (hend ht).append⟩
    · obtain ⟨hcalls₂, hstop⟩ := hb a _ _ _ _ (by omega) h₂
      refine ⟨calls_lt_append hcalls₁ (calls_lt_of_eq_nil hcalls₂), fun _ => ?_⟩
      cases r with
      | ok b => exact .ok b
      | error e => exact hstop e rfl ▸ .stopped

theorem Barred.bind (hx : Barred t x) (hf : ∀ a, Barred t (f a)) : Barred t (x >>= f) := by
  intro before log r after hbefore hgoes
  rcases goes_bind_run.mp hgoes with ⟨e, rfl, h₁⟩ | ⟨log₁, a, between, log₂, rfl, h₁, h₂⟩
  · obtain ⟨hcalls, hstop⟩ := hx _ _ _ _ hbefore h₁
    exact ⟨hcalls, fun e' he => Except.error.inj he ▸ hstop e rfl⟩
  · have hle := h₁.le
    obtain ⟨hcalls₂, hstop⟩ := hf a _ _ _ _ (by omega) h₂
    rw [calls_append, (hx _ _ _ _ hbefore h₁).1, hcalls₂]
    exact ⟨rfl, hstop⟩

theorem Halted.bind (hx : Halted t x) : Halted t (x >>= f) := by
  intro before log r after hbefore hgoes
  rcases goes_bind_run.mp hgoes with ⟨e, rfl, h₁⟩ | ⟨log₁, a, between, log₂, rfl, h₁, -⟩
  · obtain ⟨hcalls, hstop⟩ := hx _ _ _ _ hbefore h₁
    exact ⟨hcalls, congrArg _ (Except.error.inj hstop)⟩
  · cases (hx _ _ _ _ hbefore h₁).2

theorem Careful.outcome (hx : Careful t x) : Careful t x.outcome := by
  intro before log r after hbefore hgoes
  obtain ⟨a, rfl, h₁⟩ := goes_outcome.mp hgoes
  exact ⟨(hx _ _ _ _ hbefore h₁).1, fun _ => .ok a⟩

end Sequencing

/-! ### Attempts -/

theorem pure_prompt (a : α) : Prompt t (pure a) := by
  intro before log r after hbefore hgoes
  obtain ⟨rfl, rfl, rfl⟩ := hgoes
  exact ⟨calls_lt_of_eq_nil rfl, fun ht => absurd ht (Nat.not_le.mpr hbefore)⟩

theorem throw_prompt (e : StepError) : Prompt (α := α) t (throw e) := by
  intro before log r after hbefore hgoes
  obtain ⟨rfl, rfl, rfl⟩ := hgoes
  exact ⟨calls_lt_of_eq_nil rfl, fun ht => absurd ht (Nat.not_le.mpr hbefore)⟩

theorem pure_barred (a : α) : Barred t (pure a) := by
  intro before log r after _ hgoes
  obtain ⟨rfl, rfl, -⟩ := hgoes
  exact ⟨rfl, nofun⟩

/-- Requests that are met at once and without a call. -/
def Request.IsInstant : Request → Prop
  | .now | .wallClock | .localTime | .isStopped | .tell _ | .overflow => True
  | _ => False

theorem goes_perform_instant {q : Request} {answer : q.Answer} {stop : Option Nat}
    (hq : q.IsInstant) (h : Goes stop (perform (I := interface) q) before log answer after) :
    calls log = [] ∧ after = before := by
  obtain ⟨rfl, hm⟩ := goes_perform.mp h
  cases q <;> first
    | exact hq.elim
    | exact ⟨rfl, hm⟩
    | exact ⟨rfl, hm.2⟩

theorem lift_prompt {q : Request} (hq : q.IsInstant) :
    Prompt t (liftM (perform (I := interface) q) : Attempt q.Answer) := by
  intro before log r after hbefore hgoes
  obtain ⟨answer, rfl, h₁⟩ := goes_lift_run.mp hgoes
  obtain ⟨hcalls, rfl⟩ := goes_perform_instant hq h₁
  exact ⟨calls_lt_of_eq_nil hcalls, fun ht => absurd ht (Nat.not_le.mpr hbefore)⟩

theorem lift_barred {q : Request} (hq : q.IsInstant) :
    Barred t (liftM (perform (I := interface) q) : Attempt q.Answer) := by
  intro before log r after _ hgoes
  obtain ⟨answer, rfl, h₁⟩ := goes_lift_run.mp hgoes
  exact ⟨(goes_perform_instant hq h₁).1, nofun⟩

theorem checked_prompt (fits : Prop) [Decidable fits] :
    Prompt t (liftM (Part.checked fits) : Attempt Unit) := by
  intro before log r after hbefore hgoes
  obtain ⟨u, rfl, hchecked⟩ := goes_lift_run.mp hgoes
  obtain ⟨rfl, rfl⟩ := goes_checked.mp hchecked
  exact ⟨calls_lt_of_eq_nil calls_overflows, fun ht => absurd ht (Nat.not_le.mpr hbefore)⟩

theorem checked_barred (fits : Prop) [Decidable fits] :
    Barred t (liftM (Part.checked fits) : Attempt Unit) := by
  intro before log r after _ hgoes
  obtain ⟨u, rfl, hchecked⟩ := goes_lift_run.mp hgoes
  exact ⟨(goes_checked.mp hchecked).1 ▸ calls_overflows, nofun⟩

theorem check_prompt : Prompt t (Attempt.check true) := by
  intro before log r after hbefore hgoes
  obtain ⟨rfl, rfl, rfl⟩ := goes_check.mp hgoes
  exact ⟨calls_lt_of_eq_nil rfl, fun ht => absurd ht (Nat.not_le.mpr hbefore)⟩

theorem check_halted : Halted t (Attempt.check true) := by
  intro before log r after hbefore hgoes
  obtain ⟨rfl, rfl, rfl⟩ := goes_check.mp hgoes
  rw [raised_some.mpr hbefore]
  exact ⟨rfl, rfl⟩

theorem pause_prompt (duration : Nat) : Prompt t (Attempt.pause duration true) := by
  intro before log r after hbefore hgoes
  obtain ⟨stopped, rfl, hm, rfl⟩ := goes_pause.mp hgoes
  refine ⟨calls_lt_of_eq_nil rfl, fun ht => ?_⟩
  cases stopped with
  | true => rfl
  | false => exact absurd ⟨rfl, raised_some.mpr ht⟩ hm.2

theorem pause_halted (duration : Nat) : Halted t (Attempt.pause duration true) := by
  intro before log r after hbefore hgoes
  obtain ⟨stopped, rfl, hm, rfl⟩ := goes_pause.mp hgoes
  cases stopped with
  | true => exact ⟨rfl, rfl⟩
  | false =>
    have hafter : t ≤ after := Nat.le_trans hbefore hm.le
    exact absurd ⟨rfl, raised_some.mpr hafter⟩ hm.2

/-- A query is given up when the stop comes. -/
theorem query_prompt (c : Phone.Call) (deadline : Option Nat) :
    Prompt t (Attempt.query c true deadline) := by
  intro before log r after hbefore hgoes
  obtain ⟨answer, rfl, hm, rfl⟩ := goes_query.mp hgoes
  constructor
  · intro e he
    rw [List.mem_singleton.mp (mem_calls.mp he).1]
    exact hbefore
  · intro ht
    cases answer with
    | answered a => exact absurd ⟨rfl, raised_some.mpr ht⟩ hm.2.2
    | timedOut => exact absurd ⟨rfl, raised_some.mpr ht⟩ hm.2
    | stopped => rfl

/-- A gesture is carried through, and only its failure is told. -/
theorem call_careful (c : Phone.Call) : Careful t (Attempt.call c) := by
  intro before log r after hbefore hgoes
  obtain ⟨answer, rfl, -, rfl⟩ := goes_call.mp hgoes
  constructor
  · intro e he
    rw [List.mem_singleton.mp (mem_calls.mp he).1]
    exact hbefore
  · intro ht
    cases answer with
    | ok reply => exact .ok reply
    | error failure =>
      exact .failed ⟨before, c, failure, after, List.mem_singleton_self _, hbefore, ht, rfl⟩

/-- A gesture whose failure is passed over is careful too. -/
theorem lift_call_careful (c : Phone.Call) :
    Careful t (liftM (Part.call c) : Attempt (Except Failure c.Reply)) := by
  intro before log r after hbefore hgoes
  obtain ⟨answer, rfl, h₁⟩ := goes_lift_run.mp hgoes
  obtain ⟨rfl, -⟩ := goes_perform.mp h₁
  refine ⟨fun e he => ?_, fun _ => .ok answer⟩
  rw [List.mem_singleton.mp (mem_calls.mp he).1]
  exact hbefore

end CheckIn.Run
