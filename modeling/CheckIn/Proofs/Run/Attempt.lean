import CheckIn.Proofs.Run.Log

/-! What happens to attempts: an attempt goes on with the next part only after a success. Beside
the sequencing stand the attempts from which all others are made: calls, queries, pauses, and the
check for a stop. -/

namespace CheckIn.Run

open Process

variable {α β ε : Type} {stop : Option Nat} {before after : Nat} {log : Log}

/-- What happens to two attempts in turn. -/
theorem goes_bind_run {x : ExceptT ε (Process interface) α}
    {f : α → ExceptT ε (Process interface) β} {r : Except ε β} :
    Goes stop (x >>= f).run before log r after ↔
      (∃ e, r = .error e ∧ Goes stop x.run before log (.error e) after) ∨
      ∃ log₁ a between log₂, log = log₁ ++ log₂ ∧ Goes stop x.run before log₁ (.ok a) between ∧
        Goes stop (f a).run between log₂ r after := by
  rw [ExceptT.run_bind, goes_bind]
  constructor
  · rintro ⟨log₁, ea, between, log₂, rfl, hx, hf⟩
    cases ea with
    | ok a => exact .inr ⟨log₁, a, between, log₂, rfl, hx, hf⟩
    | error e =>
      obtain ⟨rfl, rfl, rfl⟩ := hf
      exact .inl ⟨e, rfl, by simpa using hx⟩
  · rintro (⟨e, rfl, hx⟩ | ⟨log₁, a, between, log₂, rfl, hx, hf⟩)
    · exact ⟨log, .error e, after, [], (List.append_nil _).symm, hx, rfl, rfl, rfl⟩
    · exact ⟨log₁, .ok a, between, log₂, rfl, hx, hf⟩

/-- Two attempts in turn succeed when both do. -/
theorem goes_bind_ok {x : ExceptT ε (Process interface) α}
    {f : α → ExceptT ε (Process interface) β} {b : β} :
    Goes stop (x >>= f).run before log (.ok b) after ↔ ∃ log₁ a between log₂,
      log = log₁ ++ log₂ ∧ Goes stop x.run before log₁ (.ok a) between ∧
        Goes stop (f a).run between log₂ (.ok b) after := by
  rw [goes_bind_run]
  constructor
  · rintro (⟨e, he, -⟩ | h)
    · cases he
    · exact h
  · exact .inr

@[simp] theorem goes_pure_run {a : α} {r : Except ε α} :
    Goes stop (pure a : ExceptT ε (Process interface) α).run before log r after ↔
      log = [] ∧ r = .ok a ∧ after = before := Iff.rfl

@[simp] theorem goes_throw_run {e : ε} {r : Except ε α} :
    Goes stop (throw e : ExceptT ε (Process interface) α).run before log r after ↔
      log = [] ∧ r = .error e ∧ after = before := Iff.rfl

theorem goes_lift_run {p : Part α} {r : Except ε α} :
    Goes stop (liftM p : ExceptT ε (Process interface) α).run before log r after ↔
      ∃ a, r = .ok a ∧ Goes stop p before log a after :=
  goes_map

/-- What happens to a part that cannot fail and an attempt in turn. -/
theorem goes_lift_bind_run {p : Part α} {f : α → ExceptT ε (Process interface) β}
    {r : Except ε β} :
    Goes stop (liftM p >>= f).run before log r after ↔ ∃ log₁ a between log₂,
      log = log₁ ++ log₂ ∧ Goes stop p before log₁ a between ∧
        Goes stop (f a).run between log₂ r after := by
  rw [goes_bind_run]
  constructor
  · rintro (⟨e, rfl, h⟩ | ⟨log₁, a, between, log₂, rfl, h, hf⟩)
    · obtain ⟨a, ha, -⟩ := goes_lift_run.mp h
      cases ha
    · obtain ⟨a, ⟨⟩, hp⟩ := goes_lift_run.mp h
      exact ⟨log₁, a, between, log₂, rfl, hp, hf⟩
  · rintro ⟨log₁, a, between, log₂, rfl, hp, hf⟩
    exact .inr ⟨log₁, a, between, log₂, rfl, goes_lift_run.mpr ⟨a, rfl, hp⟩, hf⟩

/-- A look at the clock takes no time. -/
theorem goes_now_bind_run {f : Nat → ExceptT ε (Process interface) β} {r : Except ε β} :
    Goes stop (liftM Part.now >>= f).run before log r after ↔
      ∃ log', log = ⟨before, .now, before, before⟩ :: log' ∧
        Goes stop (f before).run before log' r after := by
  constructor
  · rintro ⟨_, _, log', rfl, ⟨rfl, rfl⟩, h⟩
    exact ⟨log', rfl, h⟩
  · rintro ⟨log', rfl, h⟩
    exact ⟨before, before, log', rfl, ⟨rfl, rfl⟩, h⟩

/-- A number that does not fit its word overflows. -/
theorem goes_checked_bind_run {fits : Prop} [Decidable fits]
    {f : Unit → ExceptT ε (Process interface) β} {r : Except ε β} :
    Goes stop (liftM (Part.checked fits) >>= f).run before log r after ↔
      ∃ log', log = overflows fits before ++ log' ∧ Goes stop (f ()).run before log' r after := by
  rw [goes_lift_bind_run]
  constructor
  · rintro ⟨_, _, _, log', rfl, hchecked, h⟩
    obtain ⟨rfl, rfl⟩ := goes_checked.mp hchecked
    exact ⟨log', rfl, h⟩
  · rintro ⟨log', rfl, h⟩
    exact ⟨_, (), before, log', rfl, goes_checked.mpr ⟨rfl, rfl⟩, h⟩

/-- What two attempts in turn ask for. -/
theorem asksFrom_bind_run {x : ExceptT ε (Process interface) α}
    {f : α → ExceptT ε (Process interface) β} {P : Nat → Request → Prop} :
    (x >>= f).run.AsksFrom (Meets stop) P before ↔ x.run.AsksFrom (Meets stop) P before ∧
      ∀ log a between, Goes stop x.run before log (.ok a) between →
        (f a).run.AsksFrom (Meets stop) P between := by
  rw [ExceptT.run_bind, asksFrom_bind]
  refine and_congr_right fun _ => ⟨fun h log a between hgoes => h log (.ok a) between hgoes, ?_⟩
  intro h log result between hgoes
  cases result with
  | ok a => exact h log a between hgoes
  | error e => trivial

theorem asksFrom_now_bind_run {f : Nat → ExceptT ε (Process interface) β}
    {P : Nat → Request → Prop} : (liftM Part.now >>= f).run.AsksFrom (Meets stop) P before ↔
      P before .now ∧ (f before).run.AsksFrom (Meets stop) P before := by
  constructor
  · rintro ⟨hnow, h⟩
    exact ⟨hnow, h before before ⟨rfl, rfl⟩⟩
  · rintro ⟨hnow, h⟩
    refine ⟨hnow, ?_⟩
    rintro _ _ ⟨rfl, rfl⟩
    exact h

/-- Whatever the surroundings do, a part that begins at `before` finds that every number fits its
word. -/
abbrev NeverOverflows (stop : Option Nat) (p : Part α) (before : Nat) : Prop :=
  p.AsksFrom (Meets stop) (fun _ (q : Request) => q ≠ .overflow) before

theorem neverOverflows_now_bind_run {f : Nat → Attempt α} :
    NeverOverflows stop (liftM Part.now >>= f).run before ↔
      NeverOverflows stop (f before).run before :=
  asksFrom_now_bind_run.trans (and_iff_right nofun)

theorem neverOverflows_checked_bind_run {fits : Prop} [Decidable fits] {f : Unit → Attempt α} :
    NeverOverflows stop (liftM (Part.checked fits) >>= f).run before ↔
      fits ∧ NeverOverflows stop (f ()).run before := by
  unfold Part.checked
  split
  case isTrue h => exact (and_iff_right h).symm
  case isFalse h => exact iff_of_false (fun hasks => hasks.1 rfl) fun hfits => h hfits.1

theorem goes_outcome {x : Attempt α} {r : Except StepError (Except StepError α)} :
    Goes stop x.outcome.run before log r after ↔
      ∃ a, r = .ok a ∧ Goes stop x.run before log a after :=
  goes_map

/-! ### Requests of attempts -/

theorem goes_call {c : Phone.Call} {r : Except StepError c.Reply} :
    Goes stop (Attempt.call c).run before log r after ↔ ∃ answer : Except Failure c.Reply,
      log = [⟨before, .call c, answer, after⟩] ∧ before ≤ after ∧
        r = answer.mapError StepError.ofFailure := by
  constructor
  · rintro ⟨answer, between, rest, rfl, hm, hr⟩
    cases answer <;>
    · obtain ⟨rfl, rfl, rfl⟩ := hr
      exact ⟨_, rfl, hm, rfl⟩
  · rintro ⟨answer, rfl, hle, rfl⟩
    refine ⟨answer, after, [], rfl, hle, ?_⟩
    cases answer <;> exact ⟨rfl, rfl, rfl⟩

theorem goes_pause {duration : Nat} {heed : Bool} {r : Except StepError Unit} :
    Goes stop (Attempt.pause duration heed).run before log r after ↔ ∃ stopped,
      log = [⟨before, .pause duration heed, stopped, after⟩] ∧
        Meets stop before (.pause duration heed) stopped after ∧
        r = if stopped then .error .stopped else .ok () := by
  constructor
  · rintro ⟨stopped, between, rest, rfl, hm, hr⟩
    cases stopped <;>
    · obtain ⟨rfl, rfl, rfl⟩ := hr
      exact ⟨_, rfl, hm, rfl⟩
  · rintro ⟨stopped, rfl, hm, rfl⟩
    refine ⟨stopped, after, [], rfl, hm, ?_⟩
    cases stopped <;> exact ⟨rfl, rfl, rfl⟩

theorem goes_query {c : Phone.Call} {heed : Bool} {deadline : Option Nat}
    {r : Except StepError (Option (Except Failure c.Reply))} :
    Goes stop (Attempt.query c heed deadline).run before log r after ↔
      ∃ answer, log = [⟨before, .query c heed deadline, answer, after⟩] ∧
        Meets stop before (.query c heed deadline) answer after ∧
        r = match answer with
          | .answered a => .ok (some a)
          | .timedOut => .ok none
          | .stopped => .error .stopped := by
  constructor
  · rintro ⟨answer, between, rest, rfl, hm, hr⟩
    cases answer <;>
    · obtain ⟨rfl, rfl, rfl⟩ := hr
      exact ⟨_, rfl, hm, rfl⟩
  · rintro ⟨answer, rfl, hm, rfl⟩
    refine ⟨answer, after, [], rfl, hm, ?_⟩
    cases answer <;> exact ⟨rfl, rfl, rfl⟩

theorem goes_check {r : Except StepError Unit} :
    Goes stop (Attempt.check true).run before log r after ↔
      log = [⟨before, .isStopped, raised stop before, before⟩] ∧ after = before ∧
        r = if raised stop before then .error .stopped else .ok () := by
  constructor
  · rintro ⟨stopped, between, rest, rfl, ⟨rfl, rfl⟩, hr⟩
    cases h : raised stop between <;>
    · rw [h] at hr
      obtain ⟨rfl, rfl, rfl⟩ := hr
      exact ⟨by simp, rfl, rfl⟩
  · rintro ⟨rfl, rfl, rfl⟩
    refine ⟨raised stop after, after, [], rfl, ⟨rfl, rfl⟩, ?_⟩
    cases raised stop after <;> exact ⟨rfl, rfl, rfl⟩

end CheckIn.Run
