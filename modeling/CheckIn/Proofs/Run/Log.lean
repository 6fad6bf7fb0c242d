import CheckIn.Proofs.Requests
import CheckIn.Run.Request

/-! What happens to a part of a run. Its requests are met one after the other on a clock that never
goes back; `Meets` says which answers the surroundings may give to a request and when. Nothing is
assumed of the phone: a call may take any time, fail, or answer anything. The stop of a run comes
from outside, at most one time in it, and `Goes` says that a part comes to a value through the
exchanges of a log. `Surely` says that it comes to an end whatever the surroundings do. -/

namespace CheckIn.Run

open Process

/-- A request that was made at a time, and the answer with which it was met at another. -/
structure Exchange where
  made : Nat
  request : Request
  answer : request.Answer
  met : Nat

abbrev Log : Type := List Exchange

/-- The call to the phone that was issued, if one was. A query that found the stop there already is
not begun. -/
def Exchange.call? : Exchange → Option Phone.Call
  | ⟨_, .call c, _, _⟩ => some c
  | ⟨made, .query c _ _, .stopped, met⟩ => if met = made then none else some c
  | ⟨_, .query c _ _, .answered _, _⟩ | ⟨_, .query c _ _, .timedOut, _⟩ => some c
  | _ => none

/-- The exchanges of a log in which a call was issued. -/
def calls (log : Log) : Log := log.filter (·.call?.isSome)

/-- Whether a stop at the time `stop`, if there is one, has been asked for by now. The flag that it
raises stays up until the end of the run. -/
def raised (stop : Option Nat) (now : Nat) : Bool := stop.any (· ≤ now)

/-- A request that is made at `before` may be met with this answer at `after`. Gestures are carried
through, whatever time they take. A query of the screen is over once its deadline comes, and it is
given up when a stop comes that it heeds; it is not begun if the stop was there before. A stop that
comes with a deadline, or with the end of a pause, counts as before it. What comes after an overflow
is met as well; overflow checks leave the logs that have none. -/
def Meets (stop : Option Nat) (before : Nat) : (q : Request) → q.Answer → (after : Nat) → Prop
  | .call _, _, after => before ≤ after
  | .query _ heed deadline, .answered _, after =>
    before ≤ after ∧ (∀ d, deadline = some d → after ≤ max before d) ∧ ¬(heed ∧ raised stop after)
  | .query _ heed deadline, .timedOut, after =>
    (∃ d, deadline = some d ∧ after = max before d) ∧ ¬(heed ∧ raised stop after)
  | .query _ heed deadline, .stopped, after =>
    heed ∧ (∃ t, stop = some t ∧ after = max before t) ∧
      ∀ d, deadline = some d → after ≤ max before d
  | .now, now, after => now = before ∧ after = before
  | .wallClock, _, after | .localTime, _, after => after = before
  | .sleep duration, _, after => after = before + duration
  | .pause duration heed, true, after =>
    heed ∧ ∃ t, stop = some t ∧ t ≤ before + duration ∧ after = max before t
  | .pause duration heed, false, after =>
    after = before + duration ∧ ¬(heed ∧ raised stop after)
  | .isStopped, answer, after => answer = raised stop before ∧ after = before
  | .tell _, _, after | .forget, _, after | .release, _, after | .overflow, _, after =>
    after = before
  | .claim, isFree, after => isFree = true ∧ after = before
  | .overrun, _, _ => False

variable {α β ε : Type} {stop : Option Nat} {before after : Nat} {log : Log}

/-- A part that begins at `before` comes to a value at `after`, through the exchanges of a log. -/
def Goes (stop : Option Nat) : Part α → (before : Nat) → Log → α → (after : Nat) → Prop
  | .done a, before, log, b, after => log = [] ∧ b = a ∧ after = before
  | .ask q next, before, log, b, after => ∃ answer between rest,
    log = ⟨before, q, answer, between⟩ :: rest ∧ Meets stop before q answer between ∧
      Goes stop (next answer) between rest b after

/-- A part that begins at `before` has come, through the exchanges of a log, to what is left of it
at `after`. -/
inductive Reaches (stop : Option Nat) : Part α → (before : Nat) → Log → (rest : Part α) →
    (after : Nat) → Prop
  | here {p : Part α} {now : Nat} : Reaches stop p now [] p now
  | later {q : Request} {next : q.Answer → Part α} {answer : q.Answer} {before between after : Nat}
      {log : Log} {rest : Part α} :
      Meets stop before q answer between → Reaches stop (next answer) between log rest after →
      Reaches stop (.ask (I := interface) q next) before (⟨before, q, answer, between⟩ :: log) rest
        after

/-- Whatever the surroundings do, a part that begins at `before` comes to an end, with a value that
satisfies `Q`. If it overflows before that, overflow checks end the program there. -/
def Surely (stop : Option Nat) (Q : α → Prop) : Part α → (before : Nat) → Prop
  | .done a, _ => Q a
  | .ask q next, before => (∃ answer after, Meets stop before q answer after) ∧
    ∀ answer after, Meets stop before q answer after → Surely stop Q (next answer) after

@[simp] theorem goes_done {a b : α} :
    Goes stop (.done a) before log b after ↔ log = [] ∧ b = a ∧ after = before := Iff.rfl

@[simp] theorem goes_pure {a b : α} :
    Goes stop (pure a) before log b after ↔ log = [] ∧ b = a ∧ after = before := Iff.rfl

theorem Goes.ask {q : Request} {next : q.Answer → Part α} {answer : q.Answer}
    {between : Nat} {a : α} (hmeets : Meets stop before q answer between)
    (h : Goes stop (next answer) between log a after) :
    Goes stop (.ask q next) before (⟨before, q, answer, between⟩ :: log) a after :=
  ⟨answer, between, log, rfl, hmeets, h⟩

theorem goes_perform {q : Request} {answer : q.Answer} :
    Goes stop (perform (I := interface) q) before log answer after ↔
      log = [⟨before, q, answer, after⟩] ∧ Meets stop before q answer after := by
  constructor
  · rintro ⟨answer', between, rest, rfl, hm, rfl, rfl, rfl⟩
    exact ⟨rfl, hm⟩
  · rintro ⟨rfl, hm⟩
    exact ⟨answer, after, [], rfl, hm, rfl, rfl, rfl⟩

/-- What happens to two parts in turn. -/
theorem goes_bind {p : Part α} {f : α → Part β} {b : β} :
    Goes stop (p >>= f) before log b after ↔ ∃ log₁ a between log₂, log = log₁ ++ log₂ ∧
      Goes stop p before log₁ a between ∧ Goes stop (f a) between log₂ b after := by
  induction p generalizing before log with
  | done a =>
    constructor
    · intro h
      exact ⟨[], a, before, log, rfl, ⟨rfl, rfl, rfl⟩, h⟩
    · rintro ⟨_, _, _, _, rfl, ⟨rfl, rfl, rfl⟩, h⟩
      exact h
  | ask q next ih =>
    constructor
    · rintro ⟨answer, m, rest, rfl, hm, h⟩
      obtain ⟨log₁, a, between, log₂, rfl, hp, hf⟩ := (ih answer).mp h
      exact ⟨_ :: log₁, a, between, log₂, rfl, ⟨answer, m, log₁, rfl, hm, hp⟩, hf⟩
    · rintro ⟨_, a, between, log₂, rfl, ⟨answer, m, log₁, rfl, hm, hp⟩, hf⟩
      exact ⟨answer, m, log₁ ++ log₂, rfl, hm, (ih answer).mpr ⟨_, a, between, _, rfl, hp, hf⟩⟩

theorem goes_map {p : Part α} {f : α → β} {b : β} :
    Goes stop (f <$> p) before log b after ↔ ∃ a, b = f a ∧ Goes stop p before log a after := by
  rw [map_eq_pure_bind, goes_bind]
  constructor
  · rintro ⟨log₁, a, between, _, rfl, hp, rfl, rfl, rfl⟩
    exact ⟨a, rfl, by simpa using hp⟩
  · rintro ⟨a, rfl, hp⟩
    exact ⟨log, a, after, [], (List.append_nil _).symm, hp, rfl, rfl, rfl⟩

/-! ### Calls -/

@[simp] theorem calls_nil : calls [] = [] := rfl

@[simp] theorem calls_append (log₁ log₂ : Log) : calls (log₁ ++ log₂) = calls log₁ ++ calls log₂ :=
  List.filter_append ..

theorem mem_calls {e : Exchange} : e ∈ calls log ↔ e ∈ log ∧ e.call?.isSome := List.mem_filter

/-- Requests in which no call can be issued. -/
def Request.IsQuiet : Request → Prop
  | .call _ | .query _ _ _ => False
  | _ => True

theorem Exchange.call?_eq_none {e : Exchange} (h : e.request.IsQuiet) : e.call? = none := by
  obtain ⟨made, q, answer, met⟩ := e
  cases q <;> first | rfl | exact h.elim

theorem calls_cons_of_quiet {e : Exchange} (h : e.request.IsQuiet) : calls (e :: log) = calls log :=
  List.filter_cons_of_neg (by simp [Exchange.call?_eq_none h])

/-! ### Calls of a kind -/

variable {kind : Phone.Call → Bool}

/-- The exchanges of a log in which a call of a kind was issued. -/
def callsOf (kind : Phone.Call → Bool) (log : Log) : Log := log.filter (·.call?.any kind)

@[simp] theorem callsOf_nil : callsOf kind [] = [] := rfl

@[simp] theorem callsOf_append (log₁ log₂ : Log) :
    callsOf kind (log₁ ++ log₂) = callsOf kind log₁ ++ callsOf kind log₂ :=
  List.filter_append ..

theorem callsOf_eq_filter (kind : Phone.Call → Bool) (log : Log) :
    callsOf kind log = (calls log).filter (·.call?.any kind) := by
  have hcall (x : Exchange) (hx : x.call?.any kind = true) : x.call?.isSome = true := by
    cases hcall : x.call? with
    | none => rw [hcall] at hx; cases hx
    | some c => rfl
  unfold callsOf calls
  rw [List.filter_filter]
  refine List.filter_congr fun x _ => ?_
  rw [Bool.eq_iff_iff, Bool.and_eq_true]
  exact ⟨fun hx => ⟨hx, hcall x hx⟩, fun hx => hx.1⟩

/-- Requests in which no call of a kind can be issued. -/
def Request.Avoids (kind : Phone.Call → Bool) : Request → Prop
  | .call c | .query c _ _ => kind c = false
  | _ => True

theorem Exchange.not_of_avoids {e : Exchange} (h : e.request.Avoids kind) :
    e.call?.any kind = false := by
  obtain ⟨made, q, answer, met⟩ := e
  cases q with
  | call c => simpa [Exchange.call?, Request.Avoids] using h
  | query c heed deadline =>
    have hkind : kind c = false := h
    cases answer with
    | answered _ | timedOut => simpa [Exchange.call?] using hkind
    | stopped => by_cases hmet : met = made <;> simp [Exchange.call?, hmet, hkind]
  | _ => simp [Exchange.call?]

theorem callsOf_eq_nil (h : ∀ e ∈ log, e.request.Avoids kind) : callsOf kind log = [] :=
  List.filter_eq_nil_iff.mpr fun e he => by simp [Exchange.not_of_avoids (h e he)]

theorem callsOf_perform {q : Request} {answer : q.Answer} (hq : q.Avoids kind)
    (h : Goes stop (perform (I := interface) q) before log answer after) :
    callsOf kind log = [] := by
  obtain ⟨rfl, -⟩ := goes_perform.mp h
  exact callsOf_eq_nil fun e he => by rwa [List.mem_singleton.mp he]

section Issues

variable {P Q : Log → Exchange → Prop} {log₁ log₂ : Log}

/-- Each call of a kind that is issued in a log satisfies `P` after what came before it. -/
def Issues (kind : Phone.Call → Bool) (P : Log → Exchange → Prop) (log : Log) : Prop :=
  ∀ earlier x later, log = earlier ++ x :: later → x.call?.any kind = true → P earlier x

theorem issues_of_nil (h : callsOf kind log = []) : Issues kind P log := by
  rintro earlier x later rfl hx
  have hmem : x ∈ callsOf kind (earlier ++ x :: later) := List.mem_filter.mpr ⟨by simp, hx⟩
  rw [h] at hmem
  exact absurd hmem List.not_mem_nil

theorem Issues.imp (h : Issues kind P log) (hPQ : ∀ earlier x, P earlier x → Q earlier x) :
    Issues kind Q log :=
  fun earlier x later hlog hx => hPQ _ _ (h earlier x later hlog hx)

/-- What is allowed after a log is allowed after more. -/
theorem Issues.append (h₁ : Issues kind P log₁) (h₂ : Issues kind P log₂)
    (hP : ∀ earlier x, P earlier x → P (log₁ ++ earlier) x) : Issues kind P (log₁ ++ log₂) := by
  intro earlier x later heq hx
  rcases List.append_eq_append_iff.mp heq with ⟨rest, rfl, hrest⟩ | ⟨rest, hrest, hlater⟩
  · exact hP _ _ (h₂ rest x later hrest hx)
  · cases rest with
    | nil =>
      rw [List.append_nil] at hrest
      have hfirst : P (log₁ ++ []) x := hP _ _ (h₂ [] x later hlater.symm hx)
      rwa [List.append_nil, hrest] at hfirst
    | cons y rest =>
      obtain ⟨rfl, -⟩ := List.cons.inj hlater
      exact h₁ earlier x rest hrest hx

/-- A single call of the kind. -/
theorem issues_cons {x : Exchange} {later : Log} (h : callsOf kind log = []) (hx : P log x)
    (hlater : callsOf kind later = []) : Issues kind P (log ++ x :: later) := by
  intro earlier y rest heq hy
  rcases List.append_eq_append_iff.mp heq with ⟨more, rfl, hmore⟩ | ⟨more, hmore, hrest⟩
  · cases more with
    | nil =>
      obtain ⟨rfl, -⟩ := List.cons.inj hmore
      rwa [List.append_nil]
    | cons z more =>
      obtain ⟨-, rfl⟩ := List.cons.inj hmore
      exact issues_of_nil (P := fun _ _ => False) hlater more y rest rfl hy |>.elim
  · cases more with
    | nil =>
      obtain ⟨rfl, -⟩ := List.cons.inj hrest
      rwa [hmore, List.append_nil] at hx
    | cons z more =>
      obtain ⟨rfl, -⟩ := List.cons.inj hrest
      exact issues_of_nil (P := fun _ _ => False) h earlier y more hmore hy |>.elim

end Issues

/-! ### Tellings -/

/-- Notes that are told one after the other. -/
def tellings (now : Nat) (notes : List Note) : Log :=
  notes.map fun note => ⟨now, .tell note, (), now⟩

/-- Whatever is told, nothing else happens and no time passes. -/
theorem goes_tells {values : List α} {note : α → Note} {u : Unit}
    (h : Goes stop (values.forM fun a => Part.tell (note a)) before log u after) :
    log = tellings before (values.map note) ∧ after = before := by
  induction values generalizing before log with
  | nil =>
    obtain ⟨rfl, -, rfl⟩ := h
    exact ⟨rfl, rfl⟩
  | cons a values ih =>
    obtain ⟨_, _, log, rfl, rfl, h⟩ := h
    obtain ⟨rfl, rfl⟩ := ih h
    exact ⟨rfl, rfl⟩

theorem calls_tellings (now : Nat) (notes : List Note) : calls (tellings now notes) = [] := by
  refine List.filter_eq_nil_iff.mpr fun x hx => ?_
  obtain ⟨note, -, rfl⟩ := List.mem_map.mp hx
  exact Bool.false_ne_true

theorem callsOf_tellings (now : Nat) (notes : List Note) :
    callsOf kind (tellings now notes) = [] := by
  rw [callsOf_eq_filter, calls_tellings]
  rfl

/-! ### Overflows -/

/-- The overflow of a number at a time, if it does not fit its word. -/
def overflows (fits : Prop) [Decidable fits] (now : Nat) : Log :=
  if fits then [] else [⟨now, .overflow, (), now⟩]

/-- At the time the program has found that a number does not fit its word. -/
def Overflowed (log : Log) (now : Nat) : Prop := ⟨now, .overflow, (), now⟩ ∈ log

section Overflows

variable {fits : Prop} [Decidable fits] {now : Nat}

theorem overflows_of_fits (h : fits) : overflows fits now = [] := if_pos h

theorem overflows_congr {fits' : Prop} [Decidable fits'] (h : fits ↔ fits') :
    overflows fits now = overflows fits' now :=
  ite_congr (propext h) (fun _ => rfl) fun _ => rfl

theorem overflowed_of_not_fits (h : ¬fits) : Overflowed (overflows fits now) now := by
  unfold overflows
  rw [if_neg h]
  exact List.mem_singleton_self _

theorem Overflowed.of_suffix {earlier : Log} (h : Overflowed log now) (hsuffix : log <:+ earlier) :
    Overflowed earlier now :=
  hsuffix.subset h

@[simp] theorem calls_overflows : calls (overflows fits now) = [] := by
  unfold overflows
  split <;> rfl

@[simp] theorem callsOf_overflows : callsOf kind (overflows fits now) = [] := by
  rw [callsOf_eq_filter, calls_overflows]
  rfl

theorem goes_checked {u : Unit} : Goes stop (Part.checked fits) before log u after ↔
    log = overflows fits before ∧ after = before := by
  unfold Part.checked overflows
  split
  · exact ⟨fun h => ⟨h.1, h.2.2⟩, fun h => ⟨h.1, rfl, h.2⟩⟩
  · refine goes_perform.trans ⟨?_, ?_⟩
    · rintro ⟨rfl, hafter⟩
      obtain rfl : after = before := hafter
      exact ⟨rfl, rfl⟩
    · rintro ⟨rfl, rfl⟩
      exact ⟨rfl, rfl⟩

end Overflows

/-! ### Times -/

theorem raised_iff {now : Nat} : raised stop now = true ↔ ∃ t, stop = some t ∧ t ≤ now := by
  cases stop <;> simp [raised]

@[simp] theorem raised_none (now : Nat) : raised none now = false := rfl

@[simp] theorem raised_some {t now : Nat} : raised (some t) now = true ↔ t ≤ now := by
  simp [raised]

theorem Meets.le {q : Request} {answer : q.Answer} (h : Meets stop before q answer after) :
    before ≤ after := by
  cases q with
  | call c => exact h
  | query c heed deadline =>
    cases answer with
    | answered a => exact h.1
    | timedOut => obtain ⟨⟨d, -, rfl⟩, -⟩ := h; omega
    | stopped => obtain ⟨-, ⟨t, -, rfl⟩, -⟩ := h; omega
  | pause duration heed =>
    cases answer with
    | true => obtain ⟨-, t, -, -, rfl⟩ := h; omega
    | false => have := h.1; omega
  | sleep duration => exact h ▸ Nat.le_add_right ..
  | now | isStopped | claim => exact Nat.le_of_eq h.2.symm
  | wallClock | localTime | tell _ | forget | release | overflow =>
    exact Nat.le_of_eq (Eq.symm h)
  | overrun => exact h.elim

theorem Goes.le {p : Part α} {a : α} (h : Goes stop p before log a after) : before ≤ after := by
  induction p generalizing before log with
  | done a => exact Nat.le_of_eq h.2.2.symm
  | ask q next ih =>
    obtain ⟨answer, between, rest, -, hm, hg⟩ := h
    exact Nat.le_trans hm.le (ih answer hg)

/-- Every exchange of a log is one that the surroundings allow, between the beginning and the
end. -/
theorem Goes.meets {p : Part α} {a : α} (h : Goes stop p before log a after) :
    ∀ e ∈ log, Meets stop e.made e.request e.answer e.met ∧ before ≤ e.made ∧ e.met ≤ after := by
  induction p generalizing before log with
  | done a =>
    obtain ⟨rfl, -, -⟩ := h
    exact fun _ he => absurd he List.not_mem_nil
  | ask q next ih =>
    obtain ⟨answer, between, rest, rfl, hm, hg⟩ := h
    intro e he
    rcases List.mem_cons.mp he with rfl | he
    · exact ⟨hm, Nat.le_refl _, hg.le⟩
    · obtain ⟨h₁, h₂, h₃⟩ := ih answer hg e he
      exact ⟨h₁, Nat.le_trans hm.le h₂, h₃⟩

theorem Goes.asks {p : Part α} {a : α} {P : Nat → Request → Prop}
    (h : Goes stop p before log a after) (hp : p.AsksFrom (Meets stop) P before) :
    ∀ e ∈ log, P e.made e.request := by
  induction p generalizing before log with
  | done a =>
    obtain ⟨rfl, -, -⟩ := h
    exact fun _ he => absurd he List.not_mem_nil
  | ask q next ih =>
    obtain ⟨answer, between, rest, rfl, hm, hg⟩ := h
    intro e he
    rcases List.mem_cons.mp he with rfl | he
    · exact hp.1
    · exact ih answer hg (hp.2 answer between hm) e he

/-- What two parts in turn ask for is what the first asks for, and the second from wherever the
first may end. -/
theorem asksFrom_bind {p : Part α} {f : α → Part β} {P : Nat → Request → Prop} :
    (p >>= f).AsksFrom (Meets stop) P before ↔ p.AsksFrom (Meets stop) P before ∧
      ∀ log a between, Goes stop p before log a between →
        (f a).AsksFrom (Meets stop) P between := by
  induction p generalizing before with
  | done a =>
    constructor
    · intro h
      refine ⟨trivial, ?_⟩
      rintro _ _ _ ⟨rfl, rfl, rfl⟩
      exact h
    · rintro ⟨-, h⟩
      exact h [] a before ⟨rfl, rfl, rfl⟩
  | ask q next ih =>
    constructor
    · rintro ⟨hq, h⟩
      refine ⟨⟨hq, fun answer between hm => ((ih answer).mp (h answer between hm)).1⟩, ?_⟩
      rintro _ a between ⟨answer, middle, log, rfl, hm, hgoes⟩
      exact ((ih answer).mp (h answer middle hm)).2 log a between hgoes
    · rintro ⟨⟨hq, hp⟩, hf⟩
      refine ⟨hq, fun answer middle hm => (ih answer).mpr ⟨hp answer middle hm, ?_⟩⟩
      intro log a between hgoes
      exact hf _ a between ⟨answer, middle, log, rfl, hm, hgoes⟩

/-! ### Ends -/

/-- Only what goes on for ever is never met. -/
theorem exists_meets {q : Request} (hq : q ≠ .overrun) :
    ∃ answer after, Meets stop before q answer after := by
  cases q with
  | call c => exact ⟨.error (.of ""), before, Nat.le_refl _⟩
  | query c heed deadline =>
    by_cases h : heed = true ∧ raised stop before = true
    · obtain ⟨t, rfl, ht⟩ := raised_iff.mp h.2
      exact ⟨.stopped, before, h.1, ⟨t, rfl, by omega⟩, fun d _ => by omega⟩
    · exact ⟨.answered (.error (.of "")), before, Nat.le_refl _, fun d _ => by omega, h⟩
  | now => exact ⟨before, before, rfl, rfl⟩
  | wallClock => exact ⟨⟨0, 0⟩, before, rfl⟩
  | localTime => exact ⟨.ofSeconds 0, before, rfl⟩
  | sleep duration => exact ⟨(), before + duration, rfl⟩
  | pause duration heed =>
    by_cases h : heed = true ∧ raised stop (before + duration) = true
    · obtain ⟨t, rfl, ht⟩ := raised_iff.mp h.2
      exact ⟨true, max before t, h.1, t, rfl, ht, rfl⟩
    · exact ⟨false, before + duration, rfl, h⟩
  | isStopped => exact ⟨raised stop before, before, rfl, rfl⟩
  | tell note => exact ⟨(), before, rfl⟩
  | claim => exact ⟨true, before, rfl, rfl⟩
  | forget | release | overflow => exact ⟨(), before, rfl⟩
  | overrun => exact absurd rfl hq

theorem exists_meets_iff {q : Request} :
    (∃ answer after, Meets stop before q answer after) ↔ q ≠ .overrun := by
  refine ⟨?_, exists_meets⟩
  rintro ⟨answer, -, -⟩ rfl
  exact answer.elim

/-- A part comes to an end if it never goes on for ever. -/
theorem surely_true_iff {p : Part α} : Surely stop (fun _ => True) p before ↔
    p.AsksFrom (Meets stop) (fun _ (q : Request) => q ≠ .overrun) before := by
  induction p generalizing before with
  | done a => exact Iff.rfl
  | ask q next ih =>
    refine and_congr exists_meets_iff (forall_congr' fun answer => ?_)
    exact forall_congr' fun between => imp_congr_right fun _ => ih answer

/-- A part that has come to a time after which no count overruns comes to an end. -/
theorem surely_of_asks {p : Part α} {Q : α → Prop} {t : Nat}
    (hp : p.AsksFrom (Meets stop) (fun now (q : Request) => q = .overrun → now < t) before)
    (ht : t ≤ before) (hQ : ∀ log a after, Goes stop p before log a after → Q a) :
    Surely stop Q p before := by
  induction p generalizing before with
  | done a => exact hQ [] a before ⟨rfl, rfl, rfl⟩
  | ask q next ih =>
    have hq : q ≠ .overrun := fun h => absurd (hp.1 h) (Nat.not_lt.mpr ht)
    refine ⟨exists_meets hq, fun answer between hm => ?_⟩
    refine ih answer (hp.2 answer between hm) (Nat.le_trans ht hm.le) fun log a after h => ?_
    exact hQ _ a after ⟨answer, between, log, rfl, hm, h⟩

theorem surely_of_no_overrun {p : Part α} {Q : α → Prop}
    (hp : p.Asks (Meets stop) fun _ (q : Request) => q ≠ .overrun)
    (hQ : ∀ log a after, Goes stop p before log a after → Q a) : Surely stop Q p before :=
  surely_of_asks (t := 0) ((hp before).mono fun _ _ hq h => absurd h hq) (Nat.zero_le _) hQ

/-- What surely comes to an end has a log in which it does. -/
theorem Surely.exists_goes {p : Part α} {Q : α → Prop} (h : Surely stop Q p before) :
    ∃ log a after, Goes stop p before log a after ∧ Q a := by
  induction p generalizing before with
  | done a => exact ⟨[], a, before, ⟨rfl, rfl, rfl⟩, h⟩
  | ask q next ih =>
    obtain ⟨answer, between, hm⟩ := h.1
    obtain ⟨log, a, after, hg, ha⟩ := ih answer (h.2 answer between hm)
    exact ⟨_, a, after, ⟨answer, between, log, rfl, hm, hg⟩, ha⟩

/-- A part whose requests can all be met in some way can be gone through in that way. -/
theorem exists_goes_of_asks {p : Part α} {P : Nat → Request → Prop} {Q : Exchange → Prop}
    (hp : p.AsksFrom (Meets stop) P before)
    (hQ : ∀ now q, P now q → ∃ answer after, Meets stop now q answer after ∧
      Q ⟨now, q, answer, after⟩) :
    ∃ log a after, Goes stop p before log a after ∧ ∀ e ∈ log, Q e := by
  induction p generalizing before with
  | done a => exact ⟨[], a, before, ⟨rfl, rfl, rfl⟩, fun _ he => absurd he List.not_mem_nil⟩
  | ask q next ih =>
    obtain ⟨answer, between, hm, hq⟩ := hQ before q hp.1
    obtain ⟨log, a, after, hg, hlog⟩ := ih answer (hp.2 answer between hm)
    exact ⟨_, a, after, .ask hm hg, List.forall_mem_cons.mpr ⟨hq, hlog⟩⟩

theorem Reaches.asksFrom {p rest : Part α} {P : Nat → Request → Prop}
    (h : Reaches stop p before log rest after) (hp : p.AsksFrom (Meets stop) P before) :
    rest.AsksFrom (Meets stop) P after := by
  induction h with
  | here => exact hp
  | later hm _ ih => exact ih (hp.2 _ _ hm)

/-- What a part that has been reached comes to is what the whole comes to. -/
theorem Reaches.goes {p rest : Part α} {log' : Log} {a : α} {finish : Nat}
    (h : Reaches stop p before log rest after) (hg : Goes stop rest after log' a finish) :
    Goes stop p before (log ++ log') a finish := by
  induction h with
  | here => exact hg
  | later hm _ ih => exact ⟨_, _, _, rfl, hm, ih hg⟩

end CheckIn.Run
