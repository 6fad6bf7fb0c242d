import CheckIn.Proofs.Run.Log

/-! Scripted surroundings. Which of the answers that are allowed a request gets, and when, is left
open by `Meets`; a behaviour decides it from all that happened before, or leaves the request without
an answer. What a part comes to is then a function of the behaviour, so that two parts can be
compared in the same surroundings. -/

namespace CheckIn.Run

open Process

variable {α β ε : Type} {stop : Option Nat} {past log : Log} {before between after : Nat}

/-- How the surroundings behave in a run that is stopped at the time `stop`, or not at all. -/
structure Behaviour (stop : Option Nat) where
  /-- The answer to a request after the exchanges `past`, and the time at which it is there. -/
  meet : (past : Log) → (now : Nat) → (q : Request) → Option (q.Answer × Nat)
  meets : ∀ past now q answer met,
    meet past now q = some (answer, met) → Meets stop now q answer met

namespace Behaviour

/-- What a part comes to that begins after the exchanges `past`: its own exchanges, its value and
the time of its end. -/
def play (b : Behaviour stop) : (past : Log) → Part α → (now : Nat) → Option (Log × α × Nat)
  | _, .done a, now => some ([], a, now)
  | past, .ask q next, now => (b.meet past now q).bind fun x =>
    (b.play (past ++ [⟨now, q, x.1, x.2⟩]) (next x.1) x.2).map fun y =>
      (⟨now, q, x.1, x.2⟩ :: y.1, y.2)

/-- Every request that can be met is met. -/
def Serves (b : Behaviour stop) : Prop := ∀ past now q, q ≠ .overrun → (b.meet past now q).isSome

variable {b : Behaviour stop}

section Requests

variable {q : interface.Request} {next : interface.Answer q → Part α}

theorem play_ask : b.play past (.ask q next) before = (b.meet past before q).bind fun x =>
    (b.play (past ++ [⟨before, q, x.1, x.2⟩]) (next x.1) x.2).map fun y =>
      (⟨before, q, x.1, x.2⟩ :: y.1, y.2) := rfl

theorem play_ask_of_meet {answer : interface.Answer q} {met : Nat}
    (h : b.meet past before q = some (answer, met)) :
    b.play past (.ask q next) before =
      (b.play (past ++ [⟨before, q, answer, met⟩]) (next answer) met).map fun x =>
        (⟨before, q, answer, met⟩ :: x.1, x.2) := by
  rw [play_ask, h]
  rfl

theorem play_ask_of_none (h : b.meet past before q = none) :
    b.play past (.ask q next) before = none := by
  rw [play_ask, h]
  rfl

end Requests

/-- What is played happens in these surroundings. -/
theorem goes_of_play {p : Part α} {a : α} (h : b.play past p before = some (log, a, after)) :
    Goes stop p before log a after := by
  induction p generalizing past before log with
  | done a' =>
    cases h
    exact ⟨rfl, rfl, rfl⟩
  | ask q next ih =>
    cases hmeet : b.meet past before q with
    | none => cases (play_ask_of_none hmeet).symm.trans h
    | some x =>
      obtain ⟨⟨rest, _, _⟩, hplay, ⟨⟩⟩ :=
        Option.map_eq_some_iff.mp ((play_ask_of_meet hmeet).symm.trans h)
      exact .ask (b.meets _ _ _ _ _ hmeet) (ih x.1 hplay)

/-- Two parts in turn are played one after the other, the second with what the first has left
behind it. -/
theorem play_bind (p : Part α) (f : α → Part β) :
    b.play past (p >>= f) before = (b.play past p before).bind fun x =>
      (b.play (past ++ x.1) (f x.2.1) x.2.2).map fun y => (x.1 ++ y.1, y.2) := by
  induction p generalizing past before with
  | done a =>
    have hpast : past ++ [] = past := List.append_nil past
    simp [play, hpast]
  | ask q next ih =>
    cases hmeet : b.meet past before q with
    | none => rw [ask_bind, play_ask_of_none hmeet, play_ask_of_none hmeet]; rfl
    | some x =>
      obtain ⟨answer, met⟩ := x
      rw [ask_bind, play_ask_of_meet hmeet, play_ask_of_meet hmeet, ih answer]
      cases b.play (past ++ [⟨before, q, answer, met⟩]) (next answer) met with
      | none => rfl
      | some y => simp [Function.comp_def]

/-- After a success the next attempt goes on. -/
theorem play_bind_of_ok {x : ExceptT ε (Process interface) α}
    {f : α → ExceptT ε (Process interface) β} {a : α}
    (h : b.play past x.run before = some (log, .ok a, between)) :
    b.play past (x >>= f).run before =
      (b.play (past ++ log) (f a).run between).map fun y => (log ++ y.1, y.2) := by
  rw [ExceptT.run_bind, play_bind, h]
  rfl

/-- Attempts that do not succeed do not depend on what comes after a success. -/
theorem play_bind_congr {x : ExceptT ε (Process interface) α}
    {f g : α → ExceptT ε (Process interface) β}
    (h : ∀ log a between, b.play past x.run before = some (log, .ok a, between) → f a = g a) :
    b.play past (x >>= f).run before = b.play past (x >>= g).run before := by
  rw [ExceptT.run_bind, ExceptT.run_bind, play_bind, play_bind]
  cases hplay : b.play past x.run before with
  | none => rfl
  | some y =>
    obtain ⟨log, result, between⟩ := y
    cases result with
    | error e => rfl
    | ok a =>
      dsimp only [Option.bind_some]
      rw [h log a between hplay]

/-- Where all that a part asks for is met, it comes to its end. -/
theorem play_isSome {p : Part α} (hb : b.Serves)
    (hp : p.AsksFrom (Meets stop) (fun _ (q : Request) => q ≠ .overrun) before) :
    (b.play past p before).isSome := by
  induction p generalizing past before with
  | done a => rfl
  | ask q next ih =>
    obtain ⟨⟨answer, met⟩, hmeet⟩ := Option.isSome_iff_exists.mp (hb past before q hp.1)
    rw [play_ask_of_meet hmeet, Option.isSome_map]
    exact ih answer (hp.2 answer met (b.meets _ _ _ _ _ hmeet))

/-- Surroundings that reply to every call at once, in a run that nobody stops. -/
def instant (reply : (c : Phone.Call) → (now : Nat) → Except Failure c.Reply) :
    Behaviour none where
  meet _ now
    | .call c => some (reply c now, now)
    | .query c _ _ => some (.answered (reply c now), now)
    | .now => some (now, now)
    | .wallClock => some (⟨0, 0⟩, now)
    | .localTime => some (.ofSeconds 0, now)
    | .sleep duration => some ((), now + duration)
    | .pause duration _ => some (false, now + duration)
    | .isStopped => some (false, now)
    | .tell _ | .forget | .release | .overflow => some ((), now)
    | .claim => some (true, now)
    | .overrun => none
  meets past now q answer met h := by
    cases q <;> cases h
    case query => exact ⟨Nat.le_refl _, fun _ _ => Nat.le_max_left .., by simp⟩
    all_goals simp [Meets]

theorem instant_serves (reply : (c : Phone.Call) → (now : Nat) → Except Failure c.Reply) :
    (instant reply).Serves := by
  intro past now q hq
  cases q with
  | overrun => exact absurd rfl hq
  | _ => rfl

end Behaviour

end CheckIn.Run
