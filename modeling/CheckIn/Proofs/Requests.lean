import CheckIn.Process

/-! What a process may ask, and what it may come to. Its surroundings are in a state, which says how
a request may be answered and in which states they may be then. `Asks W P p` says that every request
that `p` comes to in the surroundings `W` satisfies `P` in the state in which it is made. It goes
through sequencing, so that the requests of a program are found from those of its parts. -/

namespace CheckIn

/-- How requests may be answered in one state, and the state after the answer. -/
abbrev Surroundings (I : Interface) (σ : Type) : Type :=
  (before : σ) → (q : I.Request) → I.Answer q → (after : σ) → Prop

/-- Surroundings that may give every answer to every request. -/
def Surroundings.any {I : Interface} : Surroundings I Unit := fun _ _ _ _ => True

namespace Process

variable {I : Interface} {σ α β ε : Type} {W : Surroundings I σ} {P Q : σ → I.Request → Prop}

/-- Every request that `p` comes to from a state satisfies `P`. -/
def AsksFrom (W : Surroundings I σ) (P : σ → I.Request → Prop) : Process I α → σ → Prop
  | done _, _ => True
  | ask q next, x => P x q ∧ ∀ answer y, W x q answer y → (next answer).AsksFrom W P y

/-- Every request that `p` comes to satisfies `P`, from whichever state it begins. -/
def Asks (W : Surroundings I σ) (P : σ → I.Request → Prop) (p : Process I α) : Prop :=
  ∀ x, p.AsksFrom W P x

theorem asks_done (a : α) : (done a : Process I α).Asks W P := fun _ => trivial

theorem asks_perform {q : I.Request} (h : ∀ x, P x q) : (perform q : Process I _).Asks W P :=
  fun x => ⟨h x, fun _ _ _ => trivial⟩

theorem AsksFrom.mono {p : Process I α} {x : σ} (h : p.AsksFrom W P x)
    (hPQ : ∀ x q, P x q → Q x q) : p.AsksFrom W Q x := by
  induction p generalizing x with
  | done a => trivial
  | ask q next ih => exact ⟨hPQ x q h.1, fun answer y hy => ih answer (h.2 answer y hy)⟩

theorem Asks.mono {p : Process I α} (h : p.Asks W P) (hPQ : ∀ x q, P x q → Q x q) :
    p.Asks W Q :=
  fun x => (h x).mono hPQ

theorem AsksFrom.bind {p : Process I α} {f : α → Process I β} {x : σ} (hp : p.AsksFrom W P x)
    (hf : ∀ a, (f a).Asks W P) : (p >>= f).AsksFrom W P x := by
  induction p generalizing x with
  | done a => exact hf a x
  | ask q next ih => exact ⟨hp.1, fun answer y hy => ih answer (hp.2 answer y hy)⟩

theorem Asks.bind {p : Process I α} {f : α → Process I β} (hp : p.Asks W P)
    (hf : ∀ a, (f a).Asks W P) : (p >>= f).Asks W P :=
  fun x => (hp x).bind hf

theorem Asks.map {p : Process I α} (hp : p.Asks W P) (f : α → β) : (f <$> p).Asks W P :=
  hp.bind fun _ => asks_done _

theorem Asks.ite {c : Prop} [Decidable c] {p q : Process I α} (hp : c → p.Asks W P)
    (hq : ¬c → q.Asks W P) : (if c then p else q).Asks W P := by
  split
  · exact hp ‹_›
  · exact hq ‹_›

theorem Asks.forM {l : List α} {f : α → Process I PUnit} (hf : ∀ a ∈ l, (f a).Asks W P) :
    (l.forM f).Asks W P := by
  induction l with
  | nil => exact asks_done _
  | cons a l ih =>
    exact (hf a (List.mem_cons_self ..)).bind fun _ =>
      ih fun b hb => hf b (List.mem_cons_of_mem _ hb)

/-! ### Values -/

/-- `p` comes to a value, from one state of its surroundings to another. -/
def Comes (W : Surroundings I σ) : Process I α → (before : σ) → α → (after : σ) → Prop
  | done a, before, b, after => b = a ∧ after = before
  | ask q next, before, b, after =>
    ∃ answer between, W before q answer between ∧ (next answer).Comes W between b after

variable {J : Interface} {before after : σ}

theorem comes_bind {p : Process I α} {f : α → Process I β} {b : β} :
    (p >>= f).Comes W before b after ↔
      ∃ a between, p.Comes W before a between ∧ (f a).Comes W between b after := by
  induction p generalizing before with
  | done a =>
    constructor
    · intro h
      exact ⟨a, before, ⟨rfl, rfl⟩, h⟩
    · rintro ⟨_, _, ⟨rfl, rfl⟩, h⟩
      exact h
  | ask q next ih =>
    constructor
    · rintro ⟨answer, middle, hw, h⟩
      obtain ⟨a, between, hp, hf⟩ := (ih answer).mp h
      exact ⟨a, between, ⟨answer, middle, hw, hp⟩, hf⟩
    · rintro ⟨a, between, ⟨answer, middle, hw, hp⟩, hf⟩
      exact ⟨answer, middle, hw, (ih answer).mpr ⟨a, between, hp, hf⟩⟩

/-- Once its requests are replaced by processes, `p` comes to what it comes to where these meet
them. -/
theorem comes_interpret {handle : (q : I.Request) → Process J (I.Answer q)} {V : Surroundings J σ}
    {p : Process I α} {a : α} :
    (p.interpret handle).Comes V before a after ↔
      p.Comes (fun x q answer y => (handle q).Comes V x answer y) before a after := by
  induction p generalizing before with
  | done a => exact Iff.rfl
  | ask q next ih =>
    refine comes_bind.trans (exists_congr fun answer => exists_congr fun between => ?_)
    exact and_congr_right fun _ => ih answer

/-- What `p` comes to in some surroundings it comes to in others, if these give the same answers to
what it asks. -/
theorem Comes.mono {V : Surroundings I σ} {p : Process I α} {a : α} (h : p.Comes V before a after)
    (hp : p.AsksFrom W P before)
    (hVW : ∀ x q answer y, P x q → V x q answer y → W x q answer y) : p.Comes W before a after := by
  induction p generalizing before with
  | done a => exact h
  | ask q next ih =>
    obtain ⟨answer, between, hv, hnext⟩ := h
    have hw := hVW before q answer between hp.1 hv
    exact ⟨answer, between, hw, ih answer hnext (hp.2 answer between hw)⟩

/-- More answers only let `p` come to more. -/
theorem Comes.imp {V : Surroundings I σ} {p : Process I α} {a : α} (h : p.Comes V before a after)
    (hVW : ∀ x q answer y, V x q answer y → W x q answer y) : p.Comes W before a after := by
  induction p generalizing before with
  | done a => exact h
  | ask q next ih =>
    obtain ⟨answer, between, hv, hnext⟩ := h
    exact ⟨answer, between, hVW _ _ _ _ hv, ih answer hnext⟩

/-- Where all that `p` asks is answered, it comes to something. -/
theorem AsksFrom.exists_comes {p : Process I α} (hp : p.AsksFrom W P before)
    (hW : ∀ x q, P x q → ∃ answer y, W x q answer y) : ∃ a after, p.Comes W before a after := by
  induction p generalizing before with
  | done a => exact ⟨a, before, rfl, rfl⟩
  | ask q next ih =>
    obtain ⟨answer, between, hw⟩ := hW before q hp.1
    obtain ⟨a, after, hnext⟩ := ih answer (hp.2 answer between hw)
    exact ⟨a, after, answer, between, hw, hnext⟩

/-! ### Processes that may fail -/

theorem Asks.lift_run {p : Process I α} (hp : p.Asks W P) :
    (liftM p : ExceptT ε (Process I) α).run.Asks W P :=
  hp.map _

theorem Asks.ite_run {c : Prop} [Decidable c] {x y : ExceptT ε (Process I) α}
    (hx : c → x.run.Asks W P) (hy : ¬c → y.run.Asks W P) : (if c then x else y).run.Asks W P :=
  Asks.ite (p := x.run) (q := y.run) hx hy

theorem Asks.bind_run {x : ExceptT ε (Process I) α} {f : α → ExceptT ε (Process I) β}
    (hx : x.run.Asks W P) (hf : ∀ a, (f a).run.Asks W P) : (x >>= f).run.Asks W P := by
  rw [ExceptT.run_bind]
  refine hx.bind fun r => ?_
  cases r with
  | ok a => exact hf a
  | error e => exact asks_done _

theorem Comes.bind_run {x : ExceptT ε (Process I) α} {f : α → ExceptT ε (Process I) β} {a : α}
    {r : Except ε β} {between : σ} (hx : x.run.Comes W before (.ok a) between)
    (hf : (f a).run.Comes W between r after) : (x >>= f).run.Comes W before r after := by
  rw [ExceptT.run_bind]
  exact comes_bind.mpr ⟨.ok a, between, hx, hf⟩

end Process

end CheckIn
