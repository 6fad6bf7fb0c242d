import CheckIn.Proofs.Run.Chronicle
import CheckIn.Proofs.Run.Exclusion
import Mathlib.Data.List.Induction

/-! Stops and the runs that they meet. A stop that is asked for while nobody is inside waits at the
gate for the next run that is let in, however many are refused meanwhile. That run drops all its
tasks. A run ends by forgetting any stop, so that none is seen by a later run, and gives its place
back right after that. A stop in between comes after the end of the run, and waits for the next. -/

namespace CheckIn.Run

open Process

variable {α β : Type} {s : Scheduler}

/-! ### Runs that find a stop -/

/-- What a run asks for that drops its tasks: it neither calls the phone nor takes the time of day,
which is in the report of every task that begins, and tells of no task that it is under way. -/
def Request.OfDropping : Request → Prop
  | .now | .isStopped | .forget | .release => True
  | .tell note => ∀ p, note = .progress p → p.color ≠ .running
  | _ => False

/-- A part that finds a stop at the gate, until it gives its place back, comes to a result of `Q`
with at most so many requests, all of them those of a run that drops its tasks. -/
def Drops (Q : α → Prop) : Part α → Nat → Prop
  | .done a, _ => Q a
  | .ask _ _, 0 => False
  | .ask q next, n + 1 => q.OfDropping ∧ ∀ (g : Gate) answer g',
      (q ≠ .release → g.stopRequested = true) → g.Admits q answer g' → Drops Q (next answer) n

variable {Q : α → Prop} {R : β → Prop} {n m : Nat}

theorem Drops.mono {p : Part α} (h : Drops Q p n) (hle : n ≤ m) : Drops Q p m := by
  induction p generalizing n m with
  | done a => exact h
  | ask q next ih =>
    cases n with
    | zero => exact h.elim
    | succ n =>
      obtain ⟨m, rfl⟩ := Nat.exists_eq_add_of_le' (show 1 ≤ m by omega)
      refine ⟨h.1, fun g answer g' hg hadmits => ?_⟩
      exact ih answer (h.2 g answer g' hg hadmits) (by omega)

theorem Drops.bind {p : Part α} {f : α → Part β} (hp : Drops Q p n)
    (hf : ∀ a, Q a → Drops R (f a) m) : Drops R (p >>= f) (n + m) := by
  induction p generalizing n with
  | done a => exact (hf a hp).mono (Nat.le_add_left m n)
  | ask q next ih =>
    cases n with
    | zero => exact hp.elim
    | succ n =>
      rw [Nat.succ_add]
      refine ⟨hp.1, fun g answer g' hg hadmits => ?_⟩
      exact ih answer (hp.2 g answer g' hg hadmits)

/-- The tasks that an invocation is about to run. -/
def Invocation.tasks : Invocation → List Task
  | all tasks => tasks.filter (·.enabled)
  | single task => [task]

section Histories

variable {ι : Type}

/-- An invocation was let in, and its run has not come to its end. -/
def Running (es : List (Event ι)) (i : ι) : Prop :=
  .exchange i .claim true ∈ es ∧ .exchange i .forget () ∉ es

variable [DecidableEq ι] {v : ι → Invocation} {es es₁ es₂ : List (Event ι)} {e : Event ι}
  {i j : ι} {f g f' g' : Floor ι}

theorem Floor.Step.left_eq (h : f.Step e g) (he : e.isOf i = false) : g.left i = f.left i := by
  cases h with
  | stop => rfl
  | exchange => exact Function.update_of_ne (Ne.symm (of_decide_eq_false he)) _ _

theorem Floor.Steps.last (h : Floor.Steps f (es ++ [e]) g) :
    ∃ f', Floor.Steps f es f' ∧ f'.Step e g := by
  generalize hes : es ++ [e] = es' at h
  cases h with
  | none => simp at hes
  | more hsteps hstep =>
    obtain ⟨rfl, he⟩ := List.append_inj' hes rfl
    cases he
    exact ⟨_, hsteps, hstep⟩

theorem Floor.Steps.split (h : Floor.Steps f (es₁ ++ es₂) g) :
    ∃ f', Floor.Steps f es₁ f' ∧ Floor.Steps f' es₂ g := by
  induction es₂ using List.reverseRecOn generalizing g with
  | nil => exact ⟨g, by rwa [List.append_nil] at h, .none⟩
  | append_singleton es₂ e ih =>
    rw [← List.append_assoc] at h
    obtain ⟨g', hsteps, hstep⟩ := h.last
    obtain ⟨f', h₁, h₂⟩ := ih hsteps
    exact ⟨f', h₁, h₂.more hstep⟩

theorem Floor.Steps.append (h : Floor.Steps f es₁ f') (h' : Floor.Steps f' es₂ g) :
    Floor.Steps f (es₁ ++ es₂) g := by
  induction h' with
  | none => rwa [List.append_nil]
  | more _ hstep ih =>
    rw [← List.append_assoc]
    exact ih.more hstep

/-- While an invocation has a run, the flag stays up until that forgets the stop. -/
theorem Ordered.stays_requested (h : Ordered s v es f) (hstep : f.Step e g) (hactive : Active es i)
    (hforget : e ≠ .exchange i .forget ()) (hflag : f.gate.stopRequested = true) :
    g.gate.stopRequested = true := by
  cases e with
  | stop =>
    cases hstep
    rfl
  | exchange j q answer =>
    cases h.moves hstep (decide_eq_true rfl) with
    | enters | bounces | goes | leaves => exact hflag
    | forgets hactive' =>
      rw [h.unique j i hactive' hactive] at hforget
      exact absurd rfl hforget

theorem Ordered.active_of_claim (h : Ordered s v es f) (hclaim : .exchange i .claim true ∈ es)
    (hleft : ∀ r, f.left i ≠ .done r) : Active es i := by
  refine ⟨hclaim, fun hrelease => ?_⟩
  obtain ⟨r, hr⟩ := (h.release_mem_iff hclaim).mp hrelease
  exact hleft _ hr

/-- Where an invocation has a run, that is still under way or about to leave. -/
theorem Ordered.inside_or_leaving (h : Ordered s v es f) (hactive : Active es i) :
    Inside (f.left i) ∨ Leaving (f.left i) := by
  generalize hp : f.left i = p
  have hstanding := h.standing i
  rw [hp] at hstanding
  cases hstanding with
  | ahead hnone => exact absurd hactive.1 (not_mem_of_filter hnone)
  | refused hone =>
    have hmem : Event.exchange i .claim true ∈ es.filter (·.isOf i) :=
      List.mem_filter.mpr ⟨hactive.1, decide_eq_true rfl⟩
    rw [hone, List.mem_singleton] at hmem
    cases hmem
  | inside _ _ hin => exact .inl hin
  | leaving _ _ _ hleaving => exact .inr hleaving
  | ended _ _ hrelease => exact absurd hrelease hactive.2

/-- A run gives its place back only after its end. -/
theorem Ordered.forget_mem (h : Ordered s v es f) (hrelease : .exchange i .release () ∈ es)
    (hclaim : .exchange i .claim true ∈ es) : .exchange i .forget () ∈ es := by
  generalize hp : f.left i = p
  have hstanding := h.standing i
  rw [hp] at hstanding
  cases hstanding with
  | ahead hnone => exact absurd hclaim (not_mem_of_filter hnone)
  | refused hone =>
    have hmem : Event.exchange i .claim true ∈ es.filter (·.isOf i) :=
      List.mem_filter.mpr ⟨hclaim, decide_eq_true rfl⟩
    rw [hone, List.mem_singleton] at hmem
    cases hmem
  | inside hactive | leaving hactive => exact absurd hrelease hactive.2
  | ended _ hforget => exact hforget

theorem Ordered.active_of_running (h : Ordered s v es f) (hrunning : Running es i) :
    Active es i :=
  ⟨hrunning.1, fun hrelease => hrunning.2 (h.forget_mem hrelease hrunning.1)⟩

/-- Whoever ends a run has only to leave, and no stop is seen after that. -/
theorem Ordered.left_of_forget (h : Ordered s v es f)
    (hstep : f.Step (.exchange i .forget ()) g) :
    g.gate.stopRequested = false ∧ Leaving (g.left i) := by
  cases h.moves hstep (decide_eq_true rfl) with
  | goes _ _ _ hforget => exact absurd rfl hforget
  | forgets _ _ hleaving =>
    refine ⟨rfl, ?_⟩
    show Leaving (Function.update f.left i _ i)
    rwa [Function.update_self]

/-- A run that has found a stop, after its events `es`: it goes on dropping its tasks. -/
structure Dropping (Q : Option RunResult → Prop) (i : ι) (n : Nat) (es : List (Event ι))
    (f : Floor ι) : Prop where
  asks : ∀ q answer, .exchange i q answer ∈ es → q.OfDropping
  left : ∃ m, (es.filter (·.isOf i)).length + m = n ∧ Drops Q (f.left i) m
  flag : Inside (f.left i) → f.gate.stopRequested = true

section Dropping

variable {Q : Option RunResult → Prop}

theorem Dropping.step_other (h : Dropping Q i n es f) (hstep : f.Step e g) (he : e.isOf i = false)
    (hflag : Inside (f.left i) → g.gate.stopRequested = true) :
    Dropping Q i n (es ++ [e]) g := by
  have hleft := hstep.left_eq he
  refine ⟨fun q answer hmem => ?_, ?_, hleft ▸ hflag⟩
  · rw [mem_append_of_ne (exchange_ne_of_not_isOf he)] at hmem
    exact h.asks q answer hmem
  · obtain ⟨m, hcount, hdrops⟩ := h.left
    exact ⟨m, by simpa [he] using hcount, hleft ▸ hdrops⟩

theorem Dropping.step_own (h : Dropping Q i n es f) (hstep : f.Step e g) (he : e.isOf i = true)
    (hwhere : Inside (f.left i) ∨ Leaving (f.left i))
    (hflag : Inside (g.left i) → g.gate.stopRequested = true) :
    Dropping Q i n (es ++ [e]) g := by
  cases hstep with
  | stop => cases he
  | @exchange j q next answer gate hleft hadmits =>
    obtain rfl : j = i := of_decide_eq_true he
    have hraised (hq : q ≠ .release) : f.gate.stopRequested = true := by
      rcases hwhere with hin | hleaving
      · exact h.flag hin
      · rw [hleft] at hleaving
        cases hleaving
        exact absurd rfl hq
    obtain ⟨m, hcount, hdrops⟩ := h.left
    rw [hleft] at hdrops
    cases m with
    | zero => exact hdrops.elim
    | succ m =>
      refine ⟨fun q' answer' hmem => ?_, ⟨m, ?_, ?_⟩, hflag⟩
      · rcases List.mem_append.mp hmem with hmem | hmem
        · exact h.asks q' answer' hmem
        · cases List.mem_singleton.mp hmem
          exact hdrops.1
      · simp [he]
        omega
      · show Drops Q (Function.update f.left j (next answer) j) m
        rw [Function.update_self]
        exact hdrops.2 _ _ _ hraised hadmits

theorem Dropping.step (h : Dropping Q i n es f) (hordered : Ordered s v es₁ f)
    (hclaim : .exchange i .claim true ∈ es₁) (hstep : f.Step e g) :
    Dropping Q i n (es ++ [e]) g := by
  have hflag (hactive : Active es₁ i) (hin : Inside (f.left i))
      (hforget : e ≠ .exchange i .forget ()) : g.gate.stopRequested = true :=
    hordered.stays_requested hstep hactive hforget (h.flag hin)
  cases he : e.isOf i with
  | false =>
    refine h.step_other hstep he fun hin => ?_
    have hactive := hordered.active_of_claim hclaim fun r hr => by
      rw [hr] at hin
      cases hin
    exact hflag hactive hin (exchange_ne_of_not_isOf he).symm
  | true =>
    have hactive := hordered.active_of_claim hclaim fun r hr => by
      cases hstep with
      | stop => cases he
      | exchange hask =>
        obtain rfl := of_decide_eq_true he
        cases hask.symm.trans hr
    have hwhere := hordered.inside_or_leaving hactive
    refine h.step_own hstep he hwhere fun hin => ?_
    -- Who forgets the stop, or gives the place back, is not inside any more.
    have hforget : e ≠ .exchange i .forget () := by
      rintro rfl
      have hleaving := (hordered.left_of_forget hstep).2
      generalize g.left i = p at hin hleaving
      cases hleaving
      cases hin with
      | goes _ _ hrelease => exact absurd rfl hrelease
    rcases hwhere with hin' | hleaving
    · exact hflag hactive hin' hforget
    · cases hstep with
      | stop => cases he
      | @exchange j q next answer gate hask hadmits =>
        obtain rfl := of_decide_eq_true he
        rw [hask] at hleaving
        change Inside (Function.update f.left j (next answer) j) at hin
        rw [Function.update_self] at hin
        cases hleaving with
        | leaves hdone =>
          rw [hdone] at hin
          cases hin

theorem Dropping.steps (h : Dropping Q i n [] f) (hordered : Ordered s v es₁ f)
    (hclaim : .exchange i .claim true ∈ es₁) (hsteps : Floor.Steps f es g) :
    Dropping Q i n es g ∧ Ordered s v (es₁ ++ es) g := by
  induction hsteps with
  | none => exact ⟨h, by rwa [List.append_nil]⟩
  | more _ hstep ih =>
    obtain ⟨hdropping, hordered'⟩ := ih
    refine ⟨hdropping.step hordered' (List.mem_append_left _ hclaim) hstep, ?_⟩
    rw [← List.append_assoc]
    exact hordered'.step hstep

end Dropping

/-! ### After a run -/

theorem Floor.Steps.stays_requested (h : Floor.Steps f es₂ g) (hordered : Ordered s v es₁ f)
    (hrunning : Running es₁ i) (hflag : f.gate.stopRequested = true)
    (hforget : .exchange i .forget () ∉ es₂) :
    g.gate.stopRequested = true ∧ Ordered s v (es₁ ++ es₂) g := by
  induction h with
  | none => exact ⟨hflag, by rwa [List.append_nil]⟩
  | @more g h es e _ hstep ih =>
    rw [List.mem_append, List.mem_singleton, not_or] at hforget
    obtain ⟨hflag', hordered'⟩ := ih hforget.1
    have hrunning' : Running (es₁ ++ es) i := by
      refine ⟨List.mem_append_left _ hrunning.1, fun hmem => ?_⟩
      exact (List.mem_append.mp hmem).elim hrunning.2 hforget.1
    have hactive := hordered'.active_of_running hrunning'
    refine ⟨hordered'.stays_requested hstep hactive (Ne.symm hforget.2) hflag', ?_⟩
    rw [← List.append_assoc]
    exact hordered'.step hstep

end Histories

end CheckIn.Run
