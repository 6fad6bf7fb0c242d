import CheckIn.Proofs.Run.Scope
import CheckIn.Run.Gate
import Mathlib.Logic.Function.Basic

/-! Exclusion. Any number of invocations on one scheduler share its gate, and their exchanges come
in any order, with stops in between. At most one of them has a run at a time. One that comes
meanwhile is refused with a single exchange, which leaves the gate as it is; so the others go on as
if it had never come. -/

namespace CheckIn.Run

open Process

/-- An invocation of a scheduler. -/
inductive Invocation where
  | all (tasks : List Task)
  | single (task : Task)

def Invocation.part (s : Scheduler) : Invocation → Part (Option RunResult)
  | all tasks => s.runAll tasks
  | single task => s.runSingle task

/-- The gate that invocations share, and what is left of each of them. -/
structure Floor (ι : Type) where
  gate : Gate
  left : ι → Part (Option RunResult)

/-- What happens on a floor: a stop is asked for, or a request of an invocation is met. -/
inductive Event (ι : Type) where
  | stop
  | exchange (i : ι) (q : Request) (answer : q.Answer)

/-- A request may be met with this answer at a gate, which is then another. Time does not show here:
a query may be given up and a pause may end early whenever a stop has been asked for. -/
def Gate.Admits (g : Gate) : (q : Request) → q.Answer → Gate → Prop
  | .claim, isFree, g' => (isFree, g') = g.enter
  | .forget, _, g' => g' = g.forget
  | .release, _, g' => g' = g.leave
  | .isStopped, answer, g' => answer = g.stopRequested ∧ g' = g
  | .pause _ heed, true, g' | .query _ heed _, .stopped, g' => heed ∧ g.stopRequested ∧ g' = g
  | .overrun, _, _ => False
  | _, _, g' => g' = g

/-- Only who enters, forgets a stop or leaves changes the gate. -/
theorem Gate.Admits.gate_eq {gate gate' : Gate} {q : Request} {answer : q.Answer}
    (h : gate.Admits q answer gate') (hclaim : q ≠ .claim) (hforget : q ≠ .forget)
    (hrelease : q ≠ .release) : gate' = gate := by
  cases q with
  | claim => exact absurd rfl hclaim
  | forget => exact absurd rfl hforget
  | release => exact absurd rfl hrelease
  | isStopped => exact h.2
  | overrun => exact h.elim
  | pause duration heed =>
    cases answer with
    | true => exact h.2.2
    | false => exact h
  | query c heed deadline =>
    cases answer with
    | stopped => exact h.2.2
    | answered _ | timedOut => exact h
  | call _ | now | wallClock | localTime | sleep _ | tell _ | overflow => exact h

/-! ### The inside -/

/-- What is left of a run that has forgotten any stop: it gives its place back. -/
inductive Leaving : Part (Option RunResult) → Prop
  | leaves {next : Unit → Part (Option RunResult)} {r : RunResult} :
      next () = .done (some r) → Leaving (.ask (I := interface) .release next)

/-- What is left of a run that was let in: at the very end it forgets any stop, and then leaves. -/
inductive Inside : Part (Option RunResult) → Prop
  | forgets {next : Unit → Part (Option RunResult)} :
      Leaving (next ()) → Inside (.ask (I := interface) .forget next)
  | goes {q : Request} {next : q.Answer → Part (Option RunResult)} :
      q ≠ .claim → q ≠ .forget → q ≠ .release → (∀ answer, Inside (next answer)) →
      Inside (.ask (I := interface) q next)

theorem inside_of_asks {p : Part RunResult} (h : p.Asks .any (Request.OfRun fun _ => True)) :
    Inside (p >>= fun r => Part.forget >>= fun _ => Part.release >>= fun _ => pure (some r)) := by
  replace h := h ()
  induction p with
  | done r => exact .forgets (.leaves rfl)
  | ask q next ih =>
    refine .goes ?_ ?_ ?_ fun answer => ih answer (h.2 answer () trivial)
    all_goals
      rintro rfl
      exact h.1

/-- An invocation asks for a place first, and ends at once if there is none. -/
theorem part_eq (s : Scheduler) (v : Invocation) :
    ∃ next : Bool → Part (Option RunResult), v.part s = .ask (I := interface) .claim next ∧
      next false = .done none ∧ Inside (next true) := by
  have hrun (tasks : List Task) : ∃ next : Bool → Part (Option RunResult),
      s.run tasks = .ask (I := interface) .claim next ∧ next false = .done none ∧
        Inside (next true) := by
    refine ⟨_, rfl, rfl, ?_⟩
    cases tasks with
    | nil => exact .goes nofun nofun nofun fun _ => .forgets (.leaves rfl)
    | cons task tasks =>
      exact inside_of_asks (s.runAccepted_asks _ (.inl fun _ _ _ _ _ => trivial))
  cases v with
  | all tasks => exact hrun (tasks.filter (·.enabled))
  | single task => exact hrun [task]

/-! ### Floors -/

variable {ι : Type}

/-- An invocation has a run: it was let in, and has not given its place back. -/
def Active (es : List (Event ι)) (i : ι) : Prop :=
  .exchange i .claim true ∈ es ∧ .exchange i .release () ∉ es

section Active

variable {es : List (Event ι)} {e : Event ι} {j : ι}

theorem mem_append_of_ne {d : Event ι} (h : d ≠ e) : d ∈ es ++ [e] ↔ d ∈ es := by
  rw [List.mem_append, List.mem_singleton]
  exact ⟨fun hmem => hmem.resolve_right h, .inl⟩

theorem active_append_of_ne (hclaim : .exchange j .claim true ≠ e)
    (hrelease : .exchange j .release () ≠ e) : Active (es ++ [e]) j ↔ Active es j := by
  unfold Active
  rw [mem_append_of_ne hclaim, mem_append_of_ne hrelease]

end Active

variable [DecidableEq ι]

inductive Floor.Step : Floor ι → Event ι → Floor ι → Prop
  | stop {f : Floor ι} : Step f .stop { f with gate := f.gate.stop }
  | exchange {f : Floor ι} {i : ι} {q : Request} {next : q.Answer → Part (Option RunResult)}
      {answer : q.Answer} {gate : Gate} :
      f.left i = .ask (I := interface) q next → f.gate.Admits q answer gate →
      Step f (.exchange i q answer) ⟨gate, Function.update f.left i (next answer)⟩

/-- The floor comes through events, the first of which is the first of the list, to another. -/
inductive Floor.Steps : Floor ι → List (Event ι) → Floor ι → Prop
  | none {f : Floor ι} : Steps f [] f
  | more {f g h : Floor ι} {es : List (Event ι)} {e : Event ι} :
      Steps f es g → g.Step e h → Steps f (es ++ [e]) h

/-- The floor on which no invocation has asked for anything yet. -/
def Floor.opening (s : Scheduler) (v : ι → Invocation) : Floor ι :=
  ⟨.vacant, fun i => (v i).part s⟩

namespace Event

def isOf (i : ι) : Event ι → Bool
  | stop => false
  | exchange j _ _ => j = i

end Event

/-! ### Standings -/

/-- Where an invocation stands after events: it has yet to ask, it was refused, it is inside, it is
about to leave, or its run is over. -/
inductive Standing (s : Scheduler) (v : Invocation) (es : List (Event ι)) (i : ι) :
    Part (Option RunResult) → Prop
  | ahead : es.filter (·.isOf i) = [] → Standing s v es i (v.part s)
  | refused : es.filter (·.isOf i) = [.exchange i .claim false] → Standing s v es i (.done none)
  | inside {p : Part (Option RunResult)} : Active es i → .exchange i .claim false ∉ es →
      Inside p → Standing s v es i p
  | leaving {p : Part (Option RunResult)} : Active es i → .exchange i .claim false ∉ es →
      .exchange i .forget () ∈ es → Leaving p → Standing s v es i p
  | ended {r : RunResult} : .exchange i .claim true ∈ es → .exchange i .forget () ∈ es →
      .exchange i .release () ∈ es → .exchange i .claim false ∉ es →
      Standing s v es i (.done (some r))

/-- What holds on a floor after events. -/
structure Ordered (s : Scheduler) (v : ι → Invocation) (es : List (Event ι)) (f : Floor ι) :
    Prop where
  standing : ∀ i, Standing s (v i) es i (f.left i)
  unique : ∀ i j, Active es i → Active es j → i = j
  taken : f.gate.isTaken ↔ ∃ i, Active es i

variable {s : Scheduler} {v : ι → Invocation} {es : List (Event ι)} {e : Event ι} {i j : ι}
  {f g : Floor ι}

theorem exchange_ne_of_not_isOf {q : Request} {answer : q.Answer} (he : e.isOf i = false) :
    .exchange i q answer ≠ e := by
  rintro rfl
  cases (decide_eq_true rfl).symm.trans he

theorem active_append_of_not_isOf (he : e.isOf i = false) : Active (es ++ [e]) i ↔ Active es i :=
  active_append_of_ne (exchange_ne_of_not_isOf he) (exchange_ne_of_not_isOf he)

/-- Events of others leave an invocation where it stands. -/
theorem Standing.append_of_not_isOf {w : Invocation} {p : Part (Option RunResult)}
    (h : Standing s w es i p) (he : e.isOf i = false) : Standing s w (es ++ [e]) i p := by
  have hfilter : (es ++ [e]).filter (·.isOf i) = es.filter (·.isOf i) := by
    rw [List.filter_append, List.filter_cons_of_neg (by simp [he]), List.filter_nil,
      List.append_nil]
  cases h with
  | ahead hnone => exact .ahead (hfilter.trans hnone)
  | refused hone => exact .refused (hfilter.trans hone)
  | inside hactive hclaim hin =>
    exact .inside ((active_append_of_not_isOf he).mpr hactive)
      (mt (mem_append_of_ne (exchange_ne_of_not_isOf he)).mp hclaim) hin
  | leaving hactive hclaim hforget hleaving =>
    exact .leaving ((active_append_of_not_isOf he).mpr hactive)
      (mt (mem_append_of_ne (exchange_ne_of_not_isOf he)).mp hclaim)
      (List.mem_append_left _ hforget) hleaving
  | ended htrue hforget hrelease hclaim =>
    exact .ended (List.mem_append_left _ htrue) (List.mem_append_left _ hforget)
      (List.mem_append_left _ hrelease)
      (mt (mem_append_of_ne (exchange_ne_of_not_isOf he)).mp hclaim)

theorem ordered_opening : Ordered s v [] (Floor.opening s v) where
  standing _ := .ahead rfl
  unique _ _ h := absurd h.1 List.not_mem_nil
  taken := ⟨nofun, fun ⟨_, h⟩ => absurd h.1 List.not_mem_nil⟩

/-- Where invocations stand after an event of one of them. -/
theorem standing_update {p : Part (Option RunResult)} (h : ∀ j, Standing s (v j) es j (f.left j))
    (he : ∀ j, j ≠ i → e.isOf j = false) (hi : Standing s (v i) (es ++ [e]) i p) :
    ∀ j, Standing s (v j) (es ++ [e]) j (Function.update f.left i p j) := by
  intro j
  by_cases hj : j = i
  · subst hj
    rw [Function.update_self]
    exact hi
  · rw [Function.update_of_ne hj]
    exact (h j).append_of_not_isOf (he j hj)

/-- What an invocation may do next: it is let in where nobody is inside, it is refused where
somebody is, it goes on inside, it forgets any stop, or it gives its place back. -/
inductive Moves (es : List (Event ι)) (f : Floor ι) (i : ι) : Event ι → Floor ι → Prop
  | enters {p : Part (Option RunResult)} : es.filter (·.isOf i) = [] → f.gate.isTaken = false →
      Inside p → Moves es f i (.exchange i .claim true)
        ⟨{ f.gate with isTaken := true }, Function.update f.left i p⟩
  | bounces : es.filter (·.isOf i) = [] → f.gate.isTaken = true →
      Moves es f i (.exchange i .claim false) ⟨f.gate, Function.update f.left i (.done none)⟩
  | goes {q : Request} {answer : q.Answer} {p : Part (Option RunResult)} :
      Active es i → .exchange i .claim false ∉ es → q ≠ .claim → q ≠ .forget → q ≠ .release →
      Inside p → Moves es f i (.exchange i q answer) ⟨f.gate, Function.update f.left i p⟩
  | forgets {p : Part (Option RunResult)} : Active es i → .exchange i .claim false ∉ es →
      Leaving p →
      Moves es f i (.exchange i .forget ()) ⟨f.gate.forget, Function.update f.left i p⟩
  | leaves {r : RunResult} : Active es i → .exchange i .claim false ∉ es →
      .exchange i .forget () ∈ es →
      Moves es f i (.exchange i .release ())
        ⟨f.gate.leave, Function.update f.left i (.done (some r))⟩

theorem Ordered.moves (h : Ordered s v es f) (hstep : f.Step e g) (he : e.isOf i) :
    Moves es f i e g := by
  cases hstep with
  | stop => cases he
  | @exchange k q next answer gate hleft hadmits =>
    obtain rfl : k = i := of_decide_eq_true he
    generalize hp : f.left k = p at hleft
    have hstanding := h.standing k
    rw [hp] at hstanding
    cases hstanding with
    | ahead hnone =>
      obtain ⟨next', hpart, hrefused, hinside⟩ := part_eq s (v k)
      cases hpart.symm.trans hleft
      obtain ⟨hfree, rfl⟩ := Prod.mk.inj (show (answer, gate) = f.gate.enter from hadmits)
      cases hgate : f.gate with
      | mk isTaken stopRequested =>
        rw [hgate] at hfree
        cases isTaken with
        | false =>
          cases hfree
          have hmoves : Moves es f k _ _ := .enters hnone (by rw [hgate]) hinside
          rwa [hgate] at hmoves
        | true =>
          cases hfree
          have hmoves : Moves es f k _ _ := .bounces hnone (by rw [hgate])
          rwa [hgate, ← hrefused] at hmoves
    | refused => cases hleft
    | ended => cases hleft
    | inside hactive hclaim hin =>
      subst hleft
      cases hin with
      | forgets hleaving =>
        cases hadmits
        exact .forgets hactive hclaim hleaving
      | goes hq hq' hq'' hin =>
        cases hadmits.gate_eq hq hq' hq''
        exact .goes hactive hclaim hq hq' hq'' (hin answer)
    | leaving hactive hclaim hforget hleaving =>
      subst hleft
      cases hleaving with
      | @leaves _ r hdone =>
        cases hadmits
        have hmoves := Moves.leaves (f := f) (r := r) hactive hclaim hforget
        rwa [← hdone] at hmoves

theorem not_mem_of_filter {q : Request} {answer : q.Answer} (h : es.filter (·.isOf i) = []) :
    Event.exchange i q answer ∉ es := by
  intro hmem
  have hfilter : Event.exchange i q answer ∈ es.filter (·.isOf i) :=
    List.mem_filter.mpr ⟨hmem, decide_eq_true rfl⟩
  rw [h] at hfilter
  exact List.not_mem_nil hfilter

/-- An event after which the same invocations have a run leaves the floor in order. -/
theorem Ordered.of_active_iff (h : Ordered s v es f)
    (hsame : ∀ j, Active (es ++ [e]) j ↔ Active es j) (hgate : g.gate.isTaken = f.gate.isTaken)
    (hstanding : ∀ j, Standing s (v j) (es ++ [e]) j (g.left j)) : Ordered s v (es ++ [e]) g := by
  refine ⟨hstanding, fun j k hj hk => ?_, ?_⟩
  · exact h.unique j k ((hsame j).mp hj) ((hsame k).mp hk)
  · rw [hgate]
    exact h.taken.trans (exists_congr fun j => (hsame j).symm)

theorem isOf_eq_false {q : Request} {answer : q.Answer} (hj : j ≠ i) :
    (Event.exchange i q answer).isOf j = false :=
  decide_eq_false fun h => hj h.symm

theorem Ordered.stop (h : Ordered s v es f) :
    Ordered s v (es ++ [.stop]) { f with gate := f.gate.stop } :=
  h.of_active_iff (fun _ => active_append_of_not_isOf rfl) rfl
    fun j => (h.standing j).append_of_not_isOf rfl

theorem Ordered.enters {p : Part (Option RunResult)} (h : Ordered s v es f)
    (hnone : es.filter (·.isOf i) = []) (hfree : f.gate.isTaken = false) (hin : Inside p) :
    Ordered s v (es ++ [.exchange i .claim true])
      ⟨{ f.gate with isTaken := true }, Function.update f.left i p⟩ := by
  have hactive : Active (es ++ [.exchange i .claim true]) i := by
    refine ⟨List.mem_append_right _ (List.mem_singleton_self _), ?_⟩
    rw [mem_append_of_ne (by nofun)]
    exact not_mem_of_filter hnone
  have hclaim : .exchange i .claim false ∉ es ++ [.exchange i .claim true] := by
    rw [mem_append_of_ne (by nofun)]
    exact not_mem_of_filter hnone
  have honly (j : ι) (hj : Active (es ++ [.exchange i .claim true]) j) : j = i := by
    by_cases hji : j = i
    · exact hji
    · -- Another would have had a run before, when the gate was free.
      have hbefore := (active_append_of_not_isOf (isOf_eq_false hji)).mp hj
      cases hfree.symm.trans (h.taken.mpr ⟨j, hbefore⟩)
  refine ⟨standing_update h.standing (fun _ => isOf_eq_false) (.inside hactive hclaim hin), ?_, ?_⟩
  · intro j k hj hk
    rw [honly j hj, honly k hk]
  · exact ⟨fun _ => ⟨i, hactive⟩, fun _ => rfl⟩

theorem Ordered.bounces (h : Ordered s v es f) (hnone : es.filter (·.isOf i) = []) :
    Ordered s v (es ++ [.exchange i .claim false])
      ⟨f.gate, Function.update f.left i (.done none)⟩ := by
  have hone : (es ++ [Event.exchange i .claim false]).filter (·.isOf i) =
      [.exchange i .claim false] := by
    have hself : (Event.exchange i .claim false).isOf i := decide_eq_true rfl
    rw [List.filter_append, hnone, List.nil_append, List.filter_cons_of_pos hself,
      List.filter_nil]
  exact h.of_active_iff (fun _ => active_append_of_ne nofun nofun) rfl
    (standing_update h.standing (fun _ => isOf_eq_false) (.refused hone))

/-- Whoever neither enters nor leaves keeps the floor in order. -/
theorem Ordered.keeps {q : Request} {answer : q.Answer} {p : Part (Option RunResult)} {gate : Gate}
    (h : Ordered s v es f) (hactive : Active es i) (hclaim : .exchange i .claim false ∉ es)
    (hq : q ≠ .claim) (hq' : q ≠ .release) (hgate : gate.isTaken = f.gate.isTaken)
    (hp : Active (es ++ [.exchange i q answer]) i →
      .exchange i .claim false ∉ es ++ [.exchange i q answer] →
      Standing s (v i) (es ++ [.exchange i q answer]) i p) :
    Ordered s v (es ++ [.exchange i q answer]) ⟨gate, Function.update f.left i p⟩ := by
  have hother {q' : Request} {answer' : q'.Answer} (j : ι) (hne : q ≠ q') :
      Event.exchange j q' answer' ≠ .exchange i q answer := by
    intro h
    cases h
    exact hne rfl
  have hsame (j : ι) : Active (es ++ [.exchange i q answer]) j ↔ Active es j :=
    active_append_of_ne (hother j hq) (hother j hq')
  have hclaim' : .exchange i .claim false ∉ es ++ [.exchange i q answer] := by
    rw [mem_append_of_ne (hother i hq)]
    exact hclaim
  exact h.of_active_iff hsame hgate (standing_update h.standing (fun _ => isOf_eq_false)
    (hp ((hsame i).mpr hactive) hclaim'))

theorem Ordered.leaves {r : RunResult} (h : Ordered s v es f) (hactive : Active es i)
    (hclaim : .exchange i .claim false ∉ es) (hforget : .exchange i .forget () ∈ es) :
    Ordered s v (es ++ [.exchange i .release ()])
      ⟨f.gate.leave, Function.update f.left i (.done (some r))⟩ := by
  have hnobody (j : ι) : ¬Active (es ++ [.exchange i .release ()]) j := by
    intro hj
    by_cases hji : j = i
    · subst hji
      exact hj.2 (List.mem_append_right _ (List.mem_singleton_self _))
    · have hbefore := (active_append_of_not_isOf (isOf_eq_false hji)).mp hj
      exact hji (h.unique j i hbefore hactive)
  have hclaim' : .exchange i .claim false ∉ es ++ [.exchange i .release ()] := by
    rw [mem_append_of_ne (by nofun)]
    exact hclaim
  have hended : Standing s (v i) (es ++ [.exchange i .release ()]) i (.done (some r)) :=
    .ended (List.mem_append_left _ hactive.1) (List.mem_append_left _ hforget)
      (List.mem_append_right _ (List.mem_singleton_self _)) hclaim'
  refine ⟨standing_update h.standing (fun _ => isOf_eq_false) hended, ?_, ?_⟩
  · exact fun j _ hj => absurd hj (hnobody j)
  · exact ⟨nofun, fun ⟨j, hj⟩ => absurd hj (hnobody j)⟩

/-- A step keeps the floor in order. -/
theorem Ordered.step (h : Ordered s v es f) (hstep : f.Step e g) : Ordered s v (es ++ [e]) g := by
  cases e with
  | stop =>
    cases hstep
    exact h.stop
  | exchange i q answer =>
    cases h.moves hstep (decide_eq_true rfl) with
    | enters hnone hfree hin => exact h.enters hnone hfree hin
    | bounces hnone _ => exact h.bounces hnone
    | goes hactive hclaim hq _ hq' hin =>
      exact h.keeps hactive hclaim hq hq' rfl fun hactive hclaim => .inside hactive hclaim hin
    | forgets hactive hclaim hleaving =>
      exact h.keeps hactive hclaim nofun nofun rfl fun hactive hclaim =>
        .leaving hactive hclaim (List.mem_append_right _ (List.mem_singleton_self _)) hleaving
    | leaves hactive hclaim hforget => exact h.leaves hactive hclaim hforget

theorem Floor.Steps.ordered (h : Floor.Steps (.opening s v) es f) : Ordered s v es f := by
  induction h with
  | none => exact ordered_opening
  | more _ hstep ih => exact ih.step hstep

/-! ### Refusals -/

/-- Without the events of an invocation that was never let in, all others go on as they did. -/
theorem Floor.Steps.without (h : Floor.Steps (.opening s v) es f)
    (hrefused : Event.exchange j .claim true ∉ es) :
    Floor.Steps (.opening s v) (es.filter (!·.isOf j))
      ⟨f.gate, Function.update f.left j ((v j).part s)⟩ := by
  induction h with
  | none =>
    rw [show (v j).part s = (Floor.opening s v).left j from rfl, Function.update_eq_self]
    exact .none
  | @more f g es e hsteps hstep ih =>
    have hbefore := ih fun hmem => hrefused (List.mem_append_left _ hmem)
    rw [List.filter_append]
    cases he : e.isOf j with
    | true =>
      rw [List.filter_cons_of_neg (by simp [he]), List.filter_nil, List.append_nil]
      cases hsteps.ordered.moves hstep he with
      | enters => exact absurd (List.mem_append_right _ (List.mem_singleton_self _)) hrefused
      | bounces => rwa [Function.update_idem]
      | goes hactive | forgets hactive | leaves hactive =>
        exact absurd (List.mem_append_left _ hactive.1) hrefused
    | false =>
      rw [List.filter_cons_of_pos (by simp [he]), List.filter_nil]
      refine .more hbefore ?_
      cases hstep with
      | stop => exact .stop
      | @exchange i q next answer gate hleft hadmits =>
        have hij : i ≠ j := of_decide_eq_false he
        show Floor.Step _ _ ⟨gate, Function.update (Function.update f.left i (next answer)) j _⟩
        rw [Function.update_comm hij]
        exact .exchange ((Function.update_of_ne hij _ _).trans hleft) hadmits

/-- A run that was let in is over once it has given its place back. -/
theorem Ordered.release_mem_iff (h : Ordered s v es f)
    (hclaim : Event.exchange i .claim true ∈ es) :
    .exchange i .release () ∈ es ↔ ∃ r, f.left i = .done (some r) := by
  generalize hp : f.left i = p
  have hstanding := h.standing i
  rw [hp] at hstanding
  cases hstanding with
  | ahead hnone => exact absurd hclaim (not_mem_of_filter hnone)
  | refused hone =>
    have hmem : Event.exchange i .claim true ∈ es.filter (·.isOf i) :=
      List.mem_filter.mpr ⟨hclaim, decide_eq_true rfl⟩
    rw [hone, List.mem_singleton] at hmem
    cases hmem
  | inside hactive _ hin =>
    refine ⟨fun hrelease => absurd hrelease hactive.2, ?_⟩
    rintro ⟨r, rfl⟩
    cases hin
  | leaving hactive _ _ hleaving =>
    refine ⟨fun hrelease => absurd hrelease hactive.2, ?_⟩
    rintro ⟨r, rfl⟩
    cases hleaving
  | ended _ _ hrelease _ => exact ⟨fun _ => ⟨_, rfl⟩, fun _ => hrelease⟩

/-- An invocation that has yet to ask is as it was. -/
theorem Ordered.left_of_filter (h : Ordered s v es f) (hnone : es.filter (·.isOf j) = []) :
    f.left j = (v j).part s := by
  generalize hp : f.left j = p
  have hstanding := h.standing j
  rw [hp] at hstanding
  cases hstanding with
  | ahead => rfl
  | refused hone => cases hone.symm.trans hnone
  | inside hactive | leaving hactive => exact absurd hactive.1 (not_mem_of_filter hnone)
  | ended hclaim => exact absurd hclaim (not_mem_of_filter hnone)

/-- Where somebody is inside, an invocation that has yet to ask can only be refused. -/
theorem Ordered.refuses (h : Ordered s v es f) (hactive : ∃ i, Active es i)
    (hnone : es.filter (·.isOf j) = []) :
    (∃ g, f.Step (.exchange j .claim false) g) ∧ ∀ e g, f.Step e g → e.isOf j →
      e = .exchange j .claim false ∧ g = ⟨f.gate, Function.update f.left j (.done none)⟩ := by
  have htaken := h.taken.mpr hactive
  constructor
  · have hleft := h.left_of_filter hnone
    obtain ⟨next, hpart, -, -⟩ := part_eq s (v j)
    refine ⟨⟨f.gate.enter.2, _⟩, .exchange (hleft.trans hpart) ?_⟩
    show (false, f.gate.enter.2) = f.gate.enter
    rw [Gate.enter, htaken]
    rfl
  · intro e g hstep he
    cases h.moves hstep he with
    | enters _ hfree => cases htaken.symm.trans hfree
    | bounces => exact ⟨rfl, rfl⟩
    | goes hj | forgets hj | leaves hj => exact absurd hj.1 (not_mem_of_filter hnone)

/-- An invocation that was refused has done nothing else. -/
theorem Ordered.refused (h : Ordered s v es f) (hclaim : Event.exchange j .claim false ∈ es) :
    es.filter (·.isOf j) = [.exchange j .claim false] ∧ f.left j = .done none := by
  generalize hp : f.left j = p
  have hstanding := h.standing j
  rw [hp] at hstanding
  cases hstanding with
  | ahead hnone => exact absurd hclaim (not_mem_of_filter hnone)
  | refused hone => exact ⟨hone, rfl⟩
  | inside _ hfalse | leaving _ hfalse | ended _ _ _ hfalse => exact absurd hclaim hfalse

/-- However the exchanges of invocations on one scheduler come, at most one invocation has a run, and
the gate is taken from the time at which it is let in until its run is over. One that comes while
another has a run can only be refused, which leaves the gate and the others as they are; and what
happened on the floor could have happened without it. -/
theorem runs_exclude (s : Scheduler) (v : ι → Invocation) (es : List (Event ι)) (f : Floor ι)
    (h : Floor.Steps (.opening s v) es f) :
    (∀ i j, Active es i → Active es j → i = j) ∧
    (f.gate.isTaken ↔ ∃ i, Active es i) ∧
    (∀ i, .exchange i .claim true ∈ es →
      (.exchange i .release () ∈ es ↔ ∃ r, f.left i = .done (some r))) ∧
    (∀ j, (∃ i, Active es i) → es.filter (·.isOf j) = [] →
      (∃ g, f.Step (.exchange j .claim false) g) ∧ ∀ e g, f.Step e g → e.isOf j →
        e = .exchange j .claim false ∧ g = ⟨f.gate, Function.update f.left j (.done none)⟩) ∧
    ∀ j, .exchange j .claim false ∈ es →
      es.filter (·.isOf j) = [.exchange j .claim false] ∧ f.left j = .done none ∧
      Floor.Steps (.opening s v) (es.filter (!·.isOf j))
        ⟨f.gate, Function.update f.left j ((v j).part s)⟩ := by
  have hordered := h.ordered
  refine ⟨hordered.unique, hordered.taken, fun i hi => hordered.release_mem_iff hi,
    fun j hactive hnone => hordered.refuses hactive hnone, fun j hj => ?_⟩
  obtain ⟨hone, hleft⟩ := hordered.refused hj
  have hnever : Event.exchange j .claim true ∉ es := by
    intro hmem
    have hfilter : Event.exchange j .claim true ∈ es.filter (·.isOf j) :=
      List.mem_filter.mpr ⟨hmem, decide_eq_true rfl⟩
    rw [hone, List.mem_singleton] at hfilter
    cases hfilter
  exact ⟨hone, hleft, h.without hnever⟩

/-- Two invocations, with a stop after the first was let in: the second is refused, and the stop is
still pending. -/
theorem runs_exclude_imageTask :
    ∃ f : Floor Bool, Floor.Steps (.opening .standard fun _ => .single imageTask)
      [.exchange false .claim true, .stop, .exchange true .claim false] f ∧
      f.gate = ⟨true, true⟩ ∧ f.gate.isTaken ∧ f.left true = .done none := by
  obtain ⟨next, hpart, -, -⟩ := part_eq .standard (.single imageTask)
  have hfirst : Floor.Steps (.opening .standard fun _ : Bool => .single imageTask)
      ([] ++ [.exchange false .claim true]) _ :=
    .more .none (.exchange hpart rfl)
  have hsecond : Floor.Steps _ ([.exchange false .claim true] ++ [.stop]) _ := hfirst.more .stop
  have hthird : Floor.Steps _
      ([.exchange false .claim true, .stop] ++ [.exchange true .claim false]) _ :=
    hsecond.more (.exchange (i := true) hpart rfl)
  have hexclude := runs_exclude _ _ _ _ hthird
  have hactive : Active ([.exchange false .claim true, .stop] ++ [.exchange true .claim false])
      false := ⟨List.mem_cons_self .., by simp⟩
  exact ⟨_, hthird, rfl, hexclude.2.1.mpr ⟨false, hactive⟩,
    (hexclude.2.2.2.2 true (by simp)).2.1⟩

end CheckIn.Run
