import CheckIn.Proofs.Requests
import CheckIn.Run.Desk

/-! The snapshot that a bridge keeps. Calls come one after the other, at any times, and each may be
given up while a command is being carried out. What is kept after them can be told from what they
were and from how their commands ended: whatever goes into the phone drops the snapshot, a dump that
succeeded replaces it, and nothing else touches it. So the elements that are found without a command
are those of a dump after which nothing went into the phone. -/

namespace CheckIn.Phone

/-- Calls that go into the phone. -/
def Call.isInput : Call → Bool
  | click _ | setText _ _ | tap _ | swipe _ _ _ | back | home | recents | launch _ | forceStop _ =>
    true
  | findAll _ | foreground | screenSize | screenshot _ | detect => false

namespace Bridge

/-- A command that was issued at a time, how it ended, and when. One that was given up has no
outcome. -/
structure Issue where
  command : Command
  made : Nat
  outcome : Option (Except String Outcome)
  met : Nat

/-- The time, the snapshot that is kept, and the commands that have been issued. -/
structure Standing where
  clock : Nat
  kept : Option Snapshot
  issued : List Issue

/-- The command is carried out in any time, with an outcome or until it is given up. -/
def Standing.Issues (command : Command) (outcome : Option (Except String Outcome))
    (before after : Standing) : Prop :=
  ∃ met, before.clock ≤ met ∧
    after = ⟨met, before.kept, before.issued ++ [⟨command, before.clock, outcome, met⟩]⟩

/-- How a request is met. -/
def Serves (before : Standing) : (q : Request) → Request.Answer q → (after : Standing) → Prop
  | .execute command, outcome, after => before.Issues command (some outcome) after
  | .now, now, after => now = before.clock ∧ after = before
  | .kept, kept, after => kept = before.kept ∧ after = before
  | .keep kept, _, after => after = { before with kept }
  | .overflow, _, after => after = before

/-- A request is given up while it is waited for. Only commands are waited for. -/
def GivesUp (before : Standing) : Request → (after : Standing) → Prop
  | .execute command, after => before.Issues command none after
  | _, _ => False

variable {α β : Type} {b : Bridge} {before after : Standing}

/-- A process comes to a value, or is given up before that. -/
def Passes : Process interface α → (before : Standing) → Option α → (after : Standing) → Prop
  | .done a, before, result, after => result = some a ∧ after = before
  | .ask q next, before, result, after => GivesUp before q after ∧ result = none ∨
    ∃ answer between, Serves before q answer between ∧ Passes (next answer) between result after

theorem passes_bind {p : Process interface α} {f : α → Process interface β} {result : Option β} :
    Passes (p >>= f) before result after ↔ Passes p before none after ∧ result = none ∨
      ∃ a between, Passes p before (some a) between ∧ Passes (f a) between result after := by
  induction p generalizing before with
  | done a =>
    constructor
    · intro h
      exact .inr ⟨a, before, ⟨rfl, rfl⟩, h⟩
    · rintro (⟨⟨⟨⟩, -⟩, -⟩ | ⟨_, _, ⟨⟨⟩, rfl⟩, h⟩)
      exact h
  | ask q next ih =>
    constructor
    · rintro (⟨hgives, rfl⟩ | ⟨answer, between, hserves, h⟩)
      · exact .inl ⟨.inl ⟨hgives, rfl⟩, rfl⟩
      · rcases ih answer |>.mp h with ⟨hp, rfl⟩ | ⟨a, middle, hp, hf⟩
        · exact .inl ⟨.inr ⟨answer, between, hserves, hp⟩, rfl⟩
        · exact .inr ⟨a, middle, .inr ⟨answer, between, hserves, hp⟩, hf⟩
    · rintro (⟨⟨hgives, -⟩ | ⟨answer, between, hserves, hp⟩, rfl⟩ |
        ⟨a, middle, ⟨-, ⟨⟩⟩ | ⟨answer, between, hserves, hp⟩, hf⟩)
      · exact .inl ⟨hgives, rfl⟩
      · exact .inr ⟨answer, between, hserves, (ih answer).mpr (.inl ⟨hp, rfl⟩)⟩
      · exact .inr ⟨answer, between, hserves, (ih answer).mpr (.inr ⟨a, middle, hp, hf⟩)⟩

theorem passes_bind_run {x : Exchange α} {f : α → Exchange β} {result : Option (Except Failure β)} :
    Passes (x >>= f).run before result after ↔ Passes x.run before none after ∧ result = none ∨
      (∃ e, Passes x.run before (some (.error e)) after ∧ result = some (.error e)) ∨
      ∃ a between, Passes x.run before (some (.ok a)) between ∧
        Passes (f a).run between result after := by
  rw [ExceptT.run_bind, passes_bind]
  refine or_congr_right ⟨?_, ?_⟩
  · rintro ⟨e | a, between, hx, h⟩
    · obtain ⟨rfl, rfl⟩ := h
      exact .inl ⟨e, hx, rfl⟩
    · exact .inr ⟨a, between, hx, h⟩
  · rintro (⟨e, hx, rfl⟩ | ⟨a, between, hx, h⟩)
    · exact ⟨.error e, after, hx, rfl, rfl⟩
    · exact ⟨.ok a, between, hx, h⟩

/-! ### What becomes of the snapshot -/

/-- Whether it ends or is given up, what was kept before and what is kept after are related. -/
def Leads (R : Option Snapshot → Option Snapshot → Prop) (x : Exchange α) : Prop :=
  ∀ before result after, Passes x.run before result after → R before.kept after.kept

variable {R S T : Option Snapshot → Option Snapshot → Prop} {x : Exchange α} {f : α → Exchange β}

theorem Leads.bind (hx : Leads R x) (hf : ∀ a, Leads S (f a)) (hR : ∀ k k', R k k' → T k k')
    (hRS : ∀ k k' k'', R k k' → S k' k'' → T k k'') : Leads T (x >>= f) := by
  intro before result after h
  rcases passes_bind_run.mp h with ⟨hgiven, -⟩ | ⟨e, hfailed, -⟩ | ⟨a, between, hfirst, hrest⟩
  · exact hR _ _ (hx _ _ _ hgiven)
  · exact hR _ _ (hx _ _ _ hfailed)
  · exact hRS _ _ _ (hx _ _ _ hfirst) (hf a _ _ _ hrest)

theorem Leads.during (hx : Leads R x) (cause : String) : Leads R (during cause x) := by
  intro before result after h
  rcases passes_bind.mp h with ⟨hgiven, -⟩ | ⟨e | a, between, hfirst, -, rfl⟩
  · exact hx _ _ _ hgiven
  · exact hx _ _ _ hfirst
  · exact hx _ _ _ hfirst

/-- The snapshot is not touched. -/
def Preserves (x : Exchange α) : Prop := Leads Eq x

/-- The snapshot is dropped. -/
def Drops (x : Exchange α) : Prop := Leads (fun _ kept => kept = none) x

/-- The snapshot is dropped, if it is touched at all. -/
def Forgets (x : Exchange α) : Prop := Leads (fun kept kept' => kept' = kept ∨ kept' = none) x

theorem Preserves.pure (a : α) : Preserves (pure a) := by
  rintro before result after ⟨-, rfl⟩
  rfl

theorem Preserves.throw (e : Failure) : Preserves (throw e : Exchange α) := by
  rintro before result after ⟨-, rfl⟩
  rfl

theorem Preserves.bind (hx : Preserves x) (hf : ∀ a, Preserves (f a)) : Preserves (x >>= f) :=
  Leads.bind hx hf (fun _ _ h => h) fun _ _ _ h h' => h.trans h'

theorem Preserves.during (h : Preserves x) (cause : String) : Preserves (during cause x) :=
  Leads.during h cause

theorem Preserves.forgets (h : Preserves x) : Forgets x :=
  fun _ _ _ hpasses => .inl (h _ _ _ hpasses).symm

theorem Drops.forgets (h : Drops x) : Forgets x := fun _ _ _ hpasses => .inr (h _ _ _ hpasses)

theorem Forgets.bind (hx : Forgets x) (hf : ∀ a, Forgets (f a)) : Forgets (x >>= f) := by
  refine Leads.bind hx hf (fun _ _ h => h) fun k k' k'' h h' => ?_
  rcases h' with rfl | h'
  · exact h
  · exact .inr h'

theorem Drops.bind (hx : Drops x) (hf : ∀ a, Forgets (f a)) : Drops (x >>= f) := by
  refine Leads.bind hx hf (fun _ _ h => h) fun k k' k'' h h' => ?_
  rcases h' with rfl | h'
  · exact h
  · exact h'

/-! ### Calls other than lookups -/

theorem execute_preserves (command : Command) : Preserves (execute command) := by
  rintro before result after (⟨⟨met, -, rfl⟩, -⟩ | ⟨answer, between, ⟨met, -, rfl⟩, -, rfl⟩)
  · rfl
  · rfl

theorem keep_none_drops : Drops (keep none) := by
  rintro before result after (⟨⟨⟩, -⟩ | ⟨answer, between, rfl, -, rfl⟩)
  rfl

theorem succeed_preserves (command : Command) (start name : String) :
    Preserves (succeed command start name) := by
  refine (execute_preserves command).bind fun outcome => ?_
  cases outcome with
  | error problem => exact .throw _
  | ok outcome =>
    dsimp only
    split
    · exact .pure _
    · exact .throw _

theorem shell_preserves (b : Bridge) (arguments : List String) : Preserves (b.shell arguments) :=
  (succeed_preserves _ _ _).bind fun _ => .pure _

theorem input_drops (b : Bridge) (arguments : List String) : Drops (b.input arguments) :=
  keep_none_drops.bind fun _ => ((b.shell_preserves arguments).bind fun _ => .pure _).forgets

/-- A number that does not fit its word is neither a failure nor waited for. -/
theorem passes_checked {fits : Prop} [Decidable fits] {result : Option (Except Failure Unit)}
    (h : Passes (checked fits).run before result after) :
    result = some (.ok ()) ∧ after = before := by
  unfold checked at h
  split at h
  · rcases h with ⟨⟨⟩, -⟩ | ⟨_, _, rfl, h⟩
    exact h
  · exact h

theorem tapCenter_drops (b : Bridge) (e : Screen.Element) : Drops (b.tapCenter e) := by
  intro before result after h
  rcases passes_bind_run.mp h with ⟨hgiven, -⟩ | ⟨_, hfailed, -⟩ | ⟨_, _, hchecked, htap⟩
  · cases (passes_checked hgiven).1
  · cases (passes_checked hfailed).1
  · obtain ⟨-, rfl⟩ := passes_checked hchecked
    exact b.input_drops _ _ _ _ htap

theorem setText_drops (b : Bridge) (e : Screen.Element) (text : String) :
    Drops (b.setText e text) := by
  refine (b.tapCenter_drops e).bind fun _ => (b.input_drops _).forgets.bind fun _ => ?_
  refine Forgets.bind ?_ fun _ => ?_
  · induction e.text.toList with
    | nil => exact (Preserves.pure _).forgets
    | cons c cs ih => exact (b.input_drops _).forgets.bind fun _ => ih
  · split
    · exact (b.input_drops _).forgets
    · exact (Preserves.pure _).forgets

theorem detect_preserves (b : Bridge) : Preserves b.detect := by
  unfold detect
  split
  · exact .pure _
  · refine (succeed_preserves _ _ _).bind fun printed => ?_
    split
    · exact .pure _
    · exact .throw _

theorem screenSize_preserves (b : Bridge) : Preserves b.screenSize := by
  refine (b.shell_preserves _).bind fun report => ?_
  split
  · exact .pure _
  · exact .throw _

/-- What goes into the phone drops the snapshot, whether it succeeds, fails, or is given up. -/
theorem meet_drops (b : Bridge) {c : Call} (h : c.isInput = true) : Drops (b.meet c) := by
  cases c with
  | findAll | foreground | screenSize | screenshot | detect => cases h
  | click e => exact b.tapCenter_drops e
  | setText e text => exact b.setText_drops e text
  | launch | forceStop => exact Leads.during (b.input_drops _) _
  | _ => exact b.input_drops _

/-- Calls that look for no elements and go not into the phone leave the snapshot alone. -/
theorem meet_preserves (b : Bridge) {c : Call} (h : c.isInput = false)
    (hc : ∀ selector, c ≠ .findAll selector) : Preserves (b.meet c) := by
  cases c with
  | findAll selector => exact absurd rfl (hc selector)
  | foreground => exact (b.shell_preserves _).bind fun _ => .pure _
  | screenSize => exact b.screenSize_preserves
  | screenshot path => exact ((b.shell_preserves _).during _).bind fun _ => .pure _
  | detect => exact b.detect_preserves
  | _ => cases h

/-! ### Lookups -/

/-- What a command printed, if it succeeded. -/
def printed? : Except String Outcome → Option (List UInt8)
  | .ok outcome => if outcome.exitCode = 0 then some outcome.printed else none
  | .error _ => none

/-- The layout that a dump came to, if it came to one. -/
def layout? (outcome : Except String Outcome) : Option String :=
  ((printed? outcome).map Text.Utf8.lossy).filter fun layout =>
    Text.contains "<hierarchy".toList layout.toList

/-- The command that carries out arguments in the phone's shell. -/
def shellCommand (b : Bridge) (arguments : List String) : Command :=
  ⟨b.connection.adb, (match b.connection.serial with
    | some serial => ["-s", serial]
    | none => []) ++ "shell" :: arguments⟩

/-- The command that dumps the layout of the screen. -/
def dump (b : Bridge) : Command :=
  b.shellCommand [s!"uiautomator dump {layoutPath} >/dev/null && cat {layoutPath}"]

/-- A command is issued, and the result is what can be read off its outcome. -/
inductive Reports (command : Command) (read : Except String Outcome → Option α)
    (before : Standing) : Option (Except Failure α) → (after : Standing) → Prop
  | succeeded {outcome : Except String Outcome} {a : α} {after : Standing} :
      before.Issues command (some outcome) after → read outcome = some a →
      Reports command read before (some (.ok a)) after
  | failed {outcome : Except String Outcome} {e : Failure} {after : Standing} :
      before.Issues command (some outcome) after → read outcome = none →
      Reports command read before (some (.error e)) after
  | givenUp {after : Standing} :
      before.Issues command none after → Reports command read before none after

theorem reports_of_succeed {command : Command} {start name : String}
    {result : Option (Except Failure (List UInt8))}
    (h : Passes (succeed command start name).run before result after) :
    Reports command printed? before result after := by
  rcases h with ⟨hgiven, rfl⟩ | ⟨outcome, between, hissues, h⟩
  · exact .givenUp hgiven
  · cases outcome with
    | error problem =>
      obtain ⟨rfl, rfl⟩ := h
      exact .failed hissues rfl
    | ok outcome =>
      change Passes (if outcome.exitCode = 0 then _ else _ : Exchange _).run _ _ _ at h
      split at h
      · next hexit =>
        obtain ⟨rfl, rfl⟩ := h
        exact .succeeded hissues (if_pos hexit)
      · next hexit =>
        obtain ⟨rfl, rfl⟩ := h
        exact .failed hissues (if_neg hexit)

theorem reports_of_shell {arguments : List String} {result : Option (Except Failure String)}
    (h : Passes (b.shell arguments).run before result after) :
    Reports (b.shellCommand arguments) (fun outcome => (printed? outcome).map Text.Utf8.lossy)
      before result after := by
  rcases passes_bind_run.mp h with ⟨hgiven, rfl⟩ | ⟨e, hfailed, rfl⟩ | ⟨printed, _, hrun, rfl, rfl⟩
  · cases reports_of_succeed hgiven with
    | givenUp hissues => exact .givenUp hissues
  · cases reports_of_succeed hfailed with
    | failed hissues hread => exact .failed hissues (by rw [hread]; rfl)
  · cases reports_of_succeed hrun with
    | succeeded hissues hread => exact .succeeded hissues (by rw [hread]; rfl)

variable {kept kept' : Option Snapshot} {began ended : Nat} {issued : List Issue}
  {found : Option (Except Failure (List Screen.Element))}

/-- How a dump goes that begins with a snapshot. It is kept if it comes to a layout, and only
then. -/
inductive Dumps (b : Bridge) (kept : Option Snapshot) (began : Nat) :
    Option (Except Failure (List Screen.Element)) → List Issue → (ended : Nat) →
    (kept' : Option Snapshot) → Prop
  | taken {outcome : Except String Outcome} {layout : String} {ended : Nat} :
      layout? outcome = some layout →
      Dumps b kept began (some (.ok (Screen.elementsOfLayout layout)))
        [⟨b.dump, began, some outcome, ended⟩] ended
        (some ⟨ended, Screen.elementsOfLayout layout⟩)
  | failed {outcome : Except String Outcome} {e : Failure} {ended : Nat} :
      layout? outcome = none →
      Dumps b kept began (some (.error e)) [⟨b.dump, began, some outcome, ended⟩] ended kept
  | givenUp {ended : Nat} :
      Dumps b kept began none [⟨b.dump, began, none, ended⟩] ended kept

theorem dumps_of_look
    (h : Passes b.look.run ⟨began, kept, []⟩ found ⟨ended, kept', issued⟩) :
    Dumps b kept began found issued ended kept' := by
  rcases passes_bind_run.mp h with
    ⟨hgiven, rfl⟩ | ⟨e, hfailed, rfl⟩ | ⟨layout, between, hshell, hrest⟩
  · cases reports_of_shell hgiven with
    | givenUp hissues =>
      obtain ⟨met, -, ⟨⟩⟩ := hissues
      exact .givenUp
  · cases reports_of_shell hfailed with
    | failed hissues hread =>
      obtain ⟨met, -, ⟨⟩⟩ := hissues
      exact .failed (by rw [layout?, hread]; rfl)
  · cases reports_of_shell hshell with
    | succeeded hissues hread =>
      obtain ⟨met, -, rfl⟩ := hissues
      split at hrest
      · next hlayout =>
        obtain ⟨⟨⟩, -⟩ | ⟨now, _, ⟨rfl, rfl⟩, ⟨⟨⟩, -⟩ | ⟨_, _, rfl, rfl, ⟨⟩⟩⟩ := hrest
        exact .taken (by rw [layout?, hread, Option.filter_some, if_pos hlayout])
      · next hlayout =>
        obtain ⟨rfl, ⟨⟩⟩ := hrest
        exact .failed (by rw [layout?, hread, Option.filter_some, if_neg hlayout])

/-- A snapshot that is kept and good is used, and otherwise a dump is taken. -/
theorem passes_elements (h : Passes b.elements.run ⟨began, kept, []⟩ found ⟨ended, kept', issued⟩) :
    (∃ s, kept = some s ∧ s.isGood began b.lifetime = true ∧ found = some (.ok s.elements) ∧
      issued = [] ∧ ended = began ∧ kept' = kept) ∨
    (∀ s, kept = some s → s.isGood began b.lifetime = false) ∧
      Dumps b kept began found issued ended kept' := by
  obtain ⟨⟨⟩, -⟩ | ⟨began, _, ⟨rfl, rfl⟩, ⟨⟨⟩, -⟩ | ⟨kept, _, ⟨rfl, rfl⟩, h⟩⟩ := h
  simp only [Process.bind, Function.comp_apply, ExceptT.bindCont] at h
  split at h
  · next s hs =>
    obtain ⟨hkept, hgood⟩ := Option.filter_eq_some_iff.mp hs
    obtain ⟨rfl, ⟨⟩⟩ := h
    exact .inl ⟨s, hkept, hgood, rfl, rfl, rfl, rfl⟩
  · next hnone =>
    refine .inr ⟨fun s hs => ?_, dumps_of_look h⟩
    rw [hs, Option.filter_eq_none_iff] at hnone
    simpa using hnone s rfl

theorem passes_findAll {selector : Selector}
    {result : Option (Except Failure (List Screen.Element))}
    (h : Passes (b.meet (.findAll selector)).run before result after) :
    ∃ found, Passes b.elements.run before found after ∧
      result = found.map (·.map (·.filter selector.holds)) := by
  rcases passes_bind_run.mp h with
    ⟨hgiven, rfl⟩ | ⟨e, hfailed, rfl⟩ | ⟨elements, _, hfound, rfl, rfl⟩
  · exact ⟨none, hgiven, rfl⟩
  · exact ⟨_, hfailed, rfl⟩
  · exact ⟨_, hfound, rfl⟩

/-! ### Calls one after the other -/

/-- A call that has come to its end: the commands that it issued, and its result, which is missing
if it was given up. -/
structure Visit where
  call : Call
  began : Nat
  issued : List Issue
  result : Option (Except Failure call.Reply)
  ended : Nat

namespace Visit

/-- The call is made to a bridge that keeps `kept`, and leaves it with `kept'`. -/
def Of (v : Visit) (b : Bridge) (kept kept' : Option Snapshot) : Prop :=
  Passes (b.meet v.call).run ⟨v.began, kept, []⟩ v.result ⟨v.ended, kept', v.issued⟩

/-- The call took the snapshot: it looked for elements with a dump that came to a layout. -/
def Takes (v : Visit) (b : Bridge) (s : Snapshot) : Prop :=
  (∃ selector, v.call = .findAll selector) ∧ ∃ outcome layout,
    v.issued = [⟨b.dump, v.began, some outcome, v.ended⟩] ∧ layout? outcome = some layout ∧
      s = ⟨v.ended, Screen.elementsOfLayout layout⟩

/-- What a call does to the snapshot that is kept. -/
inductive Turns (v : Visit) (b : Bridge) (kept : Option Snapshot) : Option Snapshot → Prop
  | input : v.call.isInput = true → Turns v b kept none
  | taken {s : Snapshot} : v.Takes b s → Turns v b kept (some s)
  | idle : v.call.isInput = false → (∀ s, ¬v.Takes b s) → Turns v b kept kept

end Visit

/-- The calls that have been made to a bridge by now, the last one first, and what it keeps. -/
inductive History (b : Bridge) : List Visit → (now : Nat) → (kept : Option Snapshot) → Prop
  | fresh {now : Nat} : History b [] now none
  | call {visits : List Visit} {now : Nat} {kept kept' : Option Snapshot} {v : Visit} :
      History b visits now kept → now ≤ v.began → v.Of b kept kept' →
      History b (v :: visits) v.ended kept'

/-- `s` was taken by one of the calls, and since then nothing has gone into the phone and no other
snapshot has been taken. -/
def Latest (b : Bridge) (visits : List Visit) (s : Snapshot) : Prop :=
  ∃ recent v old, visits = recent ++ v :: old ∧ v.Takes b s ∧
    ∀ w ∈ recent, w.call.isInput = false ∧ ∀ s', ¬w.Takes b s'

/-- How a lookup is answered after earlier calls, with the commands that it issues. -/
inductive Answered (b : Bridge) (earlier : List Visit) (selector : Selector) (began : Nat) :
    List Issue → Option (Except Failure (List Screen.Element)) → (ended : Nat) → Prop
  | kept {s : Snapshot} :
      Latest b earlier s → s.isGood began b.lifetime = true →
      Answered b earlier selector began [] (some (.ok (s.elements.filter selector.holds))) began
  | dumped {outcome : Except String Outcome} {layout : String} {ended : Nat} :
      (∀ s, Latest b earlier s → s.isGood began b.lifetime = false) →
      layout? outcome = some layout →
      Answered b earlier selector began [⟨b.dump, began, some outcome, ended⟩]
        (some (.ok ((Screen.elementsOfLayout layout).filter selector.holds))) ended
  | failed {outcome : Except String Outcome} {e : Failure} {ended : Nat} :
      (∀ s, Latest b earlier s → s.isGood began b.lifetime = false) → layout? outcome = none →
      Answered b earlier selector began [⟨b.dump, began, some outcome, ended⟩] (some (.error e))
        ended
  | givenUp {ended : Nat} :
      (∀ s, Latest b earlier s → s.isGood began b.lifetime = false) →
      Answered b earlier selector began [⟨b.dump, began, none, ended⟩] none ended

variable {visits earlier : List Visit} {now : Nat} {s : Snapshot} {selector : Selector}
  {result : Option (Except Failure (List Screen.Element))}

theorem Visit.Takes.not_input {v : Visit} (h : v.Takes b s) : v.call.isInput = false := by
  obtain ⟨⟨selector, hcall⟩, -⟩ := h
  rw [hcall]
  rfl

theorem turns_of_dumps (h : Dumps b kept began found issued ended kept') :
    Visit.Turns ⟨.findAll selector, began, issued, result, ended⟩ b kept kept' := by
  cases h with
  | taken hlayout => exact .taken ⟨⟨selector, rfl⟩, _, _, rfl, hlayout, rfl⟩
  | failed hlayout =>
    refine .idle rfl ?_
    rintro s ⟨-, _, layout, ⟨⟩, hsome, -⟩
    exact absurd (hlayout.symm.trans hsome) nofun
  | givenUp =>
    refine .idle rfl ?_
    rintro s ⟨-, _, layout, ⟨⟩, -⟩

theorem turns_of_visit {v : Visit} (h : v.Of b kept kept') : v.Turns b kept kept' := by
  obtain ⟨call, began, issued, result, ended⟩ := v
  cases hinput : call.isInput with
  | true =>
    obtain rfl : kept' = none := b.meet_drops hinput _ _ _ h
    exact .input hinput
  | false =>
    by_cases hcall : ∃ selector, call = .findAll selector
    · obtain ⟨selector, rfl⟩ := hcall
      obtain ⟨found, hfound, -⟩ := passes_findAll h
      rcases passes_elements hfound with ⟨s, -, -, -, rfl, -, rfl⟩ | ⟨-, hdumps⟩
      · exact .idle rfl fun s ⟨_, _, _, hissued, _⟩ => List.cons_ne_nil _ _ hissued.symm
      · exact turns_of_dumps hdumps
    · obtain rfl : kept = kept' :=
        b.meet_preserves hinput (fun selector hc => hcall ⟨selector, hc⟩) _ _ _ h
      exact .idle hinput fun s htakes => hcall htakes.1

theorem latest_cons {v : Visit} : Latest b (v :: earlier) s ↔ v.Takes b s ∨
    v.call.isInput = false ∧ (∀ s', ¬v.Takes b s') ∧ Latest b earlier s := by
  constructor
  · rintro ⟨recent, u, old, heq, htakes, hrecent⟩
    cases recent with
    | nil =>
      obtain ⟨rfl, rfl⟩ := List.cons.inj heq
      exact .inl htakes
    | cons w recent =>
      obtain ⟨rfl, rfl⟩ := List.cons.inj heq
      obtain ⟨⟨hinput, htook⟩, hrecent⟩ := List.forall_mem_cons.mp hrecent
      exact .inr ⟨hinput, htook, recent, u, old, rfl, htakes, hrecent⟩
  · -- Either the newest call took the snapshot, or it is one more that left it alone.
    rintro (htakes | ⟨hinput, htook, recent, u, old, rfl, htakes, hrecent⟩)
    · exact ⟨[], v, earlier, rfl, htakes, nofun⟩
    · exact ⟨v :: recent, u, old, rfl, htakes, List.forall_mem_cons.mpr ⟨⟨hinput, htook⟩, hrecent⟩⟩

theorem Visit.Takes.eq {v : Visit} {s' : Snapshot} (h : v.Takes b s) (h' : v.Takes b s') :
    s' = s := by
  obtain ⟨-, outcome, layout, hissued, hlayout, rfl⟩ := h
  obtain ⟨-, outcome', layout', hissued', hlayout', rfl⟩ := h'
  cases hissued.symm.trans hissued'
  cases hlayout.symm.trans hlayout'
  rfl

/-- What is kept is the latest snapshot. -/
theorem History.kept_iff (h : History b visits now kept) (s : Snapshot) :
    kept = some s ↔ Latest b visits s := by
  induction h with
  | fresh => simp [Latest]
  | call _ _ hvisit ih =>
    rw [latest_cons]
    cases turns_of_visit hvisit with
    | input hinput =>
      -- Nothing is kept, and no snapshot is the latest: whatever is older is before the input.
      simp only [hinput, reduceCtorEq, false_iff, Bool.true_eq_false, false_and, or_false]
      intro htakes
      exact absurd htakes.not_input (by simp [hinput])
    | taken htakes =>
      constructor
      · rintro ⟨⟩
        exact .inl htakes
      · rintro (htakes' | ⟨-, htook, -⟩)
        · rw [htakes.eq htakes']
        · exact absurd htakes (htook _)
    | idle hinput htook => simp [ih, hinput, htook]

theorem answered_of_visit (hkept : ∀ s, kept = some s ↔ Latest b earlier s)
    (h : Visit.Of ⟨.findAll selector, began, issued, result, ended⟩ b kept kept') :
    Answered b earlier selector began issued result ended := by
  have h : Passes (b.meet (.findAll selector)).run ⟨began, kept, []⟩ result
      ⟨ended, kept', issued⟩ := h
  obtain ⟨found, hfound, rfl⟩ := passes_findAll h
  rcases passes_elements hfound with ⟨s, hs, hgood, rfl, rfl, rfl, -⟩ | ⟨hold, hdumps⟩
  · exact .kept ((hkept s).mp hs) hgood
  · have hold (s) (hs : Latest b earlier s) : s.isGood began b.lifetime = false :=
      hold s ((hkept s).mpr hs)
    cases hdumps with
    | taken hlayout => exact .dumped hold hlayout
    | failed hlayout => exact .failed hold hlayout
    | givenUp => exact .givenUp hold

/-- Whatever calls have been made to a bridge, at any times, however their commands ended, and
whichever of them were given up: it keeps the latest snapshot. A lookup that issues no command is
answered from that snapshot, while it is good; every other lookup issues a single dump, whose layout
it is answered from, and which is an error if it came to none. -/
theorem lookups_never_stale (b : Bridge) (visits : List Visit) (now : Nat) (kept : Option Snapshot)
    (h : History b visits now kept) :
    (∀ s, kept = some s ↔ Latest b visits s) ∧
      ∀ later selector began issued result ended earlier,
        visits = later ++ ⟨.findAll selector, began, issued, result, ended⟩ :: earlier →
        Answered b earlier selector began issued result ended := by
  refine ⟨h.kept_iff, ?_⟩
  induction h with
  | fresh => simp
  | @call visits now kept kept' v hhistory _ hvisit ih =>
    intro later selector began issued result ended earlier heq
    cases later with
    | nil =>
      obtain ⟨rfl, rfl⟩ := List.cons.inj heq
      exact answered_of_visit hhistory.kept_iff hvisit
    | cons w later =>
      obtain ⟨-, rfl⟩ := List.cons.inj heq
      exact ih later selector began issued result ended earlier rfl

/-- A dump can come to a layout. -/
theorem passes_look {outcome : Outcome} {layout : String}
    (hlayout : layout? (.ok outcome) = some layout) (hle : began ≤ ended) :
    Passes b.look.run ⟨began, kept, []⟩ (some (.ok (Screen.elementsOfLayout layout)))
      ⟨ended, some ⟨ended, Screen.elementsOfLayout layout⟩,
        [⟨b.dump, began, some (.ok outcome), ended⟩]⟩ := by
  obtain ⟨htext, hcontains⟩ := Option.filter_eq_some_iff.mp hlayout
  obtain ⟨printed, hprinted, rfl⟩ := Option.map_eq_some_iff.mp htext
  obtain ⟨hexit, hprinted⟩ : outcome.exitCode = 0 ∧ outcome.printed = printed := by
    simpa [printed?] using hprinted
  refine passes_bind_run.mpr (.inr (.inr ⟨Text.Utf8.lossy printed,
    ⟨ended, kept, [⟨b.dump, began, some (.ok outcome), ended⟩]⟩, ?_, ?_⟩))
  · refine passes_bind_run.mpr (.inr (.inr ⟨printed, _,
      .inr ⟨.ok outcome, _, ⟨ended, hle, rfl⟩, ?_⟩, rfl, rfl⟩))
    change Passes (if outcome.exitCode = 0 then _ else _ : Exchange _).run _ _ _
    rw [if_pos hexit, hprinted]
    exact ⟨rfl, rfl⟩
  · rw [if_pos hcontains]
    exact .inr ⟨ended, _, ⟨rfl, rfl⟩, .inr ⟨(), _, rfl, rfl, rfl⟩⟩

/-- A lookup is answered from the dump before it, which reading the app in the foreground has not
dropped. Going back drops it, though the command fails; the dump after that is given up. -/
theorem lookups_never_stale_back :
    let b : Bridge := ⟨.standard, 200000⟩
    let selector : Selector := .one (.text "Go")
    let layout : List UInt8 := "<hierarchy>".toList.map fun c => UInt8.ofNat c.toNat
    let dumped : Visit :=
      ⟨.findAll selector, 0, [⟨b.dump, 0, some (.ok ⟨0, layout, []⟩), 120⟩], some (.ok []), 120⟩
    let read : Visit :=
      ⟨.foreground, 130, [⟨b.shellCommand ["dumpsys", "window"], 130, some (.ok ⟨0, [], []⟩), 150⟩],
        some (.ok none), 150⟩
    let found : Visit := ⟨.findAll selector, 300, [], some (.ok []), 300⟩
    let back : Visit :=
      ⟨.back, 310, [⟨b.shellCommand ["input", "keyevent", "KEYCODE_BACK"], 310,
        some (.error "offline"), 320⟩], some (.error ((Failure.of "offline").because
          "running `adb shell input keyevent KEYCODE_BACK`")), 320⟩
    let lost : Visit := ⟨.findAll selector, 330, [⟨b.dump, 330, none, 400⟩], none, 400⟩
    History b [lost, back, found, read, dumped] 400 none ∧
      Answered b [read, dumped] selector 300 [] (some (.ok [])) 300 ∧
      Answered b [back, found, read, dumped] selector 330 [⟨b.dump, 330, none, 400⟩] none 400 := by
  intro b selector layout dumped read found back lost
  have hlayout : layout? (.ok ⟨0, layout, []⟩) = some "<hierarchy>" := by decide
  have helements : Screen.elementsOfLayout "<hierarchy>" = [] := by decide
  have hlook : Passes b.look.run ⟨0, none, []⟩ (some (.ok []))
      ⟨120, some ⟨120, []⟩, dumped.issued⟩ :=
    helements ▸ passes_look hlayout (Nat.zero_le 120)
  have hdumped : dumped.Of b none (some ⟨120, []⟩) :=
    passes_bind_run.mpr (.inr (.inr ⟨[], _,
      .inr ⟨0, _, ⟨rfl, rfl⟩, .inr ⟨none, _, ⟨rfl, rfl⟩, hlook⟩⟩, rfl, rfl⟩))
  have hread : read.Of b (some ⟨120, []⟩) (some ⟨120, []⟩) :=
    .inr ⟨.ok ⟨0, [], []⟩, _, ⟨150, by decide, rfl⟩, rfl, rfl⟩
  have hfound : found.Of b (some ⟨120, []⟩) (some ⟨120, []⟩) :=
    .inr ⟨300, _, ⟨rfl, rfl⟩, .inr ⟨some ⟨120, []⟩, _, ⟨rfl, rfl⟩, rfl, rfl⟩⟩
  have hback : back.Of b (some ⟨120, []⟩) none :=
    .inr ⟨(), _, rfl, .inr ⟨.error "offline", _, ⟨320, by decide, rfl⟩, rfl, rfl⟩⟩
  have hlost : lost.Of b none none :=
    .inr ⟨330, _, ⟨rfl, rfl⟩, .inr ⟨none, _, ⟨rfl, rfl⟩, .inl ⟨⟨400, by decide, rfl⟩, rfl⟩⟩⟩
  have hhistory : History b [lost, back, found, read, dumped] 400 none :=
    .call (.call (.call (.call (.call .fresh (Nat.zero_le 0) hdumped) (by decide) hread) (by decide)
      hfound) (by decide) hback) (by decide) hlost
  have hanswered := (lookups_never_stale b _ 400 none hhistory).2
  exact ⟨hhistory, hanswered [lost, back] selector 300 [] (some (.ok [])) 300 [read, dumped] rfl,
    hanswered [] selector 330 [⟨b.dump, 330, none, 400⟩] none 400 [back, found, read, dumped] rfl⟩

end Bridge

end CheckIn.Phone

namespace CheckIn.Run.Desk

open Phone (Command Bridge Call)
open Phone.Bridge (Passes Serves Standing Issue)
open Timeline (Script Scene)

variable {P α : Type} {execute : Command → Script P (Except String Phone.Outcome)}
  {V : Surroundings (Script.interface (Desk P)) (Scene (Desk P))} {x y : Scene (Desk P)}

/-- Scripts that run in `V` read the clock and the world as they are, and what they set is set. -/
structure Plain (V : Surroundings (Script.interface (Desk P)) (Scene (Desk P))) : Prop where
  now : ∀ {x answer y}, V x .now answer y → answer = x.clock ∧ y = x
  get : ∀ {x answer y}, V x .get answer y → answer = x.world ∧ y = x
  set : ∀ {x world answer y}, V x (.set world) answer y → y = { x with world }

/-- A desk meets what a bridge asks for as `Serves` says, with the snapshot in the world, if
commands take their time and leave the snapshot alone. -/
theorem serves_of_meet (hplain : Plain V)
    (hexecute : ∀ {command x outcome y}, (execute command).Comes V x outcome y →
      x.clock ≤ y.clock ∧ y.world.snapshot = x.world.snapshot)
    {q : Bridge.Request} {answer : Bridge.Request.Answer q}
    (h : (meet execute q).Comes V x answer y) (issued : List Issue) :
    ∃ issued', Serves ⟨x.clock, x.world.snapshot, issued⟩ q answer
      ⟨y.clock, y.world.snapshot, issued'⟩ := by
  cases q with
  | execute command =>
    obtain ⟨hle, hsnapshot⟩ := hexecute h
    exact ⟨_, y.clock, hle, by rw [hsnapshot]⟩
  | now =>
    obtain ⟨_, _, hnow, rfl, rfl⟩ := h
    obtain ⟨rfl, rfl⟩ := hplain.now hnow
    exact ⟨issued, rfl, rfl⟩
  | kept =>
    obtain ⟨_, _, hget, rfl, rfl⟩ := h
    obtain ⟨rfl, rfl⟩ := hplain.get hget
    exact ⟨issued, rfl, rfl⟩
  | keep snapshot =>
    obtain ⟨_, _, hget, _, _, hset, rfl, rfl⟩ := h
    obtain ⟨rfl, rfl⟩ := hplain.get hget
    obtain rfl := hplain.set hset
    exact ⟨issued, rfl⟩
  | overflow =>
    obtain ⟨answer, -⟩ := h
    exact answer.elim

/-- So the calls that are answered at a desk pass as those of a history do. -/
theorem passes_of_reply (hplain : Plain V)
    (hexecute : ∀ {command x outcome y}, (execute command).Comes V x outcome y →
      x.clock ≤ y.clock ∧ y.world.snapshot = x.world.snapshot)
    {b : Bridge} {c : Call} {reply : Except Failure c.Reply}
    (h : (Desk.reply execute b c).Comes V x reply y) :
    ∃ issued, Passes (b.meet c).run ⟨x.clock, x.world.snapshot, []⟩ (some reply)
      ⟨y.clock, y.world.snapshot, issued⟩ := by
  have hcomes := Process.comes_interpret.mp h
  clear h
  generalize (b.meet c).run = p at hcomes
  generalize ([] : List Issue) = issued
  -- The commands issued so far are carried along, since they grow from request to request.
  induction p generalizing x issued with
  | done a =>
    obtain ⟨rfl, rfl⟩ := hcomes
    exact ⟨issued, rfl, rfl⟩
  | ask q next ih =>
    obtain ⟨answer, between, hmeet, hnext⟩ := hcomes
    obtain ⟨issued', hserves⟩ := serves_of_meet hplain hexecute hmeet issued
    obtain ⟨issued'', hpasses⟩ := ih answer hnext issued'
    exact ⟨issued'', .inr ⟨answer, _, hserves, hpasses⟩⟩

end CheckIn.Run.Desk
