import CheckIn.Phone.Scripted

/-! What becomes of an element on a scripted phone. An operation does to each element on the screen
what it would do if no other were there, so what is found of an element is found from the operations
since it was placed: its text may have changed, and if it vanishes once it has been clicked, the
clicks and taps that hit it are counted. An element that bears no click at all is still shown, and
the next click or tap takes it away, wherever it is made. -/

namespace CheckIn.Phone.Scripted

open Screen (Element)

/-- What may be done to a phone, by a script or by a call. Other operations may come between the
time at which a call comes in and the time at which it is answered. -/
inductive Operation where
  /-- Shows an element once a delay is over. -/
  | showAfter (e : Element) (delay : Nat)
  /-- Shows an element that vanishes after some clicks. -/
  | showUntilClicked (e : Element) (clicks : UInt32)
  | setDetections (detections : List Screen.Detection)
  | addTapTarget (area : Screen.Rect) (package : String)
  | setForeground (package : Option String)
  | setScreenSize (size : Screen.Size)
  | refuseForceStop (on : Bool)
  | failQueries (on : Bool)
  | setQueryLatency (duration : Nat)
  | setDetectLatency (duration : Nat)
  | forgetGestures
  | receive (c : Call)
  | answer (c : Call)

/-- Operations with the times at which they are carried out. -/
abbrev History : Type := List (Nat × Operation)

namespace Operation

/-- The phone after an operation. -/
def apply (now : Nat) (p : Scripted) : Operation → Scripted
  | showAfter e delay => p.place ⟨e, now + delay, none⟩
  | showUntilClicked e clicks => p.place ⟨e, now, some clicks⟩
  | setDetections detections => { p with detections }
  | addTapTarget area package => p.addTapTarget area package
  | setForeground foreground => { p with foreground }
  | setScreenSize screenSize => { p with screenSize }
  | refuseForceStop on => { p with refusesForceStop := on }
  | failQueries on => { p with failsQueries := on }
  | setQueryLatency queryLatency => { p with queryLatency }
  | setDetectLatency detectLatency => { p with detectLatency }
  | forgetGestures => { p with gestures := [] }
  | receive c => p.receive c
  | answer c => (p.answer now c).2

/-- The operation is a click or a tap, wherever it is made. -/
def isPoke : Operation → Bool
  | answer (.click _) | answer (.tap _) => true
  | _ => false

/-- The operation is a click on an element equal to this one, or a tap inside its bounds. -/
def hits (e : Element) : Operation → Bool
  | answer (.click e') => e == e'
  | answer (.tap point) => e.bounds.contains point
  | _ => false

/-- The element after the operation, which may change its text. -/
def retexted (e : Element) : Operation → Element
  | answer (.setText e' text) => if e = e' then { e with text } else e
  | _ => e

/-- What the operation puts on the screen. -/
def placed (now : Nat) : Operation → List Showing
  | showAfter e delay => [⟨e, now + delay, none⟩]
  | showUntilClicked e clicks => [⟨e, now, some clicks⟩]
  | _ => []

/-- What becomes of something on the screen; nothing if it vanishes. -/
def alter (now : Nat) (op : Operation) (s : Showing) : Option Showing :=
  if op.isPoke then
    Option.guard (·.clicksLeft != some 0) (countClick now op.hits s)
  else some { s with element := op.retexted s.element }

end Operation

/-- The phone after operations, one after the other. -/
def after (p : Scripted) (history : History) : Scripted :=
  history.foldl (fun p (now, op) => op.apply now p) p

/-- What becomes of something on the screen during operations; nothing if it vanishes. -/
def altered (s : Showing) : History → Option Showing
  | [] => some s
  | (now, op) :: rest => (op.alter now s).bind (altered · rest)

/-- What is placed during operations, as it is after them. -/
def arrivals : History → List Showing
  | [] => []
  | (now, op) :: rest => (op.placed now).filterMap (altered · rest) ++ arrivals rest

/-- An element after operations, which may have changed its text. -/
def current (e : Element) (history : History) : Element :=
  history.foldl (fun e (_, op) => op.retexted e) e

/-- How often an element has been hit during operations. -/
def hitCount (e : Element) : History → Nat
  | [] => 0
  | (_, op) :: rest => (op.hits e).toNat + hitCount (op.retexted e) rest

/-- The screen has been clicked or tapped, wherever that was. -/
def Poked (history : History) : Prop :=
  ∃ x ∈ history, x.2.isPoke

instance (history : History) : Decidable (Poked history) :=
  inferInstanceAs (Decidable (∃ x ∈ history, x.2.isPoke))

variable {p : Scripted} {now since : Nat} {op : Operation} {history rest : History} {e : Element}

/-! ## Each element by itself -/

theorem click_eq (p : Scripted) (now : Nat) (hit : Element → Bool) :
    p.click now hit = { p with
      showings := p.showings.filterMap fun s =>
        Option.guard (·.clicksLeft != some 0) (countClick now hit s) } := by
  simp only [click, ← List.filterMap_eq_filter, List.filterMap_map, Function.comp_def]

theorem alter_of_poke (h : op.isPoke) (s : Showing) :
    op.alter now s = Option.guard (·.clicksLeft != some 0) (countClick now op.hits s) := by
  simp [Operation.alter, h]

/-- An operation does to the screen what it does to each thing on it, and places what it places
behind. What else it does has nothing to do with what is shown. -/
theorem apply_showings (op : Operation) (now : Nat) (p : Scripted) (showings : List Showing) :
    op.apply now { p with showings } =
      { op.apply now p with showings := showings.filterMap (op.alter now) ++ op.placed now } := by
  have halone : ∀ {op : Operation}, op.isPoke = false → (∀ e, op.retexted e = e) →
      showings.filterMap (op.alter now) = showings := by
    intro op hpoke htext
    have halter : op.alter now = some := by
      funext s
      simp [Operation.alter, hpoke, htext]
    rw [halter, List.filterMap_some]
  cases op with
  | answer c =>
    cases c with
    | click _ | tap _ =>
      simp only [Operation.apply, answer, record, click_eq, Operation.placed, List.append_nil]
      rfl
    | setText e text =>
      have hretext : (Operation.answer (.setText e text)).alter now = some ∘ retext e text := by
        funext s
        by_cases hs : s.element = e <;>
          simp [Operation.alter, Operation.isPoke, Operation.retexted, retext, hs]
      simp [hretext, Operation.apply, answer, record, Operation.placed]
    | findAll selector =>
      rw [halone rfl fun _ => rfl]
      by_cases hfails : p.failsQueries <;>
        simp [Operation.apply, answer, hfails, Operation.placed]
    | forceStop package =>
      rw [halone rfl fun _ => rfl]
      by_cases hrefuses : p.refusesForceStop <;> by_cases hfore : p.foreground = some package <;>
        simp [Operation.apply, answer, record, hrefuses, hfore, Operation.placed]
    | _ =>
      rw [halone rfl fun _ => rfl]
      simp [Operation.apply, answer, record, Operation.placed]
  | receive c =>
    rw [halone rfl fun _ => rfl]
    cases c <;> simp [Operation.apply, receive, Operation.placed]
  | _ =>
    rw [halone rfl fun _ => rfl]
    simp [Operation.apply, Operation.placed, place, addTapTarget]

theorem after_showings (history : History) (p : Scripted) (showings : List Showing) :
    ({ p with showings }).after history = { p.after history with
      showings := showings.filterMap (altered · history) ++ arrivals history } := by
  induction history generalizing p showings with
  | nil => simp [after, altered, arrivals]
  | cons x rest ih =>
    obtain ⟨now, op⟩ := x
    calc ({ p with showings }).after ((now, op) :: rest)
        = (op.apply now { p with showings }).after rest := rfl
      _ = { (op.apply now p).after rest with
            showings :=
              (showings.filterMap (op.alter now) ++ op.placed now).filterMap (altered · rest) ++
                arrivals rest } := by
          rw [apply_showings, ih]
      _ = { p.after ((now, op) :: rest) with
            showings :=
              showings.filterMap (altered · ((now, op) :: rest)) ++
                arrivals ((now, op) :: rest) } := by
          simp [after, altered, arrivals, List.filterMap_append, List.filterMap_filterMap]

/-- What is placed is followed by itself: besides it the screen is what it would be without it. -/
theorem place_after (p : Scripted) (history : History) : ∃ front back,
    (p.after history).showings = front ++ back ∧
      ∀ s, (p.place s).after history = { p.after history with
        showings := front ++ (altered s history).toList ++ back } := by
  refine ⟨p.showings.filterMap (altered · history), arrivals history,
    congrArg showings (after_showings ..), fun s => ?_⟩
  cases halters : altered s history <;>
    simp [place, after_showings, List.filterMap_append, halters]

/-- The elements of a list of showings that are found. -/
def found (showings : List Showing) (now : Nat) (selector : Selector) : List Element :=
  ((showings.filter (·.since ≤ now)).map (·.element)).filter selector.holds

theorem findAll_place (p : Scripted) (history : History) (now : Nat) (selector : Selector)
    (hworks : (p.after history).failsQueries = false) : ∃ front back,
      ((p.after history).answer now (.findAll selector)).1 = .ok (front ++ back) ∧
        ∀ s, (((p.place s).after history).answer now (.findAll selector)).1 =
          .ok (front ++ found (altered s history).toList now selector ++ back) := by
  obtain ⟨front, back, hbare, hplaced⟩ := place_after p history
  refine ⟨found front now selector, found back now selector, ?_, fun s => ?_⟩
  · simp [answer, hworks, visible, hbare, found]
  · simp [answer, hworks, visible, hplaced s, found]

/-! ## What clicks take away -/

theorem Operation.isPoke_of_hits (h : op.hits e) : op.isPoke := by
  revert h
  fun_cases hits <;> simp [isPoke]

theorem Operation.retexted_of_isPoke (h : op.isPoke) : op.retexted e = e := by
  revert h
  fun_cases isPoke <;> simp [retexted]

theorem alter_lasting (op : Operation) (now : Nat) (e : Element) (since : Nat) :
    op.alter now ⟨e, since, none⟩ = some ⟨op.retexted e, since, none⟩ := by
  by_cases hpoke : op.isPoke
  · by_cases hhit : since ≤ now ∧ op.hits e <;>
      simp [Operation.alter, hpoke, countClick, hhit, Option.guard, op.retexted_of_isPoke hpoke]
  · simp [Operation.alter, hpoke]

theorem toNat_ofNat_sub (clicks : UInt32) (n : Nat) :
    (UInt32.ofNat (clicks.toNat - n)).toNat = clicks.toNat - n :=
  UInt32.toNat_ofNat_of_lt' (Nat.lt_of_le_of_lt (Nat.sub_le ..) clicks.toNat_lt)

/-- A click takes one off what is left, if there is one. -/
theorem sub_min_one (clicks : UInt32) : clicks - min clicks 1 = .ofNat (clicks.toNat - 1) := by
  apply UInt32.toNat_inj.mp
  rw [toNat_ofNat_sub]
  by_cases hle : clicks ≤ 1
  · have hsmall : clicks.toNat ≤ 1 := UInt32.le_iff_toNat_le.mp hle
    rw [show min clicks 1 = clicks from if_pos hle, UInt32.sub_self]
    simp only [UInt32.toNat_zero]
    omega
  · have hlarge : 1 ≤ clicks := (UInt32.le_total _ _).resolve_left hle
    rw [show min clicks 1 = 1 from if_neg hle, UInt32.toNat_sub_of_le _ _ hlarge]
    rfl

/-- One operation on something that vanishes once it has been clicked often enough. -/
theorem alter_counted (op : Operation) (h : since ≤ now) (e : Element) (clicks : UInt32) :
    op.alter now ⟨e, since, some clicks⟩ =
      if op.isPoke ∧ clicks.toNat ≤ (op.hits e).toNat then none
      else some ⟨op.retexted e, since, some (.ofNat (clicks.toNat - (op.hits e).toNat))⟩ := by
  by_cases hpoke : op.isPoke
  · have hcount : countClick now op.hits ⟨e, since, some clicks⟩ =
        ⟨e, since, some (.ofNat (clicks.toNat - (op.hits e).toNat))⟩ := by
      cases hhit : op.hits e <;> simp [countClick, h, hhit, sub_min_one]
    have hnone : UInt32.ofNat (clicks.toNat - (op.hits e).toNat) = 0 ↔
        clicks.toNat ≤ (op.hits e).toNat := by
      rw [← UInt32.toNat_inj, toNat_ofNat_sub, UInt32.toNat_zero, Nat.sub_eq_zero_iff_le]
    rw [alter_of_poke hpoke, hcount, op.retexted_of_isPoke hpoke]
    by_cases hspent : clicks.toNat ≤ (op.hits e).toNat <;>
      simp [Option.guard, hpoke, hspent, hnone]
  · have hmiss : op.hits e = false := by
      simpa [hpoke] using op.isPoke_of_hits (e := e)
    simp [Operation.alter, hpoke, hmiss]

/-- Without a count of clicks, something stays on the screen whatever is done. -/
theorem altered_lasting (history : History) (e : Element) (since : Nat) :
    altered ⟨e, since, none⟩ history = some ⟨current e history, since, none⟩ := by
  induction history generalizing e with
  | nil => rfl
  | cons x rest ih =>
    simp only [altered, alter_lasting, Option.bind_some, ih, current, List.foldl_cons]

/-- With a count of clicks, it stays until it has been hit that often. If the count is zero, the
first click or tap takes it away, wherever that is made. -/
theorem altered_counted (history : History) (h : ∀ x ∈ history, since ≤ x.1) (e : Element)
    (clicks : UInt32) :
    altered ⟨e, since, some clicks⟩ history =
      if hitCount e history < clicks.toNat ∨ clicks.toNat = 0 ∧ ¬Poked history then
        some ⟨current e history, since, some (.ofNat (clicks.toNat - hitCount e history))⟩
      else none := by
  induction history generalizing e clicks with
  | nil =>
    have hstays : hitCount e [] < clicks.toNat ∨ clicks.toNat = 0 ∧ ¬Poked [] := by
      simpa [hitCount, Poked] using (Nat.eq_zero_or_pos clicks.toNat).symm
    rw [if_pos hstays]
    simp [altered, hitCount, current]
  | cons x rest ih =>
    obtain ⟨now, op⟩ := x
    have hpoked : Poked ((now, op) :: rest) ↔ op.isPoke ∨ Poked rest := by simp [Poked]
    rw [altered, alter_counted op (h (now, op) List.mem_cons_self)]
    by_cases hvanishes : op.isPoke ∧ clicks.toNat ≤ (op.hits e).toNat
    · have hspent : ¬(hitCount e ((now, op) :: rest) < clicks.toNat ∨
          clicks.toNat = 0 ∧ ¬Poked ((now, op) :: rest)) := by
        grind [hitCount]
      rw [if_pos hvanishes, if_neg hspent, Option.bind_none]
    · have hstays : (hitCount e ((now, op) :: rest) < clicks.toNat ∨
          clicks.toNat = 0 ∧ ¬Poked ((now, op) :: rest)) ↔
          hitCount (op.retexted e) rest < clicks.toNat - (op.hits e).toNat ∨
            clicks.toNat - (op.hits e).toNat = 0 ∧ ¬Poked rest := by
        grind [hitCount, Operation.isPoke_of_hits]
      rw [if_neg hvanishes, Option.bind_some, ih (fun x hx => h x (List.mem_cons_of_mem _ hx))]
      simp only [toNat_ofNat_sub, hstays]
      simp only [hitCount, current, List.foldl_cons, Nat.sub_sub]

theorem found_altered_lasting (history : History) (e : Element) (since now : Nat)
    (selector : Selector) :
    found (altered ⟨e, since, none⟩ history).toList now selector =
      if since ≤ now ∧ selector.holds (current e history) then [current e history] else [] := by
  rw [altered_lasting]
  by_cases hnow : since ≤ now <;> by_cases hholds : selector.holds (current e history) <;>
    simp [found, hnow, hholds]

theorem found_altered_counted (history : History) (h : ∀ x ∈ history, since ≤ x.1) (e : Element)
    (clicks : UInt32) (hnow : since ≤ now) (selector : Selector) :
    found (altered ⟨e, since, some clicks⟩ history).toList now selector =
      if (hitCount e history < clicks.toNat ∨ clicks.toNat = 0 ∧ ¬Poked history) ∧
        selector.holds (current e history) then [current e history] else [] := by
  rw [altered_counted history h]
  by_cases hstays : hitCount e history < clicks.toNat ∨ clicks.toNat = 0 ∧ ¬Poked history
  · by_cases hholds : selector.holds (current e history) <;>
      simp only [if_pos hstays, found] <;> simp [hnow, hstays, hholds]
  · rw [if_neg hstays, if_neg fun hfound => hstays hfound.1]
    rfl

/-- Whatever is done to a phone after an element was placed, a query finds what it would find
without the element, and the element among it. One that was placed for some clicks is found as long
as it has been hit less often, or, if it bears none, as long as no click and no tap has been made
at all. One that was placed to last is always found once it is there. -/
theorem findAll_placed (p : Scripted) (e : Element) (placed now : Nat) (later : History)
    (selector : Selector) (hlater : ∀ x ∈ later, placed ≤ x.1) (hnow : placed ≤ now)
    (hworks : (p.after later).failsQueries = false) : ∃ front back,
      ((p.after later).answer now (.findAll selector)).1 = .ok (front ++ back) ∧
      (∀ clicks, ((p.after ((placed, .showUntilClicked e clicks) :: later)).answer now
        (.findAll selector)).1 = .ok (front ++
          (if (hitCount e later < clicks.toNat ∨ clicks.toNat = 0 ∧ ¬Poked later) ∧
            selector.holds (current e later) then [current e later] else []) ++ back)) ∧
      ∀ delay, ((p.after ((placed, .showAfter e delay) :: later)).answer now
        (.findAll selector)).1 = .ok (front ++
          (if placed + delay ≤ now ∧ selector.holds (current e later) then [current e later]
            else []) ++ back) := by
  obtain ⟨front, back, hbare, hplaced⟩ := findAll_place p later now selector hworks
  refine ⟨front, back, hbare, fun clicks => ?_, fun delay => ?_⟩
  · rw [← found_altered_counted later hlater e clicks hnow selector]
    exact hplaced _
  · rw [← found_altered_lasting later e (placed + delay) now selector]
    exact hplaced _

/-- A button that vanishes when it has been clicked twice: a click on another one and a click on it
leave it there, a new text stays with it, and a tap on it takes it away. -/
theorem findAll_placed_twice :
    let button : Element := { Element.blank with desc := "Go", bounds := ⟨0, 0, 100, 40⟩ }
    let other : Element := { Element.blank with desc := "Stop" }
    let later : History := [(1, .answer (.click other)), (2, .answer (.click button)),
      (3, .answer (.setText button "Wait"))]
    let tapped : History := later ++ [(4, .answer (.tap ⟨50, 20⟩))]
    let placed := fun later => blank.after ((0, .showUntilClicked button 2) :: later)
    (∀ x ∈ tapped, 0 ≤ x.1) ∧ (blank.after tapped).failsQueries = false ∧
      ((placed later).answer 9 (.findAll (.one (.description "Go")))).1 =
        .ok [{ button with text := "Wait" }] ∧
      ((placed tapped).answer 9 (.findAll (.one (.description "Go")))).1 = .ok [] := by
  intro button other later tapped placed
  have hlater : ∀ history : History, ∀ x ∈ history, 0 ≤ x.1 := fun _ _ _ => Nat.zero_le _
  refine ⟨hlater _, rfl, ?_, ?_⟩
  · obtain ⟨front, back, hbare, hplaced, -⟩ := findAll_placed blank button 0 9 later
      (.one (.description "Go")) (hlater _) (Nat.zero_le _) rfl
    obtain ⟨rfl, rfl⟩ := List.append_eq_nil_iff.mp (Except.ok.inj hbare).symm
    exact (hplaced 2).trans (congrArg Except.ok (by decide))
  · obtain ⟨front, back, hbare, hplaced, -⟩ := findAll_placed blank button 0 9 tapped
      (.one (.description "Go")) (hlater _) (Nat.zero_le _) rfl
    obtain ⟨rfl, rfl⟩ := List.append_eq_nil_iff.mp (Except.ok.inj hbare).symm
    exact (hplaced 2).trans (congrArg Except.ok (by decide))

/-- An element that bears no click is found although it has been hit no less often than that, and a
click elsewhere takes it away. -/
theorem findAll_placed_unclickable :
    let button : Element := { Element.blank with desc := "Go", bounds := ⟨0, 0, 100, 40⟩ }
    let other : Element := { Element.blank with desc := "Stop" }
    let later : History := [(1, .answer (.click other))]
    let placed := fun later => blank.after ((0, .showUntilClicked button 0) :: later)
    ¬hitCount button [] < 0 ∧ hitCount button later = 0 ∧
      ((placed []).answer 9 (.findAll (.one (.description "Go")))).1 = .ok [button] ∧
      ((placed later).answer 9 (.findAll (.one (.description "Go")))).1 = .ok [] := by
  intro button other later placed
  exact ⟨by decide, by decide, rfl, rfl⟩

end CheckIn.Phone.Scripted
