import CheckIn.Proofs.Run.Trial
import CheckIn.Proofs.Run.Scope
import Mathlib.Data.List.Forall2

/-! The tries of recognition when nobody stops it and no time is set to give up. Each try detects
anew, and a failed detection counts as a try that found nothing: the readings of the detections
alone decide what recognition comes to, how often it detects and how often it pauses. -/

namespace CheckIn

def Phone.Call.isDetect : Phone.Call → Bool
  | detect => true
  | _ => false

namespace Run

open Process

/-- What a detection comes to: the texts on the screen, unless it fails. -/
abbrev Reading : Type := Except Failure (List Screen.Detection)

/-- The exchange is a detection that comes to this reading. -/
def Exchange.Detects (reading : Reading) : Exchange → Prop
  | ⟨_, .query .detect _ _, answer, _⟩ => answer = .answered reading
  | _ => False

/-- The detections of a log come to these readings, one after the other. -/
def Hears (reading : Nat → Reading) (log : Log) : Prop :=
  ∃ n, List.Forall₂ Exchange.Detects ((List.range n).map reading)
    (callsOf Phone.Call.isDetect log)

def Exchange.pause? : Exchange → Option Nat
  | ⟨_, .pause duration _, _, _⟩ => some duration
  | _ => none

/-- How long the pauses of a log are. -/
def pauses (log : Log) : List Nat := log.filterMap Exchange.pause?

variable {α : Type} {before after : Nat} {log : Log}

theorem pauses_append (log₁ log₂ : Log) : pauses (log₁ ++ log₂) = pauses log₁ ++ pauses log₂ :=
  List.filterMap_append ..

@[simp] theorem pauses_overflows {fits : Prop} [Decidable fits] {now : Nat} :
    pauses (overflows fits now) = [] := by
  unfold overflows
  split <;> rfl

theorem Exchange.Detects.isDetect {reading : Reading} {x : Exchange} (h : x.Detects reading) :
    x.call?.any Phone.Call.isDetect = true := by
  obtain ⟨made, q, answer, met⟩ := x
  cases q with
  | query c heed deadline =>
    cases c with
    | detect =>
      have hanswer : answer = .answered reading := h
      rw [hanswer]
      rfl
    | _ => exact h.elim
  | _ => exact h.elim

theorem Exchange.Detects.unique {a b : Reading} {x : Exchange} (ha : x.Detects a)
    (hb : x.Detects b) : a = b := by
  obtain ⟨made, q, answer, met⟩ := x
  cases q with
  | query c heed deadline =>
    cases c with
    | detect =>
      have heq : Timeline.Guarded.answered a = .answered b := Eq.trans (Eq.symm ha) hb
      injection heq
    | _ => exact ha.elim
  | _ => exact ha.elim

theorem readings_unique {xs : Log} {as bs : List Reading}
    (has : List.Forall₂ Exchange.Detects as xs) (hbs : List.Forall₂ Exchange.Detects bs xs) :
    as = bs := by
  induction has generalizing bs with
  | nil =>
    cases hbs
    rfl
  | cons hx _ ih =>
    cases hbs with
    | cons hx' hrest => rw [hx.unique hx', ih hrest]

/-- If all calls of a log are detections, these are all that there are. -/
theorem callsOf_isDetect {readings : List Reading}
    (h : List.Forall₂ Exchange.Detects readings (calls log)) :
    callsOf Phone.Call.isDetect log = calls log := by
  have hdetect : ∀ x ∈ calls log, x.call?.any Phone.Call.isDetect = true := by
    intro x hx
    obtain ⟨i, hi, rfl⟩ := List.mem_iff_getElem.mp hx
    have hi' : i < readings.length := h.length_eq ▸ hi
    exact (h.get hi' hi).isDetect
  rw [callsOf_eq_filter, List.filter_eq_self.mpr hdetect]

/-- Recognition that asks for no more tries than can be counted may hear any readings. -/
theorem exists_hears {p : Part α}
    (hp : p.AsksFrom (Meets none) (Request.OfRecognition fun _ => False) before)
    (reading : Nat → Reading) :
    ∃ log a after, Goes none p before log a after ∧ Hears reading log := by
  induction p generalizing before reading with
  | done a => exact ⟨[], a, before, ⟨rfl, rfl, rfl⟩, 0, .nil⟩
  | ask q next ih =>
    by_cases hq : ∃ deadline, q = .query .detect true deadline
    · obtain ⟨deadline, rfl⟩ := hq
      have hmeets : Meets none before (.query .detect true deadline) (.answered (reading 0))
          before :=
        ⟨Nat.le_refl _, fun _ _ => Nat.le_max_left .., by simp⟩
      obtain ⟨log, a, after, hgoes, n, hhears⟩ :=
        ih _ (hp.2 _ _ hmeets) fun i => reading (i + 1)
      refine ⟨_, a, after, .ask hmeets hgoes, n + 1, ?_⟩
      rw [List.range_succ_eq_map, List.map_cons, List.map_map]
      exact .cons rfl hhears
    · have hother : q.Avoids Phone.Call.isDetect := by
        cases q with
        | query c heed deadline =>
          obtain ⟨hlook, rfl⟩ := hp.1
          cases c with
          | detect => exact absurd ⟨deadline, rfl⟩ hq
          | findAll selector => rfl
          | _ => exact hlook.elim
        | call c => exact hp.1.elim
        | _ => trivial
      have hmet : q ≠ .overrun := by
        rintro rfl
        exact hp.1
      obtain ⟨answer, between, hmeets⟩ := exists_meets hmet
      obtain ⟨log, a, after, hgoes, n, hhears⟩ := ih answer (hp.2 _ _ hmeets) reading
      refine ⟨_, a, after, .ask hmeets hgoes, n, ?_⟩
      have hnone : callsOf Phone.Call.isDetect [⟨before, q, answer, between⟩] = [] :=
        callsOf_eq_nil fun x hx => List.mem_singleton.mp hx ▸ hother
      rw [← List.singleton_append, callsOf_append, hnone]
      exact hhears

namespace Recognition

variable {r : Recognition} {target text : String} {left attempts : Nat} {readings : List Reading}
  {result : Except StepError TextMatch}

/-- The detection in a reading that shows the target, if there is one. -/
def hit? (r : Recognition) (target : String) : Reading → Option Screen.Detection
  | .ok detections => selectTarget r.threshold target detections
  | .error _ => none

/-- The tries that are made with a number of them left, the readings of their detections and what
they come to. A try that finds nothing is followed by a pause, unless it is the last. -/
inductive Tries (r : Recognition) (target : String) : (left attempts : Nat) → List Reading →
    (calls : Log) → (pauses : List Nat) → Except StepError TextMatch → Prop
  | found {left attempts : Nat} {reading : Reading} {x : Exchange} {d : Screen.Detection} :
      x.Detects reading → r.hit? target reading = some d →
      Tries r target left attempts [reading] [x] [] (.ok (ofDetection d))
  | missed {attempts : Nat} {reading : Reading} {x : Exchange} :
      x.Detects reading → r.hit? target reading = none →
      Tries r target 0 attempts [reading] [x] []
        (.error (.recognitionNotFound target (attempts + 1)))
  | again {left attempts : Nat} {reading : Reading} {x : Exchange} {readings : List Reading}
      {calls : Log} {pauses : List Nat} {result : Except StepError TextMatch} :
      x.Detects reading → r.hit? target reading = none →
      Tries r target left (attempts + 1) readings calls pauses result →
      Tries r target (left + 1) attempts (reading :: readings) (x :: calls) (r.backoff :: pauses)
        result

/-- Nobody stops a detection, and no deadline ends it. -/
theorem Looks.exists_reading {answer : Sight} {met : Nat}
    (h : Looks none attempts before answer met) : ∃ reading, answer = .answered reading := by
  rcases answer with reading | _ | _
  case answered => exact ⟨reading, rfl⟩
  case timedOut =>
    obtain ⟨⟨_, hdeadline, -⟩, -⟩ := h.meets
    cases hdeadline
  case stopped =>
    obtain ⟨-, ⟨_, hstop, -⟩, -⟩ := h.meets
    cases hstop

theorem hitOf?_answered (reading : Reading) :
    r.hitOf? target (.answered reading) = r.hit? target reading := by
  cases reading <;> rfl

/-- A try detects once. It is the last if it finds the target or if none is left. -/
theorem goes_try (h : Goes none (r.tries target none left attempts).run before log result after) :
    ∃ (reading : Reading) (x : Exchange), x.Detects reading ∧
      ((∃ d, r.hit? target reading = some d ∧ result = .ok (ofDetection d) ∧ calls log = [x] ∧
          pauses log = []) ∨
        r.hit? target reading = none ∧ left = 0 ∧
          result = .error (.recognitionNotFound target (attempts + 1)) ∧ calls log = [x] ∧
          pauses log = [] ∨
        r.hit? target reading = none ∧ ∃ left' between log', left = left' + 1 ∧
          Goes none (r.tries target none left' (attempts + 1)).run between log' result after ∧
          calls log = x :: calls log' ∧ pauses log = r.backoff :: pauses log') := by
  cases trial_of_goes h with
  | stopped hraised => cases hraised
  | cut hlooks => obtain ⟨_, ⟨⟩⟩ := hlooks.exists_reading
  | @found _ _ d _ hlooks hhit =>
    obtain ⟨reading, rfl⟩ := hlooks.exists_reading
    rw [hitOf?_answered] at hhit
    refine ⟨reading, ⟨before, .query .detect true none, .answered reading, after⟩, rfl,
      .inl ⟨d, hhit, rfl, ?_, ?_⟩⟩
    · rw [hlooks.calls_eq, calls_append, calls_overflows]
      rfl
    · exact (pauses_append (overflows d.bounds.SumsFit after) _).trans
        (congrArg (· ++ _) pauses_overflows)
  | missed hlooks hnone hlast =>
    obtain ⟨reading, rfl⟩ := hlooks.exists_reading
    rw [hitOf?_answered] at hnone
    obtain rfl | ⟨_, ⟨⟩, -⟩ := hlast
    exact ⟨reading, ⟨before, .query .detect true none, .answered reading, after⟩, rfl,
      .inr (.inl ⟨hnone, rfl, rfl, rfl, rfl⟩)⟩
  | paused _ _ hpause =>
    obtain ⟨-, _, hstop, -⟩ := hpause
    cases hstop
  | @again _ met _ _ _ _ hlooks hnone hleft _ _ hagain =>
    obtain ⟨reading, rfl⟩ := hlooks.exists_reading
    rw [hitOf?_answered] at hnone
    exact ⟨reading, ⟨before, .query .detect true none, .answered reading, met⟩, rfl,
      .inr (.inr ⟨hnone, _, _, _, hleft, hagain, rfl, rfl⟩)⟩

theorem tries_of_goes
    (h : Goes none (r.tries target none left attempts).run before log result after) :
    ∃ readings, Tries r target left attempts readings (calls log) (pauses log) result := by
  induction left generalizing before log attempts with
  | zero =>
    obtain ⟨reading, x, hx, ⟨d, hd, rfl, hcalls, hpauses⟩ | ⟨hnone, -, rfl, hcalls, hpauses⟩ |
      ⟨-, _, _, _, hleft, -⟩⟩ := goes_try h
    · exact ⟨[reading], hcalls ▸ hpauses ▸ .found hx hd⟩
    · exact ⟨[reading], hcalls ▸ hpauses ▸ .missed hx hnone⟩
    · cases hleft
  | succ left ih =>
    obtain ⟨reading, x, hx, ⟨d, hd, rfl, hcalls, hpauses⟩ | ⟨-, hleft, -⟩ |
      ⟨hnone, _, _, log', hleft, hagain, hcalls, hpauses⟩⟩ := goes_try h
    · exact ⟨[reading], hcalls ▸ hpauses ▸ .found hx hd⟩
    · cases hleft
    · cases hleft
      obtain ⟨readings, htries⟩ := ih hagain
      exact ⟨reading :: readings, hcalls ▸ hpauses ▸ .again hx hnone htries⟩

section Tries

variable {xs : Log} {ps : List Nat}

theorem Tries.detects (h : Tries r target left attempts readings xs ps result) :
    List.Forall₂ Exchange.Detects readings xs := by
  induction h with
  | found hx _ | missed hx _ => exact .cons hx .nil
  | again hx _ _ ih => exact .cons hx ih

theorem Tries.pauses_eq (h : Tries r target left attempts readings xs ps result) :
    ps = List.replicate (readings.length - 1) r.backoff := by
  induction h with
  | found | missed => rfl
  | @again _ _ _ _ readings _ _ _ _ _ hlater ih =>
    have hpos : readings ≠ [] := by
      cases hlater <;> exact List.cons_ne_nil _ _
    have hlength := List.length_pos_iff.mpr hpos
    rw [ih, List.length_cons, ← List.replicate_succ]
    congr
    omega

/-- The tries go on up to the first reading with the target, or to the last try. -/
theorem Tries.verdict (h : Tries r target left attempts readings xs ps result) :
    (∃ missed reading d, readings = missed ++ [reading] ∧ missed.length ≤ left ∧
        (∀ m ∈ missed, r.hit? target m = none) ∧ r.hit? target reading = some d ∧
        result = .ok (ofDetection d)) ∨
      readings.length = left + 1 ∧ (∀ m ∈ readings, r.hit? target m = none) ∧
        result = .error (.recognitionNotFound target (attempts + left + 1)) := by
  induction h with
  | found _ hd =>
    exact .inl ⟨[], _, _, rfl, Nat.zero_le _, nofun, hd, rfl⟩
  | missed _ hnone =>
    exact .inr ⟨rfl, fun m hm => List.mem_singleton.mp hm ▸ hnone, rfl⟩
  | again _ hnone _ ih =>
    rcases ih with ⟨missed, reading, d, rfl, hle, hmissed, hd, rfl⟩ | ⟨hlength, hmissed, rfl⟩
    · refine .inl ⟨_ :: missed, reading, d, rfl, Nat.succ_le_succ hle, ?_, hd, rfl⟩
      exact List.forall_mem_cons.mpr ⟨hnone, hmissed⟩
    · refine .inr ⟨congrArg (· + 1) hlength, List.forall_mem_cons.mpr ⟨hnone, hmissed⟩, ?_⟩
      congr 2
      omega

end Tries

/-! ### Readings that show the text -/

/-- The detection shows the text, quotes at its ends apart, with a score above the threshold. -/
def Shows (r : Recognition) (text : String) (d : Screen.Detection) : Prop :=
  (Text.unquote text).toList <:+: d.label.toList ∧ r.threshold < d.confidence

/-- Some detection of the reading shows the text. -/
def Sees (r : Recognition) (text : String) (reading : Reading) : Prop :=
  ∃ detections, reading = .ok detections ∧ ∃ d ∈ detections, r.Shows text d

/-- The detection is the first of the reading that shows the text. -/
def SeesFirst (r : Recognition) (text : String) (reading : Reading) (d : Screen.Detection) : Prop :=
  ∃ seen later, reading = .ok (seen ++ d :: later) ∧ r.Shows text d ∧ ∀ x ∈ seen, ¬r.Shows text x

theorem shows_iff {d : Screen.Detection} :
    shows r.threshold (Text.unquote text) d = true ↔ r.Shows text d := by
  rw [shows, Bool.and_eq_true, Text.contains_iff, decide_eq_true_iff]
  rfl

theorem hit?_eq_some {reading : Reading} {d : Screen.Detection} :
    r.hit? (Text.unquote text) reading = some d ↔ r.SeesFirst text reading d := by
  cases reading with
  | error failure =>
    constructor
    · intro h
      cases h
    · rintro ⟨_, _, h, -⟩
      cases h
  | ok detections =>
    have hfind : detections.find? (shows r.threshold (Text.unquote text)) = some d ↔ _ :=
      List.find?_eq_some_iff_append
    refine hfind.trans ?_
    simp only [SeesFirst, Except.ok.injEq, shows_iff, Bool.not_eq_true', ← Bool.not_eq_true]
    constructor
    · rintro ⟨hd, seen, later, hdetections, hseen⟩
      exact ⟨seen, later, hdetections, hd, hseen⟩
    · rintro ⟨seen, later, hdetections, hd, hseen⟩
      exact ⟨hd, seen, later, hdetections, hseen⟩

theorem hit?_eq_none {reading : Reading} :
    r.hit? (Text.unquote text) reading = none ↔ ¬r.Sees text reading := by
  cases reading with
  | error failure =>
    refine iff_of_true rfl ?_
    rintro ⟨_, h, -⟩
    cases h
  | ok detections =>
    refine List.find?_eq_none.trans ?_
    simp only [Sees, Except.ok.injEq, exists_eq_left', shows_iff, not_exists, not_and]

/-! ### All tries -/

/-- The calls of the log are detections that come to the first `detections` readings, and there are
as many pauses of the usual length. -/
def Makes (r : Recognition) (reading : Nat → Reading) (detections backoffs : Nat) (log : Log) :
    Prop :=
  List.Forall₂ Exchange.Detects ((List.range detections).map reading) (calls log) ∧
    pauses log = List.replicate backoffs r.backoff

/-- What recognition comes to, and what it does on the way, if its detections come to these
readings. -/
structure Tried (r : Recognition) (text : String) (retries : Nat) (reading : Nat → Reading)
    (log : Log) (result : Except StepError TextMatch) : Prop where
  ok_iff : (∃ found, result = .ok found) ↔ ∃ i ≤ retries, r.Sees text (reading i)
  found : ∀ i ≤ retries, (∀ j < i, ¬r.Sees text (reading j)) →
    ∀ d, r.SeesFirst text (reading i) d →
      result = .ok ⟨d.bounds.center, d.label, d.confidence⟩ ∧ r.Makes reading (i + 1) i log
  missed : (∀ i ≤ retries, ¬r.Sees text (reading i)) →
    result = .error (.recognitionNotFound (Text.unquote text) (retries + 1)) ∧
      r.Makes reading (retries + 1) retries log

theorem SeesFirst.sees {reading : Reading} {d : Screen.Detection}
    (h : r.SeesFirst text reading d) : r.Sees text reading := by
  obtain ⟨seen, later, hreading, hd, -⟩ := h
  exact ⟨_, hreading, d, by simp, hd⟩

theorem SeesFirst.unique {reading : Reading} {d d' : Screen.Detection}
    (h : r.SeesFirst text reading d) (h' : r.SeesFirst text reading d') : d = d' := by
  have heq := (hit?_eq_some.mpr h).symm.trans (hit?_eq_some.mpr h')
  exact Option.some.inj heq

/-- The first of some readings that shows the text is the only one. -/
theorem first_unique {reading : Nat → Reading} {i j : Nat} (hi : r.Sees text (reading i))
    (hj : r.Sees text (reading j)) (hbefore : ∀ k < i, ¬r.Sees text (reading k))
    (hbefore' : ∀ k < j, ¬r.Sees text (reading k)) : i = j := by
  rcases Nat.lt_trichotomy i j with hlt | heq | hlt
  · exact absurd hi (hbefore' i hlt)
  · exact heq
  · exact absurd hj (hbefore j hlt)

theorem tried_of_found {retries i : Nat} {reading : Nat → Reading} {d : Screen.Detection}
    (hi : i ≤ retries) (hbefore : ∀ j < i, ¬r.Sees text (reading j))
    (hd : r.SeesFirst text (reading i) d) (hmakes : r.Makes reading (i + 1) i log) :
    r.Tried text retries reading log (.ok (ofDetection d)) := by
  refine ⟨iff_of_true ⟨_, rfl⟩ ⟨i, hi, hd.sees⟩, ?_, fun h => absurd hd.sees (h i hi)⟩
  intro j hj hbefore' d' hd'
  obtain rfl := first_unique hd.sees hd'.sees hbefore hbefore'
  obtain rfl := hd.unique hd'
  exact ⟨rfl, hmakes⟩

theorem tried_of_missed {retries : Nat} {reading : Nat → Reading}
    (hmissed : ∀ i ≤ retries, ¬r.Sees text (reading i))
    (hmakes : r.Makes reading (retries + 1) retries log) :
    r.Tried text retries reading log
      (.error (.recognitionNotFound (Text.unquote text) (retries + 1))) := by
  refine ⟨iff_of_false ?_ ?_, fun i hi _ d hd => ?_, fun _ => ⟨rfl, hmakes⟩⟩
  · rintro ⟨found, hfound⟩
    cases hfound
  · rintro ⟨i, hi, hsees⟩
    exact hmissed i hi hsees
  · exact absurd hd.sees (hmissed i hi)

theorem tried_of_goes {retries : UInt32} {reading : Nat → Reading}
    (h : Goes none (r.matchWith text retries none).run before log result after)
    (hhears : Hears reading log) : r.Tried text retries.toNat reading log result := by
  obtain ⟨log', rfl, hgoes⟩ := goes_now_bind_run.mp h
  obtain ⟨readings, htries⟩ := tries_of_goes hgoes
  obtain ⟨n, hn⟩ := hhears
  have hdetects := htries.detects
  have hpauses := htries.pauses_eq
  have hcalls : callsOf Phone.Call.isDetect (⟨before, .now, before, before⟩ :: log') = _ :=
    callsOf_isDetect hdetects
  rw [hcalls] at hn
  obtain rfl := readings_unique hdetects hn
  rw [List.length_map, List.length_range] at hpauses
  have hmakes : r.Makes reading n (n - 1) (⟨before, .now, before, before⟩ :: log') := ⟨hn, hpauses⟩
  rcases htries.verdict with ⟨missed, last, d, heq, hle, hmissed, hd, rfl⟩ | ⟨hlength, hmissed, rfl⟩
  · have hlength := congrArg List.length heq
    simp only [List.length_map, List.length_range, List.length_append, List.length_singleton]
      at hlength
    subst hlength
    rw [List.range_succ, List.map_append] at heq
    obtain ⟨hfront, hlast⟩ := List.append_inj' heq rfl
    have hlast : reading missed.length = last := by simpa using hlast
    refine tried_of_found hle (fun j hj => ?_) (hit?_eq_some.mp (hlast ▸ hd)) hmakes
    have hmem : reading j ∈ missed := hfront ▸ List.mem_map_of_mem (List.mem_range.mpr hj)
    exact hit?_eq_none.mp (hmissed _ hmem)
  · rw [List.length_map, List.length_range] at hlength
    subst hlength
    rw [Nat.zero_add]
    refine tried_of_missed (fun i hi => ?_) hmakes
    have hmem : reading i ∈ (List.range (retries.toNat + 1)).map reading :=
      List.mem_map_of_mem (List.mem_range.mpr (by omega))
    exact hit?_eq_none.mp (hmissed _ hmem)

/-- Whatever its detections come to, recognition that nobody stops and no budget ends comes to an
end. It finds the text exactly if one of the first readings, one more than there are retries, shows
it; then it goes on to the first such reading and no further, and its find is the first detection
there that shows the text. Otherwise it has tried as often as it may. -/
theorem matchWith_tries (r : Recognition) (text : String) {retries : UInt32}
    (hretries : retries.toNat + 1 < UInt32.size) (started : Nat) :
    Surely none (fun _ => True) (r.matchWith text retries none).run started ∧
      ∀ reading : Nat → Reading,
        (∃ log result after, Goes none (r.matchWith text retries none).run started log result after ∧
          Hears reading log) ∧
        ∀ log result after,
          Goes none (r.matchWith text retries none).run started log result after →
          Hears reading log → r.Tried text retries.toNat reading log result := by
  have hasks : (r.matchWith text retries none).run.Asks (Meets none)
      (Request.OfRecognition fun _ => False) :=
    r.matchWith_asks text retries none (.inr hretries)
  refine ⟨?_, fun reading => ⟨exists_hears (hasks started) reading, ?_⟩⟩
  · refine surely_of_no_overrun (hasks.mono ?_) fun _ _ _ _ => trivial
    rintro now q hq rfl
    exact hq
  · intro log result after hgoes hhears
    exact tried_of_goes hgoes hhears

/-- A detection that fails and one whose score is too low are followed by one that shows the text
behind another. -/
theorem matchWith_tries_third :
    let r : Recognition := ⟨0.6, 3, 500⟩
    let shown : Screen.Detection := ⟨"Go on", 0.9, ⟨0, 0, 100, 40⟩⟩
    let reading : Nat → Reading := fun i =>
      if i = 0 then .error (.of "offline")
      else if i = 1 then .ok [⟨"Go", 0.5, .zero⟩]
      else .ok [⟨"Stop", 0.9, .zero⟩, shown]
    (3 : UInt32).toNat + 1 < UInt32.size ∧ ∃ log after,
      Goes none (r.matchWith "\"Go\"" 3 none).run 0 log (.ok ⟨⟨50, 20⟩, "Go on", 0.9⟩) after ∧
        Hears reading log ∧ r.Makes reading 3 2 log := by
  intro r shown reading
  have hretries : (3 : UInt32).toNat + 1 < UInt32.size := by decide
  obtain ⟨log, result, after, hgoes, hhears⟩ :=
    ((matchWith_tries r "\"Go\"" hretries 0).2 reading).1
  have htried := ((matchWith_tries r "\"Go\"" hretries 0).2 reading).2 log result after hgoes hhears
  have hstop : ¬r.Shows "\"Go\"" ⟨"Stop", 0.9, .zero⟩ := fun h => absurd h.1 (by decide)
  have hgo : ¬r.Shows "\"Go\"" ⟨"Go", 0.5, .zero⟩ := fun h => absurd h.2 (by decide)
  have hshown : r.Shows "\"Go\"" shown := ⟨by decide, by decide⟩
  have hfirst : r.SeesFirst "\"Go\"" (reading 2) shown := by
    refine ⟨[⟨"Stop", 0.9, .zero⟩], [], rfl, hshown, fun x hx => ?_⟩
    rw [List.mem_singleton.mp hx]
    exact hstop
  have hbefore : ∀ j < 2, ¬r.Sees "\"Go\"" (reading j) := by
    intro j hj
    rintro ⟨detections, hreading, d, hd, hshows⟩
    obtain rfl | rfl : j = 0 ∨ j = 1 := by omega
    · cases hreading
    · cases hreading
      rw [List.mem_singleton.mp hd] at hshows
      exact hgo hshows
  obtain ⟨rfl, hmakes⟩ := htried.found 2 (by decide) hbefore shown hfirst
  have hcenter : shown.bounds.center = ⟨50, 20⟩ := by decide
  rw [hcenter] at hgoes
  exact ⟨hretries, log, after, hgoes, hhears, hmakes⟩

end Recognition

end Run

end CheckIn
