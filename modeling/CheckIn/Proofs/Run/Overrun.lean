import CheckIn.Proofs.Run.Budget

/-! The count of tries. Recognition counts a try before it detects, in a word of 32 bits, and looks
only afterwards whether that try was the last. With as many retries as a word can hold the last try
cannot be counted any more, and only the budget or the stop keeps recognition from it. Where they
do, and with fewer retries always, all tries are counted, and the number of tries that recognition
tells is that of its detections. -/

namespace CheckIn.Run

open Process

variable {α : Type} {stop : Option Nat} {before after : Nat} {log : Log}

/-- Whatever the surroundings do, a part that begins at `before` can count all its tries. -/
abbrev CountsTries (stop : Option Nat) (p : Part α) (before : Nat) : Prop :=
  p.AsksFrom (Meets stop) (fun _ (q : Request) => q ≠ .overrun) before

/-! ### Tries that are counted -/

theorem countsTries_countOn_iff {count : Nat} :
    CountsTries stop (Attempt.countOn count).run before ↔ count + 1 < UInt32.size := by
  unfold Attempt.countOn
  split
  case isTrue h => exact iff_of_true trivial h
  case isFalse h =>
    refine iff_of_false ?_ h
    rintro ⟨-, hrest⟩
    exact (hrest () before rfl).1 rfl

theorem goes_countOn {count : Nat} {result : Except StepError Nat} :
    Goes stop (Attempt.countOn count).run before log result after ↔
      count + 1 < UInt32.size ∧ log = [] ∧ result = .ok (count + 1) ∧ after = before := by
  unfold Attempt.countOn
  split
  case isTrue h => exact (and_iff_right h).symm
  case isFalse h =>
    refine iff_of_false ?_ fun hgoes => h hgoes.1
    rintro ⟨-, _, _, -, -, answer, -⟩
    exact answer.elim

theorem countsTries_check : CountsTries stop (Attempt.check true).run before :=
  check_asks (fun _ => nofun) before

theorem countsTries_detect : CountsTries stop (Attempt.query .detect true none).run before :=
  query_asks (fun _ => nofun) before

theorem countsTries_checked (fits : Prop) [Decidable fits] :
    CountsTries stop (liftM (Part.checked fits) : Attempt Unit).run before :=
  Asks.lift_run (checked_asks fun _ => nofun) before

theorem countsTries_now_bind_run {f : Nat → Attempt α} :
    CountsTries stop (liftM Part.now >>= f).run before ↔
      CountsTries stop (f before).run before :=
  asksFrom_now_bind_run.trans (and_iff_right nofun)

namespace Recognition

variable {r : Recognition} {target text : String} {giveUp : Option Nat} {left attempts : Nat}

/-- A detection that finds nothing at `met` is followed by another try. -/
structure GoesOn (stop : Option Nat) (r : Recognition) (giveUp : Option Nat)
    (left left' met : Nat) : Prop where
  more : left = left' + 1
  within : ∀ t, giveUp = some t → met < t
  paused : Meets stop met (.pause r.backoff true) false (met + r.backoff)

/-- What comes after a detection that found nothing. -/
theorem countsTries_miss_iff {met count : Nat} :
    CountsTries stop (do
      let now ← Part.now
      match left with
      | 0 => throw (.recognitionNotFound target count)
      | left + 1 =>
        if giveUp.any (· ≤ now) then throw (.recognitionNotFound target count)
        Attempt.pause r.backoff true
        r.tries target giveUp left count : Attempt TextMatch).run met ↔
      ∀ left', GoesOn stop r giveUp left left' met →
        CountsTries stop (r.tries target giveUp left' count).run (met + r.backoff) := by
  rw [countsTries_now_bind_run]
  cases left with
  | zero =>
    refine iff_of_true trivial ?_
    rintro left' ⟨⟨⟩, -, -⟩
  | succ left =>
    dsimp only
    split
    case isTrue hspent =>
      obtain ⟨t, rfl, ht⟩ := (Option.any_eq_true _ _).mp hspent
      have ht := of_decide_eq_true ht
      refine iff_of_true trivial ?_
      rintro left' ⟨-, hwithin, -⟩
      exact absurd (hwithin t rfl) (Nat.not_lt.mpr ht)
    case isFalse hopen =>
      have hopen : ∀ t, giveUp = some t → met < t := by
        rintro t rfl
        simpa using hopen
      refine (asksFrom_bind_run (x := Attempt.pause r.backoff true)).trans ⟨?_, ?_⟩
      · rintro ⟨-, h⟩ left' ⟨⟨⟩, -, hpaused⟩
        exact h _ () _ (goes_pause.mpr ⟨false, rfl, hpaused, rfl⟩)
      · intro h
        refine ⟨pause_asks (fun _ => nofun) met, fun log _ between hpause => ?_⟩
        obtain ⟨stopped, rfl, hpaused, hr⟩ := goes_pause.mp hpause
        cases stopped with
        | true => cases hr
        | false =>
          obtain rfl : between = met + r.backoff := hpaused.1
          exact h left ⟨rfl, hopen, hpaused⟩

/-- All tries can be counted if the stop keeps them from the first one, or if that can be counted
and those can that may follow it. -/
theorem countsTries_tries_iff :
    CountsTries stop (r.tries target giveUp left attempts).run before ↔ raised stop before = true ∨
      attempts + 1 < UInt32.size ∧ ∀ answer met left', Looks stop attempts before answer met →
        answer ≠ .stopped → r.hitOf? target answer = none → GoesOn stop r giveUp left left' met →
        CountsTries stop (r.tries target giveUp left' (attempts + 1)).run (met + r.backoff) := by
  have hcheck : ∀ {log : Log} {u : Unit} {now : Nat},
      Goes stop (Attempt.check true).run before log (.ok u) now →
        now = before ∧ raised stop before = false := by
    intro log u now h
    obtain ⟨-, rfl, hr⟩ := goes_check.mp h
    cases hraised : raised stop now with
    | true => rw [hraised] at hr; cases hr
    | false => exact ⟨rfl, rfl⟩
  conv_lhs => unfold tries
  refine (asksFrom_bind_run (x := Attempt.check true)).trans ⟨?_, ?_⟩
  · rintro ⟨-, h⟩
    cases hraised : raised stop before with
    | true => exact .inl rfl
    | false =>
      have h := h _ () before (goes_check.mpr ⟨rfl, rfl, by rw [hraised]; rfl⟩)
      obtain ⟨hcounted, h⟩ := asksFrom_bind_run.mp h
      have hcounted := countsTries_countOn_iff.mp hcounted
      obtain ⟨-, h⟩ := asksFrom_bind_run.mp (h _ _ _ (goes_countOn_of_lt hcounted))
      refine .inr ⟨hcounted, fun answer met left' hlooks hstopped hnone hgoes => ?_⟩
      refine countsTries_miss_iff.mp ?_ left' hgoes
      rcases answer with (failure | detections) | _ | _
      · exact h _ _ _ (goes_query.mpr ⟨_, rfl, hlooks.meets, rfl⟩)
      · have h := h _ _ _ (goes_query.mpr ⟨_, rfl, hlooks.meets, rfl⟩)
        have hnone : selectTarget r.threshold target detections = none := hnone
        dsimp only at h
        rw [hnone] at h
        exact h
      · exact h _ _ _ (goes_query.mpr ⟨_, rfl, hlooks.meets, rfl⟩)
      · exact absurd rfl hstopped
  · rintro h
    refine ⟨countsTries_check, fun log _ now hgoes => ?_⟩
    obtain ⟨rfl, hcalm⟩ := hcheck hgoes
    rcases h with hraised | ⟨hcounted, h⟩
    · cases hcalm.symm.trans hraised
    · refine asksFrom_bind_run.mpr ⟨countsTries_countOn_iff.mpr hcounted, ?_⟩
      intro log count now' hcount
      obtain ⟨-, rfl, ⟨⟩, rfl⟩ := goes_countOn.mp hcount
      refine asksFrom_bind_run.mpr ⟨countsTries_detect, fun log reply met hquery => ?_⟩
      obtain ⟨answer, rfl, hmeets, hreply⟩ := goes_query.mp hquery
      have hlooks : Looks stop attempts now' answer met := ⟨hcalm, hcounted, hmeets⟩
      dsimp only
      split
      case h_1 d hfound =>
        refine asksFrom_bind_run.mpr ⟨countsTries_checked _, fun _ _ _ _ => ?_⟩
        exact ⟨nofun, fun _ _ _ => trivial⟩
      case h_2 hmissed =>
        have hnone : r.hitOf? target answer = none := by
          rcases answer with (_ | _) | _ | _ <;> cases hreply <;> exact hmissed
        have hstopped : answer ≠ .stopped := by
          rintro rfl
          cases hreply
        exact countsTries_miss_iff.mpr fun left' => h answer met left' hlooks hstopped hnone

/-- A phone may be so quick that as many pauses are made: there are tries enough, and neither the
time to give up nor the stop comes before the try after the last of them. -/
structure Outlasts (stop : Option Nat) (r : Recognition) (giveUp : Option Nat)
    (left pauses before : Nat) : Prop where
  enough : pauses ≤ left
  within : 0 < pauses → ∀ t, giveUp = some t → before + (pauses - 1) * r.backoff < t
  calm : ∀ t, stop = some t → before + pauses * r.backoff < t

theorem raised_eq_false_iff {now : Nat} :
    raised stop now = false ↔ ∀ t, stop = some t → now < t := by
  simp only [← Bool.not_eq_true, raised_iff, not_exists, not_and, Nat.not_le]

theorem Outlasts.raised_eq {pauses : Nat} (h : Outlasts stop r giveUp left pauses before) :
    raised stop before = false := by
  refine raised_eq_false_iff.mpr fun t ht => ?_
  have := h.calm t ht
  omega

theorem outlasts_zero_iff :
    Outlasts stop r giveUp left 0 before ↔ raised stop before = false := by
  refine ⟨Outlasts.raised_eq, fun hcalm => ⟨Nat.zero_le _, nofun, fun t ht => ?_⟩⟩
  have := raised_eq_false_iff.mp hcalm t ht
  omega

/-- The pauses are made as early as they can be if the phone answers without delay. -/
theorem outlasts_succ_iff {pauses : Nat} : Outlasts stop r giveUp left (pauses + 1) before ↔
    raised stop before = false ∧ ∃ met left', before ≤ met ∧ GoesOn stop r giveUp left left' met ∧
      Outlasts stop r giveUp left' pauses (met + r.backoff) := by
  constructor
  · intro h
    have hcalm := h.raised_eq
    obtain ⟨henough, hwithin, hlast⟩ := h
    obtain ⟨left', rfl⟩ := Nat.exists_eq_succ_of_ne_zero (Nat.ne_of_gt (Nat.lt_of_lt_of_le
      (Nat.succ_pos pauses) henough))
    simp only [Nat.add_sub_cancel, Nat.succ_mul] at hwithin hlast
    refine ⟨hcalm, before, left', Nat.le_refl _, ⟨rfl, fun t ht => ?_, rfl, ?_⟩, ?_, ?_, ?_⟩
    · have := hwithin (Nat.succ_pos _) t ht
      omega
    · rintro ⟨-, hraised⟩
      obtain ⟨t, ht, hle⟩ := raised_iff.mp hraised
      have := hlast t ht
      omega
    · omega
    · intro hpos t ht
      obtain ⟨n, rfl⟩ := Nat.exists_eq_succ_of_ne_zero (Nat.ne_of_gt hpos)
      have := hwithin (Nat.succ_pos _) t ht
      simp only [Nat.succ_eq_add_one, Nat.add_sub_cancel, Nat.succ_mul] at this ⊢
      omega
    · intro t ht
      have := hlast t ht
      omega
  · rintro ⟨hcalm, met, left', hle, ⟨rfl, hopen, -⟩, henough, hwithin, hlast⟩
    refine ⟨Nat.succ_le_succ henough, fun _ t ht => ?_, fun t ht => ?_⟩
    · have := hopen t ht
      cases pauses with
      | zero => simp; omega
      | succ n =>
        have := hwithin (Nat.succ_pos _) t ht
        simp only [Nat.add_sub_cancel, Nat.succ_mul] at this ⊢
        omega
    · have := hlast t ht
      simp only [Nat.succ_mul]
      omega

/-- All tries can be counted exactly if no phone is so quick that there is one more of them than a
word can hold. -/
theorem countsTries_tries_iff_not_outlasts {pauses : Nat}
    (hcount : attempts + pauses + 1 = UInt32.size) :
    CountsTries stop (r.tries target giveUp left attempts).run before ↔
      ¬Outlasts stop r giveUp left pauses before := by
  induction pauses generalizing left attempts before with
  | zero =>
    have hfull : ¬attempts + 1 < UInt32.size := by omega
    rw [countsTries_tries_iff, outlasts_zero_iff, Bool.not_eq_false]
    simp only [hfull, false_and, or_false]
  | succ pauses ih =>
    have hcounted : attempts + 1 < UInt32.size := by omega
    rw [countsTries_tries_iff, outlasts_succ_iff]
    constructor
    · rintro h ⟨hcalm, met, left', hle, hgoes, houtlasts⟩
      rcases h with hraised | ⟨-, h⟩
      · cases hcalm.symm.trans hraised
      · have hmeets : Meets stop before (.query .detect true none) (.answered (.ok [])) met := by
          refine ⟨hle, nofun, fun hraised => ?_⟩
          obtain ⟨t, ht, hmet⟩ := raised_iff.mp hraised.2
          have hlater := raised_eq_false_iff.mp houtlasts.raised_eq t ht
          omega
        have hcount : attempts + 1 + pauses + 1 = UInt32.size := by omega
        refine (ih hcount).mp ?_ houtlasts
        exact h _ met left' ⟨hcalm, hcounted, hmeets⟩ nofun rfl hgoes
    · intro h
      cases hcalm : raised stop before with
      | true => exact .inl rfl
      | false =>
        refine .inr ⟨hcounted, fun answer met left' hlooks _ _ hgoes => (ih (by omega)).mpr ?_⟩
        exact fun houtlasts => h ⟨hcalm, met, left', hlooks.meets.le, hgoes, houtlasts⟩

/-- Recognition can count all its tries unless there are as many retries as a word can hold, and a
phone that answers without delay gets through them before the budget is spent and before the
stop. -/
theorem countsTries_matchWith_iff (r : Recognition) (text : String) (retries : UInt32)
    (budget stop : Option Nat) (started : Nat) :
    CountsTries stop (r.matchWith text retries budget).run started ↔
      ¬(retries.toNat + 1 = UInt32.size ∧
        (∀ b, budget = some b → (UInt32.size - 2) * r.backoff < b) ∧
        ∀ t, stop = some t → started + (UInt32.size - 1) * r.backoff < t) := by
  have hcount : 0 + (UInt32.size - 1) + 1 = UInt32.size := by decide
  unfold matchWith
  rw [countsTries_now_bind_run, countsTries_tries_iff_not_outlasts hcount, not_iff_not]
  have hlt := retries.toNat_lt_size
  have htwo : UInt32.size - 1 - 1 = UInt32.size - 2 := rfl
  constructor
  · rintro ⟨henough, hwithin, hlast⟩
    refine ⟨by omega, ?_, hlast⟩
    rintro b rfl
    have hspent := hwithin (by decide) (started + b) rfl
    rw [htwo] at hspent
    omega
  · rintro ⟨hall, hwithin, hlast⟩
    refine ⟨by omega, ?_, hlast⟩
    rintro - t ht
    obtain ⟨b, hb, rfl⟩ := Option.map_eq_some_iff.mp ht
    have := hwithin b hb
    rw [htwo]
    omega

/-! ### The number that is told -/

/-- What recognition tells of the number of its tries: in its error if it found nothing, and else in
its last note. -/
structure TellsTries (tries : Nat) (log : Log) (result : Except StepError TextMatch) : Prop where
  missed : ∀ text n, result = .error (.recognitionNotFound text n) → n = tries
  found : ∀ m, result = .ok m → ∃ past now note, log = past ++ [⟨now, .tell note, (), now⟩] ∧
    CountsAttempts tries note

theorem TellsTries.of_stopped {tries : Nat} : TellsTries tries log (.error .stopped) :=
  ⟨nofun, nofun⟩

theorem TellsTries.append {tries : Nat} {result : Except StepError TextMatch} (past : Log)
    (h : TellsTries tries log result) : TellsTries tries (past ++ log) result := by
  refine ⟨h.missed, fun m hm => ?_⟩
  obtain ⟨past', now, note, rfl, hnote⟩ := h.found m hm
  exact ⟨past ++ past', now, note, (List.append_assoc ..).symm, hnote⟩

/-- Every try that is made has been counted, and the count is what is told. -/
theorem tellsTries_of_goes_tries {result : Except StepError TextMatch}
    (hattempts : attempts < UInt32.size)
    (h : Goes stop (r.tries target giveUp left attempts).run before log result after) :
    (calls log).length ≤ left + 1 ∧ attempts + (calls log).length < UInt32.size ∧
      TellsTries (attempts + (calls log).length) log result := by
  induction left using Nat.strong_induction_on generalizing attempts before log with
  | h left ih =>
    cases trial_of_goes h with
    | stopped => exact ⟨Nat.zero_le _, hattempts, .of_stopped⟩
    | cut hlooks | paused hlooks =>
      rw [hlooks.calls_eq]
      exact ⟨Nat.succ_le_succ (Nat.zero_le _), hlooks.counted, .of_stopped⟩
    | found hlooks _ hnote =>
      rw [hlooks.calls_eq, calls_append, calls_overflows, List.nil_append]
      refine ⟨Nat.succ_le_succ (Nat.zero_le _), hlooks.counted, nofun, fun _ _ => ?_⟩
      exact ⟨looked _ _ _ (overflows _ _), _, _, rfl, hnote⟩
    | missed hlooks =>
      rw [hlooks.calls_eq]
      refine ⟨Nat.succ_le_succ (Nat.zero_le _), hlooks.counted, ?_, nofun⟩
      rintro _ _ ⟨⟩
      rfl
    | @again _ _ left' _ log' _ hlooks _ hleft _ _ hagain =>
      obtain ⟨hle, hlt, htells⟩ := ih left' (by omega) hlooks.counted hagain
      have hcount : attempts + 1 + (calls log').length = attempts + ((calls log').length + 1) := by
        omega
      rw [hlooks.calls_eq, hleft]
      rw [hcount] at hlt htells
      exact ⟨Nat.succ_le_succ hle, hlt, htells.append [_, _, _, _]⟩

theorem tellsTries_of_goes {retries : UInt32} {budget : Option Nat}
    {result : Except StepError TextMatch}
    (h : Goes stop (r.matchWith text retries budget).run before log result after) :
    (detections log).length ≤ retries.toNat + 1 ∧ (detections log).length < UInt32.size ∧
      TellsTries (detections log).length log result := by
  rw [detections_eq_calls (matchWith_calls h)]
  obtain ⟨log', rfl, htries⟩ := goes_now_bind_run.mp h
  rw [calls_cons_of_quiet (by trivial)]
  obtain ⟨hle, hlt, htells⟩ := tellsTries_of_goes_tries (by decide) htries
  rw [Nat.zero_add] at hlt htells
  exact ⟨hle, hlt, htells.append [_]⟩

end Recognition

end CheckIn.Run
