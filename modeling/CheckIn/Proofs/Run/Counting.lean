import CheckIn.Proofs.Run.Overrun

/-! The counts of tries and of looks, both kept in words of 32 bits. A lookup has one look more than
it has pauses, and a pause for each interval up to the timeout at most, so its count never overflows
if a word holds one more than there are intervals. A phone that answers without delay and finds
nothing brings about as many looks, so with fewer bits the count does overflow. -/

namespace CheckIn.Run

open Process

variable {α : Type} {stop : Option Nat} {before after : Nat} {log : Log}

theorem Request.OfLook.ne_overflow {heed : Bool} {q : Request} (h : q.OfLook heed) :
    q ≠ .overflow := by
  rintro rfl
  exact h

/-- What only looks makes no pause. -/
theorem pauses_eq_nil {heed : Bool} {x : Attempt α} {r : Except StepError α}
    (hx : x.run.Asks (Meets stop) fun _ => Request.OfLook heed)
    (h : Goes stop x.run before log r after) : pauses log = [] := by
  refine List.filterMap_eq_nil_iff.mpr fun e he => ?_
  have hlook := h.asks (hx before) e he
  obtain ⟨made, q, answer, met⟩ := e
  cases q with
  | pause _ _ => exact hlook.elim
  | _ => rfl

theorem pauses_now_cons (now : Nat) (log : Log) :
    pauses (⟨now, .now, now, now⟩ :: log) = pauses log :=
  rfl

namespace Lookup

variable {l : Lookup} {selector : Selector} {heed : Bool} {deadline : Nat} {looks : UInt32}
  {r : Except StepError (Option Screen.Element)}

/-! ### Pauses -/

/-- The first look is the last and makes no pause, or there is one, which the stop ends or the next
look follows. -/
theorem pauses_of_goes_poll {n : Nat}
    (h : Goes stop (l.poll selector heed deadline (n + 1) looks).run before log r after) :
    pauses log = [] ∨ ∃ ended, before ≤ ended ∧ ended < deadline ∧
      ((pauses log).length = 1 ∨ ∃ log', (pauses log).length = (pauses log').length + 1 ∧
        Goes stop (l.poll selector heed deadline n (looks + 1)).run
          (ended + min l.interval (deadline - ended)) log' r after) := by
  unfold poll at h
  rcases goes_bind_run.mp h with ⟨_, rfl, hcheck⟩ | ⟨log₁, _, now, log₂, rfl, hcheck, hrest⟩
  · exact .inl (pauses_eq_nil (check_asks heed) hcheck)
  obtain ⟨_, rfl, hcounted⟩ := goes_checked_bind_run.mp hrest
  obtain ⟨log₃, rfl, hlooks⟩ := goes_now_bind_run.mp hcounted
  rw [pauses_append, pauses_eq_nil (check_asks heed) hcheck, List.nil_append, pauses_append,
    pauses_overflows, List.nil_append, pauses_now_cons]
  rcases goes_bind_run.mp hlooks with
    ⟨_, rfl, hlook⟩ | ⟨log₄, found, ended, log₅, rfl, hlook, hnext⟩
  · exact .inl (pauses_eq_nil (look_asks _ selector) hlook)
  rw [pauses_append, pauses_eq_nil (look_asks _ selector) hlook, List.nil_append]
  cases found with
  | some element =>
    obtain ⟨rfl, -, -⟩ := hnext
    exact .inl rfl
  | none =>
    obtain ⟨log₆, rfl, hpoll⟩ := goes_now_bind_run.mp hnext
    rw [pauses_now_cons]
    split at hpoll
    case isTrue =>
      obtain ⟨rfl, -, -⟩ := hpoll
      exact .inl rfl
    case isFalse hearly =>
      refine .inr ⟨ended, Nat.le_trans hcheck.le hlook.le, Nat.lt_of_not_le hearly, ?_⟩
      rcases goes_bind_run.mp hpoll with
        ⟨e, -, hpause⟩ | ⟨log₇, _, next, log₈, rfl, hpause, hagain⟩
      · obtain ⟨stopped, rfl, -⟩ := goes_pause.mp hpause
        exact .inl rfl
      · obtain ⟨stopped, rfl, hmeets, he⟩ := goes_pause.mp hpause
        cases stopped with
        | true => cases he
        | false =>
          obtain rfl := hmeets.1
          exact .inr ⟨log₈, rfl, hagain⟩

/-- There is a pause for each interval up to the deadline at most. -/
theorem pauses_mul_lt {n : Nat}
    (h : Goes stop (l.poll selector heed deadline n looks).run before log r after)
    (hbefore : before ≤ deadline) :
    (pauses log).length * l.interval < deadline - before + l.interval := by
  have hpos := l.interval_pos
  induction n generalizing before log looks with
  | zero =>
    obtain ⟨rfl, -⟩ := h
    simp [pauses]
    omega
  | succ n ih =>
    rcases pauses_of_goes_poll h with hnone | ⟨ended, hle, hearly, hone | ⟨log', hmore, hagain⟩⟩
    · rw [hnone]
      simp
      omega
    · rw [hone]
      omega
    · have hrest := ih hagain (by omega)
      rw [hmore, Nat.succ_mul]
      by_cases hfits : l.interval ≤ deadline - ended
      · omega
      · -- The next look begins at the deadline, and no pause comes after it.
        have hlast : (pauses log').length < 1 := by
          have hlt : (pauses log').length * l.interval < 1 * l.interval := by omega
          exact Nat.lt_of_mul_lt_mul_right hlt
        have hzero : (pauses log').length = 0 := by omega
        rw [hzero]
        omega

theorem pauses_le {timeout started : Nat}
    (h : Goes stop (l.resolve selector timeout heed).run started log r after) :
    (pauses log).length ≤ timeout ⌈/⌉ l.interval := by
  obtain ⟨log, rfl, hpoll⟩ := goes_now_bind_run.mp h
  have hlt := pauses_mul_lt hpoll (Nat.le_add_right ..)
  rw [pauses_now_cons, Nat.ceilDiv_eq_add_pred_div, Nat.le_div_iff_mul_le l.interval_pos]
  omega

/-! ### The count of looks -/

theorem toNat_count (h : looks.toNat + 1 < UInt32.size) : (looks + 1).toNat = looks.toNat + 1 := by
  rw [UInt32.toNat_add]
  exact Nat.mod_eq_of_lt h

/-- The looks are counted if a word holds as many as there are intervals, and one more. -/
theorem poll_neverOverflows {n intervals : Nat} (hdue : deadline ≤ before + intervals * l.interval)
    (hfits : looks.toNat + intervals + 1 < UInt32.size) :
    NeverOverflows stop (l.poll selector heed deadline n looks).run before := by
  induction n generalizing before intervals looks with
  | zero => trivial
  | succ n ih =>
    have hcounted : looks.toNat + 1 < UInt32.size := by omega
    have hlooks {x : Attempt (Option Screen.Element)} {now : Nat}
        (hx : x.run.Asks (Meets stop) fun _ => Request.OfLook heed) :
        NeverOverflows stop x.run now := (hx now).mono fun _ _ => Request.OfLook.ne_overflow
    unfold poll
    refine asksFrom_bind_run.mpr ⟨(check_asks heed before).mono fun _ _ hq => hq.ne_overflow, ?_⟩
    intro log _ began hcheck
    refine neverOverflows_checked_bind_run.mpr ⟨hcounted, neverOverflows_now_bind_run.mpr ?_⟩
    refine asksFrom_bind_run.mpr ⟨hlooks (look_asks _ selector), fun log found ended hlook => ?_⟩
    have hle := Nat.le_trans hcheck.le hlook.le
    cases found with
    | some element => trivial
    | none =>
      refine neverOverflows_now_bind_run.mpr ?_
      split
      case isTrue => trivial
      case isFalse hearly =>
        refine asksFrom_bind_run.mpr ⟨pause_asks (fun _ => by simp) _, fun log _ next hpause => ?_⟩
        obtain ⟨stopped, -, hmeets, he⟩ := goes_pause.mp hpause
        cases stopped with
        | true => cases he
        | false =>
          obtain rfl := hmeets.1
          cases intervals with
          | zero => omega
          | succ intervals =>
            rw [Nat.succ_mul] at hdue
            have hcount := toNat_count hcounted
            have hlater : deadline ≤
                ended + min l.interval (deadline - ended) + intervals * l.interval := by omega
            exact ih hlater (by omega)

theorem exists_goes_check (before : Nat) (heed : Bool) :
    ∃ log, Goes none (Attempt.check heed).run before log (.ok ()) before := by
  cases heed with
  | false => exact ⟨_, rfl, rfl, rfl⟩
  | true => exact ⟨_, goes_check.mpr ⟨rfl, rfl, rfl⟩⟩

theorem exists_goes_candidates (before : Nat) (heed : Bool) (deadline : Nat) (atom : Atom) :
    ∃ log, Goes none (candidates heed deadline atom).run before log (.ok (some [])) before := by
  have hmeets : Meets none before (.query (.findAll (.one atom)) heed (some deadline))
      (.answered (.ok [])) before :=
    ⟨Nat.le_refl _, fun _ _ => Nat.le_max_left .., by simp⟩
  exact ⟨_, goes_bind_ok.mpr ⟨_, _, _, [], rfl, goes_query.mpr ⟨_, rfl, hmeets, rfl⟩,
    rfl, rfl, rfl⟩⟩

/-- A phone may answer without delay, and find nothing. -/
theorem exists_goes_look (before : Nat) (heed : Bool) (deadline : Nat) (selector : Selector) :
    ∃ log, Goes none (look heed deadline selector).run before log (.ok none) before := by
  unfold look
  split
  case h_1 atom =>
    obtain ⟨log, h⟩ := exists_goes_candidates before heed deadline atom
    exact ⟨_, goes_bind_ok.mpr ⟨_, _, _, [], rfl, h, rfl, rfl, rfl⟩⟩
  case h_2 => exact ⟨_, rfl, rfl, rfl⟩
  case h_3 atom _ _ =>
    obtain ⟨log, h⟩ := exists_goes_candidates before heed deadline atom
    exact ⟨_, goes_bind_ok.mpr ⟨_, _, _, [], rfl, h, rfl, rfl, rfl⟩⟩

/-- If no look is one too many for the count, neither is the first, nor those after a first one that
found nothing at once. -/
theorem counted_first {n : Nat}
    (h : NeverOverflows none (l.poll selector heed deadline (n + 1) looks).run before) :
    looks.toNat + 1 < UInt32.size ∧ (before < deadline →
      NeverOverflows none (l.poll selector heed deadline n (looks + 1)).run
        (before + min l.interval (deadline - before))) := by
  unfold poll at h
  obtain ⟨log₁, hcheck⟩ := exists_goes_check before heed
  obtain ⟨hcounted, h₁⟩ :=
    neverOverflows_checked_bind_run.mp ((asksFrom_bind_run.mp h).2 _ _ _ hcheck)
  refine ⟨hcounted, fun hearly => ?_⟩
  obtain ⟨log₂, hlook⟩ :=
    exists_goes_look before heed (max deadline (before + l.interval)) selector
  obtain ⟨-, h₂⟩ := asksFrom_bind_run.mp (neverOverflows_now_bind_run.mp h₁)
  have h₃ := neverOverflows_now_bind_run.mp (h₂ _ _ _ hlook)
  rw [if_neg (Nat.not_le.mpr hearly)] at h₃
  have hpause : Meets none before (.pause (min l.interval (deadline - before)) heed) false
      (before + min l.interval (deadline - before)) := ⟨rfl, by simp⟩
  exact (asksFrom_bind_run.mp h₃).2 _ () _ (goes_pause.mpr ⟨false, rfl, hpause, rfl⟩)

/-- If the phone answers without delay and finds nothing, a look begins after each interval up to
the deadline, and it is counted. -/
theorem counted_of_neverOverflows {n intervals : Nat}
    (h : NeverOverflows none (l.poll selector heed deadline (n + 1) looks).run before)
    (hdue : before + intervals * l.interval < deadline + l.interval) (hn : intervals ≤ n) :
    looks.toNat + intervals + 1 < UInt32.size := by
  induction intervals generalizing before looks n with
  | zero => exact (counted_first h).1
  | succ intervals ih =>
    obtain ⟨n, rfl⟩ := Nat.exists_eq_add_of_le' (Nat.le_trans (Nat.le_add_left 1 _) hn)
    rw [Nat.succ_mul] at hdue
    obtain ⟨hcounted, hnext⟩ := counted_first h
    have hbefore : before + min l.interval (deadline - before) + intervals * l.interval <
        deadline + l.interval := by
      by_cases hfits : l.interval ≤ deadline - before
      · omega
      · -- The next look begins at the deadline, and is the last.
        have hlast : intervals < 1 := by
          have hlt : intervals * l.interval < 1 * l.interval := by omega
          exact Nat.lt_of_mul_lt_mul_right hlt
        have hzero : intervals = 0 := by omega
        subst hzero
        omega
    have hrest := ih (hnext (by omega)) hbefore (Nat.le_of_succ_le_succ hn)
    rw [toNat_count hcounted] at hrest
    omega

/-- The count of the looks never overflows exactly if a word can hold as many as there are intervals
up to the timeout, and one more. -/
theorem resolve_neverOverflows_iff (l : Lookup) (selector : Selector) (timeout : Nat)
    (heed : Bool) (started : Nat) :
    (∀ stop, NeverOverflows stop (l.resolve selector timeout heed).run started) ↔
      timeout ⌈/⌉ l.interval + 1 < UInt32.size := by
  have hpos := l.interval_pos
  constructor
  · intro h
    have hpoll := neverOverflows_now_bind_run.mp (h none)
    have hceil : timeout ⌈/⌉ l.interval * l.interval < timeout + l.interval := by
      rw [Nat.ceilDiv_eq_add_pred_div]
      have := Nat.div_mul_le_self (timeout + l.interval - 1) l.interval
      omega
    have henough : timeout ⌈/⌉ l.interval ≤ timeout / l.interval + 1 := by
      have hlt : timeout < (timeout / l.interval + 1) * l.interval :=
        Nat.lt_mul_of_div_lt (Nat.lt_succ_self _) hpos
      rw [ceilDiv_le_iff_le_mul hpos, Nat.mul_comm]
      omega
    have hdue : started + timeout ⌈/⌉ l.interval * l.interval < started + timeout + l.interval := by
      omega
    simpa using counted_of_neverOverflows hpoll hdue henough
  · intro hfits stop
    have hceil : timeout ≤ timeout ⌈/⌉ l.interval * l.interval := by
      rw [Nat.mul_comm, ← ceilDiv_le_iff_le_mul hpos]
    have hdue : started + timeout ≤ started + timeout ⌈/⌉ l.interval * l.interval := by omega
    exact neverOverflows_now_bind_run.mpr (poll_neverOverflows hdue (by simpa using hfits))

end Lookup

/-- The counts of tries and of looks are kept in words of 32 bits. All tries can be counted unless
there are as many retries as a word can hold, and a phone that answers without delay gets through
them before the budget is spent and before the stop. Tries that can all be counted come to an end,
and every number of tries that is told is that of the detections. A lookup makes a pause for each
interval up to the timeout at most, and the count of its looks never overflows exactly if a word can
hold one more than that. -/
theorem counts_in_words (r : Recognition) (text : String) (retries : UInt32)
    (budget stop : Option Nat) (l : Lookup) (selector : Selector) (timeout : Nat) (heed : Bool)
    (started : Nat) :
    (CountsTries stop (r.matchWith text retries budget).run started ↔
      ¬(retries.toNat + 1 = UInt32.size ∧
        (∀ b, budget = some b → (UInt32.size - 2) * r.backoff < b) ∧
        ∀ t, stop = some t → started + (UInt32.size - 1) * r.backoff < t)) ∧
    (CountsTries stop (r.matchWith text retries budget).run started →
      Surely stop (fun _ => True) (r.matchWith text retries budget).run started) ∧
    (∀ log result after, Goes stop (r.matchWith text retries budget).run started log result after →
      (detections log).length ≤ retries.toNat + 1 ∧ (detections log).length < UInt32.size ∧
        Recognition.TellsTries (detections log).length log result) ∧
    (∀ stop log result after,
      Goes stop (l.resolve selector timeout heed).run started log result after →
        (pauses log).length ≤ timeout ⌈/⌉ l.interval) ∧
    ((∀ stop, NeverOverflows stop (l.resolve selector timeout heed).run started) ↔
      timeout ⌈/⌉ l.interval + 1 < UInt32.size) :=
  ⟨r.countsTries_matchWith_iff text retries budget stop started, surely_true_iff.mpr,
    fun _ _ _ hgoes => Recognition.tellsTries_of_goes hgoes,
    fun _ _ _ _ hgoes => Lookup.pauses_le hgoes,
    l.resolve_neverOverflows_iff selector timeout heed started⟩

/-- With a budget, recognition ends whatever the number of retries. In a lookup of half a second the
looks are counted. -/
theorem counts_in_words_budget :
    let r : Recognition := ⟨0.6, 3, 500⟩
    let l := Lookup.ofInterval 200
    (∃ log result after,
      Goes none (r.matchWith "Go" 4294967295 (some 1000)).run 0 log result after ∧
        Recognition.TellsTries (detections log).length log result) ∧
      ∀ stop, NeverOverflows stop (l.resolve (.one (.text "Go")) 500 true).run 0 := by
  intro r l
  obtain ⟨htries, hends, htells, -, hlooks⟩ :=
    counts_in_words r "Go" 4294967295 (some 1000) none l (.one (.text "Go")) 500 true 0
  have hspent : ¬(UInt32.size - 2) * r.backoff < 1000 := by decide
  refine ⟨?_, hlooks.mpr (by decide)⟩
  obtain ⟨log, result, after, hgoes, -⟩ :=
    (hends (htries.mpr fun hall => hspent (hall.2.1 1000 rfl))).exists_goes
  exact ⟨log, result, after, hgoes, (htells log result after hgoes).2.2⟩

/-- With as many retries as a word can hold and no budget, there may be a try too many to count. -/
theorem matchWith_overruns :
    ¬CountsTries none ((⟨0.6, 3, 500⟩ : Recognition).matchWith "Go" 4294967295 none).run 0 := by
  rw [Recognition.countsTries_matchWith_iff, not_not]
  exact ⟨by decide, nofun, nofun⟩

end CheckIn.Run
