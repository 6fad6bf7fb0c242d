import CheckIn.Pattern.Basic
import Mathlib.Logic.Function.Iterate

/-! Matching computes `Spans`. `advance` moves a set of positions along a pattern: what it marks are
the ends of the matches that begin at the marks it is given. A repetition with no upper bound is
followed for as many rounds as there are positions; by then a round adds nothing, since each one
before has added a mark. This needs the bounds of repetitions to be in order, as they are in every
pattern that is read. -/

namespace CheckIn.Pattern

variable {text : List Char} {p q : Pattern} {i j k m n size : Nat}

/-- The bounds of every repetition are in order. -/
def Ordered : Pattern → Prop
  | empty | set _ | look _ => True
  | seq p q | either p q => p.Ordered ∧ q.Ordered
  | .repeat p least most => p.Ordered ∧ ∀ m, most = some m → least ≤ m

/-! ### Matches by the shape of the pattern -/

theorem spans_set {set : CharSet} :
    Spans (.set set) text i j ↔ j = i + 1 ∧ ∃ c, text[i]? = some c ∧ set.contains c = true := by
  constructor
  · intro h
    cases h with
    | set hc hset => exact ⟨rfl, _, hc, hset⟩
  · rintro ⟨rfl, c, hc, hset⟩
    exact .set hc hset

theorem spans_look {look : Look} :
    Spans (.look look) text i j ↔ j = i ∧ i ≤ text.length ∧ Look.At look text i := by
  constructor
  · intro h
    cases h with
    | look hi hat => exact ⟨rfl, hi, hat⟩
  · rintro ⟨rfl, hi, hat⟩
    exact .look hi hat

theorem spans_seq :
    Spans (.seq p q) text i j ↔ ∃ k, Spans p text i k ∧ Spans q text k j := by
  constructor
  · intro h
    cases h with
    | seq hp hq => exact ⟨_, hp, hq⟩
  · rintro ⟨k, hp, hq⟩
    exact .seq hp hq

theorem spans_either :
    Spans (.either p q) text i j ↔ Spans p text i j ∨ Spans q text i j := by
  constructor
  · intro h
    cases h with
    | left hp => exact .inl hp
    | right hq => exact .inr hq
  · exact fun h => h.elim .left .right

theorem spans_repeat {least : Nat} {most : Option Nat} :
    Spans (.repeat p least most) text i j ↔
      ∃ n, SpansTimes p n text i j ∧ least ≤ n ∧ ∀ m, most = some m → n ≤ m := by
  constructor
  · intro h
    cases h with
    | «repeat» htimes hleast hmost => exact ⟨_, htimes, hleast, hmost⟩
  · rintro ⟨n, htimes, hleast, hmost⟩
    exact .repeat htimes hleast hmost

/-! ### Repeated matches -/

theorem spansTimes_zero : SpansTimes p 0 text i j ↔ j = i ∧ i ≤ text.length := by
  constructor
  · intro h
    cases h
    exact ⟨rfl, ‹_›⟩
  · rintro ⟨rfl, h⟩
    exact .zero h

theorem spansTimes_succ :
    SpansTimes p (n + 1) text i k ↔ ∃ j, SpansTimes p n text i j ∧ Spans p text j k := by
  constructor
  · intro h
    cases h with
    | succ hn hlast => exact ⟨_, hn, hlast⟩
  · rintro ⟨j, hn, hlast⟩
    exact .succ hn hlast

theorem SpansTimes.le_of (hp : ∀ {i j}, Spans p text i j → i ≤ j ∧ j ≤ text.length)
    (h : SpansTimes p n text i j) : i ≤ j ∧ j ≤ text.length := by
  induction n generalizing j with
  | zero =>
    obtain ⟨rfl, hle⟩ := spansTimes_zero.mp h
    exact ⟨Nat.le_refl _, hle⟩
  | succ n ih =>
    obtain ⟨_, hn, hlast⟩ := spansTimes_succ.mp h
    have h₁ := ih hn
    have h₂ := hp hlast
    omega

theorem Spans.le (h : Spans p text i j) : i ≤ j ∧ j ≤ text.length := by
  induction p generalizing i j with
  | empty | look =>
    cases h
    exact ⟨Nat.le_refl _, ‹_›⟩
  | set s =>
    cases h with
    | set hc _ =>
      have hi := (List.getElem?_eq_some_iff.mp hc).1
      omega
  | seq p q ihp ihq =>
    cases h with
    | seq hp hq =>
      have h₁ := ihp hp
      have h₂ := ihq hq
      omega
  | either p q ihp ihq =>
    cases h with
    | left hp => exact ihp hp
    | right hq => exact ihq hq
  | «repeat» p least most ih =>
    obtain ⟨n, htimes, -⟩ := spans_repeat.mp h
    exact htimes.le_of ih

theorem SpansTimes.le (h : SpansTimes p n text i j) : i ≤ j ∧ j ≤ text.length :=
  h.le_of Spans.le

theorem spansTimes_add :
    SpansTimes p (m + n) text i k ↔ ∃ j, SpansTimes p m text i j ∧ SpansTimes p n text j k := by
  induction n generalizing k with
  | zero =>
    simp only [Nat.add_zero, spansTimes_zero]
    constructor
    · intro h
      exact ⟨k, h, rfl, h.le.2⟩
    · rintro ⟨j, h, rfl, -⟩
      exact h
  | succ n ih =>
    simp only [← Nat.add_assoc, spansTimes_succ, ih]
    constructor
    · rintro ⟨b, ⟨a, ha, hb⟩, hlast⟩
      exact ⟨a, ha, b, hb, hlast⟩
    · rintro ⟨a, ha, b, hb, hlast⟩
      exact ⟨b, ⟨a, ha, hb⟩, hlast⟩

theorem spansTimes_one : SpansTimes p 1 text i j ↔ Spans p text i j := by
  simp only [spansTimes_succ (n := 0), spansTimes_zero]
  constructor
  · rintro ⟨_, ⟨rfl, -⟩, h⟩
    exact h
  · intro h
    exact ⟨i, ⟨rfl, Nat.le_trans h.le.1 h.le.2⟩, h⟩

/-! ### Marks -/

namespace Marks

variable {step : Marks → Marks} {marks a b : Marks}

/-- Position `i` is marked. -/
def At (marks : Marks) (i : Nat) : Prop := marks[i]? = some true

theorem At.lt (h : marks.At i) : i < marks.length := (List.getElem?_eq_some_iff.mp h).1

theorem length_union (h : a.length = b.length) : (a.union b).length = a.length := by
  simp [union, h]

theorem at_union (h : a.length = b.length) : (a.union b).At i ↔ a.At i ∨ b.At i := by
  unfold At union
  rw [List.getElem?_zipWith]
  by_cases hi : i < a.length
  · rw [List.getElem?_eq_getElem hi, List.getElem?_eq_getElem (h ▸ hi)]
    simp
  · rw [List.getElem?_eq_none (Nat.le_of_not_lt hi), List.getElem?_eq_none (h ▸ Nat.le_of_not_lt hi)]
    simp

/-- A union that changes something has fewer positions without a mark. -/
theorem union_eq_or_count_lt (h : a.length = b.length) :
    a.union b = a ∨ (a.union b).count false < a.count false := by
  induction a generalizing b with
  | nil => exact .inl rfl
  | cons x a ih =>
    cases b with
    | nil => cases h
    | cons y b =>
      have hunion : union (x :: a) (y :: b) = (x || y) :: union a b := rfl
      rw [hunion]
      rcases ih (Nat.succ.inj h) with heq | hlt
      · rw [heq]
        cases x <;> cases y <;> simp
      · right
        cases x <;> cases y <;> simp <;> omega

/-- The step moves marks along a relation of positions. -/
def Moves (size : Nat) (step : Marks → Marks) (R : Nat → Nat → Prop) : Prop :=
  ∀ marks : Marks, marks.length = size →
    (step marks).length = size ∧ ∀ j, (step marks).At j ↔ ∃ i, marks.At i ∧ R i j

theorem atLook_moves (l : Look) (before : Option Char) (h : marks.length = text.length + 1) :
    (marks.atLook l before text).length = text.length + 1 ∧
      ∀ i, (marks.atLook l before text).At i ↔
        marks.At i ∧ l.holds (if i = 0 then before else text[i - 1]?) text[i]? = true := by
  induction text generalizing before marks with
  | nil =>
    obtain ⟨m, rfl⟩ := List.length_eq_one_iff.mp h
    refine ⟨rfl, fun i => ?_⟩
    cases i <;> simp [atLook, At]
  | cons c text ih =>
    cases marks with
    | nil => cases h
    | cons m marks =>
      obtain ⟨hlength, hat⟩ := ih (some c) (Nat.succ.inj h)
      refine ⟨congrArg (· + 1) hlength, fun i => ?_⟩
      cases i with
      | zero => simp [atLook, At]
      | succ i =>
        refine (hat i).trans (and_congr_right fun _ => ?_)
        cases i <;> simp

theorem past_moves (s : CharSet) :
    Moves (text.length + 1) (fun marks => past s text marks) (Spans (.set s) text) := by
  intro marks h
  refine ⟨by simp [past, h], fun j => ?_⟩
  simp only [spans_set]
  cases j with
  | zero => simp [past, At]
  | succ j =>
    simp only [past, At, List.getElem?_cons_succ, List.getElem?_zipWith]
    constructor
    · intro hj
      split at hj
      next m c hm hc =>
        simp only [Option.some.injEq, Bool.and_eq_true] at hj
        exact ⟨j, hj.1 ▸ hm, rfl, c, hc, hj.2⟩
      next => cases hj
    · rintro ⟨i, hm, hij, c, hc, hs⟩
      cases hij
      simp [hm, hc, hs]

theorem iterate_eq (step : Marks → Marks) (n : Nat) (marks : Marks) :
    iterate step n marks = step^[n] marks := by
  induction n generalizing marks with
  | zero => rfl
  | succ n ih =>
    simp only [iterate, beq_iff_eq]
    split
    next hfixed => exact (Function.iterate_fixed hfixed _).symm
    next => exact ih _

section Repetition

variable (h : Moves (text.length + 1) step (Spans p text))
include h

/-- Repeating a step moves marks along repeated matches. -/
theorem iterate_moves (n : Nat) :
    Moves (text.length + 1) (iterate step n) (SpansTimes p n text) := by
  intro marks hmarks
  rw [iterate_eq]
  induction n with
  | zero =>
    refine ⟨hmarks, fun j => ?_⟩
    simp only [Function.iterate_zero, id, spansTimes_zero]
    constructor
    · intro hj
      have := hj.lt
      exact ⟨j, hj, rfl, by omega⟩
    · rintro ⟨i, hi, rfl, -⟩
      exact hi
  | succ n ih =>
    obtain ⟨hlength, hat⟩ := ih
    obtain ⟨hlength', hat'⟩ := h _ hlength
    rw [Function.iterate_succ_apply']
    refine ⟨hlength', fun k => ?_⟩
    simp only [hat', hat, spansTimes_succ]
    constructor
    · rintro ⟨j, ⟨i, hi, hn⟩, hlast⟩
      exact ⟨i, hi, j, hn, hlast⟩
    · rintro ⟨i, hi, j, hn, hlast⟩
      exact ⟨j, ⟨i, hi, hn⟩, hlast⟩

/-- Marks to which a step adds nothing have all ends of repeated matches. -/
theorem at_of_closed (hmarks : marks.length = text.length + 1)
    (hclosed : marks.union (step marks) = marks) (hi : marks.At i)
    (htimes : SpansTimes p n text i j) : marks.At j := by
  induction n generalizing j with
  | zero =>
    obtain ⟨rfl, -⟩ := spansTimes_zero.mp htimes
    exact hi
  | succ n ih =>
    obtain ⟨j', hn, hlast⟩ := spansTimes_succ.mp htimes
    obtain ⟨hlength, hat⟩ := h marks hmarks
    rw [← hclosed, at_union (hmarks.trans hlength.symm), hat]
    exact .inr ⟨j', ih hn, hlast⟩

theorem length_wider (hmarks : marks.length = text.length + 1) :
    (marks.union (step marks)).length = text.length + 1 :=
  (length_union (hmarks.trans (h marks hmarks).1.symm)).trans hmarks

theorem at_wider (hmarks : marks.length = text.length + 1) (n : Nat) :
    (∃ i, (marks.union (step marks)).At i ∧ SpansTimes p n text i j) ↔
      ∃ i, marks.At i ∧ (SpansTimes p n text i j ∨ SpansTimes p (1 + n) text i j) := by
  obtain ⟨hlength, hat⟩ := h marks hmarks
  simp only [at_union (hmarks.trans hlength.symm), hat, spansTimes_add, spansTimes_one]
  constructor
  · rintro ⟨i, hi | ⟨i', hi', hfirst⟩, hn⟩
    · exact ⟨i, hi, .inl hn⟩
    · exact ⟨i', hi', .inr ⟨i, hfirst, hn⟩⟩
  · rintro ⟨i, hi, hn | ⟨j, hfirst, hn⟩⟩
    · exact ⟨i, .inl hi, hn⟩
    · exact ⟨j, .inr ⟨i, hi, hfirst⟩, hn⟩

/-- Spreading along a step adds the ends of up to a number of repeated matches. -/
theorem spread_moves (n : Nat) :
    Moves (text.length + 1) (spread step n) fun i j => ∃ k ≤ n, SpansTimes p k text i j := by
  intro marks hmarks
  have hself {marks : Marks} (hmarks : marks.length = text.length + 1) {j n : Nat}
      (hj : marks.At j) : ∃ i, marks.At i ∧ ∃ k ≤ n, SpansTimes p k text i j := by
    have := hj.lt
    exact ⟨j, hj, 0, Nat.zero_le _, spansTimes_zero.mpr ⟨rfl, by omega⟩⟩
  induction n generalizing marks with
  | zero =>
    refine ⟨hmarks, fun j => ⟨hself hmarks, ?_⟩⟩
    rintro ⟨i, hi, k, hk, htimes⟩
    obtain rfl := Nat.le_zero.mp hk
    obtain ⟨rfl, -⟩ := spansTimes_zero.mp htimes
    exact hi
  | succ n ih =>
    simp only [spread, beq_iff_eq]
    split
    next hclosed =>
      refine ⟨hmarks, fun j => ⟨hself hmarks, ?_⟩⟩
      rintro ⟨i, hi, k, -, htimes⟩
      exact at_of_closed h hmarks hclosed hi htimes
    next =>
      obtain ⟨hlength, hat⟩ := ih _ (length_wider h hmarks)
      refine ⟨hlength, fun j => (hat j).trans ?_⟩
      constructor
      · rintro ⟨i, hi, k, hk, htimes⟩
        obtain ⟨i', hi', htimes | htimes⟩ := (at_wider h hmarks k).mp ⟨i, hi, htimes⟩
        · exact ⟨i', hi', k, by omega, htimes⟩
        · exact ⟨i', hi', 1 + k, by omega, htimes⟩
      · rintro ⟨i, hi, k, hk, htimes⟩
        obtain ⟨k', hk', hsplit⟩ : ∃ k' ≤ n,
            SpansTimes p k' text i j ∨ SpansTimes p (1 + k') text i j := by
          cases k with
          | zero => exact ⟨0, Nat.zero_le _, .inl htimes⟩
          | succ k => exact ⟨k, by omega, .inr (Nat.add_comm 1 k ▸ htimes)⟩
        obtain ⟨i', hi', htimes'⟩ := (at_wider h hmarks k').mpr ⟨i, hi, hsplit⟩
        exact ⟨i', hi', k', hk', htimes'⟩

/-- With as many rounds as there are positions without a mark, spreading goes on until a step adds
nothing. -/
theorem spread_closed (hmarks : marks.length = text.length + 1) (hn : marks.count false ≤ n) :
    (marks.spread step n).union (step (marks.spread step n)) = marks.spread step n := by
  induction n generalizing marks with
  | zero =>
    have hfull := union_eq_or_count_lt (hmarks.trans (h marks hmarks).1.symm)
    exact hfull.resolve_right (by omega)
  | succ n ih =>
    simp only [spread, beq_iff_eq]
    split
    next hclosed => exact hclosed
    next hgrows =>
      have hfewer := union_eq_or_count_lt (hmarks.trans (h marks hmarks).1.symm)
      have hlt := hfewer.resolve_left hgrows
      exact ih (length_wider h hmarks) (by omega)

/-- As many rounds as there are positions add the ends of any number of repeated matches. -/
theorem spread_all_moves :
    Moves (text.length + 1) (spread step (text.length + 1)) fun i j =>
      ∃ k, SpansTimes p k text i j := by
  intro marks hmarks
  obtain ⟨hlength, hat⟩ := spread_moves h (text.length + 1) marks hmarks
  have hclosed := spread_closed h hmarks (hmarks ▸ List.count_le_length)
  refine ⟨hlength, fun j => ⟨fun hj => ?_, ?_⟩⟩
  · obtain ⟨i, hi, k, -, htimes⟩ := (hat j).mp hj
    exact ⟨i, hi, k, htimes⟩
  · rintro ⟨i, hi, k, htimes⟩
    have hle := htimes.le
    have hstart := (hat i).mpr ⟨i, hi, 0, Nat.zero_le _, spansTimes_zero.mpr ⟨rfl, by omega⟩⟩
    exact at_of_closed h hlength hclosed hstart htimes

end Repetition

/-- A number of matches and some more in turn are matches as often as that at least. -/
theorem exists_times_split (marks : Marks) (least : Nat) (more : Nat → Prop) :
    (∃ i', (∃ i, marks.At i ∧ SpansTimes p least text i i') ∧
        ∃ k, more k ∧ SpansTimes p k text i' j) ↔
      ∃ i, marks.At i ∧ ∃ n, SpansTimes p n text i j ∧ least ≤ n ∧ more (n - least) := by
  constructor
  · rintro ⟨i', ⟨i, hi, hleast⟩, k, hmore, hk⟩
    refine ⟨i, hi, least + k, spansTimes_add.mpr ⟨i', hleast, hk⟩, Nat.le_add_right .., ?_⟩
    rwa [Nat.add_sub_cancel_left]
  · rintro ⟨i, hi, n, htimes, hle, hmore⟩
    rw [← Nat.add_sub_cancel' hle] at htimes
    obtain ⟨i', hleast, hk⟩ := spansTimes_add.mp htimes
    exact ⟨i', ⟨i, hi, hleast⟩, n - least, hmore, hk⟩

end Marks

/-- Advancing along a pattern moves marks from the starts of its matches to their ends. -/
theorem advance_moves (hp : p.Ordered) :
    Marks.Moves (text.length + 1) (advance text p) (Spans p text) := by
  induction p with
  | empty =>
    intro marks hmarks
    refine ⟨hmarks, fun j => ?_⟩
    constructor
    · intro hj
      have hlt : j < text.length + 1 := hmarks ▸ Marks.At.lt hj
      exact ⟨j, hj, .empty (by omega)⟩
    · rintro ⟨i, hi, hspans⟩
      cases hspans
      exact hi
  | set s => exact Marks.past_moves s
  | look l =>
    intro marks hmarks
    obtain ⟨hlength, hat⟩ := Marks.atLook_moves l none hmarks
    refine ⟨hlength, fun j => (hat j).trans ?_⟩
    simp only [spans_look]
    constructor
    · rintro ⟨hj, hholds⟩
      have hlt := hj.lt
      exact ⟨j, hj, rfl, by omega, hholds⟩
    · rintro ⟨i, hi, rfl, -, hholds⟩
      exact ⟨hi, hholds⟩
  | seq p q ihp ihq =>
    intro marks hmarks
    obtain ⟨hlength, hat⟩ := ihp hp.1 marks hmarks
    obtain ⟨hlength', hat'⟩ := ihq hp.2 _ hlength
    refine ⟨hlength', fun k => (hat' k).trans ?_⟩
    simp only [hat, spans_seq]
    constructor
    · rintro ⟨j, ⟨i, hi, hfirst⟩, hsecond⟩
      exact ⟨i, hi, j, hfirst, hsecond⟩
    · rintro ⟨i, hi, j, hfirst, hsecond⟩
      exact ⟨j, ⟨i, hi, hfirst⟩, hsecond⟩
  | either p q ihp ihq =>
    intro marks hmarks
    obtain ⟨hlength, hat⟩ := ihp hp.1 marks hmarks
    obtain ⟨hlength', hat'⟩ := ihq hp.2 marks hmarks
    have heq := hlength.trans hlength'.symm
    refine ⟨(Marks.length_union heq).trans hlength, fun j => (Marks.at_union heq).trans ?_⟩
    simp only [hat, hat', spans_either, and_or_left, exists_or]
  | «repeat» p least most ih =>
    have hstep := ih hp.1
    intro marks hmarks
    obtain ⟨hlength, hat⟩ := Marks.iterate_moves hstep least marks hmarks
    cases most with
    | some most =>
      obtain ⟨hlength', hat'⟩ := Marks.spread_moves hstep (most - least) _ hlength
      refine ⟨hlength', fun j => (hat' j).trans ?_⟩
      simp only [hat, spans_repeat, Option.some.injEq, forall_eq']
      rw [Marks.exists_times_split]
      have hle : least ≤ most := hp.2 most rfl
      refine exists_congr fun i => and_congr_right fun _ => exists_congr fun n => ?_
      refine and_congr_right fun _ => and_congr_right fun _ => ?_
      omega
    | none =>
      obtain ⟨hlength', hat'⟩ := Marks.spread_all_moves hstep _ hlength
      refine ⟨hlength', fun j => (hat' j).trans ?_⟩
      simp only [hat, spans_repeat, reduceCtorEq, false_implies, implies_true]
      simpa only [true_and] using Marks.exists_times_split marks least fun _ => True

/-- Matching tells whether some stretch of the text matches. -/
theorem isMatch_iff (hp : p.Ordered) : p.isMatch text = true ↔ ∃ i j, Spans p text i j := by
  have hmoves : Marks.Moves (text.length + 1) (advance text p) (Spans p text) := advance_moves hp
  obtain ⟨-, hat⟩ := hmoves (List.replicate (text.length + 1) true) List.length_replicate
  rw [isMatch, List.contains_iff_mem, List.mem_iff_getElem?]
  constructor
  · rintro ⟨j, hj⟩
    obtain ⟨i, -, hspans⟩ := (hat j).mp hj
    exact ⟨i, j, hspans⟩
  · rintro ⟨i, j, hspans⟩
    have hle := hspans.le
    have hi : Marks.At (List.replicate (text.length + 1) true) i := by
      rw [Marks.At, List.getElem?_replicate, if_pos (by omega)]
    exact ⟨j, (hat j).mpr ⟨i, hi, hspans⟩⟩

end CheckIn.Pattern
