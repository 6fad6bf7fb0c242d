import CheckIn.Proofs.Text.Filling
import CheckIn.Task.ScreenshotPath
import Mathlib.Algebra.Group.Nat.Defs

/-! The placeholders of screenshot paths. The name of the task is put in first, over the whole
template, and then the id and the time are. This comes to the same as a single pass over the template
unless braces of the template enclose the place of the name and the name spells `id` or `timestamp`
there, as `id` does in `{{task}}`. -/

namespace CheckIn

namespace Text

/-- The last decimal digits of a number. -/
def lastDigits : (width n : Nat) → List Char
  | 0, _ => []
  | width + 1, n => lastDigits width (n / 10) ++ [(n % 10).digitChar]

theorem lastDigits_zero (width : Nat) : lastDigits width 0 = List.replicate width '0' := by
  induction width with
  | zero => rfl
  | succ width ih =>
    rw [lastDigits, Nat.zero_div, ih, List.replicate_succ']
    rfl

/-- A numeral of a width that it fits is made of its last digits. -/
theorem toList_padded {width n : Nat} (hn : n < 10 ^ (width + 1)) :
    (padded (width + 1) n).toList = lastDigits (width + 1) n := by
  unfold padded
  rw [String.toList_ofList]
  induction width generalizing n with
  | zero =>
    have hn : n < 10 := by simpa using hn
    simp [Nat.toDigits_of_lt_base hn, lastDigits, Nat.mod_eq_of_lt hn]
  | succ width ih =>
    rw [lastDigits]
    by_cases hsmall : n < 10
    · rw [Nat.toDigits_of_lt_base hsmall, Nat.div_eq_of_lt hsmall, lastDigits_zero,
        Nat.mod_eq_of_lt hsmall]
      rfl
    · have hdiv : n / 10 < 10 ^ (width + 1) := by
        rw [Nat.pow_succ] at hn
        omega
      rw [← ih hdiv, Nat.toDigits_of_base_le (by decide) (by omega), List.length_append,
        ← List.append_assoc]
      simp

end Text

namespace Calendar.LocalTime

/-- The parts of a time have the digits that they get in a stamp: four for the year and two for
each of the others. -/
structure Fits (t : LocalTime) : Prop where
  year_nonneg : 0 ≤ t.year
  year_le : t.year ≤ 9999
  month_lt : t.month < 100
  day_lt : t.day < 100
  hour_lt : t.hour < 100
  minute_lt : t.minute < 100
  second_lt : t.second < 100

theorem toList_stamp {t : LocalTime} (h : t.Fits) :
    t.stamp.toList =
      Text.lastDigits 4 t.year.toNat ++ Text.lastDigits 2 t.month ++ Text.lastDigits 2 t.day ++
        '_' :: (Text.lastDigits 2 t.hour ++ Text.lastDigits 2 t.minute ++
          Text.lastDigits 2 t.second) := by
  obtain ⟨hnonneg, hle, hmonth, hday, hhour, hminute, hsecond⟩ := h
  have hyear : t.year.toNat < 10 ^ 4 := by omega
  rw [← Text.toList_padded hyear, ← Text.toList_padded hmonth, ← Text.toList_padded hday,
    ← Text.toList_padded hhour, ← Text.toList_padded hminute, ← Text.toList_padded hsecond]
  simp [stamp, printYear, hnonneg, hle, ToString.toString]

end Calendar.LocalTime

/-! ### Placeholders -/

open Text

def namePlaceholder (name : String) : Values := [("task".toList, pathName name)]

def idPlaceholder (id : UInt32) : Values := [("id".toList, (toString id).toList)]

def timePlaceholder (now : Calendar.LocalTime) : Values :=
  [("timestamp".toList, now.stamp.toList)]

theorem plain_pathName (name : String) : Plain (pathName name) := by
  intro c hc
  obtain ⟨d, -, rfl⟩ := List.mem_map.mp hc
  split
  · next hd =>
    rw [isBrace, Bool.or_eq_false_iff, beq_eq_false_iff_ne, beq_eq_false_iff_ne]
    constructor <;> rintro rfl <;> exact absurd hd (by decide)
  · rfl

theorem plain_of_isDigit {cs : List Char} (h : ∀ c ∈ cs, c.isDigit) : Plain cs := by
  intro c hc
  rw [isBrace, Bool.or_eq_false_iff, beq_eq_false_iff_ne, beq_eq_false_iff_ne]
  constructor <;> rintro rfl <;> exact absurd (h _ hc) (by decide)

theorem isDigit_of_mem_toDigits {n : Nat} : ∀ c ∈ Nat.toDigits 10 n, c.isDigit :=
  fun _ => Nat.isDigit_of_mem_toDigits (by decide) (by decide)

theorem plain_padded (width n : Nat) : Plain (padded width n).toList := by
  refine plain_of_isDigit fun c hc => ?_
  rw [padded, String.toList_ofList, List.mem_append] at hc
  rcases hc with hc | hc
  · rw [List.eq_of_mem_replicate hc]
    rfl
  · exact isDigit_of_mem_toDigits c hc

theorem toList_id (id : UInt32) : (toString id).toList = Nat.toDigits 10 id.toNat := by
  show (Nat.repr _).toList = _
  simp [Nat.repr]

theorem plain_stamp (now : Calendar.LocalTime) : Plain now.stamp.toList := by
  have hyear : Plain (Calendar.printYear now.year).toList := by
    unfold Calendar.printYear
    split
    · exact plain_padded _ _
    · rw [String.toList_append, plain_append]
      refine ⟨?_, plain_padded _ _⟩
      split <;> exact fun c hc => by
        rw [List.mem_singleton.mp hc]
        rfl
  have hmark : Plain "_".toList := fun c hc => by
    rw [List.mem_singleton.mp hc]
    rfl
  simp only [Calendar.LocalTime.stamp, ToString.toString, String.toList_append, plain_append,
    plain_padded, hyear, hmark, and_self]

/-- The words of the placeholders hold no braces. -/
theorem wordsPlain_singleton {word : String} {value : List Char}
    (h : word.toList.any isBrace = false) : Values.WordsPlain [(word.toList, value)] := by
  intro v hv c hc
  rw [List.mem_singleton.mp hv] at hc
  exact Bool.eq_false_iff.mpr (List.any_eq_false.mp h c hc)

theorem namePlaceholder_wordsPlain (name : String) : (namePlaceholder name).WordsPlain :=
  wordsPlain_singleton (by decide)

theorem idPlaceholder_wordsPlain (id : UInt32) : (idPlaceholder id).WordsPlain :=
  wordsPlain_singleton (by decide)

theorem timePlaceholder_wordsPlain (now : Calendar.LocalTime) :
    (timePlaceholder now).WordsPlain :=
  wordsPlain_singleton (by decide)

theorem namePlaceholder_valuesPlain (name : String) : (namePlaceholder name).ValuesPlain :=
  fun _ hv => List.mem_singleton.mp hv ▸ plain_pathName name

theorem idPlaceholder_valuesPlain (id : UInt32) : (idPlaceholder id).ValuesPlain := fun v hv => by
  rw [List.mem_singleton.mp hv, toList_id]
  exact plain_of_isDigit isDigit_of_mem_toDigits

theorem timePlaceholder_valuesPlain (now : Calendar.LocalTime) :
    (timePlaceholder now).ValuesPlain :=
  fun _ hv => List.mem_singleton.mp hv ▸ plain_stamp now

/-- An id spells no word, whatever stands around it: its digits are in none. -/
theorem not_spliced_id (id : UInt32) (now : Calendar.LocalTime) (template : List Char) :
    ¬Spliced (idPlaceholder id) (timePlaceholder now) template := by
  rintro ⟨-, inner, -, -, ⟨v, hv, before, after, rfl⟩, hlookup⟩
  obtain rfl := List.mem_singleton.mp hv
  have hwords := idPlaceholder_wordsPlain id
  have hvalue : (idPlaceholder id).lookup "id".toList = some (Nat.toDigits 10 id.toNat) := by
    simp [idPlaceholder, toList_id]
  rw [List.append_assoc, braced_append, fillIn_append_open hwords, ← braced_append,
    fillIn_braced hwords (hwords _ hv), hvalue] at hlookup
  obtain ⟨value, hvalue⟩ := Option.isSome_iff_exists.mp hlookup
  have hword := congrArg Prod.fst (List.mem_singleton.mp (mem_of_lookup hvalue))
  have hpos : 0 < (Nat.toDigits 10 id.toNat).length := Nat.length_toDigits_pos
  obtain ⟨c, hc⟩ := List.exists_mem_of_length_pos hpos
  have hmem : c ∈ "timestamp".toList := by
    have hspelt : fillIn (idPlaceholder id) 0 before ++
        (Nat.toDigits 10 id.toNat ++ fillIn (idPlaceholder id) 0 after) = "timestamp".toList := hword
    rw [← hspelt]
    exact List.mem_append_right _ (List.mem_append_left _ hc)
  have hnone : "timestamp".toList.any Char.isDigit = false := by decide
  exact List.any_eq_false.mp hnone c hmem (isDigit_of_mem_toDigits c hc)

/-! ### Paths -/

/-- The id and the time may be put in at once. -/
theorem toList_screenshotPath (template name : String) (id : UInt32) (now : Calendar.LocalTime) :
    (screenshotPath template name id now).toList =
      fillIn (idPlaceholder id ++ timePlaceholder now) 0
        (fillIn (namePlaceholder name) 0 template.toList) := by
  have htask : "\x7btask\x7d".toList = braced "task".toList := by decide
  have hid : "\x7bid\x7d".toList = braced "id".toList := by decide
  have htime : "\x7btimestamp\x7d".toList = braced "timestamp".toList := by decide
  unfold screenshotPath
  dsimp only
  rw [String.toList_ofList, htask, hid, htime, replace_braced, replace_braced, replace_braced]
  exact (fillIn_fillIn_eq_iff (idPlaceholder_wordsPlain id) (timePlaceholder_wordsPlain now)
    (idPlaceholder_valuesPlain id) (timePlaceholder_valuesPlain now)).mpr (not_spliced_id id now _)

/-- A path is its template with the name put in, and then the id and the time at once. This is what a
single pass over the template comes to exactly if the name spells neither of the other placeholders
between braces of the template. -/
theorem screenshotPath_fillsIn_iff (template name : String) (id : UInt32)
    (now : Calendar.LocalTime) :
    (screenshotPath template name id now).toList =
        fillIn (idPlaceholder id ++ timePlaceholder now) 0
          (fillIn (namePlaceholder name) 0 template.toList) ∧
      ((screenshotPath template name id now).toList =
          fillIn (namePlaceholder name ++ (idPlaceholder id ++ timePlaceholder now)) 0
            template.toList ↔
        ¬Spliced (namePlaceholder name) (idPlaceholder id ++ timePlaceholder now)
          template.toList) ∧
      (now.Fits → now.stamp.toList =
        lastDigits 4 now.year.toNat ++ lastDigits 2 now.month ++ lastDigits 2 now.day ++
          '_' :: (lastDigits 2 now.hour ++ lastDigits 2 now.minute ++
            lastDigits 2 now.second)) := by
  refine ⟨toList_screenshotPath template name id now, ?_, Calendar.LocalTime.toList_stamp⟩
  rw [toList_screenshotPath]
  exact fillIn_fillIn_eq_iff (namePlaceholder_wordsPlain name)
    (wordsPlain_append (idPlaceholder_wordsPlain id) (timePlaceholder_wordsPlain now))
    (namePlaceholder_valuesPlain name)
    (List.forall_mem_append.mpr ⟨idPlaceholder_valuesPlain id, timePlaceholder_valuesPlain now⟩)

/-- A template with all three placeholders, side by side. -/
theorem screenshotPath_fillsIn_iff_daily :
    let template := "/sdcard/\x7btask\x7d-\x7bid\x7d-\x7btimestamp\x7d.png"
    let now : Calendar.LocalTime := ⟨2026, 3, 1, 8, 5, 9⟩
    now.Fits ∧ now.stamp.toList = "20260301_080509".toList ∧
      (screenshotPath template "JD/Beans" 3 now).toList =
        "/sdcard/JD_Beans-3-20260301_080509.png".toList ∧
      ¬Spliced (namePlaceholder "JD/Beans") (idPlaceholder 3 ++ timePlaceholder now)
        template.toList := by
  intro template now
  have hfits : now.Fits := by constructor <;> decide
  obtain ⟨-, honce, hstamp⟩ := screenshotPath_fillsIn_iff template "JD/Beans" 3 now
  refine ⟨hfits, (hstamp hfits).trans (by decide), by decide, honce.mp (by decide)⟩

/-- The name `id` between two more braces makes the placeholder of the id. -/
theorem screenshotPath_spliced :
    let now : Calendar.LocalTime := ⟨2026, 3, 1, 8, 5, 9⟩
    screenshotPath "\x7b\x7btask\x7d\x7d" "id" 3 now = "3" ∧
      fillIn (namePlaceholder "id" ++ (idPlaceholder 3 ++ timePlaceholder now)) 0
        "\x7b\x7btask\x7d\x7d".toList = "\x7bid\x7d".toList := by
  decide

end CheckIn
