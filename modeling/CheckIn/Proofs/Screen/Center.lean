import CheckIn.Screen.Geometry

/-! The center of a rectangle. It is reached by adding opposite edges, in 32 bits, and halving. So
it is the middle, and lies in the rectangle, exactly if these sums are numbers of 32 bits. The word
of a sum that is not holds a number on the other side of zero, and half of it is beyond the
edges. -/

namespace CheckIn.Screen

/-! ### Numbers of 32 bits -/

theorem fits_toInt (a : Int32) : Fits a.toInt := ⟨a.le_toInt, a.toInt_lt⟩

/-- Division rounds by less than one. -/
theorem tdiv_bounds (n : Int) {k : Int} (hk : 0 < k) :
    k * n.tdiv k < n + k ∧ n < k * n.tdiv k + k := by
  have hdiv := Int.mul_tdiv_add_tmod n k
  have hlt := Int.tmod_lt_of_pos n hk
  have hgt := Int.lt_tmod_of_pos n hk
  constructor <;> omega

section Sums

variable (a b : Int32)

/-- What the word of the sum of two numbers holds, which has wrapped around if it does not fit. -/
theorem toInt_add_cases : Fits (a.toInt + b.toInt) ∧ (a + b).toInt = a.toInt + b.toInt ∨
    2147483648 ≤ a.toInt + b.toInt ∧ (a + b).toInt = a.toInt + b.toInt - 4294967296 ∨
    a.toInt + b.toInt < -2147483648 ∧ (a + b).toInt = a.toInt + b.toInt + 4294967296 := by
  obtain ⟨halow, hahigh⟩ := fits_toInt a
  obtain ⟨hblow, hbhigh⟩ := fits_toInt b
  rw [Int32.toInt_add, Int.bmod_def, Fits]
  omega

theorem toInt_half_sum : ((a + b) / 2).toInt = (a + b).toInt.tdiv 2 :=
  Int32.toInt_div_of_ne_right _ _ (by decide)

theorem half_sum_eq_iff : ((a + b) / 2).toInt = (a.toInt + b.toInt).tdiv 2 ↔
    Fits (a.toInt + b.toInt) := by
  rw [toInt_half_sum]
  have hexact := tdiv_bounds (a.toInt + b.toInt) (k := 2) (by decide)
  have hwrapped := tdiv_bounds (a + b).toInt (k := 2) (by decide)
  rcases toInt_add_cases a b with ⟨hfits, hsum⟩ | ⟨hbeyond, hsum⟩ | ⟨hbeyond, hsum⟩
  · exact iff_of_true (by rw [hsum]) hfits
  · exact iff_of_false (by omega) fun hfits => by have := hfits.2; omega
  · exact iff_of_false (by omega) fun hfits => by have := hfits.1; omega

variable {a b}

/-- Half of the sum of two numbers is between them, unless the sum wraps around. -/
theorem half_sum_between_iff (h : a ≤ b) : a ≤ (a + b) / 2 ∧ (a + b) / 2 ≤ b ↔
    Fits (a.toInt + b.toInt) := by
  rw [Int32.le_iff_toInt_le] at h
  rw [Int32.le_iff_toInt_le, Int32.le_iff_toInt_le, toInt_half_sum]
  have hwrapped := tdiv_bounds (a + b).toInt (k := 2) (by decide)
  rcases toInt_add_cases a b with ⟨hfits, hsum⟩ | ⟨hbeyond, hsum⟩ | ⟨hbeyond, hsum⟩
  · exact iff_of_true (by omega) hfits
  · -- Both numbers are positive, and the wrapped sum is negative.
    have hhigh := b.toInt_lt
    exact iff_of_false (by omega) fun hfits => by have := hfits.2; omega
  · -- Both numbers are negative, and the wrapped sum is not.
    have hlow := a.le_toInt
    exact iff_of_false (by omega) fun hfits => by have := hfits.1; omega

end Sums

/-! ### Rectangles -/

namespace Rect

variable {r : Rect}

/-- No edge is beyond the opposite one. -/
def IsOrdered (r : Rect) : Prop := r.left ≤ r.right ∧ r.top ≤ r.bottom

/-- The point is halfway between opposite edges, rounded toward zero. -/
def IsMiddle (r : Rect) (p : Point) : Prop :=
  p.x.toInt = (r.left.toInt + r.right.toInt).tdiv 2 ∧
    p.y.toInt = (r.top.toInt + r.bottom.toInt).tdiv 2

theorem isMiddle_center_iff : r.IsMiddle r.center ↔ r.SumsFit :=
  and_congr (half_sum_eq_iff ..) (half_sum_eq_iff ..)

theorem contains_iff {p : Point} : r.contains p = true ↔
    (r.left ≤ p.x ∧ p.x ≤ r.right) ∧ r.top ≤ p.y ∧ p.y ≤ r.bottom := by
  simp [contains, and_assoc]

theorem contains_center_iff (h : r.IsOrdered) : r.contains r.center = true ↔ r.SumsFit :=
  contains_iff.trans (and_congr (half_sum_between_iff h.1) (half_sum_between_iff h.2))

end Rect

end CheckIn.Screen
