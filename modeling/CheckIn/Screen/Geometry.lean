/-! Points and rectangles of the screen, in pixels. Coordinates are words of 32 bits. -/

namespace CheckIn.Screen

/-- The number is one of 32 bits. -/
def Fits (n : Int) : Prop := -2147483648 ≤ n ∧ n < 2147483648

instance (n : Int) : Decidable (Fits n) := inferInstanceAs (Decidable (_ ∧ _))

structure Point where
  x : Int32
  y : Int32
  deriving DecidableEq

structure Size where
  width : Int32
  height : Int32
  deriving DecidableEq

structure Rect where
  left : Int32
  top : Int32
  right : Int32
  bottom : Int32
  deriving DecidableEq

namespace Rect

def zero : Rect := ⟨0, 0, 0, 0⟩

/-- The sums of opposite edges are numbers of 32 bits. -/
def SumsFit (r : Rect) : Prop :=
  Fits (r.left.toInt + r.right.toInt) ∧ Fits (r.top.toInt + r.bottom.toInt)

instance (r : Rect) : Decidable r.SumsFit := inferInstanceAs (Decidable (_ ∧ _))

/-- The middle, rounded toward zero, if the sums of opposite edges fit their words. -/
def center (r : Rect) : Point := ⟨(r.left + r.right) / 2, (r.top + r.bottom) / 2⟩

/-- The edges belong to the rectangle. -/
def contains (r : Rect) (p : Point) : Bool :=
  r.left ≤ p.x && p.x ≤ r.right && r.top ≤ p.y && p.y ≤ r.bottom

def isEmpty (r : Rect) : Bool := r.right ≤ r.left || r.bottom ≤ r.top

end Rect

end CheckIn.Screen
