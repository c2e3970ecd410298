/-!
# Coordinates of the grid

A coordinate is a pair of 32-bit signed components, in tile units. The same pair serves as a
displacement: relative movement adds one to the other. Arithmetic **saturates**: a sum that leaves
the range of a component stays at the end that it passed, so no coordinate wraps to the far side.

**The laws** here read the operations in the unbounded integers: a component of a sum is the integer
sum brought into the range (`add_x`, `add_y`), and a pair of integers inside the range is the
coordinate that it names (`clamp_of_fits`).
-/

namespace Skirmish

/-- A point of the grid, or a displacement between two points. -/
structure Coords where
  x : Int32
  y : Int32
  deriving DecidableEq, Repr, Inhabited

namespace Coords

/-- The least value of a component. -/
def least : Int := -2147483648

/-- The greatest value of a component. -/
def greatest : Int := 2147483647

/-- The coordinate nearest to a pair of integers: each component is brought into the range. -/
def clamp (x y : Int) : Coords := ⟨.ofIntClamp x, .ofIntClamp y⟩

/-- Whether a pair of integers names a coordinate as it stands. -/
def Fits (x y : Int) : Prop := least ≤ x ∧ x ≤ greatest ∧ least ≤ y ∧ y ≤ greatest

instance : Add Coords := ⟨fun a b => clamp (a.x.toInt + b.x.toInt) (a.y.toInt + b.y.toInt)⟩

instance : Sub Coords := ⟨fun a b => clamp (a.x.toInt - b.x.toInt) (a.y.toInt - b.y.toInt)⟩

instance : Neg Coords := ⟨fun a => clamp (-a.x.toInt) (-a.y.toInt)⟩

/-- The origin, and the neutral displacement. -/
def zero : Coords := ⟨0, 0⟩

/-- One tile up: rows are counted downwards. -/
def up : Coords := ⟨0, -1⟩

/-- One tile to the right. -/
def right : Coords := ⟨1, 0⟩

/-- One tile down. -/
def down : Coords := ⟨0, 1⟩

/-- One tile to the left. -/
def left : Coords := ⟨-1, 0⟩

/-- The unit displacements, clockwise from `up`. -/
def directions : List Coords := [up, right, down, left]

/-- The four neighbours of a coordinate, clockwise from the one above it. -/
def neighbours (c : Coords) : List Coords := directions.map (c + ·)

/-- **Chebyshev distance**: a diagonal step costs as much as an orthogonal one. The difference of
two components is below 2^32, so the distance is exact. -/
def distance (a b : Coords) : Nat :=
  max (a.x.toInt - b.x.toInt).natAbs (a.y.toInt - b.y.toInt).natAbs

/-- Column order first, then row order. -/
instance : LT Coords := ⟨fun a b => a.x < b.x ∨ (a.x = b.x ∧ a.y < b.y)⟩

instance (a b : Coords) : Decidable (a < b) :=
  inferInstanceAs (Decidable (a.x < b.x ∨ (a.x = b.x ∧ a.y < b.y)))

/-- A coordinate as text: `(x, y)`. -/
def text (c : Coords) : String := "(" ++ toString c.x.toInt ++ ", " ++ toString c.y.toInt ++ ")"

/-! ## The operations in the integers -/

theorem least_le (n : Int32) : least ≤ n.toInt := Int32.le_toInt n

theorem le_greatest (n : Int32) : n.toInt ≤ greatest := Int.le_of_lt_add_one (Int32.toInt_lt n)

/-- Saturation in the integers: what lies below the range becomes its least value, what lies above
it the greatest, and all else stays. -/
theorem toInt_ofIntClamp (n : Int) : (Int32.ofIntClamp n).toInt = max least (min n greatest) := by
  unfold Int32.ofIntClamp
  split
  · next low =>
    split
    · next high =>
      rw [Int32.toInt_ofIntLE]
      have : least ≤ n := low
      have : n ≤ greatest := high
      simp only [least, greatest] at *
      omega
    · next high =>
      have : ¬ n ≤ greatest := high
      have : Int32.maxValue.toInt = greatest := rfl
      simp only [least, greatest] at *
      omega
  · next low =>
    have : ¬ least ≤ n := low
    have : Int32.minValue.toInt = least := rfl
    simp only [least, greatest] at *
    omega

theorem add_x (a b : Coords) : (a + b).x.toInt = max least (min (a.x.toInt + b.x.toInt) greatest) :=
  toInt_ofIntClamp _

theorem add_y (a b : Coords) : (a + b).y.toInt = max least (min (a.y.toInt + b.y.toInt) greatest) :=
  toInt_ofIntClamp _

/-- Two coordinates with the same components, read as integers, are the same. -/
theorem ext_toInt {a b : Coords} (hx : a.x.toInt = b.x.toInt) (hy : a.y.toInt = b.y.toInt) : a = b := by
  cases a
  cases b
  simp_all [Int32.toInt_inj]

/-- A pair of integers inside the range is the coordinate that it names. -/
theorem clamp_of_fits {x y : Int} (h : Fits x y) : (clamp x y).x.toInt = x ∧ (clamp x y).y.toInt = y := by
  obtain ⟨h1, h2, h3, h4⟩ := h
  constructor
  · exact (toInt_ofIntClamp x).trans (by omega)
  · exact (toInt_ofIntClamp y).trans (by omega)

end Coords

end Skirmish
