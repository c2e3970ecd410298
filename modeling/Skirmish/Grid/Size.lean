import Skirmish.Grid.Coords

/-!
# The extent of a board

A size is a width and a height in tiles. A coordinate lies inside when both components are at least
zero and below their extent, and then it has an **index**: rows from the top, and inside a row from
the left. A board keeps its tiles at these indices: the index of a contained coordinate is below the
area (`index_lt_area`), and no two coordinates share one (`index_inj`).
-/

namespace Skirmish

/-- A width and a height, in tiles. -/
structure Size where
  width : Nat
  height : Nat
  deriving DecidableEq, Repr, Inhabited

namespace Size

/-- The number of tiles. -/
def area (s : Size) : Nat := s.width * s.height

/-- Whether a coordinate lies inside the extent. -/
def Contains (s : Size) (c : Coords) : Prop :=
  0 ≤ c.x.toInt ∧ c.x.toInt < s.width ∧ 0 ≤ c.y.toInt ∧ c.y.toInt < s.height

instance (s : Size) (c : Coords) : Decidable (s.Contains c) :=
  inferInstanceAs (Decidable (_ ∧ _ ∧ _ ∧ _))

/-- The row-major index of a contained coordinate. -/
def index (s : Size) (c : Coords) : Option Nat :=
  if s.Contains c then some (c.y.toInt.toNat * s.width + c.x.toInt.toNat) else none

/-- A size as text: `WxH`. -/
def text (s : Size) : String := toString s.width ++ "x" ++ toString s.height

theorem index_eq_none {s : Size} {c : Coords} : s.index c = none ↔ ¬ s.Contains c := by
  simp [index]

theorem index_eq_some {s : Size} {c : Coords} {i : Nat} :
    s.index c = some i ↔ s.Contains c ∧ c.y.toInt.toNat * s.width + c.x.toInt.toNat = i := by
  simp [index]

/-- The index of a contained coordinate is below the area. -/
theorem index_lt_area {s : Size} {c : Coords} {i : Nat} (h : s.index c = some i) : i < s.area := by
  obtain ⟨⟨h1, h2, h3, h4⟩, rfl⟩ := index_eq_some.mp h
  have hy : c.y.toInt.toNat + 1 ≤ s.height := by omega
  have hx : c.x.toInt.toNat < s.width := by omega
  have := Nat.mul_le_mul_right s.width hy
  rw [area, Nat.mul_comm s.width]
  rw [Nat.add_mul] at this
  omega

/-- A number below the width does not disturb the row that it is added to. -/
private theorem column_row {w x y : Nat} (h : x < w) : (y * w + x) % w = x ∧ (y * w + x) / w = y := by
  rw [Nat.add_comm]
  have wide : 0 < w := Nat.lt_of_le_of_lt (Nat.zero_le _) h
  exact ⟨by rw [Nat.add_mul_mod_self_right, Nat.mod_eq_of_lt h],
    by rw [Nat.add_mul_div_right _ _ wide, Nat.div_eq_of_lt h, Nat.zero_add]⟩

/-- Coordinates of the same index are the same. -/
theorem index_inj {s : Size} {c d : Coords} {i : Nat} (hc : s.index c = some i)
    (hd : s.index d = some i) : c = d := by
  obtain ⟨⟨cx, cx', cy, cy'⟩, rfl⟩ := index_eq_some.mp hc
  obtain ⟨⟨dx, dx', dy, dy'⟩, same⟩ := index_eq_some.mp hd
  obtain ⟨ccol, crow⟩ := column_row (y := c.y.toInt.toNat) (show c.x.toInt.toNat < s.width by omega)
  obtain ⟨dcol, drow⟩ := column_row (y := d.y.toInt.toNat) (show d.x.toInt.toNat < s.width by omega)
  have col : c.x.toInt.toNat = d.x.toInt.toNat := by rw [← ccol, ← same, dcol]
  have row : c.y.toInt.toNat = d.y.toInt.toNat := by rw [← crow, ← same, drow]
  exact Coords.ext_toInt (by omega) (by omega)

end Size

end Skirmish
