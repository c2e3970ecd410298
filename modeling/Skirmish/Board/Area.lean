import Skirmish.Board

/-!
# Who stands in an area

The area around a coordinate is a square clipped to the board. It is scanned row by row, each row
from the left, and those who stand on one tile come in the order of arrival.

A radius is a distance between components, so it counts at most as the greatest component; an extent
beyond the greatest component counts as that component too.
-/

namespace Skirmish

/-- The integers from the first to the last, both included; none when the last lies below. -/
def span (first last : Int) : List Int :=
  (List.range (last - first + 1).toNat).map (fun k : Nat => first + (k : Int))

theorem mem_span {first last n : Int} : n ∈ span first last ↔ first ≤ n ∧ n ≤ last := by
  simp only [span, List.mem_map, List.mem_range]
  constructor
  · rintro ⟨k, hk, rfl⟩
    omega
  · intro h
    exact ⟨(n - first).toNat, by omega, by omega⟩

namespace Board

/-- The components of one axis that lie within a radius of a centre and on the board. -/
def reach (extent : Nat) (centre : Int) (radius : Nat) : List Int :=
  let radius := min (radius : Int) Coords.greatest
  let extent := min (extent : Int) Coords.greatest
  span (max 0 (centre - radius)) (min (centre + radius) (extent - 1))

/-- **Those within a radius of a centre**, in scanning order. A board without tiles is not scanned. Nobody
stands on it, so this changes no answer; it spares the rows of a board that is high and has no width. -/
def within (b : Board) (centre : Coords) (radius : Nat) : List EntityId :=
  if b.size.area = 0 then []
  else (reach b.size.height centre.y.toInt radius).flatMap fun y =>
    (reach b.size.width centre.x.toInt radius).flatMap fun x => b.occupantsAt (.clamp x y)

end Board

end Skirmish
