import Mathlib.Data.List.Sort
import Skirmish.Board.Area
import Skirmish.Proofs.Board.Occupancy

/-!
# Who stands near a coordinate

A scan for those near a centre goes over a rectangle of tiles. **The laws** speak of it without the
rectangle. Who is found are those whose distance from the centre is at most the radius (`run_within`).
They are listed in the order of the rows, in a row from the left, and on a tile as they have come, so
nobody is listed twice; and a smaller radius lists a part of what a greater one lists, in the same order
(`run_within_sorted`).

The order is a property of the board and not of the rectangle (`Board.Before`). This is why the scans of
two radii agree on it: their lists are in the same strict order, and then it is enough that whoever is
found within the smaller radius is found within the greater.

**Where the scan falls short.** The radius counts at most as the greatest component, though two
coordinates can be further apart than that, so from a far centre a wider radius finds nobody
(`within_misses_far_centre`). Nor is the row or the column of the greatest component ever scanned. The
law names both limits.
-/

namespace Skirmish

theorem sorted_span (first last : Int) : (span first last).Pairwise (· < ·) := by
  refine List.pairwise_map.mpr (List.pairwise_lt_range.imp ?_)
  intro i j less
  exact Int.add_lt_add_left (Int.ofNat_lt.mpr less) first

namespace Coords

theorem clamp_toInt (c : Coords) : clamp c.x.toInt c.y.toInt = c := by
  obtain ⟨x, y⟩ := clamp_of_fits ⟨least_le c.x, le_greatest c.x, least_le c.y, le_greatest c.y⟩
  exact ext_toInt x y

end Coords

namespace Board

variable {b : Board} {centre spot : Coords} {radius radius' extent : Nat} {id other : EntityId}

/-! ## One axis -/

theorem sorted_reach (extent : Nat) (centre : Int) (radius : Nat) :
    (reach extent centre radius).Pairwise (· < ·) :=
  sorted_span ..

/-- A component is scanned when it is on the board, below the greatest one, and near. -/
theorem mem_reach {centre n : Int} : n ∈ reach extent centre radius ↔ 0 ≤ n ∧ n < extent ∧
    n < Coords.greatest ∧ ((centre - n).natAbs : Int) ≤ min (radius : Int) Coords.greatest := by
  rw [reach, mem_span]
  omega

/-- A scanned component is a component of a coordinate. -/
theorem fits_of_mem_reach {width height : Nat} {cx cy x y : Int} (column : x ∈ reach width cx radius)
    (row : y ∈ reach height cy radius) : Coords.Fits x y := by
  obtain ⟨x0, -, x1, -⟩ := mem_reach.mp column
  obtain ⟨y0, -, y1, -⟩ := mem_reach.mp row
  have least : Coords.least ≤ 0 := by decide
  exact ⟨Int.le_trans least x0, Int.le_of_lt x1, Int.le_trans least y0, Int.le_of_lt y1⟩

/-! ## The rectangle -/

/-- Whether a coordinate is near a centre and below the greatest component in both axes. -/
def Near (centre : Coords) (radius : Nat) (spot : Coords) : Prop :=
  (centre.distance spot : Int) ≤ min (radius : Int) Coords.greatest ∧
    spot.x.toInt < Coords.greatest ∧ spot.y.toInt < Coords.greatest

/-- Of the coordinates of a board those that are near are scanned. -/
theorem near_iff (inside : b.size.Contains spot) : Near centre radius spot ↔
    spot.x.toInt ∈ reach b.size.width centre.x.toInt radius ∧
      spot.y.toInt ∈ reach b.size.height centre.y.toInt radius := by
  obtain ⟨x0, x1, y0, y1⟩ := inside
  rw [mem_reach, mem_reach, Near, Coords.distance]
  omega

/-- **Who is found** stands on a tile that is near. -/
theorem mem_within : id ∈ b.within centre radius ↔
    ∃ spot, id ∈ b.occupantsAt spot ∧ Near centre radius spot := by
  constructor
  · intro found
    unfold within at found
    split at found
    · cases found
    · obtain ⟨y, row, inRow⟩ := List.mem_flatMap.mp found
      obtain ⟨x, column, listed⟩ := List.mem_flatMap.mp inRow
      obtain ⟨t, tile, -⟩ := mem_occupantsAt.mp listed
      obtain ⟨hx, hy⟩ := Coords.clamp_of_fits (fits_of_mem_reach column row)
      refine ⟨.clamp x y, listed, (near_iff (contains_of_tile? tile)).mpr ?_⟩
      rw [hx, hy]
      exact ⟨column, row⟩
  · rintro ⟨spot, listed, near⟩
    obtain ⟨t, tile, -⟩ := mem_occupantsAt.mp listed
    have inside := contains_of_tile? tile
    obtain ⟨column, row⟩ := (near_iff inside).mp near
    have area : b.size.area ≠ 0 := by
      obtain ⟨i, place, -⟩ := Option.bind_eq_some_iff.mp tile
      exact Nat.ne_of_gt (Nat.zero_lt_of_lt (Size.index_lt_area place))
    rw [within, if_neg area]
    refine List.mem_flatMap.mpr ⟨_, row, List.mem_flatMap.mpr ⟨_, column, ?_⟩⟩
    rw [Coords.clamp_toInt]
    exact listed

namespace Coherent

theorem mem_within (h : b.Coherent) : id ∈ b.within centre radius ↔
    ∃ spot, b.coords? id = some spot ∧ Near centre radius spot := by
  simp only [Board.mem_within, h.listed_iff]

end Coherent

/-! ## The order of the scan -/

/-- **Whether an entity is scanned before another**: it stands in a row above, or in the same row further
to the left, or it came before the other to the same tile. -/
def Before (b : Board) (id other : EntityId) : Prop :=
  ∃ spot spot', b.coords? id = some spot ∧ b.coords? other = some spot' ∧
    (spot.y.toInt < spot'.y.toInt ∨ spot.y.toInt = spot'.y.toInt ∧
      (spot.x.toInt < spot'.x.toInt ∨ spot.x.toInt = spot'.x.toInt ∧
        (b.occupantsAt spot).idxOf id < (b.occupantsAt spot').idxOf other))

theorem Before.asymm (before : b.Before id other) : ¬ b.Before other id := by
  obtain ⟨spot, spot', placed, placed', order⟩ := before
  rintro ⟨_, _, also', also, reverse⟩
  obtain rfl := Option.some.inj (placed.symm.trans also)
  obtain rfl := Option.some.inj (placed'.symm.trans also')
  omega

theorem Before.ne (before : b.Before id other) : id ≠ other := by
  rintro rfl
  exact before.asymm before

instance antisymm_before (b : Board) : Std.Antisymm b.Before where
  antisymm _ _ before after := absurd after before.asymm

namespace Coherent

variable (h : b.Coherent)
include h

/-- On one tile the order is that of arrival. -/
theorem sorted_occupantsAt (spot : Coords) : (b.occupantsAt spot).Pairwise b.Before := by
  refine List.pairwise_iff_getElem.mpr fun i j hi hj less => ?_
  have here : ∀ {k : Nat} (hk : k < (b.occupantsAt spot).length),
      b.coords? (b.occupantsAt spot)[k] = some spot :=
    fun hk => h.listed_iff.mp (List.getElem_mem hk)
  refine ⟨spot, spot, here hi, here hj, .inr ⟨rfl, .inr ⟨rfl, ?_⟩⟩⟩
  have once := h.nodup_occupantsAt spot
  rw [once.idxOf_getElem i hi, once.idxOf_getElem j hj]
  exact less

/-- Whoever is listed on a scanned tile is placed at its components. -/
theorem placed_of_scanned {x y : Int} (fits : Coords.Fits x y) (listed : id ∈ b.occupantsAt (.clamp x y)) :
    ∃ spot, b.coords? id = some spot ∧ spot.x.toInt = x ∧ spot.y.toInt = y :=
  ⟨_, h.listed_iff.mp listed, Coords.clamp_of_fits fits⟩

/-- **The scan lists in strict order**: on a tile, along a row, and from row to row. -/
theorem sorted_within (centre : Coords) (radius : Nat) : (b.within centre radius).Pairwise b.Before := by
  unfold within
  split
  · exact .nil
  · refine List.pairwise_flatMap.mpr ⟨fun y row => ?_, ?_⟩
    · refine List.pairwise_flatMap.mpr ⟨fun x _ => h.sorted_occupantsAt _, ?_⟩
      refine (sorted_reach ..).imp_of_mem fun {x x'} column column' left id listed other listed' => ?_
      obtain ⟨spot, placed, atX, atY⟩ := h.placed_of_scanned (fits_of_mem_reach column row) listed
      obtain ⟨spot', placed', atX', atY'⟩ := h.placed_of_scanned (fits_of_mem_reach column' row) listed'
      exact ⟨spot, spot', placed, placed', by omega⟩
    · refine (sorted_reach ..).imp_of_mem fun {y y'} row row' above id found other found' => ?_
      obtain ⟨x, column, listed⟩ := List.mem_flatMap.mp found
      obtain ⟨x', column', listed'⟩ := List.mem_flatMap.mp found'
      obtain ⟨spot, placed, -, atY⟩ := h.placed_of_scanned (fits_of_mem_reach column row) listed
      obtain ⟨spot', placed', -, atY'⟩ := h.placed_of_scanned (fits_of_mem_reach column' row') listed'
      exact ⟨spot, spot', placed, placed', .inl (by omega)⟩

/-- **Nobody is found twice.** -/
theorem nodup_within (centre : Coords) (radius : Nat) : (b.within centre radius).Nodup :=
  (h.sorted_within centre radius).imp Before.ne

/-- A greater radius finds whoever a smaller one finds, in the same order. -/
theorem within_sublist (centre : Coords) (le : radius ≤ radius') :
    (b.within centre radius).Sublist (b.within centre radius') := by
  have found : b.within centre radius ⊆ b.within centre radius' := by
    intro id near
    obtain ⟨spot, placed, distance, inside⟩ := h.mem_within.mp near
    exact h.mem_within.mpr ⟨spot, placed, by omega, inside⟩
  exact List.sublist_of_subperm_of_pairwise (List.subperm_of_subset (h.nodup_within centre radius) found)
    (h.sorted_within centre radius) (h.sorted_within centre radius')

end Coherent

/-- **Who is within a radius.** After any changes of a blank board, from any centre and for any radius:
whoever is placed at a distance of at most the radius is found and nobody else is, as long as the radius
and the coordinates stay inside the range of components. -/
theorem run_within (size : Size) (kind : TileType) (changes : List Change) (centre : Coords) (radius : Nat)
    (id : EntityId) : id ∈ ((blank size kind).run changes).within centre radius ↔
      ∃ spot, ((blank size kind).run changes).coords? id = some spot ∧
        (centre.distance spot : Int) ≤ min (radius : Int) Coords.greatest ∧
        spot.x.toInt < Coords.greatest ∧ spot.y.toInt < Coords.greatest :=
  ((coherent_blank size kind).run changes).mem_within

/-- **A far centre.** Between the least component and the origin lie more units than the greatest
component, and a radius of as many does not find who stands there. -/
theorem within_misses_far_centre :
    ¬ ∀ (size : Size) (kind : TileType) (changes : List Change) (centre : Coords) (radius : Nat)
      (id : EntityId), radius < 4294967296 → (id ∈ ((blank size kind).run changes).within centre radius ↔
        ∃ spot, ((blank size kind).run changes).coords? id = some spot ∧ centre.distance spot ≤ radius) := by
  intro claimed
  have found := (claimed ⟨1, 1⟩ (.plain "floor") [.add ⟨⟨0⟩, .ground⟩ .zero] ⟨-2147483648, 0⟩ 2147483648 ⟨0⟩
    (by decide)).mpr ⟨.zero, by decide +kernel, by decide +kernel⟩
  exact absurd found (by decide +kernel)

/-- **The order of those who are found.** After any changes of a blank board, from any centre: for each
radius those who stand near are listed, nobody is listed twice, and whoever is listed before another stands in
a row above, or further to the left, or has come to the same tile before it; and a smaller radius lists a part
of what a greater one lists, in the same order. -/
theorem run_within_sorted (size : Size) (kind : TileType) (changes : List Change) (centre : Coords) :
    let b := (blank size kind).run changes
    (∀ radius, (∀ id, id ∈ b.within centre radius ↔
        ∃ spot, b.coords? id = some spot ∧ Near centre radius spot) ∧
      (b.within centre radius).Nodup ∧ (b.within centre radius).Pairwise b.Before) ∧
    ∀ radius radius', radius ≤ radius' →
      (b.within centre radius).Sublist (b.within centre radius') := by
  intro b
  have h : b.Coherent := (coherent_blank size kind).run changes
  refine ⟨fun radius => ⟨fun id => h.mem_within, h.nodup_within centre radius, ?_⟩, ?_⟩
  · exact h.sorted_within centre radius
  · exact fun _ _ le => h.within_sublist centre le

namespace Sample

/-- Entities come to three tiles of two rows in an order that is not that of the scan. The ghost `1` shares a
tile with `2`, who was there first. -/
def gathering : List Change :=
  [.add ⟨⟨3⟩, .ground⟩ ⟨1, 1⟩, .add ⟨⟨2⟩, .ground⟩ ⟨2, 0⟩, .add ⟨⟨1⟩, .empty⟩ ⟨2, 0⟩,
    .add ⟨⟨0⟩, .ground⟩ ⟨0, 1⟩]

end Sample

/-- A greater radius finds those of the row above too, and lists them first. -/
theorem run_within_sorted_gathering :
    let b := (blank ⟨3, 2⟩ (.plain "meadow")).run Sample.gathering
    b.within ⟨1, 2⟩ 1 = [⟨0⟩, ⟨3⟩] ∧ b.within ⟨1, 2⟩ 2 = [⟨2⟩, ⟨1⟩, ⟨0⟩, ⟨3⟩] ∧
      (b.within ⟨1, 2⟩ 1).Sublist (b.within ⟨1, 2⟩ 2) := by
  intro b
  exact ⟨by decide +kernel, by decide +kernel,
    (run_within_sorted ⟨3, 2⟩ (.plain "meadow") Sample.gathering ⟨1, 2⟩).2 1 2 (by decide)⟩

end Board

end Skirmish
