import Mathlib.Logic.ExistsUnique
import Skirmish.Proofs.Board.Views

/-!
# Every coordinate has a tile of its own

A board finds its tiles by index, row after row. **The law** (`Board.addresses_exact`) is that the index
addresses: the contained coordinates and the numbers below the area correspond one to one, in the order
of the rows and in a row from the left. So each contained coordinate has a tile of its own, and whatever
is written at other coordinates, what is read at one is what was written there.

The way back from an index is a division by the width (`Size.coordsOf`). It ends at a coordinate only
when no row and no column lies beyond the greatest component, so the extents are at most 2^31. Every
product and every sum on the way to an index then has room in a 64-bit word: computed with operations that
refuse to leave the words, area and index are the same (`Size.area?`, `Size.address?`).

**What it does not establish.** With greater extents indices are still apart, but those of the tiles that
no coordinate names are never used.
-/

namespace Skirmish

/-- The 64-bit word of a number, when it has one. -/
def word? (n : Nat) : Option UInt64 := if n < 18446744073709551616 then some (.ofNat n) else none

namespace Size

/-- The area, when the product does not leave the 64-bit words. -/
def area? (s : Size) : Option UInt64 := do
  let width ← word? s.width
  let height ← word? s.height
  word? (width.toNat * height.toNat)

/-- The row-major index of a contained coordinate, when no operation on the way leaves the 64-bit words. -/
def address? (s : Size) (c : Coords) : Option UInt64 := do
  let width ← word? s.width
  let column ← word? c.x.toInt.toNat
  let row ← word? c.y.toInt.toNat
  let start ← word? (row.toNat * width.toNat)
  word? (start.toNat + column.toNat)

/-- The coordinate of an index. -/
def coordsOf (s : Size) (i : Nat) : Coords := .clamp (i % s.width : Nat) (i / s.width : Nat)

end Size

/-- What is written at a coordinate: a change of the tile there. -/
structure Board.Write where
  spot : Coords
  change : Tile → Tile

/-- The board after one thing was written after the other. -/
def Board.overwrite (b : Board) (writes : List Write) : Board :=
  writes.foldl (fun b w => b.updateTile w.spot w.change) b

/-- What becomes of a tile by what is written at its coordinate. -/
def Tile.overwritten (t : Tile) (spot : Coords) (writes : List Board.Write) : Tile :=
  (writes.filter fun w => w.spot = spot).foldl (fun t w => w.change t) t

/-! ## Indices -/

namespace Size

variable {s : Size} {c d : Coords} {i j : Nat}

/-- Numbers in rows of one width are ordered by the row, and in a row by the column. -/
private theorem row_lt_row {w x y x' y' : Nat} (hx : x < w) (hx' : x' < w) :
    y * w + x < y' * w + x' ↔ y < y' ∨ y = y' ∧ x < x' := by
  rcases Nat.lt_trichotomy y y' with above | same | below
  · have rows := Nat.mul_le_mul_right w (Nat.succ_le_of_lt above)
    rw [Nat.succ_mul] at rows
    omega
  · subst same
    omega
  · have rows := Nat.mul_le_mul_right w (Nat.succ_le_of_lt below)
    rw [Nat.succ_mul] at rows
    omega

/-- **Indices are in the order of the rows**, and in a row from the left. -/
theorem index_lt_iff (hc : s.index c = some i) (hd : s.index d = some j) :
    i < j ↔ c.y < d.y ∨ c.y = d.y ∧ c.x < d.x := by
  obtain ⟨⟨cx, cx', cy, cy'⟩, rfl⟩ := index_eq_some.mp hc
  obtain ⟨⟨dx, dx', dy, dy'⟩, rfl⟩ := index_eq_some.mp hd
  rw [row_lt_row (by omega) (by omega), Int32.lt_iff_toInt_lt, Int32.lt_iff_toInt_lt, ← Int32.toInt_inj]
  omega

/-- A column and a row of the board make a coordinate, when neither lies beyond the greatest component. -/
theorem index_clamp (wide : s.width ≤ 2147483648) (tall : s.height ≤ 2147483648) {x y : Nat}
    (column : x < s.width) (row : y < s.height) : s.index (.clamp x y) = some (y * s.width + x) := by
  obtain ⟨hx, hy⟩ := Coords.clamp_of_fits (x := x) (y := y)
    (by simp only [Coords.Fits, Coords.least, Coords.greatest]; omega)
  rw [index_eq_some, Contains, hx, hy]
  simp [column, row]

/-- **An index below the area has a coordinate**, which is found by a division. -/
theorem index_coordsOf (wide : s.width ≤ 2147483648) (tall : s.height ≤ 2147483648) (inside : i < s.area) :
    s.index (s.coordsOf i) = some i := by
  have columns : 0 < s.width := Nat.pos_of_mul_pos_right (Nat.zero_lt_of_lt inside)
  rw [coordsOf, index_clamp wide tall (Nat.mod_lt i columns) (Nat.div_lt_of_lt_mul inside), Nat.mul_comm,
    Nat.div_add_mod]

/-! ## Room for the computation -/

/-- A number below 2^64 has a word. -/
theorem exists_word {n : Nat} (room : n < 18446744073709551616) : ∃ word, word? n = some word ∧ word.toNat = n :=
  ⟨.ofNat n, if_pos room, UInt64.toNat_ofNat_of_lt' room⟩

theorem exists_area (wide : s.width ≤ 2147483648) (tall : s.height ≤ 2147483648) :
    ∃ word, s.area? = some word ∧ word.toNat = s.area := by
  have room := Nat.mul_le_mul wide tall
  obtain ⟨width, hw, same⟩ := exists_word (n := s.width) (by omega)
  obtain ⟨height, hh, same'⟩ := exists_word (n := s.height) (by omega)
  simp only [area?, hw, hh, Option.bind_eq_bind, Option.bind_some, same, same']
  exact exists_word (by omega)

/-- **The way to an index has room**: the start of a row and the place in it fit in a word. -/
theorem exists_address (wide : s.width ≤ 2147483648) (tall : s.height ≤ 2147483648) (hc : s.index c = some i) :
    ∃ word, s.address? c = some word ∧ word.toNat = i := by
  have room := Nat.mul_le_mul wide tall
  have below : i < s.width * s.height := index_lt_area hc
  obtain ⟨⟨x0, x1, y0, y1⟩, rfl⟩ := index_eq_some.mp hc
  obtain ⟨width, hw, same⟩ := exists_word (n := s.width) (by omega)
  obtain ⟨column, hx, sameColumn⟩ := exists_word (n := c.x.toInt.toNat) (by omega)
  obtain ⟨row, hy, sameRow⟩ := exists_word (n := c.y.toInt.toNat) (by omega)
  obtain ⟨start, hs, sameStart⟩ := exists_word (n := c.y.toInt.toNat * s.width) (by omega)
  simp only [address?, hw, hx, hy, hs, Option.bind_eq_bind, Option.bind_some, same, sameColumn, sameRow, sameStart]
  exact exists_word (by omega)

end Size

/-! ## Writes -/

namespace Board

variable {b : Board} {cell : Coords} {kind : TileType} {i : Nat}

theorem size_overwrite (writes : List Write) : (b.overwrite writes).size = b.size := by
  induction writes generalizing b with
  | nil => rfl
  | cons w writes ih => exact (ih (b := b.updateTile w.spot w.change)).trans (size_updateTile w.change)

/-- **What is read at a coordinate is what was written there**, one change after the other. The induction
is on the writes: the first changes the tile when it is made at the coordinate, and else leaves it alone. -/
theorem tile?_overwrite (writes : List Write) :
    (b.overwrite writes).tile? cell = (b.tile? cell).map (·.overwritten cell writes) := by
  induction writes generalizing b with
  | nil => exact Option.map_id'.symm
  | cons w writes ih =>
    have first : (b.overwrite (w :: writes)).tile? cell =
        ((b.updateTile w.spot w.change).tile? cell).map (·.overwritten cell writes) := ih
    rw [first, tile?_updateTile]
    by_cases here : cell = w.spot
    · simp [Tile.overwritten, here, Function.comp_def]
    · simp [Tile.overwritten, here, Ne.symm here]

/-- The tile at a coordinate is the one at its index. -/
theorem tile?_of_index (place : b.size.index cell = some i) : b.tile? cell = b.tiles[i]? := by
  rw [tile?, place, Option.bind_some]

theorem tile?_blank_of_index {size : Size} (place : size.index cell = some i) :
    (blank size kind).tile? cell = some (.vacant kind) := by
  have inside := Size.index_lt_area place
  simp [tile?, blank, place, inside]

/-- **Every coordinate has a tile of its own.** The index takes the contained coordinates one to one to the
numbers below the area, in the order of the rows, and takes no other coordinate anywhere; in 64-bit words
area and index are the same. On a board that was blank, whatever was written since, a contained coordinate
has the tile at its index, with what was written at this coordinate and at no other; and only a coordinate
that is not contained has no type. -/
theorem addresses_exact {s : Size} (wide : s.width ≤ 2147483648) (tall : s.height ≤ 2147483648) :
    (∀ c, ¬ s.Contains c → s.index c = none) ∧
    (∀ c, s.Contains c → ∃ i < s.area, s.index c = some i) ∧
    (∀ i < s.area, ∃! c, s.index c = some i) ∧
    (∀ c d i j, s.index c = some i → s.index d = some j → (i < j ↔ c.y < d.y ∨ c.y = d.y ∧ c.x < d.x)) ∧
    (∃ word, s.area? = some word ∧ word.toNat = s.area) ∧
    (∀ c i, s.index c = some i → ∃ word, s.address? c = some word ∧ word.toNat = i) ∧
    ∀ (kind : TileType) (writes : List Write),
      let b := (blank s kind).overwrite writes
      b.tiles.size = s.area ∧
      (∀ c i, s.index c = some i → b.tile? c = b.tiles[i]? ∧
        b.tile? c = some ((Tile.vacant kind).overwritten c writes)) ∧
      (∀ c d change, c ≠ d → (b.updateTile c change).tile? d = b.tile? d) ∧
      ∀ c, b.kindAt? c = none ↔ ¬ s.Contains c := by
  refine ⟨fun c => Size.index_eq_none.mpr, ?_, ?_, fun c d i j => Size.index_lt_iff,
    Size.exists_area wide tall, fun c i => Size.exists_address wide tall, ?_⟩
  · intro c inside
    have place := Size.index_eq_some.mpr ⟨inside, rfl⟩
    exact ⟨_, Size.index_lt_area place, place⟩
  · intro i inside
    exact ⟨s.coordsOf i, Size.index_coordsOf wide tall inside, fun c place =>
      Size.index_inj place (Size.index_coordsOf wide tall inside)⟩
  · intro kind writes b
    have size : b.size = s := size_overwrite writes
    refine ⟨by rw [b.tiles_size, size], ?_, ?_, ?_⟩
    · intro c i place
      refine ⟨tile?_of_index (by rw [size, place]), ?_⟩
      rw [tile?_overwrite, tile?_blank_of_index place, Option.map_some]
    · intro c d change apart
      rw [tile?_updateTile, if_neg (Ne.symm apart)]
    · intro c
      rw [kindAt?, Option.map_eq_none_iff, tile?_eq_none, size]

/-- On a board as wide as can be, the last tile of a row and the first of the next are told apart. -/
theorem addresses_exact_strip :
    let s : Size := ⟨2147483648, 3⟩
    let flood : Write := ⟨⟨2147483647, 1⟩, fun t => { t with kind := .plain "water" }⟩
    let b := (blank s (.plain "sand")).overwrite [flood]
    s.width ≤ 2147483648 ∧ s.height ≤ 2147483648 ∧
      s.index ⟨2147483647, 1⟩ = some 4294967295 ∧ s.index ⟨0, 2⟩ = some 4294967296 ∧
      (∃! c, s.index c = some 4294967296) ∧
      b.tile? ⟨2147483647, 1⟩ = some (.vacant (.plain "water")) ∧
      b.tile? ⟨0, 2⟩ = some (.vacant (.plain "sand")) ∧ b.kindAt? ⟨0, 3⟩ = none := by
  intro s flood b
  have wide : s.width ≤ 2147483648 := by decide
  have tall : s.height ≤ 2147483648 := by decide
  have last : s.index ⟨2147483647, 1⟩ = some 4294967295 := by decide
  have next : s.index ⟨0, 2⟩ = some 4294967296 := by decide
  obtain ⟨-, -, one, -, -, -, boards⟩ := addresses_exact wide tall
  obtain ⟨-, reads, -, types⟩ := boards (.plain "sand") [flood]
  exact ⟨wide, tall, last, next, one _ (by decide), (reads _ _ last).2, (reads _ _ next).2,
    (types _).mpr (by decide)⟩

end Board

end Skirmish
