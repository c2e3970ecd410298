import Skirmish.Proofs.Game.Limits

/-!
# Moves by a displacement

A move by a displacement goes to the sum of where the mover stands and the displacement, and that sum
saturates. **The law** (`displacement_exact`) is that this is never seen. On a board whose sides are in the
range of components the move is the one to the sum in the unbounded integers, or is refused where that
sum is no coordinate of the board.

A sum that saturates ends at the least component or at the greatest. The least lies left of or above every
board; the greatest is a component of no board whose sides are in the range. So a saturated sum is never
inside (`Size.contains_add_iff`), and a sum that is inside has not saturated.

**What it does not establish.** On a board with a longer side the greatest component is inside, and a
displacement that is too great for the board lands there.
-/

namespace Skirmish

/-! ## Sums of coordinates -/

namespace Coords

variable {p q d : Coords}

/-- Whether a coordinate is the sum of two others in the unbounded integers. -/
def IsSum (q p d : Coords) : Prop :=
  q.x.toInt = p.x.toInt + d.x.toInt ∧ q.y.toInt = p.y.toInt + d.y.toInt

/-- A sum that is a coordinate does not saturate. -/
theorem IsSum.eq_add (sum : q.IsSum p d) : q = p + d := by
  have lowX := least_le q.x
  have highX := le_greatest q.x
  have lowY := least_le q.y
  have highY := le_greatest q.y
  obtain ⟨x, y⟩ := sum
  apply ext_toInt
  · rw [add_x]
    omega
  · rw [add_y]
    omega

end Coords

namespace Size

variable {s : Size} {p d : Coords}

/-- Whether a pair of integers lies inside an extent. -/
def Covers (s : Size) (x y : Int) : Prop := 0 ≤ x ∧ x < s.width ∧ 0 ≤ y ∧ y < s.height

/-- A saturated sum is inside an extent exactly when the sum in the unbounded integers is. -/
theorem contains_add_iff (width : s.width ≤ 2147483647) (height : s.height ≤ 2147483647) :
    s.Contains (p + d) ↔ s.Covers (p.x.toInt + d.x.toInt) (p.y.toInt + d.y.toInt) := by
  rw [Contains, Covers, Coords.add_x, Coords.add_y, Coords.least, Coords.greatest]
  omega

/-- A sum that is inside has not saturated. -/
theorem isSum_of_contains (width : s.width ≤ 2147483647) (height : s.height ≤ 2147483647)
    (inside : s.Contains (p + d)) : (p + d).IsSum p d := by
  obtain ⟨x0, x1, y0, y1⟩ := (contains_add_iff width height).mp inside
  rw [Coords.IsSum, Coords.add_x, Coords.add_y, Coords.least, Coords.greatest]
  omega

end Size

/-! ## Moves of an entity -/

namespace World

variable {w w' : World} {id : EntityId} {e : Entity} {home goal : Coords} {entry : Entry}

/-- A move by a displacement is a move to the sum. -/
theorem moveEntity_relative (placed : w.coords? id = some home) (d : Coords) :
    w.moveEntity id d true = w.moveEntity id (home + d) false := by
  unfold moveEntity
  rw [placed]
  cases w.entity? id <;> rfl

/-- A move to a coordinate of the board is made onto the mover's own tile, where nothing changes, and onto
a tile that takes it. -/
theorem moveEntity_eq_some (alive : w.entity? id = some e) (placed : w.coords? id = some home) :
    w.moveEntity id goal false = (some entry, w') ↔
      entry = .movement id home goal ∧ ∃ t, w.board.tile? goal = some t ∧
        (goal = home ∧ w' = w ∨ goal ≠ home ∧ t.checkAdd e.layers = .ok () ∧
          w' = w.withBoard (w.board.relocate e.occupant home goal)) := by
  have mover : w.board.coords? e.occupant.id = some home := by
    rw [show e.occupant.id = id from id_of_entity? alive]
    exact placed
  unfold moveEntity
  rw [placed, alive]
  dsimp only
  rw [if_neg Bool.false_ne_true]
  constructor
  · intro made
    split at made
    · cases made
    · next left board moved =>
      cases made
      obtain ⟨stood, t, tile, change⟩ := Board.move_eq_ok.mp moved
      obtain rfl : home = left := Option.some.inj (mover.symm.trans stood)
      refine ⟨rfl, t, tile, ?_⟩
      rcases change with ⟨same, rfl⟩ | ⟨apart, takes, rfl⟩
      · exact .inl ⟨same, rfl⟩
      · exact .inr ⟨apart, takes, rfl⟩
  · rintro ⟨rfl, t, tile, change⟩
    rcases change with ⟨same, rfl⟩ | ⟨apart, takes, rfl⟩
    · rw [Board.move_eq_ok.mpr ⟨mover, t, tile, .inl ⟨same, rfl⟩⟩]
    · rw [Board.move_eq_ok.mpr ⟨mover, t, tile, .inr ⟨apart, takes, rfl⟩⟩]
      rfl

/-- A move to a coordinate is made when the board has the coordinate, and its tile is the mover's own or takes
the mover. -/
theorem exists_moveEntity_iff (h : w.Coherent) (alive : w.entity? id = some e)
    (placed : w.coords? id = some home) :
    (∃ entry w', w.moveEntity id goal false = (some entry, w')) ↔
      w.board.size.Contains goal ∧
        (goal = home ∨ ∃ t, w.board.tile? goal = some t ∧ t.checkAdd e.layers = .ok ()) := by
  constructor
  · rintro ⟨entry, w', made⟩
    obtain ⟨-, t, tile, change⟩ := (moveEntity_eq_some alive placed).mp made
    refine ⟨Board.contains_of_tile? tile, ?_⟩
    rcases change with ⟨same, -⟩ | ⟨-, takes, -⟩
    · exact .inl same
    · exact .inr ⟨t, tile, takes⟩
  · rintro ⟨-, room⟩
    by_cases same : goal = home
    · obtain ⟨t, tile, -⟩ := h.board.tile_of_coords placed
      exact ⟨_, _, (moveEntity_eq_some alive placed).mpr ⟨rfl, t, same.symm ▸ tile, .inl ⟨same, rfl⟩⟩⟩
    · obtain ⟨t, tile, takes⟩ := room.resolve_left same
      exact ⟨_, _, (moveEntity_eq_some alive placed).mpr ⟨rfl, t, tile, .inr ⟨same, takes, rfl⟩⟩⟩

/-- Whoever has moved stands at the goal. -/
theorem coords?_of_moved (alive : w.entity? id = some e) (placed : w.coords? id = some home)
    (made : w.moveEntity id goal false = (some entry, w')) : w'.coords? id = some goal := by
  obtain ⟨-, t, -, ⟨rfl, rfl⟩ | ⟨-, -, rfl⟩⟩ := (moveEntity_eq_some alive placed).mp made
  · exact placed
  · exact Board.coords?_relocate.trans (if_pos (id_of_entity? alive))

end World

namespace Game

variable {a : Arena} {id : EntityId} {e : Entity} {p : Coords}

/-- **Moves by a displacement are exact.** In an arena that arises in play, on a board whose sides are in the
range of components, let a registered entity stand at `p` and be moved by any displacement. It moves exactly
when the sum in the unbounded integers is `p` itself or a coordinate of the board whose tile takes the
entity, and then it stands at that sum and the entry tells both ends. A sum that is a coordinate is reached
in the same way as by a move to it. A move that is refused changes nothing. And no displacement that leads
out of the board saturates into it. -/
theorem displacement_exact (arises : a.Arises) (width : a.world.board.size.width ≤ 2147483647)
    (height : a.world.board.size.height ≤ 2147483647) (alive : a.world.entity? id = some e)
    (placed : a.world.coords? id = some p) (d : Coords) :
    let w := a.world
    ((∃ entry w', w.moveEntity id d true = (some entry, w')) ↔
      ∃ q : Coords, q.IsSum p d ∧ w.board.size.Contains q ∧
        (q = p ∨ ∃ t, w.board.tile? q = some t ∧ t.checkAdd e.layers = .ok ())) ∧
    (∀ entry w', w.moveEntity id d true = (some entry, w') →
      ∃ q : Coords, q.IsSum p d ∧ entry = .movement id p q ∧ w'.coords? id = some q) ∧
    (∀ q : Coords, q.IsSum p d → w.moveEntity id d true = w.moveEntity id q false) ∧
    (∀ w', w.moveEntity id d true = (none, w') → w' = w) ∧
    (w.board.size.Contains (p + d) ↔
      w.board.size.Covers (p.x.toInt + d.x.toInt) (p.y.toInt + d.y.toInt)) := by
  intro w
  have h : w.Coherent := arises.coherent.world
  have relative := World.moveEntity_relative placed d
  refine ⟨?_, ?_, ?_, ?_, Size.contains_add_iff width height⟩
  · rw [relative, World.exists_moveEntity_iff h alive placed]
    constructor
    · rintro ⟨inside, room⟩
      exact ⟨p + d, Size.isSum_of_contains width height inside, inside, room⟩
    · rintro ⟨q, sum, inside, room⟩
      obtain rfl := sum.eq_add
      exact ⟨inside, room⟩
  · intro entry w' made
    rw [relative] at made
    obtain ⟨told, t, tile, -⟩ := (World.moveEntity_eq_some alive placed).mp made
    exact ⟨p + d, Size.isSum_of_contains width height (Board.contains_of_tile? tile), told,
      World.coords?_of_moved alive placed made⟩
  · intro q sum
    rw [relative, sum.eq_add]
  · intro w' refused
    have does := w.moveEntity_does id d true
    rw [refused] at does
    exact does

/-- The wolf of the camp leaps to the far corner. The longest leaps to the right and down saturate, and lead
nowhere. -/
theorem displacement_exact_leap :
    let w := (Sample.camp .usual).world
    let longest : Coords := ⟨2147483647, 2147483647⟩
    w.coords? ⟨1⟩ = some ⟨1, 0⟩ ∧
      (∃ w', w.moveEntity ⟨1⟩ ⟨1, 2⟩ true = (some (.movement ⟨1⟩ ⟨1, 0⟩ ⟨2, 2⟩), w') ∧
        w'.coords? ⟨1⟩ = some ⟨2, 2⟩) ∧
      (⟨1, 0⟩ + longest : Coords) = longest ∧ w.moveEntity ⟨1⟩ longest true = (none, w) := by
  intro w longest
  have arises : (Sample.camp .usual).arena.Arises := ⟨_, [], Sample.camp_reachable .usual, .nil⟩
  have alive : w.entity? ⟨1⟩ = some ⟨⟨1⟩, Sample.wolf, 2⟩ := by decide +kernel
  have placed : w.coords? ⟨1⟩ = some ⟨1, 0⟩ := by decide +kernel
  obtain ⟨moves, ends, -, -, -⟩ :=
    displacement_exact arises (by decide +kernel) (by decide +kernel) alive placed ⟨1, 2⟩
  obtain ⟨entry, w', made⟩ := moves.mpr ⟨⟨2, 2⟩, ⟨rfl, rfl⟩, by decide +kernel,
    .inr ⟨.vacant Sample.meadow, by decide +kernel, by decide⟩⟩
  obtain ⟨q, sum, rfl, stands⟩ := ends entry w' made
  obtain rfl : q = ⟨2, 2⟩ := sum.eq_add.trans (by decide)
  exact ⟨placed, ⟨w', made, stands⟩, by decide, by decide +kernel⟩

end Game

end Skirmish
