import Skirmish.Proofs.Board.Edits

/-!
# Changes of the board can be undone

Each change of the board has one that takes it back. **The law** (`run_undo`) is that on every board of a
run the way back is open whenever the way there was, and that it leads to the very same board: all tiles,
and the index. Only who comes back to a tile has lost its place in the order of arrival, and stands behind
those who stayed (`Tile.requeue`).

The way back is not a matter of the one change. Nothing in a move has asked whether the tile that is left
would take the mover, nor does a change of type ask whether the old type was right for those who stand
there. Both follow from the soundness of the tiles (`Tile.Sound.takes_back`, `Tile.Sound.unblocked`),
which every run keeps.

**What it does not establish.** A removal cannot be undone from what it tells, since the order of arrival
is lost; and a mover that claims other layers than its tile has recorded may find its way back closed.
-/

namespace Skirmish

/-- The tile on which an occupant has gone behind all others. -/
def Tile.requeue (t : Tile) (who : Occupant) : Tile :=
  { t with occupants := t.occupants.filter (fun o => decide (o.id ≠ who.id)) ++ [who] }

theorem Tile.receive_release {t : Tile} (distinct : t.ids.Nodup) (who : Occupant) :
    (t.release who.id).receive who = t.requeue who := by
  rw [receive, release_occupants distinct]
  rfl

namespace Board

variable {b b' : Board} {who : Occupant} {id : EntityId} {spot home goal : Coords} {kind : TileType}
  {t : Tile}

theorem get?_of_coords (placed : b.coords? id = some spot) : b.placed.get? id = some ⟨id, spot⟩ := by
  obtain ⟨⟨id', spot'⟩, found, rfl⟩ := Option.map_eq_some_iff.mp placed
  obtain rfl : id' = id := Registry.idOf_of_get? found
  exact found

/-! ## Two commits in a row -/

namespace Coherent

variable (h : b.Coherent)
include h

/-- Whoever comes and goes leaves the board as it was. -/
theorem clear_place (new : b.coords? who.id = none) (tile : b.tile? spot = some t) :
    (b.place who spot).clear who.id spot = b := by
  unfold Board.clear Board.place
  rw [updateTile_reindex, updateTile_updateTile,
    updateTile_of_fixed tile (Tile.release_receive (h.not_mem_ids new tile))]
  refine eq_of_parts rfl rfl ?_
  exact Registry.erase_insert (a := Placement.mk who.id spot) (Option.map_eq_none_iff.mp new)

/-- Whoever goes and comes back stands behind all others. -/
theorem place_clear (placed : b.coords? who.id = some home) :
    (b.clear who.id home).place who home = b.updateTile home (·.requeue who) := by
  obtain ⟨t, tile, -⟩ := h.tile_of_coords placed
  have requeued : b.updateTile home ((·.receive who) ∘ (·.release who.id)) = b.updateTile home (·.requeue who) :=
    updateTile_congr tile (Tile.receive_release (h.sound tile).distinct who)
  unfold Board.clear Board.place
  rw [updateTile_reindex, updateTile_updateTile, requeued]
  refine eq_of_parts rfl rfl ?_
  have known : (b.updateTile home (·.requeue who)).placed.get? who.id = some ⟨who.id, home⟩ := by
    rw [placed_updateTile]
    exact get?_of_coords placed
  exact (Registry.insert_erase _ (Placement.mk who.id home)).trans (Registry.insert_of_get? known)

/-- A move there and back: on the goal nothing has happened, and at home the mover comes last. -/
theorem relocate_relocate (placed : b.coords? who.id = some home) (apart : goal ≠ home)
    (tile : b.tile? goal = some t) :
    (b.relocate who home goal).relocate who goal home = b.updateTile home (·.requeue who) := by
  have left : (b.clear who.id home).Coherent := h.clear placed
  have gone : (b.clear who.id home).coords? who.id = none := by rw [coords?_clear, if_pos rfl]
  have untouched : (b.clear who.id home).tile? goal = some t := by
    rw [tile?_clear, if_neg apart]
    exact tile
  rw [relocate_eq_place_clear apart, relocate_eq_place_clear apart.symm, left.clear_place gone untouched]
  exact h.place_clear placed

/-! ## The way back -/

theorem remove_add (added : b.add who spot = .ok b') : b'.remove who.id = .ok (spot, b) := by
  obtain ⟨new, ⟨t, tile, -⟩, rfl⟩ := add_eq_ok.mp added
  have placed : (b.place who spot).coords? who.id = some spot := by rw [coords?_place, if_pos rfl]
  exact remove_eq_ok.mpr ⟨placed, (h.clear_place new tile).symm⟩

/-- The tile that was left takes the mover back, since it was one of the occupants there with the layers
that it claims. -/
theorem move_move {here : Coords} (held : b.Holds who here) (moved : b.move who goal = .ok (home, b')) :
    b'.move who home = .ok (goal, if goal = home then b else b.updateTile home (·.requeue who)) := by
  obtain ⟨placed, u, destination, ⟨rfl, rfl⟩ | ⟨apart, takes, rfl⟩⟩ := move_eq_ok.mp moved
  · rw [if_pos rfl]
    exact moved
  · obtain rfl : here = home := Option.some.inj ((h.coords_of_holds held).symm.trans placed)
    obtain ⟨t, source, there⟩ := held
    rw [if_neg apart]
    refine move_eq_ok.mpr ⟨coords?_relocate.trans (if_pos rfl), t.release who.id, ?_,
      .inr ⟨apart.symm, (h.sound source).takes_back there, (h.relocate_relocate placed apart destination).symm⟩⟩
    rw [tile?_relocate apart, if_pos rfl, source]
    rfl

/-- The type that a tile had was open to all who stand there. -/
theorem modify_modify {previous : TileType} (modified : b.modify kind spot = .ok (previous, b')) :
    b'.modify previous spot = .ok (kind, b) := by
  obtain ⟨t, tile, -, rfl, rfl⟩ := modify_eq_ok.mp modified
  refine modify_eq_ok.mpr ⟨{ t with kind := kind }, ?_, Tile.checkModify_eq_ok.mpr (h.sound tile).unblocked,
    rfl, ?_⟩
  · rw [tile?_updateTile, if_pos rfl, tile]
    rfl
  · rw [updateTile_updateTile]
    exact (updateTile_of_fixed tile rfl).symm

end Coherent

/-! ## The law -/

theorem whole_eq_ok {α : Type} {a : α} {done : Except BoardError (α × Board)} :
    b.whole done = .ok a b' ↔ done = .ok (a, b') := by
  cases done with
  | error e => exact ⟨nofun, nofun⟩
  | ok made =>
    obtain ⟨a', b''⟩ := made
    simp [whole]

theorem edit_add_eq_ok : Edit.add who spot b = .ok () b' ↔ b.add who spot = .ok b' := by
  rw [edit_add, whole_eq_ok]
  cases b.add who spot with
  | error e => exact ⟨nofun, nofun⟩
  | ok made => simp [Except.map]

/-- **Changes of the board can be undone.** After any changes of a blank board: an entity that is placed can
be removed from where it was placed, a placed entity that moves can move back, and a tile that takes on a
type can take on the one that it had. Each leads to the whole board as it was before, but for one who comes
back from another tile and is now the last to have come. -/
theorem run_undo (size : Size) (kind : TileType) (changes : List Change) :
    let b := (blank size kind).run changes
    (∀ who spot b', Edit.add who spot b = .ok () b' → Edit.remove who.id b' = .ok spot b) ∧
    (∀ who here goal home b', b.Holds who here → Edit.move who goal b = .ok home b' →
      Edit.move who home b' = .ok goal (if goal = home then b else b.updateTile home (·.requeue who))) ∧
    ∀ kind spot previous b', Edit.modify kind spot b = .ok previous b' →
      Edit.modify previous spot b' = .ok kind b := by
  intro b
  have h : b.Coherent := (coherent_blank size kind).run changes
  refine ⟨?_, ?_, ?_⟩
  · intro who spot b' added
    rw [edit_remove, whole_eq_ok]
    exact h.remove_add (edit_add_eq_ok.mp added)
  · intro who here goal home b' held moved
    rw [edit_move, whole_eq_ok] at moved ⊢
    exact h.move_move held moved
  · intro kind spot previous b' modified
    rw [edit_modify, whole_eq_ok] at modified ⊢
    exact h.modify_modify modified

namespace Sample

/-- Entity `0` walks, and the ghost `1` has come after it. -/
def visit : List Change := [.add ⟨⟨0⟩, .ground⟩ ⟨0, 0⟩, .add ⟨⟨1⟩, .empty⟩ ⟨0, 0⟩]

end Sample

/-- The walker comes back behind the ghost. -/
theorem run_undo_visit :
    let b := (blank ⟨2, 1⟩ (.plain "meadow")).run Sample.visit
    let b' := Edit.leaves (.move ⟨⟨0⟩, .ground⟩ ⟨1, 0⟩) b
    let b'' := b.updateTile ⟨0, 0⟩ (·.requeue ⟨⟨0⟩, .ground⟩)
    b.Holds ⟨⟨0⟩, .ground⟩ ⟨0, 0⟩ ∧ Edit.move ⟨⟨0⟩, .ground⟩ ⟨1, 0⟩ b = .ok ⟨0, 0⟩ b' ∧
      Edit.move ⟨⟨0⟩, .ground⟩ ⟨0, 0⟩ b' = .ok ⟨1, 0⟩ b'' ∧
      b.occupantsAt ⟨0, 0⟩ = [⟨0⟩, ⟨1⟩] ∧ b''.occupantsAt ⟨0, 0⟩ = [⟨1⟩, ⟨0⟩] := by
  intro b b' b''
  have held : b.Holds ⟨⟨0⟩, .ground⟩ ⟨0, 0⟩ :=
    ⟨⟨.plain "meadow", [⟨⟨0⟩, .ground⟩, ⟨⟨1⟩, .empty⟩]⟩, by decide +kernel, List.mem_cons_self⟩
  have moved : Edit.move ⟨⟨0⟩, .ground⟩ ⟨1, 0⟩ b = .ok ⟨0, 0⟩ b' := by decide +kernel
  have back := (run_undo ⟨2, 1⟩ (.plain "meadow") Sample.visit).2.1 _ _ _ _ _ held moved
  exact ⟨held, moved, back, by decide +kernel, by decide +kernel⟩

end Board

end Skirmish
