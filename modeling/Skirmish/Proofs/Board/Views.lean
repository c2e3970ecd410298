import Skirmish.Proofs.Tile.Sound
import Skirmish.Board

/-!
# The board through its views

A board is seen through three views: the tile at a coordinate, the coordinate of an identifier, and
whether a tile holds an occupant (`Board.Holds`). This module says what each commit does to the views
and, for each operation, all that its success says: what was asked and which commit was made
(`add_eq_ok`, `move_eq_ok`, `remove_eq_ok`, `modify_eq_ok`). Nothing after it unfolds an operation of
the board.
-/

namespace Skirmish.Board

variable {b b' : Board} {who : Occupant} {id other : EntityId} {spot home goal cell : Coords}
  {kind : TileType} {t : Tile}

/-- Whether the tile at a coordinate holds an occupant with exactly these layers. -/
def Holds (b : Board) (o : Occupant) (spot : Coords) : Prop :=
  ∃ t, b.tile? spot = some t ∧ o ∈ t.occupants

theorem mem_occupantsAt : id ∈ b.occupantsAt spot ↔ ∃ t, b.tile? spot = some t ∧ id ∈ t.ids := by
  unfold occupantsAt
  cases b.tile? spot <;> simp

theorem Holds.mem_occupantsAt {o : Occupant} (h : b.Holds o spot) : o.id ∈ b.occupantsAt spot := by
  obtain ⟨t, ht, ho⟩ := h
  exact Board.mem_occupantsAt.mpr ⟨t, ht, List.mem_map_of_mem ho⟩

/-- There is a tile at a coordinate exactly when the size contains it. -/
theorem tile?_eq_none : b.tile? spot = none ↔ ¬ b.size.Contains spot := by
  rw [← Size.index_eq_none, tile?]
  cases hi : b.size.index spot with
  | none => simp
  | some i =>
    have inside : i < b.tiles.size := b.tiles_size ▸ Size.index_lt_area hi
    simp [inside]

theorem contains_of_tile? (h : b.tile? spot = some t) : b.size.Contains spot := by
  by_contra outside
  rw [tile?_eq_none.mpr outside] at h
  cases h

theorem contains_eq_false : b.contains id = false ↔ b.coords? id = none := by
  simp [contains, Registry.contains, coords?]

theorem contains_eq_true : b.contains id = true ↔ ∃ home, b.coords? id = some home := by
  rw [← Bool.not_eq_false, contains_eq_false, ← ne_eq, Option.ne_none_iff_exists']

/-- Boards with the same parts are the same. -/
theorem eq_of_parts {b c : Board} (size : b.size = c.size) (tiles : b.tiles = c.tiles)
    (placed : b.placed = c.placed) : b = c := by
  cases b
  cases c
  simp_all

/-! ## The blank board -/

theorem tile?_blank {size : Size} (h : (blank size kind).tile? spot = some t) : t = .vacant kind := by
  obtain ⟨i, -, hi⟩ := Option.bind_eq_some_iff.mp h
  obtain ⟨_, rfl⟩ := Array.getElem?_eq_some_iff.mp hi
  simp [blank]

@[simp] theorem coords?_blank (size : Size) : (blank size kind).coords? id = none := rfl

/-! ## Single changes -/

@[simp] theorem size_updateTile (f : Tile → Tile) : (b.updateTile spot f).size = b.size := by
  unfold updateTile
  split <;> rfl

@[simp] theorem coords?_updateTile (f : Tile → Tile) :
    (b.updateTile spot f).coords? id = b.coords? id := by
  unfold updateTile
  split <;> rfl

@[simp] theorem placed_updateTile (f : Tile → Tile) : (b.updateTile spot f).placed = b.placed := by
  unfold updateTile
  split <;> rfl

@[simp] theorem tile?_reindex (f : Registry Placement → Registry Placement) :
    (b.reindex f).tile? spot = b.tile? spot := rfl

/-- Out of bounds there is no tile to change. -/
theorem updateTile_outside (h : b.size.index spot = none) (f : Tile → Tile) : b.updateTile spot f = b := by
  unfold updateTile
  split
  · rfl
  · next i hi => rw [h] at hi; cases hi

theorem tiles_updateTile {i : Nat} (h : b.size.index spot = some i) (f : Tile → Tile) :
    (b.updateTile spot f).tiles = b.tiles.modify i f := by
  unfold updateTile
  split
  · next hi => rw [h] at hi; cases hi
  · next j hj =>
    rw [h] at hj
    cases hj
    rfl

/-- To change a tile into itself is no change. -/
theorem updateTile_self : b.updateTile spot (fun t => t) = b := by
  cases place : b.size.index spot with
  | none => exact updateTile_outside place _
  | some i =>
    refine eq_of_parts (size_updateTile _) ?_ (placed_updateTile _)
    rw [tiles_updateTile place]
    apply Array.ext_getElem?
    intro j
    rw [Array.getElem?_modify, Option.map_id', ite_self]

/-- To put a certain tile in place of what a coordinate has is to change what it has. -/
theorem updateTile_const (tile : b.tile? spot = some t) (f : Tile → Tile) :
    b.updateTile spot (fun _ => f t) = b.updateTile spot f := by
  obtain ⟨i, place, there⟩ := Option.bind_eq_some_iff.mp tile
  refine eq_of_parts (by simp only [size_updateTile]) ?_ (by simp only [placed_updateTile])
  rw [tiles_updateTile place, tiles_updateTile place]
  apply Array.ext_getElem?
  intro j
  simp only [Array.getElem?_modify]
  split
  · next here => rw [← here, there]; rfl
  · rfl

/-- Changes that do the same to the tile at a coordinate do the same to the board. -/
theorem updateTile_congr (tile : b.tile? spot = some t) {f g : Tile → Tile} (same : f t = g t) :
    b.updateTile spot f = b.updateTile spot g := by
  rw [← updateTile_const tile f, same, updateTile_const tile g]

/-- A change that keeps the tile at a coordinate is no change. -/
theorem updateTile_of_fixed (tile : b.tile? spot = some t) {f : Tile → Tile} (fixed : f t = t) :
    b.updateTile spot f = b :=
  (updateTile_congr tile fixed).trans updateTile_self

/-- Two changes of one tile are one change. -/
theorem updateTile_updateTile (b : Board) (spot : Coords) (f g : Tile → Tile) :
    (b.updateTile spot f).updateTile spot g = b.updateTile spot (g ∘ f) := by
  cases place : b.size.index spot with
  | none => rw [updateTile_outside place, updateTile_outside place, updateTile_outside place]
  | some i =>
    have place' : (b.updateTile spot f).size.index spot = some i := by
      rw [size_updateTile]
      exact place
    refine eq_of_parts (by simp only [size_updateTile]) ?_ (by simp only [placed_updateTile])
    rw [tiles_updateTile place', tiles_updateTile place, tiles_updateTile place]
    apply Array.toList_inj.mp
    simp only [Array.toList_modify]
    exact List.modify_modify_eq f g i b.tiles.toList

/-- Changing a tile changes what is read at its coordinate, and nowhere else. -/
theorem tile?_updateTile (f : Tile → Tile) :
    (b.updateTile spot f).tile? cell = if cell = spot then (b.tile? cell).map f else b.tile? cell := by
  cases hs : b.size.index spot with
  | none =>
    rw [updateTile_outside hs]
    split
    · next same => simp [tile?, same, hs]
    · rfl
  | some i =>
    simp only [tile?, size_updateTile, tiles_updateTile hs]
    cases ha : b.size.index cell with
    | none => split <;> rfl
    | some j =>
      simp only [Option.bind_some, Array.getElem?_modify]
      by_cases same : cell = spot
      · rw [same, hs] at ha
        cases ha
        rw [if_pos rfl, if_pos same]
      · have apart : i ≠ j := fun e => same (Size.index_inj ha (e ▸ hs))
        rw [if_neg apart, if_neg same]

/-! ## Changes of all tiles -/

/-- The board with every tile changed in the same way. -/
def mapTiles (f : Tile → Tile) (b : Board) : Board :=
  { b with tiles := b.tiles.map f, tiles_size := by rw [Array.size_map, b.tiles_size] }

theorem tile?_mapTiles (f : Tile → Tile) : (b.mapTiles f).tile? spot = (b.tile? spot).map f := by
  show (b.size.index spot).bind ((b.tiles.map f)[·]?) = _
  rw [tile?]
  cases b.size.index spot with
  | none => rfl
  | some i => exact Array.getElem?_map

/-- A change of one tile may come before or after a change of all, where it does not matter on any tile. -/
theorem updateTile_mapTiles {f g g' : Tile → Tile} (same : ∀ t, g' (f t) = f (g t)) :
    (b.mapTiles f).updateTile spot g' = (b.updateTile spot g).mapTiles f := by
  cases place : b.size.index spot with
  | none =>
    have place' : (b.mapTiles f).size.index spot = none := place
    rw [updateTile_outside place, updateTile_outside place']
  | some i =>
    have place' : (b.mapTiles f).size.index spot = some i := place
    refine eq_of_parts ?_ ?_ ?_
    · show _ = (b.updateTile spot g).size
      rw [size_updateTile, size_updateTile]
      rfl
    · rw [tiles_updateTile place']
      show (b.tiles.map f).modify i g' = (b.updateTile spot g).tiles.map f
      rw [tiles_updateTile place]
      apply Array.ext_getElem?
      intro j
      simp only [Array.getElem?_modify, Array.getElem?_map]
      split
      · cases b.tiles[j]? with
        | none => rfl
        | some t => exact congrArg some (same t)
      · rfl
    · show _ = (b.updateTile spot g).placed
      rw [placed_updateTile, placed_updateTile]
      rfl

/-! ## Changes of the index -/

@[simp] theorem coords?_reindex_insert (p : Placement) :
    (b.reindex (·.insert p)).coords? id = if p.id = id then some p.spot else b.coords? id := by
  simp only [coords?, reindex, Registry.get?_insert, show idOf p = p.id from rfl]
  split <;> rfl

@[simp] theorem coords?_reindex_erase :
    (b.reindex (·.erase other)).coords? id = if id = other then none else b.coords? id := by
  simp only [coords?, reindex, Registry.get?_erase]
  split <;> rfl

/-! ## The commits -/

theorem tile?_place : (b.place who spot).tile? cell =
    if cell = spot then (b.tile? cell).map (·.receive who) else b.tile? cell :=
  tile?_updateTile _

theorem coords?_place :
    (b.place who spot).coords? id = if who.id = id then some spot else b.coords? id := by
  simp [place]

theorem tile?_clear : (b.clear id spot).tile? cell =
    if cell = spot then (b.tile? cell).map (·.release id) else b.tile? cell :=
  tile?_updateTile _

theorem coords?_clear : (b.clear other spot).coords? id = if id = other then none else b.coords? id := by
  simp [clear]

/-- A move to another tile changes both tiles. -/
theorem tile?_relocate (apart : goal ≠ home) : (b.relocate who home goal).tile? cell =
    if cell = home then (b.tile? cell).map (·.release who.id)
    else if cell = goal then (b.tile? cell).map (·.receive who) else b.tile? cell := by
  rw [relocate, tile?_reindex, tile?_updateTile, tile?_updateTile]
  by_cases atHome : cell = home
  · subst atHome
    simp [Ne.symm apart]
  · simp [atHome]

theorem coords?_relocate :
    (b.relocate who home goal).coords? id = if who.id = id then some goal else b.coords? id := by
  simp [relocate]

/-! ## A move in two halves -/

/-- Changes of different tiles may be made in either order. -/
theorem updateTile_comm (apart : spot ≠ cell) (f g : Tile → Tile) :
    (b.updateTile spot f).updateTile cell g = (b.updateTile cell g).updateTile spot f := by
  cases hs : b.size.index spot with
  | none =>
    have hs' : (b.updateTile cell g).size.index spot = none := by rw [size_updateTile]; exact hs
    rw [updateTile_outside hs, updateTile_outside hs']
  | some i =>
    have hs' : (b.updateTile cell g).size.index spot = some i := by rw [size_updateTile]; exact hs
    cases hc : b.size.index cell with
    | none =>
      have hc' : (b.updateTile spot f).size.index cell = none := by rw [size_updateTile]; exact hc
      rw [updateTile_outside hc, updateTile_outside hc']
    | some j =>
      have hc' : (b.updateTile spot f).size.index cell = some j := by rw [size_updateTile]; exact hc
      have places : i ≠ j := fun same => apart (Size.index_inj hs (same ▸ hc))
      refine eq_of_parts (by simp only [size_updateTile]) ?_ (by simp only [placed_updateTile])
      rw [tiles_updateTile hc', tiles_updateTile hs, tiles_updateTile hs', tiles_updateTile hc]
      apply Array.toList_inj.mp
      simp only [Array.toList_modify]
      exact List.modify_modify_ne f g b.tiles.toList places

/-- The index does not know the tiles. -/
theorem updateTile_reindex (f : Tile → Tile) (change : Registry Placement → Registry Placement) :
    (b.reindex change).updateTile spot f = (b.updateTile spot f).reindex change := by
  cases hs : b.size.index spot with
  | none =>
    have hs' : (b.reindex change).size.index spot = none := hs
    rw [updateTile_outside hs, updateTile_outside hs']
  | some i =>
    have hs' : (b.reindex change).size.index spot = some i := hs
    refine eq_of_parts (by simp [reindex]) ?_ (by simp [reindex])
    rw [tiles_updateTile hs']
    exact (tiles_updateTile hs f).symm

/-- A move takes the mover from one tile and then places it on the other. -/
theorem relocate_eq_place_clear (apart : goal ≠ home) :
    b.relocate who home goal = (b.clear who.id home).place who goal := by
  -- The move itself changes the goal first and the index once.
  unfold relocate place clear
  rw [updateTile_reindex, updateTile_comm apart]
  refine eq_of_parts rfl rfl ?_
  exact (Registry.insert_erase _ (Placement.mk who.id goal)).symm

/-! ## What the commits do to an occupant -/

theorem Holds.place {o : Occupant} (h : b.Holds o cell) : (b.place who spot).Holds o cell := by
  obtain ⟨t, ht, ho⟩ := h
  rw [Holds, tile?_place, ht]
  split
  · exact ⟨t.receive who, rfl, List.mem_append_left _ ho⟩
  · exact ⟨t, rfl, ho⟩

theorem holds_place (h : b.tile? spot = some t) : (b.place who spot).Holds who spot := by
  rw [Holds, tile?_place, if_pos rfl, h]
  exact ⟨t.receive who, rfl, List.mem_append_right _ (List.mem_singleton_self who)⟩

/-- The list form of leaving: whoever else stood on a tile still does. -/
theorem mem_release_of_ne {o : Occupant} (ho : o ∈ t.occupants) (ne : o.id ≠ id) :
    o ∈ (t.release id).occupants :=
  (List.mem_eraseP_of_neg (by simpa using ne)).mpr ho

theorem Holds.clear {o : Occupant} (h : b.Holds o cell) (ne : o.id ≠ id) :
    (b.clear id spot).Holds o cell := by
  obtain ⟨t, ht, ho⟩ := h
  rw [Holds, tile?_clear, ht]
  split
  · exact ⟨t.release id, rfl, mem_release_of_ne ho ne⟩
  · exact ⟨t, rfl, ho⟩

theorem Holds.relocate {o : Occupant} (h : b.Holds o cell) (ne : o.id ≠ who.id) (apart : goal ≠ home) :
    (b.relocate who home goal).Holds o cell := by
  obtain ⟨t, ht, ho⟩ := h
  rw [Holds, tile?_relocate apart, ht]
  split
  · exact ⟨t.release who.id, rfl, mem_release_of_ne ho ne⟩
  · split
    · exact ⟨t.receive who, rfl, List.mem_append_left _ ho⟩
    · exact ⟨t, rfl, ho⟩

theorem holds_relocate (h : b.tile? goal = some t) (apart : goal ≠ home) :
    (b.relocate who home goal).Holds who goal := by
  rw [Holds, tile?_relocate apart, if_neg apart, if_pos rfl, h]
  exact ⟨t.receive who, rfl, List.mem_append_right _ (List.mem_singleton_self who)⟩

theorem Holds.retype {o : Occupant} (h : b.Holds o cell) :
    (b.updateTile spot ({ · with kind := kind })).Holds o cell := by
  obtain ⟨t, ht, ho⟩ := h
  rw [Holds, tile?_updateTile, ht]
  split
  · exact ⟨{ t with kind := kind }, rfl, ho⟩
  · exact ⟨t, rfl, ho⟩

/-! ## What the checks ask -/

theorem checkAdd_eq_ok : b.checkAdd who spot = .ok () ↔
    b.coords? who.id = none ∧ ∃ t, b.tile? spot = some t ∧ t.checkAdd who.layers = .ok () := by
  rw [← contains_eq_false, checkAdd]
  cases b.contains who.id <;> cases b.tile? spot <;> simp

theorem checkMove_eq_ok : b.checkMove who goal = .ok () ↔ ∃ home t, b.coords? who.id = some home ∧
    b.tile? goal = some t ∧ (goal = home ∨ t.checkAdd who.layers = .ok ()) := by
  rw [checkMove]
  cases b.coords? who.id with
  | none => simp
  | some home =>
    cases b.tile? goal with
    | none => simp
    | some t => by_cases same : goal = home <;> simp [same]

theorem checkModify_eq_ok : b.checkModify kind spot = .ok () ↔
    ∃ t, b.tile? spot = some t ∧ t.checkModify kind = .ok () := by
  rw [checkModify]
  cases b.tile? spot <;> simp

/-! ## What the operations do -/

/-- An entity is placed exactly when it stands nowhere, there is a tile, and the tile takes it. -/
theorem add_eq_ok : b.add who spot = .ok b' ↔
    b.coords? who.id = none ∧ (∃ t, b.tile? spot = some t ∧ t.checkAdd who.layers = .ok ()) ∧
      b' = b.place who spot := by
  rw [← and_assoc, ← checkAdd_eq_ok, add]
  cases b.checkAdd who spot <;> simp [eq_comm]

/-- An entity moves exactly when it stands somewhere and the goal is its own tile, where nothing
changes, or another tile that takes it. -/
theorem move_eq_ok : b.move who goal = .ok (home, b') ↔
    b.coords? who.id = some home ∧ ∃ t, b.tile? goal = some t ∧
      (goal = home ∧ b' = b ∨
        goal ≠ home ∧ t.checkAdd who.layers = .ok () ∧ b' = b.relocate who home goal) := by
  constructor
  · intro h
    unfold move at h
    split at h
    · cases h
    · cases h
    · next hc hh =>
      cases h
      obtain ⟨_, t, ho, ht, ok⟩ := checkMove_eq_ok.mp hc
      rw [hh] at ho
      cases ho
      refine ⟨hh, t, ht, ?_⟩
      by_cases same : goal = home
      · exact .inl ⟨same, if_pos same⟩
      · exact .inr ⟨same, ok.resolve_left same, if_neg same⟩
  · rintro ⟨hh, t, ht, change⟩
    have hc : b.checkMove who goal = .ok () :=
      checkMove_eq_ok.mpr ⟨home, t, hh, ht, change.imp And.left fun c => c.2.1⟩
    simp only [move, hc, hh]
    rcases change with ⟨same, rfl⟩ | ⟨apart, -, rfl⟩
    · rw [if_pos same]
    · rw [if_neg apart]

/-- An entity is removed exactly when it stands somewhere. -/
theorem remove_eq_ok : b.remove id = .ok (home, b') ↔
    b.coords? id = some home ∧ b' = b.clear id home := by
  unfold remove
  cases b.coords? id with
  | none => simp
  | some spot =>
    simp only [Except.ok.injEq, Prod.mk.injEq, Option.some.injEq]
    constructor
    · rintro ⟨rfl, rfl⟩
      exact ⟨rfl, rfl⟩
    · rintro ⟨rfl, rfl⟩
      exact ⟨rfl, rfl⟩

/-- A tile takes on another type exactly when the type blocks no occupant. -/
theorem modify_eq_ok {previous : TileType} : b.modify kind spot = .ok (previous, b') ↔
    ∃ t, b.tile? spot = some t ∧ t.checkModify kind = .ok () ∧ previous = t.kind ∧
      b' = b.updateTile spot ({ · with kind := kind }) := by
  simp only [modify, checkModify]
  cases b.tile? spot with
  | none => simp
  | some t => cases h : t.checkModify kind <;> simp [h, eq_comm]

end Skirmish.Board
