import Skirmish.Proofs.Board.Views

/-!
# Occupancy of the board

A board keeps the same fact twice: a tile lists who stands on it, and the index says where each of
them stands. **Coherence** is that the two agree and that every tile is sound. Whatever change is asked
of a board is one of a few steps (`attempt_step`), and each step keeps coherence (`Coherent.step`), so
every run of changes from a blank board does (`Coherent.run`), whatever entities, coordinates and types
the changes bring, and however often they are refused.

Coherence never speaks of the layers that an entity claims now. The index knows identifiers only, so
a mover that claims other layers than those recorded when it was placed is measured on the goal by
the new claim, and its old entry goes with the identifier.
-/

namespace Skirmish.Board

/-- **The steps of a board**, each with all that the check of its change has asked. A refused change
is a step too, and so is a move onto the mover's own tile. -/
inductive Step (b : Board) : Board → Prop
  | refused : Step b b
  | place {who spot t} (new : b.coords? who.id = none) (tile : b.tile? spot = some t)
      (takes : t.checkAdd who.layers = .ok ()) : Step b (b.place who spot)
  | relocate {who home goal t} (placed : b.coords? who.id = some home) (apart : goal ≠ home)
      (tile : b.tile? goal = some t) (takes : t.checkAdd who.layers = .ok ()) :
      Step b (b.relocate who home goal)
  | clear {id home} (placed : b.coords? id = some home) : Step b (b.clear id home)
  | retype {kind spot t} (tile : b.tile? spot = some t) (takes : t.checkModify kind = .ok ()) :
      Step b (b.updateTile spot ({ · with kind := kind }))

variable {b : Board} {who : Occupant} {id other : EntityId} {spot home goal cell : Coords}
  {kind : TileType} {t : Tile}

/-- **Coherence of a board.** -/
structure Coherent (b : Board) : Prop where
  /-- An identifier is on the tile that the index gives, and on no other. -/
  listed_iff : ∀ {id spot}, id ∈ b.occupantsAt spot ↔ b.coords? id = some spot
  sound : ∀ {spot t}, b.tile? spot = some t → t.Sound

theorem coherent_blank (size : Size) (kind : TileType) : (blank size kind).Coherent := by
  constructor
  · intro id spot
    rw [mem_occupantsAt, coords?_blank]
    constructor
    · rintro ⟨t, ht, listed⟩
      rw [tile?_blank ht] at listed
      cases listed
    · exact nofun
  · intro spot t ht
    rw [tile?_blank ht]
    exact Tile.sound_vacant kind

namespace Coherent

/-- Whoever has a coordinate stands on a tile, which lists it. -/
theorem tile_of_coords (h : b.Coherent) (placed : b.coords? id = some spot) :
    ∃ t, b.tile? spot = some t ∧ id ∈ t.ids :=
  mem_occupantsAt.mp (h.listed_iff.mpr placed)

theorem contains_of_coords (h : b.Coherent) (placed : b.coords? id = some spot) :
    b.size.Contains spot := by
  obtain ⟨t, ht, -⟩ := h.tile_of_coords placed
  exact contains_of_tile? ht

/-- Whoever has no coordinate stands on no tile. -/
theorem not_mem_ids (h : b.Coherent) (new : b.coords? id = none) (ht : b.tile? spot = some t) :
    id ∉ t.ids := by
  intro listed
  have placed := h.listed_iff.mp (mem_occupantsAt.mpr ⟨t, ht, listed⟩)
  rw [new] at placed
  cases placed

/-- Whoever stands elsewhere does not stand here. -/
theorem not_mem_ids_elsewhere (h : b.Coherent) (placed : b.coords? id = some home) (apart : goal ≠ home)
    (ht : b.tile? goal = some t) : id ∉ t.ids := by
  intro listed
  have also := h.listed_iff.mp (mem_occupantsAt.mpr ⟨t, ht, listed⟩)
  rw [placed] at also
  cases also
  exact apart rfl

theorem nodup_occupantsAt (h : b.Coherent) (spot : Coords) : (b.occupantsAt spot).Nodup := by
  unfold occupantsAt
  split
  · next t ht => exact (h.sound ht).distinct
  · exact .nil

theorem coords_of_holds (h : b.Coherent) {o : Occupant} (held : b.Holds o spot) :
    b.coords? o.id = some spot :=
  h.listed_iff.mp held.mem_occupantsAt

/-! ## Each commit keeps coherence -/

theorem place (h : b.Coherent) (new : b.coords? who.id = none) (ht : b.tile? spot = some t)
    (ok : t.checkAdd who.layers = .ok ()) : (b.place who spot).Coherent := by
  constructor
  · intro id cell
    have listed : id ∈ (b.place who spot).occupantsAt cell ↔
        id ∈ b.occupantsAt cell ∨ id = who.id ∧ cell = spot := by
      simp only [mem_occupantsAt, tile?_place]
      by_cases here : cell = spot
      · subst here
        simp [ht]
      · simp [here]
    rw [listed, h.listed_iff, coords?_place]
    by_cases same : who.id = id
    · subst same
      simp [new, eq_comm]
    · simp [same, Ne.symm same]
  · intro cell u hu
    rw [tile?_place] at hu
    split at hu
    · next here =>
      rw [here, ht] at hu
      cases hu
      exact (h.sound ht).receive (h.not_mem_ids new ht) ok
    · exact h.sound hu

theorem clear (h : b.Coherent) (placed : b.coords? id = some home) : (b.clear id home).Coherent := by
  constructor
  · intro other cell
    have listed : other ∈ (b.clear id home).occupantsAt cell ↔
        other ∈ b.occupantsAt cell ∧ (cell = home → other ≠ id) := by
      simp only [mem_occupantsAt, tile?_clear]
      by_cases here : cell = home
      · subst here
        obtain ⟨t, ht, -⟩ := h.tile_of_coords placed
        simp [ht, Tile.mem_ids_release (h.sound ht).distinct]
      · simp [here]
    rw [listed, h.listed_iff, coords?_clear]
    by_cases same : other = id
    · subst same
      simp [placed, eq_comm]
    · simp [same]
  · intro cell u hu
    rw [tile?_clear] at hu
    split at hu
    · obtain ⟨t, ht, rfl⟩ := Option.map_eq_some_iff.mp hu
      exact (h.sound ht).release id
    · exact h.sound hu

theorem relocate (h : b.Coherent) (placed : b.coords? who.id = some home) (apart : goal ≠ home)
    (ht : b.tile? goal = some t) (ok : t.checkAdd who.layers = .ok ()) :
    (b.relocate who home goal).Coherent := by
  constructor
  · intro id cell
    have listed : id ∈ (b.relocate who home goal).occupantsAt cell ↔
        id ∈ b.occupantsAt cell ∧ (cell = home → id ≠ who.id) ∨ id = who.id ∧ cell = goal := by
      simp only [mem_occupantsAt, tile?_relocate apart]
      by_cases atHome : cell = home
      · subst atHome
        obtain ⟨u, hu, -⟩ := h.tile_of_coords placed
        simp [hu, Ne.symm apart, Tile.mem_ids_release (h.sound hu).distinct]
      · by_cases atGoal : cell = goal
        · subst atGoal
          simp [ht, apart]
        · simp [atHome, atGoal]
    rw [listed, h.listed_iff, coords?_relocate]
    by_cases same : who.id = id
    · subst same
      simp [placed, eq_comm]
    · simp [same, Ne.symm same]
  · intro cell u hu
    rw [tile?_relocate apart] at hu
    split at hu
    · obtain ⟨v, hv, rfl⟩ := Option.map_eq_some_iff.mp hu
      exact (h.sound hv).release who.id
    · split at hu
      · next atGoal =>
        rw [atGoal, ht] at hu
        cases hu
        exact (h.sound ht).receive (h.not_mem_ids_elsewhere placed apart ht) ok
      · exact h.sound hu

theorem retype (h : b.Coherent) (ht : b.tile? spot = some t) (ok : t.checkModify kind = .ok ()) :
    (b.updateTile spot ({ · with kind := kind })).Coherent := by
  constructor
  · intro id cell
    have listed : id ∈ (b.updateTile spot ({ · with kind := kind })).occupantsAt cell ↔
        id ∈ b.occupantsAt cell := by
      simp only [mem_occupantsAt, tile?_updateTile]
      by_cases here : cell = spot
      · subst here
        simp [ht, Tile.ids]
      · simp [here]
    rw [listed, h.listed_iff, coords?_updateTile]
  · intro cell u hu
    rw [tile?_updateTile] at hu
    split at hu
    · next here =>
      rw [here, ht] at hu
      cases hu
      exact (h.sound ht).retype ok
    · exact h.sound hu

/-- **A step keeps coherence.** -/
theorem step {b' : Board} (h : b.Coherent) (s : b.Step b') : b'.Coherent := by
  cases s with
  | refused => exact h
  | place new tile takes => exact h.place new tile takes
  | relocate placed apart tile takes => exact h.relocate placed apart tile takes
  | clear placed => exact h.clear placed
  | retype tile takes => exact h.retype tile takes

end Coherent

/-! ## Runs of changes -/

/-- A change that is asked of a board. -/
inductive Change where
  | add (who : Occupant) (spot : Coords)
  | move (who : Occupant) (goal : Coords)
  | remove (id : EntityId)
  | modify (kind : TileType) (spot : Coords)
  deriving DecidableEq, Repr

/-- The board after a change was asked of it; a refused change leaves it as it is. -/
def attempt (b : Board) : Change → Board
  | .add who spot =>
    match b.add who spot with
    | .ok b => b
    | .error _ => b
  | .move who goal =>
    match b.move who goal with
    | .ok (_, b) => b
    | .error _ => b
  | .remove id =>
    match b.remove id with
    | .ok (_, b) => b
    | .error _ => b
  | .modify kind spot =>
    match b.modify kind spot with
    | .ok (_, b) => b
    | .error _ => b

/-- The board after changes were asked of it one after the other. -/
def run (b : Board) (changes : List Change) : Board := changes.foldl attempt b

/-- **What a change may leave**: the board as it was, or what its commit makes of it, and then the check
of the change has passed. -/
theorem attempt_cases (b : Board) (c : Change) {P : Board → Prop} (refused : P b)
    (place : ∀ who spot t, c = .add who spot → b.coords? who.id = none → b.tile? spot = some t →
      t.checkAdd who.layers = .ok () → P (b.place who spot))
    (relocate : ∀ who home goal t, c = .move who goal → b.coords? who.id = some home → goal ≠ home →
      b.tile? goal = some t → t.checkAdd who.layers = .ok () → P (b.relocate who home goal))
    (clear : ∀ id home, c = .remove id → b.coords? id = some home → P (b.clear id home))
    (retype : ∀ kind spot t, c = .modify kind spot → b.tile? spot = some t → t.checkModify kind = .ok () →
      P (b.updateTile spot ({ · with kind := kind }))) :
    P (b.attempt c) := by
  cases c with
  | add who spot =>
    simp only [attempt]
    split
    · next done =>
      obtain ⟨new, ⟨t, tile, takes⟩, rfl⟩ := add_eq_ok.mp done
      exact place who spot t rfl new tile takes
    · exact refused
  | move who goal =>
    simp only [attempt]
    split
    · next done =>
      obtain ⟨placed, t, tile, ⟨-, rfl⟩ | ⟨apart, takes, rfl⟩⟩ := move_eq_ok.mp done
      · exact refused
      · exact relocate who _ goal t rfl placed apart tile takes
    · exact refused
  | remove id =>
    simp only [attempt]
    split
    · next done =>
      obtain ⟨placed, rfl⟩ := remove_eq_ok.mp done
      exact clear id _ rfl placed
    · exact refused
  | modify kind spot =>
    simp only [attempt]
    split
    · next done =>
      obtain ⟨t, tile, takes, -, rfl⟩ := modify_eq_ok.mp done
      exact retype kind spot t rfl tile takes
    · exact refused

/-- A change that is asked of a board is a step. -/
theorem attempt_step (b : Board) (c : Change) : b.Step (b.attempt c) :=
  attempt_cases b c .refused (fun _ _ _ _ new tile takes => .place new tile takes)
    (fun _ _ _ _ _ placed apart tile takes => .relocate placed apart tile takes)
    (fun _ _ _ placed => .clear placed) (fun _ _ _ _ tile takes => .retype tile takes)

theorem Coherent.run (h : b.Coherent) (changes : List Change) : (b.run changes).Coherent := by
  induction changes generalizing b with
  | nil => exact h
  | cons c cs ih => exact ih (h.step (b.attempt_step c))

theorem Step.size {b' : Board} (s : b.Step b') : b'.size = b.size := by
  cases s with
  | refused => rfl
  | relocate => exact (size_updateTile _).trans (size_updateTile _)
  | _ => exact size_updateTile _

/-- A run changes no extent. -/
theorem size_run (changes : List Change) : (b.run changes).size = b.size := by
  induction changes generalizing b with
  | nil => rfl
  | cons c cs ih => exact ih.trans (b.attempt_step c).size

/-- **Occupancy over runs.** After any changes of a blank board, each asked with whatever entity,
coordinate and type: a tile lists an identifier exactly when the index gives its coordinate, then
once and inside the board; and on every tile the recorded layers of any two occupants are disjoint
and open under the tile's present type. A run that is cut short is a run too, so this holds after
every single change. -/
theorem run_occupancy (size : Size) (kind : TileType) (changes : List Change) :
    (∀ id spot, id ∈ ((blank size kind).run changes).occupantsAt spot ↔
      ((blank size kind).run changes).coords? id = some spot) ∧
    (∀ id spot, ((blank size kind).run changes).coords? id = some spot →
      (((blank size kind).run changes).occupantsAt spot).count id = 1 ∧ size.Contains spot) ∧
    ∀ spot t, ((blank size kind).run changes).tile? spot = some t →
      t.occupants.Pairwise (fun o p => o.layers.meets p.layers = false) ∧
      ∀ o ∈ t.occupants, t.kind.blocked.meets o.layers = false := by
  have h : ((blank size kind).run changes).Coherent := (coherent_blank size kind).run changes
  refine ⟨fun id spot => h.listed_iff, ?_, fun spot t ht => ⟨(h.sound ht).apart, (h.sound ht).unblocked⟩⟩
  intro id spot placed
  refine ⟨List.count_eq_one_of_mem (h.nodup_occupantsAt spot) (h.listed_iff.mpr placed), ?_⟩
  have inside := h.contains_of_coords placed
  rw [size_run] at inside
  exact inside

end Skirmish.Board
