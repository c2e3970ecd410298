import Skirmish.Board.Area
import Skirmish.Proofs.Board.Views
import Skirmish.World.Operations

/-!
# Worlds in another guise

A type says what the rules ask of it, and it says how its tiles or entities are shown. A **guise** gives
each type another look and leaves alone what the rules ask (`Guise`). A world puts on a guise when every
tile and every entity in it takes its type from the guise (`World.wear`).

**The law** is that every operation of the world does in any guise what it does without: it is refused or
not as before, and its entry and the next world wear the guise too (`damage_wear` to `projectile_wear`).
The operations of the board come first, then those of the world.

**What it does not establish.** A guise may also change the ids of types. The law says that no operation
asks for them; a game does, where it looks up a definition.
-/

namespace Skirmish

/-- **A guise**: a look for each type, with the same rules. -/
structure Guise where
  tile : TileType → TileType
  entity : EntityType → EntityType
  /-- What is told of the members of a group, whether they may be shown at once. -/
  parallel : Bool → Bool
  blocked : ∀ k, (tile k).blocked = k.blocked
  domain : ∀ k, (entity k).domain = k.domain
  isAgent : ∀ k, (entity k).isAgent = k.isAgent
  maxHealth : ∀ k, (entity k).maxHealth = k.maxHealth
  /-- What happens in sequence is never shown at once. -/
  sequence : parallel false = false

/-! ## Values in a guise -/

def Entity.wear (g : Guise) (e : Entity) : Entity := { e with kind := g.entity e.kind }

def Registry.wear (g : Guise) (r : Registry Entity) : Registry Entity where
  entries := r.entries.map (Entity.wear g)
  sorted := List.pairwise_map.mpr r.sorted

def Tile.wear (g : Guise) (t : Tile) : Tile := { t with kind := g.tile t.kind }

def Board.wear (g : Guise) (b : Board) : Board :=
  { b with tiles := b.tiles.map (Tile.wear g), tiles_size := by rw [Array.size_map, b.tiles_size] }

def World.wear (g : Guise) (w : World) : World where
  nextId := w.nextId
  board := w.board.wear g
  entities := w.entities.wear g

def Entry.wear (g : Guise) : Entry → Entry
  | .spawn id kind spot => .spawn id (g.entity kind) spot
  | .destruction e spot => .destruction (e.wear g) spot
  | .modification spot previous current => .modification spot (g.tile previous) (g.tile current)
  | entry => entry

variable {g : Guise}

/-! ## Registries -/

namespace Registry

variable (r : Registry Entity)

theorem get?_wear (i : EntityId) : (r.wear g).get? i = (r.get? i).map (Entity.wear g) :=
  List.find?_map ..

theorem insert_wear (e : Entity) : (r.wear g).insert (e.wear g) = (r.insert e).wear g := by
  apply ext_get?
  intro i
  rw [get?_wear, get?_insert, get?_insert, get?_wear]
  show (if idOf e = i then _ else _) = _
  split <;> rfl

theorem erase_wear (i : EntityId) : (r.wear g).erase i = (r.erase i).wear g := by
  apply ext_get?
  intro j
  rw [get?_wear, get?_erase, get?_erase, get?_wear]
  split <;> rfl

end Registry

/-! ## Tiles and boards -/

namespace Tile

variable (t : Tile)

theorem checkAdd_wear (layers : Layers) : (t.wear g).checkAdd layers = t.checkAdd layers := by
  rw [checkAdd, wear, g.blocked]
  rfl

theorem checkModify_wear (kind : TileType) :
    (t.wear g).checkModify (g.tile kind) = t.checkModify kind := by
  rw [checkModify, g.blocked]
  rfl

end Tile

namespace Board

variable {b : Board} {spot goal : Coords} {who : Occupant} {id : EntityId} {kind : TileType}

theorem tile?_wear : (b.wear g).tile? spot = (b.tile? spot).map (Tile.wear g) := tile?_mapTiles _

theorem coords?_wear : (b.wear g).coords? id = b.coords? id := rfl

theorem occupantsAt_wear : (b.wear g).occupantsAt spot = b.occupantsAt spot := by
  rw [occupantsAt, occupantsAt, tile?_wear]
  cases b.tile? spot <;> rfl

theorem within_wear (centre : Coords) (radius : Nat) :
    (b.wear g).within centre radius = b.within centre radius := by
  simp only [within, occupantsAt_wear]
  rfl

/-- A change of a tile that does not mind the guise. -/
theorem updateTile_wear {f f' : Tile → Tile} (same : ∀ t : Tile, f' (t.wear g) = (f t).wear g) :
    (b.wear g).updateTile spot f' = (b.updateTile spot f).wear g :=
  updateTile_mapTiles same

theorem place_wear : (b.wear g).place who spot = (b.place who spot).wear g := by
  unfold place
  rw [updateTile_wear (f := (·.receive who)) fun _ => rfl]
  rfl

theorem clear_wear : (b.wear g).clear id spot = (b.clear id spot).wear g := by
  unfold clear
  rw [updateTile_wear (f := (·.release id)) fun _ => rfl]
  rfl

theorem relocate_wear {home : Coords} :
    (b.wear g).relocate who home goal = (b.relocate who home goal).wear g := by
  unfold relocate
  rw [updateTile_wear (f := (·.receive who)) fun _ => rfl, updateTile_wear (f := (·.release who.id)) fun _ => rfl]
  rfl

theorem checkAdd_wear : (b.wear g).checkAdd who spot = b.checkAdd who spot := by
  rw [checkAdd, checkAdd, tile?_wear]
  cases b.tile? spot with
  | none => rfl
  | some t => exact congrArg (ite _ _) (t.checkAdd_wear who.layers)

theorem checkMove_wear : (b.wear g).checkMove who goal = b.checkMove who goal := by
  rw [checkMove, checkMove, tile?_wear, coords?_wear]
  cases b.tile? goal with
  | none => rfl
  | some t => simp only [Option.map_some, t.checkAdd_wear]

theorem checkModify_wear : (b.wear g).checkModify (g.tile kind) spot = b.checkModify kind spot := by
  rw [checkModify, checkModify, tile?_wear]
  cases b.tile? spot with
  | none => rfl
  | some t => exact t.checkModify_wear kind

theorem add_wear : (b.wear g).add who spot = (b.add who spot).map (wear g) := by
  rw [add, add, checkAdd_wear, place_wear]
  cases b.checkAdd who spot <;> rfl

theorem move_wear :
    (b.wear g).move who goal = (b.move who goal).map fun (home, b') => (home, b'.wear g) := by
  rw [move, move, checkMove_wear, coords?_wear]
  cases b.checkMove who goal with
  | error e => rfl
  | ok _ =>
    cases b.coords? who.id with
    | none => rfl
    | some home =>
      simp only [relocate_wear, Except.map]
      split <;> rfl

theorem remove_wear : (b.wear g).remove id = (b.remove id).map fun (home, b') => (home, b'.wear g) := by
  rw [remove, remove, coords?_wear]
  cases b.coords? id with
  | none => rfl
  | some home => simp only [clear_wear, Except.map]

theorem modify_wear : (b.wear g).modify (g.tile kind) spot =
    (b.modify kind spot).map fun (previous, b') => (g.tile previous, b'.wear g) := by
  rw [modify, modify, checkModify_wear, tile?_wear]
  cases b.checkModify kind spot with
  | error e => rfl
  | ok _ =>
    cases b.tile? spot with
    | none => rfl
    | some t =>
      simp only [Option.map_some, Except.map]
      rw [updateTile_wear (f := ({ · with kind := kind })) fun _ => rfl]
      rfl

end Board

/-! ## The operations of the world -/

namespace World

variable {w : World} {id : EntityId}

/-- What an operation answers, in a guise. -/
def dressed (g : Guise) (done : Option Entry × World) : Option Entry × World :=
  (done.1.map (Entry.wear g), done.2.wear g)

theorem entity?_wear : (w.wear g).entity? id = (w.entity? id).map (Entity.wear g) :=
  Registry.get?_wear w.entities id

theorem board_wear : (w.wear g).board = w.board.wear g := rfl

theorem nextId_wear : (w.wear g).nextId = w.nextId := rfl

theorem coords?_wear : (w.wear g).coords? id = w.coords? id := rfl

theorem locate_wear (location : Location) : (w.wear g).locate location = w.locate location := by
  cases location <;> rfl

theorem health?_wear : (w.wear g).health? id = w.health? id := by
  rw [health?, health?, entity?_wear, Option.map_map]
  rfl

theorem damage_wear (target : EntityId) (amount : Amount) (attacker : Option EntityId) :
    (w.wear g).damage target amount attacker = dressed g (w.damage target amount attacker) := by
  rw [damage, damage, entity?_wear]
  cases w.entity? target with
  | none => rfl
  | some e =>
    refine congrArg (Prod.mk _) ?_
    exact congrArg (World.mk _ _) (Registry.insert_wear w.entities (e.hurt amount.resolve))

theorem restored_wear (e : Entity) (healing : Nat) : (e.wear g).restored healing = e.restored healing := by
  rw [Entity.restored, Entity.wear, g.maxHealth]
  rfl

theorem heal_wear (target : EntityId) (amount : Amount) (healer : Option EntityId) :
    (w.wear g).heal target amount healer = dressed g (w.heal target amount healer) := by
  rw [heal, heal, entity?_wear]
  cases w.entity? target with
  | none => rfl
  | some e =>
    have healed : (e.wear g).healed amount.resolve = (e.healed amount.resolve).wear g := by
      rw [Entity.healed, restored_wear]
      rfl
    simp only [Option.map_some, restored_wear, healed]
    refine congrArg (Prod.mk _) ?_
    exact congrArg (World.mk _ _) (Registry.insert_wear w.entities (e.healed amount.resolve))

theorem discard_wear (target : EntityId) : (w.wear g).discard target =
    ((w.discard target).1.map fun (e, spot) => (e.wear g, spot), (w.discard target).2.wear g) := by
  rw [discard, discard, entity?_wear, board_wear, Board.remove_wear]
  cases w.board.remove target with
  | error e => rfl
  | ok gone =>
    cases w.entity? target with
    | none => rfl
    | some e =>
      refine congrArg (Prod.mk _) ?_
      exact congrArg (World.mk _ _) (Registry.erase_wear w.entities target)

theorem destroy_wear (target : EntityId) :
    (w.wear g).destroy target = dressed g (w.destroy target) := by
  rw [destroy, destroy, discard_wear]
  obtain ⟨gone, w'⟩ := w.discard target
  cases gone <;> rfl

theorem fresh_wear (kind : EntityType) :
    Entity.fresh id (g.entity kind) = (Entity.fresh id kind).wear g := by
  rw [Entity.fresh, g.maxHealth]
  rfl

theorem occupant_wear (e : Entity) : (e.wear g).occupant = e.occupant := by
  rw [Entity.occupant, Entity.layers, Entity.wear, g.domain]
  rfl

theorem create_wear (kind : EntityType) (spot : Coords) : (w.wear g).create (g.entity kind) spot =
    (w.create kind spot).map fun (id, w') => (id, w'.wear g) := by
  by_cases spent : EntityId.last ≤ w.nextId
  · rw [create, create, nextId_wear, if_pos spent, if_pos spent]
    rfl
  · simp only [create, nextId_wear, if_neg spent, fresh_wear, occupant_wear, board_wear, Board.add_wear]
    cases w.board.add (Entity.fresh ⟨w.nextId⟩ kind).occupant spot with
    | error e => rfl
    | ok b =>
      refine congrArg (fun r => Except.ok (_, World.mk _ _ r)) ?_
      exact Registry.insert_wear w.entities (Entity.fresh ⟨w.nextId⟩ kind)

theorem spawn_wear (kind : EntityType) (spot : Coords) :
    (w.wear g).spawn (g.entity kind) spot = dressed g (w.spawn kind spot) := by
  rw [spawn, spawn, create_wear]
  cases w.create kind spot <;> rfl

theorem moveEntity_wear (target : EntityId) (aim : Coords) (relative : Bool) :
    (w.wear g).moveEntity target aim relative = dressed g (w.moveEntity target aim relative) := by
  rw [moveEntity, moveEntity, coords?_wear, entity?_wear]
  cases w.coords? target with
  | none => rfl
  | some home =>
    cases w.entity? target with
    | none => rfl
    | some e =>
      simp only [Option.map_some, occupant_wear, board_wear, Board.move_wear]
      cases w.board.move e.occupant (if relative then home + aim else aim) <;> rfl

theorem modify_wear (kind : TileType) (spot : Coords) :
    (w.wear g).modify (g.tile kind) spot = dressed g (w.modify kind spot) := by
  rw [modify, modify, board_wear, Board.modify_wear]
  cases w.board.modify kind spot <;> rfl

theorem projectile_wear (source target : Location) :
    (w.wear g).projectile source target = dressed g (w.projectile source target) := rfl

end World

end Skirmish
