import Skirmish.Grid.Size
import Skirmish.Registry
import Skirmish.Tile

/-!
# The board

A board is a grid of tiles together with an **index** that says where each placed entity stands.
Every change keeps the two in step: an identifier is in the occupant list of a tile exactly when the
index gives that tile's coordinate.

Each change comes as a check and a commit. The check says whether the change is possible, and why
not; the commit runs the check and then performs the change as a whole, so that a refused change
leaves no trace. The one who moves brings the layers that it claims now, whatever was recorded when
it was placed.
-/

namespace Skirmish

/-- Where an entity stands. -/
structure Placement where
  id : EntityId
  spot : Coords
  deriving DecidableEq, Repr, Inhabited

instance : HasId Placement := ⟨Placement.id⟩

/-- A grid of tiles with an index of the placed entities. -/
structure Board where
  size : Size
  /-- The tiles in row-major order. -/
  tiles : Array Tile
  tiles_size : tiles.size = size.area
  /-- Where each placed entity stands. -/
  placed : Registry Placement

namespace Board

/-- A board on which every tile has the given type and nobody stands. -/
def blank (size : Size) (kind : TileType) : Board where
  size := size
  tiles := Array.replicate size.area (Tile.vacant kind)
  tiles_size := Array.size_replicate
  placed := .empty

instance : Inhabited Board := ⟨blank ⟨0, 0⟩ default⟩

instance : DecidableEq Board := fun a b =>
  decidable_of_iff (a.size = b.size ∧ a.tiles = b.tiles ∧ a.placed = b.placed)
    ⟨fun ⟨h1, h2, h3⟩ => by cases a; cases b; simp_all, fun h => by simp [h]⟩

/-! ## Queries -/

/-- The tile at a coordinate. -/
def tile? (b : Board) (spot : Coords) : Option Tile := (b.size.index spot).bind (b.tiles[·]?)

/-- Where an entity stands. -/
def coords? (b : Board) (id : EntityId) : Option Coords := (b.placed.get? id).map Placement.spot

/-- Whether an entity stands on the board. -/
def contains (b : Board) (id : EntityId) : Bool := b.placed.contains id

/-- Who stands at a coordinate, in the order of arrival; nobody does out of bounds. -/
def occupantsAt (b : Board) (spot : Coords) : List EntityId :=
  match b.tile? spot with
  | some t => t.ids
  | none => []

/-- The type of the tile at a coordinate. -/
def kindAt? (b : Board) (spot : Coords) : Option TileType := (b.tile? spot).map Tile.kind

/-- All placements, in the order of the identifiers. -/
def placements (b : Board) : List Placement := b.placed.toList

/-! ## Checks -/

/-- Whether an entity can be placed: that it stands nowhere yet is asked first, then that there is a
tile, then that the tile can take it. -/
def checkAdd (b : Board) (who : Occupant) (spot : Coords) : Except BoardError Unit :=
  if b.contains who.id then .error .alreadyPlaced
  else match b.tile? spot with
    | none => .error .outOfBounds
    | some t => t.checkAdd who.layers

/-- Whether an entity can move: onto its own tile it always can. -/
def checkMove (b : Board) (who : Occupant) (goal : Coords) : Except BoardError Unit :=
  match b.coords? who.id with
  | none => .error .notPlaced
  | some home =>
    match b.tile? goal with
    | none => .error .outOfBounds
    | some t => if goal = home then .ok () else t.checkAdd who.layers

/-- Whether the tile at a coordinate can take on another type. -/
def checkModify (b : Board) (kind : TileType) (spot : Coords) : Except BoardError Unit :=
  match b.tile? spot with
  | none => .error .outOfBounds
  | some t => t.checkModify kind

/-! ## Commits -/

/-- The board with the tile at a coordinate changed; out of bounds there is none to change. -/
def updateTile (b : Board) (spot : Coords) (f : Tile → Tile) : Board :=
  match b.size.index spot with
  | none => b
  | some i => { b with tiles := b.tiles.modify i f, tiles_size := by simp [b.tiles_size] }

/-- The board with the index changed. -/
def reindex (b : Board) (f : Registry Placement → Registry Placement) : Board :=
  { b with placed := f b.placed }

/-- The board after an entity has come to a tile. -/
def place (b : Board) (who : Occupant) (spot : Coords) : Board :=
  (b.updateTile spot (·.receive who)).reindex (·.insert ⟨who.id, spot⟩)

/-- The board after an entity has gone from a tile. -/
def clear (b : Board) (id : EntityId) (spot : Coords) : Board :=
  (b.updateTile spot (·.release id)).reindex (·.erase id)

/-- The board after an entity has gone from one tile to another. -/
def relocate (b : Board) (who : Occupant) (home goal : Coords) : Board :=
  ((b.updateTile goal (·.receive who)).updateTile home (·.release who.id)).reindex (·.insert ⟨who.id, goal⟩)

/-- Places an entity. -/
def add (b : Board) (who : Occupant) (spot : Coords) : Except BoardError Board :=
  match b.checkAdd who spot with
  | .error e => .error e
  | .ok () => .ok (b.place who spot)

/-- Moves a placed entity, and tells where it stood before. -/
def move (b : Board) (who : Occupant) (goal : Coords) : Except BoardError (Coords × Board) :=
  match b.checkMove who goal, b.coords? who.id with
  | .error e, _ => .error e
  | .ok (), none => .error .notPlaced
  | .ok (), some home => .ok (home, if goal = home then b else b.relocate who home goal)

/-- Removes an entity, and tells where it stood. -/
def remove (b : Board) (id : EntityId) : Except BoardError (Coords × Board) :=
  match b.coords? id with
  | none => .error .notPlaced
  | some home => .ok (home, b.clear id home)

/-- Gives the tile at a coordinate another type, and tells the type that it had. -/
def modify (b : Board) (kind : TileType) (spot : Coords) : Except BoardError (TileType × Board) :=
  match b.checkModify kind spot, b.tile? spot with
  | .error e, _ => .error e
  | .ok (), none => .error .outOfBounds
  | .ok (), some t => .ok (t.kind, b.updateTile spot ({ · with kind := kind }))

end Board

end Skirmish
