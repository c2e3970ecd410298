import Skirmish.Board.Fault
import Skirmish.Entity.Id
import Skirmish.Tile.Type

/-!
# Tiles and their occupants

A tile has a type and the entities that stand on it, in the order in which they came, each with the
layers that it claims. There is no limit on their number: a newcomer is refused only when the type
blocks one of its layers, or when an occupant already claims one.
-/

namespace Skirmish

/-- An entity on a tile, or about to be: its identifier and the layers that it claims. -/
structure Occupant where
  id : EntityId
  layers : Layers
  deriving DecidableEq, Repr, Inhabited

/-- A cell of the board. -/
structure Tile where
  kind : TileType
  /-- Who stands here, in the order of arrival. -/
  occupants : List Occupant
  deriving DecidableEq, Repr, Inhabited

namespace Tile

/-- A tile of the given type on which nobody stands. -/
def vacant (kind : TileType) : Tile := ⟨kind, []⟩

/-- The identifiers of those who stand here, in the order of arrival. -/
def ids (t : Tile) : List EntityId := t.occupants.map Occupant.id

/-- The layers claimed by any occupant. -/
def claimed (t : Tile) : Layers := t.occupants.foldl (fun acc o => acc ∪ o.layers) .empty

/-- Whether a claim can be added: the type is asked first, then the occupants. -/
def checkAdd (t : Tile) (layers : Layers) : Except BoardError Unit :=
  if t.kind.blocked.meets layers then .error .blocked
  else if t.claimed.meets layers then .error .occupied
  else .ok ()

/-- Whether the tile can take on another type: no occupant may claim what the type blocks. -/
def checkModify (t : Tile) (kind : TileType) : Except BoardError Unit :=
  if kind.blocked.meets t.claimed then .error .blocked else .ok ()

/-- The tile with a last occupant. -/
def receive (t : Tile) (o : Occupant) : Tile := { t with occupants := t.occupants ++ [o] }

/-- The tile without an occupant. -/
def release (t : Tile) (id : EntityId) : Tile :=
  { t with occupants := t.occupants.eraseP (fun o => decide (o.id = id)) }

end Tile

end Skirmish
