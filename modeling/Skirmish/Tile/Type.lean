import Skirmish.Layers

/-!
# Tile types

A tile type is a definition: a name for a kind of ground, what it blocks, and a tag for whoever
draws it.
-/

namespace Skirmish

/-- A kind of tile. -/
structure TileType where
  id : String
  name : String
  blocksGround : Bool
  blocksAir : Bool
  /-- A tag for the presentation; the rules never read it. -/
  visuals : String
  deriving DecidableEq, Repr, Inhabited

namespace TileType

/-- An open tile type whose name is its id. -/
def plain (id : String) : TileType := ⟨id, id, false, false, ""⟩

/-- The layers that no entity may claim on a tile of this type. -/
def blocked (k : TileType) : Layers :=
  Layers.when k.blocksGround .ground ∪ Layers.when k.blocksAir .air

end TileType

end Skirmish
