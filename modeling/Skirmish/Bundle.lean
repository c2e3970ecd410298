import Skirmish.Definition
import Skirmish.Grid.Size

/-!
# Content bundles

A bundle holds all that is needed to start a game: the extent of the board, the type that every tile
has at first, and the tile types, entity types and abilities of the game. Where an id is looked up,
the first definition of that id answers.

**Validation** asks first for identities: the bundle's id, then tile types, entity types and
abilities, each list in order. Then it asks for references: the default tile, and every tile type and
entity type that an effect carries at any depth, must be registered with the same content.
-/

namespace Skirmish

/-- The content of a game. -/
structure Bundle where
  id : String
  size : Size
  /-- The type that every tile has at first. -/
  defaultTile : TileType
  tileTypes : List TileType
  entityTypes : List EntityType
  abilities : List Ability
  deriving DecidableEq, Repr, Inhabited

namespace Bundle

/-- The tile type of an id. -/
def tileType? (b : Bundle) (id : String) : Option TileType := b.tileTypes.find? (fun k => k.id == id)

/-- The entity type of an id. -/
def entityType? (b : Bundle) (id : String) : Option EntityType :=
  b.entityTypes.find? (fun k => k.id == id)

/-- The ability of an id. -/
def ability? (b : Bundle) (id : String) : Option Ability := b.abilities.find? (fun a => a.id == id)

/-! ## Validation -/

/-- Every id of a list must be there and stand for one definition; `seen` holds the ids before. -/
def checkIds (kind : DefinitionKind) (seen : List String) : List String → Except DefinitionError Unit
  | [] => .ok ()
  | id :: ids =>
    if id = "" then .error (.missingId kind)
    else if id ∈ seen then .error (.duplicateId kind id)
    else checkIds kind (id :: seen) ids

/-- A tile type must be registered as it stands. -/
def checkTileType (b : Bundle) (kind : TileType) : Except DefinitionError Unit :=
  if b.tileType? kind.id = some kind then .ok () else .error (.unknownReference .tileType kind.id)

/-- An entity type must be registered as it stands. -/
def checkEntityType (b : Bundle) (kind : EntityType) : Except DefinitionError Unit :=
  if b.entityType? kind.id = some kind then .ok ()
  else .error (.unknownReference .entityType kind.id)

/-- What an action carries must be registered. -/
def checkAction (b : Bundle) : Action → Except DefinitionError Unit
  | .modification _ kind => b.checkTileType kind
  | .spawn _ kind => b.checkEntityType kind
  | _ => .ok ()

mutual

/-- What an effect carries, at any depth, must be registered. -/
def checkEffect (b : Bundle) : Effect → Except DefinitionError Unit
  | .act action => b.checkAction action
  | .group _ _ _ effects => b.checkEffects effects

/-- What effects carry must be registered; the first that is not decides the error. -/
def checkEffects (b : Bundle) : List Effect → Except DefinitionError Unit
  | [] => .ok ()
  | effect :: effects => do
    b.checkEffect effect
    b.checkEffects effects

end

/-- **Validates a bundle.** -/
def validate (b : Bundle) : Except DefinitionError Unit := do
  if b.id = "" then throw (.missingId .bundle)
  checkIds .tileType [] (b.tileTypes.map TileType.id)
  checkIds .entityType [] (b.entityTypes.map EntityType.id)
  checkIds .ability [] (b.abilities.map Ability.id)
  b.checkTileType b.defaultTile
  b.abilities.forM fun a => b.checkEffects a.effects

end Bundle

end Skirmish
