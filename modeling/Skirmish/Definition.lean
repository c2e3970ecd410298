import Skirmish.Effect
import Skirmish.Fault

/-!
# Definitions and their identities

Tile types, entity types and abilities are definitions: each has an id by which others speak of it,
and inside a kind an id must stand for one content. Definitions are compared by content.
-/

namespace Skirmish

/-- The kinds of definitions. -/
inductive DefinitionKind where
  | bundle
  | tileType
  | entityType
  | ability
  | effect
  deriving DecidableEq, Repr, Inhabited

namespace DefinitionKind

/-- The word for a kind. -/
def name : DefinitionKind → String
  | bundle => "bundle"
  | tileType => "tile_type"
  | entityType => "entity_type"
  | ability => "ability"
  | effect => "effect"

/-- The directory for the files of a kind. A bundle lies above the directories, and effects have no
files of their own. -/
def directory? : DefinitionKind → Option String
  | tileType => some "tile_types"
  | entityType => some "entity_types"
  | ability => some "abilities"
  | bundle | effect => none

end DefinitionKind

/-- What is wrong with definitions. -/
inductive DefinitionError where
  | missingId (kind : DefinitionKind)
  | duplicateId (kind : DefinitionKind) (id : String)
  | unknownReference (kind : DefinitionKind) (id : String)
  deriving DecidableEq, Repr, Inhabited

namespace DefinitionError

instance : Fault DefinitionError where
  code
    | missingId _ => "DEFINITION_MISSING_ID"
    | duplicateId _ _ => "DEFINITION_DUPLICATE_ID"
    | unknownReference _ _ => "DEFINITION_UNKNOWN_REFERENCE"
  message
    | missingId kind => kind.name ++ " definition has an empty id"
    | duplicateId kind id => kind.name ++ " id '" ++ id ++ "' is defined more than once"
    | unknownReference kind id => kind.name ++ " '" ++ id ++ "' is referenced but not registered"
  severity _ := .validation

end DefinitionError

/-- A definition that others can refer to. -/
inductive Definition where
  | tileType (kind : TileType)
  | entityType (kind : EntityType)
  | ability (ability : Ability)
  deriving DecidableEq, Repr, Inhabited

namespace Definition

/-- The kind of a definition. -/
def kind : Definition → DefinitionKind
  | tileType _ => .tileType
  | entityType _ => .entityType
  | ability _ => .ability

/-- The id of a definition. -/
def id : Definition → String
  | tileType k => k.id
  | entityType k => k.id
  | ability a => a.id

/-- Whether two definitions claim one identity for different contents. -/
def conflictsWith (a b : Definition) : Bool :=
  decide (a.kind = b.kind) && decide (a.id = b.id) && decide (a ≠ b)

end Definition

end Skirmish
