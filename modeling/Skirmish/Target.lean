import Skirmish.Entity.Id
import Skirmish.Fault
import Skirmish.Grid.Coords

/-!
# Targets of effects

An effect speaks of its targets by name. A name is bound to an entity, to a coordinate, or to a
group of entities in a fixed order. Where an effect asks for a location, an entity and a coordinate
will both do.
-/

namespace Skirmish

/-- What a name can be bound to. -/
inductive Target where
  | entity (id : EntityId)
  | coords (spot : Coords)
  | group (members : List EntityId)
  deriving DecidableEq, Repr, Inhabited

/-- A point of interest: an entity, wherever it stands, or a fixed coordinate. -/
inductive Location where
  | entity (id : EntityId)
  | coords (spot : Coords)
  deriving DecidableEq, Repr, Inhabited

/-- What an effect can ask of a name. -/
inductive TargetKind where
  | entity
  | coords
  | group
  /-- An entity or a coordinate. -/
  | location
  deriving DecidableEq, Repr, Inhabited

namespace TargetKind

/-- The word for a kind. -/
def name : TargetKind → String
  | entity => "entity"
  | coords => "coords"
  | group => "group"
  | location => "location"

end TargetKind

namespace Target

/-- The kind of a target. -/
def kind : Target → TargetKind
  | entity _ => .entity
  | coords _ => .coords
  | group _ => .group

/-- The location that a target is; a group is none. -/
def location? : Target → Option Location
  | entity id => some (.entity id)
  | coords spot => some (.coords spot)
  | group _ => none

end Target

/-- Why a name cannot be resolved or bound: in each case the definition that uses it is broken. -/
inductive TargetError where
  /-- No scope binds the name. -/
  | missing (name : String)
  /-- The name is bound to something of another kind. -/
  | wrongKind (name : String) (expected found : TargetKind)
  /-- The innermost scope binds the name already. -/
  | alreadyBound (name : String)
  deriving DecidableEq, Repr, Inhabited

namespace TargetError

/-- The name that an error is about. -/
def name : TargetError → String
  | missing name => name
  | wrongKind name _ _ => name
  | alreadyBound name => name

instance : Fault TargetError where
  code
    | missing _ => "TARGET_MISSING"
    | wrongKind _ _ _ => "TARGET_WRONG_KIND"
    | alreadyBound _ => "TARGET_ALREADY_BOUND"
  message
    | missing name => "target '" ++ name ++ "' is not bound"
    | wrongKind name expected found =>
      "target '" ++ name ++ "' is bound to " ++ found.name ++ ", expected " ++ expected.name
    | alreadyBound name => "target '" ++ name ++ "' is already bound in this scope"
  severity _ := .fatal

end TargetError

end Skirmish
