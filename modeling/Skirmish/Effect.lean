import Skirmish.Amount
import Skirmish.Entity.Type
import Skirmish.Tile.Type

/-!
# Effects and abilities

An **action** is one step of an ability; it names its targets and never holds them. An **effect** is
an action, or a group: the effects of a group are cast once for each member, with the member bound
to a name of the group's choice. An **ability** is a named sequence of effects.
-/

namespace Skirmish

/-- One step of an ability. -/
inductive Action where
  /-- Takes health from the entity named `target`, to the credit of the entity named `attacker`. -/
  | damage (target : String) (attacker : Option String) (amount : Amount)
  /-- Gives health to the entity named `target`, to the credit of the entity named `healer`. -/
  | healing (target : String) (healer : Option String) (amount : Amount)
  /-- Takes the entity named `target` out of the game. -/
  | destruction (target : String)
  /-- Gives the tile at the location named `spot` another type. -/
  | modification (spot : String) (kind : TileType)
  /-- Creates an entity at the location named `spot`. -/
  | spawn (spot : String) (kind : EntityType)
  /-- Moves the entity named `entity`: to the location named `goal`, or by the displacement of that
  name. -/
  | movement (entity goal : String) (relative : Bool)
  /-- Shows a projectile on its way from one named location to another. -/
  | projectile (source target : String)
  /-- Binds those within a radius of the location named `source` to the name `newGroup`. -/
  | areaTarget (source : String) (radius : Nat) (newGroup : String)
  deriving DecidableEq, Repr, Inhabited

/-- An action, or a list of effects to be cast for each member of a group. -/
inductive Effect where
  | act (action : Action)
  /-- Casts `effects` for each member of the group named `members`, bound to the name `newTarget`.
  `parallel` tells the presentation that the members may be shown at once. -/
  | group (members newTarget : String) (parallel : Bool) (effects : List Effect)
  deriving Repr, Inhabited

mutual

/-- Equality of effects is decided structurally. -/
def Effect.decEq : (a b : Effect) → Decidable (a = b)
  | .act a, .act b => decidable_of_iff (a = b) (by simp)
  | .act _, .group .. => isFalse nofun
  | .group .., .act _ => isFalse nofun
  | .group g v p es, .group g' v' p' es' =>
    match Effect.decEqList es es' with
    | isTrue h => decidable_of_iff (g = g' ∧ v = v' ∧ p = p') (by simp [h])
    | isFalse h => isFalse (by simp [h])

/-- Equality of lists of effects is decided structurally. -/
def Effect.decEqList : (a b : List Effect) → Decidable (a = b)
  | [], [] => isTrue rfl
  | [], _ :: _ => isFalse nofun
  | _ :: _, [] => isFalse nofun
  | a :: as, b :: bs =>
    match Effect.decEq a b with
    | isFalse h => isFalse (by simp [h])
    | isTrue h =>
      match Effect.decEqList as bs with
      | isTrue k => isTrue (by rw [h, k])
      | isFalse k => isFalse (by simp [k])

end

instance : DecidableEq Effect := Effect.decEq

/-- The name of a constructor of effects. -/
inductive EffectKind where
  | damage
  | healing
  | destruction
  | modification
  | spawn
  | movement
  | projectile
  | group
  | areaTarget
  deriving DecidableEq, Repr, Inhabited

namespace EffectKind

/-- The word for a kind of effect. -/
def name : EffectKind → String
  | damage => "damage"
  | healing => "healing"
  | destruction => "destruction"
  | modification => "modification"
  | spawn => "spawn"
  | movement => "movement"
  | projectile => "projectile"
  | group => "group"
  | areaTarget => "area_target"

/-- All kinds of effects. -/
def all : List EffectKind :=
  [damage, healing, destruction, modification, spawn, movement, projectile, group, areaTarget]

/-- The kind named by a word. -/
def ofName? (word : String) : Option EffectKind := all.find? (fun k => k.name == word)

/-- Combinators bind names for other effects; all others change the world or show something. -/
def isCombinator : EffectKind → Bool
  | group | areaTarget => true
  | _ => false

end EffectKind

/-- The kind of an action. -/
def Action.kind : Action → EffectKind
  | damage .. => .damage
  | healing .. => .healing
  | destruction .. => .destruction
  | modification .. => .modification
  | spawn .. => .spawn
  | movement .. => .movement
  | projectile .. => .projectile
  | areaTarget .. => .areaTarget

/-- The kind of an effect. -/
def Effect.kind : Effect → EffectKind
  | act a => a.kind
  | group .. => .group

/-- The effects that stand inside an effect. -/
def Effect.children : Effect → List Effect
  | act _ => []
  | group _ _ _ effects => effects

/-- A named sequence of effects. -/
structure Ability where
  id : String
  name : String
  effects : List Effect
  deriving DecidableEq, Repr, Inhabited

/-- An ability without effects, named by its id. -/
def Ability.plain (id : String) : Ability := ⟨id, id, []⟩

end Skirmish
