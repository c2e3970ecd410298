import Skirmish.Entity.Id
import Skirmish.Entity.Type

/-!
# Entities

An entity is an instance of a type with a health of its own. It starts at the full health of its
type; damage takes at most what is left, healing gives at most what is missing. Where an entity
stands is the board's affair.
-/

namespace Skirmish

/-- An instance of an entity type. -/
structure Entity where
  id : EntityId
  kind : EntityType
  health : Nat
  deriving DecidableEq, Repr, Inhabited

namespace Entity

instance : HasId Entity := ⟨Entity.id⟩

/-- A new entity, at full health. -/
def fresh (id : EntityId) (kind : EntityType) : Entity := ⟨id, kind, kind.maxHealth⟩

/-- Whether any health is left. -/
def isAlive (e : Entity) : Bool := decide (0 < e.health)

/-- The layers that the entity claims. -/
def layers (e : Entity) : Layers := e.kind.domain.layers

/-- How much of a damage the entity absorbs. -/
def absorbed (e : Entity) (damage : Nat) : Nat := min damage e.health

/-- How much of a healing the entity takes up. -/
def restored (e : Entity) (healing : Nat) : Nat := min healing (e.kind.maxHealth - e.health)

/-- The entity after a damage. -/
def hurt (e : Entity) (damage : Nat) : Entity := { e with health := e.health - e.absorbed damage }

/-- The entity after a healing. -/
def healed (e : Entity) (healing : Nat) : Entity := { e with health := e.health + e.restored healing }

theorem hurt_le {e : Entity} (h : e.health ≤ e.kind.maxHealth) (n : Nat) :
    (e.hurt n).health ≤ (e.hurt n).kind.maxHealth :=
  Nat.le_trans (Nat.sub_le _ _) h

theorem healed_le {e : Entity} (h : e.health ≤ e.kind.maxHealth) (n : Nat) :
    (e.healed n).health ≤ (e.healed n).kind.maxHealth := by
  show e.health + min n (e.kind.maxHealth - e.health) ≤ e.kind.maxHealth
  omega

end Entity

end Skirmish
