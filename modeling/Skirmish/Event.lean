import Skirmish.Turns
import Skirmish.World.Operations

/-!
# Events

An effect never touches the world: it submits an event. Performing an event runs exactly one
operation of the world and keeps the turn order in step: agents that are spawned join it, entities
that are destroyed leave it. An event may call for **reactions**: damage that leaves its target
without health calls for the target's destruction, and nothing else calls for anything.
-/

namespace Skirmish

/-- A change that is to be made. -/
inductive Event where
  | damage (target : EntityId) (amount : Amount) (attacker : Option EntityId)
  | heal (target : EntityId) (amount : Amount) (healer : Option EntityId)
  | destroy (entity : EntityId)
  | spawn (kind : EntityType) (spot : Coords)
  | move (entity : EntityId) (goal : Coords) (relative : Bool)
  | modify (kind : TileType) (spot : Coords)
  | projectile (source target : Location)
  deriving DecidableEq, Repr, Inhabited

/-- The world and the turn order: all that play changes. -/
structure Arena where
  world : World
  turns : Turns
  deriving DecidableEq, Inhabited

/-- What an event did: the arena after it, the entry if it was not refused, and the reactions that
it calls for, in the order in which they should be resolved. -/
structure Outcome where
  arena : Arena
  entry : Option Entry
  reactions : List Event
  deriving DecidableEq, Inhabited

namespace Arena

/-- The outcome of an operation that was asked of the world: a refused one leaves the turn order as it
is and calls for nothing. -/
def settle (a : Arena) (done : Option Entry × World) (turns : Entry → Turns → Turns)
    (reactions : World → List Event) : Outcome :=
  match done with
  | (none, world) => ⟨{ a with world := world }, none, []⟩
  | (some entry, world) => ⟨⟨world, turns entry a.turns⟩, some entry, reactions world⟩

end Arena

namespace Event

/-- The destruction that damage calls for, when it left its target without health. -/
def defeat (target : EntityId) (w : World) : List Event :=
  match w.entity? target with
  | some e => if e.isAlive then [] else [.destroy target]
  | none => []

/-- The turn order after a spawn: an agent joins it. -/
def enlist (kind : EntityType) : Entry → Turns → Turns
  | .spawn id _ _, turns => if kind.isAgent then turns.join id else turns
  | _, turns => turns

/-- **Performs an event.** -/
def perform (a : Arena) : Event → Outcome
  | .damage target amount attacker =>
    a.settle (a.world.damage target amount attacker) (fun _ t => t) (defeat target)
  | .heal target amount healer =>
    a.settle (a.world.heal target amount healer) (fun _ t => t) (fun _ => [])
  | .destroy entity =>
    a.settle (a.world.destroy entity) (fun _ t => t.leave entity) (fun _ => [])
  | .spawn kind spot =>
    a.settle (a.world.spawn kind spot) (enlist kind) (fun _ => [])
  | .move entity goal relative =>
    a.settle (a.world.moveEntity entity goal relative) (fun _ t => t) (fun _ => [])
  | .modify kind spot =>
    a.settle (a.world.modify kind spot) (fun _ t => t) (fun _ => [])
  | .projectile source target =>
    a.settle (a.world.projectile source target) (fun _ t => t) (fun _ => [])

/-- A bound on the number of events that resolving an event can take. -/
def weight : Event → Nat
  | .damage .. => 2
  | _ => 1

/-- What events weigh together. -/
def totalWeight : List Event → Nat
  | [] => 0
  | e :: es => e.weight + totalWeight es

/-- The reactions to an event weigh less than the event. -/
theorem weight_reactions (a : Arena) (e : Event) :
    totalWeight (perform a e).reactions < e.weight := by
  cases e with
  | damage target amount attacker =>
    simp only [perform, Arena.settle]
    split
    · simp [totalWeight, weight]
    · simp only [defeat]
      split
      · split <;> simp [totalWeight, weight]
      · simp [totalWeight, weight]
  | _ =>
    simp only [perform, Arena.settle]
    split <;> simp [totalWeight, weight]

end Event

end Skirmish
