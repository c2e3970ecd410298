import Skirmish.Bundle
import Skirmish.Casting
import Skirmish.Config

/-!
# Games

A game is a validated bundle in play: a world, a turn order and the settings. Abilities are cast one
at a time, by any entity or by the one whose turn it is. A cast that fails keeps what it changed
before it failed, and the one whose turn it was keeps the turn.
-/

namespace Skirmish

/-- A game in play. -/
structure Game where
  content : Bundle
  config : Config
  arena : Arena
  deriving DecidableEq, Inhabited

/-- A step of a game: it changes the game and answers or fails, and what it changed before a failure
stays. -/
abbrev Play := EStateM CastError Game

namespace Game

/-- **Starts a game** from a bundle, which must be valid: every tile has the default type, and
nobody is there. -/
def start (content : Bundle) (config : Config) : Except DefinitionError Game := do
  content.validate
  pure ⟨content, config, ⟨.start (.blank content.size content.defaultTile), .none⟩⟩

/-- The world of a game. -/
def world (g : Game) : World := g.arena.world

/-- The turn order of a game. -/
def turns (g : Game) : Turns := g.arena.turns

/-- The entity whose turn it is. -/
def actor (g : Game) : Option EntityId := g.turns.current

/-- Runs a step of the engine on the arena, with an empty stack of events. -/
def run {α : Type} (step : EStateM CastError Context α) : Play α := fun g =>
  match step (.idle g.arena g.config.maxCascadeDepth) with
  | .ok a c => .ok a { g with arena := c.arena }
  | .error e c => .error e { g with arena := c.arena }

/-- Places a new entity of a registered type; the answer is its id, or nothing when the board
refused it. -/
def spawn (kind : String) (spot : Coords) : Play (Option EntityId) := fun g =>
  match g.content.entityType? kind with
  | none => .error (.unknownEntityType kind) g
  | some kind =>
    match run (Context.process (.spawn kind spot)) g with
    | .error e g => .error e g
    | .ok (some (.entry (.spawn id _ _))) g => .ok (some id) g
    | .ok _ g => .ok none g

/-- **Casts a registered ability.** A caster that is not there is a missing target. -/
def cast (ability : String) (caster : EntityId) (target : Option Target) : Play Log := fun g =>
  match g.content.ability? ability with
  | none => .error (.unknownAbility ability) g
  | some a =>
    match g.world.entity? caster with
    | none => .error (.target (.missing Scopes.caster)) g
    | some _ => run (a.cast caster target) g

/-- Ends the turn of an entity. -/
def endTurn (actor : EntityId) : Play Unit :=
  modify fun g => { g with arena.turns := g.arena.turns.endTurn actor }

/-- The entity whose turn it is; without one there is no turn to take. -/
def currentActor : Play EntityId := fun g =>
  match g.actor with
  | none => .error .noActiveTurn g
  | some actor => .ok actor g

/-- **Takes a turn**: casts as the entity whose turn it is, and hands the turn on when the cast has
succeeded. -/
def takeTurn (ability : String) (target : Option Target) : Play Log := do
  let actor ← currentActor
  let log ← cast ability actor target
  endTurn actor
  pure log

/-- Ends the current turn without a cast; the answer is the entity whose turn it is then. -/
def passTurn : Play (Option EntityId) := do
  let actor ← currentActor
  endTurn actor
  pure (← get).actor

end Game

end Skirmish
