import Skirmish.Board.Area
import Skirmish.Cascade
import Skirmish.Effect
import Skirmish.Scopes

/-!
# Casting effects

Casting resolves the names that an effect uses and submits an event; the event is resolved at once,
with all its reactions, before the next effect is looked at. Names are resolved before anything is
submitted, in a fixed order, so the first name that cannot be resolved decides the error.

A cast works on a **situation**: the scopes and the context. It may fail at any point, and what was
changed until then stays changed; this is why a failure carries the situation too (`Cast`).
-/

namespace Skirmish

/-- What a cast reads and changes. -/
structure Situation where
  scopes : Scopes
  context : Context
  deriving DecidableEq, Inhabited

/-- A step of a cast: it changes the situation and answers or fails. The situation at a failure is
kept. -/
abbrev Cast := EStateM CastError Situation

namespace Cast

/-- Resolves names in the current scopes. -/
def resolve {α : Type} (look : Scopes → Except TargetError α) : Cast α := fun s =>
  match look s.scopes with
  | .ok a => .ok a s
  | .error e => .error (.target e) s

/-- Binds a name in the innermost scope. -/
def bind (name : String) (target : Target) : Cast Unit := fun s =>
  match s.scopes.bind name target with
  | .ok scopes => .ok () { s with scopes := scopes }
  | .error e => .error (.target e) s

/-- Resolves an event with all its reactions. -/
def submit (event : Event) : Cast (Option Log) := fun s =>
  match s.context.process event with
  | .ok log c => .ok log { s with context := c }
  | .error e c => .error e { s with context := c }

/-- The world as it is now. -/
def world : Cast World := fun s => .ok s.context.arena.world s

/-- A cast in a scope of its own, which is left when the cast ends, in success or failure. -/
def inChild {α : Type} (body : Cast α) : Cast α := fun s =>
  match body { s with scopes := s.scopes.child } with
  | .ok a s => .ok a { s with scopes := s.scopes.parent }
  | .error e s => .error e { s with scopes := s.scopes.parent }

/-- Submits an event at a named location; nothing happens when the location has no place now. -/
def submitAt (name : String) (event : Coords → Event) : Cast (Option Log) := do
  let location ← resolve (·.location name)
  match (← world).locate location with
  | none => pure none
  | some spot => submit (event spot)

/-- The entity of a name that may be absent. -/
def credited (name : Option String) : Cast (Option EntityId) :=
  match name with
  | none => pure none
  | some name => some <$> resolve (·.entity name)

end Cast

open Cast in
/-- **Casts an action.** -/
def Action.cast : Action → Cast (Option Log)
  | damage target attacker amount => do
    let target ← resolve (·.entity target)
    let attacker ← credited attacker
    submit (.damage target amount attacker)
  | healing target healer amount => do
    let target ← resolve (·.entity target)
    let healer ← credited healer
    submit (.heal target amount healer)
  | destruction target => do
    let target ← resolve (·.entity target)
    submit (.destroy target)
  | modification spot kind => submitAt spot (.modify kind)
  | spawn spot kind => submitAt spot (.spawn kind)
  | movement entity goal relative => do
    let entity ← resolve (·.entity entity)
    if relative then
      let offset ← resolve (·.coords goal)
      submit (.move entity offset true)
    else
      submitAt goal (.move entity · false)
  | projectile source target => do
    let source ← resolve (·.location source)
    let target ← resolve (·.location target)
    submit (.projectile source target)
  | areaTarget source radius newGroup => do
    let location ← resolve (·.location source)
    let world ← world
    let members := match world.locate location with
      | none => []
      | some centre => world.board.within centre radius
    bind newGroup (.group members)
    pure none

open Cast in
mutual

/-- **Casts an effect.** A group reads its members once, before the first of them is treated; each is
treated in a scope of its own, so that what is bound for one is not seen by the next. -/
def Effect.cast : Effect → Cast (Option Log)
  | .act action => action.cast
  | .group members newTarget parallel effects => do
    let members ← resolve (·.group members)
    let logs ← members.mapM fun member => inChild do
      bind newTarget (.entity member)
      let logs ← castAll effects
      pure (Log.combined false logs)
    pure (some (.combined parallel logs))

/-- Casts effects one after the other, and gathers the logs of those that did something. -/
def castAll : List Effect → Cast (List Log)
  | [] => pure []
  | effect :: effects => do
    let log ← effect.cast
    let logs ← castAll effects
    pure (log.toList ++ logs)

end

/-- Casts effects as one sequence. -/
def castSequence (effects : List Effect) : Cast Log := do
  let logs ← castAll effects
  pure (.combined false logs)

/-- A cast begun in given scopes, as a step on the context; the scopes are dropped at its end. -/
def Cast.within {α : Type} (scopes : Scopes) (body : Cast α) : EStateM CastError Context α := fun c =>
  match body ⟨scopes, c⟩ with
  | .ok a s => .ok a s.context
  | .error e s => .error e s.context

/-- **Casts an ability**: its effects in a fresh scope that binds the caster, and the target when one
is given. The log is the start of the cast followed by the log of the effects. -/
def Ability.cast (ability : Ability) (caster : EntityId) (target : Option Target) :
    EStateM CastError Context Log := do
  let effects ← Cast.within (.ofCast caster target) (castSequence ability.effects)
  let start := Entry.ability caster ability.id ability.name (target.bind Target.location?)
  pure (.combined false [.entry start, effects])

end Skirmish
