import Skirmish.Proofs.Casting.Traced
import Skirmish.Game

/-!
# Runs of a game

A run asks calls of a game one after the other, with any arguments, and goes on from the game that a
call leaves, whether the call answered or failed. A game is **reachable** when some run from the start
of a valid bundle, under whatever settings, ends in it.

Each call is a trace of the arena, after which the current turn may end (`advances_after`). So every
reachable game is coherent (`Reachable.coherent`); `reachable_consistent` says what that means for the
four places where an entity is known: the registry, the tiles, the index of the board, and the turn
order.
-/

namespace Skirmish

namespace Game

open Arena

/-- A call of a game. -/
inductive Call where
  | spawn (kind : String) (spot : Coords)
  | cast (ability : String) (caster : EntityId) (target : Option Target)
  | takeTurn (ability : String) (target : Option Target)
  | passTurn
  deriving DecidableEq, Repr

/-- The game that a step leaves, in success or failure. -/
def leftBy {α : Type} (step : Play α) (g : Game) : Game :=
  match step g with
  | .ok _ g => g
  | .error _ g => g

/-- The game after a call, whether it answered or failed. -/
def after (g : Game) : Call → Game
  | .spawn kind spot => leftBy (spawn kind spot) g
  | .cast ability caster target => leftBy (cast ability caster target) g
  | .takeTurn ability target => leftBy (takeTurn ability target) g
  | .passTurn => leftBy passTurn g

/-- **Reachable games**: what runs of calls lead to from the start of a valid bundle. -/
inductive Reachable : Game → Prop
  | start {content : Bundle} {config : Config} {g : Game} (started : Game.start content config = .ok g) :
      Reachable g
  | after {g : Game} (reached : Reachable g) (call : Call) : Reachable (g.after call)

variable {g : Game}

/-- What holds of both ends of a step holds of the game that it leaves. -/
theorem ensures_leftBy {α : Type} {step : Play α} (P : Game → Prop)
    (h : Ensures (step g) (fun _ g' => P g') (fun _ g' => P g')) : P (leftBy step g) := by
  unfold leftBy
  revert h
  cases step g <;> exact id

/-! ## Each call is a trace -/

/-- What holds of the arenas at both ends of a step of the engine holds of them in a game. -/
theorem run_ensures {α : Type} {step : EStateM CastError Context α} (ok : α → Arena → Prop)
    (error : CastError → Arena → Prop)
    (h : Ensures (step (.idle g.arena g.config.maxCascadeDepth)) (fun a c => ok a c.arena)
      (fun e c => error e c.arena)) :
    Ensures (run step g) (fun a g' => ok a g'.arena) (fun e g' => error e g'.arena) := by
  unfold run
  revert h
  cases step (.idle g.arena g.config.maxCascadeDepth) <;> exact id

theorem spawn_trace (h : g.arena.Coherent) (kind : String) (spot : Coords) :
    Ensures (spawn kind spot g)
      (fun _ g' => ∃ made, Trace g.arena made g'.arena)
      (fun _ g' => ∃ lost, Trace g.arena lost g'.arena) := by
  unfold spawn
  cases g.content.entityType? kind with
  | none => exact ⟨[], .nil⟩
  | some kind =>
    have placed := run_ensures (fun (log : Option Log) b => Trace g.arena (Log.leavesAll log.toList) b)
      (fun _ b => ∃ lost, Trace g.arena lost b)
      (Context.process_trace (.spawn kind spot) (.idle g.arena g.config.maxCascadeDepth) h)
    dsimp only
    revert placed
    cases run (Context.process (.spawn kind spot)) g with
    | error e g' => exact id
    | ok log g' =>
      intro made
      split
      · next failed => cases failed
      · next same => cases same; exact ⟨_, made⟩
      · next same => cases same; exact ⟨_, made⟩

theorem cast_trace (h : g.arena.Coherent) (ability : String) (caster : EntityId) (target : Option Target) :
    Ensures (cast ability caster target g)
      (fun log g' => Trace g.arena log.leaves g'.arena)
      (fun _ g' => ∃ lost, Trace g.arena lost g'.arena) := by
  unfold cast
  cases g.content.ability? ability with
  | none => exact ⟨[], .nil⟩
  | some a =>
    cases alive : g.world.entity? caster with
    | none => exact ⟨[], .nil⟩
    | some e =>
      exact run_ensures (fun (log : Log) b => Trace g.arena log.leaves b) (fun _ b => ∃ lost, Trace g.arena lost b)
        (a.cast_trace target (.idle g.arena g.config.maxCascadeDepth) h alive)

/-- Without an actor there is no turn; otherwise a turn goes on with the actor. -/
theorem ensures_currentActor {ok : EntityId → Game → Prop} {error : CastError → Game → Prop} :
    Ensures (currentActor g) ok error ↔
      match g.actor with
      | none => error .noActiveTurn g
      | some actor => ok actor g := by
  unfold currentActor
  cases g.actor <;> exact Iff.rfl

/-- A turn that is taken is the trace of its log, and then the actor's turn ends; a turn that fails
is some trace, and the actor keeps its turn. -/
theorem takeTurn_trace (h : g.arena.Coherent) (ability : String) (target : Option Target) :
    Ensures (takeTurn ability target g)
      (fun log g' => ∃ actor mid, g.turns.current = some actor ∧ Trace g.arena log.leaves mid ∧
        g'.arena = { mid with turns := mid.turns.endTurn actor })
      (fun _ g' => ∃ lost, Trace g.arena lost g'.arena) := by
  refine ensures_bind.mpr (ensures_currentActor.mpr ?_)
  cases front : g.actor with
  | none => exact ⟨[], .nil⟩
  | some actor =>
    refine ensures_bind.mpr ((cast_trace h ability actor target).mono ?_ fun _ _ failed => failed)
    intro log g' trace
    exact ⟨actor, g'.arena, front, trace, rfl⟩

/-- Passing a turn ends it, and does nothing else; it fails only when nobody waits. -/
theorem passTurn_ends (g : Game) :
    Ensures (passTurn g)
      (fun _ g' => ∃ actor, g.turns.current = some actor ∧
        g'.arena = { g.arena with turns := g.turns.endTurn actor })
      (fun _ g' => g' = g ∧ g.turns.queue = []) := by
  refine ensures_bind.mpr (ensures_currentActor.mpr ?_)
  cases front : g.actor with
  | none => exact ⟨rfl, List.head?_eq_none_iff.mp front⟩
  | some actor => exact ⟨actor, front, rfl⟩

/-- What one call may have done to a game: a trace of the arena, and then perhaps the end of the
current turn. -/
def Advances (g g' : Game) : Prop := ∃ entries mid, Trace g.arena entries mid ∧
  (g'.arena = mid ∨
    ∃ actor, g.turns.current = some actor ∧ g'.arena = { mid with turns := mid.turns.endTurn actor })

theorem advances_of_trace {g' : Game} {entries : List Entry} (t : Trace g.arena entries g'.arena) :
    g.Advances g' :=
  ⟨entries, g'.arena, t, .inl rfl⟩

/-- **Each call advances the game**, whether it answers or fails. -/
theorem advances_after (h : g.arena.Coherent) (call : Call) : g.Advances (g.after call) := by
  cases call with
  | spawn kind spot =>
    refine ensures_leftBy g.Advances ((spawn_trace h kind spot).mono ?_ ?_)
    · rintro _ g' ⟨made, trace⟩
      exact advances_of_trace trace
    · rintro _ g' ⟨lost, trace⟩
      exact advances_of_trace trace
  | cast ability caster target =>
    refine ensures_leftBy g.Advances ((cast_trace h ability caster target).mono ?_ ?_)
    · intro log g' trace
      exact advances_of_trace trace
    · rintro _ g' ⟨lost, trace⟩
      exact advances_of_trace trace
  | takeTurn ability target =>
    refine ensures_leftBy g.Advances ((takeTurn_trace h ability target).mono ?_ ?_)
    · rintro log g' ⟨actor, mid, front, trace, ended⟩
      exact ⟨log.leaves, mid, trace, .inr ⟨actor, front, ended⟩⟩
    · rintro _ g' ⟨lost, trace⟩
      exact advances_of_trace trace
  | passTurn =>
    refine ensures_leftBy g.Advances ((passTurn_ends g).mono ?_ ?_)
    · rintro _ g' ⟨actor, front, ended⟩
      exact ⟨[], g.arena, .nil, .inr ⟨actor, front, ended⟩⟩
    · rintro _ g' ⟨rfl, -⟩
      exact advances_of_trace .nil

/-! ## Reachable games are coherent -/

/-- A game starts on a blank board, with nobody waiting, when its bundle is valid. -/
theorem start_eq_ok {content : Bundle} {config : Config} : Game.start content config = .ok g ↔
    content.validate = .ok () ∧
      g = ⟨content, config, ⟨.start (.blank content.size content.defaultTile), .none⟩⟩ := by
  unfold Game.start
  cases content.validate with
  | error e => simp [bind, Except.bind]
  | ok _ => simp [bind, Except.bind, pure, Except.pure, eq_comm]

theorem Advances.coherent {g' : Game} (step : g.Advances g') (h : g.arena.Coherent) :
    g'.arena.Coherent := by
  obtain ⟨entries, mid, trace, same | ⟨actor, -, ended⟩⟩ := step
  · rw [same]
    exact h.trace trace
  · rw [ended]
    exact (h.trace trace).endTurn actor

/-- **Every reachable game is coherent.** -/
theorem Reachable.coherent (reached : Reachable g) : g.arena.Coherent := by
  induction reached with
  | start started =>
    obtain ⟨-, rfl⟩ := start_eq_ok.mp started
    exact Arena.coherent_start _ _
  | after _ call ih => exact (advances_after ih call).coherent ih

/-! ## A sample game

A knight and a wolf on a meadow. The knight's uproar strikes everybody near, the knight too, and then
calls another wolf. It is the smallest game in which one call damages, destroys and spawns, and with
no room for reactions the call fails while the first wolf is left without health. -/

namespace Sample

def meadow : TileType := .plain "meadow"

def knight : EntityType := ⟨"knight", "Knight", .ground, true, 3⟩

def wolf : EntityType := ⟨"wolf", "Wolf", .ground, true, 2⟩

def uproar : Ability where
  id := "uproar"
  name := "Uproar"
  effects :=
    [.act (.areaTarget "caster" 2 "near"),
     .group "near" "victim" true [.act (.damage "victim" (some "caster") (.flat 2))],
     .act (.spawn "target" wolf)]

def bundle : Bundle where
  id := "sample"
  size := ⟨3, 3⟩
  defaultTile := meadow
  tileTypes := [meadow]
  entityTypes := [knight, wolf]
  abilities := [uproar]

def opening (config : Config) : Game := ⟨bundle, config, ⟨.start (.blank ⟨3, 3⟩ meadow), .none⟩⟩

/-- The knight, whose turn it is, and the wolf beside it. -/
def camp (config : Config) : Game :=
  ((opening config).after (.spawn "knight" ⟨0, 0⟩)).after (.spawn "wolf" ⟨1, 0⟩)

theorem camp_reachable (config : Config) : Reachable (camp config) := by
  have started : Game.start bundle config = .ok (opening config) := start_eq_ok.mpr ⟨by decide, rfl⟩
  exact ((Reachable.start started).after _).after _

/-- What is recorded of the knight's uproar. -/
def uproarLog : Log :=
  .combined false
    [.entry (.ability ⟨0⟩ "uproar" "Uproar" (some (.coords ⟨1, 1⟩))),
     .combined false
      [.combined true
        [.combined false [.entry (.damage (some ⟨0⟩) ⟨0⟩ 2 2)],
         .combined false [.combined false
          [.entry (.damage (some ⟨0⟩) ⟨1⟩ 2 2), .entry (.destruction ⟨⟨1⟩, wolf, 0⟩ ⟨1, 0⟩)]]],
       .entry (.spawn ⟨2⟩ wolf ⟨1, 1⟩)]]

end Sample

/-! ## What coherence means -/

/-- **One entity, four places.** In a reachable game the registry, the tiles, the index of the board
and the turn order agree: whoever is registered has a coordinate inside the board, is listed there
once with the layers of its type and nowhere else, stays within the health of its type under a number
that was given out, and waits for its turn exactly when it is an agent; and nobody else is anywhere. -/
theorem reachable_consistent (reached : Reachable g) :
    (∀ id, (∃ e, g.world.entity? id = some e) ↔ ∃ spot, g.world.coords? id = some spot) ∧
    (∀ id e spot, g.world.entity? id = some e → g.world.coords? id = some spot →
      g.world.board.size.Contains spot ∧ ∃ t, g.world.board.tile? spot = some t ∧
        t.occupants.filter (fun o => decide (o.id = id)) = [⟨id, e.kind.domain.layers⟩]) ∧
    (∀ spot t, g.world.board.tile? spot = some t → ∀ o ∈ t.occupants,
      g.world.coords? o.id = some spot ∧ ∃ e, g.world.entity? o.id = some e) ∧
    (∀ id e, g.world.entity? id = some e → e.health ≤ e.kind.maxHealth ∧ id.val < g.world.nextId) ∧
    g.turns.queue.Nodup ∧
    ∀ id, id ∈ g.turns.queue ↔ ∃ e, g.world.entity? id = some e ∧ e.kind.isAgent = true := by
  have h := reached.coherent
  refine ⟨?_, ?_, ?_, ?_, h.distinct, ?_⟩
  · intro id
    constructor
    · rintro ⟨e, alive⟩
      obtain ⟨spot, placed, -⟩ := h.world.coords_of_entity alive
      exact ⟨spot, placed⟩
    · rintro ⟨spot, placed⟩
      exact h.world.registered placed
  · intro id e spot alive placed
    obtain ⟨t, tile, held⟩ := h.world.holds alive placed
    refine ⟨Board.contains_of_tile? tile, t, tile, ?_⟩
    have only := (h.world.board.sound tile).filter_id held
    rw [show e.occupant.id = id from World.id_of_entity? alive] at only
    rw [only, ← World.id_of_entity? alive]
    rfl
  · intro spot t tile o held
    have placed := h.world.board.coords_of_holds ⟨t, tile, held⟩
    exact ⟨placed, h.world.registered placed⟩
  · intro id e alive
    exact ⟨h.world.health_le alive, h.world.lt_nextId alive⟩
  · intro id
    rw [show g.turns = g.arena.turns from rfl, h.waiting_iff]
    constructor
    · rintro ⟨kind, known, agent⟩
      obtain ⟨e, alive, rfl⟩ := World.kind?_eq_some.mp known
      exact ⟨e, alive, agent⟩
    · rintro ⟨e, alive, agent⟩
      exact ⟨e.kind, World.kind?_eq_some.mpr ⟨e, alive, rfl⟩, agent⟩

/-- With no room for reactions the uproar fails; the wolf that it leaves without health still stands
where it stood. -/
theorem reachable_consistent_uproar :
    ∃ t, ((Sample.camp ⟨0⟩).after (.takeTurn "uproar" none)).world.board.tile? ⟨1, 0⟩ = some t ∧
      t.occupants.filter (fun o => decide (o.id = ⟨1⟩)) = [⟨⟨1⟩, .ground⟩] := by
  have consistent := reachable_consistent ((Sample.camp_reachable ⟨0⟩).after (.takeTurn "uproar" none))
  have stands := consistent.2.1 ⟨1⟩ ⟨⟨1⟩, Sample.wolf, 0⟩ ⟨1, 0⟩ (by decide +kernel) (by decide +kernel)
  exact stands.2

end Game

end Skirmish
