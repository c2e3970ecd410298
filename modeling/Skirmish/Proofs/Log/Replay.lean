import Skirmish.Proofs.Game.Runs

/-!
# Replay of a log

Whoever reads a log knows nothing of the engine. **Replay** reads an entry as an instruction of its
own: it looks up nothing but what the entry names, checks nothing, and never asks what an ability or
an event is. The log of a cast is faithful when its leaves, replayed in order from the arena before
the cast, lead to the arena after it: every tile with its type and its occupants in order, the index,
the registry with every health, the next number, and the turn order.

The proof follows the trace of the cast (`Game.cast_trace`). One step of the arena is replayed by its
entry (`Arena.Step.replay_eq`), and this is where coherence is used: a replayed movement carries the
layers that the tile recorded, where the engine takes those that the entity claims.

**What it does not establish.** A cast that fails has made a trace too, but no log tells of it.
-/

namespace Skirmish

/-- The board after an identifier was carried from one tile to another, with the layers that were
recorded for it. -/
def Board.carry (b : Board) (id : EntityId) (home goal : Coords) : Board :=
  match (b.tile? home).bind (fun t => t.occupants.find? (fun o => decide (o.id = id))) with
  | none => b
  | some o => (b.clear id home).place o goal

/-- The world in which the health of an entity was changed. -/
def World.adjust (w : World) (id : EntityId) (change : Nat → Nat) : World :=
  match w.entity? id with
  | none => w
  | some e => w.update { e with health := change e.health }

/-- **Replays an entry.** -/
def Entry.replay (a : Arena) : Entry → Arena
  | .ability .. => a
  | .projectile .. => a
  | .spawn id kind spot =>
    { world.nextId := id.val + 1
      world.board := a.world.board.place ⟨id, kind.domain.layers⟩ spot
      world.entities := a.world.entities.insert ⟨id, kind, kind.maxHealth⟩
      turns.queue := a.turns.queue ++ if kind.isAgent then [id] else [] }
  | .movement id home goal =>
    if home = goal then a
    else { a with world.board := a.world.board.carry id home goal }
  | .destruction e spot =>
    { world.nextId := a.world.nextId
      world.board := a.world.board.clear e.id spot
      world.entities := a.world.entities.erase e.id
      turns.queue := a.turns.queue.filter (· != e.id) }
  | .modification spot _ kind =>
    { a with world.board := a.world.board.updateTile spot ({ · with kind := kind }) }
  | .damage _ target _ actual => { a with world := a.world.adjust target (· - actual) }
  | .healing _ target _ actual => { a with world := a.world.adjust target (· + actual) }

/-- The arena after entries were replayed in order. -/
def Entry.replayAll (a : Arena) (entries : List Entry) : Arena := entries.foldl Entry.replay a

/-! ## One step -/

/-- Where a tile holds an occupant, it is the one that is carried. -/
theorem Board.Coherent.carry_eq {b : Board} (h : b.Coherent) {o : Occupant} {home goal : Coords}
    (held : b.Holds o home) (apart : goal ≠ home) : b.carry o.id home goal = b.relocate o home goal := by
  obtain ⟨t, tile, ho⟩ := held
  have found : t.occupants.find? (fun p => decide (p.id = o.id)) = some o := by
    rw [← List.head?_filter, (h.sound tile).filter_id ho]
    rfl
  rw [Board.carry, tile, Option.bind_some, found, Board.relocate_eq_place_clear apart]

theorem World.adjust_eq {w : World} {id : EntityId} {e : Entity} (alive : w.entity? id = some e)
    (change : Nat → Nat) : w.adjust id change = w.update { e with health := change e.health } := by
  rw [World.adjust, alive]

namespace Arena

variable {a b : Arena} {entry : Entry} {entries : List Entry}

/-- **The entry of a step replays it.** -/
theorem Step.replay_eq (h : a.Coherent) (s : a.Step entry b) : entry.replay a = b := by
  obtain ⟨world, turns⟩ := b
  obtain ⟨s, rfl : turns = _⟩ := s
  cases s with
  | ability => rfl
  | projectile => rfl
  | damage alive attacker amount => exact congrArg (Arena.mk · a.turns) (World.adjust_eq alive _)
  | healing alive healer amount => exact congrArg (Arena.mk · a.turns) (World.adjust_eq alive _)
  | @spawn kind spot _ _ _ _ _ =>
    rw [Entry.replay, ← h.follow_spawn kind spot]
    rfl
  | stay => exact if_pos rfl
  | @movement id e home goal t alive placed apart tile takes =>
    have named := World.id_of_entity? alive
    have carried := h.world.board.carry_eq (h.world.holds alive placed) apart
    rw [show e.occupant.id = id from named] at carried
    rw [Entry.replay, if_neg (Ne.symm apart), carried]
    rfl
  | @destruction id e spot alive placed =>
    rw [Entry.replay, ← h.follow_destruction e spot, World.id_of_entity? alive]
  | modification => rfl

/-- **The entries of a trace replay it**, step by step. -/
theorem Trace.replay_eq (h : a.Coherent) (t : Trace a entries b) : Entry.replayAll a entries = b := by
  induction t with
  | nil => rfl
  | @cons a mid b entry entries first _ ih =>
    show Entry.replayAll (entry.replay a) entries = b
    rw [first.replay_eq h]
    exact ih (h.step first)

end Arena

namespace Game

/-- **Faithful logs.** In a reachable game, a cast that answers has made what its log says: the leaves,
replayed in order from the arena before the cast, lead to the arena after it. -/
theorem cast_replay {g g' : Game} (reached : Reachable g) {ability : String} {caster : EntityId}
    {target : Option Target} {log : Log} (answered : cast ability caster target g = .ok log g') :
    Entry.replayAll g.arena log.leaves = g'.arena := by
  have trace := cast_trace reached.coherent ability caster target
  rw [answered] at trace
  exact trace.replay_eq reached.coherent

/-- The uproar is answered, and its log says how the one wolf went and the other came. -/
theorem cast_replay_uproar : Entry.replayAll (Sample.camp .usual).arena Sample.uproarLog.leaves =
    ((Sample.camp .usual).after (.cast "uproar" ⟨0⟩ (some (.coords ⟨1, 1⟩)))).arena := by
  have answered : cast "uproar" ⟨0⟩ (some (.coords ⟨1, 1⟩)) (Sample.camp .usual) = .ok Sample.uproarLog
      ((Sample.camp .usual).after (.cast "uproar" ⟨0⟩ (some (.coords ⟨1, 1⟩)))) := by
    decide +kernel
  exact cast_replay (Sample.camp_reachable .usual) answered

end Game

end Skirmish
