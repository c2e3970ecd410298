import Skirmish.Proofs.Apart
import Skirmish.Proofs.Arena.Cascades

/-!
# Events about one member

Damage, healing and destruction are about one entity (`Event.about?`). What they do is read from the
record of that entity and from where it stands, and it changes only what is that entity's own
(`perform_of_about`): its record, its place on a tile, its place in the queue. So events about different
entities are apart (`apart_performed`), and so are their whole cascades (`apart_resolved`), because the
destruction that damage calls for is about the same entity.

Two entities may stand on one tile. The order in which they leave it does not show, since the others keep
the order in which they came.

**What it does not establish.** Movement and spawning ask who stands on a tile, so they are not about one
entity.
-/

namespace Skirmish

/-! ## Leaving in either order -/

theorem Tile.release_comm (t : Tile) {id other : EntityId} (apart : id ≠ other) :
    (t.release id).release other = (t.release other).release id := by
  refine congrArg (Tile.mk t.kind) (List.eraseP_comm fun o _ => ?_)
  by_cases same : o.id = id
  · exact .inr fun also => apart (same.symm.trans (of_decide_eq_true also))
  · exact .inl fun also => same (of_decide_eq_true also)

namespace Board

variable (b : Board) {id other : EntityId}

theorem clear_comm (apart : id ≠ other) (spot cell : Coords) :
    (b.clear id spot).clear other cell = (b.clear other cell).clear id spot := by
  have tiles : (b.updateTile spot (·.release id)).updateTile cell (·.release other) =
      (b.updateTile cell (·.release other)).updateTile spot (·.release id) := by
    by_cases same : spot = cell
    · rw [same, updateTile_updateTile, updateTile_updateTile]
      exact congrArg (b.updateTile cell) (funext fun t => t.release_comm apart)
    · exact updateTile_comm same _ _
  unfold clear
  rw [updateTile_reindex, updateTile_reindex, tiles]
  refine eq_of_parts rfl rfl ?_
  show ((_ : Registry Placement).erase id).erase other = ((_ : Registry Placement).erase other).erase id
  apply Registry.ext_get?
  intro i
  simp only [Registry.get?_erase, placed_updateTile]
  split <;> split <;> rfl

end Board

theorem Turns.leave_comm (t : Turns) (id other : EntityId) :
    (t.leave id).leave other = (t.leave other).leave id := by
  have queues : ((t.leave id).leave other).queue = ((t.leave other).leave id).queue := by
    simp only [leave_queue]
    exact List.erase_comm ..
  exact congrArg Turns.mk queues

/-! ## What is a member's own -/

/-- What an event can change of a member. -/
inductive Change where
  | keep
  /-- Its health, when it is registered. -/
  | health (health : Nat)
  /-- It is taken off its tile, and out of nothing else. -/
  | lift (spot : Coords)
  /-- It is taken off its tile and out of everything else. -/
  | remove (spot : Coords)

namespace Change

/-- The record of a member after a change. -/
def record : Change → Option Entity → Option Entity
  | health n, e? => e?.map ({ · with health := n })
  | remove _, _ => none
  | _, e? => e?

def entities (c : Change) (id : EntityId) (r : Registry Entity) : Registry Entity :=
  match c.record (r.get? id) with
  | none => r.erase id
  | some e => r.insert e

def board (c : Change) (id : EntityId) (b : Board) : Board :=
  match c with
  | lift spot | remove spot => b.clear id spot
  | _ => b

def turns (c : Change) (id : EntityId) (t : Turns) : Turns :=
  match c with
  | remove _ => t.leave id
  | _ => t

/-- An arena after a change of a member. -/
def on (c : Change) (id : EntityId) (a : Arena) : Arena :=
  ⟨⟨a.world.nextId, c.board id a.world.board, c.entities id a.world.entities⟩, c.turns id a.turns⟩

variable {c c' : Change} {id other : EntityId}

/-- A record stays under its identifier. -/
theorem id_of_record {e? : Option Entity} {e : Entity} (own : ∀ e ∈ e?, e.id = id)
    (after : c.record e? = some e) : e.id = id := by
  cases c with
  | health n =>
    obtain ⟨e, was, rfl⟩ := Option.map_eq_some_iff.mp after
    exact own e was
  | remove spot => cases after
  | _ => exact own e after

theorem get?_entities (r : Registry Entity) (i : EntityId) :
    (c.entities id r).get? i = if i = id then c.record (r.get? id) else r.get? i := by
  unfold entities
  cases after : c.record (r.get? id) with
  | none => exact r.get?_erase id i
  | some e =>
    have own : idOf e = id := id_of_record (fun _ => Registry.idOf_of_get?) after
    rw [Registry.get?_insert, own]
    simp only [eq_comm]

theorem entities_comm (apart : id ≠ other) (r : Registry Entity) :
    c'.entities other (c.entities id r) = c.entities id (c'.entities other r) := by
  apply Registry.ext_get?
  intro i
  simp only [get?_entities, if_neg apart, if_neg apart.symm]
  by_cases first : i = id
  · have second : i ≠ other := fun same => apart (first.symm.trans same)
    simp only [if_pos first, if_neg second]
  · simp only [if_neg first]

theorem board_comm (apart : id ≠ other) (b : Board) :
    c'.board other (c.board id b) = c.board id (c'.board other b) := by
  cases c <;> cases c' <;> first | rfl | exact b.clear_comm apart _ _

theorem turns_comm (t : Turns) : c'.turns other (c.turns id t) = c.turns id (c'.turns other t) := by
  cases c <;> cases c' <;> first | rfl | exact t.leave_comm _ _

/-- **Changes of different members** may be made in either order. -/
theorem on_comm (apart : id ≠ other) (a : Arena) : c'.on other (c.on id a) = c.on id (c'.on other a) := by
  unfold on
  rw [board_comm apart, entities_comm apart, turns_comm]

theorem entity?_on (apart : other ≠ id) (a : Arena) :
    (c.on id a).world.entity? other = a.world.entity? other :=
  (get?_entities ..).trans (if_neg apart)

theorem coords?_on (apart : other ≠ id) (a : Arena) :
    (c.on id a).world.coords? other = a.world.coords? other := by
  have cleared : ∀ spot, (a.world.board.clear id spot).coords? other = a.world.board.coords? other :=
    fun spot => Board.coords?_clear.trans (if_neg apart)
  cases c with
  | lift spot => exact cleared spot
  | remove spot => exact cleared spot
  | _ => rfl

theorem entities_of_record {r : Registry Entity} (same : c.record (r.get? id) = r.get? id) :
    c.entities id r = r := by
  apply Registry.ext_get?
  intro i
  rw [get?_entities]
  split
  · next here => rw [here, same]
  · rfl

theorem on_keep (id : EntityId) (a : Arena) : keep.on id a = a := by
  unfold on
  rw [entities_of_record rfl]
  rfl

theorem on_lift (id : EntityId) (spot : Coords) (a : Arena) :
    (lift spot).on id a = { a with world := { a.world with board := a.world.board.clear id spot } } := by
  unfold on
  rw [entities_of_record rfl]
  rfl

theorem on_health {a : Arena} {e : Entity} (alive : a.world.entity? id = some e) (n : Nat) :
    (health n).on id a = { a with world := a.world.update { e with health := n } } := by
  have entities : (health n).entities id a.world.entities = a.world.entities.insert { e with health := n } := by
    unfold Change.entities
    rw [show a.world.entities.get? id = some e from alive]
    rfl
  unfold on
  rw [entities]
  rfl

end Change

/-! ## Events -/

namespace Event

variable {event event' : Event} {id other : EntityId}

/-- The one entity that an event is about. -/
def about? : Event → Option EntityId
  | .damage target _ _ | .heal target _ _ | .destroy target => some target
  | _ => none

/-- What an event does to the entity that it is about, as told from the record of the entity and from
where it stands: the entry, the reactions, and the change. -/
def share (e? : Option Entity) (spot? : Option Coords) : Event → (Option Entry × List Event) × Change
  | .damage target amount attacker =>
    match e? with
    | none => ((none, []), .keep)
    | some e =>
      ((some (.damage attacker target amount.resolve (e.absorbed amount.resolve)),
        if (e.hurt amount.resolve).health = 0 then [.destroy target] else []),
        .health (e.hurt amount.resolve).health)
  | .heal target amount healer =>
    match e? with
    | none => ((none, []), .keep)
    | some e =>
      ((some (.healing healer target amount.resolve (e.restored amount.resolve)), []),
        .health (e.healed amount.resolve).health)
  | .destroy _ =>
    match spot?, e? with
    | none, _ => ((none, []), .keep)
    | some spot, none => ((none, []), .lift spot)
    | some spot, some e => ((some (.destruction e spot), []), .remove spot)
  | _ => ((none, []), .keep)

/-- Performing an event, as a computation on the arena. -/
def performed (event : Event) : StateM Arena (Option Entry × List Event) := fun a =>
  (((event.perform a).entry, (event.perform a).reactions), (event.perform a).arena)

/-- **An event about a member** is its share of the member. -/
theorem performed_of_about (about : event.about? = some id) (a : Arena) : event.performed a =
    ((event.share (a.world.entity? id) (a.world.coords? id)).1,
      (event.share (a.world.entity? id) (a.world.coords? id)).2.on id a) := by
  unfold performed
  cases event with
  | damage target amount attacker =>
    cases about
    cases alive : a.world.entity? id with
    | none =>
      rw [perform, World.damage, alive]
      exact congrArg (Prod.mk _) (Change.on_keep id a).symm
    | some e =>
      rw [perform_damage alive]
      exact congrArg (Prod.mk _) (Change.on_health alive _).symm
  | heal target amount healer =>
    cases about
    rw [perform, World.heal]
    cases alive : a.world.entity? id with
    | none => exact congrArg (Prod.mk _) (Change.on_keep id a).symm
    | some e => exact congrArg (Prod.mk _) (Change.on_health alive _).symm
  | destroy target =>
    cases about
    cases placed : a.world.coords? id with
    | none =>
      have refused : a.world.board.remove id = .error .notPlaced := by
        rw [Board.remove, show a.world.board.coords? id = none from placed]
      rw [perform, World.destroy, World.discard, refused]
      exact congrArg (Prod.mk _) (Change.on_keep id a).symm
    | some spot =>
      have removed : a.world.board.remove id = .ok (spot, a.world.board.clear id spot) :=
        Board.remove_eq_ok.mpr ⟨placed, rfl⟩
      cases alive : a.world.entity? id with
      | none =>
        rw [perform, World.destroy, World.discard, removed]
        dsimp only
        rw [alive]
        exact congrArg (Prod.mk _) (Change.on_lift id spot a).symm
      | some e =>
        rw [perform_destroy alive placed]
        rfl
  | _ => cases about

/-- What an event about a member calls for is about the same member, and calls for nothing more. -/
theorem reactions_about (about : event.about? = some id) (a : Arena) :
    (event.perform a).reactions = [] ∨ (event.perform a).reactions = [.destroy id] := by
  have reactions : (event.perform a).reactions =
      (event.share (a.world.entity? id) (a.world.coords? id)).1.2 :=
    congrArg (fun done => done.1.2) (performed_of_about about a)
  rw [reactions]
  cases event with
  | damage target amount attacker =>
    cases about
    cases a.world.entity? id with
    | none => exact .inl rfl
    | some e => exact (ite_eq_or_eq ..).symm
  | heal target amount healer =>
    cases a.world.entity? id <;> exact .inl rfl
  | destroy target =>
    cases a.world.coords? id with
    | none => exact .inl rfl
    | some spot => cases a.world.entity? id <;> exact .inl rfl
  | _ => cases about

/-- **Events about different members** do not notice each other. -/
theorem apart_performed (about : event.about? = some id) (about' : event'.about? = some other)
    (apart : id ≠ other) : Apart event.performed event'.performed where
  left a := by
    rw [performed_of_about about', performed_of_about about, performed_of_about about]
    rw [Change.entity?_on apart, Change.coords?_on apart]
  right a := by
    rw [performed_of_about about', performed_of_about about, performed_of_about about']
    rw [Change.entity?_on apart.symm, Change.coords?_on apart.symm]
  state a := by
    -- Neither change touches what the other event reads, so both shares are those of `a`.
    rw [performed_of_about about', performed_of_about about, performed_of_about about,
      performed_of_about about']
    rw [Change.entity?_on apart, Change.coords?_on apart, Change.entity?_on apart.symm,
      Change.coords?_on apart.symm]
    exact Change.on_comm apart a

/-- An event with its reactions, and the log of what they did. -/
def resolved (event : Event) : StateM Arena (Option Log) := do
  let (made, reactions) ← event.performed
  let more ← reactions.mapM performed
  pure (Log.ofEntries (made.toList ++ more.flatMap fun done => done.1.toList))

/-- A cascade is apart from what all events about its member are apart from. -/
theorem apart_of_performed {β : Type} {n : StateM Arena β} (about : event.about? = some id)
    (all : ∀ e : Event, e.about? = some id → Apart e.performed n) : Apart event.resolved n := by
  refine (all event about).bind fun a => ?_
  have reactions : ∀ e ∈ (event.perform a).reactions, Apart e.performed n := by
    rcases reactions_about about a with none | one
    · rw [none]
      exact nofun
    · rw [one]
      exact List.forall_mem_singleton.mpr (all (.destroy id) rfl)
  exact (Apart.mapM reactions).bind fun _ => Apart.pure _

/-- **Cascades about different members** do not notice each other. -/
theorem apart_resolved (about : event.about? = some id) (about' : event'.about? = some other)
    (apart : id ≠ other) : Apart event.resolved event'.resolved := by
  refine apart_of_performed about fun e here => ?_
  refine (apart_of_performed about' fun e' there => ?_).symm
  exact (apart_performed here there apart).symm

end Event

namespace Context

/-- **An event about a member resolves**, where there is room for a reaction. -/
theorem process_about {event : Event} {id : EntityId} (about : event.about? = some id) {limit : Nat}
    (room : 1 ≤ limit) (a : Arena) :
    process event (.idle a limit) = .ok (event.resolved a).1 (.idle (event.resolved a).2 limit) := by
  have unfolded : event.resolved a =
      (Log.ofEntries ((event.perform a).entry.toList ++
          ((event.perform a).reactions.mapM Event.performed (event.perform a).arena).1.flatMap
            fun done => done.1.toList),
        ((event.perform a).reactions.mapM Event.performed (event.perform a).arena).2) := rfl
  rw [unfolded]
  rcases Event.reactions_about about a with silent | reacts
  · rw [process_silent silent, silent]
    cases (event.perform a).entry <;> rfl
  · have last : ((Event.destroy id).perform (event.perform a).arena).reactions = [] :=
      Event.reactions_eq_nil nofun
    rw [process_reaction reacts last room, reacts,
      ← List.append_nil (Option.toList (Outcome.entry (Event.perform _ (.destroy id))))]
    rfl

end Context

end Skirmish
