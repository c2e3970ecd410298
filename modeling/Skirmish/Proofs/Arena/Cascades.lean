import Skirmish.Proofs.Arena.Traces

/-!
# How an event resolves

Every event asks for one operation of the world (`Event.operation`), and the turn order follows the
entry that the operation makes. One thing alone calls for more: damage that leaves its registered
target without health **fells** it (`Event.Fells`) and calls for its destruction, which calls for
nothing. So the loop over pending events has three endings, each an equation here.

- An event that fells nobody is its operation (`process_calm`).
- An event that fells is the damage and then the destruction, when one reaction has room
  (`process_felling`). The target of a coherent arena stands on the board, so the destruction is never
  refused.
- Without room the damage is all there is, and the target stays without health (`process_cut`).

In each ending nothing is left pending: the context is idle again.
-/

namespace Skirmish

open Arena

namespace World

variable {w : World} {id : EntityId} {e : Entity}

theorem damage_of_alive (alive : w.entity? id = some e) (amount : Amount) (attacker : Option EntityId) :
    w.damage id amount attacker =
      (some (.damage attacker id amount.resolve (e.absorbed amount.resolve)),
        w.update (e.hurt amount.resolve)) := by
  rw [damage, alive]
  rfl

theorem destroy_of_placed (alive : w.entity? id = some e) {spot : Coords}
    (placed : w.coords? id = some spot) :
    w.destroy id = (some (.destruction e spot), w.without id spot) := by
  have removed : w.board.remove id = .ok (spot, w.board.clear id spot) :=
    Board.remove_eq_ok.mpr ⟨placed, rfl⟩
  have gone : w.discard id = (some (e, spot), w.without id spot) := by
    rw [discard, removed]
    dsimp only
    rw [alive]
    rfl
  rw [destroy, gone]

theorem entity?_update_self (alive : w.entity? id = some e) (e' : Entity) (same : e'.id = e.id) :
    (w.update e').entity? id = some e' := by
  rw [entity?_update, if_pos (same.trans (id_of_entity? alive))]

end World

namespace Arena

variable (a : Arena) (done : Option Entry × World) (turns : Entry → Turns → Turns)
  {reactions : World → List Event}

theorem settle_entry : (a.settle done turns reactions).entry = done.1 := by
  obtain ⟨made, w⟩ := done
  cases made <;> rfl

theorem settle_world : (a.settle done turns reactions).arena.world = done.2 := by
  obtain ⟨made, w⟩ := done
  cases made <;> rfl

theorem settle_reactions (silent : reactions done.2 = []) :
    (a.settle done turns reactions).reactions = [] := by
  obtain ⟨made, w⟩ := done
  cases made with
  | none => rfl
  | some entry => exact silent

end Arena

namespace Event

/-- The one operation of the world that an event asks for. -/
def operation (w : World) : Event → Option Entry × World
  | .damage target amount attacker => w.damage target amount attacker
  | .heal target amount healer => w.heal target amount healer
  | .destroy entity => w.destroy entity
  | .spawn kind spot => w.spawn kind spot
  | .move entity goal relative => w.moveEntity entity goal relative
  | .modify kind spot => w.modify kind spot
  | .projectile source target => w.projectile source target

/-- Whether an event is damage after which its registered target has no health left. -/
def Fells (w : World) : Event → Prop
  | .damage target amount attacker => (w.damage target amount attacker).2.health? target = some 0
  | _ => False

/-- The arena after the operation of an event: the turn order follows the entry, if one was made. -/
def settled (a : Arena) (event : Event) : Arena :=
  ⟨(event.operation a.world).2, (event.operation a.world).1.elim a.turns a.turns.follow⟩

variable {a : Arena} {event : Event}

theorem perform_entry (a : Arena) (event : Event) :
    (event.perform a).entry = (event.operation a.world).1 := by
  cases event <;> apply settle_entry

theorem perform_arena (h : a.Coherent) (event : Event) : (event.perform a).arena = event.settled a := by
  have world : (event.perform a).arena.world = (event.operation a.world).2 := by
    cases event <;> apply settle_world
  have turns : (event.perform a).arena.turns =
      (event.operation a.world).1.elim a.turns a.turns.follow := by
    have does := event.perform_does h
    rw [← perform_entry]
    revert does
    cases (event.perform a).entry with
    | none => exact fun same => congrArg Arena.turns same
    | some entry => exact fun step => step.turns
  exact congrArg₂ Arena.mk world turns

/-- The operation is refused and nothing changes, or it is the step that its entry records. -/
theorem settled_does (h : a.Coherent) (event : Event) :
    a.Does (event.operation a.world).1 (event.settled a) := by
  have does := event.perform_does h
  rw [perform_entry, perform_arena h] at does
  exact does

theorem settled_of_refused (h : a.Coherent) (refused : (event.operation a.world).1 = none) :
    event.settled a = a := by
  have does := event.settled_does h
  rw [refused] at does
  exact does

theorem defeat_eq (target : EntityId) (w : World) :
    defeat target w = if w.health? target = some 0 then [.destroy target] else [] := by
  unfold defeat World.health?
  cases w.entity? target with
  | none => rfl
  | some e =>
    cases dead : e.health with
    | zero => simp [Entity.isAlive, dead]
    | succ n => simp [Entity.isAlive, dead]

theorem reactions_eq_nil (calm : ¬ event.Fells a.world) : (event.perform a).reactions = [] := by
  cases event with
  | damage target amount attacker =>
    apply settle_reactions
    exact (defeat_eq target _).trans (if_neg calm)
  | _ =>
    apply settle_reactions
    rfl

/-- Whom an event fells was registered before, and is left without health. -/
theorem Fells.target {target : EntityId} {amount : Amount} {attacker : Option EntityId}
    (fells : (Event.damage target amount attacker).Fells a.world) :
    ∃ e, a.world.entity? target = some e ∧ (e.hurt amount.resolve).health = 0 := by
  cases alive : a.world.entity? target with
  | none =>
    have absent : (a.world.damage target amount attacker).2.health? target = none := by
      rw [World.damage, alive]
      dsimp only
      rw [World.health?, alive]
      rfl
    rw [Fells, absent] at fells
    cases fells
  | some e =>
    rw [Fells, World.damage_of_alive alive, World.health?,
      World.entity?_update_self alive (e.hurt amount.resolve) rfl] at fells
    exact ⟨e, rfl, Option.some.inj fells⟩

/-- Damage to a registered entity, with all that it calls for. -/
theorem perform_damage {target : EntityId} {e : Entity} (alive : a.world.entity? target = some e)
    (amount : Amount) (attacker : Option EntityId) :
    (Event.damage target amount attacker).perform a =
      ⟨{ a with world := a.world.update (e.hurt amount.resolve) },
        some (.damage attacker target amount.resolve (e.absorbed amount.resolve)),
        if (e.hurt amount.resolve).health = 0 then [.destroy target] else []⟩ := by
  have after : (a.world.update (e.hurt amount.resolve)).health? target =
      some (e.hurt amount.resolve).health := by
    rw [World.health?, World.entity?_update_self alive (e.hurt amount.resolve) rfl]
    rfl
  rw [perform, World.damage_of_alive alive]
  unfold Arena.settle
  dsimp only
  rw [defeat_eq, after]
  simp only [Option.some.injEq]

theorem perform_destroy {target : EntityId} {e : Entity} {spot : Coords}
    (alive : a.world.entity? target = some e) (placed : a.world.coords? target = some spot) :
    (Event.destroy target).perform a =
      ⟨⟨a.world.without target spot, a.turns.leave target⟩, some (.destruction e spot), []⟩ := by
  rw [perform, World.destroy_of_placed alive placed]
  rfl

end Event

namespace Context

variable {a : Arena} {event : Event} {base limit depth : Nat}

theorem drain_done {c : Context} (done : List Entry) (low : c.stack.size ≤ base) :
    drain base c done = .ok done c := by
  rw [drain, if_neg (Nat.not_lt.mpr low)]

/-- One turn of the loop: the newest event is performed, and its reactions are put on what waits. -/
theorem drain_cons {c : Context} {f : Frame} {rest : List Frame} (done : List Entry)
    (frames : c.stack.frames = f :: rest) (above : base ≤ rest.length) :
    drain base c done =
      match (EventStack.mk rest c.stack.limit).pushAll (f.event.perform c.arena).reactions (f.depth + 1) with
      | .error e =>
        .error e ⟨(f.event.perform c.arena).arena, (EventStack.mk rest c.stack.limit).truncate base⟩
      | .ok stack =>
        drain base ⟨(f.event.perform c.arena).arena, stack⟩
          (done ++ (f.event.perform c.arena).entry.toList) := by
  have deep : base < c.stack.size := by
    rw [EventStack.size, frames, List.length_cons]
    exact Nat.lt_succ_of_le above
  rw [drain, if_pos deep]
  split
  · next none => rw [frames] at none; cases none
  · next g rest' same =>
    rw [frames] at same
    cases same
    dsimp only
    split
    · next e refused => rw [refused]
    · next stack pushed => rw [pushed]

/-- A last event that calls for nothing ends the loop. -/
theorem drain_last (silent : (event.perform a).reactions = []) (done : List Entry) :
    drain 0 ⟨a, ⟨[⟨event, depth⟩], limit⟩⟩ done =
      .ok (done ++ (event.perform a).entry.toList) (.idle (event.perform a).arena limit) := by
  rw [drain_cons done rfl (Nat.le_refl 0)]
  dsimp only
  rw [silent, EventStack.pushAll]
  exact drain_done _ (Nat.le_refl 0)

theorem process_idle (event : Event) (a : Arena) (limit : Nat) : process event (.idle a limit) =
    match drain 0 ⟨a, ⟨[⟨event, 0⟩], limit⟩⟩ [] with
    | .error e c => .error e c
    | .ok entries c => .ok (Log.ofEntries entries) c := by
  unfold process idle EventStack.empty EventStack.push
  rw [if_neg (Nat.not_lt_zero limit)]
  rfl

theorem process_silent (silent : (event.perform a).reactions = []) (limit : Nat) :
    process event (.idle a limit) =
      .ok ((event.perform a).entry.map .entry) (.idle (event.perform a).arena limit) := by
  rw [process_idle, drain_last silent]
  cases (event.perform a).entry <;> rfl

/-- An event that calls for one more, which calls for nothing. -/
theorem process_reaction {reaction : Event} (reacts : (event.perform a).reactions = [reaction])
    (silent : (reaction.perform (event.perform a).arena).reactions = []) (room : 1 ≤ limit) :
    process event (.idle a limit) =
      .ok (Log.ofEntries ((event.perform a).entry.toList ++
          (reaction.perform (event.perform a).arena).entry.toList))
        (.idle (reaction.perform (event.perform a).arena).arena limit) := by
  have pushed : (EventStack.mk [] limit).pushAll [reaction] 1 = .ok ⟨[⟨reaction, 1⟩], limit⟩ := by
    rw [EventStack.pushAll, EventStack.pushAll]
    dsimp only
    rw [EventStack.push, if_neg (Nat.not_lt.mpr room)]
  rw [process_idle, drain_cons [] rfl (Nat.le_refl 0)]
  dsimp only
  rw [reacts, pushed]
  dsimp only
  rw [drain_last silent]
  rfl

/-- **An event that fells nobody is its operation**, under every limit. -/
theorem process_calm (h : a.Coherent) (calm : ¬ event.Fells a.world) (limit : Nat) :
    process event (.idle a limit) =
      .ok ((event.operation a.world).1.map .entry) (.idle (event.settled a) limit) := by
  rw [process_silent (Event.reactions_eq_nil calm), Event.perform_arena h, Event.perform_entry]

variable {target : EntityId} {e : Entity} {amount : Amount}

/-- **Without room for a reaction** the damage is made, the destruction is refused, and the target
stays where it is. -/
theorem process_cut (alive : a.world.entity? target = some e) (fallen : (e.hurt amount.resolve).health = 0)
    (attacker : Option EntityId) : process (.damage target amount attacker) (.idle a 0) =
      .error (.cascadeTooDeep 1 0) (.idle { a with world := a.world.update (e.hurt amount.resolve) } 0) := by
  rw [process_idle, drain_cons [] rfl (Nat.le_refl 0)]
  dsimp only
  rw [Event.perform_damage alive, if_pos fallen]
  rfl

/-- With room for a reaction an event that fells resolves, in the same way under every limit. -/
theorem process_of_fells (fells : event.Fells a.world) : ∃ log a', ∀ limit, 1 ≤ limit →
    process event (.idle a limit) = .ok log (.idle a' limit) := by
  cases event with
  | damage target amount attacker =>
    obtain ⟨e, alive, fallen⟩ := fells.target
    have reacts := congrArg Outcome.reactions (Event.perform_damage alive amount attacker)
    rw [if_pos fallen] at reacts
    have silent : ((Event.destroy target).perform
        ((Event.damage target amount attacker).perform a).arena).reactions = [] :=
      Event.reactions_eq_nil nofun
    exact ⟨_, _, fun limit room => process_reaction reacts silent room⟩
  | _ => exact fells.elim

/-- Without room an event that fells ends in an error. -/
theorem process_of_fells_cut (fells : event.Fells a.world) : ∃ a',
    process event (.idle a 0) = .error (.cascadeTooDeep 1 0) (.idle a' 0) := by
  cases event with
  | damage target amount attacker =>
    obtain ⟨e, alive, fallen⟩ := fells.target
    exact ⟨_, process_cut alive fallen attacker⟩
  | _ => exact fells.elim

/-- An event either resolves and leaves nothing pending, or it fells and there is no room for the
destruction that it calls for. -/
theorem process_ends (event : Event) (a : Arena) (limit : Nat) :
    Ensures (process event (.idle a limit)) (fun _ c => ∃ a', c = .idle a' limit)
      (fun e _ => limit = 0 ∧ e = .cascadeTooDeep 1 0 ∧ event.Fells a.world) := by
  by_cases fells : event.Fells a.world
  · rcases Nat.eq_zero_or_pos limit with rfl | room
    · obtain ⟨a', cut⟩ := process_of_fells_cut fells
      rw [cut]
      exact ⟨rfl, rfl, fells⟩
    · obtain ⟨log, a', resolved⟩ := process_of_fells fells
      rw [resolved limit room]
      exact ⟨a', rfl⟩
  · rw [process_silent (Event.reactions_eq_nil fells)]
    exact ⟨_, rfl⟩

/-- **With room for a reaction** the target is taken from everywhere after the damage. -/
theorem process_felling (alive : a.world.entity? target = some e)
    (fallen : (e.hurt amount.resolve).health = 0) {spot : Coords}
    (placed : a.world.coords? target = some spot) (attacker : Option EntityId) (room : 1 ≤ limit) :
    process (.damage target amount attacker) (.idle a limit) =
      .ok (some (.combined false
          [.entry (.damage attacker target amount.resolve (e.absorbed amount.resolve)),
            .entry (.destruction (e.hurt amount.resolve) spot)]))
        (.idle ⟨(a.world.update (e.hurt amount.resolve)).without target spot, a.turns.leave target⟩
          limit) := by
  have struck := Event.perform_damage alive amount attacker
  rw [if_pos fallen] at struck
  have still : (a.world.update (e.hurt amount.resolve)).entity? target = some (e.hurt amount.resolve) :=
    World.entity?_update_self alive (e.hurt amount.resolve) rfl
  have gone := Event.perform_destroy
    (a := { a with world := a.world.update (e.hurt amount.resolve) }) still placed
  have reacts : ((Event.damage target amount attacker).perform a).reactions = [.destroy target] := by
    rw [struck]
  have silent : ((Event.destroy target).perform
      ((Event.damage target amount attacker).perform a).arena).reactions = [] := by
    rw [struck, gone]
  have resolved := process_reaction reacts silent room
  rw [struck, gone] at resolved
  exact resolved

/-- **An event that makes no entry** has changed nothing. -/
theorem process_untold (h : a.Coherent) {c : Context} (untold : process event (.idle a limit) = .ok none c) :
    c = .idle a limit := by
  by_cases fells : event.Fells a.world
  · cases event with
    | damage target amount attacker =>
      obtain ⟨e, alive, fallen⟩ := fells.target
      obtain ⟨spot, placed, -⟩ := h.world.coords_of_entity alive
      rcases Nat.eq_zero_or_pos limit with rfl | room
      · rw [process_cut alive fallen] at untold
        cases untold
      · rw [process_felling alive fallen placed attacker room] at untold
        cases untold
    | _ => exact fells.elim
  · rw [process_calm h fells] at untold
    obtain ⟨refused, rfl⟩ := EStateM.Result.ok.inj untold
    rw [Event.settled_of_refused h (Option.map_eq_none_iff.mp refused)]

end Context

/-! ## What resolving can fail for -/

theorem EventStack.push_fails {s : EventStack} {event : Event} {depth : Nat} {e : CastError}
    (failed : s.push event depth = .error e) : ∃ depth limit, e = .cascadeTooDeep depth limit := by
  unfold push at failed
  split at failed
  · cases failed
    exact ⟨_, _, rfl⟩
  · cases failed

theorem EventStack.pushAll_fails {s : EventStack} {events : List Event} {depth : Nat} {e : CastError}
    (failed : s.pushAll events depth = .error e) : ∃ depth limit, e = .cascadeTooDeep depth limit := by
  induction events generalizing e with
  | nil => cases failed
  | cons event events ih =>
    unfold pushAll at failed
    split at failed
    · next refused =>
      cases failed
      exact ih refused
    · exact push_fails failed

theorem Context.drain_fails (base : Nat) (c : Context) (done : List Entry) :
    Ensures (drain base c done) (fun _ _ => True)
      (fun e _ => ∃ depth limit, e = .cascadeTooDeep depth limit) := by
  fun_induction drain base c done with
  | case1 => trivial
  | case2 _ _ _ _ _ _ _ _ refused => exact EventStack.pushAll_fails refused
  | case3 _ _ _ _ _ _ _ _ _ ih => exact ih
  | case4 => trivial

/-- **An event fails for the depth of a cascade only**, whatever is pending. -/
theorem Context.process_fails (event : Event) (c : Context) :
    Ensures (process event c) (fun _ _ => True)
      (fun e _ => ∃ depth limit, e = .cascadeTooDeep depth limit) := by
  unfold process
  cases pushed : c.stack.push event 0 with
  | error e => exact EventStack.push_fails pushed
  | ok stack =>
    have fails := drain_fails c.stack.size ⟨c.arena, stack⟩ []
    dsimp only
    revert fails
    cases drain c.stack.size ⟨c.arena, stack⟩ [] <;> exact id

end Skirmish
