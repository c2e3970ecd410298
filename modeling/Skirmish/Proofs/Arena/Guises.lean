import Skirmish.Proofs.Arena.Cascades
import Skirmish.Proofs.World.Guises

/-!
# Events in another guise

Whatever wears a guise resolves as it would without: an event has the same outcome (`perform_wear`), and
the cascade that it starts has the same end, in success and failure (`process_wear`). The loop over
pending events is compared turn by turn; in both runs the same events are pending, one of them in the
guise.
-/

namespace Skirmish

variable {ε σ τ α β : Type} {g : Guise}

/-- A result with its answer and its state changed. -/
def through (f : α → β) (h : σ → τ) : EStateM.Result ε σ α → EStateM.Result ε τ β
  | .ok a s => .ok (f a) (h s)
  | .error e s => .error e (h s)

def Event.wear (g : Guise) : Event → Event
  | .spawn kind spot => .spawn (g.entity kind) spot
  | .modify kind spot => .modify (g.tile kind) spot
  | event => event

def Arena.wear (g : Guise) (a : Arena) : Arena := { a with world := a.world.wear g }

def Outcome.wear (g : Guise) (o : Outcome) : Outcome :=
  ⟨o.arena.wear g, o.entry.map (Entry.wear g), o.reactions.map (Event.wear g)⟩

def EventStack.wear (g : Guise) (s : EventStack) : EventStack :=
  { s with frames := s.frames.map fun f => { f with event := f.event.wear g } }

def Context.wear (g : Guise) (c : Context) : Context := ⟨c.arena.wear g, c.stack.wear g⟩

mutual

def Log.wear (g : Guise) : Log → Log
  | .entry e => .entry (e.wear g)
  | .combined parallel logs => .combined (g.parallel parallel) (Log.wearAll g logs)

def Log.wearAll (g : Guise) : List Log → List Log
  | [] => []
  | l :: ls => l.wear g :: Log.wearAll g ls

end

/-! ## Events -/

theorem Arena.world_wear (a : Arena) : (a.wear g).world = a.world.wear g := rfl

namespace Event

theorem settle_wear {a : Arena} {done : Option Entry × World} {turns turns' : Entry → Turns → Turns}
    {reactions reactions' : World → List Event} (same : ∀ entry t, turns' (entry.wear g) t = turns entry t)
    (worn : ∀ w : World, reactions' (w.wear g) = (reactions w).map (Event.wear g)) :
    (a.wear g).settle (World.dressed g done) turns' reactions' = (a.settle done turns reactions).wear g := by
  obtain ⟨made, w⟩ := done
  cases made with
  | none => rfl
  | some entry =>
    show Outcome.mk ⟨w.wear g, turns' (entry.wear g) a.turns⟩ (some (entry.wear g)) (reactions' (w.wear g)) = _
    rw [same, worn]
    rfl

theorem defeat_wear (target : EntityId) (w : World) :
    defeat target (w.wear g) = (defeat target w).map (Event.wear g) := by
  rw [defeat_eq, defeat_eq, World.health?_wear]
  split <;> rfl

theorem enlist_wear (kind : EntityType) (entry : Entry) (t : Turns) :
    enlist (g.entity kind) (entry.wear g) t = enlist kind entry t := by
  cases entry with
  | spawn id _ _ =>
    show (if (g.entity kind).isAgent then t.join id else t) = _
    rw [g.isAgent]
    rfl
  | _ => rfl

/-- **An event has its outcome in every guise.** -/
theorem perform_wear (event : Event) (a : Arena) :
    (event.wear g).perform (a.wear g) = (event.perform a).wear g := by
  cases event with
  | damage target amount attacker =>
    show perform (a.wear g) (.damage target amount attacker) = _
    rw [perform, perform, Arena.world_wear, World.damage_wear]
    exact settle_wear (fun _ _ => rfl) (defeat_wear target)
  | heal target amount healer =>
    show perform (a.wear g) (.heal target amount healer) = _
    rw [perform, perform, Arena.world_wear, World.heal_wear]
    exact settle_wear (fun _ _ => rfl) fun _ => rfl
  | destroy entity =>
    show perform (a.wear g) (.destroy entity) = _
    rw [perform, perform, Arena.world_wear, World.destroy_wear]
    exact settle_wear (fun _ _ => rfl) fun _ => rfl
  | spawn kind spot =>
    show perform (a.wear g) (.spawn (g.entity kind) spot) = _
    rw [perform, perform, Arena.world_wear, World.spawn_wear]
    exact settle_wear (enlist_wear kind) fun _ => rfl
  | move entity goal relative =>
    show perform (a.wear g) (.move entity goal relative) = _
    rw [perform, perform, Arena.world_wear, World.moveEntity_wear]
    exact settle_wear (fun _ _ => rfl) fun _ => rfl
  | modify kind spot =>
    show perform (a.wear g) (.modify (g.tile kind) spot) = _
    rw [perform, perform, Arena.world_wear, World.modify_wear]
    exact settle_wear (fun _ _ => rfl) fun _ => rfl
  | projectile source target =>
    show perform (a.wear g) (.projectile source target) = _
    rw [perform, perform, Arena.world_wear, World.projectile_wear]
    exact settle_wear (fun _ _ => rfl) fun _ => rfl

end Event

/-! ## Cascades -/

namespace EventStack

theorem push_wear (s : EventStack) (event : Event) (depth : Nat) :
    (s.wear g).push (event.wear g) depth = (s.push event depth).map (EventStack.wear g) := by
  unfold push
  show (if s.limit < depth then _ else _) = _
  split <;> rfl

theorem pushAll_wear (s : EventStack) (events : List Event) (depth : Nat) :
    (s.wear g).pushAll (events.map (Event.wear g)) depth = (s.pushAll events depth).map (EventStack.wear g) := by
  induction events with
  | nil => rfl
  | cons event events ih =>
    rw [List.map_cons, pushAll, pushAll, ih]
    cases s.pushAll events depth with
    | error e => rfl
    | ok pushed => exact pushed.push_wear event depth

theorem truncate_wear (s : EventStack) (size : Nat) : (s.wear g).truncate size = (s.truncate size).wear g := by
  simp only [truncate, wear, List.length_map, List.map_drop]

theorem size_wear (s : EventStack) : (s.wear g).size = s.size := List.length_map _

end EventStack

namespace Log

theorem wearAll_eq_map (logs : List Log) : wearAll g logs = logs.map (Log.wear g) := by
  induction logs with
  | nil => rfl
  | cons l ls ih => rw [wearAll, ih, List.map_cons]

mutual

theorem leaves_wear : (log : Log) → (log.wear g).leaves = log.leaves.map (Entry.wear g)
  | .entry e => by
    rw [wear, leaves, leaves]
    rfl
  | .combined parallel logs => by
    rw [wear, leaves, leaves]
    exact leavesAll_wear logs

theorem leavesAll_wear : (logs : List Log) → leavesAll (wearAll g logs) = (leavesAll logs).map (Entry.wear g)
  | [] => rfl
  | log :: logs => by
    rw [wearAll, leavesAll, leavesAll, leaves_wear log, leavesAll_wear logs, List.map_append]

end

theorem wear_ofEntries (es : List Entry) :
    ofEntries (es.map (Entry.wear g)) = (ofEntries es).map (Log.wear g) := by
  match es with
  | [] => rfl
  | [_] => rfl
  | a :: b :: es =>
    show some (Log.combined false (((a :: b :: es).map (Entry.wear g)).map .entry)) =
      some (Log.wear g (.combined false ((a :: b :: es).map .entry)))
    rw [Log.wear, g.sequence, wearAll_eq_map, List.map_map, List.map_map]
    rfl

end Log

namespace Context

/-- One turn of the loop in a guise: what is performed and what is pushed wears it. -/
theorem drain_cons_wear {base : Nat} {a : Arena} {f : Frame} (below : EventStack) (done : List Entry)
    (above : base ≤ below.size) :
    drain base (wear g ⟨a, ⟨f :: below.frames, below.limit⟩⟩) done =
      match (below.pushAll (f.event.perform a).reactions (f.depth + 1)).map (EventStack.wear g) with
      | .error e => .error e (wear g ⟨(f.event.perform a).arena, below.truncate base⟩)
      | .ok stack =>
        drain base ⟨(f.event.perform a).arena.wear g, stack⟩
          (done ++ (f.event.perform a).entry.toList.map (Entry.wear g)) := by
  have above' : base ≤ (below.wear g).size := by
    rw [EventStack.size_wear]
    exact above
  have performed : (f.event.wear g).perform (a.wear g) = (f.event.perform a).wear g := f.event.perform_wear a
  have gathered : ((f.event.perform a).wear g).entry.toList =
      (f.event.perform a).entry.toList.map (Entry.wear g) := Option.toList_map ..
  have pushed : (below.wear g).pushAll ((f.event.perform a).wear g).reactions (f.depth + 1) =
      (below.pushAll (f.event.perform a).reactions (f.depth + 1)).map (EventStack.wear g) :=
    below.pushAll_wear ..
  have waiting : EventStack.mk (below.wear g).frames (wear g ⟨a, ⟨f :: below.frames, below.limit⟩⟩).stack.limit =
      below.wear g := rfl
  refine (drain_cons (f := { f with event := f.event.wear g }) done rfl above').trans ?_
  rw [show (wear g ⟨a, ⟨f :: below.frames, below.limit⟩⟩).arena = a.wear g from rfl, performed, gathered, waiting,
    pushed, below.truncate_wear]
  cases below.pushAll (f.event.perform a).reactions (f.depth + 1) <;> rfl

/-- The induction is on the loop; the entries so far wear the guise as well. -/
theorem drain_wear (base : Nat) (c : Context) (done : List Entry) :
    drain base (c.wear g) (done.map (Entry.wear g)) =
      through (List.map (Entry.wear g)) (Context.wear g) (drain base c done) := by
  fun_induction drain base c done with
  | case1 c done above none =>
    rw [EventStack.size, none] at above
    exact absurd above (Nat.not_lt_zero base)
  | case2 c done above f rest frames out e refused =>
    obtain ⟨a, ⟨_, limit⟩⟩ := c
    cases frames
    rw [drain_cons_wear ⟨rest, limit⟩ _ (Nat.lt_succ_iff.mp above), refused]
    rfl
  | case3 c done above f rest frames out stack pushed ih =>
    obtain ⟨a, ⟨_, limit⟩⟩ := c
    cases frames
    rw [drain_cons_wear ⟨rest, limit⟩ _ (Nat.lt_succ_iff.mp above), pushed, ← List.map_append]
    exact ih
  | case4 c done low =>
    refine drain_done _ ?_
    show (c.stack.wear g).size ≤ base
    rw [EventStack.size_wear]
    exact Nat.not_lt.mp low

/-- **An event resolves as it does, in every guise.** -/
theorem process_wear (event : Event) (c : Context) : process (event.wear g) (c.wear g) =
    through (Option.map (Log.wear g)) (Context.wear g) (process event c) := by
  have pushed : (c.wear g).stack.push (event.wear g) 0 = (c.stack.push event 0).map (EventStack.wear g) :=
    c.stack.push_wear event 0
  unfold process
  rw [pushed]
  cases c.stack.push event 0 with
  | error e => rfl
  | ok stack =>
    have resolved : drain (c.wear g).stack.size (wear g ⟨c.arena, stack⟩) [] =
        through (List.map (Entry.wear g)) (wear g) (drain c.stack.size ⟨c.arena, stack⟩ []) := by
      rw [show (c.wear g).stack.size = c.stack.size from c.stack.size_wear]
      exact drain_wear c.stack.size ⟨c.arena, stack⟩ []
    dsimp only [Except.map]
    rw [show Context.mk (c.wear g).arena (stack.wear g) = wear g ⟨c.arena, stack⟩ from rfl, resolved]
    cases drain c.stack.size ⟨c.arena, stack⟩ [] with
    | error e c' => rfl
    | ok entries c' => exact congrArg (EStateM.Result.ok · _) (Log.wear_ofEntries entries)

end Context

end Skirmish
