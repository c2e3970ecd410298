import Skirmish.Proofs.Ensures
import Skirmish.Proofs.World.Steps
import Skirmish.Cascade

/-!
# Traces of the arena

A **trace** leads from an arena to a later one through steps of its world, each with the entry that
records it; the turn order follows the entries (`Turns.follow`). Whatever the engine does between two
moments is a trace: performing an event is at most one step (`perform_does`), and resolving an event
with all its reactions is a trace of the entries that it gathers, also when a reaction lies too deep
and the rest is dropped (`process_trace`).

A **coherent** arena has a coherent world, and its turn order holds each registered agent once and
nobody else. Traces keep coherence (`Coherent.trace`), and so what holds of a step holds of all that
the engine can do, by induction on the trace.
-/

namespace Skirmish

/-- The turn order after an entry: a new agent joins at the back, whoever is destroyed leaves. -/
def Turns.follow (t : Turns) : Entry → Turns
  | .spawn id kind _ => if kind.isAgent then t.join id else t
  | .destruction e _ => t.leave e.id
  | _ => t

namespace World

variable {w w' : World} {entry : Entry} {id : EntityId}

/-- The type of a registered entity. -/
def kind? (w : World) (id : EntityId) : Option EntityType := (w.entity? id).map Entity.kind

/-- Which types are registered after an entry: only a spawn and a destruction make a difference. -/
def kindAfter (k : Option EntityType) (id : EntityId) : Entry → Option EntityType
  | .spawn new kind _ => if new = id then some kind else k
  | .destruction e _ => if id = e.id then none else k
  | _ => k

theorem kind?_eq_some {kind : EntityType} :
    w.kind? id = some kind ↔ ∃ e, w.entity? id = some e ∧ e.kind = kind :=
  Option.map_eq_some_iff

theorem kind?_update {e : Entity} (alive : w.entity? id = some e) (e' : Entity) (same : e'.id = e.id)
    (kind : e'.kind = e.kind) (other : EntityId) : (w.update e').kind? other = w.kind? other := by
  rw [kind?, entity?_update]
  split
  · next here =>
    have mine : other = id := here.symm.trans (same.trans (id_of_entity? alive))
    rw [mine, kind?, alive, Option.map_some, Option.map_some, kind]
  · rfl

/-- **What a step does to the registered types.** -/
theorem Step.kind? (s : w.Step entry w') (id : EntityId) :
    w'.kind? id = kindAfter (w.kind? id) id entry := by
  cases s with
  | @damage _ e alive _ amount => exact kind?_update alive (e.hurt amount) rfl rfl id
  | @healing _ e alive _ amount => exact kind?_update alive (e.healed amount) rfl rfl id
  | spawn =>
    rw [kindAfter, World.kind?, entity?_settleNew]
    split <;> rfl
  | destruction alive =>
    rw [kindAfter, World.kind?, entity?_without, id_of_entity? alive]
    split <;> rfl
  | _ => rfl

/-- A step gives out at most the next number. -/
theorem Step.nextId_le (s : w.Step entry w') : w.nextId ≤ w'.nextId := by
  cases s with
  | spawn => exact Nat.le_succ _
  | _ => exact Nat.le_refl _

/-- No step registers a number that was given out before. -/
theorem Step.kind?_of_lt (s : w.Step entry w') (old : id.val < w.nextId) {kind : EntityType}
    (known : w'.kind? id = some kind) : w.kind? id = some kind := by
  rw [s.kind? id] at known
  cases s with
  | spawn =>
    have apart : w.next ≠ id := by
      rintro rfl
      exact Nat.lt_irrefl _ old
    rw [kindAfter, if_neg apart] at known
    exact known
  | destruction =>
    rw [kindAfter] at known
    split at known
    · cases known
    · exact known
  | _ => exact known

end World

namespace Arena

variable {a b c : Arena} {entry : Entry} {entries entries' : List Entry} {id : EntityId}

/-- **A step of the arena**: a step of its world that the turn order follows. -/
structure Step (a : Arena) (entry : Entry) (b : Arena) : Prop where
  world : a.world.Step entry b.world
  turns : b.turns = a.turns.follow entry

/-- **A trace**: steps in a row, with their entries in order. -/
inductive Trace : Arena → List Entry → Arena → Prop
  | nil {a : Arena} : Trace a [] a
  | cons {a b c : Arena} {entry : Entry} {entries : List Entry} (first : a.Step entry b)
      (rest : Trace b entries c) : Trace a (entry :: entries) c

theorem Trace.append (first : Trace a entries b) (second : Trace b entries' c) :
    Trace a (entries ++ entries') c := by
  induction first with
  | nil => exact second
  | cons step _ ih => exact .cons step (ih second)

theorem Step.trace (s : a.Step entry b) : Trace a [entry] b := .cons s .nil

theorem Trace.nextId_le (t : Trace a entries b) : a.world.nextId ≤ b.world.nextId := by
  induction t with
  | nil => exact Nat.le_refl _
  | cons first _ ih => exact Nat.le_trans first.world.nextId_le ih

/-- Whoever is registered after a trace under a number that was given out before it was registered
all along. -/
theorem Trace.kind?_of_lt (t : Trace a entries b) (old : id.val < a.world.nextId) {kind : EntityType}
    (known : b.world.kind? id = some kind) : a.world.kind? id = some kind := by
  induction t with
  | nil => exact known
  | cons first _ ih =>
    have still := ih (Nat.lt_of_lt_of_le old first.world.nextId_le) known
    exact first.world.kind?_of_lt old still

/-! ## Coherence -/

/-- **Coherence of an arena.** -/
structure Coherent (a : Arena) : Prop where
  world : a.world.Coherent
  /-- Nobody waits twice. -/
  distinct : a.turns.queue.Nodup
  /-- The registered agents wait, and nobody else. -/
  waiting_iff : ∀ {id}, id ∈ a.turns.queue ↔ ∃ kind, a.world.kind? id = some kind ∧ kind.isAgent = true

theorem coherent_start (size : Size) (kind : TileType) :
    Coherent ⟨.start (.blank size kind), .none⟩ where
  world := World.coherent_start size kind
  distinct := .nil
  waiting_iff := by
    intro id
    constructor
    · exact nofun
    · rintro ⟨_, h, -⟩
      cases h

namespace Coherent

theorem kind?_next (h : a.Coherent) : a.world.kind? a.world.next = none := by
  cases hk : a.world.kind? a.world.next with
  | none => rfl
  | some kind =>
    obtain ⟨e, alive, -⟩ := World.kind?_eq_some.mp hk
    exact absurd (h.world.lt_nextId alive) (Nat.lt_irrefl _)

/-- The next number does not wait yet. -/
theorem next_not_mem (h : a.Coherent) : a.world.next ∉ a.turns.queue := by
  intro waits
  obtain ⟨kind, known, -⟩ := h.waiting_iff.mp waits
  rw [h.kind?_next] at known
  cases known

/-- The queue of the next arena, when its step spawned an agent. -/
theorem follow_spawn (h : a.Coherent) (kind : EntityType) (spot : Coords) :
    (a.turns.follow (.spawn a.world.next kind spot)).queue =
      a.turns.queue ++ if kind.isAgent then [a.world.next] else [] := by
  rw [Turns.follow]
  split
  · exact Turns.join_queue h.next_not_mem
  · exact (List.append_nil _).symm

/-- The queue of the next arena, when its step destroyed an entity. -/
theorem follow_destruction (h : a.Coherent) (e : Entity) (spot : Coords) :
    (a.turns.follow (.destruction e spot)).queue = a.turns.queue.filter (· != e.id) := by
  rw [Turns.follow, Turns.leave_queue, h.distinct.erase_eq_filter]

/-- **A step keeps coherence.** A spawn adds to the queue whom it adds to the registered agents, a
destruction takes from both; every other step leaves the types and the queue alone. -/
theorem step (h : a.Coherent) (s : a.Step entry b) : b.Coherent := by
  obtain ⟨world, turns⟩ := b
  obtain ⟨s, rfl : turns = _⟩ := s
  have coherent := h.world.step s
  have known := s.kind?
  cases s with
  | @spawn kind spot _ _ _ _ _ =>
    refine ⟨coherent, ?_, ?_⟩
    · show (a.turns.follow _).queue.Nodup
      rw [h.follow_spawn]
      cases kind.isAgent with
      | false => simpa using h.distinct
      | true =>
        refine List.nodup_append.mpr ⟨h.distinct, by simp, ?_⟩
        intro id waits last hlast same
        rw [List.mem_singleton.mp hlast] at same
        exact h.next_not_mem (same ▸ waits)
    · intro id
      show id ∈ (a.turns.follow _).queue ↔ _
      rw [h.follow_spawn, known id, World.kindAfter]
      by_cases new : a.world.next = id
      · subst new
        have absent := h.next_not_mem
        cases agent : kind.isAgent <;> simp [absent, agent]
      · rw [if_neg new, ← h.waiting_iff]
        cases kind.isAgent <;> simp [Ne.symm new]
  | @destruction gone e spot alive _ =>
    refine ⟨coherent, ?_, ?_⟩
    · show (a.turns.follow _).queue.Nodup
      rw [h.follow_destruction]
      exact h.distinct.filter _
    · intro id
      show id ∈ (a.turns.follow _).queue ↔ _
      rw [h.follow_destruction, known id, World.kindAfter, List.mem_filter, h.waiting_iff]
      by_cases here : id = e.id <;> simp [here]
  | _ => exact ⟨coherent, h.distinct, by intro id; rw [known id]; exact h.waiting_iff⟩

theorem trace (h : a.Coherent) (t : Trace a entries b) : b.Coherent := by
  induction t with
  | nil => exact h
  | cons first _ ih => exact ih (h.step first)

/-- The end of a turn only changes the order of those who wait. -/
theorem endTurn (h : a.Coherent) (actor : EntityId) :
    Coherent { a with turns := a.turns.endTurn actor } := by
  have order := a.turns.endTurn_perm actor
  exact ⟨h.world, order.nodup_iff.mpr h.distinct, order.mem_iff.trans h.waiting_iff⟩

end Coherent

/-- Whether an arena was left as it is, without an entry, or made the step of the entry. -/
def Does (a : Arena) : Option Entry → Arena → Prop
  | none, b => b = a
  | some entry, b => a.Step entry b

theorem Does.trace {made : Option Entry} (h : a.Does made b) : Trace a made.toList b := by
  cases made with
  | none =>
    cases h
    exact .nil
  | some entry => exact Step.trace h

/-- What the world did, the arena does, as long as the turn order is asked to follow the entry. -/
theorem settle_does {done : Option Entry × World} {turns : Entry → Turns → Turns}
    {reactions : World → List Event} (h : a.world.Does done)
    (follows : ∀ entry, done.1 = some entry → turns entry a.turns = a.turns.follow entry) :
    a.Does (a.settle done turns reactions).entry (a.settle done turns reactions).arena := by
  obtain ⟨made, world⟩ := done
  cases made with
  | none => exact congrArg (Arena.mk · a.turns) h
  | some entry => exact ⟨h, follows entry rfl⟩

end Arena

namespace Event

variable {a : Arena}

/-- **Performing an event** leaves the arena as it is or makes the step that its entry records. -/
theorem perform_does (h : a.Coherent) (event : Event) :
    a.Does (event.perform a).entry (event.perform a).arena := by
  cases event with
  | damage target amount attacker =>
    refine Arena.settle_does (World.damage_does target amount attacker) fun entry made => ?_
    obtain ⟨_, rfl⟩ := World.damage_entry made
    rfl
  | heal target amount healer =>
    refine Arena.settle_does (World.heal_does target amount healer) fun entry made => ?_
    obtain ⟨_, rfl⟩ := World.heal_entry made
    rfl
  | destroy entity =>
    refine Arena.settle_does (World.destroy_does h.world entity) fun entry made => ?_
    obtain ⟨e, spot, rfl, rfl⟩ := World.destroy_entry made
    rfl
  | spawn kind spot =>
    refine Arena.settle_does (World.spawn_does kind spot) fun entry made => ?_
    obtain ⟨id, rfl⟩ := World.spawn_entry made
    rfl
  | move entity goal relative =>
    refine Arena.settle_does (World.moveEntity_does entity goal relative) fun entry made => ?_
    obtain ⟨_, _, rfl⟩ := World.moveEntity_entry made
    rfl
  | modify kind spot =>
    refine Arena.settle_does (World.modify_does kind spot) fun entry made => ?_
    obtain ⟨_, rfl⟩ := World.modify_entry made
    rfl
  | projectile source target =>
    refine Arena.settle_does (World.projectile_does source target) fun entry made => ?_
    cases made
    rfl

end Event

/-! ## Cascades -/

namespace Context

open Arena

/-- What resolving pending events does: a trace of the entries gathered on the way, and on a failure
a trace of entries that are lost. The induction is on the loop; each turn of it is one event. -/
theorem drain_trace (base : Nat) (c : Context) (done : List Entry) (h : c.arena.Coherent) :
    Ensures (drain base c done)
      (fun entries c' => ∃ made, entries = done ++ made ∧ Trace c.arena made c'.arena)
      (fun _ c' => ∃ lost, Trace c.arena lost c'.arena) := by
  fun_induction drain base c done with
  | case1 c done => exact ⟨[], (List.append_nil done).symm, .nil⟩
  | case2 c done _ f _ _ out => exact ⟨_, (f.event.perform_does h).trace⟩
  | case3 c done _ f _ _ out _ _ ih =>
    have first : Trace c.arena out.entry.toList out.arena := (f.event.perform_does h).trace
    refine (ih (h.trace first)).mono ?_ ?_
    · rintro entries c' ⟨made, rfl, rest⟩
      exact ⟨out.entry.toList ++ made, List.append_assoc .., first.append rest⟩
    · rintro _ c' ⟨lost, rest⟩
      exact ⟨out.entry.toList ++ lost, first.append rest⟩
  | case4 c done => exact ⟨[], (List.append_nil done).symm, .nil⟩

/-- **Resolving an event is a trace** of the entries of its log, also when it fails. -/
theorem process_trace (event : Event) (c : Context) (h : c.arena.Coherent) :
    Ensures (process event c)
      (fun log c' => Trace c.arena (Log.leavesAll log.toList) c'.arena)
      (fun _ c' => ∃ lost, Trace c.arena lost c'.arena) := by
  unfold process
  cases c.stack.push event 0 with
  | error e => exact ⟨[], .nil⟩
  | ok stack =>
    have resolved := drain_trace c.stack.size ⟨c.arena, stack⟩ [] h
    dsimp only
    revert resolved
    cases drain c.stack.size ⟨c.arena, stack⟩ [] with
    | error e c' => exact id
    | ok entries c' =>
      rintro ⟨made, gathered, trace⟩
      show Trace c.arena (Log.leavesAll (Log.ofEntries entries).toList) c'.arena
      rw [Log.leavesAll_ofEntries, gathered]
      exact trace

end Context

end Skirmish
