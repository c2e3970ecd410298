import Skirmish.Proofs.Game.Identity
import Skirmish.Proofs.Turns.Order

/-!
# Fairness of the turn order

A turn is **completed** by the one whose turn it is, when a turn is taken or passed and the call answers
(`Game.completes`). Between two of its turns an agent meets each other agent at most once, whoever is
born or dies meanwhile, however often turns fail, and whatever is cast out of turn.

The measure is the part of the queue that is ahead of an agent. A call that completes no turn leaves of
it those who survive, in their order; a call that completes the turn of another takes away its first as
well (`ahead_after`). Whoever joins, and whoever has had its turn, comes behind the agent. So along a
run those who have completed a turn and those who are still ahead make up, in this order, a part of
those who were ahead at first (`ahead_afterAll`): this bounds how often others act between two turns of
an agent (`turns_between`). And as each turn leaves fewer ahead, it bounds how long an agent waits
(`actor_within`).
-/

namespace Skirmish.Game

variable {g : Game} {agent other : EntityId}

/-- Whether a call ends the turn of the one whose turn it is, when it answers. -/
def Call.isTurn : Call → Bool
  | .takeTurn .. | .passTurn => true
  | .spawn .. | .cast .. => false

/-- Who completes a turn with a call. -/
def completes (g : Game) (call : Call) : Option EntityId :=
  match g.answer call with
  | .ok _ => if call.isTurn then g.actor else none
  | .error _ => none

/-- Those who complete a turn in a run, in order. -/
def completers (g : Game) : List Call → List EntityId
  | [] => []
  | call :: calls => (g.completes call).toList ++ (g.after call).completers calls

/-! ## One call -/

/-- How a game came from another in whose queue somebody has completed a turn. -/
def Rotates (g : Game) (actor : EntityId) (g' : Game) : Prop :=
  ∃ rest, g.turns.queue = actor :: rest ∧ g'.turns.queue =
    g'.world.survivors rest ++ g.world.newAgents g'.world ++ g'.world.survivors [actor]

theorem Rotates.actor {actor : EntityId} {g' : Game} (rotates : g.Rotates actor g') :
    g.actor = some actor := by
  obtain ⟨rest, waiting, -⟩ := rotates
  rw [Game.actor, Turns.current, waiting]
  rfl

theorem ask_queue (h : g.arena.Coherent) (call : Call) : Ensures (ask call g)
    (fun _ g' => if call.isTurn then ∃ actor, g.Rotates actor g' else g.Continues g')
    (fun _ g' => g.Continues g') := by
  cases call with
  | spawn kind spot => exact ensures_map.mpr (spawn_continues h kind spot)
  | cast ability caster target => exact ensures_map.mpr (cast_continues h ability caster target)
  | takeTurn ability target => exact ensures_map.mpr (takeTurn_order h ability target)
  | passTurn =>
    apply ensures_map.mpr
    apply (passTurn_ends g).mono
    · intro _ g' passed
      obtain ⟨actor, front, ended⟩ := passed
      exact ⟨actor, queue_endTurn h front .nil ended⟩
    · intro _ g' failed
      obtain ⟨rfl, -⟩ := failed
      exact continues_of_trace h .nil

/-- **The queue after a call** is told by who completes a turn with it. -/
theorem queue_after (h : g.arena.Coherent) (call : Call) :
    match g.completes call with
    | none => g.Continues (g.after call)
    | some actor => g.Rotates actor (g.after call) := by
  have ends := ensures_ask.mp (ask_queue h call)
  unfold completes
  revert ends
  cases g.answer call with
  | error e => exact id
  | ok answer =>
    cases call.isTurn with
    | false => exact id
    | true =>
      intro ends
      obtain ⟨actor, rotates⟩ := ends
      dsimp only
      rw [if_pos rfl, rotates.actor]
      exact rotates

/-- **Those ahead of an agent after a call**: whoever completes a turn with it was the first of them,
and the others are still ahead, if they are still there. -/
theorem ahead_after (h : g.arena.Coherent) (call : Call) {ahead behind : List EntityId}
    (waiting : g.turns.queue = ahead ++ agent :: behind)
    (alive : ((g.after call).world.entity? agent).isSome) (idle : g.completes call ≠ some agent) :
    ∃ rest behind', ahead = (g.completes call).toList ++ rest ∧
      (g.after call).turns.queue = (g.after call).world.survivors rest ++ agent :: behind' := by
  have after := queue_after h call
  cases who : g.completes call with
  | none =>
    have queue : (g.after call).turns.queue = _ := who ▸ after
    rw [waiting, World.survivors_append, World.survivors_cons_of_alive alive, List.append_assoc,
      List.cons_append] at queue
    exact ⟨ahead, _, rfl, queue⟩
  | some actor =>
    rw [who] at after idle
    obtain ⟨others, front, queue⟩ := after
    rw [waiting] at front
    cases ahead with
    | nil =>
      cases front
      exact absurd rfl idle
    | cons first rest =>
      rw [List.cons_append] at front
      obtain ⟨rfl, rfl⟩ := List.cons.inj front
      rw [World.survivors_append, World.survivors_cons_of_alive alive, List.append_assoc,
        List.append_assoc, List.cons_append] at queue
      exact ⟨rest, _, rfl, queue⟩

/-! ## Runs -/

theorem Reachable.old_of_waits (reached : Reachable g) (waits : agent ∈ g.turns.queue) :
    agent.val < g.world.nextId := (reached.coherent.waiting waits).1

theorem Reachable.alive_of_waits (reached : Reachable g) (waits : agent ∈ g.turns.queue) :
    (g.world.entity? agent).isSome :=
  World.isSome_entity?.mpr (reached.coherent.waiting waits).2

/-- Whoever is registered at the end of a run, under a number given out before it, is registered all
along. -/
theorem alive_midway (reached : Reachable g) (calls later : List Call) (old : agent.val < g.world.nextId)
    (alive : (((g.afterAll calls).afterAll later).world.entity? agent).isSome) :
    ((g.afterAll calls).world.entity? agent).isSome := by
  induction calls generalizing g with
  | nil => exact alive_before reached later old alive
  | cons call calls ih =>
    obtain ⟨entries, makes⟩ := (advances_after reached.coherent call).makes
    exact ih (reached.after call) (Nat.lt_of_lt_of_le old makes.nextId_le) alive

/-- **The law of the queue.** Of those ahead of an agent that is still there after a run and has
completed no turn in it, some have completed a turn, and then some are still ahead: together, and in
this order, they are a part of those who were ahead at first. Only who is gone is missing. -/
theorem ahead_afterAll (reached : Reachable g) (calls : List Call) {ahead behind : List EntityId}
    (waiting : g.turns.queue = ahead ++ agent :: behind)
    (alive : ((g.afterAll calls).world.entity? agent).isSome) (idle : agent ∉ g.completers calls) :
    ∃ ahead' behind', (g.afterAll calls).turns.queue = ahead' ++ agent :: behind' ∧
      (g.completers calls ++ ahead').Sublist ahead ∧
      ∀ other ∈ ahead, ((g.afterAll calls).world.entity? other).isSome →
        other ∈ g.completers calls ++ ahead' := by
  induction calls generalizing g ahead behind with
  | nil => exact ⟨ahead, behind, waiting, .refl _, fun _ there _ => there⟩
  | cons call calls ih =>
    have still : ∀ other ∈ ahead ++ agent :: behind,
        ((g.afterAll (call :: calls)).world.entity? other).isSome →
        ((g.after call).world.entity? other).isSome := by
      intro other waits
      rw [← waiting] at waits
      exact alive_midway reached [call] calls (reached.old_of_waits waits)
    have alive' := still agent (List.mem_append_right _ (List.mem_cons_self ..)) alive
    obtain ⟨idleNow, idleLater⟩ := not_or.mp (mt List.mem_append.mpr idle)
    obtain ⟨rest, behind', rfl, queue⟩ := ahead_after reached.coherent call waiting alive'
      (fun now => idleNow (Option.mem_toList.mpr now))
    obtain ⟨ahead', behind'', queue', part, kept⟩ := ih (reached.after call) queue alive idleLater
    refine ⟨ahead', behind'', queue', ?_, ?_⟩
    · rw [completers, List.append_assoc]
      exact (part.trans List.filter_sublist).append_left _
    · intro other there alive
      rw [completers, List.append_assoc]
      rcases List.mem_append.mp there with now | later
      · exact List.mem_append_left _ now
      · apply List.mem_append_right
        apply kept other _ alive
        exact List.mem_filter.mpr ⟨later, still other (List.mem_append_left _ there) alive⟩

/-- **Between two turns of an agent** each other agent acts at most once, and it does act when it waited
after the first turn and is registered when the second begins. -/
theorem turns_between (reached : Reachable g) {first last : Call} {between : List Call}
    (starts : g.completes first = some agent)
    (idle : agent ∉ (g.after first).completers between)
    (ends : ((g.after first).afterAll between).completes last = some agent) :
    ((g.after first).completers between).Nodup ∧ ∀ other ∈ (g.after first).turns.queue, other ≠ agent →
      (((g.after first).afterAll between).world.entity? other).isSome →
      other ∈ (g.after first).completers between := by
  have reached' := reached.after first
  have reached'' := reached'.afterAll between
  have rotates := queue_after reached.coherent first
  have acts := queue_after reached''.coherent last
  rw [starts] at rotates
  rw [ends] at acts
  obtain ⟨rest, begins, queue⟩ := rotates
  obtain ⟨others, front, -⟩ := acts
  have alive : (((g.after first).afterAll between).world.entity? agent).isSome :=
    reached''.alive_of_waits (front ▸ List.mem_cons_self ..)
  have alive' : ((g.after first).world.entity? agent).isSome :=
    alive_midway reached [first] between (reached.old_of_waits (begins ▸ List.mem_cons_self ..)) alive
  rw [World.survivors_cons_of_alive alive'] at queue
  obtain ⟨ahead, behind, queue', part, kept⟩ := ahead_afterAll reached' between queue alive idle
  -- Nobody waits twice, and so nobody is ahead of an agent whose turn it is.
  have arrived : ahead = [] := by
    cases ahead with
    | nil => rfl
    | cons actor ahead =>
      have distinct : (actor :: ahead ++ agent :: behind).Nodup := queue' ▸ reached''.coherent.distinct
      rw [front] at queue'
      obtain ⟨rfl, -⟩ := List.cons.inj queue'
      exact absurd (List.mem_append_right ahead (List.mem_cons_self ..)) (List.nodup_cons.mp distinct).1
  rw [arrived, List.append_nil] at part kept
  have distinct := reached'.coherent.distinct
  rw [show (g.after first).arena.turns.queue = _ from queue] at distinct
  refine ⟨part.nodup (List.nodup_append.mp distinct).1, ?_⟩
  intro other waits apart there
  rw [queue] at waits
  apply kept other _ there
  rcases List.mem_append.mp waits with waits | same
  · exact waits
  · exact absurd (List.mem_singleton.mp same) apart

/-- **How long an agent waits**: whoever has so many ahead of it acts after at most so many turns. -/
theorem actor_within (reached : Reachable g) (calls : List Call) {ahead behind : List EntityId}
    (waiting : g.turns.queue = ahead ++ agent :: behind)
    (alive : ((g.afterAll calls).world.entity? agent).isSome)
    (turns : ahead.length ≤ (g.completers calls).length) :
    ∃ before, before <+: calls ∧ (g.completers before).length ≤ ahead.length ∧
      (g.afterAll before).actor = some agent := by
  induction calls generalizing g ahead behind with
  | nil =>
    cases List.eq_nil_of_length_eq_zero (Nat.le_zero.mp turns)
    refine ⟨[], List.nil_prefix, Nat.zero_le _, ?_⟩
    rw [afterAll, List.foldl_nil, Game.actor, Turns.current, waiting]
    rfl
  | cons call calls ih =>
    by_cases now : g.actor = some agent
    · exact ⟨[], List.nil_prefix, Nat.zero_le _, now⟩
    have waits : agent ∈ g.turns.queue := by
      rw [waiting]
      exact List.mem_append_right _ (List.mem_cons_self ..)
    have alive' := alive_midway reached [call] calls (reached.old_of_waits waits) alive
    have idle : g.completes call ≠ some agent := by
      intro acts
      have rotates := queue_after reached.coherent call
      rw [acts] at rotates
      exact now rotates.actor
    obtain ⟨rest, behind', rfl, queue⟩ := ahead_after reached.coherent call waiting alive' idle
    have fewer : ((g.after call).world.survivors rest).length ≤ rest.length := List.length_filter_le ..
    rw [completers, List.length_append, List.length_append] at turns
    obtain ⟨before, start, few, acts⟩ := ih (reached.after call) queue alive (by omega)
    refine ⟨call :: before, List.cons_prefix_cons.mpr ⟨rfl, start⟩, ?_, acts⟩
    rw [completers, List.length_append, List.length_append]
    omega

/-- **Round robin.** Between two consecutive turns of an agent each other agent completes at most one,
and exactly one if it waited when the first was over and is registered when the next is. Whoever stands
at some place of the queue has its turn after at most so many others, as long as it is registered. -/
theorem round_robin (reached : Reachable g) :
    (∀ agent first between last, g.completes first = some agent →
      agent ∉ (g.after first).completers between →
      ((g.after first).afterAll between).completes last = some agent →
      ∀ other, other ≠ agent → ((g.after first).completers between).count other ≤ 1 ∧
        (other ∈ (g.after first).turns.queue →
          (((g.after first).afterAll (between ++ [last])).world.entity? other).isSome →
          ((g.after first).completers between).count other = 1)) ∧
    ∀ agent place calls, g.turns.queue[place]? = some agent →
      ((g.afterAll calls).world.entity? agent).isSome → place ≤ (g.completers calls).length →
      ∃ before, before <+: calls ∧ (g.completers before).length ≤ place ∧
        (g.afterAll before).actor = some agent := by
  constructor
  · intro agent first between last starts idle ends other apart
    obtain ⟨once, acts⟩ := turns_between reached starts idle ends
    refine ⟨List.nodup_iff_count_le_one.mp once other, ?_⟩
    intro waits alive
    rw [afterAll, List.foldl_append] at alive
    have old := (reached.after first).old_of_waits waits
    have alive' := alive_midway (reached.after first) between [last] old alive
    exact List.count_eq_one_of_mem once (acts other waits apart alive')
  · intro agent place calls stands alive turns
    obtain ⟨inside, rfl⟩ := List.getElem?_eq_some_iff.mp stands
    have waiting : g.turns.queue = g.turns.queue.take place ++
        g.turns.queue[place] :: g.turns.queue.drop (place + 1) := by
      rw [← List.drop_eq_getElem_cons inside, List.take_append_drop]
    have length : (g.turns.queue.take place).length = place :=
      List.length_take_of_le (Nat.le_of_lt inside)
    have within := actor_within reached calls waiting alive
    rw [length] at within
    exact within turns

/-- While the knight waits, another wolf is called and the first passes its turn: it has had one when
the knight acts again. It comes to its turn after one of the knight's. -/
theorem round_robin_camp :
    let g := Sample.camp .usual
    let between := [.spawn "wolf" ⟨2, 2⟩, .passTurn]
    ((g.after .passTurn).completers between).count ⟨1⟩ = 1 ∧
      ∃ before, before <+: [.cast "howl" ⟨1⟩ none, .passTurn] ∧ (g.completers before).length ≤ 1 ∧
        (g.afterAll before).actor = some ⟨1⟩ := by
  intro g between
  obtain ⟨fair, soon⟩ := round_robin (Sample.camp_reachable .usual)
  constructor
  · have counts := fair ⟨0⟩ .passTurn between .passTurn (by decide +kernel) (by decide +kernel)
      (by decide +kernel) ⟨1⟩ (by decide +kernel)
    exact counts.2 (by decide +kernel) (by decide +kernel)
  · exact soon ⟨1⟩ 1 _ (by decide +kernel) (by decide +kernel) (by decide +kernel)

end Skirmish.Game
