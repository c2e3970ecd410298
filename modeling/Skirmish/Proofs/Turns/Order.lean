import Skirmish.Proofs.Game.Runs

/-!
# The turn order across a call

A call may spawn and destroy any number of agents, the actor and its neighbours among them, and in
any order. What it does to the queue is said by two lists: the **survivors** of the old queue, in
their order, and the **new agents**, those who are registered after the call and were not before it,
in the order of their numbers. `turn_order` says for each call how the new queue is made of them.

The run lemma is `Trace.queued`, an induction on the trace. It keeps the newcomers of a trace as some
list of fresh numbers in increasing order; which list this is follows only at the end, from coherence,
because a queue without its survivors holds the agents that are new and nobody else
(`Trace.queue_eq`).
-/

namespace Skirmish

namespace World

variable {w w' : World} {id : EntityId} {ids : List EntityId}

/-- Those of a list who are registered, in the order of the list. -/
def survivors (w : World) (ids : List EntityId) : List EntityId :=
  ids.filter (fun id => (w.entity? id).isSome)

/-- The agents of a later world that are not registered in this one, in the order of their numbers. -/
def newAgents (w w' : World) : List EntityId :=
  (w'.entities.toList.filter (fun e => e.kind.isAgent && (w.entity? e.id).isNone)).map Entity.id

theorem isSome_entity? : (w.entity? id).isSome = true ↔ ∃ kind, w.kind? id = some kind := by
  rw [← Option.isSome_iff_exists, kind?, Option.isSome_map]

theorem mem_survivors : id ∈ w.survivors ids ↔ id ∈ ids ∧ ∃ kind, w.kind? id = some kind := by
  rw [survivors, List.mem_filter, isSome_entity?]

theorem survivors_append (ids ids' : List EntityId) :
    w.survivors (ids ++ ids') = w.survivors ids ++ w.survivors ids' :=
  List.filter_append ids ids'

theorem survivors_cons_of_alive (alive : (w.entity? id).isSome = true) :
    w.survivors (id :: ids) = id :: w.survivors ids :=
  List.filter_cons_of_pos alive

theorem survivors_cons_of_gone (gone : ¬ (w.entity? id).isSome = true) :
    w.survivors (id :: ids) = w.survivors ids :=
  List.filter_cons_of_neg gone

/-- Whoever survives to a later world of those who survive to an earlier one, when nobody returns. -/
theorem survivors_survivors (still : ∀ id ∈ ids, ∀ kind, w'.kind? id = some kind →
    ∃ kind, w.kind? id = some kind) : w'.survivors (w.survivors ids) = w'.survivors ids := by
  unfold survivors
  rw [List.filter_filter]
  refine List.filter_congr fun id waits => ?_
  cases later : (w'.entity? id).isSome with
  | false => exact Bool.false_and _
  | true =>
    obtain ⟨kind, known⟩ := isSome_entity?.mp later
    exact isSome_entity?.mpr (still id waits kind known)

theorem mem_newAgents : id ∈ w.newAgents w' ↔
    w.kind? id = none ∧ ∃ kind, w'.kind? id = some kind ∧ kind.isAgent = true := by
  simp only [newAgents, List.mem_map, List.mem_filter, Bool.and_eq_true, Option.isNone_iff_eq_none]
  constructor
  · rintro ⟨e, ⟨listed, agent, absent⟩, rfl⟩
    have alive : w'.entity? e.id = some e := Registry.mem_entries_iff.mp listed
    exact ⟨Option.map_eq_none_iff.mpr absent, e.kind, kind?_eq_some.mpr ⟨e, alive, rfl⟩, agent⟩
  · rintro ⟨absent, kind, known, agent⟩
    obtain ⟨e, alive, rfl⟩ := kind?_eq_some.mp known
    have named := id_of_entity? alive
    subst named
    exact ⟨e, ⟨Registry.mem_entries_iff.mpr alive, agent, Option.map_eq_none_iff.mp absent⟩, rfl⟩

/-- New agents are listed in increasing order. -/
theorem sorted_newAgents (w w' : World) : (w.newAgents w').Pairwise (· < ·) :=
  List.pairwise_map.mpr (w'.entities.sorted.sublist List.filter_sublist)

end World

namespace Arena

variable {a b c : Arena} {entry : Entry} {entries entries' : List Entry} {news news' : List EntityId}

/-- How the queue of an arena came from that of an earlier one, with some list of newcomers. -/
structure Queued (a b : Arena) (news : List EntityId) : Prop where
  split : b.turns.queue = b.world.survivors a.turns.queue ++ news
  sorted : news.Pairwise (· < ·)
  /-- Newcomers have numbers that were still to be given out. -/
  fresh : ∀ id ∈ news, a.world.nextId ≤ id.val

namespace Coherent

/-- Whoever waits is registered, under a number that was given out. -/
theorem waiting (h : a.Coherent) {id : EntityId} (waits : id ∈ a.turns.queue) :
    id.val < a.world.nextId ∧ ∃ kind, a.world.kind? id = some kind := by
  obtain ⟨kind, known, -⟩ := h.waiting_iff.mp waits
  obtain ⟨e, alive, -⟩ := World.kind?_eq_some.mp known
  exact ⟨h.world.lt_nextId alive, kind, known⟩

/-- Nobody leaves the queue when all types stay registered. -/
theorem survivors_eq (h : a.Coherent) (still : ∀ id ∈ a.turns.queue, ∀ kind,
    a.world.kind? id = some kind → ∃ kind, b.world.kind? id = some kind) :
    b.world.survivors a.turns.queue = a.turns.queue := by
  refine List.filter_eq_self.mpr fun id waits => ?_
  obtain ⟨-, kind, known⟩ := h.waiting waits
  exact World.isSome_entity?.mpr (still id waits kind known)

end Coherent

/-! ## One step -/

/-- **What a step does to the queue**: it adds the next number at the back, or takes somebody out, or
leaves the queue alone. -/
theorem Step.queued (h : a.Coherent) (s : a.Step entry b) : ∃ news, Queued a b news := by
  obtain ⟨world, turns⟩ := b
  obtain ⟨s, rfl : turns = _⟩ := s
  have known := s.kind?
  cases s with
  | @spawn kind spot _ _ _ _ _ =>
    refine ⟨if kind.isAgent then [a.world.next] else [], ?_, ?_, ?_⟩
    · rw [h.survivors_eq ?_]
      · exact h.follow_spawn kind spot
      · intro id waits k was
        have apart : a.world.next ≠ id := fun same => h.next_not_mem (same ▸ waits)
        exact ⟨k, by rw [known id, World.kindAfter, if_neg apart, was]⟩
    · cases kind.isAgent <;> simp
    · intro id new
      cases agent : kind.isAgent <;> simp only [agent] at new
      · cases new
      · cases List.mem_singleton.mp new
        exact Nat.le_refl _
  | @destruction gone e spot alive _ =>
    refine ⟨[], ?_, .nil, List.forall_mem_nil _⟩
    rw [List.append_nil]
    refine (h.follow_destruction e spot).trans (List.filter_congr fun id waits => ?_)
    obtain ⟨-, k, was⟩ := h.waiting waits
    rw [Bool.eq_iff_iff, World.isSome_entity?, known id, World.kindAfter, was]
    by_cases here : id = e.id <;> simp [here]
  | _ =>
    refine ⟨[], ?_, .nil, List.forall_mem_nil _⟩
    rw [List.append_nil, h.survivors_eq]
    · rfl
    · intro id _ k was
      exact ⟨k, by rw [known id]; exact was⟩

/-! ## A trace -/

/-- Whoever joined on the first of two traces may have left on the second. -/
theorem Queued.trans (h : a.Coherent) (t : Trace a entries b) (u : Trace b entries' c)
    (first : Queued a b news) (second : Queued b c news') :
    Queued a c (c.world.survivors news ++ news') := by
  have later := t.nextId_le
  refine ⟨?_, ?_, ?_⟩
  · rw [second.split, first.split, World.survivors_append, World.survivors_survivors,
      List.append_assoc]
    intro id waits kind known
    exact ⟨kind, u.kind?_of_lt (Nat.lt_of_lt_of_le (h.waiting waits).1 later) known⟩
  · refine List.pairwise_append.mpr ⟨first.sorted.sublist List.filter_sublist, second.sorted, ?_⟩
    intro x hx y hy
    have waits : x ∈ b.turns.queue := by
      rw [first.split]
      exact List.mem_append_right _ (World.mem_survivors.mp hx).1
    exact Nat.lt_of_lt_of_le ((h.trace t).waiting waits).1 (second.fresh y hy)
  · intro id new
    rcases List.mem_append.mp new with new | new
    · exact first.fresh id (World.mem_survivors.mp new).1
    · exact Nat.le_trans later (second.fresh id new)

/-- **What a trace does to the queue.** -/
theorem Trace.queued (h : a.Coherent) (t : Trace a entries b) : ∃ news, Queued a b news := by
  induction t with
  | @nil a =>
    refine ⟨[], ?_, .nil, List.forall_mem_nil _⟩
    rw [List.append_nil, h.survivors_eq fun _ _ kind known => ⟨kind, known⟩]
  | cons first rest ih =>
    obtain ⟨news, one⟩ := first.queued h
    obtain ⟨news', others⟩ := ih (h.step first)
    exact ⟨_, one.trans h first.trace rest others⟩

/-- **The queue after a trace**: the survivors of the queue before it, and then the new agents. -/
theorem Trace.queue_eq (h : a.Coherent) (t : Trace a entries b) :
    b.turns.queue = b.world.survivors a.turns.queue ++ a.world.newAgents b.world := by
  obtain ⟨news, split, sorted, fresh⟩ := t.queued h
  have coherent := h.trace t
  -- Both lists increase, so their members decide. Coherence of the later arena says who waits there.
  rw [split]
  congr 1
  refine Registry.eq_of_sorted sorted (World.sorted_newAgents _ _) fun id => ?_
  rw [World.mem_newAgents]
  constructor
  · intro new
    refine ⟨?_, coherent.waiting_iff.mp (split ▸ List.mem_append_right _ new)⟩
    cases was : a.world.kind? id with
    | none => rfl
    | some kind =>
      obtain ⟨e, alive, -⟩ := World.kind?_eq_some.mp was
      exact absurd (h.world.lt_nextId alive) (Nat.not_lt.mpr (fresh id new))
  · rintro ⟨absent, agent⟩
    have waits := coherent.waiting_iff.mpr agent
    rw [split] at waits
    rcases List.mem_append.mp waits with survives | new
    · -- Survivors waited before, and so they are not new.
      obtain ⟨-, kind, was⟩ := h.waiting (World.mem_survivors.mp survives).1
      rw [absent] at was
      cases was
    · exact new

end Arena

namespace Game

variable {g g' : Game}

/-- The queue of a later game, when no turn has ended on the way: the survivors of the earlier queue,
and then the new agents. -/
def Continues (g g' : Game) : Prop :=
  g'.turns.queue = g'.world.survivors g.turns.queue ++ g.world.newAgents g'.world

theorem continues_of_trace (h : g.arena.Coherent) {entries : List Entry}
    (t : Arena.Trace g.arena entries g'.arena) : g.Continues g' := t.queue_eq h

/-- An actor that survives stays at the front. -/
theorem Continues.current (h : g.Continues g') {actor : EntityId} (front : g.turns.current = some actor)
    (alive : (g'.world.entity? actor).isSome) : g'.turns.current = some actor := by
  obtain ⟨rest, waiting⟩ := List.head?_eq_some_iff.mp front
  rw [Turns.current, h, waiting, World.survivors_cons_of_alive alive]
  rfl

theorem spawn_continues (h : g.arena.Coherent) (kind : String) (spot : Coords) :
    Ensures (spawn kind spot g) (fun _ g' => g.Continues g') (fun _ g' => g.Continues g') := by
  refine (spawn_trace h kind spot).mono ?_ ?_
  · rintro _ g' ⟨made, trace⟩
    exact continues_of_trace h trace
  · rintro _ g' ⟨lost, trace⟩
    exact continues_of_trace h trace

theorem cast_continues (h : g.arena.Coherent) (ability : String) (caster : EntityId)
    (target : Option Target) : Ensures (cast ability caster target g)
      (fun _ g' => g.Continues g') (fun _ g' => g.Continues g') := by
  refine (cast_trace h ability caster target).mono ?_ ?_
  · intro log g' trace
    exact continues_of_trace h trace
  · rintro _ g' ⟨lost, trace⟩
    exact continues_of_trace h trace

/-- The end of a turn sends the actor behind the new agents, if the actor is still there. -/
theorem queue_endTurn (h : g.arena.Coherent) {actor : EntityId} (front : g.turns.current = some actor)
    {mid : Arena} {entries : List Entry} (trace : Arena.Trace g.arena entries mid)
    (ended : g'.arena = { mid with turns := mid.turns.endTurn actor }) :
    ∃ rest, g.turns.queue = actor :: rest ∧ g'.turns.queue =
      g'.world.survivors rest ++ g.world.newAgents g'.world ++ g'.world.survivors [actor] := by
  obtain ⟨rest, waiting⟩ := List.head?_eq_some_iff.mp front
  refine ⟨rest, waiting, ?_⟩
  have before : mid.turns.queue =
      mid.world.survivors (actor :: rest) ++ g.world.newAgents mid.world := by
    rw [← waiting]
    exact trace.queue_eq h
  have world : g'.world = mid.world := by rw [Game.world, ended]
  have turns : g'.turns = mid.turns.endTurn actor := by rw [Game.turns, ended]
  rw [world, turns]
  by_cases alive : (mid.world.entity? actor).isSome = true
  · rw [World.survivors_cons_of_alive alive] at before ⊢
    rw [show mid.turns = ⟨actor :: _⟩ from congrArg Turns.mk before, Turns.endTurn_front]
    rfl
  · have gone : actor ∉ mid.turns.queue := by
      intro waits
      exact alive (World.isSome_entity?.mpr ((h.trace trace).waiting waits).2)
    rw [World.survivors_cons_of_gone alive] at before ⊢
    rw [Turns.endTurn_of_not_mem gone, before]
    exact (List.append_nil _).symm

theorem takeTurn_order (h : g.arena.Coherent) (ability : String) (target : Option Target) :
    Ensures (takeTurn ability target g)
      (fun _ g' => ∃ actor rest, g.turns.queue = actor :: rest ∧ g'.turns.queue =
        g'.world.survivors rest ++ g.world.newAgents g'.world ++ g'.world.survivors [actor])
      (fun _ g' => g.Continues g') := by
  refine (takeTurn_trace h ability target).mono ?_ ?_
  · rintro log g' ⟨actor, mid, front, trace, ended⟩
    exact ⟨actor, queue_endTurn h front trace ended⟩
  · rintro _ g' ⟨lost, trace⟩
    exact continues_of_trace h trace

theorem passTurn_order (g : Game) : Ensures (passTurn g)
    (fun _ g' => ∃ actor rest, g.turns.queue = actor :: rest ∧ g'.turns.queue = rest ++ [actor])
    (fun _ g' => g' = g ∧ g.turns.queue = []) := by
  refine (passTurn_ends g).mono ?_ fun _ _ nobody => nobody
  rintro _ g' ⟨actor, front, same⟩
  obtain ⟨rest, waiting⟩ := List.head?_eq_some_iff.mp front
  refine ⟨actor, rest, waiting, ?_⟩
  rw [show g'.turns = g.turns.endTurn actor from congrArg Arena.turns same,
    show g.turns = ⟨actor :: rest⟩ from congrArg Turns.mk waiting, Turns.endTurn_front]

/-- **The turn order law.** Spawns and casts, and turns that fail, leave the survivors in their order
and put the new agents behind them; an actor that survives a failed turn keeps it. A turn that is
taken sends its actor behind the new agents, unless the actor is gone. A turn that is passed sends its
actor to the back. -/
theorem turn_order (reached : Reachable g) :
    (∀ kind spot, Ensures (spawn kind spot g)
      (fun _ g' => g.Continues g') (fun _ g' => g.Continues g')) ∧
    (∀ ability caster target, Ensures (cast ability caster target g)
      (fun _ g' => g.Continues g') (fun _ g' => g.Continues g')) ∧
    (∀ ability target, Ensures (takeTurn ability target g)
      (fun _ g' => ∃ actor rest, g.turns.queue = actor :: rest ∧ g'.turns.queue =
        g'.world.survivors rest ++ g.world.newAgents g'.world ++ g'.world.survivors [actor])
      (fun _ g' => g.Continues g' ∧ ∀ actor, g.turns.current = some actor →
        (g'.world.entity? actor).isSome = true → g'.turns.current = some actor)) ∧
    Ensures (passTurn g)
      (fun _ g' => ∃ actor rest, g.turns.queue = actor :: rest ∧ g'.turns.queue = rest ++ [actor])
      (fun _ g' => g' = g ∧ g.turns.queue = []) := by
  have h := reached.coherent
  refine ⟨spawn_continues h, cast_continues h, ?_, passTurn_order g⟩
  intro ability target
  refine (takeTurn_order h ability target).mono (fun _ _ taken => taken) ?_
  intro _ g' order
  exact ⟨order, fun actor front alive => order.current front alive⟩

/-- The knight's turn costs the waiting wolf its life, and the knight comes behind the wolf that it
called. -/
theorem turn_order_uproar :
    let g := Sample.camp .usual
    let g' := g.after (.takeTurn "uproar" (some (.coords ⟨1, 1⟩)))
    g'.turns.queue = [⟨2⟩, ⟨0⟩] ∧ ∃ actor rest, g.turns.queue = actor :: rest ∧ g'.turns.queue =
      g'.world.survivors rest ++ g.world.newAgents g'.world ++ g'.world.survivors [actor] := by
  have taken : takeTurn "uproar" (some (.coords ⟨1, 1⟩)) (Sample.camp .usual) = .ok Sample.uproarLog
      ((Sample.camp .usual).after (.takeTurn "uproar" (some (.coords ⟨1, 1⟩)))) := by
    decide +kernel
  have law := (turn_order (Sample.camp_reachable .usual)).2.2.1 "uproar" (some (.coords ⟨1, 1⟩))
  rw [taken] at law
  exact ⟨by decide +kernel, law⟩

end Game

end Skirmish
