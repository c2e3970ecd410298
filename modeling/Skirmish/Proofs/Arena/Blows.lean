import Mathlib.Data.List.Forall2
import Skirmish.Proofs.Arena.Members

/-!
# The same blow for several entities

Let each of several entities take the same damage, one after the other, and let nobody be named twice.
**The law** (`Strikes.mapM`) is that each of them is struck once and as if it were the only one: the log of
its blow is told from how it stood before all blows, and so is what is left of it. Whoever has no health
left is gone from the registry, the board and the queue before the next is struck, and this changes
nothing for the others (`Struck`).

A step strikes one entity (`strikes_resolved`); the run is by induction on those who are named, and it is
because nobody is named twice that an earlier blow does not show in a later one (`Struck.cons`).
-/

namespace Skirmish

/-- What a damage leaves of an entity: nobody, when no health is left. -/
def Entity.left (n : Nat) (e : Entity) : Option Entity :=
  if (e.hurt n).health = 0 then none else some (e.hurt n)

/-- What is told of a damage to an entity: the damage, and its destruction when no health is left. -/
def Entity.toldOfBlow (attacker : Option EntityId) (n : Nat) (e : Entity) (spot : Coords) : List Entry :=
  .damage attacker e.id n (e.absorbed n) ::
    if (e.hurt n).health = 0 then [.destruction (e.hurt n) spot] else []

namespace Arena

/-- **What blows leave**, when each of some entities takes the same damage: the others keep their records,
those who are still registered keep their places, and those who are not are nowhere. -/
structure Struck (n : Nat) (ids : List EntityId) (a b : Arena) : Prop where
  entity? : ∀ id, b.world.entity? id =
    if id ∈ ids then (a.world.entity? id).bind (Entity.left n) else a.world.entity? id
  coords? : ∀ id, b.world.coords? id =
    if (b.world.entity? id).isSome then a.world.coords? id else none
  queue : b.turns.queue = a.turns.queue.filter fun id => (b.world.entity? id).isSome

variable {a b c : Arena} {n : Nat} {id : EntityId} {ids : List EntityId} {e : Entity} {spot : Coords}

/-! ## A blow -/

/-- Who waits is registered. -/
theorem Coherent.isSome_of_waiting (h : a.Coherent) (waits : id ∈ a.turns.queue) :
    (a.world.entity? id).isSome = true := by
  obtain ⟨kind, known, -⟩ := h.waiting_iff.mp waits
  obtain ⟨e, alive, -⟩ := World.kind?_eq_some.mp known
  rw [alive, Option.isSome_some]

/-- Who stands on the board is registered. -/
theorem Coherent.coords?_eq (h : a.Coherent) (id : EntityId) :
    a.world.coords? id = if (a.world.entity? id).isSome then a.world.coords? id else none := by
  cases placed : a.world.coords? id with
  | none => rw [ite_self]
  | some spot =>
    obtain ⟨e, alive⟩ := h.world.registered placed
    rw [alive, Option.isSome_some, if_pos rfl]

theorem struck_nil (h : a.Coherent) : a.Struck n [] a where
  entity? _ := (if_neg List.not_mem_nil).symm
  coords? := h.coords?_eq
  queue := (List.filter_eq_self.mpr fun _ waits => h.isSome_of_waiting waits).symm

/-- Who has health left keeps everything else. -/
theorem struck_calm (h : a.Coherent) (alive : a.world.entity? id = some e) (stands : (e.hurt n).health ≠ 0) :
    a.Struck n [id] { a with world := a.world.update (e.hurt n) } := by
  have named : (e.hurt n).id = id := (World.id_of_entity? alive : e.id = id)
  have entities : ∀ other, (a.world.update (e.hurt n)).entity? other =
      if other ∈ [id] then (a.world.entity? other).bind (Entity.left n) else a.world.entity? other := by
    intro other
    rw [World.entity?_update, named]
    by_cases same : id = other
    · subst same
      rw [if_pos rfl, if_pos (List.mem_singleton_self id), alive, Option.bind_some, Entity.left,
        if_neg stands]
    · rw [if_neg same, if_neg (mt List.mem_singleton.mp (Ne.symm same))]
  have registered : ∀ other, ((a.world.update (e.hurt n)).entity? other).isSome =
      (a.world.entity? other).isSome := by
    intro other
    rw [World.entity?_update, named]
    split
    · next same => rw [← same, alive, Option.isSome_some, Option.isSome_some]
    · rfl
  refine ⟨entities, fun other => ?_, ?_⟩
  · rw [registered]
    exact h.coords?_eq other
  · simp only [registered]
    exact (List.filter_eq_self.mpr fun _ waits => h.isSome_of_waiting waits).symm

/-- Who has no health left is gone from everywhere. -/
theorem struck_felling (h : a.Coherent) (alive : a.world.entity? id = some e)
    (fallen : (e.hurt n).health = 0) :
    a.Struck n [id] ⟨(a.world.update (e.hurt n)).without id spot, a.turns.leave id⟩ := by
  have named : (e.hurt n).id = id := (World.id_of_entity? alive : e.id = id)
  have entities : ∀ other, ((a.world.update (e.hurt n)).without id spot).entity? other =
      if other = id then none else a.world.entity? other := by
    intro other
    rw [World.entity?_without]
    split
    · rfl
    · next apart => rw [World.entity?_update, named, if_neg (Ne.symm apart)]
  refine ⟨fun other => ?_, fun other => ?_, ?_⟩
  · rw [entities]
    by_cases same : other = id
    · subst same
      rw [if_pos rfl, if_pos (List.mem_singleton_self other), alive, Option.bind_some, Entity.left,
        if_pos fallen]
    · rw [if_neg same, if_neg (mt List.mem_singleton.mp same)]
  · rw [entities, World.coords?_without]
    by_cases same : other = id
    · rw [if_pos same, if_pos same]
      rfl
    · rw [if_neg same, if_neg same]
      exact h.coords?_eq other
  · show (a.turns.leave id).queue = _
    rw [Turns.leave_queue, h.distinct.erase_eq_filter]
    refine List.filter_congr fun other waits => ?_
    rw [entities]
    by_cases same : other = id
    · simp [same]
    · rw [if_neg same, h.isSome_of_waiting waits, bne_iff_ne.mpr same]

/-! ## Blows in a row -/

/-- Who is registered after blows was registered before. -/
theorem Struck.isSome (struck : a.Struck n ids b) (still : (b.world.entity? id).isSome = true) :
    (a.world.entity? id).isSome = true := by
  rw [struck.entity?] at still
  split at still
  · cases was : a.world.entity? id with
    | none =>
      rw [was] at still
      cases still
    | some e => rfl
  · exact still

/-- A blow does not show in the blows of others that come after it. -/
theorem Struck.cons (first : a.Struck n [id] b) (rest : b.Struck n ids c) (new : id ∉ ids) :
    a.Struck n (id :: ids) c where
  entity? other := by
    rw [rest.entity?, first.entity?]
    by_cases same : other = id
    · subst same
      rw [if_neg new, if_pos (List.mem_singleton_self other), if_pos List.mem_cons_self]
    · simp only [List.mem_cons, List.not_mem_nil, same, false_or, if_false]
  coords? other := by
    rw [rest.coords?, first.coords?]
    cases still : (c.world.entity? other).isSome with
    | false => rfl
    | true => rw [rest.isSome still, if_pos rfl]
  queue := by
    rw [rest.queue, first.queue, List.filter_filter]
    refine List.filter_congr fun other _ => ?_
    cases still : (c.world.entity? other).isSome with
    | false => rfl
    | true => rw [rest.isSome still, Bool.and_self]

/-- **A computation that strikes an entity**: from every coherent arena in which the entity stands, it
tells of the blow and leaves the entity struck. -/
def Strikes (n : Nat) (attacker : Option EntityId) (id : EntityId) (m : StateM Arena Log) : Prop :=
  ∀ {a : Arena} {e : Entity} {spot : Coords}, a.Coherent → a.world.entity? id = some e →
    a.world.coords? id = some spot →
      (m a).1.leaves = e.toldOfBlow attacker n spot ∧ a.Struck n [id] (m a).2 ∧ (m a).2.Coherent

/-- **Each is struck once.** What is told of each blow is told from the arena before all blows. -/
theorem Strikes.mapM {each : EntityId → StateM Arena Log} {attacker : EntityId → Option EntityId}
    (h : a.Coherent) (strikes : ∀ id ∈ ids, Strikes n (attacker id) id (each id)) (once : ids.Nodup)
    (stand : ∀ id ∈ ids, ∃ spot, a.world.coords? id = some spot) :
    a.Struck n ids (ids.mapM each a).2 ∧
      List.Forall₂ (fun id log => ∃ e spot, a.world.entity? id = some e ∧ a.world.coords? id = some spot ∧
        log.leaves = e.toldOfBlow (attacker id) n spot) ids (ids.mapM each a).1 := by
  induction ids generalizing a with
  | nil => exact ⟨struck_nil h, .nil⟩
  | cons id ids ih =>
    rw [List.forall_mem_cons] at strikes stand
    obtain ⟨new, once⟩ := List.nodup_cons.mp once
    obtain ⟨spot, placed⟩ := stand.1
    obtain ⟨e, alive⟩ := h.world.registered placed
    obtain ⟨told, struck, coherent⟩ := strikes.1 h alive placed
    -- Those who come later stand where they stood, with their records.
    have entities : ∀ other ∈ ids, (each id a).2.world.entity? other = a.world.entity? other := by
      intro other later
      have apart : other ≠ id := fun same => new (same ▸ later)
      exact (struck.entity? other).trans (if_neg (mt List.mem_singleton.mp apart))
    have places : ∀ other ∈ ids, (each id a).2.world.coords? other = a.world.coords? other := by
      intro other later
      rw [struck.coords?, entities other later]
      exact (h.coords?_eq other).symm
    obtain ⟨others, logs⟩ := ih coherent strikes.2 once fun other later =>
      (stand.2 other later).imp fun _ there => (places other later).trans there
    rw [Apart.mapM_cons_apply]
    refine ⟨struck.cons others new, .cons ⟨e, spot, alive, placed, told⟩ ?_⟩
    refine ((List.forall₂_and_left _ _).mpr ⟨fun other later => later, logs⟩).imp ?_
    rintro other log ⟨later, e, spot, alive, placed, told⟩
    exact ⟨e, spot, (entities other later).symm.trans alive, (places other later).symm.trans placed, told⟩

/-! ## Damage is a blow -/

/-- A damage with its reaction, where its target stands. -/
theorem resolved_damage (h : a.Coherent) (alive : a.world.entity? id = some e)
    (placed : a.world.coords? id = some spot) (amount : Amount) (attacker : Option EntityId) :
    ∃ log, ((Event.damage id amount attacker).resolved a).1 = some log ∧
      log.leaves = e.toldOfBlow attacker amount.resolve spot ∧
      a.Struck amount.resolve [id] ((Event.damage id amount attacker).resolved a).2 := by
  have about : (Event.damage id amount attacker).about? = some id := rfl
  have resolves := Context.process_about about (Nat.le_refl 1) a
  have named : e.id = id := World.id_of_entity? alive
  by_cases fallen : (e.hurt amount.resolve).health = 0
  · rw [Context.process_felling alive fallen placed attacker (Nat.le_refl 1)] at resolves
    obtain ⟨told, left⟩ := EStateM.Result.ok.inj resolves
    refine ⟨_, told.symm, ?_, ?_⟩
    · rw [Entity.toldOfBlow, if_pos fallen, named]
      rfl
    · have arena : _ = ((Event.damage id amount attacker).resolved a).2 := congrArg Context.arena left
      rw [← arena]
      exact struck_felling h alive fallen
  · have done := Event.perform_damage alive amount attacker
    rw [if_neg fallen] at done
    rw [Context.process_silent (congrArg Outcome.reactions done), done] at resolves
    obtain ⟨told, left⟩ := EStateM.Result.ok.inj resolves
    refine ⟨_, told.symm, ?_, ?_⟩
    · rw [Entity.toldOfBlow, if_neg fallen, named]
      rfl
    · have arena : _ = ((Event.damage id amount attacker).resolved a).2 := congrArg Context.arena left
      rw [← arena]
      exact struck_calm h alive fallen

/-- A cascade about one entity keeps coherence. -/
theorem coherent_resolved {event : Event} (about : event.about? = some id) (h : a.Coherent) :
    (event.resolved a).2.Coherent := by
  have traced := Context.process_trace event (.idle a 1) h
  rw [Context.process_about about (Nat.le_refl 1)] at traced
  exact h.trace traced

end Arena

end Skirmish
