import Skirmish.Proofs.Casting.Bindings
import Skirmish.Proofs.Turns.Fairness

/-!
# What the calls of a game fail for

A call looks for what it is given before it runs the engine, and a call that finds nothing changes
nothing. So each of these errors tells of the game as it was: nobody waits for a turn, a type is not
registered, a caster is not there (`reachable_errors`). Two facts about reachable games are behind it.
The turn order holds the registered agents, so that somebody's turn it is as soon as there is an agent,
and whose turn it is can cast. And the name of the caster is bound in the outermost scope of a cast, from
which nothing is ever taken: once a cast runs, however its effects nest and hide the name, it does not
fail because the caster is missing (`Ability.cast_fails`).
-/

namespace Skirmish

/-- A cast of an ability fails for what can fail in the scope of the caster and the target. -/
theorem Ability.cast_fails (ability : Ability) (caster : EntityId) (target : Option Target) (c : Context) :
    Ensures (ability.cast caster target c) (fun _ _ => True)
      (fun e _ => (Scopes.ofCast caster target).Fails e) := by
  apply Ability.ensures_cast.mpr
  apply (Cast.binds_graded.castSequence ability.effects ⟨.ofCast caster target, c⟩).mono
  · exact fun _ _ _ => trivial
  · exact fun _ _ failed => failed.2

/-- The one who casts is bound from the start. -/
theorem Scopes.Fails.ne_missing_caster {caster : EntityId} {target : Option Target} {e : CastError}
    (fails : (Scopes.ofCast caster target).Fails e) : e ≠ .target (.missing Scopes.caster) := by
  rintro rfl
  cases fails with
  | missing unbound => cases unbound

theorem Scopes.Fails.ne_noActiveTurn {s : Scopes} {e : CastError} (fails : s.Fails e) : e ≠ .noActiveTurn := by
  rintro rfl
  cases fails

namespace Game

variable {g g' : Game} {kind ability : String} {caster : EntityId} {spot : Coords} {target : Option Target}
  {e : CastError}

/-- Whether an agent is registered. -/
def HasAgent (g : Game) : Prop := ∃ id entity, g.world.entity? id = some entity ∧ entity.kind.isAgent = true

theorem Reachable.actor_eq_none (reached : Reachable g) : g.actor = none ↔ ¬ g.HasAgent := by
  rw [actor, Turns.current, List.head?_eq_none_iff, List.eq_nil_iff_forall_not_mem]
  constructor
  · rintro idle ⟨id, entity, alive, agent⟩
    exact idle id (reached.coherent.waiting_iff.mpr
      ⟨entity.kind, World.kind?_eq_some.mpr ⟨entity, alive, rfl⟩, agent⟩)
  · intro nobody id waits
    obtain ⟨kind, known, agent⟩ := reached.coherent.waiting_iff.mp waits
    obtain ⟨entity, alive, rfl⟩ := World.kind?_eq_some.mp known
    exact nobody ⟨id, entity, alive, agent⟩

/-! ## Why each call fails -/

/-- A spawn runs the engine on an event that calls for nothing, and so it fails for its type only. -/
theorem spawn_eq_error : spawn kind spot g = .error e g' ↔
    g.content.entityType? kind = none ∧ e = .unknownEntityType kind ∧ g' = g := by
  rw [spawn_eq]
  cases g.content.entityType? kind with
  | none => simp [eq_comm]
  | some type =>
    have placed : ∃ log g'', run (Context.process (.spawn type spot)) g = .ok log g'' := by
      rw [run, Context.process_silent (Event.reactions_eq_nil id)]
      exact ⟨_, _, rfl⟩
    obtain ⟨log, g'', placed⟩ := placed
    dsimp only
    rw [map_eq_pure_bind, bind_of_ok placed]
    simp [pure, EStateM.pure]

/-- A cast fails because the ability or its caster is not registered, or else it has run. -/
theorem cast_fails (ability : String) (caster : EntityId) (target : Option Target) (g : Game) :
    Ensures (cast ability caster target g) (fun _ _ => True) (fun e g' =>
      (e = .unknownAbility ability ∧ g' = g) ∨
      (e = .target (.missing Scopes.caster) ∧ g' = g ∧ g.world.entity? caster = none) ∨
      (g.world.entity? caster).isSome ∧ (Scopes.ofCast caster target).Fails e) := by
  apply ensures_cast.mpr
  cases g.content.ability? ability with
  | none => exact .inl ⟨rfl, rfl⟩
  | some a =>
    cases g.world.entity? caster with
    | none => exact .inr (.inl ⟨rfl, rfl, rfl⟩)
    | some entity =>
      apply (run_ensures (fun _ _ => True) (fun e _ => (Scopes.ofCast caster target).Fails e)
        (a.cast_fails caster target _)).mono
      · exact fun _ _ _ => trivial
      · exact fun e g' fails => .inr (.inr ⟨rfl, fails⟩)

theorem cast_missing_caster
    (failed : cast ability caster target g = .error (.target (.missing Scopes.caster)) g') :
    g' = g ∧ g.world.entity? caster = none := by
  have fails := cast_fails ability caster target g
  rw [failed] at fails
  rcases fails with ⟨other, -⟩ | ⟨-, absent⟩ | ⟨-, fails⟩
  · cases other
  · exact absent
  · exact absurd rfl fails.ne_missing_caster

theorem cast_ne_noActiveTurn : cast ability caster target g ≠ .error .noActiveTurn g' := by
  intro failed
  have fails := cast_fails ability caster target g
  rw [failed] at fails
  rcases fails with ⟨other, -⟩ | ⟨other, -⟩ | ⟨-, fails⟩
  · cases other
  · cases other
  · exact fails.ne_noActiveTurn rfl

section Turns

variable {actor : EntityId}

theorem currentActor_of_none (idle : g.actor = none) : currentActor g = .error .noActiveTurn g := by
  rw [currentActor, idle]

theorem currentActor_of_some (front : g.actor = some actor) : currentActor g = .ok actor g := by
  rw [currentActor, front]

/-- A turn fails because nobody waits, or as the cast of the one whose turn it is. -/
theorem takeTurn_eq_error : takeTurn ability target g = .error e g' ↔
    (g.actor = none ∧ e = .noActiveTurn ∧ g' = g) ∨
      ∃ actor, g.actor = some actor ∧ cast ability actor target g = .error e g' := by
  cases front : g.actor with
  | none =>
    rw [takeTurn, bind_of_error (currentActor_of_none front)]
    simp [eq_comm]
  | some actor =>
    cases done : cast ability actor target g with
    | ok log g'' =>
      have taken : ∃ g₁, takeTurn ability target g = .ok log g₁ := by
        rw [takeTurn, bind_of_ok (currentActor_of_some front), bind_of_ok done]
        exact ⟨_, rfl⟩
      obtain ⟨g₁, taken⟩ := taken
      simp [taken, done]
    | error e' g'' =>
      rw [takeTurn, bind_of_ok (currentActor_of_some front), bind_of_error done]
      simp [done]

/-- A turn is passed unless nobody waits. -/
theorem passTurn_eq_error : passTurn g = .error e g' ↔ g.actor = none ∧ e = .noActiveTurn ∧ g' = g := by
  cases front : g.actor with
  | none =>
    rw [passTurn, bind_of_error (currentActor_of_none front)]
    simp [eq_comm]
  | some actor =>
    have passed : ∃ next g₁, passTurn g = .ok next g₁ := by
      rw [passTurn, bind_of_ok (currentActor_of_some front)]
      exact ⟨_, _, rfl⟩
    obtain ⟨next, g₁, passed⟩ := passed
    simp [passed]

end Turns

/-- **The errors of reachable games.** No turn is taken or passed exactly when no agent is registered; a
spawn fails for its type only; a registered ability misses its caster exactly when the caster is not
registered. In each case the game is what it was. The one whose turn it is never misses itself. -/
theorem reachable_errors (reached : Reachable g) :
    (∀ e g', passTurn g = .error e g' ↔ ¬ g.HasAgent ∧ e = .noActiveTurn ∧ g' = g) ∧
    (∀ ability target g', takeTurn ability target g = .error .noActiveTurn g' ↔ ¬ g.HasAgent ∧ g' = g) ∧
    (∀ kind spot e g', spawn kind spot g = .error e g' ↔
      g.content.entityType? kind = none ∧ e = .unknownEntityType kind ∧ g' = g) ∧
    (∀ ability caster target g', (g.content.ability? ability).isSome →
      (cast ability caster target g = .error (.target (.missing Scopes.caster)) g' ↔
        g.world.entity? caster = none ∧ g' = g)) ∧
    ∀ ability target g', takeTurn ability target g ≠ .error (.target (.missing Scopes.caster)) g' := by
  refine ⟨?_, ?_, ?_, ?_, ?_⟩
  · intro e g'
    rw [passTurn_eq_error, reached.actor_eq_none]
  · intro ability target g'
    rw [takeTurn_eq_error, reached.actor_eq_none]
    constructor
    · rintro (⟨nobody, -, same⟩ | ⟨actor, -, failed⟩)
      · exact ⟨nobody, same⟩
      · exact absurd failed cast_ne_noActiveTurn
    · rintro ⟨nobody, same⟩
      exact .inl ⟨nobody, rfl, same⟩
  · intro kind spot e g'
    exact spawn_eq_error
  · intro ability caster target g' known
    constructor
    · intro failed
      exact (cast_missing_caster failed).symm
    · rintro ⟨absent, rfl⟩
      obtain ⟨a, known⟩ := Option.isSome_iff_exists.mp known
      rw [cast, known]
      dsimp only
      rw [absent]
  · intro ability target g' failed
    rcases takeTurn_eq_error.mp failed with ⟨-, other, -⟩ | ⟨actor, front, failed⟩
    · cases other
    · have alive := reached.alive_of_waits (List.mem_of_mem_head? front)
      rw [(cast_missing_caster failed).2] at alive
      cases alive

/-- A stranger cannot cast and no dragon is known. The knight finds itself when it takes its turn, though
the uproar fails for want of a target. -/
theorem reachable_errors_camp :
    let g := Sample.camp .usual
    cast "uproar" ⟨9⟩ none g = .error (.target (.missing Scopes.caster)) g ∧
      spawn "dragon" ⟨2, 2⟩ g = .error (.unknownEntityType "dragon") g ∧
      g.answer (.takeTurn "uproar" none) = .error (.target (.missing Scopes.target)) ∧
      ∀ g', takeTurn "uproar" none g ≠ .error (.target (.missing Scopes.caster)) g' := by
  intro g
  obtain ⟨-, -, spawned, casts, turns⟩ := reachable_errors (Sample.camp_reachable .usual)
  exact ⟨(casts "uproar" ⟨9⟩ none g (by decide +kernel)).mpr ⟨by decide +kernel, rfl⟩,
    (spawned "dragon" ⟨2, 2⟩ _ g).mpr ⟨by decide +kernel, rfl, rfl⟩, by decide +kernel, turns "uproar" none⟩

end Game

end Skirmish
