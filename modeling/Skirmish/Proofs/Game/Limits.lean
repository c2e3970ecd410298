import Skirmish.Proofs.Arena.Cascades
import Skirmish.Proofs.Casting.Closed
import Skirmish.Proofs.Game.Answers

/-!
# The limit of a cascade

The depth of a cascade has a limit, but no cascade is ever deep: a reaction calls for nothing. So all
limits that leave room for one reaction are the same limit. A step of the engine is **steady** when,
begun with nothing pending, it has one result for all of them, leaves nothing pending, and never fails
for its depth (`Steady`). The resolution of every event is steady (`process_steady`), steadiness is a
closed property of casts, and so every call of a game is steady (`Game.ask_steady`).

`Game.cascades_resolve` says all that there is to say of the resolution of an event, in any arena that
arises in play, and what follows for games.

**What it does not establish.** Nothing is said of an event that is submitted while others are pending:
no effect does this.
-/

namespace Skirmish

open Arena

variable {ε σ σ' τ τ' α β : Type}

/-- A result with its state changed. -/
def withState (f : σ → τ) : EStateM.Result ε σ α → EStateM.Result ε τ α
  | .ok a s => .ok a (f s)
  | .error e s => .error e (f s)

/-- Whether an error has another cause than the depth of a reaction. -/
def CastError.IsShallow (e : CastError) : Prop := ∀ depth limit, e ≠ .cascadeTooDeep depth limit

/-- **Steady steps.** `under` puts a state under a limit; the result of a steady step is the same
under every limit that leaves room for a reaction, and is no error of depth. -/
def Steady (under : Nat → τ → σ) (m : EStateM CastError σ α) : Prop := ∀ t : τ,
  ∃ r : EStateM.Result CastError τ α, Ensures r (fun _ _ => True) (fun e _ => e.IsShallow) ∧
    ∀ limit, 1 ≤ limit → m (under limit t) = withState (under limit) r

section

variable {under : Nat → τ → σ} {under' : Nat → τ' → σ'}

theorem steady_pure (a : α) : Steady under (pure a) := fun t => ⟨.ok a t, trivial, fun _ _ => rfl⟩

theorem steady_bind {m : EStateM CastError σ α} {k : α → EStateM CastError σ β} (first : Steady under m)
    (second : ∀ a, Steady under (k a)) : Steady under (m >>= k) := by
  intro t
  obtain ⟨r, shallow, same⟩ := first t
  cases r with
  | error e t' =>
    refine ⟨.error e t', shallow, ?_⟩
    intro limit room
    exact bind_of_error (same limit room) k
  | ok a t' =>
    obtain ⟨r', shallow', same'⟩ := second a t'
    refine ⟨r', shallow', ?_⟩
    intro limit room
    rw [bind_of_ok (same limit room)]
    exact same' limit room

theorem steady_map {f : α → β} {m : EStateM CastError σ α} (steady : Steady under m) :
    Steady under (f <$> m) := by
  rw [map_eq_pure_bind]
  apply steady_bind steady
  intro a
  exact steady_pure (f a)

/-- A step that runs a steady one inside: `into` finds its state, and `out` puts back what it left. -/
theorem steady_inside {m : EStateM CastError σ α} {m' : EStateM CastError σ' α} (steady : Steady under m)
    (into : τ' → τ) (out : τ' → τ → τ')
    (runs : ∀ limit t r, m (under limit (into t)) = withState (under limit) r →
      m' (under' limit t) = withState (under' limit) (withState (out t) r)) : Steady under' m' := by
  intro t
  obtain ⟨r, shallow, same⟩ := steady (into t)
  refine ⟨withState (out t) r, ?_, ?_⟩
  · cases r <;> exact shallow
  · intro limit room
    exact runs limit t r (same limit room)

end

/-! ## Events and casts -/

namespace Context

/-- An arena with nothing pending. -/
def rest (limit : Nat) (a : Arena) : Context := .idle a limit

theorem process_steady (event : Event) : Steady rest (process event) := by
  intro a
  by_cases fells : event.Fells a.world
  · obtain ⟨log, a', resolved⟩ := process_of_fells fells
    exact ⟨.ok log a', trivial, resolved⟩
  · have silent := Event.reactions_eq_nil fells
    exact ⟨.ok _ _, trivial, fun limit _ => process_silent silent limit⟩

end Context

namespace Cast

/-- Scopes and an arena with nothing pending. -/
def rest (limit : Nat) (t : Scopes × Arena) : Situation := ⟨t.1, .idle t.2 limit⟩

theorem steady_closed : Closed (Steady rest) where
  pure := steady_pure
  bind := steady_bind
  resolve look t := by
    cases found : look t.1 with
    | ok a =>
      refine ⟨.ok a t, trivial, ?_⟩
      intro limit _
      rw [resolve, show look (rest limit t).scopes = .ok a from found]
      rfl
    | error e =>
      refine ⟨.error (.target e) t, nofun, ?_⟩
      intro limit _
      rw [resolve, show look (rest limit t).scopes = .error e from found]
      rfl
  name name target t := by
    cases bound : t.1.bind name target with
    | ok scopes =>
      refine ⟨.ok () (scopes, t.2), trivial, ?_⟩
      intro limit _
      rw [Cast.bind, show (rest limit t).scopes.bind name target = .ok scopes from bound]
      rfl
    | error e =>
      refine ⟨.error (.target e) t, nofun, ?_⟩
      intro limit _
      rw [Cast.bind, show (rest limit t).scopes.bind name target = .error e from bound]
      rfl
  world t := ⟨.ok t.2.world t, trivial, fun _ _ => rfl⟩
  submit event := by
    apply steady_inside (Context.process_steady event) Prod.snd (fun t a => (t.1, a))
    intro limit t r same
    rw [submit, show (rest limit t).context.process event = _ from same]
    cases r <;> rfl
  inChild {α m} steady := by
    apply steady_inside steady (fun t => (t.1.child, t.2)) (fun _ t => (t.1.parent, t.2))
    intro limit t r same
    rw [inChild, show m { rest limit t with scopes := (rest limit t).scopes.child } = _ from same]
    cases r <;> rfl

end Cast

theorem Ability.cast_steady (ability : Ability) (caster : EntityId) (target : Option Target) :
    Steady Context.rest (ability.cast caster target) := by
  have effects := Cast.steady_closed.castSequence ability.effects
  apply steady_bind
  · apply steady_inside effects (fun a => (.ofCast caster target, a)) (fun _ t => t.2)
    intro limit a r same
    rw [Cast.within, show castSequence ability.effects ⟨.ofCast caster target, Context.rest limit a⟩ = _
      from same]
    cases r <;> rfl
  · intro effects
    exact steady_pure _

/-! ## Calls and runs -/

namespace Game

/-- A game of a bundle and an arena, with a limit and no other settings. -/
def limited (limit : Nat) (t : Bundle × Arena) : Game := ⟨t.1, ⟨limit⟩, t.2⟩

theorem run_steady {step : EStateM CastError Context α} (steady : Steady Context.rest step) :
    Steady limited (run step) := by
  apply steady_inside steady Prod.snd (fun t a => (t.1, a))
  intro limit t r same
  rw [run, show step (.idle (limited limit t).arena (limited limit t).config.maxCascadeDepth) = _ from same]
  cases r <;> rfl

theorem spawn_steady (kind : String) (spot : Coords) : Steady limited (spawn kind spot) := by
  intro t
  simp only [spawn_eq]
  cases known : t.1.entityType? kind with
  | none =>
    refine ⟨.error (.unknownEntityType kind) t, nofun, ?_⟩
    intro limit _
    rw [show (limited limit t).content.entityType? kind = none from known]
    rfl
  | some type =>
    obtain ⟨r, shallow, same⟩ :=
      steady_map (f := newcomer?) (run_steady (Context.process_steady (.spawn type spot))) t
    refine ⟨r, shallow, ?_⟩
    intro limit room
    rw [show (limited limit t).content.entityType? kind = some type from known]
    exact same limit room

theorem cast_steady (ability : String) (caster : EntityId) (target : Option Target) :
    Steady limited (cast ability caster target) := by
  intro t
  cases known : t.1.ability? ability with
  | none =>
    refine ⟨.error (.unknownAbility ability) t, nofun, ?_⟩
    intro limit _
    rw [cast, show (limited limit t).content.ability? ability = none from known]
    rfl
  | some a =>
    cases alive : t.2.world.entity? caster with
    | none =>
      refine ⟨.error (.target (.missing Scopes.caster)) t, nofun, ?_⟩
      intro limit _
      rw [cast, show (limited limit t).content.ability? ability = some a from known]
      dsimp only
      rw [show (limited limit t).world.entity? caster = none from alive]
      rfl
    | some e =>
      obtain ⟨r, shallow, same⟩ := run_steady (a.cast_steady caster target) t
      refine ⟨r, shallow, ?_⟩
      intro limit room
      rw [cast, show (limited limit t).content.ability? ability = some a from known]
      dsimp only
      rw [show (limited limit t).world.entity? caster = some e from alive]
      exact same limit room

theorem currentActor_steady : Steady limited currentActor := by
  intro t
  cases front : t.2.turns.current with
  | none =>
    refine ⟨.error .noActiveTurn t, nofun, ?_⟩
    intro limit _
    rw [currentActor, show (limited limit t).actor = none from front]
    rfl
  | some actor =>
    refine ⟨.ok actor t, trivial, ?_⟩
    intro limit _
    rw [currentActor, show (limited limit t).actor = some actor from front]
    rfl

theorem endTurn_steady (actor : EntityId) : Steady limited (endTurn actor) := fun t =>
  ⟨.ok () (t.1, { t.2 with turns := t.2.turns.endTurn actor }), trivial, fun _ _ => rfl⟩

/-- **Every call of a game is steady.** -/
theorem ask_steady (call : Call) : Steady limited (ask call) := by
  cases call with
  | spawn kind spot => exact steady_map (spawn_steady kind spot)
  | cast ability caster target => exact steady_map (cast_steady ability caster target)
  | takeTurn ability target =>
    apply steady_map
    apply steady_bind currentActor_steady
    intro actor
    apply steady_bind (cast_steady ability actor target)
    intro log
    apply steady_bind (endTurn_steady actor)
    intro _
    exact steady_pure log
  | passTurn =>
    apply steady_map
    apply steady_bind currentActor_steady
    intro actor
    apply steady_bind (endTurn_steady actor)
    intro _ t
    exact ⟨.ok t.2.turns.current t, trivial, fun _ _ => rfl⟩

/-- With room for a reaction no call fails for the depth of a cascade. -/
theorem answer_shallow {g : Game} (room : 1 ≤ g.config.maxCascadeDepth) (call : Call) {e : CastError}
    (failed : g.answer call = .error e) : e.IsShallow := by
  obtain ⟨r, shallow, same⟩ := ask_steady call (g.content, g.arena)
  have asked : ask call g = withState (limited g.config.maxCascadeDepth) r := same _ room
  rw [answer, asked] at failed
  cases r with
  | ok answer t => cases failed
  | error e t =>
    cases failed
    exact shallow

/-- Whether two games differ in nothing but their limits, which leave room for a reaction. -/
structure Alike (g g' : Game) : Prop where
  content : g.content = g'.content
  arena : g.arena = g'.arena
  room : 1 ≤ g.config.maxCascadeDepth
  room' : 1 ≤ g'.config.maxCascadeDepth

/-- **One call** of games that are alike has one answer, and leaves games that are alike. -/
theorem Alike.ask {g g' : Game} (alike : Alike g g') (call : Call) :
    g.answer call = g'.answer call ∧ Alike (g.after call) (g'.after call) := by
  obtain ⟨r, -, same⟩ := ask_steady call (g.content, g.arena)
  have asked : Game.ask call g = withState (limited g.config.maxCascadeDepth) r := same _ alike.room
  have asked' : Game.ask call g' = withState (limited g'.config.maxCascadeDepth) r := by
    have placed := same _ alike.room'
    rw [alike.content, alike.arena] at placed
    exact placed
  have room := alike.room
  have room' := alike.room'
  rw [after_eq, after_eq, answer, answer, leftBy, leftBy, asked, asked']
  cases r <;> exact ⟨rfl, rfl, rfl, room, room'⟩

/-- **Runs** of games that are alike have the same answers, and lead to the same arena. -/
theorem Alike.run {g g' : Game} (alike : Alike g g') (calls : List Call) :
    g.answers calls = g'.answers calls ∧ (g.afterAll calls).arena = (g'.afterAll calls).arena := by
  induction calls generalizing g g' with
  | nil => exact ⟨rfl, alike.arena⟩
  | cons call calls ih =>
    obtain ⟨first, alike'⟩ := alike.ask call
    obtain ⟨others, last⟩ := ih alike'
    refine ⟨?_, last⟩
    rw [answers, answers, first, others]

end Game

/-- Whether an arena arises in play: between calls, or after some steps of a call. -/
def Arena.Arises (a : Arena) : Prop :=
  ∃ (g : Game) (entries : List Entry), g.Reachable ∧ Trace g.arena entries a

theorem Arena.Arises.coherent {a : Arena} (arises : a.Arises) : a.Coherent := by
  obtain ⟨g, entries, reached, trace⟩ := arises
  exact reached.coherent.trace trace

namespace Game

open Context

/-- **How cascades end.** In an arena that arises in play, an event begun with nothing pending ends with
nothing pending. One that fells nobody is its operation, and the turn order follows; what is refused
changes nothing. Damage that fells is, with room for a reaction, the damage and then the destruction of
the target, who is nowhere afterwards; without room the destruction is refused, and the target stays
registered, placed and scheduled. So no call fails for the depth of a cascade where there is room, and
games that differ only in limits with room have the same runs. -/
theorem cascades_resolve {a : Arena} (arises : a.Arises) :
    (∀ (event : Event) limit, ¬ event.Fells a.world →
      process event (.idle a limit) =
        .ok ((event.operation a.world).1.map .entry) (.idle (event.settled a) limit) ∧
      ((event.operation a.world).1 = none → event.settled a = a)) ∧
    (∀ target amount attacker, (Event.damage target amount attacker).Fells a.world →
      ∃ e spot struck, a.world.entity? target = some e ∧ a.world.coords? target = some spot ∧
        struck = a.world.update (e.hurt amount.resolve) ∧
        (∀ limit, 1 ≤ limit → process (.damage target amount attacker) (.idle a limit) =
          .ok (some (.combined false
              [.entry (.damage attacker target amount.resolve (e.absorbed amount.resolve)),
                .entry (.destruction (e.hurt amount.resolve) spot)]))
            (.idle ⟨struck.without target spot, a.turns.leave target⟩ limit)) ∧
        (struck.without target spot).entity? target = none ∧
        (struck.without target spot).coords? target = none ∧
        target ∉ (a.turns.leave target).queue ∧
        process (.damage target amount attacker) (.idle a 0) =
          .error (.cascadeTooDeep 1 0) (.idle ⟨struck, a.turns⟩ 0) ∧
        struck.entity? target = some (e.hurt amount.resolve) ∧ struck.coords? target = some spot ∧
        (e.kind.isAgent = true → target ∈ a.turns.queue)) ∧
    (∀ (g : Game) call depth limit, 1 ≤ g.config.maxCascadeDepth →
      g.answer call ≠ .error (.cascadeTooDeep depth limit)) ∧
    ∀ g g' : Game, g.content = g'.content → g.arena = g'.arena → 1 ≤ g.config.maxCascadeDepth →
      1 ≤ g'.config.maxCascadeDepth → ∀ calls, g.answers calls = g'.answers calls ∧
        (g.afterAll calls).arena = (g'.afterAll calls).arena := by
  have h := arises.coherent
  refine ⟨?_, ?_, ?_, ?_⟩
  · intro event limit calm
    exact ⟨process_calm h calm limit, Event.settled_of_refused h⟩
  · intro target amount attacker fells
    obtain ⟨e, alive, fallen⟩ := fells.target
    obtain ⟨spot, placed, -⟩ := h.world.coords_of_entity alive
    refine ⟨e, spot, _, alive, placed, rfl, ?_, ?_, ?_, ?_, ?_, ?_, placed, ?_⟩
    · intro limit room
      exact process_felling alive fallen placed attacker room
    · exact (World.entity?_without ..).trans (if_pos rfl)
    · exact (World.coords?_without ..).trans (if_pos rfl)
    · rw [Turns.leave_queue]
      exact h.distinct.not_mem_erase
    · exact process_cut alive fallen attacker
    · exact World.entity?_update_self alive _ rfl
    · intro agent
      exact h.waiting_iff.mpr ⟨e.kind, World.kind?_eq_some.mpr ⟨e, alive, rfl⟩, agent⟩
  · intro g call depth limit room failed
    exact answer_shallow room call failed depth limit rfl
  · intro g g' content arena room room' calls
    exact Alike.run ⟨content, arena, room, room'⟩ calls

/-- A stroke that fells the wolf of the camp: without room for a reaction the wolf stands where it
stood, without health, and it keeps its place behind the knight. -/
theorem cascades_resolve_stroke :
    let a := (Sample.camp .usual).arena
    (Event.damage ⟨1⟩ (.flat 5) (some ⟨0⟩)).Fells a.world ∧
      ∃ e spot struck, a.world.entity? ⟨1⟩ = some e ∧ struck = a.world.update (e.hurt 5) ∧
        process (.damage ⟨1⟩ (.flat 5) (some ⟨0⟩)) (.idle a 0) =
          .error (.cascadeTooDeep 1 0) (.idle ⟨struck, a.turns⟩ 0) ∧
        struck.coords? ⟨1⟩ = some spot ∧ ⟨1⟩ ∈ a.turns.queue := by
  intro a
  have arises : a.Arises := ⟨_, [], Sample.camp_reachable .usual, .nil⟩
  have fells : (Event.damage ⟨1⟩ (.flat 5) (some ⟨0⟩)).Fells a.world := by
    show (a.world.damage ⟨1⟩ (.flat 5) (some ⟨0⟩)).2.health? ⟨1⟩ = some 0
    decide +kernel
  obtain ⟨e, spot, struck, alive, -, same, -, -, -, -, cut, -, still, -⟩ :=
    (cascades_resolve arises).2.1 _ _ _ fells
  exact ⟨fells, e, spot, struck, alive, same, cut, still, by decide +kernel⟩

end Game

end Skirmish
