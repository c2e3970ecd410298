import Skirmish.Proofs.Game.Runs

/-!
# What a run answers

The calls of a game answer in different ways, or fail. Here the answers are brought together
(`Game.Answer`), so that a run can be told as the list of its answers (`Game.answers`) beside the game
that it leads to (`Game.afterAll`). A run goes on after a call that failed, from what that call left.

`ensures_ask` reads what holds of both ends of a call in these terms, and `ensures_spawn` and
`ensures_cast` open the two calls that run the engine.
-/

namespace Skirmish

variable {ε σ α β : Type}

theorem ensures_map {f : α → β} {m : EStateM ε σ α} {s : σ} {ok : β → σ → Prop} {error : ε → σ → Prop} :
    Ensures ((f <$> m) s) ok error ↔ Ensures (m s) (fun a s' => ok (f a) s') error := by
  rw [map_eq_pure_bind]
  exact ensures_bind

/-- The entity that has come, when an entry tells of one. -/
def Entry.newcomer? : Entry → Option EntityId
  | .spawn id _ _ => some id
  | _ => none

namespace Game

/-- What a call answers, when it does. -/
inductive Answer where
  /-- The new entity, unless the board refused it. -/
  | spawned (id : Option EntityId)
  | log (log : Log)
  /-- The one whose turn it is now. -/
  | actor (next : Option EntityId)
  deriving DecidableEq, Repr

/-- Asks a call of a game. -/
def ask : Call → Play Answer
  | .spawn kind spot => .spawned <$> spawn kind spot
  | .cast ability caster target => .log <$> cast ability caster target
  | .takeTurn ability target => .log <$> takeTurn ability target
  | .passTurn => .actor <$> passTurn

/-- What a game answers to a call, or why the call fails. -/
def answer (g : Game) (call : Call) : Except CastError Answer :=
  match ask call g with
  | .ok answer _ => .ok answer
  | .error e _ => .error e

/-- The game after calls that were asked one after the other. -/
def afterAll (g : Game) (calls : List Call) : Game := calls.foldl after g

/-- What a game answers to calls that are asked one after the other. -/
def answers (g : Game) : List Call → List (Except CastError Answer)
  | [] => []
  | call :: calls => g.answer call :: (g.after call).answers calls

variable {g : Game}

theorem leftBy_map (f : α → β) (step : Play α) (g : Game) : leftBy (f <$> step) g = leftBy step g := by
  rw [map_eq_pure_bind]
  show leftBy (EStateM.bind step _) g = _
  unfold leftBy EStateM.bind
  cases step g <;> rfl

theorem after_eq (g : Game) (call : Call) : g.after call = leftBy (ask call) g := by
  cases call <;> exact (leftBy_map _ _ g).symm

/-- What holds of both ends of a call holds of its answer and of the game that it leaves. -/
theorem ensures_ask {call : Call} {ok : Answer → Game → Prop} {error : CastError → Game → Prop} :
    Ensures (ask call g) ok error ↔
      match g.answer call with
      | .ok answer => ok answer (g.after call)
      | .error e => error e (g.after call) := by
  rw [after_eq, answer, leftBy]
  cases ask call g <;> rfl

theorem Reachable.afterAll (reached : Reachable g) (calls : List Call) : Reachable (g.afterAll calls) := by
  induction calls generalizing g with
  | nil => exact reached
  | cons call calls ih => exact ih (reached.after call)

/-! ## The calls that run the engine -/

/-- The entity that has come, when the log of a single event tells of one. -/
def newcomer? : Option Log → Option EntityId
  | some (.entry e) => e.newcomer?
  | _ => none

/-- A spawn runs the engine on one event and answers its newcomer. -/
theorem spawn_eq (kind : String) (spot : Coords) (g : Game) : spawn kind spot g =
    match g.content.entityType? kind with
    | none => .error (.unknownEntityType kind) g
    | some kind => (newcomer? <$> run (Context.process (.spawn kind spot))) g := by
  unfold spawn
  cases g.content.entityType? kind with
  | none => rfl
  | some kind =>
    have mapped : (newcomer? <$> run (Context.process (.spawn kind spot))) g =
        EStateM.bind (run (Context.process (.spawn kind spot))) (fun log => pure (newcomer? log)) g := by
      rw [map_eq_pure_bind]
      rfl
    dsimp only
    rw [mapped, EStateM.bind]
    cases run (Context.process (.spawn kind spot)) g with
    | error e g' => rfl
    | ok log g' =>
      cases log with
      | none => rfl
      | some log =>
        cases log with
        | combined parallel logs => rfl
        | entry entry => cases entry <;> rfl

theorem ensures_spawn {kind : String} {spot : Coords} {ok : Option EntityId → Game → Prop}
    {error : CastError → Game → Prop} : Ensures (spawn kind spot g) ok error ↔
      match g.content.entityType? kind with
      | none => error (.unknownEntityType kind) g
      | some kind => Ensures (run (Context.process (.spawn kind spot)) g)
          (fun log g' => ok (newcomer? log) g') error := by
  rw [spawn_eq]
  cases g.content.entityType? kind with
  | none => rfl
  | some kind => exact ensures_map

theorem ensures_cast {ability : String} {caster : EntityId} {target : Option Target}
    {ok : Log → Game → Prop} {error : CastError → Game → Prop} :
    Ensures (cast ability caster target g) ok error ↔
      match g.content.ability? ability with
      | none => error (.unknownAbility ability) g
      | some a =>
        match g.world.entity? caster with
        | none => error (.target (.missing Scopes.caster)) g
        | some _ => Ensures (run (a.cast caster target) g) ok error := by
  unfold cast
  cases g.content.ability? ability with
  | none => rfl
  | some a => cases g.world.entity? caster <;> rfl

/-- **What every call keeps.** A property of games holds after a call when it held before, when it
holds at both ends of what the engine runs, and when the end of a turn keeps it. -/
theorem after_of {Q : Game → Prop} (before : Q g)
    (placed : ∀ kind spot, Ensures (run (Context.process (.spawn kind spot)) g)
      (fun _ g' => Q g') (fun _ g' => Q g'))
    (done : ∀ (a : Ability) caster target, Ensures (run (a.cast caster target) g)
      (fun _ g' => Q g') (fun _ g' => Q g'))
    (ended : ∀ g' actor, Q g' → Q { g' with arena.turns := g'.arena.turns.endTurn actor })
    (call : Call) : Q (g.after call) := by
  have cast : ∀ ability caster target, Ensures (cast ability caster target g)
      (fun _ g' => Q g') (fun _ g' => Q g') := by
    intro ability caster target
    apply ensures_cast.mpr
    split
    · exact before
    · split
      · exact before
      · exact done _ caster target
  cases call with
  | spawn kind spot =>
    apply ensures_leftBy Q
    apply ensures_spawn.mpr
    split
    · exact before
    · exact placed _ spot
  | cast ability caster target =>
    apply ensures_leftBy Q
    exact cast ability caster target
  | takeTurn ability target =>
    apply ensures_leftBy Q
    apply ensures_bind.mpr
    apply ensures_currentActor.mpr
    split
    · exact before
    · next actor _ =>
      apply ensures_bind.mpr
      apply (cast ability actor target).mono
      · intro _ g' holds
        exact ended g' actor holds
      · intro _ g' holds
        exact holds
  | passTurn =>
    apply ensures_leftBy Q
    apply ensures_bind.mpr
    apply ensures_currentActor.mpr
    split
    · exact before
    · next actor _ => exact ended g actor before

theorem run_config {step : EStateM CastError Context α} : Ensures (run step g)
    (fun _ g' => g'.config = g.config) (fun _ g' => g'.config = g.config) := by
  unfold run
  cases step (.idle g.arena g.config.maxCascadeDepth) <;> rfl

/-- No call changes the settings. -/
theorem config_after (call : Call) : (g.after call).config = g.config :=
  after_of (Q := fun g' => g'.config = g.config) rfl (fun _ _ => run_config) (fun _ _ _ => run_config)
    (fun _ _ same => same) call

end Game

end Skirmish
