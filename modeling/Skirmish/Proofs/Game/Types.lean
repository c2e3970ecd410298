import Skirmish.Proofs.Bundle.Rendering
import Skirmish.Proofs.Casting.Guises
import Skirmish.Proofs.Game.Answers

/-!
# Types in play

Effects carry their own copies of types, and so does what play records. In a run from the start of a
valid bundle every type that anybody can see is registered in the bundle with the same content: the type
of each entity and of each tile, in every state, and the types that the answered logs show
(`Game.Seen.registered`). So the id of a type that is seen stands for one content (`types_closed`).

**The argument.** A bundle brands all types that it does not register (`Bundle.brand`): the brand is a
guise that leaves alone what is registered and nothing else. What a valid bundle starts from wears the
brand without a change, and so do its abilities, since validation has looked at all that they carry. A
cast commutes with putting on the brand (`Ability.cast_wear`); so what it leaves and what it records wear
the brand without a change as well, that is, all of it is registered.
-/

namespace Skirmish

/-! ## What is shown -/

/-- The types of everybody who is there, and of the tiles. -/
def World.shown (w : World) : List Definition :=
  w.entities.entries.map (.entityType ·.kind) ++ w.board.tiles.toList.map (.tileType ·.kind)

/-- The types that an entry tells of. -/
def Entry.shown : Entry → List Definition
  | .spawn _ kind _ => [.entityType kind]
  | .destruction e _ => [.entityType e.kind]
  | .modification _ previous current => [.tileType previous, .tileType current]
  | _ => []

def Log.shown (log : Log) : List Definition := log.leaves.flatMap Entry.shown

/-! ## The brand -/

namespace Bundle

/-- **The brand**: types that the bundle does not register are marked by their names. -/
def brand (b : Bundle) : Guise where
  tile k := if k ∈ b.tileTypes then k else { k with name := k.name ++ "?" }
  entity k := if k ∈ b.entityTypes then k else { k with name := k.name ++ "?" }
  parallel := fun flag => flag
  blocked k := by split <;> rfl
  domain k := by split <;> rfl
  isAgent k := by split <;> rfl
  maxHealth k := by split <;> rfl
  sequence := rfl

variable {b : Bundle}

theorem marked_ne (name : String) : name ++ "?" ≠ name := by
  intro same
  have longer := congrArg String.length same
  rw [String.length_append, show "?".length = 1 from rfl] at longer
  omega

theorem brand_tile {kind : TileType} : b.brand.tile kind = kind ↔ kind ∈ b.tileTypes := by
  show (if kind ∈ b.tileTypes then kind else _) = kind ↔ _
  split
  · next listed => exact iff_of_true rfl listed
  · next absent => exact iff_of_false (fun same => marked_ne kind.name (congrArg TileType.name same)) absent

theorem brand_entity {kind : EntityType} : b.brand.entity kind = kind ↔ kind ∈ b.entityTypes := by
  show (if kind ∈ b.entityTypes then kind else _) = kind ↔ _
  split
  · next listed => exact iff_of_true rfl listed
  · next absent => exact iff_of_false (fun same => marked_ne kind.name (congrArg EntityType.name same)) absent

/-! ### What wears the brand without a change -/

theorem branded_action {action : Action} (carried : ∀ d ∈ action.carried, b.Registers d) :
    action.wear b.brand = action := by
  cases action with
  | modification spot kind =>
    exact congrArg _ (brand_tile.mpr (carried _ (List.mem_singleton_self _)))
  | spawn spot kind => exact congrArg _ (brand_entity.mpr (carried _ (List.mem_singleton_self _)))
  | _ => rfl

mutual

theorem branded_effect : (effect : Effect) → (∀ d ∈ effect.carried, b.Registers d) →
    effect.wear b.brand = effect
  | .act action, carried => by
    rw [Effect.carried] at carried
    rw [Effect.wear, branded_action carried]
  | .group members newTarget parallel effects, carried => by
    rw [Effect.carried] at carried
    rw [Effect.wear, branded_effects effects carried]
    rfl

theorem branded_effects : (effects : List Effect) → (∀ d ∈ Effect.carriedAll effects, b.Registers d) →
    Effect.wearAll b.brand effects = effects
  | [], _ => rfl
  | effect :: effects, carried => by
    rw [Effect.carriedAll, List.forall_mem_append] at carried
    rw [Effect.wearAll, branded_effect effect carried.1, branded_effects effects carried.2]

end

theorem Valid.branded_ability (valid : b.Valid) {a : Ability} (listed : a ∈ b.abilities) :
    a.wear b.brand = a :=
  congrArg (Ability.mk a.id a.name) (branded_effects a.effects (valid.carried a listed))

theorem fixed_of_map {α : Type} {f : α → α} {l : List α} (same : l.map f = l) : ∀ a ∈ l, f a = a :=
  List.map_inj_left.mp (same.trans (List.map_id l).symm)

theorem registered_of_entry {entry : Entry} (branded : entry.wear b.brand = entry) :
    ∀ d ∈ entry.shown, b.Registers d := by
  cases entry with
  | spawn id kind spot =>
    intro d shown
    rw [List.mem_singleton.mp shown]
    exact brand_entity.mp (Entry.spawn.inj branded).2.1
  | destruction e spot =>
    intro d shown
    rw [List.mem_singleton.mp shown]
    exact brand_entity.mp (congrArg Entity.kind (Entry.destruction.inj branded).1)
  | modification spot previous current =>
    obtain ⟨-, before, now⟩ := Entry.modification.inj branded
    intro d shown
    rcases List.mem_pair.mp shown with rfl | rfl
    · exact brand_tile.mp before
    · exact brand_tile.mp now
  | _ => nofun

theorem registered_of_log {log : Log} (branded : log.wear b.brand = log) :
    ∀ d ∈ log.shown, b.Registers d := by
  have leaves : log.leaves.map (Entry.wear b.brand) = log.leaves := by
    rw [← Log.leaves_wear, branded]
  intro d shown
  obtain ⟨entry, told, shown⟩ := List.mem_flatMap.mp shown
  exact registered_of_entry (fixed_of_map leaves entry told) d shown

theorem registered_of_world {w : World} (branded : w.wear b.brand = w) :
    ∀ d ∈ w.shown, b.Registers d := by
  have entities : w.entities.entries.map (Entity.wear b.brand) = w.entities.entries :=
    congrArg (fun w => w.entities.entries) branded
  have tiles : w.board.tiles.toList.map (Tile.wear b.brand) = w.board.tiles.toList := by
    rw [← Array.toList_map]
    exact congrArg (fun w => w.board.tiles.toList) branded
  intro d shown
  rcases List.mem_append.mp shown with seen | seen
  · obtain ⟨e, there, rfl⟩ := List.mem_map.mp seen
    exact brand_entity.mp (congrArg Entity.kind (fixed_of_map entities e there))
  · obtain ⟨t, there, rfl⟩ := List.mem_map.mp seen
    exact brand_tile.mp (congrArg Tile.kind (fixed_of_map tiles t there))

end Bundle

namespace Game

variable {content : Bundle} {config : Config} {g : Game} {α : Type}

/-! ## Calls -/

/-- A game of a bundle in whose world nothing bears the brand. -/
structure Typed (content : Bundle) (g : Game) : Prop where
  plays : g.content = content
  world : g.world.wear content.brand = g.world

/-- The types that an answer shows. -/
def Answer.shown : Answer → List Definition
  | .log told => told.shown
  | .spawned _ | .actor _ => []

/-- What the engine does alike under the brand leaves no brand behind. -/
theorem run_typed (typed : g.Typed content) {step : EStateM CastError Context α} {f : α → α}
    (worn : ∀ c : Context, step (c.wear content.brand) = through f (Context.wear content.brand) (step c)) :
    Ensures (run step g) (fun a g' => g'.Typed content ∧ f a = a) (fun _ g' => g'.Typed content) := by
  have arena : g.arena.wear content.brand = g.arena := congrArg (Arena.mk · g.turns) typed.world
  have same := worn (.idle g.arena g.config.maxCascadeDepth)
  rw [show (Context.idle g.arena g.config.maxCascadeDepth).wear content.brand =
    .idle g.arena g.config.maxCascadeDepth from congrArg (Context.idle · _) arena] at same
  unfold run
  revert same
  cases step (.idle g.arena g.config.maxCascadeDepth) with
  | error e c =>
    intro same
    have kept := (EStateM.Result.error.inj same).2
    exact ⟨typed.plays, (congrArg (fun c => c.arena.world) kept).symm⟩
  | ok a c =>
    intro same
    obtain ⟨answer, kept⟩ := EStateM.Result.ok.inj same
    exact ⟨⟨typed.plays, (congrArg (fun c => c.arena.world) kept).symm⟩, answer.symm⟩

theorem spawn_typed (typed : g.Typed content) (kind : String) (spot : Coords) :
    Ensures (spawn kind spot g) (fun _ g' => g'.Typed content) (fun _ g' => g'.Typed content) := by
  apply ensures_spawn.mpr
  cases found : g.content.entityType? kind with
  | none => exact typed
  | some k =>
    have listed : k ∈ content.entityTypes := by
      rw [← typed.plays]
      exact List.mem_of_find?_eq_some found
    have event : (Event.spawn k spot).wear content.brand = .spawn k spot :=
      congrArg (Event.spawn · spot) (Bundle.brand_entity.mpr listed)
    have placed := run_typed typed fun c => (congrArg (Context.process · _) event).symm.trans
      (Context.process_wear (.spawn k spot) c)
    exact placed.mono (fun _ _ ends => ends.1) fun _ _ ends => ends

theorem cast_typed (valid : content.Valid) (typed : g.Typed content) (ability : String) (caster : EntityId)
    (target : Option Target) : Ensures (cast ability caster target g)
      (fun log g' => g'.Typed content ∧ log.wear content.brand = log) (fun _ g' => g'.Typed content) := by
  apply ensures_cast.mpr
  cases found : g.content.ability? ability with
  | none => exact typed
  | some a =>
    cases g.world.entity? caster with
    | none => exact typed
    | some e =>
      have listed : a ∈ content.abilities := by
        rw [← typed.plays]
        exact List.mem_of_find?_eq_some found
      refine run_typed typed fun c => ?_
      rw [← a.cast_wear, valid.branded_ability listed]

/-- **Every call keeps the brand out**, of the game in success and failure, and of its answer. -/
theorem ask_typed (valid : content.Valid) (typed : g.Typed content) (call : Call) :
    Ensures (ask call g) (fun answer g' => g'.Typed content ∧ ∀ d ∈ answer.shown, content.Registers d)
      (fun _ g' => g'.Typed content) := by
  cases call with
  | spawn kind spot =>
    apply ensures_map.mpr
    exact (spawn_typed typed kind spot).mono (fun _ _ kept => ⟨kept, nofun⟩) fun _ _ kept => kept
  | cast ability caster target =>
    apply ensures_map.mpr
    apply (cast_typed valid typed ability caster target).mono
    · rintro log g' ⟨kept, branded⟩
      exact ⟨kept, Bundle.registered_of_log branded⟩
    · exact fun _ _ kept => kept
  | takeTurn ability target =>
    apply ensures_map.mpr
    apply ensures_bind.mpr
    apply ensures_currentActor.mpr
    cases g.actor with
    | none => exact typed
    | some actor =>
      apply ensures_bind.mpr
      apply (cast_typed valid typed ability actor target).mono
      · rintro log g' ⟨kept, branded⟩
        exact ⟨⟨kept.plays, kept.world⟩, Bundle.registered_of_log branded⟩
      · exact fun _ _ kept => kept
  | passTurn =>
    apply ensures_map.mpr
    apply ensures_bind.mpr
    apply ensures_currentActor.mpr
    cases g.actor with
    | none => exact typed
    | some actor => exact ⟨⟨typed.plays, typed.world⟩, nofun⟩

/-! ## Runs -/

theorem Typed.start (started : Game.start content config = .ok g) : g.Typed content := by
  obtain ⟨checked, rfl⟩ := start_eq_ok.mp started
  have tile : content.brand.tile content.defaultTile = content.defaultTile :=
    Bundle.brand_tile.mpr (Bundle.validate_eq_ok.mp checked).defaultTile
  have blank : (Board.blank content.size content.defaultTile).wear content.brand =
      .blank content.size content.defaultTile := by
    refine Board.eq_of_parts rfl ?_ rfl
    show (Array.replicate content.size.area (Tile.vacant content.defaultTile)).map _ = _
    rw [Array.map_replicate]
    exact congrArg (fun k => Array.replicate content.size.area (Tile.vacant k)) tile
  exact ⟨rfl, congrArg World.start blank⟩

theorem Typed.after (valid : content.Valid) (typed : g.Typed content) (call : Call) :
    (g.after call).Typed content := by
  rw [after_eq]
  exact ensures_leftBy (Typed content) ((ask_typed valid typed call).mono (fun _ _ ends => ends.1)
    fun _ _ kept => kept)

theorem Typed.afterAll (valid : content.Valid) (typed : g.Typed content) (calls : List Call) :
    (g.afterAll calls).Typed content := by
  induction calls generalizing g with
  | nil => exact typed
  | cons call calls ih => exact ih (typed.after valid call)

theorem Typed.answers (valid : content.Valid) (typed : g.Typed content) (calls : List Call) {log : Log}
    (told : .ok (.log log) ∈ g.answers calls) : ∀ d ∈ log.shown, content.Registers d := by
  induction calls generalizing g with
  | nil => cases told
  | cons call calls ih =>
    rcases List.mem_cons.mp told with now | later
    · have ends := ensures_ask.mp (ask_typed valid typed call)
      rw [← now] at ends
      exact ends.2
    · exact ih (typed.after valid call) later

/-- What can be seen of a game: the types in a state of some run, and those that a log tells of which
some run answered. -/
inductive Seen (g : Game) : Definition → Prop where
  | state {d : Definition} (calls : List Call) (shown : d ∈ (g.afterAll calls).world.shown) : Seen g d
  | log {d : Definition} (calls : List Call) {log : Log} (told : .ok (.log log) ∈ g.answers calls)
      (shown : d ∈ log.shown) : Seen g d

theorem Seen.registered (started : Game.start content config = .ok g) {d : Definition} (seen : g.Seen d) :
    content.Registers d := by
  have valid := Bundle.validate_eq_ok.mp (start_eq_ok.mp started).1
  cases seen with
  | state calls shown => exact Bundle.registered_of_world ((Typed.start started).afterAll valid calls).world d shown
  | log calls told shown => exact (Typed.start started).answers valid calls told d shown

/-- **Types are closed.** In every state of a run from a valid bundle the entities and the tiles have types
that the bundle registers with the same content; and the id of a type that is seen, in a state or in a log
that was answered, stands for one definition. -/
theorem types_closed (started : Game.start content config = .ok g) :
    (∀ calls id e, (g.afterAll calls).world.entity? id = some e → e.kind ∈ content.entityTypes) ∧
    (∀ calls, ∀ t ∈ (g.afterAll calls).world.board.tiles, t.kind ∈ content.tileTypes) ∧
    ∀ d d', g.Seen d → g.Seen d' → d.kind = d'.kind → d.id = d'.id → d = d' := by
  refine ⟨?_, ?_, ?_⟩
  · intro calls id e alive
    have shown : Definition.entityType e.kind ∈ (g.afterAll calls).world.shown :=
      List.mem_append_left _ (List.mem_map_of_mem (List.mem_of_find?_eq_some alive))
    exact (Seen.state calls shown).registered started
  · intro calls t there
    have shown : Definition.tileType t.kind ∈ (g.afterAll calls).world.shown :=
      List.mem_append_right _ (List.mem_map_of_mem (Array.mem_toList_iff.mpr there))
    exact (Seen.state calls shown).registered started
  · intro d d' seen seen' kind id
    have valid := Bundle.validate_eq_ok.mp (start_eq_ok.mp started).1
    exact valid.eq_of_identity (seen.registered started) (seen'.registered started) kind id

/-- Both come to the camp, and the knight raises its uproar. -/
def Sample.raid : List Call :=
  [.spawn "knight" ⟨0, 0⟩, .spawn "wolf" ⟨1, 0⟩, .takeTurn "uproar" (some (.coords ⟨1, 1⟩))]

/-- In the sample whatever is ever seen under the id of the wolf is the wolf, also the one that the uproar
calls. -/
theorem types_closed_wolf :
    (∃ e, ((Sample.opening ⟨64⟩).afterAll Sample.raid).world.entity? ⟨2⟩ = some e ∧
      e.kind ∈ Sample.bundle.entityTypes) ∧
    ∀ d, (Sample.opening ⟨64⟩).Seen d → d.kind = .entityType → d.id = "wolf" →
      d = .entityType Sample.wolf := by
  have started : Game.start Sample.bundle ⟨64⟩ = .ok (Sample.opening ⟨64⟩) :=
    start_eq_ok.mpr ⟨by decide, rfl⟩
  have called : ((Sample.opening ⟨64⟩).afterAll Sample.raid).world.entity? ⟨2⟩ =
      some ⟨⟨2⟩, Sample.wolf, 2⟩ := by decide +kernel
  have wolf : (Sample.opening ⟨64⟩).Seen (.entityType Sample.wolf) :=
    .state Sample.raid (by decide +kernel)
  obtain ⟨entities, -, unique⟩ := types_closed started
  refine ⟨⟨_, called, entities Sample.raid ⟨2⟩ _ called⟩, ?_⟩
  exact fun d seen kind id => unique d _ seen wolf kind id

end Game

end Skirmish
