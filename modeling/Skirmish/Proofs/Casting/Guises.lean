import Skirmish.Proofs.Arena.Guises
import Skirmish.Proofs.Game.Runs

/-!
# Casts in another guise

A cast of effects in a guise does what the cast does without: it answers or fails alike, and its log and
what it leaves wear the guise (`castAll_wear`). There is one rule for each part of a cast, and one
induction over effects.

**Presentation decides nothing.** In the bare guise nothing is left of names, of visual tags, and of what
may be shown at once (`Guise.bare`), so two things that are equal there differ in nothing else. Casts of
effects that are equal there, in situations that are equal there, end alike (`castSequence_alike`).

**What it does not establish.** The ids of types are compared as they stand: two types of different ids
are different here, also when the rules treat their entities in the same way.
-/

namespace Skirmish

variable {α β : Type} {g : Guise}

def Action.wear (g : Guise) : Action → Action
  | .modification spot kind => .modification spot (g.tile kind)
  | .spawn spot kind => .spawn spot (g.entity kind)
  | action => action

mutual

def Effect.wear (g : Guise) : Effect → Effect
  | .act action => .act (action.wear g)
  | .group members newTarget parallel effects =>
    .group members newTarget (g.parallel parallel) (Effect.wearAll g effects)

def Effect.wearAll (g : Guise) : List Effect → List Effect
  | [] => []
  | effect :: effects => effect.wear g :: Effect.wearAll g effects

end

/-- Names are bound to the same targets in every guise. -/
def Situation.wear (g : Guise) (s : Situation) : Situation := { s with context := s.context.wear g }

namespace Cast

/-- `m'` does in the guise what `m` does without; `f` says how the answer wears it. -/
def Worn (g : Guise) (f : α → α) (m m' : Cast α) : Prop :=
  ∀ s : Situation, m' (s.wear g) = through f (Situation.wear g) (m s)

theorem worn_pure {f : α → α} {a a' : α} (same : a' = f a) : Worn g f (pure a) (pure a') := by
  intro s
  rw [same]
  rfl

theorem Worn.bind {f : α → α} {h : β → β} {m m' : Cast α} {k k' : α → Cast β} (first : Worn g f m m')
    (next : ∀ a, Worn g h (k a) (k' (f a))) : Worn g h (m >>= k) (m' >>= k') := by
  intro s
  show EStateM.bind m' k' (s.wear g) = through h _ (EStateM.bind m k s)
  rw [EStateM.bind, EStateM.bind, first s]
  cases m s with
  | error e s' => rfl
  | ok a s' => exact next a s'

theorem worn_resolve (look : Scopes → Except TargetError α) : Worn g id (resolve look) (resolve look) := by
  intro s
  unfold resolve
  rw [show (s.wear g).scopes = s.scopes from rfl]
  cases look s.scopes <;> rfl

theorem worn_name (name : String) (target : Target) : Worn g id (bind name target) (bind name target) := by
  intro s
  unfold Cast.bind
  rw [show (s.wear g).scopes = s.scopes from rfl]
  cases s.scopes.bind name target <;> rfl

theorem worn_world : Worn g (World.wear g) world world := fun _ => rfl

theorem worn_submit (event : Event) :
    Worn g (Option.map (Log.wear g)) (submit event) (submit (event.wear g)) := by
  intro s
  have resolved : (s.wear g).context.process (event.wear g) = _ := Context.process_wear event s.context
  unfold submit
  rw [resolved]
  cases s.context.process event <;> rfl

theorem Worn.inChild {f : α → α} {m m' : Cast α} (worn : Worn g f m m') :
    Worn g f (inChild m) (inChild m') := by
  intro s
  have body : m' { s.wear g with scopes := (s.wear g).scopes.child } = _ :=
    worn { s with scopes := s.scopes.child }
  unfold Cast.inChild
  rw [body]
  cases m { s with scopes := s.scopes.child } <;> rfl

theorem worn_credited (name : Option String) : Worn g id (credited name) (credited name) := by
  cases name with
  | none => exact worn_pure rfl
  | some name =>
    have resolved : Worn g id (do let id ← resolve (·.entity name); pure (some id))
        (do let id ← resolve (·.entity name); pure (some id)) :=
      (worn_resolve _).bind fun id => worn_pure rfl
    rw [← map_eq_pure_bind] at resolved
    exact resolved

theorem worn_submitAt (name : String) {event event' : Coords → Event}
    (same : ∀ spot, event' spot = (event spot).wear g) :
    Worn g (Option.map (Log.wear g)) (submitAt name event) (submitAt name event') := by
  refine (worn_resolve _).bind fun location => worn_world.bind fun w => ?_
  rw [id_eq, World.locate_wear]
  cases w.locate location with
  | none => exact worn_pure rfl
  | some spot =>
    dsimp only
    rw [same]
    exact worn_submit (event spot)

theorem worn_mapM {each each' : α → Cast Log} (worn : ∀ a, Worn g (Log.wear g) (each a) (each' a))
    (members : List α) : Worn g (Log.wearAll g) (members.mapM each) (members.mapM each') := by
  induction members with
  | nil => exact worn_pure rfl
  | cons a members ih =>
    rw [List.mapM_cons, List.mapM_cons]
    exact (worn a).bind fun log => ih.bind fun logs => worn_pure rfl

end Cast

open Cast

theorem Action.cast_wear (action : Action) :
    Worn g (Option.map (Log.wear g)) action.cast (action.wear g).cast := by
  cases action with
  | damage target attacker amount =>
    exact (worn_resolve _).bind fun _ => (worn_credited attacker).bind fun _ => worn_submit (.damage ..)
  | healing target healer amount =>
    exact (worn_resolve _).bind fun _ => (worn_credited healer).bind fun _ => worn_submit (.heal ..)
  | destruction target => exact (worn_resolve _).bind fun _ => worn_submit (.destroy _)
  | modification spot kind => exact worn_submitAt spot fun _ => rfl
  | spawn spot kind => exact worn_submitAt spot fun _ => rfl
  | movement entity goal relative =>
    refine (worn_resolve _).bind fun mover => ?_
    cases relative with
    | true => exact (worn_resolve _).bind fun offset => worn_submit (.move mover offset true)
    | false => exact worn_submitAt goal fun _ => rfl
  | projectile source target =>
    exact (worn_resolve _).bind fun _ => (worn_resolve _).bind fun _ => worn_submit (.projectile ..)
  | areaTarget source radius newGroup =>
    refine (worn_resolve _).bind fun location => worn_world.bind fun w => ?_
    -- Who stands within a radius is the same in the guise.
    rw [id_eq, World.locate_wear, World.board_wear]
    simp only [Board.within_wear]
    exact (worn_name newGroup _).bind fun _ => worn_pure rfl

mutual

theorem Effect.cast_wear : (effect : Effect) →
    Worn g (Option.map (Log.wear g)) effect.cast (effect.wear g).cast
  | .act action => by
    rw [Effect.wear, Effect.cast, Effect.cast]
    exact action.cast_wear
  | .group members newTarget parallel effects => by
    rw [Effect.wear, Effect.cast, Effect.cast]
    have nested := castAll_wear effects
    refine (worn_resolve _).bind fun ids => ?_
    refine (worn_mapM (fun member => ?_) ids).bind fun logs => worn_pure ?_
    · refine Worn.inChild ((worn_name newTarget _).bind fun _ => nested.bind fun logs => worn_pure ?_)
      rw [Log.wear, g.sequence]
    · rw [Option.map_some, Log.wear]

/-- **A cast does the same in every guise**, in success and failure. -/
theorem castAll_wear : (effects : List Effect) →
    Worn g (Log.wearAll g) (castAll effects) (castAll (Effect.wearAll g effects))
  | [] => by
    rw [Effect.wearAll, castAll]
    exact worn_pure rfl
  | effect :: effects => by
    rw [Effect.wearAll, castAll, castAll]
    refine (effect.cast_wear).bind fun log => (castAll_wear effects).bind fun logs => worn_pure ?_
    cases log <;> rfl

end

theorem castSequence_wear (effects : List Effect) :
    Worn g (Log.wear g) (castSequence effects) (castSequence (Effect.wearAll g effects)) := by
  refine (castAll_wear effects).bind fun logs => worn_pure ?_
  rw [Log.wear, g.sequence]

def Ability.wear (g : Guise) (a : Ability) : Ability := { a with effects := Effect.wearAll g a.effects }

theorem Ability.cast_wear (ability : Ability) (caster : EntityId) (target : Option Target) (c : Context) :
    (ability.wear g).cast caster target (c.wear g) =
      through (Log.wear g) (Context.wear g) (ability.cast caster target c) := by
  have effects : castSequence (Effect.wearAll g ability.effects) ⟨.ofCast caster target, c.wear g⟩ =
      through (Log.wear g) (Situation.wear g) (castSequence ability.effects ⟨.ofCast caster target, c⟩) :=
    castSequence_wear ability.effects ⟨.ofCast caster target, c⟩
  unfold Ability.cast
  show EStateM.bind (Cast.within _ (castSequence (Effect.wearAll g ability.effects))) _ (c.wear g) =
    through (Log.wear g) (Context.wear g) (EStateM.bind (Cast.within _ (castSequence ability.effects)) _ c)
  unfold EStateM.bind Cast.within
  rw [effects]
  cases castSequence ability.effects ⟨.ofCast caster target, c⟩ with
  | error e s => rfl
  | ok log s =>
    refine congrArg (EStateM.Result.ok · _) ?_
    simp only [Log.wear, Log.wearAll, g.sequence]
    rfl

/-! ## The bare guise -/

/-- **The bare guise**, without names, without visual tags, and with nothing to be shown at once. -/
def Guise.bare : Guise where
  tile k := { k with name := "", visuals := "" }
  entity k := { k with name := "" }
  parallel _ := false
  blocked _ := rfl
  domain _ := rfl
  isAgent _ := rfl
  maxHealth _ := rfl
  sequence := rfl

/-- Situations that differ in nothing but the presentation of types. -/
structure Situation.Alike (s s' : Situation) : Prop where
  scopes : s.scopes = s'.scopes
  world : s.context.arena.world.wear .bare = s'.context.arena.world.wear .bare
  turns : s.context.arena.turns = s'.context.arena.turns
  /-- The pending events, and the limit of the cascade. -/
  stack : s.context.stack.wear .bare = s'.context.stack.wear .bare

namespace Situation

variable {s s' : Situation}

theorem alike_iff : s.Alike s' ↔ s.wear .bare = s'.wear .bare := by
  obtain ⟨scopes, ⟨world, turns⟩, stack⟩ := s
  obtain ⟨scopes', ⟨world', turns'⟩, stack'⟩ := s'
  constructor
  · rintro ⟨rfl, world, rfl, stack⟩
    simp only [wear, Context.wear, Arena.wear, world, stack]
  · intro same
    simp only [wear, Context.wear, Arena.wear, mk.injEq, Context.mk.injEq, Arena.mk.injEq] at same
    obtain ⟨scopes, ⟨world, turns⟩, stack⟩ := same
    exact ⟨scopes, world, turns, stack⟩

end Situation

/-- Ends of casts that differ in nothing but presentation: both succeed, or both fail with one error. -/
inductive EndAlike : EStateM.Result CastError Situation Log → EStateM.Result CastError Situation Log → Prop where
  | ok {log log' : Log} {s s' : Situation} (logs : log.wear .bare = log'.wear .bare) (alike : s.Alike s') :
      EndAlike (.ok log s) (.ok log' s')
  | error (e : CastError) {s s' : Situation} (alike : s.Alike s') : EndAlike (.error e s) (.error e s')

/-- Results that are one in the bare guise. -/
theorem endAlike_of_bare {r r' : EStateM.Result CastError Situation Log}
    (same : through (Log.wear .bare) (Situation.wear .bare) r =
      through (Log.wear .bare) (Situation.wear .bare) r') : EndAlike r r' := by
  cases r with
  | ok log t =>
    cases r' with
    | error e' t' => cases same
    | ok log' t' =>
      obtain ⟨logs, situations⟩ := EStateM.Result.ok.inj same
      exact .ok logs (Situation.alike_iff.mpr situations)
  | error e t =>
    cases r' with
    | ok log' t' => cases same
    | error e' t' =>
      obtain ⟨rfl, situations⟩ := EStateM.Result.error.inj same
      exact .error e (Situation.alike_iff.mpr situations)

/-- **Presentation decides nothing.** Casts of effects that differ only in the presentation of the types
that they carry and in the flags of their groups, begun in situations that differ only in presentation,
both succeed or both fail with the same error. The situations after them differ only in presentation, and
so do their logs. -/
theorem castSequence_alike {effects effects' : List Effect} {s s' : Situation}
    (same : Effect.wearAll .bare effects = Effect.wearAll .bare effects') (alike : s.Alike s') :
    EndAlike (castSequence effects s) (castSequence effects' s') := by
  apply endAlike_of_bare
  rw [← castSequence_wear effects s, ← castSequence_wear effects' s', same, Situation.alike_iff.mp alike]

namespace Game.Sample

/-- The knight of the camp about to raise its uproar. -/
def aim (limit : Nat) : Situation :=
  ⟨.ofCast ⟨0⟩ (some (.coords ⟨1, 1⟩)), .idle (camp ⟨limit⟩).arena limit⟩

/-- The sample told in capitals, with nothing to be shown at once. -/
def loud : Guise where
  tile k := { k with name := "LOUD", visuals := "LOUD" }
  entity k := { k with name := "LOUD" }
  parallel _ := false
  blocked _ := rfl
  domain _ := rfl
  isAgent _ := rfl
  maxHealth _ := rfl
  sequence := rfl

end Game.Sample

open Game in
/-- The uproar told loudly, in a camp that looks different: it succeeds too, and ends alike. -/
theorem castSequence_alike_loud :
    Effect.wearAll Sample.loud Sample.uproar.effects ≠ Sample.uproar.effects ∧
    (Sample.aim 64).wear Sample.loud ≠ Sample.aim 64 ∧
    ∃ log t log' t', castSequence Sample.uproar.effects (Sample.aim 64) = .ok log t ∧
      castSequence (Effect.wearAll Sample.loud Sample.uproar.effects) ((Sample.aim 64).wear Sample.loud) =
        .ok log' t' ∧ log.wear .bare = log'.wear .bare ∧ t.Alike t' := by
  have same : Effect.wearAll .bare Sample.uproar.effects =
      Effect.wearAll .bare (Effect.wearAll Sample.loud Sample.uproar.effects) := by decide +kernel
  have world : (Sample.aim 64).context.arena.world.wear .bare =
      ((Sample.aim 64).wear Sample.loud).context.arena.world.wear .bare := by decide +kernel
  have alike : (Sample.aim 64).Alike ((Sample.aim 64).wear Sample.loud) := ⟨rfl, world, rfl, rfl⟩
  have succeeds : (match castSequence Sample.uproar.effects (Sample.aim 64) with
      | .ok .. => true
      | .error .. => false) = true := by decide +kernel
  have ends := castSequence_alike same alike
  refine ⟨by decide +kernel, by decide +kernel, ?_⟩
  generalize castSequence Sample.uproar.effects (Sample.aim 64) = r at succeeds ends ⊢
  generalize castSequence _ ((Sample.aim 64).wear Sample.loud) = r' at ends ⊢
  cases ends with
  | ok logs ends => exact ⟨_, _, _, _, rfl, rfl, logs, ends⟩
  | error e _ => cases succeeds

end Skirmish
