import Skirmish.Proofs.Casting.Traced

/-!
# What every cast has

A cast is made of a few parts: names are resolved and bound, the world is read, events are submitted,
scopes are opened and left. A property of casts may speak of the names that a cast binds in its own
scope. It is **graded** when each part has it with the names of that part, and when a cast made of
others has it with their names one after the other (`Cast.Graded`). Every cast of effects has every
graded property with the names of its areas, however its effects are nested (`Graded.castAll`): this is
the one induction over effects for all properties of this form.

A property that speaks of no names is **closed** when each part has it and a cast made of others has it
as soon as they do (`Cast.Closed`). An invariant of the context is the first example: whatever every
resolution of an event keeps, in success and failure, every cast keeps (`keeps_closed`).
-/

namespace Skirmish

/-! ## The names of areas -/

/-- The names that an action binds: an area binds its group. -/
def Action.areas : Action → List String
  | areaTarget _ _ newGroup => [newGroup]
  | _ => []

/-- The names that an effect binds in the scope that it is cast in. What a group binds is bound in the
scopes of its members. -/
def Effect.areas : Effect → List String
  | act action => action.areas
  | group .. => []

/-- The names that effects in a row bind in the scope that they are cast in, in their order. -/
def Effect.areasAll (effects : List Effect) : List String := effects.flatMap areas

namespace Cast

/-- **Graded properties of casts**: of a cast with the names that it binds in its own scope, in their
order. -/
structure Graded (P : List String → {α : Type} → Cast α → Prop) : Prop where
  pure : ∀ {α : Type} (a : α), P [] (Pure.pure a : Cast α)
  bind : ∀ {α β : Type} {names names' : List String} {m : Cast α} {k : α → Cast β},
    P names m → (∀ a, P names' (k a)) → P (names ++ names') (m >>= k)
  entity : ∀ name : String, P [] (resolve (·.entity name))
  coords : ∀ name : String, P [] (resolve (·.coords name))
  group : ∀ name : String, P [] (resolve (·.group name))
  location : ∀ name : String, P [] (resolve (·.location name))
  name : ∀ (name : String) (target : Target), P [name] (Cast.bind name target)
  world : P [] world
  submit : ∀ event : Event, P [] (submit event)
  inChild : ∀ {α : Type} {names : List String} {m : Cast α}, P names m → P [] (inChild m)

namespace Graded

variable {P : List String → {α : Type} → Cast α → Prop} {α β : Type} {names : List String}
  {m : Cast α} {k : α → Cast β}

/-- What binds no name may come first. -/
theorem after (graded : Graded P) (first : P [] m) (second : ∀ a, P names (k a)) : P names (m >>= k) :=
  graded.bind first second

/-- What binds no name may come last. -/
theorem before (graded : Graded P) (first : P names m) (second : ∀ a, P [] (k a)) : P names (m >>= k) := by
  have both := graded.bind first second
  rw [List.append_nil] at both
  exact both

theorem credited (graded : Graded P) (name : Option String) : P [] (credited name) := by
  cases name with
  | none => exact graded.pure none
  | some name =>
    have resolved : P [] (do let id ← Cast.resolve (·.entity name); Pure.pure (some id)) :=
      graded.after (graded.entity name) fun id => graded.pure (some id)
    rw [← map_eq_pure_bind] at resolved
    exact resolved

theorem submitAt (graded : Graded P) (name : String) (event : Coords → Event) :
    P [] (submitAt name event) := by
  apply graded.after (graded.location name)
  intro location
  apply graded.after graded.world
  intro world
  cases world.locate location with
  | none => exact graded.pure none
  | some spot => exact graded.submit (event spot)

theorem mapM (graded : Graded P) {each : α → Cast β} (all : ∀ a, P [] (each a)) (members : List α) :
    P [] (members.mapM each) := by
  induction members with
  | nil => exact graded.pure []
  | cons a members ih =>
    rw [List.mapM_cons]
    apply graded.after (all a)
    intro b
    apply graded.after ih
    intro bs
    exact graded.pure (b :: bs)

theorem action (graded : Graded P) (action : Action) : P action.areas action.cast := by
  cases action with
  | damage target attacker amount =>
    apply graded.after (graded.entity target)
    intro target
    apply graded.after (graded.credited attacker)
    intro attacker
    exact graded.submit _
  | healing target healer amount =>
    apply graded.after (graded.entity target)
    intro target
    apply graded.after (graded.credited healer)
    intro healer
    exact graded.submit _
  | destruction target =>
    apply graded.after (graded.entity target)
    intro target
    exact graded.submit _
  | modification spot kind => exact graded.submitAt spot _
  | spawn spot kind => exact graded.submitAt spot _
  | movement entity goal relative =>
    apply graded.after (graded.entity entity)
    intro entity
    cases relative with
    | true =>
      apply graded.after (graded.coords goal)
      intro offset
      exact graded.submit _
    | false => exact graded.submitAt goal _
  | projectile source target =>
    apply graded.after (graded.location source)
    intro source
    apply graded.after (graded.location target)
    intro target
    exact graded.submit _
  | areaTarget source radius newGroup =>
    apply graded.after (graded.location source)
    intro location
    apply graded.after graded.world
    intro world
    apply graded.before (graded.name newGroup _)
    intro _
    exact graded.pure none

mutual

theorem effect (graded : Graded P) : (effect : Effect) → P effect.areas effect.cast
  | .act action => by
    rw [Effect.cast]
    exact graded.action action
  | .group members newTarget parallel effects => by
    rw [Effect.cast]
    apply graded.after (graded.group members)
    intro ids
    have each : ∀ id, P [] (Cast.inChild do
        Cast.bind newTarget (.entity id)
        let logs ← Skirmish.castAll effects
        Pure.pure (Log.combined false logs)) := by
      intro id
      -- the name of the member and the areas inside are bound in a scope that is left
      apply graded.inChild
      apply graded.bind (graded.name newTarget _)
      intro _
      apply graded.before (graded.castAll effects)
      intro logs
      exact graded.pure _
    apply graded.after (graded.mapM each ids)
    intro logs
    exact graded.pure _

/-- **Every cast of effects has every graded property**, with the names of its areas. -/
theorem castAll (graded : Graded P) : (effects : List Effect) → P (Effect.areasAll effects) (castAll effects)
  | [] => by
    rw [Skirmish.castAll]
    exact graded.pure []
  | effect :: effects => by
    rw [Skirmish.castAll]
    apply graded.bind (graded.effect effect)
    intro log
    apply graded.before (graded.castAll effects)
    intro logs
    exact graded.pure _

end

theorem castSequence (graded : Graded P) (effects : List Effect) :
    P (Effect.areasAll effects) (castSequence effects) := by
  apply graded.before (graded.castAll effects)
  intro logs
  exact graded.pure _

end Graded

/-- **Closed properties of casts.** -/
structure Closed (P : {α : Type} → Cast α → Prop) : Prop where
  pure : ∀ {α : Type} (a : α), P (Pure.pure a : Cast α)
  bind : ∀ {α β : Type} {m : Cast α} {k : α → Cast β}, P m → (∀ a, P (k a)) → P (m >>= k)
  resolve : ∀ {α : Type} (look : Scopes → Except TargetError α), P (resolve look)
  name : ∀ (name : String) (target : Target), P (Cast.bind name target)
  world : P world
  submit : ∀ event : Event, P (submit event)
  inChild : ∀ {α : Type} {m : Cast α}, P m → P (inChild m)

namespace Closed

variable {P : {α : Type} → Cast α → Prop}

theorem graded (closed : Closed P) : Graded (fun _ => @P) where
  pure := closed.pure
  bind := closed.bind
  entity _ := closed.resolve _
  coords _ := closed.resolve _
  group _ := closed.resolve _
  location _ := closed.resolve _
  name := closed.name
  world := closed.world
  submit := closed.submit
  inChild := closed.inChild

/-- **Every cast of effects has every closed property.** -/
theorem castSequence (closed : Closed P) (effects : List Effect) : P (castSequence effects) :=
  closed.graded.castSequence effects

end Closed

end Cast

/-! ## Invariants of the context -/

/-- Whether the resolution of every event keeps a property of the context, in success and failure. -/
def Context.Stable (I : Context → Prop) : Prop := ∀ (event : Event) (c : Context), I c →
  Ensures (c.process event) (fun _ c' => I c') (fun _ c' => I c')

namespace Cast

variable {I : Context → Prop} {α : Type}

/-- A cast that keeps a property of the context, in success and failure. -/
def Keeps (I : Context → Prop) (m : Cast α) : Prop := ∀ s : Situation, I s.context →
  Ensures (m s) (fun _ s' => I s'.context) (fun _ s' => I s'.context)

theorem Quiet.keeps {m : Cast α} (quiet : Quiet m) : Keeps I m := by
  intro s holds
  apply (quiet s).mono
  · intro _ s' same
    exact same ▸ holds
  · intro _ s' same
    exact same ▸ holds

/-- **What every resolution of an event keeps, every cast keeps.** -/
theorem keeps_closed (stable : Context.Stable I) : Closed (Keeps I) where
  pure a s holds := ensures_pure.mpr holds
  bind first second s holds := by
    apply ensures_bind.mpr
    apply (first s holds).mono
    · intro a s' holds'
      exact second a s' holds'
    · intro _ s' holds'
      exact holds'
  resolve look := (quiet_resolve look).keeps
  name name target := (quiet_bind name target).keeps
  world := quiet_world.keeps
  submit event s holds := by
    have resolved := stable event s.context holds
    unfold submit
    revert resolved
    cases s.context.process event <;> exact id
  inChild {α m} keeps s holds := by
    have body := keeps { s with scopes := s.scopes.child } holds
    unfold inChild
    revert body
    cases m { s with scopes := s.scopes.child } <;> exact id

end Cast

theorem Ability.cast_keeps {I : Context → Prop} (stable : Context.Stable I) (ability : Ability)
    (caster : EntityId) (target : Option Target) {c : Context} (holds : I c) :
    Ensures (ability.cast caster target c) (fun _ c' => I c') (fun _ c' => I c') := by
  exact Ability.ensures_cast.mpr ((Cast.keeps_closed stable).castSequence ability.effects _ holds)

end Skirmish
