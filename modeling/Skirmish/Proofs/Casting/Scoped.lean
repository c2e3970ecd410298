import Skirmish.Proofs.Arena.Cascades
import Skirmish.Proofs.Game.Runs

/-!
# Well-scoped effects

What an effect asks of a name is settled by the kind of what the name is bound to, and never by the
value. So the kinds alone say whether effects can be cast: `Effect.ScopedAll` reads a list of effects
against the kinds of a chain of scopes. The kinds grow along the list, since an area binds its group
for what follows; the list inside a group is read in a scope of its own, with the member as an entity.

**The law** (`castSequence_scoped`): well-scoped effects resolve every name that they use, from every
arena, whoever lives, dies or was never there. With room for a reaction their cast answers. Without
room it may also fail for the depth of a cascade; it never fails for a target.

The proof carries one predicate along a cast, with the kinds before and after it (`Cast.Safe`); each
part of a cast has a rule, and the induction over effects puts the rules together.

**What it does not establish.** The converse is false: an empty group never casts what stands inside
it, so that broken effects may answer.
-/

namespace Skirmish

/-- The kinds of what is bound in a chain of scopes. -/
structure ScopeKinds where
  /-- The kinds of the names of the innermost scope. -/
  own : List (String × TargetKind)
  /-- The kinds of the names of the enclosing scopes, from the inside out. -/
  outer : List (List (String × TargetKind))
  deriving DecidableEq, Repr, Inhabited

namespace ScopeKinds

/-- The kind of what the innermost scope that knows a name binds it to. -/
def get? (k : ScopeKinds) (name : String) : Option TargetKind :=
  (k.own :: k.outer).findSome? (·.lookup name)

/-- Whether a name is bound to an entity, a coordinate or a group, as asked. -/
def Binds (k : ScopeKinds) (name : String) (kind : TargetKind) : Prop := k.get? name = some kind

/-- Whether a name is bound to an entity or a coordinate. -/
def BindsPlace (k : ScopeKinds) (name : String) : Prop := k.Binds name .entity ∨ k.Binds name .coords

/-- One more name bound in the innermost scope. -/
def add (k : ScopeKinds) (name : String) (kind : TargetKind) : ScopeKinds :=
  { k with own := k.own ++ [(name, kind)] }

/-- An empty scope opened inside. -/
def child (k : ScopeKinds) : ScopeKinds := ⟨[], k.own :: k.outer⟩

instance (k : ScopeKinds) (name : String) (kind : TargetKind) : Decidable (k.Binds name kind) :=
  inferInstanceAs (Decidable (_ = _))

instance (k : ScopeKinds) (name : String) : Decidable (k.BindsPlace name) :=
  inferInstanceAs (Decidable (_ ∨ _))

end ScopeKinds

/-- The kinds of what a scope binds. -/
def Bindings.kinds (bindings : Bindings) : List (String × TargetKind) :=
  bindings.map fun b => (b.1, b.2.kind)

/-- The kinds of what a chain of scopes binds. -/
def Scopes.kinds (s : Scopes) : ScopeKinds := ⟨Bindings.kinds s.own, s.outer.map Bindings.kinds⟩

/-! ## Well-scoped effects -/

/-- Whether an action finds what it needs under every name that it uses. -/
def Action.Scoped (k : ScopeKinds) : Action → Prop
  | .damage target attacker _ => k.Binds target .entity ∧ ∀ name ∈ attacker, k.Binds name .entity
  | .healing target healer _ => k.Binds target .entity ∧ ∀ name ∈ healer, k.Binds name .entity
  | .destruction target => k.Binds target .entity
  | .modification spot _ => k.BindsPlace spot
  | .spawn spot _ => k.BindsPlace spot
  | .movement entity goal relative =>
    k.Binds entity .entity ∧ if relative then k.Binds goal .coords else k.BindsPlace goal
  | .projectile source target => k.BindsPlace source ∧ k.BindsPlace target
  | .areaTarget source _ newGroup => k.BindsPlace source ∧ k.own.lookup newGroup = none

/-- The kinds for what follows an action. -/
def Action.after (k : ScopeKinds) : Action → ScopeKinds
  | .areaTarget _ _ newGroup => k.add newGroup .group
  | _ => k

/-- The kinds for what follows an effect: a group leaves nothing behind. -/
def Effect.after (k : ScopeKinds) : Effect → ScopeKinds
  | .act action => action.after k
  | .group .. => k

/-- The kinds for what follows effects in a row. -/
def Effect.afterAll (k : ScopeKinds) (effects : List Effect) : ScopeKinds := effects.foldl Effect.after k

mutual

/-- **Well-scoped effects.** -/
def Effect.Scoped (k : ScopeKinds) : Effect → Prop
  | .act action => action.Scoped k
  | .group members newTarget _ effects =>
    k.Binds members .group ∧ Effect.ScopedAll (k.child.add newTarget .entity) effects

/-- **Well-scoped lists of effects**: each effect is read with what those before it have bound. -/
def Effect.ScopedAll (k : ScopeKinds) : List Effect → Prop
  | [] => True
  | effect :: effects => effect.Scoped k ∧ Effect.ScopedAll (effect.after k) effects

end

instance Action.decScoped (k : ScopeKinds) : (action : Action) → Decidable (action.Scoped k)
  | .damage .. | .healing .. | .projectile .. | .areaTarget .. => inferInstanceAs (Decidable (_ ∧ _))
  | .destruction target => inferInstanceAs (Decidable (k.Binds target .entity))
  | .modification spot _ | .spawn spot _ => inferInstanceAs (Decidable (k.BindsPlace spot))
  | .movement _ _ true | .movement _ _ false => inferInstanceAs (Decidable (_ ∧ _))

mutual

instance Effect.decScoped (k : ScopeKinds) : (effect : Effect) → Decidable (effect.Scoped k)
  | .act action => action.decScoped k
  | .group _ newTarget _ effects =>
    have := Effect.decScopedAll (k.child.add newTarget .entity) effects
    inferInstanceAs (Decidable (_ ∧ _))

instance Effect.decScopedAll (k : ScopeKinds) :
    (effects : List Effect) → Decidable (Effect.ScopedAll k effects)
  | [] => isTrue trivial
  | effect :: effects =>
    have := effect.decScoped k
    have := Effect.decScopedAll (effect.after k) effects
    inferInstanceAs (Decidable (_ ∧ _))

end

/-! ## Kinds and what they promise -/

namespace Scopes

variable {s : Scopes} {name : String}

theorem lookup_kinds (bindings : Bindings) (name : String) :
    (Bindings.kinds bindings).lookup name = (bindings.lookup name).map Target.kind := by
  induction bindings with
  | nil => rfl
  | cons b bindings ih =>
    rw [Bindings.kinds, List.map_cons, List.lookup_cons, List.lookup_cons]
    cases name == b.1 with
    | true => rfl
    | false => exact ih

theorem get?_kinds (s : Scopes) (name : String) : s.kinds.get? name = (s.get? name).map Target.kind := by
  have lookups : (List.lookup name ∘ Bindings.kinds) = Option.map Target.kind ∘ List.lookup name := by
    funext bindings
    exact lookup_kinds bindings name
  rw [get?, List.map_findSome?, ← lookups, ← List.findSome?_map]
  rfl

/-- A name of a kind can be asked as whatever all targets of the kind are. -/
theorem ask_of_binds {α : Type} {kind : TargetKind} (bound : s.kinds.Binds name kind)
    (expected : TargetKind) {view : Target → Option α}
    (views : ∀ target : Target, target.kind = kind → ∃ a, view target = some a) :
    ∃ a, s.ask expected view name = .ok a := by
  rw [ScopeKinds.Binds, get?_kinds, Option.map_eq_some_iff] at bound
  obtain ⟨target, found, same⟩ := bound
  obtain ⟨a, seen⟩ := views target same
  refine ⟨a, ?_⟩
  rw [ask, found]
  dsimp only
  rw [seen]

theorem entity_of_binds (bound : s.kinds.Binds name .entity) : ∃ id, s.entity name = .ok id := by
  apply ask_of_binds bound
  intro target kind
  cases target with
  | entity id => exact ⟨id, rfl⟩
  | coords | group => cases kind

theorem coords_of_binds (bound : s.kinds.Binds name .coords) : ∃ spot, s.coords name = .ok spot := by
  apply ask_of_binds bound
  intro target kind
  cases target with
  | coords spot => exact ⟨spot, rfl⟩
  | entity | group => cases kind

theorem group_of_binds (bound : s.kinds.Binds name .group) : ∃ members, s.group name = .ok members := by
  apply ask_of_binds bound
  intro target kind
  cases target with
  | group members => exact ⟨members, rfl⟩
  | entity | coords => cases kind

theorem location_of_binds (bound : s.kinds.BindsPlace name) : ∃ place, s.location name = .ok place := by
  have views : ∀ target : Target, target.kind ≠ .group → ∃ place, target.location? = some place := by
    intro target single
    cases target with
    | entity id => exact ⟨.entity id, rfl⟩
    | coords spot => exact ⟨.coords spot, rfl⟩
    | group members => exact absurd rfl single
  rcases bound with bound | bound
  all_goals
    apply ask_of_binds bound
    intro target kind
    apply views
    rw [kind]
    nofun

theorem bind_of_unbound (unbound : s.kinds.own.lookup name = none) (target : Target) :
    ∃ s', s.bind name target = .ok s' ∧ s'.kinds = s.kinds.add name target.kind := by
  have free : s.own.lookup name = none := by
    rw [kinds, lookup_kinds, Option.map_eq_none_iff] at unbound
    exact unbound
  refine ⟨_, bind_eq_ok.mpr ⟨free, rfl⟩, ?_⟩
  simp only [kinds, Bindings.kinds, ScopeKinds.add, List.map_append, List.map_cons, List.map_nil]

/-- A scope is left for the one that it was opened in, whatever was bound in it. -/
theorem kinds_parent {k : ScopeKinds} (inside : s.kinds.outer = k.own :: k.outer) : s.parent.kinds = k := by
  obtain ⟨own, outer⟩ := s
  cases outer with
  | nil => cases inside
  | cons next outer =>
    obtain ⟨same, others⟩ := List.cons.inj inside
    show ScopeKinds.mk (Bindings.kinds next) (outer.map Bindings.kinds) = k
    rw [same, others]

end Scopes

theorem Effect.after_outer (k : ScopeKinds) (effect : Effect) : (effect.after k).outer = k.outer := by
  cases effect with
  | act action => cases action <;> rfl
  | group => rfl

theorem Effect.afterAll_outer (k : ScopeKinds) (effects : List Effect) :
    (Effect.afterAll k effects).outer = k.outer := by
  induction effects generalizing k with
  | nil => rfl
  | cons effect effects ih => exact (ih (effect.after k)).trans (effect.after_outer k)

/-! ## Safe casts -/

namespace Cast

variable {α β : Type} {limit : Nat} {k k' k'' : ScopeKinds}

/-- **Safe casts.** Begun in scopes of the kinds `before` with nothing pending, a safe cast answers in
scopes of the kinds `after` with nothing pending, or fails for want of room for a destruction. -/
def Safe (limit : Nat) (before after : ScopeKinds) (m : Cast α) : Prop :=
  ∀ (scopes : Scopes) (a : Arena), scopes.kinds = before → Ensures (m ⟨scopes, .idle a limit⟩)
    (fun _ s => s.scopes.kinds = after ∧ ∃ a', s.context = .idle a' limit)
    (fun e _ => limit = 0 ∧ e = .cascadeTooDeep 1 0)

theorem safe_pure (a : α) : Safe limit k k (pure a) := fun _ arena same => ⟨same, arena, rfl⟩

theorem safe_bind {m : Cast α} {f : α → Cast β} (first : Safe limit k k' m)
    (second : ∀ a, Safe limit k' k'' (f a)) : Safe limit k k'' (m >>= f) := by
  intro scopes arena same
  apply ensures_bind.mpr
  apply (first scopes arena same).mono
  · rintro a ⟨scopes', _⟩ ⟨same', arena', rfl⟩
    exact second a scopes' arena' same'
  · intro e s failed
    exact failed

theorem safe_resolve {look : Scopes → Except TargetError α}
    (finds : ∀ s : Scopes, s.kinds = k → ∃ a, look s = .ok a) : Safe limit k k (resolve look) := by
  intro scopes arena same
  obtain ⟨a, found⟩ := finds scopes same
  rw [resolve, show look (Situation.mk scopes (.idle arena limit)).scopes = .ok a from found]
  exact ⟨same, arena, rfl⟩

theorem safe_entity {name : String} (bound : k.Binds name .entity) :
    Safe limit k k (resolve (·.entity name)) := by
  apply safe_resolve
  rintro s rfl
  exact Scopes.entity_of_binds bound

theorem safe_location {name : String} (bound : k.BindsPlace name) :
    Safe limit k k (resolve (·.location name)) := by
  apply safe_resolve
  rintro s rfl
  exact Scopes.location_of_binds bound

theorem safe_name {name : String} (unbound : k.own.lookup name = none) (target : Target) :
    Safe limit k (k.add name target.kind) (Cast.bind name target) := by
  rintro scopes arena rfl
  obtain ⟨scopes', bound, kinds⟩ := Scopes.bind_of_unbound unbound target
  rw [Cast.bind, bound]
  exact ⟨kinds, arena, rfl⟩

theorem safe_world : Safe limit k k world := fun _ arena same => ⟨same, arena, rfl⟩

theorem safe_submit (event : Event) : Safe limit k k (submit event) := by
  intro scopes arena same
  have ends := Context.process_ends event arena limit
  unfold submit
  dsimp only
  revert ends
  cases Context.process event (.idle arena limit) with
  | ok log c => exact fun idle => ⟨same, idle⟩
  | error e c => exact fun ⟨shut, deep, _⟩ => ⟨shut, deep⟩

theorem safe_submitAt {name : String} (bound : k.BindsPlace name) (event : Coords → Event) :
    Safe limit k k (submitAt name event) := by
  apply safe_bind (safe_location bound)
  intro location
  apply safe_bind safe_world
  intro world
  cases world.locate location with
  | none => exact safe_pure none
  | some spot => exact safe_submit (event spot)

theorem safe_credited {name : Option String} (bound : ∀ n ∈ name, k.Binds n .entity) :
    Safe limit k k (credited name) := by
  cases name with
  | none => exact safe_pure none
  | some name =>
    have resolved : Safe limit k k (do let id ← resolve (·.entity name); pure (some id)) :=
      safe_bind (safe_entity (bound name rfl)) fun id => safe_pure (some id)
    rw [← map_eq_pure_bind] at resolved
    exact resolved

/-- What is bound in a scope of its own is gone when the scope is left. -/
theorem safe_inChild {m : Cast α} (safe : Safe limit k.child k' m) (inside : k'.outer = k.child.outer) :
    Safe limit k k (inChild m) := by
  rintro scopes arena rfl
  have body := safe scopes.child arena rfl
  unfold inChild
  revert body
  dsimp only
  cases m ⟨scopes.child, .idle arena limit⟩ with
  | error e s => exact id
  | ok a s =>
    rintro ⟨rfl, idle⟩
    exact ⟨Scopes.kinds_parent inside, idle⟩

theorem safe_mapM {each : α → Cast β} (safe : ∀ a, Safe limit k k (each a)) (members : List α) :
    Safe limit k k (members.mapM each) := by
  induction members with
  | nil => exact safe_pure []
  | cons a members ih =>
    rw [List.mapM_cons]
    apply safe_bind (safe a)
    intro b
    apply safe_bind ih
    intro bs
    exact safe_pure (b :: bs)

end Cast

/-! ## Well-scoped effects are cast safely -/

open Cast

variable {limit : Nat} {k : ScopeKinds}

theorem Action.cast_safe {action : Action} (well : action.Scoped k) :
    Safe limit k (action.after k) action.cast := by
  cases action with
  | damage target attacker amount =>
    apply safe_bind (safe_entity well.1)
    intro target
    apply safe_bind (safe_credited well.2)
    intro attacker
    exact safe_submit _
  | healing target healer amount =>
    apply safe_bind (safe_entity well.1)
    intro target
    apply safe_bind (safe_credited well.2)
    intro healer
    exact safe_submit _
  | destruction target =>
    apply safe_bind (safe_entity well)
    intro target
    exact safe_submit _
  | modification spot kind => exact safe_submitAt well _
  | spawn spot kind => exact safe_submitAt well _
  | movement entity goal relative =>
    apply safe_bind (safe_entity well.1)
    intro entity
    cases relative with
    | true =>
      apply safe_bind (safe_resolve _)
      · intro offset
        exact safe_submit _
      · rintro s rfl
        exact Scopes.coords_of_binds well.2
    | false => exact safe_submitAt well.2 _
  | projectile source target =>
    apply safe_bind (safe_location well.1)
    intro source
    apply safe_bind (safe_location well.2)
    intro target
    exact safe_submit _
  | areaTarget source radius newGroup =>
    apply safe_bind (safe_location well.1)
    intro location
    apply safe_bind safe_world
    intro world
    apply safe_bind (safe_name well.2 _)
    intro _
    exact safe_pure none

mutual

theorem Effect.cast_safe : (effect : Effect) → {k : ScopeKinds} → effect.Scoped k →
    Safe limit k (effect.after k) effect.cast
  | .act action, k, well => by
    rw [Effect.cast]
    exact Action.cast_safe well
  | .group members newTarget parallel effects, k, ⟨bound, nested⟩ => by
    rw [Effect.cast]
    apply safe_bind (safe_resolve fun s same => Scopes.group_of_binds (same ▸ bound))
    intro ids
    apply safe_bind
    · apply safe_mapM
      intro id
      refine safe_inChild ?_ (Effect.afterAll_outer (k.child.add newTarget .entity) effects)
      apply safe_bind (safe_name rfl (.entity id))
      intro _
      apply safe_bind (castAll_safe effects nested)
      intro logs
      exact safe_pure _
    · intro logs
      exact safe_pure _

/-- **Well-scoped effects are cast safely**, and bind what they say they bind. -/
theorem castAll_safe : (effects : List Effect) → {k : ScopeKinds} → Effect.ScopedAll k effects →
    Safe limit k (Effect.afterAll k effects) (castAll effects)
  | [], k, _ => by
    rw [castAll]
    exact safe_pure []
  | effect :: effects, k, ⟨well, others⟩ => by
    rw [castAll]
    apply safe_bind (effect.cast_safe well)
    intro log
    apply safe_bind (castAll_safe effects others)
    intro logs
    exact safe_pure _

end

/-- **Well-scoped effects resolve all their names**, from every arena: with room for a reaction their
cast answers, without room it answers or fails for the destruction that has none, and under no limit
does it fail for a target. -/
theorem castSequence_scoped {effects : List Effect} {scopes : Scopes}
    (well : Effect.ScopedAll scopes.kinds effects) (a : Arena) :
    (∀ limit, 1 ≤ limit → ∃ log s, castSequence effects ⟨scopes, .idle a limit⟩ = .ok log s) ∧
    ((∃ log s, castSequence effects ⟨scopes, .idle a 0⟩ = .ok log s) ∨
      ∃ s, castSequence effects ⟨scopes, .idle a 0⟩ = .error (.cascadeTooDeep 1 0) s) ∧
    ∀ limit e s, castSequence effects ⟨scopes, .idle a limit⟩ ≠ .error (.target e) s := by
  have safe : ∀ limit, Safe limit scopes.kinds (Effect.afterAll scopes.kinds effects)
      (castSequence effects) := by
    intro limit
    apply safe_bind (castAll_safe effects well)
    intro logs
    exact safe_pure _
  refine ⟨?_, ?_, ?_⟩
  · intro limit room
    have ends := safe limit scopes a rfl
    cases result : castSequence effects ⟨scopes, .idle a limit⟩ with
    | ok log s => exact ⟨log, s, rfl⟩
    | error e s =>
      rw [result] at ends
      exact absurd ends.1 (Nat.ne_of_gt room)
  · have ends := safe 0 scopes a rfl
    cases result : castSequence effects ⟨scopes, .idle a 0⟩ with
    | ok log s => exact .inl ⟨log, s, rfl⟩
    | error e s =>
      rw [result] at ends
      obtain ⟨-, rfl⟩ := ends
      exact .inr ⟨s, rfl⟩
  · intro limit e s failed
    have ends := safe limit scopes a rfl
    rw [failed] at ends
    exact nomatch ends.2

namespace Game.Sample

/-- Strikes everybody near, and then moves all who are near the victim to it. The inner group takes the
name of the caster for itself, and the outer name of the area is bound once more inside. -/
def melee : List Effect :=
  [.act (.areaTarget "caster" 2 "near"),
   .group "near" "victim" true
    [.act (.damage "victim" (some "caster") (.flat 2)),
     .act (.areaTarget "victim" 1 "near"),
     .group "near" "caster" false [.act (.movement "caster" "victim" false)]],
   .act (.spawn "target" wolf)]

end Game.Sample

/-- The melee is well scoped. The wolf dies of the first stroke, and is asked for its place afterwards;
a stranger's melee finds nobody. -/
theorem castSequence_scoped_melee :
    let spot : Target := .coords ⟨1, 1⟩
    let a := (Game.Sample.camp .usual).arena
    Effect.ScopedAll (Scopes.ofCast ⟨0⟩ (some spot)).kinds Game.Sample.melee ∧
      (∃ log s, castSequence Game.Sample.melee ⟨.ofCast ⟨0⟩ (some spot), .idle a 1⟩ = .ok log s) ∧
      ∃ log s, castSequence Game.Sample.melee ⟨.ofCast ⟨9⟩ (some spot), .idle a 1⟩ = .ok log s := by
  intro spot a
  have knight : Effect.ScopedAll (Scopes.ofCast ⟨0⟩ (some spot)).kinds Game.Sample.melee := by decide
  have stranger : Effect.ScopedAll (Scopes.ofCast ⟨9⟩ (some spot)).kinds Game.Sample.melee := by decide
  exact ⟨knight, (castSequence_scoped knight a).1 1 (Nat.le_refl 1),
    (castSequence_scoped stranger a).1 1 (Nat.le_refl 1)⟩

end Skirmish
