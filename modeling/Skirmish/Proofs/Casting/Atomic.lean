import Skirmish.Proofs.Casting.Bindings
import Skirmish.Proofs.Game.Limits

/-!
# Leaves of a cast

An effect that is no group resolves its names, all of them, and then does one thing: it submits an
event or, for an area, binds a name. So it has few ways to end.

**The law** (`Effect.leaf_atomic`): in an arena that arises in play a leaf that fails for a target leaves
everything as it was, the scopes, the world, the turn order and the stack; a leaf that makes no entry
leaves the world, the turn order and the stack as they were, and of the scopes at most the group of an
area is new. The one other way to fail is that of damage that fells where no reaction has room.

What comes before the one thing only looks (`Cast.Looks`); an event that makes no entry has changed nothing,
by its three endings (`Context.process_untold`).

**What it does not establish.** Damage without room for the destruction fails after it was dealt, and
a group may fail after some of its members were treated: neither is undone.
-/

namespace Skirmish

open Arena

namespace Scopes

/-! ## Groups that are left -/

/-- Scopes that have grown by groups of the given names. -/
def GrowsByGroups (s : Scopes) (names : List String) (s' : Scopes) : Prop :=
  ∃ groups : List (String × List EntityId), groups.map Prod.fst = names ∧
    s.Grows (groups.map fun g => (g.1, .group g.2)) s'

namespace GrowsByGroups

variable {s s' : Scopes} {name : String}

theorem refl (s : Scopes) : s.GrowsByGroups [] s := ⟨[], rfl, .refl s⟩

theorem of_bind {members : List EntityId} (bound : s.bind name (.group members) = .ok s') :
    s.GrowsByGroups [name] s' := ⟨[(name, members)], rfl, .of_bind bound⟩

theorem none (grown : s.GrowsByGroups [] s') : s' = s := by
  obtain ⟨groups, named, grows⟩ := grown
  cases List.map_eq_nil_iff.mp named
  exact congrArg₂ Scopes.mk (grows.own.trans (List.append_nil _)) grows.outer

theorem single (grown : s.GrowsByGroups [name] s') :
    ∃ members, s' = ⟨s.own ++ [(name, .group members)], s.outer⟩ := by
  obtain ⟨groups, named, grows⟩ := grown
  obtain ⟨⟨_, members⟩, rfl, rfl⟩ := List.map_eq_singleton_iff.mp named
  exact ⟨members, congrArg₂ Scopes.mk grows.own grows.outer⟩

end GrowsByGroups

end Scopes

namespace Cast

/-! ## Atomic steps -/

/-- A step that, begun with nothing pending, fails for a target before it has changed anything, and when it
makes no entry has changed nothing but the scopes, by groups of the given names. It is too deep only if it is
`deadly` and no reaction has room. -/
def Atomic (names : List String) (deadly : Prop) (m : Cast (Option Log)) : Prop :=
  ∀ (scopes : Scopes) (a : Arena) (limit : Nat), a.Coherent → Ensures (m ⟨scopes, .idle a limit⟩)
    (fun log s' => log = none → s'.context = .idle a limit ∧ scopes.GrowsByGroups names s'.scopes)
    (fun e s' => (s' = ⟨scopes, .idle a limit⟩ ∧ ∃ cause, e = .target cause) ∨
      (e = .cascadeTooDeep 1 0 ∧ limit = 0 ∧ deadly))

variable {α : Type} {names : List String} {deadly : Prop}

/-- Nothing has happened while a step only looks. -/
theorem Looks.atomic {m : Cast α} {k : α → Cast (Option Log)} (looks : Looks m)
    (rest : ∀ a, Atomic names deadly (k a)) : Atomic names deadly (m >>= k) := by
  intro scopes a limit h
  refine ensures_bind.mpr ((looks _).mono ?_ fun _ _ failed => .inl failed)
  rintro found _ rfl
  exact rest found scopes a limit h

theorem atomic_nothing : Atomic [] deadly (pure none) := fun scopes _ _ _ _ => ⟨rfl, .refl scopes⟩

theorem atomic_submit {event : Event} (fells : ∀ w, event.Fells w → deadly) :
    Atomic [] deadly (submit event) := by
  intro scopes a limit h
  have ends := Context.process_ends event a limit
  unfold submit
  dsimp only
  cases processed : Context.process event (.idle a limit) with
  | ok log c =>
    rintro rfl
    exact ⟨Context.process_untold h processed, .refl scopes⟩
  | error e c =>
    rw [processed] at ends
    obtain ⟨shut, deep, fell⟩ := ends
    exact .inr ⟨deep, shut, fells _ fell⟩

theorem atomic_submitAt (name : String) {event : Coords → Event}
    (fells : ∀ spot w, (event spot).Fells w → deadly) : Atomic [] deadly (submitAt name event) := by
  refine (looks_resolve _).atomic fun location => looks_world.atomic fun world => ?_
  cases world.locate location with
  | none => exact atomic_nothing
  | some spot => exact atomic_submit (fells spot)

/-- Nothing can fail after a group is bound. -/
theorem atomic_bind (name : String) (members : List EntityId) :
    Atomic [name] deadly (Cast.bind name (.group members) >>= fun _ => pure none) := by
  intro scopes a limit _
  apply ensures_bind.mpr
  unfold Cast.bind
  cases bound : scopes.bind name (.group members) with
  | ok scopes' => exact fun _ => ⟨rfl, .of_bind bound⟩
  | error cause => exact .inl ⟨rfl, cause, rfl⟩

end Cast

open Cast

/-- **Every action is atomic**, and only damage is deadly. -/
theorem Action.cast_atomic (action : Action) :
    Atomic action.areas (action.kind = .damage) action.cast := by
  cases action with
  | damage target attacker amount =>
    refine (looks_resolve _).atomic fun _ => (looks_credited _).atomic fun _ => ?_
    apply atomic_submit
    exact fun _ _ => rfl
  | healing target healer amount =>
    refine (looks_resolve _).atomic fun _ => (looks_credited _).atomic fun _ => ?_
    apply atomic_submit
    exact fun _ => False.elim
  | destruction target =>
    refine (looks_resolve _).atomic fun _ => ?_
    apply atomic_submit
    exact fun _ => False.elim
  | modification spot kind =>
    apply atomic_submitAt
    exact fun _ _ => False.elim
  | spawn spot kind =>
    apply atomic_submitAt
    exact fun _ _ => False.elim
  | movement entity goal relative =>
    refine (looks_resolve _).atomic fun id => ?_
    cases relative with
    | true =>
      refine (looks_resolve _).atomic fun _ => ?_
      apply atomic_submit
      exact fun _ => False.elim
    | false =>
      apply atomic_submitAt
      exact fun _ _ => False.elim
  | projectile source target =>
    refine (looks_resolve _).atomic fun _ => (looks_resolve _).atomic fun _ => ?_
    apply atomic_submit
    exact fun _ => False.elim
  | areaTarget source radius newGroup =>
    exact (looks_resolve _).atomic fun _ => looks_world.atomic fun _ => atomic_bind newGroup _

/-- **Leaves are atomic.** Cast in any scopes, in an arena that arises in play and under any limit, an
effect that is no group changes nothing when it fails for a target; when it makes no entry it changes
nothing, except that an area binds its group; and it fails otherwise only if it is damage and no reaction
has room. -/
theorem Effect.leaf_atomic {a : Arena} (arises : a.Arises) (scopes : Scopes) (limit : Nat)
    {effect : Effect} (leaf : effect.kind ≠ .group) :
    let s : Situation := ⟨scopes, .idle a limit⟩
    (∀ cause s', effect.cast s = .error (.target cause) s' → s' = s) ∧
    (∀ s', effect.cast s = .ok none s' → s'.context = s.context ∧
      (s'.scopes = scopes ∨ ∃ source radius newGroup members,
        effect = .act (.areaTarget source radius newGroup) ∧
          s'.scopes = ⟨scopes.own ++ [(newGroup, .group members)], scopes.outer⟩)) ∧
    ∀ e s', effect.cast s = .error e s' → (∃ cause, e = .target cause) ∨
      (e = .cascadeTooDeep 1 0 ∧ limit = 0 ∧ effect.kind = .damage) := by
  intro s
  cases effect with
  | group members newTarget parallel effects => exact absurd rfl leaf
  | act action =>
    have ends := action.cast_atomic scopes a limit arises.coherent
    rw [Effect.cast]
    refine ⟨?_, ?_, ?_⟩
    · intro cause s' failed
      rw [failed] at ends
      rcases ends with ⟨same, -⟩ | ⟨deep, -⟩
      · exact same
      · cases deep
    · intro s' silent
      rw [silent] at ends
      obtain ⟨context, left⟩ := ends rfl
      refine ⟨context, ?_⟩
      cases action with
      | areaTarget source radius newGroup =>
        obtain ⟨members, bound⟩ := left.single
        exact .inr ⟨source, radius, newGroup, members, rfl, bound⟩
      | _ => exact .inl left.none
    · intro e s' failed
      rw [failed] at ends
      exact ends.imp And.right id

/-- In the camp an area fails whose group has a name that is taken, and a step onto the wolf is refused:
neither changes anything. -/
theorem Effect.leaf_atomic_camp :
    let scopes : Scopes := ⟨[("knight", .entity ⟨0⟩), ("wolf", .entity ⟨1⟩), ("near", .group [])], []⟩
    let s : Situation := ⟨scopes, .idle (Game.Sample.camp .usual).arena 0⟩
    let area := Effect.act (.areaTarget "knight" 2 "near")
    let step := Effect.act (.movement "knight" "wolf" false)
    area.kind ≠ .group ∧ step.kind ≠ .group ∧
      (∃ s', area.cast s = .error (.target (.alreadyBound "near")) s' ∧ s' = s) ∧
      ∃ s', step.cast s = .ok none s' ∧ s'.context = s.context := by
  intro scopes s area step
  have arises : (Game.Sample.camp .usual).arena.Arises := ⟨_, [], Game.Sample.camp_reachable .usual, .nil⟩
  have leaves : area.kind ≠ .group ∧ step.kind ≠ .group := ⟨nofun, nofun⟩
  have taken : area.cast s = .error (.target (.alreadyBound "near")) s := by decide +kernel
  have refused : step.cast s = .ok none s := by decide +kernel
  obtain ⟨unchanged, -⟩ := Effect.leaf_atomic arises scopes 0 leaves.1
  obtain ⟨-, kept, -⟩ := Effect.leaf_atomic arises scopes 0 leaves.2
  exact ⟨leaves.1, leaves.2, ⟨s, taken, unchanged _ _ taken⟩, s, refused, (kept _ refused).1⟩

end Skirmish
