import Skirmish.Proofs.Arena.Cascades
import Skirmish.Proofs.Casting.Closed
import Skirmish.Proofs.Game.Runs

/-!
# The names that a cast leaves

A cast binds names in the innermost of its scopes and in scopes that it opens and leaves. Whether it
answers or fails, and however deep the failure, it leaves the enclosing scopes as they were and its own
scope with some names more: the groups of the areas that stand directly among its effects, all of them
when it answers and the first of them when it fails (`castSequence_scopes`). Nothing that is bound for a
member, by a group or inside of one, is left.

Along a cast the scopes **grow** (`Scopes.Grows`), by bindings whose names were not bound in the innermost
scope. Growth is what the rules for the parts of a cast are about, together with what a cast can fail for
(`Scopes.Fails`): because names are never taken away, a name that is found missing, in whatever scope,
was missing from the start. Both are one graded property (`Cast.binds_graded`), so that the induction over
effects is that of all graded properties.
-/

namespace Skirmish

namespace Scopes

/-! ## Scopes that grow -/

/-- Scopes that have grown by bindings of new names in the innermost of them. -/
structure Grows (s : Scopes) (new : Bindings) (s' : Scopes) : Prop where
  own : s'.own = s.own ++ new
  outer : s'.outer = s.outer
  fresh : ∀ b ∈ new, s.own.lookup b.1 = none

/-- Scopes that have gained names in the innermost of them, and differ in nothing else. -/
structure Gains (s : Scopes) (names : List String) (s' : Scopes) : Prop where
  /-- The enclosing scopes are unchanged. -/
  outer : s'.outer = s.outer
  /-- What was bound is bound to the same. -/
  kept : ∀ name target, s.own.lookup name = some target → s'.own.lookup name = some target
  /-- The names are those that are bound now and were not bound before. -/
  bound : ∀ name, name ∈ names ↔ s.own.lookup name = none ∧ ∃ target, s'.own.lookup name = some target

variable {s s' s'' : Scopes} {new new' : Bindings} {name : String} {target : Target}

theorem mem_names {bindings : Bindings} :
    name ∈ bindings.map Prod.fst ↔ ∃ target, bindings.lookup name = some target := by
  rw [← Option.isSome_iff_exists, List.lookup_isSome_iff, List.mem_map]
  exact exists_congr fun b => and_congr_right fun _ => eq_comm.trans beq_iff_eq.symm

namespace Grows

theorem refl (s : Scopes) : s.Grows [] s := ⟨(List.append_nil _).symm, rfl, List.forall_mem_nil _⟩

theorem trans (first : s.Grows new s') (second : s'.Grows new' s'') : s.Grows (new ++ new') s'' where
  own := by rw [second.own, first.own, List.append_assoc]
  outer := second.outer.trans first.outer
  fresh := by
    intro b held
    rcases List.mem_append.mp held with held | held
    · exact first.fresh b held
    · have unbound := second.fresh b held
      rw [first.own, List.lookup_append, Option.or_eq_none_iff] at unbound
      exact unbound.1

theorem of_bind (bound : s.bind name target = .ok s') : s.Grows [(name, target)] s' := by
  obtain ⟨free, rfl⟩ := bind_eq_ok.mp bound
  exact ⟨rfl, rfl, List.forall_mem_singleton.mpr free⟩

/-- No name is lost. -/
theorem unbound (grows : s.Grows new s') (missing : s'.get? name = none) : s.get? name = none := by
  have absent := List.findSome?_eq_none_iff.mp missing
  rw [grows.own, grows.outer] at absent
  obtain ⟨own, outer⟩ := List.forall_mem_cons.mp absent
  rw [List.lookup_append, Option.or_eq_none_iff] at own
  exact List.findSome?_eq_none_iff.mpr (List.forall_mem_cons.mpr ⟨own.1, outer⟩)

/-- What a scope binds is gone when it is left. -/
theorem parent (grows : s.child.Grows new s') : s'.parent = s := by
  unfold Scopes.parent
  rw [grows.outer]
  rfl

/-- What is held after growth was held before, or is of a new name. -/
theorem holds_iff (grows : s.Grows new s') : (∃ target, s'.own.lookup name = some target) ↔
    (∃ target, s.own.lookup name = some target) ∨ name ∈ new.map Prod.fst := by
  rw [grows.own, ← mem_names, ← mem_names, List.map_append, List.mem_append]

theorem gains (grows : s.Grows new s') : s.Gains (new.map Prod.fst) s' where
  outer := grows.outer
  kept name target held := by rw [grows.own, List.lookup_append, held, Option.some_or]
  bound name := by
    rw [grows.holds_iff]
    constructor
    · intro named
      obtain ⟨b, held, rfl⟩ := List.mem_map.mp named
      exact ⟨grows.fresh b held, .inr named⟩
    · rintro ⟨free, held⟩
      apply held.resolve_left
      rw [free]
      exact fun ⟨_, found⟩ => nomatch found

end Grows

/-! ## What a cast can fail for -/

/-- Why a cast can fail that begins in given scopes: a name is missing only if it was missing then. -/
inductive Fails (s : Scopes) : CastError → Prop
  | missing {name : String} (unbound : s.get? name = none) : s.Fails (.target (.missing name))
  | wrongKind (name : String) (expected found : TargetKind) :
    s.Fails (.target (.wrongKind name expected found))
  | alreadyBound (name : String) : s.Fails (.target (.alreadyBound name))
  | cascadeTooDeep (depth limit : Nat) : s.Fails (.cascadeTooDeep depth limit)

theorem Fails.weaken {e : CastError} (fails : s'.Fails e)
    (unbound : ∀ {name}, s'.get? name = none → s.get? name = none) : s.Fails e := by
  cases fails with
  | missing absent => exact .missing (unbound absent)
  | wrongKind name expected found => exact .wrongKind name expected found
  | alreadyBound name => exact .alreadyBound name
  | cascadeTooDeep depth limit => exact .cascadeTooDeep depth limit

/-- A name cannot be asked when no scope binds it, or when it is bound to something else. -/
theorem ask_eq_error {α : Type} {expected : TargetKind} {view : Target → Option α} {e : TargetError}
    (failed : s.ask expected view name = .error e) :
    (e = .missing name ∧ s.get? name = none) ∨ ∃ found, e = .wrongKind name expected found := by
  unfold ask at failed
  split at failed
  · next unbound =>
    cases failed
    exact .inl ⟨rfl, unbound⟩
  · split at failed
    · cases failed
    · cases failed
      exact .inr ⟨_, rfl⟩

theorem fails_ask {α : Type} {expected : TargetKind} {view : Target → Option α} {e : TargetError}
    (failed : s.ask expected view name = .error e) : s.Fails (.target e) := by
  rcases ask_eq_error failed with ⟨rfl, unbound⟩ | ⟨found, rfl⟩
  · exact .missing unbound
  · exact .wrongKind name expected found

/-! ## What a name stands for -/

/-- The target that the innermost of the scopes that bind a name binds it to. -/
def Innermost (s : Scopes) (name : String) (target : Target) : Prop :=
  ∃ inside scope outside, s.own :: s.outer = inside ++ scope :: outside ∧
    scope.lookup name = some target ∧ ∀ other ∈ inside, other.lookup name = none

/-- How a name is looked up: in the innermost of the scopes that bind it, whatever it is asked as. -/
structure Resolves (s : Scopes) (name : String) : Prop where
  entity : ∀ id, s.entity name = .ok id ↔ s.Innermost name (.entity id)
  coords : ∀ spot, s.coords name = .ok spot ↔ s.Innermost name (.coords spot)
  group : ∀ members, s.group name = .ok members ↔ s.Innermost name (.group members)
  location : ∀ place, s.location name = .ok place ↔
    ∃ target, s.Innermost name target ∧ target.location? = some place
  missing : s.get? name = none ↔ ∀ scope ∈ s.own :: s.outer, scope.lookup name = none

theorem get?_eq_some : s.get? name = some target ↔ s.Innermost name target := List.findSome?_eq_some_iff

theorem ask_eq_ok {α : Type} {expected : TargetKind} {view : Target → Option α} {a : α} :
    s.ask expected view name = .ok a ↔ ∃ target, s.Innermost name target ∧ view target = some a := by
  simp only [← get?_eq_some]
  unfold ask
  cases s.get? name with
  | none => simp
  | some target => cases seen : view target <;> simp [seen]

/-- Where an answer comes from one target only, it tells of that target. -/
theorem ask_eq_ok_of_unique {α : Type} {expected : TargetKind} {view : Target → Option α} {a : α}
    (unique : ∀ other, view other = some a ↔ other = target) :
    s.ask expected view name = .ok a ↔ s.Innermost name target := by
  rw [ask_eq_ok]
  simp only [unique, exists_eq_right]

theorem resolves (s : Scopes) (name : String) : s.Resolves name where
  entity id := ask_eq_ok_of_unique fun other => by cases other <;> simp
  coords spot := ask_eq_ok_of_unique fun other => by cases other <;> simp
  group members := ask_eq_ok_of_unique fun other => by cases other <;> simp
  location place := ask_eq_ok
  missing := List.findSome?_eq_none_iff

end Scopes

namespace Cast

/-! ## What a cast binds -/

/-- A cast that binds names in its own scope, one after the other, or the first of them before it fails
for what a cast in these scopes can fail for. -/
def Binds (names : List String) {α : Type} (m : Cast α) : Prop := ∀ s : Situation, Ensures (m s)
  (fun _ s' => ∃ new, s.scopes.Grows new s'.scopes ∧ new.map Prod.fst = names)
  (fun e s' => (∃ new, s.scopes.Grows new s'.scopes ∧ new.map Prod.fst <+: names) ∧ s.scopes.Fails e)

theorem binds_resolve {α : Type} {look : Scopes → Except TargetError α}
    (fails : ∀ {s : Scopes} {e : TargetError}, look s = .error e → s.Fails (.target e)) :
    Binds [] (resolve look) := by
  intro s
  unfold resolve
  cases found : look s.scopes with
  | ok a => exact ⟨[], .refl _, rfl⟩
  | error e => exact ⟨⟨[], .refl _, List.nil_prefix⟩, fails found⟩

theorem binds_graded : Graded @Binds where
  pure a s := ⟨[], .refl _, rfl⟩
  bind {α β names names' m k} first second s := by
    apply ensures_bind.mpr
    apply (first s).mono
    · rintro a s₁ ⟨new, grows, rfl⟩
      apply (second a s₁).mono
      · rintro b s₂ ⟨new', grows', rfl⟩
        exact ⟨new ++ new', grows.trans grows', List.map_append⟩
      · rintro e s₂ ⟨⟨new', grows', started⟩, fails⟩
        refine ⟨⟨new ++ new', grows.trans grows', ?_⟩, fails.weaken grows.unbound⟩
        rw [List.map_append]
        exact (List.prefix_append_right_inj _).mpr started
    · rintro e s₁ ⟨⟨new, grows, started⟩, fails⟩
      exact ⟨⟨new, grows, started.trans (List.prefix_append names names')⟩, fails⟩
  entity name := binds_resolve Scopes.fails_ask
  coords name := binds_resolve Scopes.fails_ask
  group name := binds_resolve Scopes.fails_ask
  location name := binds_resolve Scopes.fails_ask
  name name target s := by
    unfold Cast.bind
    cases bound : s.scopes.bind name target with
    | ok scopes => exact ⟨_, .of_bind bound, rfl⟩
    | error e =>
      obtain ⟨rfl, -⟩ := Scopes.bind_eq_error.mp bound
      exact ⟨⟨[], .refl _, List.nil_prefix⟩, .alreadyBound name⟩
  world s := ⟨[], .refl _, rfl⟩
  submit event s := by
    have fails := Context.process_fails event s.context
    unfold submit
    revert fails
    cases s.context.process event with
    | ok log c => exact fun _ => ⟨[], .refl _, rfl⟩
    | error e c =>
      rintro ⟨depth, limit, rfl⟩
      exact ⟨⟨[], .refl _, List.nil_prefix⟩, .cascadeTooDeep depth limit⟩
  inChild {α names m} binds s := by
    have body := binds { s with scopes := s.scopes.child }
    unfold inChild
    revert body
    -- the empty scope that is opened inside knows no name, so that the same names are missing
    cases m { s with scopes := s.scopes.child } with
    | ok a s' =>
      rintro ⟨new, grows, -⟩
      exact ⟨[], grows.parent ▸ .refl _, rfl⟩
    | error e s' =>
      rintro ⟨⟨new, grows, -⟩, fails⟩
      exact ⟨⟨[], grows.parent ▸ .refl _, List.nil_prefix⟩, fails.weaken id⟩

end Cast

/-! ## Areas that are refused -/

theorem castAll_append (before after : List Effect) : castAll (before ++ after) =
    (do
      let logs ← castAll before
      let logs' ← castAll after
      pure (logs ++ logs')) := by
  induction before with
  | nil => simp only [List.nil_append, castAll, pure_bind, bind_pure]
  | cons effect before ih =>
    simp only [List.cons_append, castAll, ih, bind_assoc, pure_bind, List.append_assoc]

/-- What fails after effects that were cast fails the whole sequence. -/
theorem castSequence_of_error {before rest : List Effect} {effect : Effect} {s mid s' : Situation} {log : Log}
    {e : CastError} (done : castSequence before s = .ok log mid) (failed : effect.cast mid = .error e s') :
    castSequence (before ++ effect :: rest) s = .error e s' := by
  have all : ∃ logs, castAll before s = .ok logs mid := by
    cases first : castAll before s with
    | ok logs s₁ =>
      rw [castSequence, bind_of_ok first] at done
      cases done
      exact ⟨logs, rfl⟩
    | error e s₁ =>
      rw [castSequence, bind_of_error first] at done
      cases done
  obtain ⟨logs, all⟩ := all
  have next : castAll (effect :: rest) mid = .error e s' := by
    rw [castAll, bind_of_error failed]
  have whole : castAll (before ++ effect :: rest) s = .error e s' := by
    rw [castAll_append, bind_of_ok all, bind_of_error next]
  rw [castSequence, bind_of_error whole]

/-- An area is refused for its group exactly when its source is found and the innermost scope holds the
name of the group, and then it changes nothing. -/
theorem Action.areaTarget_alreadyBound {source newGroup name : String} {radius : Nat} {s s' : Situation} :
    (Action.areaTarget source radius newGroup).cast s = .error (.target (.alreadyBound name)) s' ↔
      name = newGroup ∧ s' = s ∧ (∃ place, s.scopes.location source = .ok place) ∧
        ∃ target, s.scopes.own.lookup newGroup = some target := by
  cases located : s.scopes.location source with
  | error e =>
    have unresolved : Cast.resolve (·.location source) s = .error (.target e) s := by
      rw [Cast.resolve, located]
    have other : e ≠ .alreadyBound name := by
      rintro rfl
      rcases Scopes.ask_eq_error located with ⟨named, -⟩ | ⟨found, named⟩ <;> cases named
    rw [Action.cast, bind_of_error unresolved]
    simp [other]
  | ok place =>
    have resolved : Cast.resolve (·.location source) s = .ok place s := by
      rw [Cast.resolve, located]
    have seen : Cast.world s = .ok s.context.arena.world s := rfl
    rw [Action.cast, bind_of_ok resolved, bind_of_ok seen]
    generalize Target.group _ = members
    cases bound : s.scopes.bind newGroup members with
    | ok scopes =>
      have joined : Cast.bind newGroup members s = .ok () { s with scopes := scopes } := by
        rw [Cast.bind, bound]
      have free : s.scopes.own.lookup newGroup = none := (Scopes.bind_eq_ok.mp bound).1
      rw [bind_of_ok joined]
      simp [free, pure, EStateM.pure]
    | error e =>
      obtain ⟨rfl, held⟩ := Scopes.bind_eq_error.mp bound
      have refused : Cast.bind newGroup members s = .error (.target (.alreadyBound newGroup)) s := by
        rw [Cast.bind, bound]
      rw [bind_of_error refused]
      simp [held, eq_comm]

/-- **Scope discipline.** However a cast ends, the enclosing scopes are unchanged, and its own scope has
gained the groups of its areas, or on a failure the first of them. A name stands for what the innermost
scope that binds it says. And an area whose turn it is, after effects that were cast, is refused for its
group exactly when its source is found and the name is held: by what the cast began with, or by an area
before it in the same list. -/
theorem castSequence_scopes (effects : List Effect) (s : Situation) :
    Ensures (castSequence effects s)
      (fun _ s' => s.scopes.Gains (Effect.areasAll effects) s'.scopes)
      (fun _ s' => ∃ names, names <+: Effect.areasAll effects ∧ s.scopes.Gains names s'.scopes) ∧
    (∀ (scopes : Scopes) (name : String), scopes.Resolves name) ∧
    ∀ before source radius newGroup rest log mid,
      effects = before ++ .act (.areaTarget source radius newGroup) :: rest →
      castSequence before s = .ok log mid →
      (∀ name s', (Action.areaTarget source radius newGroup).cast mid =
          .error (.target (.alreadyBound name)) s' ↔
        name = newGroup ∧ s' = mid ∧ (∃ place, mid.scopes.location source = .ok place) ∧
          ∃ target, mid.scopes.own.lookup newGroup = some target) ∧
      ((∃ target, mid.scopes.own.lookup newGroup = some target) ↔
        (∃ target, s.scopes.own.lookup newGroup = some target) ∨ newGroup ∈ Effect.areasAll before) ∧
      ∀ e s', (Action.areaTarget source radius newGroup).cast mid = .error e s' →
        castSequence effects s = .error e s' := by
  refine ⟨?_, Scopes.resolves, ?_⟩
  · apply (Cast.binds_graded.castSequence effects s).mono
    · rintro _ s' ⟨new, grows, names⟩
      exact names ▸ grows.gains
    · rintro _ s' ⟨⟨new, grows, started⟩, -⟩
      exact ⟨_, started, grows.gains⟩
  · rintro before source radius newGroup rest log mid rfl done
    refine ⟨fun name s' => Action.areaTarget_alreadyBound, ?_, ?_⟩
    · have bound := Cast.binds_graded.castSequence before s
      rw [done] at bound
      obtain ⟨new, grows, names⟩ := bound
      rw [grows.holds_iff, names]
    · intro e s' failed
      apply castSequence_of_error done
      rw [Effect.cast]
      exact failed

namespace Game.Sample

/-- Looks around, and once more from each of those who are near. The second group takes a name that the
members have bound for themselves. -/
def scouting : List Effect :=
  [.act (.areaTarget "caster" 1 "near"),
   .group "near" "scout" false [.act (.areaTarget "scout" 1 "near"), .act (.areaTarget "scout" 2 "far")],
   .act (.areaTarget "caster" 2 "far")]

end Game.Sample

/-- The scouting is cast where an enclosing scope binds `far`, and it binds both groups all the same. To
bind `near` another time is refused. -/
theorem castSequence_scopes_scouting :
    let scopes : Scopes := ⟨[("caster", .entity ⟨0⟩)], [[("far", .coords ⟨2, 2⟩)]]⟩
    let s : Situation := ⟨scopes, .idle (Game.Sample.camp .usual).arena 0⟩
    let again : Effect := .act (.areaTarget "caster" 0 "near")
    ∃ log mid, castSequence Game.Sample.scouting s = .ok log mid ∧
      scopes.Gains ["near", "far"] mid.scopes ∧
      castSequence (Game.Sample.scouting ++ [again]) s = .error (.target (.alreadyBound "near")) mid := by
  intro scopes s again
  let everybody : Target := .group [⟨0⟩, ⟨1⟩]
  let mid : Situation :=
    ⟨⟨scopes.own ++ [("near", everybody), ("far", everybody)], scopes.outer⟩, s.context⟩
  let log : Log := .combined false [.combined false [.combined false [], .combined false []]]
  have ran : castSequence Game.Sample.scouting s = .ok log mid := by decide +kernel
  have left := (castSequence_scopes Game.Sample.scouting s).1
  rw [ran] at left
  obtain ⟨refused, -, ends⟩ := (castSequence_scopes (Game.Sample.scouting ++ [again]) s).2.2
    Game.Sample.scouting "caster" 0 "near" [] log mid rfl ran
  exact ⟨log, mid, ran, left, ends _ _ ((refused "near" mid).mpr ⟨rfl, rfl, ⟨_, rfl⟩, _, rfl⟩)⟩

end Skirmish
