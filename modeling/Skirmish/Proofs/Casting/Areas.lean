import Skirmish.Proofs.Arena.Blows
import Skirmish.Proofs.Casting.Members

/-!
# Casts of areas and of blows

An area binds a group and tells nothing (`Action.cast_areaTarget`). A group that only damages strikes its
members: with room for a reaction it is cast without fail, and when nobody is in it twice and all of them
stand on the board, it strikes each of them once (`cast_blows`).

The credited is looked up anew for each member. It is found in the scopes of every member as soon as it is
found where the group is bound (`Credits.entity_inner`), because only the name of the members can hide it.
-/

namespace Skirmish

open Arena

/-! ## What an area binds -/

namespace Scopes

variable {s s' : Scopes} {name other : String} {target : Target}

theorem get?_bind (bound : s.bind name target = .ok s') :
    s'.get? other = if other = name then some target else s.get? other := by
  obtain ⟨free, rfl⟩ := bind_eq_ok.mp bound
  unfold get?
  rw [List.findSome?_cons, List.findSome?_cons, List.lookup_append, List.lookup_cons, List.lookup_nil]
  by_cases same : other = name
  · rw [if_pos same, same, free, beq_self_eq_true]
    rfl
  · rw [if_neg same, beq_eq_false_iff_ne.mpr same, Option.or_none]

theorem group_bind {members : List EntityId} (bound : s.bind name (.group members) = .ok s') :
    s'.group name = .ok members := by
  rw [group, ask, get?_bind bound, if_pos rfl]

/-- A name that no scope binds can be bound. -/
theorem exists_bind (new : s.get? name = none) (target : Target) : ∃ s', s.bind name target = .ok s' := by
  have free : s.own.lookup name = none := List.findSome?_eq_none_iff.mp new _ List.mem_cons_self
  exact ⟨_, bind_eq_ok.mpr ⟨free, rfl⟩⟩

/-- A cast binds the caster and the target, and no other name. -/
theorem get?_ofCast_of_ne (caster : EntityId) (aim : Target)
    (new : name ≠ Scopes.caster ∧ name ≠ Scopes.target) : (ofCast caster (some aim)).get? name = none := by
  show [[(Scopes.caster, Target.entity caster), (Scopes.target, aim)]].findSome? (·.lookup name) = none
  simp [List.lookup_cons, beq_eq_false_iff_ne.mpr new.1, beq_eq_false_iff_ne.mpr new.2]

theorem location_ofCast (caster : EntityId) {aim : Target} {place : Location}
    (single : aim.location? = some place) :
    (ofCast caster (some aim)).location Scopes.target = .ok place := by
  have found : (ofCast caster (some aim)).get? Scopes.target = some aim := rfl
  rw [location, ask, found]
  dsimp only
  rw [single]

end Scopes

/-- An area binds those who are near the place of a name, and tells nothing. -/
theorem Action.cast_areaTarget {source newGroup : String} {radius : Nat} {s : Situation} {place : Location}
    {centre : Coords} {scopes : Scopes} (found : s.scopes.location source = .ok place)
    (there : s.context.arena.world.locate place = some centre)
    (bound : s.scopes.bind newGroup (.group (s.context.arena.world.board.within centre radius)) =
      .ok scopes) :
    (Action.areaTarget source radius newGroup).cast s = .ok none { s with scopes := scopes } := by
  have located : Cast.resolve (·.location source) s = .ok place s := by
    rw [Cast.resolve, found]
  have joined : Cast.bind newGroup (.group (s.context.arena.world.board.within centre radius)) s =
      .ok () { s with scopes := scopes } := by
    rw [Cast.bind, bound]
  rw [Action.cast, bind_of_ok located]
  have seen : Cast.world s = .ok s.context.arena.world s := rfl
  rw [bind_of_ok seen, there, bind_of_ok joined]
  rfl

theorem castAll_cons_of_ok {effect : Effect} {effects : List Effect} {s s' s'' : Situation} {log : Option Log}
    {logs : List Log} (first : effect.cast s = .ok log s') (rest : castAll effects s' = .ok logs s'') :
    castAll (effect :: effects) s = .ok (log.toList ++ logs) s'' := by
  rw [castAll, bind_of_ok first, bind_of_ok rest]
  rfl

theorem castAll_single {effect : Effect} {s s' : Situation} {log : Option Log}
    (only : effect.cast s = .ok log s') : castAll [effect] s = .ok log.toList s' := by
  have rest : castAll [] s' = .ok [] s' := by
    rw [castAll]
    rfl
  rw [castAll_cons_of_ok only rest, List.append_nil]

theorem Ability.cast_of_castAll {ability : Ability} {caster : EntityId} {target : Option Target}
    {c c' : Context} {scopes : Scopes} {logs : List Log}
    (all : castAll ability.effects ⟨.ofCast caster target, c⟩ = .ok logs ⟨scopes, c'⟩) :
    ability.cast caster target c =
      .ok (.combined false [.entry (.ability caster ability.id ability.name (target.bind Target.location?)),
        .combined false logs]) c' := by
  have effects : Cast.within (.ofCast caster target) (castSequence ability.effects) c =
      .ok (.combined false logs) c' := by
    rw [Cast.within, castSequence, bind_of_ok all]
    rfl
  rw [Ability.cast, bind_of_ok effects]
  rfl

/-! ## A group of blows -/

/-- To whose credit a group damages a member, by the names of the cast and the name of the members. -/
def creditIn (scopes : Scopes) (newTarget : String) (attacker : Option String) (member : EntityId) :
    Option EntityId :=
  attacker.bind fun name => if name = newTarget then some member else (scopes.entity name).toOption

/-- Whether the credited can be found: by a name of the cast, or as the member that is struck. -/
def Credits (scopes : Scopes) (newTarget : String) (attacker : Option String) : Prop :=
  ∀ name ∈ attacker, name = newTarget ∨ ∃ who, scopes.entity name = .ok who

section Blows

variable {s s' : Scopes} {newGroup newTarget : String} {attacker : Option String} {amount : Amount}
  {member : EntityId} {members : List EntityId} {limit : Nat}

/-- The credited is found in the scopes of a member, where the group is bound to a new name. -/
theorem Credits.entity_inner (credits : Credits s newTarget attacker) (new : s.get? newGroup = none)
    (bound : s.bind newGroup (.group members) = .ok s') {name : String} (named : name ∈ attacker)
    (member : EntityId) : ∃ who, (s'.inner newTarget member).entity name = .ok who ∧
      creditIn s newTarget attacker member = some who := by
  cases named
  rw [creditIn, Option.bind_some]
  by_cases own : name = newTarget
  · subst own
    exact ⟨member, Scopes.entity_inner, if_pos rfl⟩
  · obtain ⟨who, found⟩ := (credits name rfl).resolve_left own
    have other : name ≠ newGroup := by
      rintro rfl
      rw [Scopes.entity, Scopes.ask, new] at found
      cases found
    refine ⟨who, ?_, by rw [if_neg own, found]; rfl⟩
    rw [← found]
    apply Scopes.entity_congr
    rw [Scopes.get?_inner, if_neg own, Scopes.get?_bind bound, if_neg other]

/-- What is told of a single effect stands in a log of its own. -/
theorem tended_single (s : Scopes) (newTarget : String) (effect : Effect) (id : EntityId) (a : Arena) :
    Effect.tended s newTarget [effect] id a =
      (.combined false ((effect.aimed (s.inner newTarget id) id).resolved a).1.toList,
        ((effect.aimed (s.inner newTarget id) id).resolved a).2) :=
  Prod.ext (congrArg (Log.combined false) (List.append_nil _)) rfl

/-- **A group that only damages** strikes its members. -/
theorem strikes_tended (credits : Credits s newTarget attacker) (new : s.get? newGroup = none)
    (bound : s.bind newGroup (.group members) = .ok s') (member : EntityId) :
    Strikes amount.resolve (creditIn s newTarget attacker member) member
      (Effect.tended s' newTarget [.act (.damage newTarget attacker amount)] member) := by
  have aimed : Effect.aimed (s'.inner newTarget member) member (.act (.damage newTarget attacker amount)) =
      .damage member amount (creditIn s newTarget attacker member) := by
    cases attacker with
    | none => rfl
    | some name =>
      obtain ⟨who, found, same⟩ := credits.entity_inner new bound rfl member
      rw [same, Effect.aimed, Option.bind_some, found]
      rfl
  have about : (Event.damage member amount (creditIn s newTarget attacker member)).about? = some member := rfl
  intro a e spot h alive placed
  obtain ⟨log, made, told, struck⟩ :=
    resolved_damage h alive placed amount (creditIn s newTarget attacker member)
  rw [tended_single, aimed, made]
  exact ⟨(List.append_nil _).trans told, struck, coherent_resolved about h⟩

/-- **The cast of a group of blows.** -/
theorem cast_blows (credits : Credits s newTarget attacker) (new : s.get? newGroup = none)
    (bound : s.bind newGroup (.group members) = .ok s') (parallel : Bool) (room : 1 ≤ limit) {a : Arena}
    (h : a.Coherent) (once : members.Nodup) (stand : ∀ id ∈ members, ∃ spot, a.world.coords? id = some spot) :
    ∃ logs a', (Effect.group newGroup newTarget parallel [.act (.damage newTarget attacker amount)]).cast
        ⟨s', .idle a limit⟩ = .ok (some (.combined parallel logs)) ⟨s', .idle a' limit⟩ ∧
      a.Struck amount.resolve members a' ∧
      List.Forall₂ (fun id log => ∃ e spot, a.world.entity? id = some e ∧ a.world.coords? id = some spot ∧
        log.leaves = e.toldOfBlow (creditIn s newTarget attacker id) amount.resolve spot) members logs := by
  have aims : ∀ effect ∈ [Effect.act (.damage newTarget attacker amount)], effect.Aims newTarget :=
    List.forall_mem_singleton.mpr rfl
  have cast := cast_group (s := s') parallel (Scopes.group_bind bound) aims
    (List.forall_mem_singleton.mpr fun credit named member _ =>
      (credits.entity_inner new bound named member).imp fun who found => ⟨found.1, found.1⟩) room a
  exact ⟨_, _, cast, Strikes.mapM h (fun id _ => strikes_tended credits new bound id) once stand⟩

end Blows

end Skirmish
