import Skirmish.Proofs.Arena.Traces
import Skirmish.Casting

/-!
# Casts are traces

Whatever effects are cast, nested however deeply, in whatever scopes: from a coherent arena a cast
that answers has made the trace of the leaves of its log, in their order, and a cast that fails has
made some trace whose log is lost (`castAll_traced`). The induction is on the effects, with one
inside it on the members of a group.

Resolving names changes nothing at all (`Cast.Looks`), and binding them never touches the context
(`Cast.Quiet`); submitting an event is the one thing that does.
-/

namespace Skirmish

open Arena

namespace Cast

variable {α β γ : Type}

/-- A step that changes nothing, and can fail for a target only. -/
def Looks (m : Cast α) : Prop := ∀ s : Situation,
  Ensures (m s) (fun _ s' => s' = s) (fun e s' => s' = s ∧ ∃ cause, e = .target cause)

/-- A cast that leaves the context as it is, in success and failure. -/
def Quiet (m : Cast α) : Prop := ∀ s : Situation,
  Ensures (m s) (fun _ s' => s'.context = s.context) (fun _ s' => s'.context = s.context)

/-- A cast that makes the trace of the entries of its answer, or fails after some trace. -/
def Traced (entries : α → List Entry) (m : Cast α) : Prop :=
  ∀ s : Situation, s.context.arena.Coherent → Ensures (m s)
    (fun a s' => Trace s.context.arena (entries a) s'.context.arena)
    (fun _ s' => ∃ lost, Trace s.context.arena lost s'.context.arena)

/-! ## Steps that only look -/

theorem looks_pure (a : α) : Looks (pure a) := fun _ => rfl

theorem looks_resolve (look : Scopes → Except TargetError α) : Looks (resolve look) := by
  intro s
  unfold resolve
  cases look s.scopes with
  | ok a => exact rfl
  | error cause => exact ⟨rfl, cause, rfl⟩

theorem looks_world : Looks world := fun _ => rfl

theorem Looks.bind {m : Cast α} {k : α → Cast β} (first : Looks m) (second : ∀ a, Looks (k a)) :
    Looks (m >>= k) := by
  intro s
  refine ensures_bind.mpr ((first s).mono ?_ fun _ _ failed => failed)
  rintro a _ rfl
  exact second a _

theorem looks_credited (name : Option String) : Looks (credited name) := by
  cases name with
  | none => exact looks_pure none
  | some name =>
    rw [credited, map_eq_pure_bind]
    exact (looks_resolve _).bind fun id => looks_pure (some id)

/-! ## Steps that leave the context alone -/

theorem Looks.quiet {m : Cast α} (looks : Looks m) : Quiet m :=
  fun s => (looks s).mono (fun _ _ same => congrArg Situation.context same)
    fun _ _ failed => congrArg Situation.context failed.1

theorem quiet_resolve (look : Scopes → Except TargetError α) : Quiet (resolve look) :=
  (looks_resolve look).quiet

theorem quiet_bind (name : String) (target : Target) : Quiet (Cast.bind name target) := by
  intro s
  unfold Cast.bind
  cases s.scopes.bind name target <;> rfl

theorem quiet_world : Quiet world := looks_world.quiet

theorem quiet_credited (name : Option String) : Quiet (credited name) := (looks_credited name).quiet

/-! ## Traced casts -/

variable {f : α → List Entry} {g : β → List Entry} {h : γ → List Entry}

theorem traced_pure {a : α} (none : f a = []) : Traced f (pure a) := by
  intro s _
  rw [ensures_pure, none]
  exact .nil

/-- What comes after a quiet step is all the trace there is. -/
theorem Quiet.traced {m : Cast α} {k : α → Cast β} (quiet : Quiet m) (rest : ∀ a, Traced g (k a)) :
    Traced g (m >>= k) := by
  intro s coherent
  refine ensures_bind.mpr ((quiet s).mono ?_ ?_)
  · intro a s' same
    rw [← same] at coherent ⊢
    exact rest a s' coherent
  · intro _ s' same
    exact ⟨[], same ▸ .nil⟩

/-- Two casts one after the other, whose answers are joined. -/
theorem Traced.join {m : Cast α} {k : Cast β} (first : Traced f m) (second : Traced g k)
    {join : α → β → γ} (entries : ∀ a b, h (join a b) = f a ++ g b) :
    Traced h (do let a ← m; let b ← k; pure (join a b)) := by
  intro s coherent
  refine ensures_bind.mpr ((first s coherent).mono ?_ fun _ _ failed => failed)
  intro a s₁ trace₁
  refine ensures_bind.mpr ((second s₁ (coherent.trace trace₁)).mono ?_ ?_)
  · intro b s₂ trace₂
    rw [ensures_pure, entries]
    exact trace₁.append trace₂
  · rintro _ s₂ ⟨lost, trace₂⟩
    exact ⟨f a ++ lost, trace₁.append trace₂⟩

/-- A cast whose answer is only arranged anew. -/
theorem Traced.arrange {m : Cast α} (traced : Traced f m) {arrange : α → β}
    (entries : ∀ a, g (arrange a) = f a) : Traced g (do let a ← m; pure (arrange a)) := by
  intro s coherent
  refine ensures_bind.mpr ((traced s coherent).mono ?_ fun _ _ failed => failed)
  intro a s' trace
  rw [ensures_pure, entries]
  exact trace

/-- Opening and leaving a scope changes no arena. -/
theorem Traced.inChild {m : Cast α} (traced : Traced f m) : Traced f (inChild m) := by
  intro s coherent
  have body := traced { s with scopes := s.scopes.child } coherent
  unfold Cast.inChild
  revert body
  cases m { s with scopes := s.scopes.child } <;> exact id

/-- One log for each member, and the logs are the trace. -/
theorem traced_mapM {each : α → Cast Log} (traced : ∀ a, Traced Log.leaves (each a)) (members : List α) :
    Traced Log.leavesAll (members.mapM each) := by
  induction members with
  | nil => exact traced_pure rfl
  | cons a members ih =>
    rw [List.mapM_cons]
    exact (traced a).join ih fun _ _ => rfl

/-- **Submitting an event** is the trace of the event and its reactions. -/
theorem traced_submit (event : Event) :
    Traced (fun log : Option Log => Log.leavesAll log.toList) (submit event) := by
  intro s coherent
  have resolved := Context.process_trace event s.context coherent
  unfold submit
  revert resolved
  cases s.context.process event <;> exact id

theorem traced_submitAt (name : String) (event : Coords → Event) :
    Traced (fun log : Option Log => Log.leavesAll log.toList) (submitAt name event) := by
  refine (quiet_resolve _).traced fun location => quiet_world.traced fun world => ?_
  cases world.locate location with
  | none => exact traced_pure rfl
  | some spot => exact traced_submit (event spot)

end Cast

open Cast

theorem Action.cast_traced (action : Action) :
    Traced (fun log : Option Log => Log.leavesAll log.toList) action.cast := by
  cases action with
  | damage target attacker amount =>
    exact (quiet_resolve _).traced fun _ => (quiet_credited _).traced fun _ => traced_submit _
  | healing target healer amount =>
    exact (quiet_resolve _).traced fun _ => (quiet_credited _).traced fun _ => traced_submit _
  | destruction target => exact (quiet_resolve _).traced fun _ => traced_submit _
  | modification spot kind => exact traced_submitAt spot _
  | spawn spot kind => exact traced_submitAt spot _
  | movement entity goal relative =>
    refine (quiet_resolve _).traced fun id => ?_
    cases relative with
    | true => exact (quiet_resolve _).traced fun _ => traced_submit _
    | false => exact traced_submitAt goal _
  | projectile source target =>
    exact (quiet_resolve _).traced fun _ => (quiet_resolve _).traced fun _ => traced_submit _
  | areaTarget source radius newGroup =>
    exact (quiet_resolve _).traced fun _ => quiet_world.traced fun _ =>
      (quiet_bind _ _).traced fun _ => traced_pure rfl

mutual

/-- **A cast of an effect is the trace of its log.** -/
theorem Effect.cast_traced :
    (effect : Effect) → Traced (fun log : Option Log => Log.leavesAll log.toList) effect.cast
  | .act action => by
    rw [Effect.cast]
    exact action.cast_traced
  | .group members newTarget parallel effects => by
    rw [Effect.cast]
    have nested := castAll_traced effects
    refine (quiet_resolve _).traced fun ids => ?_
    refine (traced_mapM (fun id => ?_) ids).arrange ?_
    · refine Traced.inChild ((quiet_bind _ _).traced fun _ => ?_)
      exact nested.arrange fun logs => by rw [Log.leaves]
    · intro logs
      rw [Option.toList_some, Log.leavesAll, Log.leavesAll, Log.leaves, List.append_nil]

/-- **A cast of effects in a row is the trace of their logs.** -/
theorem castAll_traced : (effects : List Effect) → Traced Log.leavesAll (castAll effects)
  | [] => by
    rw [castAll]
    exact traced_pure rfl
  | effect :: effects => by
    rw [castAll]
    exact (effect.cast_traced).join (castAll_traced effects) fun log logs => Log.leavesAll_append _ _

end

theorem castSequence_traced (effects : List Effect) : Traced Log.leaves (castSequence effects) :=
  (castAll_traced effects).arrange fun logs => by rw [Log.leaves]

/-- What holds of both ends of an ability is what holds of both ends of its effects, begun in the scope of
the caster and the target. The log opens with the ability. -/
theorem Ability.ensures_cast {ability : Ability} {caster : EntityId} {target : Option Target} {c : Context}
    {ok : Log → Context → Prop} {error : CastError → Context → Prop} :
    Ensures (ability.cast caster target c) ok error ↔
      Ensures (castSequence ability.effects ⟨.ofCast caster target, c⟩)
        (fun log s => ok (.combined false
          [.entry (.ability caster ability.id ability.name (target.bind Target.location?)), log]) s.context)
        (fun e s => error e s.context) := by
  unfold Ability.cast
  rw [ensures_bind]
  unfold Cast.within
  cases castSequence ability.effects ⟨.ofCast caster target, c⟩ <;> rfl

/-- **A cast of an ability is a trace.** Its log opens with the ability, whose caster must be
registered for the opening to be a step. -/
theorem Ability.cast_trace (ability : Ability) {caster : EntityId} (target : Option Target) (c : Context)
    (h : c.arena.Coherent) {e : Entity} (alive : c.arena.world.entity? caster = some e) :
    Ensures (ability.cast caster target c)
      (fun log c' => Trace c.arena log.leaves c'.arena)
      (fun _ c' => ∃ lost, Trace c.arena lost c'.arena) := by
  apply Ability.ensures_cast.mpr
  apply (castSequence_traced ability.effects ⟨.ofCast caster target, c⟩ h).mono
  · intro log s trace
    simp only [Log.leaves, Log.leavesAll, List.append_nil, List.singleton_append]
    exact .cons ⟨.ability alive, rfl⟩ trace
  · exact fun _ _ failed => failed

end Skirmish
