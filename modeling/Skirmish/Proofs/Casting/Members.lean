import Skirmish.Proofs.Arena.Members
import Skirmish.Proofs.Game.Runs

/-!
# The order of a group

A group treats its members one after the other. When all that it does to a member is to damage, to heal
or to destroy that member, the order of the members does not matter: in whatever order they come, and
however often, the group ends in the same arena, and each member has the same logs in the same order
(`group_order`). So such a group may be told as if all members were treated at once.

**The argument.** With nothing pending and with room for a reaction, such a cast never fails, and it is a
computation on the arena alone (`Cast.Plays`): the events that it submits are about the member
(`Effect.aimed`). Events about different members do not notice each other (`Event.apart_resolved`), and so
the treatments of different members are apart (`apart_tended`).

**What it does not establish.** Whom an effect credits is looked up before anything happens, and nobody
asks whether the credited are still there; so a credited entity may be a member itself.
-/

namespace Skirmish

variable {α β : Type} {limit : Nat} {c c' : Scopes}

/-! ## Scopes of members -/

namespace Scopes

variable {s s' : Scopes} {name newTarget : String} {id : EntityId}

/-- The scopes in which a group treats a member: the one that is opened inside binds it. -/
def inner (s : Scopes) (newTarget : String) (member : EntityId) : Scopes :=
  ⟨[(newTarget, .entity member)], s.own :: s.outer⟩

theorem get?_inner : (s.inner newTarget id).get? name =
    if name = newTarget then some (.entity id) else s.get? name := by
  unfold get? inner
  rw [List.findSome?_cons, List.lookup_cons]
  by_cases same : name = newTarget
  · rw [if_pos same, beq_iff_eq.mpr same]
  · rw [if_neg same, beq_eq_false_iff_ne.mpr same]
    rfl

theorem entity_inner : (s.inner newTarget id).entity newTarget = .ok id := by
  rw [entity, ask, get?_inner, if_pos rfl]

theorem entity_congr (same : s'.get? name = s.get? name) : s'.entity name = s.entity name := by
  rw [entity, entity, ask, ask, same]

/-- A name that resolves to a group does not resolve to an entity. -/
theorem entity_ne_ok_of_group {members : List EntityId} (found : s.group name = .ok members) :
    s.entity name ≠ .ok id := by
  rw [group, ask] at found
  rw [entity, ask]
  cases bound : s.get? name with
  | none => nofun
  | some target =>
    rw [bound] at found
    cases target with
    | group => nofun
    | entity | coords => cases found

end Scopes

/-! ## Casts that play on the arena -/

namespace Cast

/-- **A cast plays on the arena** what `n` says: in these scopes, under this limit and with nothing
pending, it answers as `n` does, and it leaves the scopes as they are and nothing pending. -/
def Plays (limit : Nat) (scopes : Scopes) (m : Cast α) (n : StateM Arena α) : Prop :=
  ∀ a : Arena, m ⟨scopes, .idle a limit⟩ = .ok (n a).1 ⟨scopes, .idle (n a).2 limit⟩

theorem plays_pure (a : α) : Plays limit c (pure a) (pure a) := fun _ => rfl

theorem Plays.bind {m : Cast α} {n : StateM Arena α} {k : α → Cast β} {l : α → StateM Arena β}
    (first : Plays limit c m n) (next : ∀ a, Plays limit c (k a) (l a)) :
    Plays limit c (m >>= k) (n >>= l) := by
  intro a
  rw [bind_of_ok (first a)]
  exact next (n a).1 (n a).2

theorem Plays.mapM {ι : Type} {each : ι → Cast α} {each' : ι → StateM Arena α} {l : List ι}
    (all : ∀ i ∈ l, Plays limit c (each i) (each' i)) : Plays limit c (l.mapM each) (l.mapM each') := by
  induction l with
  | nil => exact plays_pure []
  | cons i l ih =>
    rw [List.mapM_cons, List.mapM_cons]
    refine (all i List.mem_cons_self).bind fun a => ?_
    exact (ih fun j later => all j (List.mem_cons_of_mem i later)).bind fun as => plays_pure _

theorem plays_resolve {look : Scopes → Except TargetError α} {k : α → Cast β} {n : StateM Arena β} {a : α}
    (found : look c = .ok a) (next : Plays limit c (k a) n) : Plays limit c (resolve look >>= k) n := by
  intro arena
  have resolved : resolve look ⟨c, .idle arena limit⟩ = .ok a ⟨c, .idle arena limit⟩ := by
    rw [resolve, show look (Situation.mk c (.idle arena limit)).scopes = .ok a from found]
  rw [bind_of_ok resolved]
  exact next arena

/-- The name of the credited resolves alike in `c` and in `c'`. -/
theorem plays_credited {name? : Option String} {k : Option EntityId → Cast β} {n : StateM Arena β}
    (known : ∀ name ∈ name?, ∃ who, c.entity name = .ok who ∧ c'.entity name = .ok who)
    (next : Plays limit c' (k (name?.bind fun name => (c.entity name).toOption)) n) :
    Plays limit c' (credited name? >>= k) n := by
  cases name? with
  | none => exact next
  | some name =>
    obtain ⟨who, found, found'⟩ := known name rfl
    rw [Option.bind_some, found] at next
    rw [credited, map_eq_pure_bind, bind_assoc]
    exact plays_resolve found' next

theorem plays_submit {event : Event} {id : EntityId} (about : event.about? = some id) (room : 1 ≤ limit) :
    Plays limit c (submit event) event.resolved := by
  intro a
  unfold submit
  rw [show (Situation.mk c (.idle a limit)).context.process event = _ from Context.process_about about room a]

theorem plays_inChild {m : Cast α} {n : StateM Arena α} {name : String} {id : EntityId}
    (plays : Plays limit (c.inner name id) m n) : Plays limit c (inChild do bind name (.entity id); m) n := by
  intro a
  have body : (do bind name (.entity id); m : Cast α) ⟨c.child, .idle a limit⟩ = _ := plays a
  unfold inChild
  dsimp only
  rw [body]
  rfl

end Cast

/-! ## Effects aimed at a member -/

namespace Effect

/-- Whether an effect is damage, healing or destruction of the entity of a name. -/
def Aims (name : String) : Effect → Prop
  | .act (.damage target _ _) | .act (.healing target _ _) | .act (.destruction target) => target = name
  | _ => False

/-- The name to whose credit an effect is done. -/
def credit? : Effect → Option String
  | .act (.damage _ attacker _) => attacker
  | .act (.healing _ healer _) => healer
  | _ => none

/-- The event that an aimed effect submits for a member, with the names looked up in `c`. -/
def aimed (c : Scopes) (id : EntityId) : Effect → Event
  | .act (.damage _ attacker amount) => .damage id amount (attacker.bind fun name => (c.entity name).toOption)
  | .act (.healing _ healer amount) => .heal id amount (healer.bind fun name => (c.entity name).toOption)
  | _ => .destroy id

theorem about_aimed (c : Scopes) (id : EntityId) (effect : Effect) : (effect.aimed c id).about? = some id := by
  cases effect with
  | act action => cases action <;> rfl
  | group => rfl

/-- What effects in a row do to a member. -/
def treated (c : Scopes) (id : EntityId) : List Effect → StateM Arena (List Log)
  | [] => pure []
  | effect :: effects => do
    let log ← (effect.aimed c id).resolved
    let logs ← treated c id effects
    pure (log.toList ++ logs)

theorem apart_treated {n : StateM Arena β} {id : EntityId}
    (all : ∀ e : Event, e.about? = some id → Apart e.resolved n) (effects : List Effect) :
    Apart (treated c id effects) n := by
  induction effects with
  | nil => exact Apart.pure []
  | cons effect effects ih =>
    exact (all _ (effect.about_aimed c id)).bind fun _ => ih.bind fun _ => Apart.pure _

variable {effect : Effect} {effects : List Effect} {name : String} {id : EntityId}

/-- The cast may be in other scopes, in which the names of the effect resolve alike. -/
theorem plays_aimed (room : 1 ≤ limit) (aims : effect.Aims name) (target : c'.entity name = .ok id)
    (known : ∀ credit ∈ effect.credit?, ∃ who, c.entity credit = .ok who ∧ c'.entity credit = .ok who) :
    Cast.Plays limit c' effect.cast (effect.aimed c id).resolved := by
  cases effect with
  | group => cases aims
  | act action =>
    rw [Effect.cast]
    cases action with
    | damage named attacker amount =>
      cases aims
      exact Cast.plays_resolve target (Cast.plays_credited known (Cast.plays_submit rfl room))
    | healing named healer amount =>
      cases aims
      exact Cast.plays_resolve target (Cast.plays_credited known (Cast.plays_submit rfl room))
    | destruction named =>
      cases aims
      exact Cast.plays_resolve target (Cast.plays_submit rfl room)
    | _ => cases aims

theorem plays_treated (room : 1 ≤ limit) (aims : ∀ effect ∈ effects, effect.Aims name)
    (target : c'.entity name = .ok id) (known : ∀ effect ∈ effects, ∀ credit ∈ effect.credit?,
      ∃ who, c.entity credit = .ok who ∧ c'.entity credit = .ok who) :
    Cast.Plays limit c' (castAll effects) (treated c id effects) := by
  induction effects with
  | nil =>
    rw [castAll]
    exact Cast.plays_pure []
  | cons effect effects ih =>
    rw [castAll]
    rw [List.forall_mem_cons] at aims known
    exact (plays_aimed room aims.1 target known.1).bind fun _ =>
      (ih aims.2 known.2).bind fun _ => Cast.plays_pure _

/-- What a group does to a member. -/
def tended (s : Scopes) (newTarget : String) (effects : List Effect) (id : EntityId) : StateM Arena Log := do
  let logs ← treated (s.inner newTarget id) id effects
  pure (.combined false logs)

/-- **Different members** are tended without notice of each other. -/
theorem apart_tended {s : Scopes} {newTarget : String} {other : EntityId} (apart : id ≠ other) :
    Apart (tended s newTarget effects id) (tended s newTarget effects other) := by
  have one : ∀ {β : Type} {n : StateM Arena β} {id : EntityId},
      (∀ e : Event, e.about? = some id → Apart e.resolved n) → Apart (tended s newTarget effects id) n :=
    fun all => (apart_treated all effects).bind fun _ => Apart.pure _
  refine one fun e here => (one fun e' there => ?_).symm
  exact (Event.apart_resolved here there apart).symm

end Effect

/-! ## Groups -/

section Groups

variable {s s' : Scopes} {members newTarget : String} {ms ms' : List EntityId} {effects : List Effect}

/-- Where chains of scopes differ only in the group, the credited are the same for every member. -/
theorem known_alike (here : s.group members = .ok ms)
    (alike : ∀ name, name ≠ members → s'.get? name = s.get? name) {credit : String} {member who : EntityId}
    (found : (s.inner newTarget member).entity credit = .ok who) :
    (s'.inner newTarget member).entity credit = .ok who := by
  rw [← found]
  apply Scopes.entity_congr
  rw [Scopes.get?_inner, Scopes.get?_inner]
  by_cases own : credit = newTarget
  · rw [if_pos own, if_pos own]
  · rw [if_neg own, if_neg own]
    apply alike
    rintro rfl
    have outside : (s.inner newTarget member).entity credit = s.entity credit :=
      Scopes.entity_congr (Scopes.get?_inner.trans (if_neg own))
    exact Scopes.entity_ne_ok_of_group here (outside.symm.trans found)

/-- A group of aimed effects tends its members in their order. -/
theorem cast_group (parallel : Bool) (there : s'.group members = .ok ms)
    (aims : ∀ effect ∈ effects, effect.Aims newTarget)
    (known : ∀ effect ∈ effects, ∀ credit ∈ effect.credit?, ∀ member ∈ ms,
      ∃ who, (s.inner newTarget member).entity credit = .ok who ∧
        (s'.inner newTarget member).entity credit = .ok who)
    (room : 1 ≤ limit) (a : Arena) :
    (Effect.group members newTarget parallel effects).cast ⟨s', .idle a limit⟩ =
      .ok (some (.combined parallel (ms.mapM (Effect.tended s newTarget effects) a).1))
        ⟨s', .idle (ms.mapM (Effect.tended s newTarget effects) a).2 limit⟩ := by
  have plays : Cast.Plays limit s' (Effect.group members newTarget parallel effects).cast (do
      let logs ← ms.mapM (Effect.tended s newTarget effects)
      pure (some (.combined parallel logs))) := by
    rw [Effect.cast]
    apply Cast.plays_resolve there
    refine (Cast.Plays.mapM fun member listed => ?_).bind fun logs => Cast.plays_pure _
    apply Cast.plays_inChild
    refine (Effect.plays_treated room aims Scopes.entity_inner ?_).bind fun logs => Cast.plays_pure _
    exact fun effect there credit named => known effect there credit named member listed
  exact plays a

/-- **The order of a group does not matter** when all that it does is to damage, heal or destroy its
members. Take two chains of scopes that differ only in the order of the group, whose members may be there
more than once or nowhere. Where there is room for a reaction both casts succeed, and they end in the same
arena; there is one log for each turn of a member, and each member has the same logs in the same order. -/
theorem group_order (parallel : Bool) (here : s.group members = .ok ms) (there : s'.group members = .ok ms')
    (order : ms.Perm ms') (alike : ∀ name, name ≠ members → s'.get? name = s.get? name)
    (aims : ∀ effect ∈ effects, effect.Aims newTarget)
    (known : ∀ effect ∈ effects, ∀ credit ∈ effect.credit?, ∀ member ∈ ms,
      ∃ who, (s.inner newTarget member).entity credit = .ok who)
    (room : 1 ≤ limit) (a : Arena) :
    ∃ logs logs' a',
      (Effect.group members newTarget parallel effects).cast ⟨s, .idle a limit⟩ =
        .ok (some (.combined parallel logs)) ⟨s, .idle a' limit⟩ ∧
      (Effect.group members newTarget parallel effects).cast ⟨s', .idle a limit⟩ =
        .ok (some (.combined parallel logs')) ⟨s', .idle a' limit⟩ ∧
      logs.length = ms.length ∧ logs'.length = ms'.length ∧
      ∀ id, told id ms logs = told id ms' logs' := by
  have first := cast_group parallel here aims (fun effect listed credit named member present =>
    (known effect listed credit named member present).imp fun who found => ⟨found, found⟩) room a
  have second := cast_group parallel there aims (fun effect listed credit named member present =>
    (known effect listed credit named member (order.mem_iff.mpr present)).imp fun who found =>
      ⟨found, known_alike here alike found⟩) room a
  -- Both casts tend members as the first chain says, and so they are one list of computations in two orders.
  have apart : ∀ id other, id ≠ other →
      Apart (Effect.tended s newTarget effects id) (Effect.tended s newTarget effects other) :=
    fun _ _ => Effect.apart_tended
  obtain ⟨state, answers⟩ := Apart.perm apart order a
  rw [← state] at second
  exact ⟨_, _, _, first, second, Apart.length_mapM ms a, Apart.length_mapM ms' a, answers⟩

end Groups

namespace Game.Sample

/-- A blow that the knight strikes, and some comfort after it. -/
def brawl : List Effect :=
  [.act (.damage "victim" (some "caster") (.flat 2)), .act (.healing "victim" none (.flat 1))]

/-- The knight, the wolf twice, and somebody who never was. -/
def pack : List EntityId := [⟨0⟩, ⟨1⟩, ⟨1⟩, ⟨7⟩]

def around (ids : List EntityId) : Scopes := ⟨[("near", .group ids), ("caster", .entity ⟨0⟩)], []⟩

end Game.Sample

open Game in
/-- The wolf falls at its first turn and is nowhere at its second. Whether the knight comes first or last,
the camp is the same afterwards, and so is what is told of the wolf. -/
theorem group_order_brawl :
    ∃ logs logs' a',
      (Effect.group "near" "victim" true Sample.brawl).cast
          ⟨Sample.around Sample.pack, .idle (Sample.camp ⟨1⟩).arena 1⟩ =
        .ok (some (.combined true logs)) ⟨Sample.around Sample.pack, .idle a' 1⟩ ∧
      (Effect.group "near" "victim" true Sample.brawl).cast
          ⟨Sample.around Sample.pack.reverse, .idle (Sample.camp ⟨1⟩).arena 1⟩ =
        .ok (some (.combined true logs')) ⟨Sample.around Sample.pack.reverse, .idle a' 1⟩ ∧
      told ⟨1⟩ Sample.pack logs = told ⟨1⟩ Sample.pack.reverse logs' := by
  have alike : ∀ name, name ≠ "near" →
      (Sample.around Sample.pack.reverse).get? name = (Sample.around Sample.pack).get? name := by
    intro name other
    simp [Sample.around, Scopes.get?, List.lookup_cons, beq_eq_false_iff_ne.mpr other]
  have aims : ∀ effect ∈ Sample.brawl, effect.Aims "victim" := by
    simp [Sample.brawl, Effect.Aims]
  have known : ∀ effect ∈ Sample.brawl, ∀ credit ∈ effect.credit?, ∀ member ∈ Sample.pack,
      ∃ who, ((Sample.around Sample.pack).inner "victim" member).entity credit = .ok who := by
    intro effect listed credit named member _
    refine ⟨⟨0⟩, ?_⟩
    rcases List.mem_pair.mp listed with rfl | rfl
    · cases named
      rfl
    · cases named
  obtain ⟨logs, logs', a', first, second, -, -, same⟩ := group_order true rfl rfl
    (List.reverse_perm Sample.pack).symm alike aims known (Nat.le_refl 1) (Sample.camp ⟨1⟩).arena
  exact ⟨logs, logs', a', first, second, same ⟨1⟩⟩

end Skirmish
