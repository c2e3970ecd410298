import Skirmish.Proofs.Arena.Cascades
import Skirmish.Proofs.Casting.Closed
import Skirmish.Proofs.Game.Answers

/-!
# No walking dead

An arena is **lively** when everybody whose type has health at all has some left. Inside a cascade this
fails, between a deadly damage and the destruction that it calls for. It never fails where an event has
been resolved, provided that the limit leaves room for a reaction (`process_atEase`): an event that fells
somebody ends with the destruction. An effect is cast by resolving events, one after the other, and a
cast that is cut short is cut between two of them; so every call keeps liveliness, in success and
failure (`Game.lively_after`).

Without room the law is false: then the destruction is refused and the dead stay (`process_cut`). And
who never had health stands at none.
-/

namespace Skirmish

/-- Whether everybody has health left whose type has health at all. -/
def World.Lively (w : World) : Prop :=
  ∀ id e, w.entity? id = some e → 0 < e.kind.maxHealth → 0 < e.health

namespace World.Lively

variable {w w' : World} {id : EntityId} {e : Entity}

theorem update (h : w.Lively) (strong : 0 < e.kind.maxHealth → 0 < e.health) : (w.update e).Lively := by
  intro other f known able
  obtain ⟨rfl, -⟩ | was := Registry.of_get?_insert known
  · exact strong able
  · exact h other f was able

theorem without (h : w.Lively) (id : EntityId) (spot : Coords) : (w.without id spot).Lively := by
  intro other f known able
  obtain ⟨-, was⟩ := Registry.of_get?_erase known
  exact h other f was able

/-- A step keeps everybody lively who is not left without health by it. -/
theorem step {entry : Entry} (h : w.Lively) (s : w.Step entry w')
    (spared : ∀ attacker target amount actual, entry = .damage attacker target amount actual →
      w'.health? target ≠ some 0) : w'.Lively := by
  cases s with
  | @damage target e alive attacker amount =>
    apply h.update
    intro _
    have left := spared _ _ _ _ rfl
    rw [World.health?, World.entity?_update_self alive (e.hurt amount) rfl] at left
    exact Nat.pos_of_ne_zero fun none => left (congrArg some none)
  | @healing target e alive healer amount =>
    apply h.update
    intro able
    exact Nat.lt_of_lt_of_le (h target e alive able) (Nat.le_add_right _ _)
  | spawn => exact h.update id
  | destruction => exact h.without _ _
  | _ => exact h

/-- Whoever is taken out may have been in any state. -/
theorem update_without (h : w.Lively) (same : e.id = id) (spot : Coords) :
    ((w.update e).without id spot).Lively := by
  intro other f known able
  obtain ⟨apart, there⟩ := Registry.of_get?_erase known
  obtain ⟨-, here⟩ | was := Registry.of_get?_insert there
  · exact absurd (here.symm.trans same) apart
  · exact h other f was able

end World.Lively

namespace Event

variable {w : World} {event : Event}

/-- Only damage makes an entry of damage, and it spares whom it does not fell. -/
theorem spared_of_calm (calm : ¬ event.Fells w) {attacker : Option EntityId} {target : EntityId}
    {amount actual : Nat} (made : (event.operation w).1 = some (.damage attacker target amount actual)) :
    (event.operation w).2.health? target ≠ some 0 := by
  cases event with
  | damage target amount attacker =>
    obtain ⟨_, same⟩ := World.damage_entry made
    cases same
    exact calm
  | heal target amount healer =>
    obtain ⟨_, same⟩ := World.heal_entry made
    cases same
  | destroy entity =>
    obtain ⟨_, _, same, -⟩ := World.destroy_entry made
    cases same
  | spawn kind spot =>
    obtain ⟨_, same⟩ := World.spawn_entry made
    cases same
  | move entity goal relative =>
    obtain ⟨_, _, same⟩ := World.moveEntity_entry made
    cases same
  | modify kind spot =>
    obtain ⟨_, same⟩ := World.modify_entry made
    cases same
  | projectile source target => cases made

theorem settled_lively {a : Arena} (h : a.Coherent) (lively : a.world.Lively)
    (calm : ¬ event.Fells a.world) : (event.settled a).world.Lively := by
  have does := event.settled_does h
  cases made : (event.operation a.world).1 with
  | none =>
    rw [Event.settled_of_refused h made]
    exact lively
  | some entry =>
    rw [made] at does
    apply lively.step does.world
    intro attacker target amount actual same
    subst same
    exact spared_of_calm calm made

end Event

namespace Context

/-- Nothing is pending, and in the arena everybody is where they should be and lively. -/
structure AtEase (limit : Nat) (c : Context) : Prop where
  idle : c = .idle c.arena limit
  coherent : c.arena.Coherent
  lively : c.arena.world.Lively

/-- **Where there is room for a reaction, no resolution of an event leaves anybody without health**
behind. -/
theorem process_atEase {limit : Nat} (room : 1 ≤ limit) : Stable (AtEase limit) := by
  intro event c ease
  obtain ⟨a, stack⟩ := c
  obtain ⟨idle, h, lively⟩ := ease
  cases idle
  have trace := process_trace event (Context.idle a limit) h
  show Ensures (process event (Context.idle a limit)) _ _
  by_cases fells : event.Fells a.world
  · cases event with
    | damage target amount attacker =>
      obtain ⟨e, alive, fallen⟩ := fells.target
      obtain ⟨spot, placed, -⟩ := h.world.coords_of_entity alive
      rw [process_felling alive fallen placed attacker room] at trace ⊢
      have named : e.id = target := World.id_of_entity? alive
      exact ⟨rfl, h.trace trace, lively.update_without (e := e.hurt amount.resolve) named spot⟩
    | _ => exact fells.elim
  · rw [process_calm h fells] at trace ⊢
    exact ⟨rfl, h.trace trace, event.settled_lively h lively fells⟩

end Context

namespace Game

variable {g : Game}

theorem run_lively {α : Type} {step : EStateM CastError Context α}
    (h : Ensures (step (.idle g.arena g.config.maxCascadeDepth))
      (fun _ c => c.AtEase g.config.maxCascadeDepth) (fun _ c => c.AtEase g.config.maxCascadeDepth)) :
    Ensures (run step g) (fun _ g' => g'.world.Lively) (fun _ g' => g'.world.Lively) := by
  apply run_ensures (fun _ b => b.world.Lively) (fun _ b => b.world.Lively)
  apply h.mono
  · intro _ c ease
    exact ease.lively
  · intro _ c ease
    exact ease.lively

/-- **Every call keeps liveliness**, whether it answers or fails. -/
theorem lively_after (h : g.arena.Coherent) (room : 1 ≤ g.config.maxCascadeDepth) (lively : g.world.Lively)
    (call : Call) : (g.after call).world.Lively := by
  have stable := Context.process_atEase room
  have ease : (Context.idle g.arena g.config.maxCascadeDepth).AtEase g.config.maxCascadeDepth :=
    ⟨rfl, h, lively⟩
  apply after_of (Q := fun g' => g'.world.Lively) lively
  · intro kind spot
    exact run_lively (stable (.spawn kind spot) _ ease)
  · intro a caster target
    exact run_lively (a.cast_keeps stable caster target ease)
  · intro g' actor still
    exact still

theorem Reachable.lively (reached : Reachable g) (room : 1 ≤ g.config.maxCascadeDepth) :
    g.world.Lively := by
  induction reached with
  | start started =>
    obtain ⟨-, rfl⟩ := start_eq_ok.mp started
    exact nofun
  | after reached call ih =>
    rw [config_after] at room
    exact lively_after reached.coherent room (ih room) call

/-- **No walking dead.** Where the limit leaves room for a reaction, everybody who is registered in a
reachable game has health left, except those whose type has none at all; and so it is with everybody who
stands on a tile or waits for a turn. -/
theorem no_walking_dead (reached : Reachable g) (room : 1 ≤ g.config.maxCascadeDepth) :
    (∀ id e, g.world.entity? id = some e → 0 < e.kind.maxHealth → 0 < e.health) ∧
    (∀ id spot, id ∈ g.world.board.occupantsAt spot → ∃ e, g.world.entity? id = some e ∧
      (0 < e.kind.maxHealth → 0 < e.health)) ∧
    ∀ id, id ∈ g.turns.queue → ∃ e, g.world.entity? id = some e ∧
      (0 < e.kind.maxHealth → 0 < e.health) := by
  have h := reached.coherent
  have lively := reached.lively room
  refine ⟨lively, ?_, ?_⟩
  · intro id spot listed
    obtain ⟨e, alive⟩ := h.world.registered (h.world.board.listed_iff.mp listed)
    exact ⟨e, alive, lively id e alive⟩
  · intro id waits
    obtain ⟨kind, known, -⟩ := h.waiting_iff.mp waits
    obtain ⟨e, alive, -⟩ := World.kind?_eq_some.mp known
    exact ⟨e, alive, lively id e alive⟩

/-- The uproar without a target is cut short after the wolf has fallen. The knight is left with health,
and nobody else is left. -/
theorem no_walking_dead_uproar :
    let g := (Sample.camp .usual).after (.takeTurn "uproar" none)
    1 ≤ g.config.maxCascadeDepth ∧ g.turns.queue = [⟨0⟩] ∧
      ∃ e, g.world.entity? ⟨0⟩ = some e ∧ (0 < e.kind.maxHealth → 0 < e.health) := by
  intro g
  have reached : Reachable g := (Sample.camp_reachable .usual).after _
  have room : 1 ≤ g.config.maxCascadeDepth := by decide +kernel
  have queue : g.turns.queue = [⟨0⟩] := by decide +kernel
  refine ⟨room, queue, ?_⟩
  apply (no_walking_dead reached room).2.2
  rw [queue]
  exact List.mem_singleton_self _

end Game

end Skirmish
