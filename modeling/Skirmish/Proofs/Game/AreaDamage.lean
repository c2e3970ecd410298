import Skirmish.Proofs.Board.Area
import Skirmish.Proofs.Casting.Areas

/-!
# Area damage

An ability may gather those near its target and then damage each of them. **The law** (`area_damage`):
where there is room for a reaction, such an ability is cast without fail; everybody who was near when it
was cast is struck once and in the order of the scan, as if it were the only one, and nobody else is
touched.

The group is read before the first blow, so it does not matter who falls on the way: not the caster, and
not the one at the centre. Nobody who is near is found twice (`Board.Coherent.nodup_within`), and everybody
who is found stands on the board (`Board.Coherent.mem_within`).
-/

namespace Skirmish.Game

variable {g : Game} {name newGroup newTarget : String} {ability : Ability} {radius : Nat} {parallel : Bool}
  {attacker : Option String} {amount : Amount} {caster : EntityId} {e : Entity} {target : Target}
  {centre : Coords}

/-- A registered ability that succeeds is cast by whoever is registered. -/
theorem cast_of_ability {target : Option Target} {log : Log} {a : Arena} {limit : Nat}
    (known : g.content.ability? name = some ability) (alive : g.world.entity? caster = some e)
    (played : ability.cast caster target (.idle g.arena g.config.maxCascadeDepth) = .ok log (.idle a limit)) :
    cast name caster target g = .ok log { g with arena := a } := by
  rw [cast, known]
  dsimp only
  rw [alive]
  dsimp only
  rw [run, played]
  rfl

/-- **Area damage strikes everybody near once.** In a reachable game with room for a reaction, let an ability
gather those within a radius of its target under a new name and damage each of them, and let it be cast at a
coordinate or at somebody who stands there. The cast succeeds. Everybody who was near, and each of them once,
is left with what the damage leaves of its health, and is gone from everywhere when that is nothing; nobody
else changes. The group has a log for each of them in the order of the scan: the damage, and then the
destruction when no health was left. -/
theorem area_damage (reached : Reachable g) (room : 1 ≤ g.config.maxCascadeDepth)
    (known : g.content.ability? name = some ability)
    (effects : ability.effects = [.act (.areaTarget Scopes.target radius newGroup),
      .group newGroup newTarget parallel [.act (.damage newTarget attacker amount)]])
    (new : newGroup ≠ Scopes.caster ∧ newGroup ≠ Scopes.target) (alive : g.world.entity? caster = some e)
    (aimed : target = .coords centre ∨ ∃ id, target = .entity id ∧ g.world.coords? id = some centre)
    (credits : Credits (.ofCast caster (some target)) newTarget attacker) :
    let near := g.world.board.within centre radius
    ∃ logs a', cast name caster (some target) g = .ok
        (.combined false [.entry (.ability caster ability.id ability.name target.location?),
          .combined false [.combined parallel logs]]) { g with arena := a' } ∧
      near.Nodup ∧ g.arena.Struck amount.resolve near a' ∧
      List.Forall₂ (fun id log => ∃ e spot, g.world.entity? id = some e ∧ g.world.coords? id = some spot ∧
        log.leaves = e.toldOfBlow (creditIn (.ofCast caster (some target)) newTarget attacker id)
          amount.resolve spot) near logs := by
  intro near
  have h : g.arena.Coherent := reached.coherent
  have once : near.Nodup := h.world.board.nodup_within centre radius
  have stand : ∀ id ∈ near, ∃ spot, g.world.coords? id = some spot := fun id found =>
    (h.world.board.mem_within.mp found).imp fun _ => And.left
  obtain ⟨place, single, there⟩ : ∃ place, target.location? = some place ∧
      g.world.locate place = some centre := by
    rcases aimed with rfl | ⟨id, rfl, placed⟩
    · exact ⟨.coords centre, rfl, rfl⟩
    · exact ⟨.entity id, rfl, placed⟩
  have free := Scopes.get?_ofCast_of_ne caster target new
  obtain ⟨scopes, bound⟩ := Scopes.exists_bind free (.group near)
  obtain ⟨logs, a', blows, struck, told⟩ := cast_blows credits free bound parallel room h once stand
  refine ⟨logs, a', ?_, once, struck, told⟩
  have area : (Effect.act (.areaTarget Scopes.target radius newGroup)).cast
      ⟨.ofCast caster (some target), .idle g.arena g.config.maxCascadeDepth⟩ =
      .ok none ⟨scopes, .idle g.arena g.config.maxCascadeDepth⟩ := by
    rw [Effect.cast]
    exact Action.cast_areaTarget (Scopes.location_ofCast caster single) there bound
  have all := castAll_cons_of_ok area (castAll_single blows)
  rw [← effects] at all
  exact cast_of_ability known alive (Ability.cast_of_castAll all)

namespace Sample

/-- Strikes whoever stands on the target's tile or beside it. -/
def storm : Ability where
  id := "storm"
  name := "Storm"
  effects :=
    [.act (.areaTarget "target" 1 "near"),
     .group "near" "victim" true [.act (.damage "victim" (some "caster") (.flat 2))]]

/-- The knight and the wolf in the open, where the knight can call a storm. -/
def coast (config : Config) : Game :=
  ((⟨{ bundle with abilities := [storm] }, config, ⟨.start (.blank ⟨3, 3⟩ meadow), .none⟩⟩ : Game).after
    (.spawn "knight" ⟨0, 0⟩)).after (.spawn "wolf" ⟨1, 0⟩)

theorem coast_reachable (config : Config) : Reachable (coast config) :=
  ((Reachable.start (start_eq_ok.mpr ⟨by decide, rfl⟩)).after _).after _

end Sample

/-- The storm around the wolf fells the wolf and leaves the knight, who called it, one health. -/
theorem area_damage_storm :
    ∃ logs a', cast "storm" ⟨0⟩ (some (.entity ⟨1⟩)) (Sample.coast ⟨1⟩) = .ok
        (.combined false [.entry (.ability ⟨0⟩ "storm" "Storm" (some (.entity ⟨1⟩))),
          .combined false [.combined true logs]]) { Sample.coast ⟨1⟩ with arena := a' } ∧
      logs.length = 2 ∧ a'.world.entity? ⟨0⟩ = some ⟨⟨0⟩, Sample.knight, 1⟩ ∧
      a'.world.entity? ⟨1⟩ = none := by
  have room : 1 ≤ (Sample.coast ⟨1⟩).config.maxCascadeDepth := by decide +kernel
  have known : (Sample.coast ⟨1⟩).content.ability? "storm" = some Sample.storm := by decide +kernel
  have alive : (Sample.coast ⟨1⟩).world.entity? ⟨0⟩ = some ⟨⟨0⟩, Sample.knight, 3⟩ := by decide +kernel
  have placed : (Sample.coast ⟨1⟩).world.coords? ⟨1⟩ = some ⟨1, 0⟩ := by decide +kernel
  have credits : Credits (.ofCast ⟨0⟩ (some (.entity ⟨1⟩))) "victim" (some "caster") := by
    rintro name ⟨⟩
    exact .inr ⟨⟨0⟩, rfl⟩
  obtain ⟨logs, a', cast, -, struck, told⟩ := area_damage (Sample.coast_reachable ⟨1⟩) room known rfl
    ⟨by decide, by decide⟩ alive (.inr ⟨⟨1⟩, rfl, placed⟩) credits
  refine ⟨logs, a', cast, ?_, ?_, ?_⟩
  · rw [← told.length_eq]
    decide +kernel
  · rw [struck.entity?]
    decide +kernel
  · rw [struck.entity?]
    decide +kernel

end Skirmish.Game
