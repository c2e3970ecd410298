import Skirmish.Proofs.Board.Occupancy
import Skirmish.World.Operations

/-!
# Steps of the world

A **step** leads from a world to the next and is recorded by one entry of the log. `World.Step` lists
them, one constructor for each way in which an entry can arise, with all that held before the step:
who was registered and where, and what a check had allowed. The operations of the world do nothing
else (`damage_does` to `projectile_does`): each is refused and leaves the world as it is, or makes the
step that its entry records.

A **coherent** world registers exactly those who stand on its board, each held by a tile with the
layers of its type, at a health within its bound, and under a number that was given out before. This
is what keeps a destruction from taking an entity off the board without taking it out of the registry,
so `destroy_does` alone has coherence as a premise. Every step keeps it (`Coherent.step`).
-/

namespace Skirmish.World

variable {w w' : World} {id : EntityId} {e : Entity} {entry : Entry}

/-- The world in which an entity has the given record. -/
def update (w : World) (e : Entity) : World := { w with entities := w.entities.insert e }

/-- The world with the given board. -/
def withBoard (w : World) (board : Board) : World := { w with board := board }

/-- The number of the next entity, as an identifier. -/
def next (w : World) : EntityId := ⟨w.nextId⟩

/-- The world in which a new entity stands at a coordinate, checked by nobody. -/
def settleNew (w : World) (kind : EntityType) (spot : Coords) : World where
  nextId := w.nextId + 1
  board := w.board.place (Entity.fresh w.next kind).occupant spot
  entities := w.entities.insert (Entity.fresh w.next kind)

/-- The world without an entity that stood at a coordinate. -/
def without (w : World) (id : EntityId) (spot : Coords) : World :=
  { w with board := w.board.clear id spot, entities := w.entities.erase id }

/-- **The steps of a world**, each with the entry that records it. -/
inductive Step (w : World) : Entry → World → Prop
  | ability {caster e ability name target} (alive : w.entity? caster = some e) :
      Step w (.ability caster ability name target) w
  | projectile {source target} : Step w (.projectile source target) w
  | damage {target e} (alive : w.entity? target = some e) (attacker : Option EntityId) (amount : Nat) :
      Step w (.damage attacker target amount (e.absorbed amount)) (w.update (e.hurt amount))
  | healing {target e} (alive : w.entity? target = some e) (healer : Option EntityId) (amount : Nat) :
      Step w (.healing healer target amount (e.restored amount)) (w.update (e.healed amount))
  | spawn {kind spot t} (supply : w.nextId < EntityId.last) (new : w.coords? w.next = none)
      (tile : w.board.tile? spot = some t) (takes : t.checkAdd kind.domain.layers = .ok ()) :
      Step w (.spawn w.next kind spot) (w.settleNew kind spot)
  /-- Onto its own tile an entity always moves, and nothing changes. -/
  | stay {id e home} (alive : w.entity? id = some e) (placed : w.coords? id = some home) :
      Step w (.movement id home home) w
  | movement {id e home goal t} (alive : w.entity? id = some e) (placed : w.coords? id = some home)
      (apart : goal ≠ home) (tile : w.board.tile? goal = some t)
      (takes : t.checkAdd e.layers = .ok ()) :
      Step w (.movement id home goal) (w.withBoard (w.board.relocate e.occupant home goal))
  | destruction {id e spot} (alive : w.entity? id = some e) (placed : w.coords? id = some spot) :
      Step w (.destruction e spot) (w.without id spot)
  | modification {kind spot t} (tile : w.board.tile? spot = some t)
      (takes : t.checkModify kind = .ok ()) :
      Step w (.modification spot t.kind kind)
        (w.withBoard (w.board.updateTile spot ({ · with kind := kind })))

/-- What is read of an entity is its own record. -/
theorem id_of_entity? (h : w.entity? id = some e) : e.id = id := Registry.idOf_of_get? h

theorem entity?_update (e : Entity) (id : EntityId) :
    (w.update e).entity? id = if e.id = id then some e else w.entity? id :=
  Registry.get?_insert w.entities e id

theorem entity?_settleNew (kind : EntityType) (spot : Coords) (id : EntityId) :
    (w.settleNew kind spot).entity? id =
      if w.next = id then some (Entity.fresh w.next kind) else w.entity? id :=
  Registry.get?_insert w.entities _ id

theorem coords?_settleNew (kind : EntityType) (spot : Coords) (id : EntityId) :
    (w.settleNew kind spot).coords? id = if w.next = id then some spot else w.coords? id :=
  Board.coords?_place

theorem entity?_without (other : EntityId) (spot : Coords) (id : EntityId) :
    (w.without other spot).entity? id = if id = other then none else w.entity? id :=
  Registry.get?_erase w.entities other id

theorem coords?_without (other : EntityId) (spot : Coords) (id : EntityId) :
    (w.without other spot).coords? id = if id = other then none else w.coords? id :=
  Board.coords?_clear

/-! ## Coherence -/

/-- **Coherence of a world.** -/
structure Coherent (w : World) : Prop where
  board : w.board.Coherent
  /-- A registered entity is held by a tile, with the layers of its type. -/
  held : ∀ {id e}, w.entity? id = some e → ∃ spot, w.board.Holds e.occupant spot
  /-- Whoever stands on the board is registered. -/
  registered : ∀ {id spot}, w.coords? id = some spot → ∃ e, w.entity? id = some e
  health_le : ∀ {id e}, w.entity? id = some e → e.health ≤ e.kind.maxHealth
  /-- A registered number was given out before. -/
  lt_nextId : ∀ {id e}, w.entity? id = some e → id.val < w.nextId

theorem coherent_start (size : Size) (kind : TileType) : (World.start (.blank size kind)).Coherent where
  board := Board.coherent_blank size kind
  held := nofun
  registered := nofun
  health_le := nofun
  lt_nextId := nofun

namespace Coherent

/-- A registered entity stands somewhere, on a tile that holds it. -/
theorem coords_of_entity (h : w.Coherent) (alive : w.entity? id = some e) :
    ∃ spot, w.coords? id = some spot ∧ w.board.Holds e.occupant spot := by
  obtain ⟨spot, held⟩ := h.held alive
  have placed := h.board.coords_of_holds held
  exact ⟨spot, id_of_entity? alive ▸ placed, held⟩

/-- Where an entity stands, a tile holds it. -/
theorem holds (h : w.Coherent) (alive : w.entity? id = some e) {spot : Coords}
    (placed : w.coords? id = some spot) : w.board.Holds e.occupant spot := by
  obtain ⟨other, also, held⟩ := h.coords_of_entity alive
  rw [placed] at also
  cases also
  exact held

/-- Nobody is registered under a number that is still to be given out, and so nobody stands on the
board under it. -/
theorem coords?_eq_none (h : w.Coherent) (fresh : w.nextId ≤ id.val) : w.coords? id = none := by
  cases hc : w.coords? id with
  | none => rfl
  | some spot =>
    obtain ⟨e, alive⟩ := h.registered hc
    exact absurd (h.lt_nextId alive) (Nat.not_lt.mpr fresh)

/-! ## Every step keeps coherence -/

/-- A record may change as long as the entity keeps its type and stays within its bound. -/
theorem update (h : w.Coherent) (alive : w.entity? id = some e) {e' : Entity} (same : e'.id = e.id)
    (kind : e'.kind = e.kind) (bound : e'.health ≤ e'.kind.maxHealth) : (w.update e').Coherent := by
  have named : e'.id = id := same.trans (id_of_entity? alive)
  have shown : e'.occupant = e.occupant := by
    rw [Entity.occupant, Entity.layers, same, kind]
    rfl
  refine ⟨h.board, ?_, ?_, ?_, ?_⟩
  · intro j f hf
    rcases Registry.of_get?_insert hf with ⟨rfl, -⟩ | was
    · rw [shown]
      exact h.held alive
    · exact h.held was
  · intro j spot hj
    rw [entity?_update]
    split
    · exact ⟨e', rfl⟩
    · exact h.registered hj
  · intro j f hf
    rcases Registry.of_get?_insert hf with ⟨rfl, -⟩ | was
    · exact bound
    · exact h.health_le was
  · intro j f hf
    rcases Registry.of_get?_insert hf with ⟨rfl, here⟩ | was
    · have mine : id = j := named.symm.trans here
      exact mine ▸ h.lt_nextId alive
    · exact h.lt_nextId was

theorem settleNew (h : w.Coherent) {kind : EntityType} {spot : Coords} {t : Tile}
    (tile : w.board.tile? spot = some t) (takes : t.checkAdd kind.domain.layers = .ok ()) :
    (w.settleNew kind spot).Coherent := by
  have new : w.coords? w.next = none := h.coords?_eq_none (Nat.le_refl _)
  refine ⟨h.board.place new tile takes, ?_, ?_, ?_, ?_⟩
  · intro j f hf
    rcases Registry.of_get?_insert hf with ⟨rfl, -⟩ | was
    · exact ⟨spot, Board.holds_place tile⟩
    · obtain ⟨c, held⟩ := h.held was
      exact ⟨c, held.place⟩
  · intro j c hj
    rw [coords?_settleNew] at hj
    rw [entity?_settleNew]
    split at hj
    · next here => exact ⟨_, if_pos here⟩
    · next other => exact if_neg other ▸ h.registered hj
  · intro j f hf
    rcases Registry.of_get?_insert hf with ⟨rfl, -⟩ | was
    · exact Nat.le_refl _
    · exact h.health_le was
  · intro j f hf
    rcases Registry.of_get?_insert hf with ⟨-, here⟩ | was
    · exact here ▸ Nat.lt_succ_self _
    · exact Nat.lt_succ_of_lt (h.lt_nextId was)

theorem relocate (h : w.Coherent) (alive : w.entity? id = some e) {home goal : Coords} {t : Tile}
    (placed : w.coords? id = some home) (apart : goal ≠ home) (tile : w.board.tile? goal = some t)
    (takes : t.checkAdd e.layers = .ok ()) :
    (w.withBoard (w.board.relocate e.occupant home goal)).Coherent := by
  have named := id_of_entity? alive
  have placed' : w.board.coords? e.occupant.id = some home := by
    rw [show e.occupant.id = id from named]
    exact placed
  refine ⟨h.board.relocate placed' apart tile takes, ?_, ?_, h.health_le, h.lt_nextId⟩
  · intro j f hf
    by_cases same : j = id
    · subst same
      have unique : f = e := Option.some.inj (hf.symm.trans alive)
      exact ⟨goal, unique ▸ Board.holds_relocate tile apart⟩
    · obtain ⟨c, held⟩ := h.held hf
      have other : f.occupant.id ≠ e.occupant.id := by
        show f.id ≠ e.id
        rw [id_of_entity? hf, named]
        exact same
      exact ⟨c, held.relocate other apart⟩
  · intro j c hj
    have hj' : (w.board.relocate e.occupant home goal).coords? j = some c := hj
    rw [Board.coords?_relocate] at hj'
    split at hj'
    · next here =>
      have mover : j = id := here.symm.trans named
      exact ⟨e, mover ▸ alive⟩
    · exact h.registered hj'

theorem without (h : w.Coherent) {spot : Coords} (placed : w.coords? id = some spot) :
    (w.without id spot).Coherent := by
  refine ⟨h.board.clear placed, ?_, ?_, ?_, ?_⟩
  · intro j f hf
    obtain ⟨other, was⟩ := Registry.of_get?_erase hf
    obtain ⟨c, held⟩ := h.held was
    refine ⟨c, held.clear ?_⟩
    show f.id ≠ id
    rw [id_of_entity? was]
    exact other
  · intro j c hj
    rw [coords?_without] at hj
    rw [entity?_without]
    split at hj
    · cases hj
    · next other => exact if_neg other ▸ h.registered hj
  · intro j f hf
    exact h.health_le (Registry.of_get?_erase hf).2
  · intro j f hf
    exact h.lt_nextId (Registry.of_get?_erase hf).2

theorem retype (h : w.Coherent) {kind : TileType} {spot : Coords} {t : Tile}
    (tile : w.board.tile? spot = some t) (takes : t.checkModify kind = .ok ()) :
    (w.withBoard (w.board.updateTile spot ({ · with kind := kind }))).Coherent := by
  refine ⟨h.board.retype tile takes, ?_, ?_, h.health_le, h.lt_nextId⟩
  · intro j f hf
    obtain ⟨c, held⟩ := h.held hf
    exact ⟨c, held.retype⟩
  · intro j c hj
    have hj' : (w.board.updateTile spot ({ · with kind := kind })).coords? j = some c := hj
    rw [Board.coords?_updateTile] at hj'
    exact h.registered hj'

/-- **A step keeps coherence.** -/
theorem step (h : w.Coherent) (s : w.Step entry w') : w'.Coherent := by
  cases s with
  | ability => exact h
  | projectile => exact h
  | damage alive attacker amount =>
    exact h.update alive rfl rfl (Entity.hurt_le (h.health_le alive) amount)
  | healing alive healer amount =>
    exact h.update alive rfl rfl (Entity.healed_le (h.health_le alive) amount)
  | spawn supply new tile takes => exact h.settleNew tile takes
  | stay => exact h
  | movement alive placed apart tile takes => exact h.relocate alive placed apart tile takes
  | destruction alive placed => exact h.without placed
  | modification tile takes => exact h.retype tile takes

end Coherent

/-! ## The operations make steps -/

/-- Whether what an operation answers is a refusal that leaves the world as it is, or the entry of the
step that it made. -/
def Does (w : World) : Option Entry × World → Prop
  | (none, w') => w' = w
  | (some entry, w') => w.Step entry w'

theorem damage_does (target : EntityId) (amount : Amount) (attacker : Option EntityId) :
    w.Does (w.damage target amount attacker) := by
  unfold damage
  cases alive : w.entity? target with
  | none => rfl
  | some e => exact .damage alive attacker amount.resolve

theorem heal_does (target : EntityId) (amount : Amount) (healer : Option EntityId) :
    w.Does (w.heal target amount healer) := by
  unfold heal
  cases alive : w.entity? target with
  | none => rfl
  | some e => exact .healing alive healer amount.resolve

/-- In a coherent world nobody is on the board without being registered, so that a destruction takes
an entity from both or from neither. -/
theorem destroy_does (h : w.Coherent) (target : EntityId) : w.Does (w.destroy target) := by
  unfold destroy discard
  cases removed : w.board.remove target with
  | error _ => rfl
  | ok gone =>
    obtain ⟨spot, board⟩ := gone
    obtain ⟨placed, rfl⟩ := Board.remove_eq_ok.mp removed
    obtain ⟨e, alive⟩ := h.registered placed
    simp only [alive]
    exact .destruction alive placed

theorem spawn_does (kind : EntityType) (spot : Coords) : w.Does (w.spawn kind spot) := by
  unfold spawn create
  by_cases spent : EntityId.last ≤ w.nextId
  · simp only [if_pos spent]
    rfl
  · simp only [if_neg spent]
    cases added : w.board.add (Entity.fresh w.next kind).occupant spot with
    | error _ =>
      simp only [show (⟨w.nextId⟩ : EntityId) = w.next from rfl, added]
      rfl
    | ok board =>
      obtain ⟨new, ⟨t, tile, takes⟩, rfl⟩ := Board.add_eq_ok.mp added
      simp only [show (⟨w.nextId⟩ : EntityId) = w.next from rfl, added]
      exact .spawn (Nat.not_le.mp spent) new tile takes

theorem moveEntity_does (target : EntityId) (aim : Coords) (relative : Bool) :
    w.Does (w.moveEntity target aim relative) := by
  unfold moveEntity
  cases placed : w.coords? target with
  | none => rfl
  | some home =>
    cases alive : w.entity? target with
    | none => rfl
    | some e =>
      dsimp only
      generalize (if relative then home + aim else aim) = goal
      cases moved : w.board.move e.occupant goal with
      | error _ => rfl
      | ok left =>
        obtain ⟨origin, board⟩ := left
        obtain ⟨placed', t, tile, change⟩ := Board.move_eq_ok.mp moved
        have same : home = origin := by
          rw [show e.occupant.id = target from id_of_entity? alive] at placed'
          exact Option.some.inj (placed.symm.trans placed')
        subst same
        rcases change with ⟨rfl, rfl⟩ | ⟨apart, takes, rfl⟩
        · exact .stay alive placed
        · exact .movement alive placed apart tile takes

theorem modify_does (kind : TileType) (spot : Coords) : w.Does (w.modify kind spot) := by
  unfold modify
  cases done : w.board.modify kind spot with
  | error _ => rfl
  | ok changed =>
    obtain ⟨previous, board⟩ := changed
    obtain ⟨t, tile, takes, rfl, rfl⟩ := Board.modify_eq_ok.mp done
    exact .modification tile takes

theorem projectile_does (source target : Location) : w.Does (w.projectile source target) :=
  .projectile

/-! ## Which entry an operation makes -/

theorem damage_entry {target : EntityId} {amount : Amount} {attacker : Option EntityId}
    (h : (w.damage target amount attacker).1 = some entry) :
    ∃ actual, entry = .damage attacker target amount.resolve actual := by
  unfold damage at h
  split at h
  · cases h
  · exact ⟨_, (Option.some.inj h).symm⟩

theorem heal_entry {target : EntityId} {amount : Amount} {healer : Option EntityId}
    (h : (w.heal target amount healer).1 = some entry) :
    ∃ actual, entry = .healing healer target amount.resolve actual := by
  unfold heal at h
  split at h
  · cases h
  · exact ⟨_, (Option.some.inj h).symm⟩

theorem destroy_entry {target : EntityId} (h : (w.destroy target).1 = some entry) :
    ∃ e spot, entry = .destruction e spot ∧ e.id = target := by
  unfold destroy discard at h
  split at h
  · cases h
  · next e spot _ gone =>
    cases h
    refine ⟨e, spot, rfl, ?_⟩
    split at gone
    · cases gone
    · split at gone
      · cases gone
      · next alive =>
        cases gone
        exact id_of_entity? alive

theorem spawn_entry {kind : EntityType} {spot : Coords} (h : (w.spawn kind spot).1 = some entry) :
    ∃ id, entry = .spawn id kind spot := by
  unfold spawn at h
  split at h
  · cases h
  · exact ⟨_, (Option.some.inj h).symm⟩

theorem moveEntity_entry {target : EntityId} {aim : Coords} {relative : Bool}
    (h : (w.moveEntity target aim relative).1 = some entry) :
    ∃ home goal, entry = .movement target home goal := by
  unfold moveEntity at h
  split at h
  · dsimp only at h
    split at h
    · cases h
    · exact ⟨_, _, (Option.some.inj h).symm⟩
  · cases h

theorem modify_entry {kind : TileType} {spot : Coords} (h : (w.modify kind spot).1 = some entry) :
    ∃ previous, entry = .modification spot previous kind := by
  unfold modify at h
  split at h
  · cases h
  · exact ⟨_, (Option.some.inj h).symm⟩

end Skirmish.World
