import Skirmish.Proofs.Content.Reachable

/-!
# What validation establishes

A bundle is **valid** when it has an id, when in each of its lists every id is there and stands for one
definition, and when it registers the default tile and every type that its abilities carry at any depth
(`Bundle.Valid`). Validation decides this (`Bundle.validate_eq_ok`).

A lookup answers the first definition of an id, and a reference must be registered with its whole
content. The two agree because the ids of a list have been found distinct before any reference is looked
up (`find?_eq_some_of_distinct`). Effects are checked as they are nested; that comes to a check of one
reference after the other, in the order in which the effects carry them (`checkEffects_eq`), so that
validation is four lists that are gone through in turn (`validate_eq`).
-/

namespace Skirmish.Bundle

/-- Whether a bundle registers a definition with this content. -/
def Registers (b : Bundle) : Definition → Prop
  | .tileType kind => kind ∈ b.tileTypes
  | .entityType kind => kind ∈ b.entityTypes
  | .ability ability => ability ∈ b.abilities

/-- Whether every id of a list is there and stands for one definition. -/
def Distinct (ids : List String) : Prop := "" ∉ ids ∧ ids.Nodup

/-- **Valid bundles.** -/
structure Valid (b : Bundle) : Prop where
  named : b.id ≠ ""
  tileTypes : Distinct (b.tileTypes.map TileType.id)
  entityTypes : Distinct (b.entityTypes.map EntityType.id)
  abilities : Distinct (b.abilities.map Ability.id)
  defaultTile : b.defaultTile ∈ b.tileTypes
  carried : ∀ a ∈ b.abilities, ∀ d ∈ Effect.carriedAll a.effects, b.Registers d

variable {b : Bundle}

/-! ## Checks in a row -/

theorem then_eq_ok {ε : Type} {first second : Except ε Unit} :
    (do first; second) = .ok () ↔ first = .ok () ∧ second = .ok () := by
  cases first with
  | error e => exact ⟨nofun, nofun⟩
  | ok u => exact ⟨fun h => ⟨rfl, h⟩, And.right⟩

theorem forM_eq_ok {ε α : Type} {check : α → Except ε Unit} {l : List α} :
    l.forM check = .ok () ↔ ∀ a ∈ l, check a = .ok () := by
  induction l with
  | nil => exact ⟨fun _ => nofun, fun _ => rfl⟩
  | cons a l ih =>
    show (do check a; l.forM check) = .ok () ↔ _
    rw [then_eq_ok, List.forall_mem_cons, ih]

/-! ## Identities -/

theorem checkIds_eq_ok {kind : DefinitionKind} {seen ids : List String} :
    checkIds kind seen ids = .ok () ↔ Distinct ids ∧ ∀ id ∈ ids, id ∉ seen := by
  induction ids generalizing seen with
  | nil => exact ⟨fun _ => ⟨⟨nofun, List.nodup_nil⟩, nofun⟩, fun _ => rfl⟩
  | cons id ids ih =>
    rw [checkIds, Distinct, List.mem_cons, List.nodup_cons, List.forall_mem_cons]
    by_cases none : id = ""
    · rw [if_pos none]
      exact ⟨nofun, fun h => absurd (.inl none.symm) h.1.1⟩
    by_cases known : id ∈ seen
    · rw [if_neg none, if_pos known]
      exact ⟨nofun, fun h => absurd known h.2.1⟩
    rw [if_neg none, if_neg known, ih]
    constructor
    · rintro ⟨⟨named, distinct⟩, fresh⟩
      refine ⟨⟨?_, ?_, distinct⟩, known, ?_⟩
      · rintro (here | later)
        · exact none here.symm
        · exact named later
      · exact fun again => fresh id again List.mem_cons_self
      · exact fun other later seen => fresh other later (List.mem_cons_of_mem _ seen)
    · rintro ⟨⟨named, once, distinct⟩, -, fresh⟩
      refine ⟨⟨fun later => named (.inr later), distinct⟩, ?_⟩
      intro other later seen
      rcases List.mem_cons.mp seen with rfl | before
      · exact once later
      · exact fresh other later before

/-- Where ids are distinct, the first definition of an id is the only one. -/
theorem find?_eq_some_of_distinct {α : Type} {ids : α → String} {l : List α}
    (distinct : (l.map ids).Nodup) (a : α) : l.find? (fun k => ids k == ids a) = some a ↔ a ∈ l := by
  refine ⟨List.mem_of_find?_eq_some, ?_⟩
  intro listed
  induction l with
  | nil => cases listed
  | cons k l ih =>
    rw [List.map_cons, List.nodup_cons] at distinct
    rcases List.mem_cons.mp listed with rfl | later
    · exact List.find?_cons_of_pos (beq_self_eq_true (ids a))
    · have other : ids k ≠ ids a := fun same => distinct.1 (same ▸ List.mem_map_of_mem later)
      rw [List.find?_cons_of_neg (by simpa using other)]
      exact ih distinct.2 later

/-! ## References -/

/-- The ids of the definitions of a kind, as they are listed. A bundle is the only one of its kind, and
effects have no ids. -/
def ids (b : Bundle) : DefinitionKind → List String
  | .bundle => [b.id]
  | .tileType => b.tileTypes.map TileType.id
  | .entityType => b.entityTypes.map EntityType.id
  | .ability => b.abilities.map Ability.id
  | .effect => []

/-- What a bundle refers to: the default tile, and the types that its abilities carry at any depth. -/
def uses (b : Bundle) : List Definition :=
  .tileType b.defaultTile :: b.abilities.flatMap fun a => Effect.carriedAll a.effects

/-- The check of a reference to a type. -/
def checkUse (b : Bundle) : Definition → Except DefinitionError Unit
  | .tileType kind => b.checkTileType kind
  | .entityType kind => b.checkEntityType kind
  | .ability _ => .ok ()

theorem forM_singleton {ε α : Type} (check : α → Except ε Unit) (a : α) : [a].forM check = check a := by
  show (do check a; pure ()) = check a
  cases check a <;> rfl

theorem forM_append {ε α : Type} (check : α → Except ε Unit) (l m : List α) :
    (l ++ m).forM check = (do l.forM check; m.forM check) :=
  List.forM_append

theorem checkAction_eq (b : Bundle) (action : Action) :
    b.checkAction action = action.carried.forM b.checkUse := by
  cases action with
  | modification spot kind => exact (forM_singleton b.checkUse (.tileType kind)).symm
  | spawn spot kind => exact (forM_singleton b.checkUse (.entityType kind)).symm
  | _ => rfl

mutual

/-- **The check of an effect** is the check of what it carries. -/
theorem checkEffect_eq (b : Bundle) : (effect : Effect) →
    b.checkEffect effect = effect.carried.forM b.checkUse
  | .act action => by
    rw [checkEffect, Effect.carried]
    exact b.checkAction_eq action
  | .group members newTarget parallel effects => by
    rw [checkEffect, Effect.carried]
    exact b.checkEffects_eq effects

theorem checkEffects_eq (b : Bundle) : (effects : List Effect) →
    b.checkEffects effects = (Effect.carriedAll effects).forM b.checkUse
  | [] => by
    rw [checkEffects, Effect.carriedAll]
    rfl
  | effect :: effects => by
    rw [checkEffects, Effect.carriedAll, forM_append, b.checkEffect_eq effect, b.checkEffects_eq effects]

end

theorem checkAbilities_eq (b : Bundle) (abilities : List Ability) :
    (abilities.forM fun a => b.checkEffects a.effects) =
      (abilities.flatMap fun a => Effect.carriedAll a.effects).forM b.checkUse := by
  induction abilities with
  | nil => rfl
  | cons a abilities ih =>
    rw [List.flatMap_cons, forM_append, ← ih, ← b.checkEffects_eq a.effects]
    rfl

/-- **Validation in turn**: the id of the bundle, the ids of each list, and then the references. -/
theorem validate_eq (b : Bundle) : b.validate = (do
    if b.id = "" then throw (.missingId .bundle)
    checkIds .tileType [] (b.ids .tileType)
    checkIds .entityType [] (b.ids .entityType)
    checkIds .ability [] (b.ids .ability)
    b.uses.forM b.checkUse) := by
  have references : (do b.checkTileType b.defaultTile; b.abilities.forM fun a => b.checkEffects a.effects) =
      b.uses.forM b.checkUse := by
    rw [b.checkAbilities_eq]
    rfl
  rw [← references]
  rfl

theorem uses_types (b : Bundle) : ∀ d ∈ b.uses, d.IsType := by
  intro d used
  rcases List.mem_cons.mp used with rfl | carried
  · trivial
  · obtain ⟨a, -, hd⟩ := List.mem_flatMap.mp carried
    rw [← Effect.referencesAll_eq_carriedAll] at hd
    exact Effect.referencesAll_types a.effects d hd

/-- What is registered passes, since no other definition answers to its id. -/
theorem checkUse_of_registers (tiles : Distinct (b.ids .tileType)) (entities : Distinct (b.ids .entityType))
    {d : Definition} (there : b.Registers d) : b.checkUse d = .ok () := by
  cases d with
  | tileType kind => exact if_pos ((find?_eq_some_of_distinct tiles.2 kind).mpr there)
  | entityType kind => exact if_pos ((find?_eq_some_of_distinct entities.2 kind).mpr there)
  | ability ability => rfl

/-- What is not registered does not pass, whatever answers to its id. -/
theorem checkUse_of_not_registers {d : Definition} (type : d.IsType) (absent : ¬ b.Registers d) :
    b.checkUse d = .error (.unknownReference d.kind d.id) := by
  cases d with
  | tileType kind => exact if_neg fun found => absent (List.mem_of_find?_eq_some found)
  | entityType kind => exact if_neg fun found => absent (List.mem_of_find?_eq_some found)
  | ability ability => exact type.elim

theorem checkUse_eq_ok (tiles : Distinct (b.ids .tileType)) (entities : Distinct (b.ids .entityType))
    {d : Definition} (type : d.IsType) : b.checkUse d = .ok () ↔ b.Registers d := by
  refine ⟨?_, checkUse_of_registers tiles entities⟩
  intro passed
  by_cases there : b.Registers d
  · exact there
  · rw [checkUse_of_not_registers type there] at passed
    cases passed

theorem Valid.registers_uses (valid : b.Valid) : ∀ d ∈ b.uses, b.Registers d := by
  intro d used
  rcases List.mem_cons.mp used with rfl | carried
  · exact valid.defaultTile
  · obtain ⟨a, ha, hd⟩ := List.mem_flatMap.mp carried
    exact valid.carried a ha d hd

/-- **Validation decides validity.** -/
theorem validate_eq_ok : b.validate = .ok () ↔ b.Valid := by
  have unfolded : b.validate = .ok () ↔ b.id ≠ "" ∧
      checkIds .tileType [] (b.ids .tileType) = .ok () ∧
      checkIds .entityType [] (b.ids .entityType) = .ok () ∧
      checkIds .ability [] (b.ids .ability) = .ok () ∧
      ∀ d ∈ b.uses, b.checkUse d = .ok () := by
    rw [validate_eq]
    by_cases named : b.id = ""
    · rw [if_pos named]
      exact ⟨nofun, fun h => absurd named h.1⟩
    · rw [if_neg named, ← forM_eq_ok, ← then_eq_ok, ← then_eq_ok, ← then_eq_ok]
      exact (and_iff_right named).symm
  have fresh : ∀ ids : List String, Distinct ids ∧ (∀ id ∈ ids, id ∉ []) ↔ Distinct ids := fun ids =>
    and_iff_left fun _ _ => List.not_mem_nil
  rw [unfolded]
  simp only [checkIds_eq_ok, fresh]
  constructor
  · rintro ⟨named, tiles, entities, abilities, passed⟩
    have registered : ∀ d ∈ b.uses, b.Registers d := fun d used =>
      (checkUse_eq_ok tiles entities (b.uses_types d used)).mp (passed d used)
    refine ⟨named, tiles, entities, abilities, registered _ List.mem_cons_self, ?_⟩
    intro a ha d hd
    exact registered d (List.mem_cons_of_mem _ (List.mem_flatMap.mpr ⟨a, ha, hd⟩))
  · intro valid
    refine ⟨valid.named, valid.tileTypes, valid.entityTypes, valid.abilities, ?_⟩
    intro d used
    exact checkUse_of_registers valid.tileTypes valid.entityTypes (valid.registers_uses d used)

end Skirmish.Bundle
