import Skirmish.Proofs.Content.Discovery

/-!
# What can be reached from a bundle

A bundle reaches the definitions that it names itself, and the types that the actions of its abilities
carry at any depth (`Bundle.reachable`, in the order of discovery). Two folds of the syntax find the
carried types: the one here looks at the two actions that carry one (`Effect.carried`), the one that
rendering uses goes through the fields. They are the same (`Effect.references_eq_carried`).

Rendering answers exactly when the bundle has an id and what can be reached is consistent, and its
documents are then those of the first occurrences (`Bundle.render_of_consistent`,
`Bundle.consistent_of_render`).
-/

namespace Skirmish

/-! ## Types that effects carry -/

/-- The type that an action carries. -/
def Action.carried : Action → List Definition
  | .modification _ kind => [.tileType kind]
  | .spawn _ kind => [.entityType kind]
  | _ => []

mutual

/-- The types that an effect carries, at any depth. -/
def Effect.carried : Effect → List Definition
  | .act action => action.carried
  | .group _ _ _ effects => Effect.carriedAll effects

/-- The types that effects carry, one effect after the other. -/
def Effect.carriedAll : List Effect → List Definition
  | [] => []
  | effect :: effects => effect.carried ++ Effect.carriedAll effects

end

mutual

/-- **The fields show what effects carry**, and nothing else. -/
theorem Effect.references_eq_carried : (effect : Effect) → effect.references = effect.carried
  | .act action => by
    rw [references, carried]
    cases action <;> rfl
  | .group members newTarget parallel effects => by
    rw [references_group, carried]
    exact Effect.referencesAll_eq_carriedAll effects

theorem Effect.referencesAll_eq_carriedAll : (effects : List Effect) →
    Effect.referencesAll effects = Effect.carriedAll effects
  | [] => rfl
  | effect :: effects => by
    rw [referencesAll, carriedAll, effect.references_eq_carried,
      Effect.referencesAll_eq_carriedAll effects]

end

namespace Bundle

/-- The definitions of a bundle, one list after the other. -/
def definitions (b : Bundle) : List Definition :=
  b.tileTypes.map .tileType ++ b.entityTypes.map .entityType ++ b.abilities.map .ability

/-- The definitions that a bundle names itself, the default tile first. -/
def listed (b : Bundle) : List Definition := .tileType b.defaultTile :: b.definitions

/-- **All that can be reached from a bundle**, in the order of discovery: what it names itself, and then
the types that its abilities carry at any depth. -/
def reachable (b : Bundle) : List Definition :=
  b.listed ++ b.abilities.flatMap fun a => Effect.carriedAll a.effects

theorem references_eq_listed (b : Bundle) : b.references = b.listed := by
  simp [references, fields, Field.allRefs, FieldValue.refs, listed, definitions]

/-- What the named definitions refer to is what the abilities carry. -/
theorem flatMap_listed (b : Bundle) :
    b.listed.flatMap Definition.references = b.abilities.flatMap fun a => Effect.carriedAll a.effects := by
  have tiles : (b.tileTypes.map Definition.tileType).flatMap Definition.references = [] := by
    rw [List.flatMap_eq_nil_iff]
    intro d hd
    obtain ⟨k, -, rfl⟩ := List.mem_map.mp hd
    rfl
  have entities : (b.entityTypes.map Definition.entityType).flatMap Definition.references = [] := by
    rw [List.flatMap_eq_nil_iff]
    intro d hd
    obtain ⟨k, -, rfl⟩ := List.mem_map.mp hd
    rfl
  have abilities : Definition.references ∘ Definition.ability = fun a => Effect.carriedAll a.effects := by
    funext a
    exact (Definition.references_ability a).trans (Effect.referencesAll_eq_carriedAll a.effects)
  rw [listed, definitions, List.flatMap_cons, List.flatMap_append, List.flatMap_append, tiles, entities,
    List.flatMap_map, ← abilities]
  rfl

end Bundle

/-! ## Rendering -/

namespace Bundle

open Definition Discovery

variable {b : Bundle}

theorem render_eq (named : b.id ≠ "") : b.render =
    match Discovery.start.enqueueAll b.listed with
    | .error e => .error e
    | .ok q =>
      match q.documents b.id with
      | .error e => .error e
      | .ok docs => .ok (Document.ofBundle b :: docs) := by
  rw [← references_eq_listed]
  unfold render
  rw [if_neg named]
  cases met : Discovery.start.enqueueAll b.references with
  | error e => rfl
  | ok q =>
    show (q.documents b.id >>= fun docs => pure (Document.ofBundle b :: docs)) = _
    dsimp only
    cases q.documents b.id <;> rfl

/-- What is met first and what lies ahead then is all that can be reached. -/
theorem mem_reachable (d : Definition) :
    d ∈ (Discovery.start.meet b.listed).found ++ (Discovery.start.meet b.listed).ahead ↔
      d ∈ b.reachable := by
  have met : ∀ e, e ∈ firsts [] b.listed ↔ e ∈ b.listed := by
    intro e
    rw [mem_firsts]
    exact and_iff_left List.not_mem_nil
  rw [reachable, ← flatMap_listed, List.mem_append, List.mem_append, mem_found_meet, ahead,
    List.mem_flatMap, List.mem_flatMap]
  exact or_congr Iff.rfl (exists_congr fun e => and_congr_left' (met e))

/-- The document of a bundle, and one for each first occurrence of what can be reached from it. -/
def documents (b : Bundle) : List Document :=
  .ofBundle b :: b.reachable.eraseDups.map (.ofDefinition b.id)

/-- **What can be reached consistently is rendered.** -/
theorem render_of_consistent (named : b.id ≠ "") (h : Consistent b.reachable) :
    b.render = .ok b.documents := by
  have met : Discovery.start.enqueueAll b.listed = .ok (Discovery.start.meet b.listed) :=
    enqueueAll_of_consistent (h.mono fun d => List.mem_append_left _)
  have all : Consistent ((Discovery.start.meet b.listed).found ++ (Discovery.start.meet b.listed).ahead) :=
    h.mono fun d => (mem_reachable d).mp
  have order : firsts [] b.listed ++
      firsts (firsts [] b.listed) ((firsts [] b.listed).flatMap Definition.references) =
        b.reachable.eraseDups := by
    rw [firsts_flatMap (by nofun), ← firsts_empty, reachable, ← flatMap_listed, firsts_append]
    rfl
  rw [render_eq named, met]
  dsimp only
  rw [documents_of_consistent all]
  dsimp only
  rw [Bundle.documents, ← order]
  rfl

/-- **What is rendered** has an id and is consistent. -/
theorem consistent_of_render {docs : List Document} (made : b.render = .ok docs) :
    b.id ≠ "" ∧ Consistent b.reachable := by
  have named : b.id ≠ "" := by
    intro none
    unfold render at made
    rw [if_pos none] at made
    cases made
  refine ⟨named, ?_⟩
  rw [render_eq named] at made
  cases met : Discovery.start.enqueueAll b.listed with
  | error e =>
    rw [met] at made
    cases made
  | ok q =>
    have first := consistent_of_enqueueAll (show Consistent Discovery.start.found from consistent_nil) met
    obtain rfl := Except.ok.inj ((enqueueAll_of_consistent first).symm.trans met)
    rw [met] at made
    dsimp only at made
    cases others : (Discovery.start.meet b.listed).documents b.id with
    | error e =>
      rw [others] at made
      cases made
    | ok docs =>
      have all := consistent_of_documents (first.mono fun d => mem_found_meet.mp) others
      exact all.mono fun d => (mem_reachable d).mpr

end Bundle

end Skirmish
