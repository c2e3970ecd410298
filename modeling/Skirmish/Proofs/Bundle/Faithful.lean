import Skirmish.Proofs.Bundle.Rendering
import Skirmish.Proofs.Content.Faithful

/-!
# Rendering loses nothing

Two bundles that are rendered as the same documents are the same, but for credits to an empty name
(`Bundle.render_faithful`): `Bundle.tidy` takes these away, and nothing else.

The document of a bundle and those of its abilities hold only the ids of what they refer to. The contents
stand in documents of their own, and in a rendered bundle each identity stands for one content. So the
documents tell everything that can be reached (`Bundle.reachable_told`), first the types, which refer to
nothing, then with them the abilities.

**What it does not establish.** The documents are compared, and not the texts that they are written as.
-/

namespace Skirmish.Bundle

open Definition

/-- The bundle with tidy abilities. -/
def tidy (b : Bundle) : Bundle := { b with abilities := b.abilities.map Ability.tidy }

variable {b b' : Bundle} {docs : List Document}

/-- Lists with the same ids show the same, when those of one id do. -/
theorem map_eq_of_ids {α β : Type} {ids : α → String} {f : α → β} {l l' : List α}
    (same : l.map ids = l'.map ids) (agree : ∀ a ∈ l, ∀ a' ∈ l', ids a = ids a' → f a = f a') :
    l.map f = l'.map f := by
  induction l generalizing l' with
  | nil =>
    rw [List.map_nil, List.nil_eq, List.map_eq_nil_iff] at same
    rw [same]
  | cons a l ih =>
    cases l' with
    | nil => cases same
    | cons a' l' =>
      rw [List.map_cons, List.map_cons, List.cons.injEq] at same
      have first := agree a List.mem_cons_self a' List.mem_cons_self same.1
      have others := ih same.2 fun x hx y hy =>
        agree x (List.mem_cons_of_mem _ hx) y (List.mem_cons_of_mem _ hy)
      rw [List.map_cons, List.map_cons, first, others]

theorem documents_eq (made : b.render = .ok docs) (made' : b'.render = .ok docs) :
    b.documents = b'.documents := by
  obtain ⟨named, h⟩ := consistent_of_render made
  obtain ⟨named', h'⟩ := consistent_of_render made'
  rw [render_of_consistent named h] at made
  rw [render_of_consistent named' h', ← made] at made'
  exact (Except.ok.inj made').symm

/-- **In bundles that are rendered alike** what can be reached under one identity has one document. -/
theorem reachable_told (made : b.render = .ok docs) (made' : b'.render = .ok docs) {d d' : Definition}
    (reached : d ∈ b.reachable) (reached' : d' ∈ b'.reachable) (kinds : d.kind = d'.kind)
    (ids : d.id = d'.id) : d.document = d'.document := by
  have others := (List.cons.inj (documents_eq made made')).2
  have listed : Document.ofDefinition b.id d ∈ b.reachable.eraseDups.map (.ofDefinition b.id) :=
    List.mem_map_of_mem (List.mem_eraseDups.mpr reached)
  rw [others] at listed
  obtain ⟨e, he, same⟩ := List.mem_map.mp listed
  -- Both stand for the identity in the second bundle, where it stands for one content.
  have itself : e = d' := (consistent_of_render made').2.unique e (List.mem_eraseDups.mp he) d' reached'
    ((congrArg Document.kind same).trans kinds) ((congrArg Document.id same).trans ids)
  rw [← itself]
  exact (congrArg Document.content same).symm

/-- Types that can be reached in bundles that are rendered alike are equal. -/
theorem types_told (made : b.render = .ok docs) (made' : b'.render = .ok docs) {d d' : Definition}
    (type : d.IsType) (reached : d ∈ b.reachable) (reached' : d' ∈ b'.reachable) (kinds : d.kind = d'.kind)
    (ids : d.id = d'.id) : d = d' :=
  eq_of_document type kinds ids (reachable_told made made' reached reached' kinds ids)

/-- What an ability of a bundle carries can be reached. -/
theorem carried_reachable {a : Ability} (listed : a ∈ b.abilities) {d : Definition}
    (carried : d ∈ Effect.carriedAll a.effects) : d ∈ b.reachable :=
  List.mem_append_right _ (List.mem_flatMap.mpr ⟨a, listed, carried⟩)

/-- Abilities of bundles that are rendered alike are equal when they are tidy. -/
theorem abilities_told (made : b.render = .ok docs) (made' : b'.render = .ok docs) {a a' : Ability}
    (listed : a ∈ b.abilities) (listed' : a' ∈ b'.abilities) (ids : a.id = a'.id) : a.tidy = a'.tidy := by
  have agree : Agree (Effect.carriedAll a.effects) (Effect.carriedAll a'.effects) := by
    intro d hd d' hd'
    have type : d.IsType := by
      rw [← Effect.referencesAll_eq_carriedAll] at hd
      exact Effect.referencesAll_types a.effects d hd
    exact types_told made made' type (carried_reachable listed hd) (carried_reachable listed' hd')
  have reached : .ability a ∈ b.reachable := reachable_of_registers listed
  have reached' : .ability a' ∈ b'.reachable := reachable_of_registers listed'
  exact Ability.tidy_eq_of_document agree ids (reachable_told made made' reached reached' rfl ids)

/-- **Rendering loses nothing.** Bundles that are rendered as the same documents are the same: their ids,
their sizes, their default tiles and all that their lists hold, in order and at any depth. Only a credit
to an empty name may stand where the other bundle has none. -/
theorem render_faithful (made : b.render = .ok docs) (made' : b'.render = .ok docs) : b.tidy = b'.tidy := by
  have same : Document.ofBundle b = Document.ofBundle b' := (List.cons.inj (documents_eq made made')).1
  have id : b.id = b'.id := congrArg Document.id same
  have values := Field.values_eq_of_document b.fields_apart b'.fields_apart
    (show b.document = b'.document from congrArg Document.content same) rfl
  simp only [fields, List.map_cons, List.cons.injEq, FieldValue.document?_size,
    FieldValue.document?_reference, FieldValue.document?_references, List.map_map] at values
  obtain ⟨size, default, tiles, entities, abilities, -⟩ := values
  have defaultTile : Definition.tileType b.defaultTile = .tileType b'.defaultTile :=
    types_told made made' trivial (List.mem_append_left _ List.mem_cons_self)
      (List.mem_append_left _ List.mem_cons_self) rfl default
  have tileTypes : b.tileTypes = b'.tileTypes := by
    rw [← b.tileTypes.map_id, ← b'.tileTypes.map_id]
    apply map_eq_of_ids tiles
    intro k hk k' hk' ids
    exact Definition.tileType.inj (types_told made made' trivial (reachable_of_registers hk)
      (reachable_of_registers hk') rfl ids)
  have entityTypes : b.entityTypes = b'.entityTypes := by
    rw [← b.entityTypes.map_id, ← b'.entityTypes.map_id]
    apply map_eq_of_ids entities
    intro k hk k' hk' ids
    exact Definition.entityType.inj (types_told made made' trivial (reachable_of_registers hk)
      (reachable_of_registers hk') rfl ids)
  have abilities : b.abilities.map Ability.tidy = b'.abilities.map Ability.tidy :=
    map_eq_of_ids abilities fun a ha a' ha' ids => abilities_told made made' ha ha' ids
  rw [tidy, tidy, id, size, Definition.tileType.inj defaultTile, tileTypes, entityTypes, abilities]

/-- A credit to an empty name is what two bundles of the same documents may differ in. -/
theorem render_faithful_wild : ∃ docs,
    (Sample.wild none).render = .ok docs ∧ (Sample.wild (some "")).render = .ok docs ∧
      Sample.wild none ≠ Sample.wild (some "") ∧ (Sample.wild none).tidy = (Sample.wild (some "")).tidy := by
  have nobody : (Sample.wild none).render = _ :=
    render_of_consistent (by decide) ⟨by decide +kernel, by decide +kernel⟩
  have unnamed : (Sample.wild (some "")).render = _ :=
    render_of_consistent (by decide) ⟨by decide +kernel, by decide +kernel⟩
  have first : (Sample.wild none).reachable.eraseDups = [.tileType Sample.acre, .tileType Sample.marsh,
      .entityType Sample.reaper, .ability (Sample.reap none), .tileType Sample.stubble,
      .entityType Sample.crow] := by decide +kernel
  have second : (Sample.wild (some "")).reachable.eraseDups = [.tileType Sample.acre, .tileType Sample.marsh,
      .entityType Sample.reaper, .ability (Sample.reap (some "")), .tileType Sample.stubble,
      .entityType Sample.crow] := by decide +kernel
  rw [documents, first] at nobody
  rw [documents, second] at unnamed
  exact ⟨_, nobody, unnamed, by decide +kernel, render_faithful nobody unnamed⟩

end Skirmish.Bundle
