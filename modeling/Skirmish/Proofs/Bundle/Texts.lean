import Skirmish.Proofs.Bundle.Rendering
import Skirmish.Proofs.Content.Texts

/-!
# The texts of rendered documents

**The law** (`Bundle.render_without_blanks`) is of every bundle that is rendered. The empty text occurs
in none of its documents, as a value or as a key, at any depth. Each document has the id that it is known
by; and what stands inline in it are the effects of its ability, at any depth, each with the word for its
kind.

Two things work together. A text that is not set is left out where a document is made, but the id of a
reference is written as it is. It is discovery that turns empty ids away, later; so it has to meet
whatever a document refers to, also in a group inside a group (`Bundle.documents_filled`).

**What it does not establish.** It says nothing of bundles that are not rendered, and nothing of the
places where the documents are kept.
-/

namespace Skirmish.Bundle

open Definition

variable {b : Bundle} {doc : Document}

/-- A document of a consistent bundle has no empty text, and has the id that it is known by. -/
theorem documents_filled (named : b.id ≠ "") (h : Consistent b.reachable) (listed : doc ∈ b.documents) :
    ¬ doc.content.Occurs "" ∧ doc.id ≠ "" ∧
      ∀ value, ("id", value) ∈ doc.content.entries ↔ value = .text doc.id := by
  rcases mem_documents.mp listed with bundle | ⟨d, reached, about⟩
  · subst bundle
    refine ⟨?_, named, fun value => b.document_tag⟩
    apply document_filled named
    intro r refers
    rw [references_eq_listed] at refers
    exact h.named r (List.mem_append_left _ refers)
  · subst about
    refine ⟨?_, h.named d reached, fun value => d.document_tag⟩
    apply Definition.document_filled (h.named d reached)
    intro r refers
    exact h.named r (references_reachable reached refers)

/-- The abilities that can be reached are those of the bundle; effects carry types only. -/
theorem ability_reachable {a : Ability} : .ability a ∈ b.reachable ↔ a ∈ b.abilities := by
  constructor
  · intro reached
    rw [reachable, ← flatMap_listed, List.mem_append, List.mem_flatMap] at reached
    rcases reached with named | ⟨d, -, refers⟩
    · simpa [listed, definitions] using named
    · cases d.references_types _ refers
  · exact reachable_of_registers (d := .ability a)

/-- What stands inline in a document of a consistent bundle are the effects of the ability that the
document is about. -/
theorem documents_inline (h : Consistent b.reachable) (listed : doc ∈ b.documents) (t : Ron) :
    doc.content.Inlines t ↔ ∃ a ∈ b.abilities, doc.identity = ⟨.ability, a.id⟩ ∧
      ∃ effect ∈ Effect.partsAll a.effects, effect.document = t := by
  rcases mem_documents.mp listed with bundle | ⟨d, reached, about⟩
  · subst bundle
    constructor
    · intro inline
      exact absurd inline b.document_inlines
    · intro ⟨a, _, same, _⟩
      cases congrArg Identity.kind same
  · subst about
    constructor
    · intro inline
      obtain ⟨a, rfl, effect⟩ := d.document_inlines.mp inline
      exact ⟨a, ability_reachable.mp reached, rfl, effect⟩
    · intro ⟨a, there, same, effect⟩
      have itself : d = .ability a := h.unique d reached _ (ability_reachable.mpr there)
        (congrArg Identity.kind same) (congrArg Identity.id same)
      exact d.document_inlines.mpr ⟨a, itself, effect⟩

/-- **No empty text is rendered.** In no document of a bundle does it occur, as a value or as a key, at
any depth. Each document has the id that it is known by, and that is not empty; and what stands inline in
it are the effects of its ability, at any depth, each with the word for its kind. -/
theorem render_without_blanks {docs : List Document} (made : b.render = .ok docs) :
    ∀ doc ∈ docs, ¬ doc.content.Occurs "" ∧
      (doc.id ≠ "" ∧ ∀ value, ("id", value) ∈ doc.content.entries ↔ value = .text doc.id) ∧
      ∀ t, doc.content.Inlines t ↔ ∃ a ∈ b.abilities, doc.identity = ⟨.ability, a.id⟩ ∧
        ∃ effect ∈ Effect.partsAll a.effects, effect.document = t ∧
          effect.kind.name ≠ "" ∧ ∀ value, ("type", value) ∈ t.entries ↔ value = .text effect.kind.name := by
  obtain ⟨named, h⟩ := consistent_of_render made
  obtain rfl := Except.ok.inj ((render_of_consistent named h).symm.trans made)
  intro doc listed
  obtain ⟨filled, known⟩ := documents_filled named h listed
  refine ⟨filled, known, ?_⟩
  intro t
  rw [documents_inline h listed t]
  constructor
  · intro ⟨a, there, about, effect, inside, written⟩
    refine ⟨a, there, about, effect, inside, written, effect.kind.name_ne, ?_⟩
    intro value
    rw [← written]
    exact effect.document_tag
  · intro ⟨a, there, about, effect, inside, written, _⟩
    exact ⟨a, there, about, effect, inside, written⟩

/-- Damage to the credit of an empty name stands in a group, and a crow in a group inside it. -/
theorem render_without_blanks_wild : ∃ docs, (Sample.wild (some "")).render = .ok docs ∧ ∃ doc ∈ docs,
    doc.identity = ⟨.ability, "reap"⟩ ∧ ¬ doc.content.Occurs "" ∧
      doc.content.Inlines (Effect.document (.act (.spawn "nest" Sample.crow))) := by
  have made : (Sample.wild (some "")).render = .ok (Sample.wild (some "")).documents :=
    render_of_consistent (by decide +kernel) ⟨by decide +kernel, by decide +kernel⟩
  have there : Sample.reap (some "") ∈ (Sample.wild (some "")).abilities := List.mem_cons_self
  have listed := mem_documents.mpr (.inr ⟨_, ability_reachable.mpr there, rfl⟩)
  obtain ⟨filled, -, inline⟩ := render_without_blanks made _ listed
  refine ⟨_, made, _, listed, rfl, filled, (inline _).mpr ⟨_, there, rfl, ?_⟩⟩
  refine ⟨.act (.spawn "nest" Sample.crow), by decide +kernel, rfl, by decide, ?_⟩
  intro value
  exact Effect.document_tag _

end Skirmish.Bundle
