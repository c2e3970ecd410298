import Mathlib.Data.List.Duplicate
import Skirmish.Proofs.Bundle.Validation

/-!
# What is wrong with a bundle

Validation stops at the first thing that is wrong and tells it. A **flaw** is what such an error speaks of,
said of the bundle alone (`Bundle.Flaw`): an empty id, an id that is listed twice, a reference to what is
not registered. **The law** (`validate_exact`) is that validation is right in both directions: it passes
the valid bundles, which are those without a flaw, and whatever it tells of another bundle is a flaw of it.

That a reference fails says at first only that the lookup of its id gives something else. It speaks of the
content because the ids have been found distinct by then: where two definitions shared an id, a registered
content could stand behind another one and be called unknown. So the checks must come in this order, and
`checkUse_of_registers` has the distinctness of the ids among its premises.

**What it does not establish.** Which of several flaws is told is left to `validate_eq`.
-/

namespace Skirmish.Bundle

/-- **What is wrong with a bundle**, by the error that tells it. -/
inductive Flaw (b : Bundle) : DefinitionError → Prop
  | missingId {kind : DefinitionKind} (nameless : "" ∈ b.ids kind) : Flaw b (.missingId kind)
  | duplicateId {kind : DefinitionKind} {id : String} (named : id ≠ "")
      (twice : (b.ids kind).Duplicate id) : Flaw b (.duplicateId kind id)
  | unknownReference {d : Definition} (used : d ∈ b.uses) (absent : ¬ b.Registers d) :
      Flaw b (.unknownReference d.kind d.id)

variable {b : Bundle} {kind : DefinitionKind} {seen ids : List String} {e : DefinitionError}

/-! ## Checks that fail -/

section

variable {ε α : Type} {first second : Except ε Unit} {error : ε}

/-- Of two checks in a row the first fails, or it passes and the second fails. -/
theorem error_of_then (failed : (do first; second) = .error error) :
    first = .error error ∨ first = .ok () ∧ second = .error error := by
  cases first with
  | error _ => exact .inl failed
  | ok _ => exact .inr ⟨rfl, failed⟩

theorem error_of_forM {check : α → Except ε Unit} {l : List α} (failed : l.forM check = .error error) :
    ∃ a ∈ l, check a = .error error := by
  induction l with
  | nil => cases failed
  | cons a l ih =>
    have parts : (do check a; l.forM check) = .error error := failed
    rcases error_of_then parts with here | ⟨-, later⟩
    · exact ⟨a, List.mem_cons_self, here⟩
    · obtain ⟨c, hc, fails⟩ := ih later
      exact ⟨c, List.mem_cons_of_mem _ hc, fails⟩

end

/-- An id fails because it is empty, or because it has been there before. -/
theorem error_of_checkIds (failed : checkIds kind seen ids = .error e) :
    e = .missingId kind ∧ "" ∈ ids ∨
      ∃ id, e = .duplicateId kind id ∧ id ≠ "" ∧ (id ∈ seen ∧ id ∈ ids ∨ ids.Duplicate id) := by
  induction ids generalizing seen with
  | nil => cases failed
  | cons id ids ih =>
    rw [checkIds] at failed
    by_cases nameless : id = ""
    · rw [if_pos nameless] at failed
      cases failed
      exact .inl ⟨rfl, nameless ▸ List.mem_cons_self⟩
    by_cases known : id ∈ seen
    · rw [if_neg nameless, if_pos known] at failed
      cases failed
      exact .inr ⟨id, rfl, nameless, .inl ⟨known, List.mem_cons_self⟩⟩
    rw [if_neg nameless, if_neg known] at failed
    rcases ih failed with ⟨rfl, later⟩ | ⟨other, rfl, named, ⟨before, later⟩ | twice⟩
    · exact .inl ⟨rfl, List.mem_cons_of_mem _ later⟩
    · refine .inr ⟨other, rfl, named, ?_⟩
      rcases List.mem_cons.mp before with rfl | earlier
      · exact .inr (.cons_mem later)
      · exact .inl ⟨earlier, List.mem_cons_of_mem _ later⟩
    · exact .inr ⟨other, rfl, named, .inr (twice.duplicate_cons id)⟩

theorem flaw_of_checkIds (failed : checkIds kind [] (b.ids kind) = .error e) : b.Flaw e := by
  rcases error_of_checkIds failed with ⟨rfl, nameless⟩ | ⟨id, rfl, named, ⟨before, -⟩ | twice⟩
  · exact .missingId nameless
  · cases before
  · exact .duplicateId named twice

theorem distinct_of_checkIds (passed : checkIds kind [] ids = .ok ()) : Distinct ids :=
  (checkIds_eq_ok.mp passed).1

theorem flaw_of_checkUse (tiles : Distinct (b.ids .tileType)) (entities : Distinct (b.ids .entityType))
    {d : Definition} (used : d ∈ b.uses) (failed : b.checkUse d = .error e) : b.Flaw e := by
  by_cases there : b.Registers d
  · rw [checkUse_of_registers tiles entities there] at failed
    cases failed
  · rw [checkUse_of_not_registers (b.uses_types d used) there] at failed
    cases failed
    exact .unknownReference used there

/-- **Whatever validation tells is a flaw.** -/
theorem flaw_of_validate (failed : b.validate = .error e) : b.Flaw e := by
  rw [validate_eq] at failed
  by_cases named : b.id = ""
  · rw [if_pos named] at failed
    cases failed
    have nameless : "" ∈ b.ids .bundle := List.mem_singleton.mpr named.symm
    exact .missingId nameless
  rw [if_neg named] at failed
  rcases error_of_then failed with failed | ⟨tiles, failed⟩
  · exact flaw_of_checkIds failed
  rcases error_of_then failed with failed | ⟨entities, failed⟩
  · exact flaw_of_checkIds failed
  rcases error_of_then failed with failed | ⟨-, failed⟩
  · exact flaw_of_checkIds failed
  obtain ⟨d, used, fails⟩ := error_of_forM failed
  exact flaw_of_checkUse (distinct_of_checkIds tiles) (distinct_of_checkIds entities) used fails

/-! ## Valid bundles have no flaws -/

theorem Valid.distinct (valid : b.Valid) : (kind : DefinitionKind) → Distinct (b.ids kind)
  | .bundle => ⟨fun nameless => valid.named (List.mem_singleton.mp nameless).symm, List.nodup_singleton _⟩
  | .tileType => valid.tileTypes
  | .entityType => valid.entityTypes
  | .ability => valid.abilities
  | .effect => ⟨List.not_mem_nil, List.nodup_nil⟩

theorem Valid.no_flaw (valid : b.Valid) : ¬ b.Flaw e := by
  rintro (nameless | ⟨-, twice⟩ | ⟨used, absent⟩)
  · exact (valid.distinct _).1 nameless
  · exact List.nodup_iff_forall_not_duplicate.mp (valid.distinct _).2 _ twice
  · exact absent (valid.registers_uses _ used)

/-- **Validation is exact.** It passes a bundle exactly when the bundle is valid, which is to say when
nothing is wrong with it; and what it tells when it fails is wrong with the bundle. -/
theorem validate_exact (b : Bundle) :
    (b.validate = .ok () ↔ b.Valid) ∧ (b.Valid ↔ ∀ e, ¬ b.Flaw e) ∧
      ∀ e, b.validate = .error e → b.Flaw e := by
  refine ⟨validate_eq_ok, ⟨fun valid e => valid.no_flaw, ?_⟩, fun e => flaw_of_validate⟩
  intro flawless
  apply validate_eq_ok.mp
  cases outcome : b.validate with
  | ok _ => rfl
  | error e => exact absurd (flaw_of_validate outcome) (flawless e)

namespace Sample

def lurker : EntityType := .plain "lurker" .ground

/-- Two groups deep, somebody is called who has the id of a registered type and less health. -/
def lair : Bundle where
  id := "lair"
  size := ⟨1, 1⟩
  defaultTile := .plain "moss"
  tileTypes := [.plain "moss"]
  entityTypes := [lurker]
  abilities := [⟨"hatch", "Hatch",
    [.group "nests" "nest" false [.group "eggs" "egg" false [.act (.spawn "egg" { lurker with maxHealth := 1 })]]]⟩]

end Sample

/-- The reference is told by its id, which is registered; its content is not. -/
theorem validate_exact_lair :
    Sample.lair.validate = .error (.unknownReference .entityType "lurker") ∧
      Sample.lair.Flaw (.unknownReference .entityType "lurker") ∧ ¬ Sample.lair.Valid := by
  have failed : Sample.lair.validate = .error (.unknownReference .entityType "lurker") := by decide +kernel
  have exact := validate_exact Sample.lair
  have flaw := exact.2.2 _ failed
  exact ⟨failed, flaw, fun valid => exact.2.1.mp valid _ flaw⟩

end Skirmish.Bundle
