import Skirmish.Content.Field

/-!
# What definitions refer to

A definition refers to others through its fields, in the order of the fields; what nested effects
refer to stands where the effects stand. Tile types and entity types refer to nothing, and effects
refer to nothing but them (`Effect.references_types`): no chain of references is longer than from a
bundle to an ability to a type.
-/

namespace Skirmish

/-- The references of a value, when nested effects are given by their references. -/
def FieldValue.refs : FieldValue (List Definition) → List Definition
  | reference d => [d]
  | references ds => ds
  | effects inner => inner
  | _ => []

/-- The references of fields, in order. -/
def Field.allRefs (fields : List (Field (List Definition))) : List Definition :=
  fields.flatMap (·.value.refs)

mutual

/-- What an effect refers to, at any depth. -/
def Effect.references : Effect → List Definition
  | .act action => Field.allRefs action.fields
  | .group members newTarget parallel effects =>
    Field.allRefs (groupFields members newTarget parallel (Effect.referencesAll effects))

/-- What effects refer to, one effect after the other. -/
def Effect.referencesAll : List Effect → List Definition
  | [] => []
  | effect :: effects => effect.references ++ Effect.referencesAll effects

end

/-- What a definition refers to. -/
def Definition.references (d : Definition) : List Definition :=
  Field.allRefs (d.fields.map (·.map Effect.referencesAll))

/-- What a bundle refers to. -/
def Bundle.references (b : Bundle) : List Definition := Field.allRefs b.fields

/-! ## Chains of references are short -/

/-- Types refer to nothing. -/
def Definition.IsType : Definition → Prop
  | tileType _ => True
  | entityType _ => True
  | ability _ => False

theorem Action.references_types (a : Action) : ∀ d ∈ Field.allRefs a.fields, d.IsType := by
  cases a <;> simp [Action.fields, Field.allRefs, FieldValue.refs, Definition.IsType]

theorem Effect.references_group (members newTarget : String) (parallel : Bool) (effects : List Effect) :
    (Effect.group members newTarget parallel effects).references = Effect.referencesAll effects := by
  simp [Effect.references, groupFields, Field.allRefs, FieldValue.refs]

mutual

/-- Effects refer to types only. -/
theorem Effect.references_types : (e : Effect) → ∀ d ∈ e.references, d.IsType
  | .act a => a.references_types
  | .group members newTarget parallel effects => by
    rw [Effect.references_group]
    exact Effect.referencesAll_types effects

/-- Lists of effects refer to types only. -/
theorem Effect.referencesAll_types : (es : List Effect) → ∀ d ∈ Effect.referencesAll es, d.IsType
  | [] => nofun
  | e :: es => by
    intro d hd
    rw [Effect.referencesAll] at hd
    rcases List.mem_append.mp hd with h | h
    · exact e.references_types d h
    · exact Effect.referencesAll_types es d h

end

theorem Definition.references_ability (a : Ability) :
    (Definition.ability a).references = Effect.referencesAll a.effects := by
  simp [Definition.references, Definition.fields, Ability.fields, Field.allRefs, Field.map,
    FieldValue.map, FieldValue.refs]

theorem Definition.references_of_isType {d : Definition} (h : d.IsType) : d.references = [] := by
  cases d with
  | tileType k => rfl
  | entityType k => rfl
  | ability a => exact h.elim

/-- Definitions refer to types only. -/
theorem Definition.references_types (d : Definition) : ∀ r ∈ d.references, r.IsType := by
  cases d with
  | tileType k => exact nofun
  | entityType k => exact nofun
  | ability a =>
    rw [references_ability]
    exact Effect.referencesAll_types a.effects

end Skirmish
