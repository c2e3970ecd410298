import Skirmish.Bundle

/-!
# The fields of definitions

Each kind of definition declares its public fields once, in a fixed order and without its id.
Whatever is written about a definition is a fold of this list.

A field that holds effects is generic in what stands for them: for the schema it is the effects
themselves, and a fold over nested effects puts its own results there. So the fields of a group are
declared once for both.
-/

namespace Skirmish

/-- The value of a field; `β` stands for nested effects. -/
inductive FieldValue (β : Type) where
  /-- A text; the empty text means that the field is not set. -/
  | text (value : String)
  | integer (value : Int)
  | flag (value : Bool)
  | size (value : Size)
  | amount (value : Amount)
  | reference (definition : Definition)
  | references (definitions : List Definition)
  | effects (value : β)
  deriving Repr, DecidableEq

/-- A named value. -/
structure Field (β : Type) where
  name : String
  value : FieldValue β
  deriving Repr, DecidableEq

namespace FieldValue

/-- The value with something else in the place of nested effects. -/
def map {β γ : Type} (f : β → γ) : FieldValue β → FieldValue γ
  | text v => text v
  | integer v => integer v
  | flag v => flag v
  | size v => size v
  | amount v => amount v
  | reference d => reference d
  | references ds => references ds
  | effects v => effects (f v)

end FieldValue

/-- The field with something else in the place of nested effects. -/
def Field.map {β γ : Type} (f : β → γ) (x : Field β) : Field γ := ⟨x.name, x.value.map f⟩

/-- The fields of a tile type. -/
def TileType.fields {β : Type} (k : TileType) : List (Field β) :=
  [⟨"name", .text k.name⟩, ⟨"blocks_ground", .flag k.blocksGround⟩, ⟨"blocks_air", .flag k.blocksAir⟩,
    ⟨"visuals", .text k.visuals⟩]

/-- The fields of an entity type. -/
def EntityType.fields {β : Type} (k : EntityType) : List (Field β) :=
  [⟨"name", .text k.name⟩, ⟨"domain", .text k.domain.name⟩, ⟨"is_agent", .flag k.isAgent⟩,
    ⟨"max_health", .integer k.maxHealth⟩]

/-- The fields of an action. A credit that is absent is a text that is not set. -/
def Action.fields {β : Type} : Action → List (Field β)
  | damage target attacker amount =>
    [⟨"target", .text target⟩, ⟨"attacker", .text (attacker.getD "")⟩, ⟨"amount", .amount amount⟩]
  | healing target healer amount =>
    [⟨"target", .text target⟩, ⟨"healer", .text (healer.getD "")⟩, ⟨"amount", .amount amount⟩]
  | destruction target => [⟨"target", .text target⟩]
  | modification spot kind => [⟨"at", .text spot⟩, ⟨"tile_type", .reference (.tileType kind)⟩]
  | spawn spot kind => [⟨"at", .text spot⟩, ⟨"entity_type", .reference (.entityType kind)⟩]
  | movement entity goal relative =>
    [⟨"entity", .text entity⟩, ⟨"to", .text goal⟩, ⟨"relative", .flag relative⟩]
  | projectile source target => [⟨"source", .text source⟩, ⟨"target", .text target⟩]
  | areaTarget source radius newGroup =>
    [⟨"source", .text source⟩, ⟨"radius", .integer radius⟩, ⟨"new_group", .text newGroup⟩]

/-- The fields of a group. -/
def Effect.groupFields {β : Type} (members newTarget : String) (parallel : Bool) (effects : β) :
    List (Field β) :=
  [⟨"group", .text members⟩, ⟨"new_target", .text newTarget⟩, ⟨"parallel", .flag parallel⟩,
    ⟨"effects", .effects effects⟩]

/-- The fields of an effect. -/
def Effect.fields : Effect → List (Field (List Effect))
  | act action => action.fields
  | group members newTarget parallel effects => groupFields members newTarget parallel effects

/-- The fields of an ability. -/
def Ability.fields (a : Ability) : List (Field (List Effect)) :=
  [⟨"name", .text a.name⟩, ⟨"effects", .effects a.effects⟩]

/-- The fields of a bundle. -/
def Bundle.fields {β : Type} (b : Bundle) : List (Field β) :=
  [⟨"size", .size b.size⟩, ⟨"default_tile", .reference (.tileType b.defaultTile)⟩,
    ⟨"tile_types", .references (b.tileTypes.map .tileType)⟩,
    ⟨"entity_types", .references (b.entityTypes.map .entityType)⟩,
    ⟨"abilities", .references (b.abilities.map .ability)⟩]

/-- The fields of a definition. -/
def Definition.fields : Definition → List (Field (List Effect))
  | tileType k => k.fields
  | entityType k => k.fields
  | ability a => a.fields

end Skirmish
