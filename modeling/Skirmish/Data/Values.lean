import Skirmish.Amount
import Skirmish.Config
import Skirmish.Data
import Skirmish.Definition
import Skirmish.Grid.Size
import Skirmish.Layers.Text
import Skirmish.Target

/-!
# The data form of values

Identifiers, extents and healths are numbers of 32 bits, depths of 64 bits; a number that does not fit
is refused.
-/

namespace Skirmish

open Data

instance : HasData EntityId where
  read? d := (d.natural? 32).map EntityId.mk
  write i := .integer i.val

instance : HasData Coords where
  read? d := do
    match ← d.fields? ["x", "y"] with
    | [x, y] => some ⟨← required x, ← required y⟩
    | _ => none
  write c := .record [("x", HasData.write c.x), ("y", HasData.write c.y)]

instance : HasData Size where
  read? d := do
    match ← d.fields? ["width", "height"] with
    | [w, h] => some ⟨← w.bind (natural? 32), ← h.bind (natural? 32)⟩
    | _ => none
  write s := .record [("width", .integer s.width), ("height", .integer s.height)]

instance : HasData Layers where
  read?
    | .text s => Layers.ofText? s
    | _ => none
  write l := .text l.toText

/-- The names of the domains. -/
def Domain.names : List (String × Domain) := [("Ground", .ground), ("Air", .air), ("Ghost", .ghost)]

instance : HasData Domain := ⟨oneOf? Domain.names, ofOne Domain.names⟩

instance : HasData EntityType where
  read? d := do
    match ← d.fields? ["id", "name", "domain", "is_agent", "max_health"] with
    | [id, name, domain, isAgent, maxHealth] =>
      some ⟨← required id, ← required name, ← required domain, ← required isAgent,
        ← maxHealth.bind (natural? 32)⟩
    | _ => none
  write k := .record [("id", .text k.id), ("name", .text k.name), ("domain", HasData.write k.domain),
    ("is_agent", .flag k.isAgent), ("max_health", .integer k.maxHealth)]

instance : HasData TileType where
  read? d := do
    match ← d.fields? ["id", "name", "blocks_ground", "blocks_air", "visuals"] with
    | [id, name, ground, air, visuals] =>
      some ⟨← required id, ← required name, ← required ground, ← required air, ← required visuals⟩
    | _ => none
  write k := .record [("id", .text k.id), ("name", .text k.name), ("blocks_ground", .flag k.blocksGround),
    ("blocks_air", .flag k.blocksAir), ("visuals", .text k.visuals)]

instance : HasData Modifier where
  read? d := do
    match ← d.alternative? with
    | ("Flat", some n) => (read? n).map Modifier.flat
    | ("Percent", some n) => (read? n).map Modifier.percent
    | _ => none
  write
    | .flat n => under "Flat" (HasData.write n)
    | .percent n => under "Percent" (HasData.write n)

/-- An amount may leave out its modifiers. -/
instance : HasData Amount where
  read? d := do
    match ← d.fields? ["base", "modifiers"] with
    | [base, modifiers] => some ⟨← required base, ← optional [] modifiers⟩
    | _ => none
  write a := .record [("base", HasData.write a.base), ("modifiers", HasData.write a.modifiers)]

/-- The names of the kinds of effects. -/
def EffectKind.names : List (String × EffectKind) :=
  [("Damage", .damage), ("Healing", .healing), ("Destruction", .destruction),
    ("Modification", .modification), ("Spawn", .spawn), ("Movement", .movement),
    ("Projectile", .projectile), ("Group", .group), ("AreaTarget", .areaTarget)]

instance : HasData EffectKind := ⟨oneOf? EffectKind.names, ofOne EffectKind.names⟩

/-- The names of the kinds of definitions. -/
def DefinitionKind.names : List (String × DefinitionKind) :=
  [("Bundle", .bundle), ("TileType", .tileType), ("EntityType", .entityType), ("Ability", .ability),
    ("Effect", .effect)]

instance : HasData DefinitionKind := ⟨oneOf? DefinitionKind.names, ofOne DefinitionKind.names⟩

/-- The names of the kinds of targets. -/
def TargetKind.names : List (String × TargetKind) :=
  [("Entity", .entity), ("Coords", .coords), ("Group", .group), ("Location", .location)]

instance : HasData TargetKind := ⟨oneOf? TargetKind.names, ofOne TargetKind.names⟩

instance : HasData Location where
  read? d := do
    match ← d.alternative? with
    | ("Entity", some id) => (read? id).map Location.entity
    | ("Coords", some spot) => (read? spot).map Location.coords
    | _ => none
  write
    | .entity id => under "Entity" (HasData.write id)
    | .coords spot => under "Coords" (HasData.write spot)

/-- Every setting may be left out. -/
instance : HasData Config where
  read? d := do
    match ← d.fields? ["max_cascade_depth"] with
    | [none] => some .usual
    | [some depth] => (depth.natural? 64).map Config.mk
    | _ => none
  write c := .record [("max_cascade_depth", .integer c.maxCascadeDepth)]

/-- The names of the severities. -/
def Severity.names : List (String × Severity) :=
  [("Recoverable", .recoverable), ("Validation", .validation), ("Internal", .internal), ("Fatal", .fatal)]

instance : HasData Severity := ⟨oneOf? Severity.names, ofOne Severity.names⟩

end Skirmish
