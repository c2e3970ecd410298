import Skirmish.Content.Reference
import Skirmish.Ron

/-!
# Documents of definitions

The document of a definition is a map of its fields under their names, with the id beside them. A
text that is not set is left out. A reference is written as the id of what it refers to. Effects
have no documents of their own: they are written in place, each as a map with the word for its kind
under `type`.
-/

namespace Skirmish

/-- An amount: its base alone when it has no modifiers. -/
def Amount.document (a : Amount) : Ron :=
  let base := Ron.integer a.base.toInt
  match a.modifiers with
  | [] => base
  | modifiers =>
    .record [("base", base), ("modifiers", .seq (modifiers.map fun
      | .flat delta => .record [("flat", .integer delta.toInt)]
      | .percent share => .record [("percent", .integer share.toInt)]))]

/-- A value, when nested effects are given by their documents; a text that is not set has none. -/
def FieldValue.document? : FieldValue (List Ron) → Option Ron
  | text value => if value = "" then none else some (.text value)
  | integer value => some (.integer value)
  | flag value => some (.flag value)
  | size value => some (.record [("width", .integer value.width), ("height", .integer value.height)])
  | amount value => some value.document
  | reference d => some (.text d.id)
  | references ds => some (.seq (ds.map fun d => .text d.id))
  | effects inner => some (.seq inner)

/-- The map of a tag, which says what is written, and of the fields that are set. -/
def Field.document (tag : String × String) (fields : List (Field (List Ron))) : Ron :=
  .record ((tag.1, .text tag.2) :: fields.filterMap fun f => f.value.document?.map (f.name, ·))

mutual

/-- An effect as it is written in place. -/
def Effect.document : Effect → Ron
  | .act action => Field.document ("type", action.kind.name) action.fields
  | .group members newTarget parallel effects =>
    Field.document ("type", EffectKind.group.name)
      (groupFields members newTarget parallel (Effect.documents effects))

/-- Effects as they are written in place. -/
def Effect.documents : List Effect → List Ron
  | [] => []
  | effect :: effects => effect.document :: Effect.documents effects

end

/-- The document of a definition. -/
def Definition.document (d : Definition) : Ron :=
  Field.document ("id", d.id) (d.fields.map (·.map Effect.documents))

/-- The document of a bundle. -/
def Bundle.document (b : Bundle) : Ron := Field.document ("id", b.id) b.fields

end Skirmish
