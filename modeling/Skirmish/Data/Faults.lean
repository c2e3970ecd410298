import Skirmish.Cascade
import Skirmish.Data.Values

/-!
# The data form of faults

The content of a cause is a record under its name; here a list of the values will not do.
-/

namespace Skirmish

open Data

/-- The names of the reasons for which the board refuses a change. -/
def BoardError.names : List (String × BoardError) :=
  [("OutOfBounds", .outOfBounds), ("Blocked", .blocked), ("Occupied", .occupied),
    ("NotPlaced", .notPlaced), ("AlreadyPlaced", .alreadyPlaced)]

instance : HasData BoardError := ⟨oneOf? BoardError.names, ofOne BoardError.names⟩

/-- The one field of a content. -/
def onlyField? (name : String) (d : Data) : Option Data := do
  match ← d.content? [name] with
  | [some v] => some v
  | _ => none

instance : HasData WorldError where
  read? d := do
    match ← d.alternative? with
    | ("Board", some e) => (read? e).map WorldError.board
    | ("EntityIdOverflow", some c) => ((← onlyField? "current" c).natural? 32).map WorldError.idOverflow
    | _ => none
  write
    | .board e => under "Board" (HasData.write e)
    | .idOverflow n => under "EntityIdOverflow" (.record [("current", .integer n)])

instance : HasData TargetError where
  read? d := do
    match ← d.alternative? with
    | ("Missing", some c) => (read? (← onlyField? "name" c)).map TargetError.missing
    | ("WrongKind", some c) =>
      match ← c.content? ["name", "expected", "found"] with
      | [name, expected, found] =>
        some (.wrongKind (← required name) (← required expected) (← required found))
      | _ => none
    | ("AlreadyBound", some c) => (read? (← onlyField? "name" c)).map TargetError.alreadyBound
    | _ => none
  write
    | .missing name => under "Missing" (.record [("name", .text name)])
    | .wrongKind name expected found =>
      under "WrongKind" (.record [("name", .text name), ("expected", HasData.write expected),
        ("found", HasData.write found)])
    | .alreadyBound name => under "AlreadyBound" (.record [("name", .text name)])

instance : HasData CastError where
  read? d := do
    match ← d.alternative? with
    | ("Target", some e) => (read? e).map CastError.target
    | ("CascadeTooDeep", some c) =>
      match ← c.content? ["depth", "limit"] with
      | [depth, limit] =>
        some (.cascadeTooDeep (← depth.bind (natural? 64)) (← limit.bind (natural? 64)))
      | _ => none
    | ("UnknownAbility", some c) => (read? (← onlyField? "id" c)).map CastError.unknownAbility
    | ("UnknownEntityType", some c) => (read? (← onlyField? "id" c)).map CastError.unknownEntityType
    | ("NoActiveTurn", none) => some .noActiveTurn
    | ("NoActiveTurn", some .nothing) => some .noActiveTurn
    | _ => none
  write
    | .target e => under "Target" (HasData.write e)
    | .cascadeTooDeep depth limit =>
      under "CascadeTooDeep" (.record [("depth", .integer depth), ("limit", .integer limit)])
    | .unknownAbility id => under "UnknownAbility" (.record [("id", .text id)])
    | .unknownEntityType id => under "UnknownEntityType" (.record [("id", .text id)])
    | .noActiveTurn => .text "NoActiveTurn"

instance : HasData DefinitionError where
  read? d := do
    match ← d.alternative? with
    | ("MissingId", some c) => (read? (← onlyField? "kind" c)).map DefinitionError.missingId
    | ("DuplicateId", some c) =>
      match ← c.content? ["kind", "id"] with
      | [kind, id] => some (.duplicateId (← required kind) (← required id))
      | _ => none
    | ("UnknownReference", some c) =>
      match ← c.content? ["kind", "id"] with
      | [kind, id] => some (.unknownReference (← required kind) (← required id))
      | _ => none
    | _ => none
  write
    | .missingId kind => under "MissingId" (.record [("kind", HasData.write kind)])
    | .duplicateId kind id =>
      under "DuplicateId" (.record [("kind", HasData.write kind), ("id", .text id)])
    | .unknownReference kind id =>
      under "UnknownReference" (.record [("kind", HasData.write kind), ("id", .text id)])

end Skirmish
