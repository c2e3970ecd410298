import Skirmish.Board
import Skirmish.Entity
import Skirmish.Target

/-!
# The world

A world is a board, the entities that live on it, and the number that the next entity will have.
Entities come and go only here: a spawn places the newcomer and registers it, a destruction takes it
from both places. A spawn that the board refuses gives out no number.
-/

namespace Skirmish

/-- The state of a game, without its turn order. -/
structure World where
  /-- The number of the next entity. -/
  nextId : Nat
  board : Board
  entities : Registry Entity
  deriving DecidableEq, Inhabited

/-- Why an entity cannot be created. -/
inductive WorldError where
  | board (error : BoardError)
  /-- There is no number after `current`. -/
  | idOverflow (current : Nat)
  deriving DecidableEq, Repr, Inhabited

namespace WorldError

instance : Fault WorldError where
  code
    | board e => Fault.code e
    | idOverflow _ => "STATE_ENTITY_ID_OVERFLOW"
  message
    | board e => Fault.message e
    | idOverflow current => "entity id overflow (current: " ++ toString current ++ ")"
  severity
    | board e => Fault.severity e
    | idOverflow _ => .internal

end WorldError

/-- What an entity shows to the board: its identifier and its claim. -/
def Entity.occupant (e : Entity) : Occupant := ⟨e.id, e.layers⟩

namespace World

/-- A world without entities. -/
def start (board : Board) : World := ⟨0, board, .empty⟩

/-- The entity of an identifier. -/
def entity? (w : World) (id : EntityId) : Option Entity := w.entities.get? id

/-- The health of an entity. -/
def health? (w : World) (id : EntityId) : Option Nat := (w.entity? id).map Entity.health

/-- Where an entity stands. -/
def coords? (w : World) (id : EntityId) : Option Coords := w.board.coords? id

/-- Where a location is now; an entity that stands nowhere has no place. -/
def locate (w : World) : Location → Option Coords
  | .entity id => w.coords? id
  | .coords spot => some spot

/-- Creates an entity of a type at a coordinate. The supply of numbers is asked first. -/
def create (w : World) (kind : EntityType) (spot : Coords) : Except WorldError (EntityId × World) :=
  let e := Entity.fresh ⟨w.nextId⟩ kind
  if EntityId.last ≤ w.nextId then .error (.idOverflow w.nextId)
  else match w.board.add e.occupant spot with
    | .error err => .error (.board err)
    | .ok board => .ok (e.id, ⟨w.nextId + 1, board, w.entities.insert e⟩)

/-- Takes an entity off the board and out of the registry, and gives it back with the coordinate where
it stood. The board is asked first, and what it gave up stays gone when the registry does not know
the entity. -/
def discard (w : World) (id : EntityId) : Option (Entity × Coords) × World :=
  match w.board.remove id with
  | .error _ => (none, w)
  | .ok (spot, board) =>
    match w.entity? id with
    | none => (none, { w with board := board })
    | some e => (some (e, spot), { w with board := board, entities := w.entities.erase id })

end World

end Skirmish
