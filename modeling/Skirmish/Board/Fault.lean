import Skirmish.Fault

/-!
# Why the board refuses
-/

namespace Skirmish

/-- The reasons for which the board refuses a change. -/
inductive BoardError where
  | outOfBounds
  | blocked
  | occupied
  | notPlaced
  | alreadyPlaced
  deriving DecidableEq, Repr, Inhabited

namespace BoardError

instance : Fault BoardError where
  code
    | .outOfBounds => "BOARD_OUT_OF_BOUNDS"
    | .blocked => "BOARD_BLOCKED"
    | .occupied => "BOARD_OCCUPIED"
    | .notPlaced => "BOARD_NOT_PLACED"
    | .alreadyPlaced => "BOARD_ALREADY_PLACED"
  message
    | .outOfBounds => "coordinate is out of bounds"
    | .blocked => "tile type blocks the entity's movement domain"
    | .occupied => "tile is occupied by a conflicting entity"
    | .notPlaced => "entity is not placed on the board"
    | .alreadyPlaced => "entity is already placed on the board"
  severity _ := .recoverable

end BoardError

end Skirmish
