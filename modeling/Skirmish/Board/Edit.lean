import Skirmish.Board

/-!
# Changes made in place

A change of the board says what the board is afterwards. An **edit** carries the change out on a board
in place, one part after the other, and each part looks again at what it needs. An edit may be refused
at any part, and the parts made before that are not taken back; this is why a refusal carries the board
too.
-/

namespace Skirmish

namespace Tile

/-- Lets an occupant in, when the tile takes it. -/
def accept (t : Tile) (who : Occupant) : Except BoardError (Unit × Tile) :=
  match t.checkAdd who.layers with
  | .error e => .error e
  | .ok () => .ok ((), t.receive who)

/-- Takes on another type, when no occupant is against it, and tells the one before. -/
def retype (t : Tile) (kind : TileType) : Except BoardError (TileType × Tile) :=
  match t.checkModify kind with
  | .error e => .error e
  | .ok () => .ok (t.kind, { t with kind := kind })

end Tile

namespace Board

/-- A change that is made in place: it answers or is refused, and the board at a refusal is kept. -/
abbrev Edit := EStateM BoardError Board

namespace Edit

variable {α : Type}

/-- Changes the board in a way that is never refused. -/
def update (f : Board → Board) : Edit Unit := fun b => .ok () (f b)

/-- Goes on only when a check of the board passes. -/
def demand (check : Board → Except BoardError Unit) : Edit Unit := fun b =>
  match check b with
  | .error e => .error e b
  | .ok () => .ok () b

/-- Where an entity stands now. -/
def locate (id : EntityId) : Edit Coords := fun b =>
  match b.coords? id with
  | none => .error .notPlaced b
  | some spot => .ok spot b

/-- Makes a change of the tile at a coordinate that the tile may refuse. -/
def onTile (spot : Coords) (change : Tile → Except BoardError (α × Tile)) : Edit α := fun b =>
  match b.tile? spot with
  | none => .error .outOfBounds b
  | some t =>
    match change t with
    | .error e => .error e b
    | .ok (a, t) => .ok a (b.updateTile spot fun _ => t)

/-- Places an entity: the tile first, the index last. -/
def add (who : Occupant) (spot : Coords) : Edit Unit := do
  demand fun b => if b.contains who.id then .error .alreadyPlaced else .ok ()
  onTile spot (·.accept who)
  update (·.reindex (·.insert ⟨who.id, spot⟩))

/-- Moves an entity: it comes to the goal before it goes from its tile, and both tiles come before the
index. The answer is where it stood. -/
def move (who : Occupant) (goal : Coords) : Edit Coords := do
  demand (·.checkMove who goal)
  let home ← locate who.id
  if goal = home then
    pure home
  else
    onTile goal (·.accept who)
    update (·.updateTile home (·.release who.id))
    update (·.reindex (·.insert ⟨who.id, goal⟩))
    pure home

/-- Removes an entity: the index first, the tile last. The answer is where it stood. -/
def remove (id : EntityId) : Edit Coords := do
  let home ← locate id
  update (·.reindex (·.erase id))
  update (·.updateTile home (·.release id))
  pure home

/-- Gives a tile another type; the answer is the type that it had. -/
def modify (kind : TileType) (spot : Coords) : Edit TileType := onTile spot (·.retype kind)

end Edit

end Board

end Skirmish
