import Skirmish.Amount
import Skirmish.Log
import Skirmish.World

/-!
# The operations that change the world

These are the only ways in which health, placement and tile types change during play. Each answers
the entry that records the change, or nothing when the request was refused, and the world after it.
-/

namespace Skirmish

namespace World

/-- Takes health from an entity. An entry is made even when nothing was absorbed. -/
def damage (w : World) (target : EntityId) (amount : Amount) (attacker : Option EntityId) :
    Option Entry × World :=
  match w.entity? target with
  | none => (none, w)
  | some e =>
    (some (.damage attacker target amount.resolve (e.absorbed amount.resolve)),
      { w with entities := w.entities.insert (e.hurt amount.resolve) })

/-- Gives health to an entity. An entry is made even when nothing was missing. -/
def heal (w : World) (target : EntityId) (amount : Amount) (healer : Option EntityId) :
    Option Entry × World :=
  match w.entity? target with
  | none => (none, w)
  | some e =>
    (some (.healing healer target amount.resolve (e.restored amount.resolve)),
      { w with entities := w.entities.insert (e.healed amount.resolve) })

/-- Takes an entity out of the game. -/
def destroy (w : World) (target : EntityId) : Option Entry × World :=
  match w.discard target with
  | (none, w) => (none, w)
  | (some (e, spot), w) => (some (.destruction e spot), w)

/-- Creates an entity. -/
def spawn (w : World) (kind : EntityType) (spot : Coords) : Option Entry × World :=
  match w.create kind spot with
  | .error _ => (none, w)
  | .ok (id, w) => (some (.spawn id kind spot), w)

/-- Moves an entity to a coordinate, or by a displacement from where it stands. -/
def moveEntity (w : World) (target : EntityId) (aim : Coords) (relative : Bool) :
    Option Entry × World :=
  match w.coords? target, w.entity? target with
  | some home, some e =>
    let goal := if relative then home + aim else aim
    match w.board.move e.occupant goal with
    | .error _ => (none, w)
    | .ok (left, board) => (some (.movement target left goal), { w with board := board })
  | _, _ => (none, w)

/-- Gives a tile another type, under the feet of its occupants. -/
def modify (w : World) (kind : TileType) (spot : Coords) : Option Entry × World :=
  match w.board.modify kind spot with
  | .error _ => (none, w)
  | .ok (previous, board) => (some (.modification spot previous kind), { w with board := board })

/-- Shows a projectile. This changes nothing and is never refused. -/
def projectile (w : World) (source target : Location) : Option Entry × World :=
  (some (.projectile source target), w)

end World

end Skirmish
