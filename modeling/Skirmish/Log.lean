import Skirmish.Entity
import Skirmish.Target
import Skirmish.Tile.Type

/-!
# Logs

Each change of the world is recorded as an **entry**. A cast arranges its entries in a tree, the
**log**, that follows the structure of the effects; read depth first, the tree gives the entries in
the order in which the changes were made.
-/

namespace Skirmish

/-- The record of one change. -/
inductive Entry where
  /-- Someone started to cast an ability; `target` is where it was aimed, when it was. -/
  | ability (caster : EntityId) (id name : String) (target : Option Location)
  | spawn (entity : EntityId) (kind : EntityType) (spot : Coords)
  /-- The two coordinates are the same when an entity was moved onto its own tile. -/
  | movement (entity : EntityId) (home goal : Coords)
  /-- The entity as it was when it was taken out of the game. -/
  | destruction (entity : Entity) (spot : Coords)
  | modification (spot : Coords) (previous current : TileType)
  /-- `actual` is what the target's health absorbed of the `damage`. -/
  | damage (attacker : Option EntityId) (target : EntityId) (damage actual : Nat)
  /-- `actual` is what the target's health took up of the `healing`. -/
  | healing (healer : Option EntityId) (target : EntityId) (healing actual : Nat)
  | projectile (source target : Location)
  deriving DecidableEq, Repr, Inhabited

/-- The word for the kind of an entry. -/
def Entry.kind : Entry → String
  | ability .. => "ability"
  | spawn .. => "spawn"
  | movement .. => "movement"
  | destruction .. => "destruction"
  | modification .. => "modification"
  | damage .. => "damage"
  | healing .. => "healing"
  | projectile .. => "projectile"

/-- A tree of entries. -/
inductive Log where
  | entry (entry : Entry)
  /-- Logs in the order of execution; `parallel` tells the presentation that they may be shown at
  once. -/
  | combined (parallel : Bool) (logs : List Log)
  deriving Repr, Inhabited

mutual

/-- Equality of logs is decided structurally. -/
def Log.decEq : (a b : Log) → Decidable (a = b)
  | .entry a, .entry b => decidable_of_iff (a = b) (by simp)
  | .entry _, .combined .. => isFalse nofun
  | .combined .., .entry _ => isFalse nofun
  | .combined p as, .combined q bs =>
    match Log.decEqList as bs with
    | isTrue h => decidable_of_iff (p = q) (by simp [h])
    | isFalse h => isFalse (by simp [h])

/-- Equality of lists of logs is decided structurally. -/
def Log.decEqList : (a b : List Log) → Decidable (a = b)
  | [], [] => isTrue rfl
  | [], _ :: _ => isFalse nofun
  | _ :: _, [] => isFalse nofun
  | a :: as, b :: bs =>
    match Log.decEq a b with
    | isFalse h => isFalse (by simp [h])
    | isTrue h =>
      match Log.decEqList as bs with
      | isTrue k => isTrue (by rw [h, k])
      | isFalse k => isFalse (by simp [k])

end

instance : DecidableEq Log := Log.decEq

namespace Log

mutual

/-- **The entries of a log**, depth first. -/
def leaves : Log → List Entry
  | .entry e => [e]
  | .combined _ logs => leavesAll logs

/-- The entries of several logs, one log after the other. -/
def leavesAll : List Log → List Entry
  | [] => []
  | l :: ls => leaves l ++ leavesAll ls

end

/-- The word for the kind of a log. -/
def kind : Log → String
  | .entry e => e.kind
  | .combined .. => "combined"

/-- The logs of several operations as one; an operation that changed nothing adds none. -/
def combine (parallel : Bool) (logs : List (Option Log)) : Log :=
  .combined parallel (logs.filterMap id)

/-- The log of several entries: none, the entry itself, or a sequence of them. -/
def ofEntries : List Entry → Option Log
  | [] => none
  | [e] => some (.entry e)
  | es => some (.combined false (es.map .entry))

theorem leavesAll_append (a b : List Log) : leavesAll (a ++ b) = leavesAll a ++ leavesAll b := by
  induction a with
  | nil => rfl
  | cons l ls ih => simp [leavesAll, ih]

theorem leavesAll_map_entry (es : List Entry) : leavesAll (es.map .entry) = es := by
  induction es with
  | nil => rfl
  | cons e es ih => simp [leavesAll, leaves, ih]

/-- The log of several entries has just these. -/
theorem leavesAll_ofEntries (es : List Entry) : leavesAll (ofEntries es).toList = es := by
  match es with
  | [] => rfl
  | [_] => rfl
  | a :: b :: es =>
    show leavesAll [.combined false ((a :: b :: es).map .entry)] = _
    rw [leavesAll, leavesAll, List.append_nil, leaves, leavesAll_map_entry]

end Log

end Skirmish
