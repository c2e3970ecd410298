import Skirmish.Entity.Id

/-!
# The turn order

Agents act in a round robin. The first of the queue is the one whose turn it is; newcomers join at
the back, and those who leave the game leave the queue without disturbing the order of the others.
-/

namespace Skirmish

/-- The agents that wait for their turns, the current one first. -/
structure Turns where
  queue : List EntityId
  deriving DecidableEq, Repr, Inhabited

namespace Turns

/-- Nobody waits. -/
def none : Turns := ⟨[]⟩

/-- The agent whose turn it is. -/
def current (t : Turns) : Option EntityId := t.queue.head?

/-- Whether an agent waits for a turn. -/
def contains (t : Turns) (id : EntityId) : Bool := decide (id ∈ t.queue)

/-- The number of agents that wait. -/
def size (t : Turns) : Nat := t.queue.length

/-- Lets an agent join at the back; one that waits already cannot join again. -/
def join? (t : Turns) (id : EntityId) : Option Turns :=
  if t.contains id then Option.none else some ⟨t.queue ++ [id]⟩

/-- The turn order after an agent asked to join. -/
def join (t : Turns) (id : EntityId) : Turns := (t.join? id).getD t

/-- Lets an agent leave; one that does not wait cannot leave. -/
def leave? (t : Turns) (id : EntityId) : Option Turns :=
  if t.contains id then some ⟨t.queue.erase id⟩ else Option.none

/-- The turn order after an agent left. -/
def leave (t : Turns) (id : EntityId) : Turns := (t.leave? id).getD t

/-- The turn order after the current agent went to the back. -/
def advance (t : Turns) : Turns :=
  match t.queue with
  | [] => t
  | a :: rest => ⟨rest ++ [a]⟩

/-- Ends the turn of an agent. One that left the game during its own turn is no longer at the front,
and the next agent has moved up already, so that nobody may be sent to the back. -/
def endTurn (t : Turns) (actor : EntityId) : Turns :=
  if t.current = some actor then t.advance else t

/-! ## The queue after a change -/

theorem join_queue {t : Turns} {id : EntityId} (h : id ∉ t.queue) : (t.join id).queue = t.queue ++ [id] := by
  simp [join, join?, contains, h]

theorem leave_queue (t : Turns) (id : EntityId) : (t.leave id).queue = t.queue.erase id := by
  by_cases h : id ∈ t.queue
  · simp [leave, leave?, contains, h]
  · simp [leave, leave?, contains, h, List.erase_of_not_mem]

/-- The one at the front goes to the back when its turn ends. -/
theorem endTurn_front (actor : EntityId) (rest : List EntityId) :
    endTurn ⟨actor :: rest⟩ actor = ⟨rest ++ [actor]⟩ := by
  simp [endTurn, current, advance]

/-- The end of a turn only changes the order. -/
theorem endTurn_perm (t : Turns) (actor : EntityId) : (t.endTurn actor).queue.Perm t.queue := by
  obtain ⟨queue⟩ := t
  unfold endTurn advance
  split
  · cases queue with
    | nil => exact .nil
    | cons first rest => exact List.perm_append_singleton first rest
  · exact .refl _

/-- Whoever left during its own turn is not at the front, and nobody is sent to the back. -/
theorem endTurn_of_not_mem {t : Turns} {actor : EntityId} (h : actor ∉ t.queue) : t.endTurn actor = t := by
  have other : t.current ≠ some actor := fun front => h (List.mem_of_mem_head? front)
  simp [endTurn, other]

end Turns

end Skirmish
