import Skirmish.Event

/-!
# Cascades

An event and the reactions that it calls for are resolved through an explicit stack: the newest event
is resolved first, with everything that it calls for, before older ones resume. A reaction lies one
step deeper than the event that called for it, and the stack refuses events beyond a limit.

**The loop ends** because an event weighs more than its reactions together
(`Event.weight_reactions`), so that each turn of the loop takes weight off the stack. When a reaction
is refused, what is still pending is dropped; the changes made so far stay.
-/

namespace Skirmish

/-- Why a cast or a turn fails. -/
inductive CastError where
  | target (error : TargetError)
  /-- A reaction lay at a depth beyond the limit. -/
  | cascadeTooDeep (depth limit : Nat)
  | unknownAbility (id : String)
  | unknownEntityType (id : String)
  /-- Nobody waits for a turn. -/
  | noActiveTurn
  deriving DecidableEq, Repr, Inhabited

namespace CastError

instance : Fault CastError where
  code
    | target e => Fault.code e
    | cascadeTooDeep _ _ => "CAST_CASCADE_TOO_DEEP"
    | unknownAbility _ => "CAST_UNKNOWN_ABILITY"
    | unknownEntityType _ => "CAST_UNKNOWN_ENTITY_TYPE"
    | noActiveTurn => "CAST_NO_ACTIVE_TURN"
  message
    | target e => Fault.message e
    | cascadeTooDeep depth limit =>
      "event cascade reached depth " ++ toString depth ++ " (limit " ++ toString limit ++ ")"
    | unknownAbility id => "unknown ability '" ++ id ++ "'"
    | unknownEntityType id => "unknown entity type '" ++ id ++ "'"
    | noActiveTurn => "no agent is waiting for a turn"
  severity
    | target e => Fault.severity e
    | cascadeTooDeep _ _ => .fatal
    | unknownAbility _ => .validation
    | unknownEntityType _ => .validation
    | noActiveTurn => .recoverable

end CastError

/-- A pending event, and how many reactions deep it lies. -/
structure Frame where
  event : Event
  depth : Nat
  deriving DecidableEq, Repr, Inhabited

/-- The pending events, the newest first, with the greatest depth that they may have. -/
structure EventStack where
  frames : List Frame
  limit : Nat
  deriving DecidableEq, Repr, Inhabited

namespace EventStack

/-- A stack without pending events. -/
def empty (limit : Nat) : EventStack := ⟨[], limit⟩

/-- The number of pending events. -/
def size (s : EventStack) : Nat := s.frames.length

/-- Adds an event on top, unless it lies too deep. -/
def push (s : EventStack) (event : Event) (depth : Nat) : Except CastError EventStack :=
  if s.limit < depth then .error (.cascadeTooDeep depth s.limit)
  else .ok { s with frames := ⟨event, depth⟩ :: s.frames }

/-- Adds events of one depth so that the first of them comes out on top. -/
def pushAll (s : EventStack) (events : List Event) (depth : Nat) : Except CastError EventStack :=
  match events with
  | [] => .ok s
  | e :: es =>
    match s.pushAll es depth with
    | .error err => .error err
    | .ok s => s.push e depth

/-- The newest pending event. -/
def peek (s : EventStack) : Option Frame := s.frames.head?

/-- The newest pending event, and the stack without it. -/
def pop (s : EventStack) : Option (Frame × EventStack) :=
  match s.frames with
  | [] => none
  | f :: rest => some (f, { s with frames := rest })

/-- The stack with only its oldest events left, so many of them. -/
def truncate (s : EventStack) (size : Nat) : EventStack :=
  { s with frames := s.frames.drop (s.frames.length - size) }

/-- What the pending events weigh together. -/
def weight (s : EventStack) : Nat := Event.totalWeight (s.frames.map Frame.event)

theorem weight_push {s t : EventStack} {e : Event} {d : Nat} (h : s.push e d = .ok t) :
    t.weight = e.weight + s.weight := by
  unfold push at h
  split at h
  · cases h
  · cases h
    rfl

theorem weight_pushAll {s t : EventStack} {es : List Event} {d : Nat} (h : s.pushAll es d = .ok t) :
    t.weight = Event.totalWeight es + s.weight := by
  induction es generalizing t with
  | nil =>
    cases h
    simp [Event.totalWeight]
  | cons e es ih =>
    unfold pushAll at h
    split at h
    · cases h
    · next u hu =>
      rw [weight_push h, ih hu]
      simp [Event.totalWeight, Nat.add_assoc]

end EventStack

/-- All that an effect can touch while it is cast: the arena, and the stack of pending events. -/
structure Context where
  arena : Arena
  stack : EventStack
  deriving DecidableEq, Inhabited

namespace Context

/-- An arena with an empty stack of the given limit. -/
def idle (arena : Arena) (limit : Nat) : Context := ⟨arena, .empty limit⟩

set_option linter.unusedVariables false in
/-- Resolves pending events until only the oldest so many are left, and gathers their entries.
`done` holds the entries so far. -/
def drain (base : Nat) (c : Context) (done : List Entry) :
    EStateM.Result CastError Context (List Entry) :=
  if base < c.stack.size then
    match hf : c.stack.frames with
    | [] => .ok done c
    | f :: rest =>
      let out := f.event.perform c.arena
      match hp : (EventStack.mk rest c.stack.limit).pushAll out.reactions (f.depth + 1) with
      | .error e => .error e ⟨out.arena, (EventStack.mk rest c.stack.limit).truncate base⟩
      | .ok stack => drain base ⟨out.arena, stack⟩ (done ++ out.entry.toList)
  else .ok done c
termination_by c.stack.weight
decreasing_by
  rw [EventStack.weight_pushAll hp]
  have lighter : Event.totalWeight out.reactions < f.event.weight :=
    Event.weight_reactions c.arena f.event
  simp only [EventStack.weight, hf, List.map_cons, Event.totalWeight]
  omega

/-- **Resolves an event** and every reaction that it leads to. The answer is the log of all entries
made, if any. On an error what is pending above the events that waited before is dropped. -/
def process (event : Event) : EStateM CastError Context (Option Log) := fun c =>
  match c.stack.push event 0 with
  | .error e => .error e c
  | .ok stack =>
    match drain c.stack.size ⟨c.arena, stack⟩ [] with
    | .error e c => .error e c
    | .ok entries c => .ok (Log.ofEntries entries) c

end Context

end Skirmish
