import Skirmish.Content.Reference

/-!
# Discovery of definitions

Definitions that wait to be written stand in a queue. Each identity, a kind with an id, enters the
queue once; it stays known after its definition has left. To meet a known identity again with the
same content is no news, and with another content it is an error.
-/

namespace Skirmish

/-- The definitions met so far, and those of them that still wait. -/
structure Discovery where
  /-- Those that wait, the next one first. -/
  pending : List Definition
  /-- All that were ever accepted, in the order of acceptance. -/
  found : List Definition
  deriving DecidableEq, Repr, Inhabited

namespace Discovery

/-- Nothing is known. -/
def start : Discovery := ⟨[], []⟩

/-- The number of those that wait. -/
def size (q : Discovery) : Nat := q.pending.length

/-- The number of known identities. -/
def discovered (q : Discovery) : Nat := q.found.length

/-- The known definition of an identity. -/
def known? (q : Discovery) (kind : DefinitionKind) (id : String) : Option Definition :=
  q.found.find? (fun d => decide (d.kind = kind ∧ d.id = id))

/-- **Meets a definition.** The answer tells whether it is news. This gives the queue as a whole; step by
step, on one queue that is changed in place, it is `Intake.enqueue`, and the two are the same
(`Intake.enqueue_eq`). -/
def enqueue (q : Discovery) (d : Definition) : Except DefinitionError (Bool × Discovery) :=
  if d.id = "" then .error (.missingId d.kind)
  else match q.known? d.kind d.id with
    | some present =>
      if present.conflictsWith d then .error (.duplicateId d.kind d.id) else .ok (false, q)
    | none => .ok (true, ⟨q.pending ++ [d], q.found ++ [d]⟩)

/-- The next definition that waits, and the queue without it. -/
def dequeue (q : Discovery) : Option (Definition × Discovery) :=
  match q.pending with
  | [] => none
  | d :: rest => some (d, { q with pending := rest })

/-- Meets definitions one after the other; the first that is in error ends it. -/
def enqueueAll (q : Discovery) : List Definition → Except DefinitionError Discovery
  | [] => .ok q
  | d :: ds =>
    match q.enqueue d with
    | .error e => .error e
    | .ok (_, q) => q.enqueueAll ds

/-! ## The work that is left -/

/-- A bound on the number of definitions that taking up `d` can bring in, itself included. -/
def cost (d : Definition) : Nat := 1 + d.references.length

/-- What definitions cost together. -/
def totalCost : List Definition → Nat
  | [] => 0
  | d :: ds => cost d + totalCost ds

theorem totalCost_append (ds es : List Definition) :
    totalCost (ds ++ es) = totalCost ds + totalCost es := by
  induction ds with
  | nil => simp [totalCost]
  | cons d ds ih => simp [totalCost, ih, Nat.add_assoc]

/-- A bound on the number of definitions that are still to be taken up. -/
def work (q : Discovery) : Nat := totalCost q.pending

theorem work_enqueue {q r : Discovery} {d : Definition} {news : Bool}
    (h : q.enqueue d = .ok (news, r)) : r.work ≤ cost d + q.work := by
  unfold enqueue at h
  split at h
  · cases h
  · split at h
    · split at h
      · cases h
      · cases h
        omega
    · cases h
      simp only [work, totalCost_append, totalCost]
      omega

theorem work_enqueueAll {q r : Discovery} {ds : List Definition} (h : q.enqueueAll ds = .ok r) :
    r.work ≤ totalCost ds + q.work := by
  induction ds generalizing q with
  | nil =>
    cases h
    simp [totalCost]
  | cons d ds ih =>
    unfold enqueueAll at h
    split at h
    · cases h
    · next p hp =>
      have := work_enqueue hp
      have := ih h
      rw [totalCost]
      omega

/-- What types cost: each is taken up and brings in nothing. -/
theorem cost_references (d : Definition) : totalCost d.references = d.references.length := by
  have flat : ∀ l : List Definition, (∀ r ∈ l, r.IsType) → totalCost l = l.length := by
    intro l
    induction l with
    | nil => exact fun _ => rfl
    | cons r l ih =>
      intro h
      rw [totalCost, ih fun s hs => h s (List.mem_cons_of_mem _ hs), cost,
        Definition.references_of_isType (h r List.mem_cons_self), List.length_cons]
      simp [Nat.add_comm]
  exact flat _ d.references_types

end Discovery

end Skirmish
