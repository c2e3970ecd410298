import Mathlib.Data.List.Nodup
import Skirmish.Content.Intake
import Skirmish.Proofs.Content.Discovery
import Skirmish.Proofs.Ensures

/-!
# What a queue of definitions answers

A queue is fed and emptied by calls in any order. **The law** (`Discovery.queue_history`) tells from the calls
and their answers alone what the next call answers. To meet a definition is news unless its identity was
let in before; whether the definition then still waits or has left makes no difference. Those that were
taken out are the first of those that were let in, in the same order, and the next one to be taken out is
the next of them.

Two facts carry it. In a consistent queue an identity has one definition, so the first that is found is the
only one; how a definition stands to those that are known then decides the answer (`Discovery.Standing`,
`Discovery.enqueue_of_standing`). And calls keep a ledger (`Discovery.Ledger`): what is known is what was let
in, and what was taken out with what still waits after it is that too, since one end of the queue is fed and
the other emptied.
-/

namespace Skirmish.Discovery

open Definition

/-- A call of a queue. -/
inductive Call where
  | enqueue (d : Definition)
  | dequeue

/-- What a call answers, when it does. -/
inductive Reply where
  /-- Whether the definition was news. -/
  | met (news : Bool)
  /-- The definition that was taken out, when one waited. -/
  | next (d : Option Definition)

/-- Makes a call. -/
def Intake.make : Call → Intake Reply
  | .enqueue d => .met <$> enqueue d
  | .dequeue => .next <$> dequeue

/-- What a queue answers to a call, or why the call fails. -/
def answer (q : Discovery) (call : Call) : Except DefinitionError Reply :=
  match Intake.make call q with
  | .ok reply _ => .ok reply
  | .error e _ => .error e

/-- The queue after a call, whether it answers or fails. -/
def after (q : Discovery) (call : Call) : Discovery :=
  match Intake.make call q with
  | .ok _ r => r
  | .error _ r => r

/-- The queue after one call was made after the other. -/
def afterAll (q : Discovery) (calls : List Call) : Discovery := calls.foldl after q

/-- A call with its answer. -/
structure Exchange where
  call : Call
  answer : Except DefinitionError Reply

/-- One call after the other, with the answers. -/
def exchanges (q : Discovery) : List Call → List Exchange
  | [] => []
  | call :: calls => ⟨call, q.answer call⟩ :: (q.after call).exchanges calls

/-- The definition that was let in. -/
def Exchange.accepted? : Exchange → Option Definition
  | ⟨.enqueue d, .ok (.met true)⟩ => some d
  | _ => none

/-- The definition that was taken out. -/
def Exchange.taken? : Exchange → Option Definition
  | ⟨.dequeue, .ok (.next d)⟩ => d
  | _ => none

/-- The definitions that were let in, in order. -/
def accepted (told : List Exchange) : List Definition := told.filterMap Exchange.accepted?

/-- The definitions that were taken out, in order. -/
def taken (told : List Exchange) : List Definition := told.filterMap Exchange.taken?

variable {q : Discovery} {d e : Definition} {call : Call} {calls : List Call}

/-! ## An intake is the change as a whole -/

theorem Intake.enqueue_eq (q : Discovery) (d : Definition) : Intake.enqueue d q =
    match q.enqueue d with
    | .error e => .error e q
    | .ok (news, r) => .ok news r := by
  unfold Intake.enqueue Discovery.enqueue
  by_cases nameless : d.id = ""
  · rw [if_pos nameless, if_pos nameless]
    rfl
  · rw [if_neg nameless, if_neg nameless]
    have looked : (get : Intake Discovery) q = .ok q q := rfl
    rw [bind_of_ok looked]
    cases q.known? d.kind d.id with
    | none => rfl
    | some present =>
      dsimp only
      split <;> rfl

theorem answer_enqueue : q.answer (.enqueue d) = (q.enqueue d).map fun made => .met made.1 := by
  have mapped : Intake.make (.enqueue d) q = EStateM.map Reply.met (Intake.enqueue d) q := rfl
  rw [answer, mapped, EStateM.map, Intake.enqueue_eq]
  cases q.enqueue d <;> rfl

theorem after_enqueue : q.after (.enqueue d) =
    match q.enqueue d with
    | .error _ => q
    | .ok (_, r) => r := by
  have mapped : Intake.make (.enqueue d) q = EStateM.map Reply.met (Intake.enqueue d) q := rfl
  rw [after, mapped, EStateM.map, Intake.enqueue_eq]
  cases q.enqueue d <;> rfl

theorem answer_dequeue : q.answer .dequeue = .ok (.next q.pending.head?) := by
  obtain ⟨pending, found⟩ := q
  cases pending <;> rfl

theorem after_dequeue : q.after .dequeue = ⟨q.pending.tail, q.found⟩ := by
  obtain ⟨pending, found⟩ := q
  cases pending <;> rfl

/-- When nobody waits, taking out changes nothing. -/
theorem after_of_nobody (nobody : q.answer .dequeue = .ok (.next none)) : q.after .dequeue = q := by
  obtain ⟨pending, found⟩ := q
  cases pending with
  | nil => rfl
  | cons d rest => simp [answer_dequeue] at nobody

/-! ## How a definition stands -/

/-- **How a definition stands to those that were let in**, and what is answered when it is met. -/
inductive Standing (known : List Definition) (d : Definition) : Except DefinitionError Bool → Prop
  | nameless (none : d.id = "") : Standing known d (.error (.missingId d.kind))
  | news (named : d.id ≠ "") (unmet : ∀ e ∈ known, e.identity ≠ d.identity) : Standing known d (.ok true)
  | known (met : d ∈ known) : Standing known d (.ok false)
  | conflict {e : Definition} (met : e ∈ known) (same : e.identity = d.identity) (other : e ≠ d) :
      Standing known d (.error (.duplicateId d.kind d.id))

theorem exists_standing (known : List Definition) (d : Definition) : ∃ r, Standing known d r := by
  by_cases none : d.id = ""
  · exact ⟨_, .nameless none⟩
  · by_cases unmet : ∀ e ∈ known, e.identity ≠ d.identity
    · exact ⟨_, .news none unmet⟩
    · simp only [ne_eq, not_forall, not_not] at unmet
      obtain ⟨e, met, same⟩ := unmet
      by_cases other : e = d
      · exact ⟨_, .known (other ▸ met)⟩
      · exact ⟨_, .conflict met same other⟩

section

variable {known : List Definition}

theorem standing_news : Standing known d (.ok true) ↔ d.id ≠ "" ∧ ∀ e ∈ known, e.identity ≠ d.identity := by
  constructor
  · intro standing
    cases standing with
    | news named unmet => exact ⟨named, unmet⟩
  · exact fun new => .news new.1 new.2

theorem standing_known : Standing known d (.ok false) ↔ d ∈ known := by
  constructor
  · intro standing
    cases standing with
    | known met => exact met
  · exact .known

theorem standing_conflict : Standing known d (.error (.duplicateId d.kind d.id)) ↔
    ∃ e ∈ known, e.identity = d.identity ∧ e ≠ d := by
  constructor
  · intro standing
    cases standing with
    | conflict met same other => exact ⟨_, met, same, other⟩
  · intro ⟨e, met, same, other⟩
    exact .conflict met same other

theorem standing_nameless : Standing known d (.error (.missingId d.kind)) ↔ d.id = "" := by
  constructor
  · intro standing
    cases standing with
    | nameless none => exact none
  · exact .nameless

end

theorem known?_of_mem (h : Consistent q.found) (met : e ∈ q.found) : q.known? e.kind e.id = some e := by
  cases found : q.known? e.kind e.id with
  | none => exact absurd ⟨rfl, rfl⟩ (known?_eq_none.mp found e met)
  | some f =>
    obtain ⟨there, kind, id⟩ := of_known? found
    rw [h.unique f there e met kind id]

/-- **What a queue does with a definition** is told by how the definition stands to what is known. -/
theorem enqueue_of_standing (h : Consistent q.found) {r : Except DefinitionError Bool}
    (standing : Standing q.found d r) : q.enqueue d =
      r.map fun news => (news, if news then ⟨q.pending ++ [d], q.found ++ [d]⟩ else q) := by
  cases standing with
  | nameless none =>
    rw [enqueue, if_pos none]
    rfl
  | news named unmet =>
    have unknown : q.known? d.kind d.id = none := by
      apply known?_eq_none.mpr
      intro e met same
      exact unmet e met (by rw [identity, identity, same.1, same.2])
    rw [enqueue, if_neg named, unknown]
    rfl
  | known met =>
    rw [enqueue, if_neg (h.named d met), known?_of_mem h met]
    dsimp only
    rw [conflictsWith_eq rfl rfl]
    simp [Except.map]
  | @conflict e met same other =>
    obtain ⟨kind, id⟩ : e.kind = d.kind ∧ e.id = d.id := by simpa [identity] using same
    have named := h.named e met
    have present := known?_of_mem h met
    rw [id] at named
    rw [kind, id] at present
    rw [enqueue, if_neg named, present]
    dsimp only
    rw [conflictsWith_eq kind id]
    simp [other, Except.map]

/-- **The answer tells the standing**, and nothing else. -/
theorem answer_eq_iff (h : Consistent q.found) {r : Except DefinitionError Bool} :
    q.answer (.enqueue d) = r.map .met ↔ Standing q.found d r := by
  have answers : ∀ {r}, Standing q.found d r → q.answer (.enqueue d) = r.map .met := by
    intro r standing
    rw [answer_enqueue, enqueue_of_standing h standing]
    cases r <;> rfl
  constructor
  · intro told
    obtain ⟨r', standing⟩ := exists_standing q.found d
    rw [answers standing] at told
    have same : r' = r := by
      cases r' <;> cases r <;> simp [Except.map] at told ⊢
      all_goals exact told
    exact same ▸ standing
  · exact answers

/-- Whatever is no news leaves the queue as it was. -/
theorem after_of_standing (h : Consistent q.found) {r : Except DefinitionError Bool}
    (standing : Standing q.found d r) :
    q.after (.enqueue d) = if r = .ok true then ⟨q.pending ++ [d], q.found ++ [d]⟩ else q := by
  rw [after_enqueue, enqueue_of_standing h standing]
  cases standing <;> rfl

/-! ## What calls lead to -/

/-- **A queue as its calls have told it**: it knows what was let in, each identity once, and what was let in
is what was taken out, in the same order, and then what waits. -/
structure Ledger (q : Discovery) (told : List Exchange) : Prop where
  found : q.found = accepted told
  order : taken told ++ q.pending = accepted told
  consistent : Consistent q.found
  apart : (q.found.map identity).Nodup

theorem accepted_append (told : List Exchange) (x : Exchange) :
    accepted (told ++ [x]) = accepted told ++ x.accepted?.toList := by
  cases kept : x.accepted? <;> simp [accepted, kept]

theorem taken_append (told : List Exchange) (x : Exchange) :
    taken (told ++ [x]) = taken told ++ x.taken?.toList := by
  cases kept : x.taken? <;> simp [taken, kept]

theorem ledger_start : Ledger start [] := ⟨rfl, rfl, consistent_nil, List.nodup_nil⟩

namespace Ledger

variable {told : List Exchange}

/-- A call that lets nothing in and takes nothing out leaves the ledger as it was. -/
theorem skip (h : Ledger q told) {x : Exchange} (refused : x.accepted? = none) (kept : x.taken? = none) :
    Ledger q (told ++ [x]) := by
  have same : accepted (told ++ [x]) = accepted told := by simp [accepted_append, refused]
  have same' : taken (told ++ [x]) = taken told := by simp [taken_append, kept]
  exact ⟨h.found.trans same.symm, by rw [same, same', h.order], h.consistent, h.apart⟩

/-- What is let in is the last of those that were let in and the last of those that wait. -/
theorem accept (h : Ledger q told) {x : Exchange} (let_in : x.accepted? = some d) (kept : x.taken? = none)
    (named : d.id ≠ "") (unmet : ∀ e ∈ q.found, e.identity ≠ d.identity) :
    Ledger ⟨q.pending ++ [d], q.found ++ [d]⟩ (told ++ [x]) := by
  have more : accepted (told ++ [x]) = accepted told ++ [d] := by simp [accepted_append, let_in]
  have same : taken (told ++ [x]) = taken told := by simp [taken_append, kept]
  refine ⟨?_, ?_, ?_, ?_⟩
  · rw [more, ← h.found]
  · rw [more, same, ← h.order, List.append_assoc]
  · apply h.consistent.add named
    intro e met kind id
    exact absurd (by rw [identity, identity, kind, id]) (unmet e met)
  · rw [List.map_append, List.map_singleton, List.nodup_append]
    exact ⟨h.apart, List.nodup_singleton _, by simpa using unmet⟩

/-- What is taken out was the first of those that waited and is the last of those that were taken out. -/
theorem take {pending found : List Definition} (h : Ledger ⟨d :: pending, found⟩ told) {x : Exchange}
    (refused : x.accepted? = none) (out : x.taken? = some d) : Ledger ⟨pending, found⟩ (told ++ [x]) := by
  have same : accepted (told ++ [x]) = accepted told := by simp [accepted_append, refused]
  have more : taken (told ++ [x]) = taken told ++ [d] := by simp [taken_append, out]
  refine ⟨h.found.trans same.symm, ?_, h.consistent, h.apart⟩
  rw [same, more, ← h.order, List.append_assoc]
  rfl

/-- **Every call is told**: it lets in, takes out or does neither. -/
theorem step (h : Ledger q told) (call : Call) :
    Ledger (q.after call) (told ++ [⟨call, q.answer call⟩]) := by
  cases call with
  | enqueue d =>
    obtain ⟨r, standing⟩ := exists_standing q.found d
    rw [after_of_standing h.consistent standing, (answer_eq_iff h.consistent).mpr standing]
    cases standing with
    | news named unmet => exact h.accept rfl rfl named unmet
    | nameless | known | conflict => exact h.skip rfl rfl
  | dequeue =>
    obtain ⟨pending, found⟩ := q
    rw [after_dequeue, answer_dequeue]
    cases pending with
    | nil => exact h.skip rfl rfl
    | cons d rest => exact h.take rfl rfl

theorem run (h : Ledger q told) (calls : List Call) :
    Ledger (q.afterAll calls) (told ++ q.exchanges calls) := by
  induction calls generalizing q told with
  | nil =>
    rw [exchanges, List.append_nil]
    exact h
  | cons call calls ih =>
    rw [exchanges, List.append_cons]
    exact ih (h.step call)

end Ledger

/-- **What calls answer is told by their history.** After any calls of a queue that was empty: those that were
taken out are the first of those that were let in, no identity was taken out twice, and the next to be taken
out is the next of those that were let in. The queue is as long as there are definitions that were let in and
not taken out, and knows as many as were let in. To meet a definition is news when it has an id and its
identity was never let in, and is no news when it was let in itself; it is a duplicate when another content
was let in under its identity, and fails for want of an id when it has none. Only news changes the queue. -/
theorem queue_history (calls : List Call) :
    let q := start.afterAll calls
    let known := accepted (start.exchanges calls)
    let gone := taken (start.exchanges calls)
    gone <+: known ∧ (gone.map identity).Nodup ∧
      (q.size : Int) = known.length - gone.length ∧ q.discovered = known.length ∧
      q.answer .dequeue = .ok (.next known[gone.length]?) ∧
      (q.answer .dequeue = .ok (.next none) → q.after .dequeue = q) ∧
      ∀ d,
        (q.answer (.enqueue d) = .ok (.met true) ↔ d.id ≠ "" ∧ ∀ e ∈ known, e.identity ≠ d.identity) ∧
        (q.answer (.enqueue d) = .ok (.met false) ↔ d ∈ known) ∧
        (q.answer (.enqueue d) = .error (.duplicateId d.kind d.id) ↔
          ∃ e ∈ known, e.identity = d.identity ∧ e ≠ d) ∧
        (q.answer (.enqueue d) = .error (.missingId d.kind) ↔ d.id = "") ∧
        (q.answer (.enqueue d) ≠ .ok (.met true) → q.after (.enqueue d) = q) := by
  intro q known gone
  have h : Ledger q ([] ++ start.exchanges calls) := ledger_start.run calls
  have found : q.found = known := h.found
  have order : gone ++ q.pending = known := h.order
  have apart : (known.map identity).Nodup := found ▸ h.apart
  have length : gone.length + q.pending.length = known.length := by rw [← order, List.length_append]
  refine ⟨⟨_, order⟩, ?_, ?_, ?_, ?_, ?_, ?_⟩
  · rw [← order, List.map_append] at apart
    exact apart.of_append_left
  · rw [size]
    omega
  · rw [discovered, found]
  · rw [answer_dequeue, ← order, List.getElem?_append_right (Nat.le_refl _), Nat.sub_self,
      List.head?_eq_getElem?]
  · exact after_of_nobody
  · intro d
    have answers : ∀ {r : Except DefinitionError Bool},
        q.answer (.enqueue d) = r.map .met ↔ Standing known d r := by
      intro r
      rw [← found]
      exact answer_eq_iff h.consistent
    refine ⟨(answers (r := .ok true)).trans standing_news, (answers (r := .ok false)).trans standing_known,
      (answers (r := .error _)).trans standing_conflict, (answers (r := .error _)).trans standing_nameless, ?_⟩
    intro stale
    obtain ⟨r, standing⟩ := exists_standing q.found d
    rw [after_of_standing h.consistent standing, if_neg]
    intro news
    subst news
    exact stale ((answer_eq_iff h.consistent).mpr standing)

end Skirmish.Discovery
