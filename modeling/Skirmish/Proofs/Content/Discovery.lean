import Skirmish.Content.Rendering

/-!
# What discovery finds

Definitions are **consistent** when each has an id and no two share an identity
(`Definition.Consistent`). They can be met one after the other exactly when they are consistent with
each other and with what is known; each then enters the queue where it occurs first
(`Discovery.enqueueAll_of_consistent`, `Discovery.consistent_of_enqueueAll`).

Taking up a definition meets what it refers to, and that refers to nothing. So what lies ahead of a
queue can be read off before the loop starts (`Discovery.ahead`): the loop answers exactly when what is
known and what lies ahead is consistent, and the documents are those of the first occurrences
(`Discovery.documents_of_consistent`, `Discovery.consistent_of_documents`).
-/

namespace Skirmish

/-! ## First occurrences -/

section

variable {α β : Type} [DecidableEq α] [DecidableEq β]

/-- The first occurrences of a list, without those that were seen before. -/
def firsts (seen l : List α) : List α := (l.filter fun a => a ∉ seen).eraseDups

variable {seen l l' : List α} {a : α}

theorem firsts_empty (l : List α) : firsts [] l = l.eraseDups := by
  rw [firsts, List.filter_eq_self.mpr fun a _ => decide_eq_true List.not_mem_nil]

theorem mem_firsts : a ∈ firsts seen l ↔ a ∈ l ∧ a ∉ seen := by
  rw [firsts, List.mem_eraseDups, List.mem_filter, decide_eq_true_iff]

theorem firsts_of_subset (old : ∀ a ∈ l, a ∈ seen) : firsts seen l = [] := by
  apply List.eq_nil_iff_forall_not_mem.mpr
  intro a ha
  obtain ⟨listed, new⟩ := mem_firsts.mp ha
  exact new (old a listed)

theorem firsts_append (seen l l' : List α) :
    firsts seen (l ++ l') = firsts seen l ++ firsts (seen ++ firsts seen l) l' := by
  have both : ∀ a, (a ∈ l.filter fun a => a ∉ seen) ∨ a ∈ seen ↔ a ∈ seen ++ firsts seen l := by
    intro a
    rw [List.mem_append, mem_firsts, List.mem_filter, decide_eq_true_iff, or_comm]
  rw [firsts, List.filter_append, List.eraseDups_append]
  show firsts seen l ++ _ = _
  congr 2
  rw [List.removeAll, List.filter_filter]
  apply List.filter_congr
  intro a _
  rw [Bool.eq_iff_iff, Bool.and_eq_true, Bool.not_eq_true', ← Bool.not_eq_true, List.elem_iff,
    decide_eq_true_iff, decide_eq_true_iff, ← not_or, both]

/-- With its first occurrences, all of a list has been seen. -/
theorem mem_append_firsts : a ∈ seen ++ firsts seen l ↔ a ∈ seen ++ l := by
  rw [List.mem_append, List.mem_append, mem_firsts]
  by_cases old : a ∈ seen
  · simp only [old, true_or]
  · simp only [old, not_false_eq_true, and_true]

theorem firsts_cons_of_mem (known : a ∈ seen) (l : List α) : firsts seen (a :: l) = firsts seen l := by
  rw [firsts, List.filter_cons_of_neg (by simpa using known)]
  rfl

theorem firsts_cons_of_not_mem (new : a ∉ seen) (l : List α) :
    firsts seen (a :: l) = a :: firsts (seen ++ [a]) l := by
  have itself : firsts seen [a] = [a] := by
    rw [firsts, List.filter_cons_of_pos (by simpa using new)]
    rfl
  rw [← List.singleton_append, firsts_append, itself]
  rfl

theorem nodup_firsts (seen l : List α) : (firsts seen l).Nodup := by
  induction l generalizing seen with
  | nil => exact List.nodup_nil
  | cons a l ih =>
    by_cases known : a ∈ seen
    · rw [firsts_cons_of_mem known]
      exact ih seen
    · rw [firsts_cons_of_not_mem known, List.nodup_cons, mem_firsts]
      refine ⟨?_, ih _⟩
      rintro ⟨-, fresh⟩
      exact fresh (List.mem_append_right _ List.mem_cons_self)

/-- Without repetitions, the first occurrences are all that was not seen before. -/
theorem firsts_of_nodup (distinct : l.Nodup) :
    firsts seen l = l.filter fun a => a ∉ seen := by
  induction l generalizing seen with
  | nil => rfl
  | cons a l ih =>
    obtain ⟨once, distinct⟩ := List.nodup_cons.mp distinct
    by_cases known : a ∈ seen
    · rw [firsts_cons_of_mem known, ih distinct, List.filter_cons_of_neg (by simpa using known)]
    · have later : (l.filter fun b => b ∉ seen ++ [a]) = l.filter fun b => b ∉ seen := by
        apply List.filter_congr
        intro b hb
        have other : b ≠ a := fun same => once (same ▸ hb)
        simp [other]
      rw [firsts_cons_of_not_mem known, ih distinct, later, List.filter_cons_of_pos (by simpa using known)]

/-- A function that tells apart what is listed keeps the first occurrences. -/
theorem firsts_map {f : α → β}
    (inj : ∀ a ∈ seen ++ l, ∀ b ∈ seen ++ l, f a = f b → a = b) :
    firsts (seen.map f) (l.map f) = (firsts seen l).map f := by
  induction l generalizing seen with
  | nil => rfl
  | cons a l ih =>
    have here : a ∈ seen ++ a :: l := List.mem_append_right _ List.mem_cons_self
    rw [List.map_cons]
    by_cases known : a ∈ seen
    · rw [firsts_cons_of_mem known, firsts_cons_of_mem (List.mem_map_of_mem known)]
      apply ih
      have inside : ∀ x ∈ seen ++ l, x ∈ seen ++ a :: l := fun x hx =>
        List.mem_append.mpr ((List.mem_append.mp hx).imp_right (List.mem_cons_of_mem a))
      exact fun x hx y hy => inj x (inside x hx) y (inside y hy)
    · have new : f a ∉ seen.map f := by
        intro met
        obtain ⟨x, hx, same⟩ := List.mem_map.mp met
        exact known (inj x (List.mem_append_left _ hx) a here same ▸ hx)
      rw [firsts_cons_of_not_mem known, firsts_cons_of_not_mem new, List.map_cons]
      congr 1
      rw [← ih (by rwa [← List.append_cons]), List.map_append, List.map_singleton]

/-- What follows from the first occurrences has the first occurrences of what follows from all. -/
theorem firsts_flatMap {f : α → List β} {done : List β} (met : ∀ a ∈ seen, ∀ b ∈ f a, b ∈ done) :
    firsts done ((firsts seen l).flatMap f) = firsts done (l.flatMap f) := by
  induction l generalizing seen done with
  | nil => rfl
  | cons a l ih =>
    rw [List.flatMap_cons, firsts_append]
    by_cases known : a ∈ seen
    · rw [firsts_cons_of_mem known, firsts_of_subset (met a known), List.append_nil, List.nil_append]
      exact ih met
    · rw [firsts_cons_of_not_mem known, List.flatMap_cons, firsts_append]
      congr 1
      apply ih
      intro c hc b hb
      by_cases old : b ∈ done
      · exact List.mem_append_left _ old
      · rcases List.mem_append.mp hc with before | now
        · exact absurd (met c before b hb) old
        · rw [List.mem_singleton.mp now] at hb
          exact List.mem_append_right _ (mem_firsts.mpr ⟨hb, old⟩)

end

/-! ## Consistent definitions -/

/-- What a definition or a document is known by. -/
structure Identity where
  kind : DefinitionKind
  id : String
  deriving DecidableEq, Repr

/-- What a definition is known by. -/
def Definition.identity (d : Definition) : Identity := ⟨d.kind, d.id⟩

/-- **Consistent definitions** have ids, and each kind and id stands for one of them. -/
structure Definition.Consistent (ds : List Definition) : Prop where
  named : ∀ d ∈ ds, d.id ≠ ""
  unique : ∀ d ∈ ds, ∀ e ∈ ds, d.kind = e.kind → d.id = e.id → d = e

open Definition

theorem Definition.Consistent.mono {ds es : List Definition} (h : Consistent ds)
    (sub : ∀ d ∈ es, d ∈ ds) : Consistent es where
  named d hd := h.named d (sub d hd)
  unique d hd e he := h.unique d (sub d hd) e (sub e he)

theorem Definition.consistent_nil : Consistent [] := ⟨nofun, nofun⟩

/-- Of two definitions with one identity, either both are the same or they conflict. -/
theorem Definition.conflictsWith_eq {d e : Definition} (kind : d.kind = e.kind) (id : d.id = e.id) :
    d.conflictsWith e = decide (d ≠ e) := by
  rw [conflictsWith, decide_eq_true kind, decide_eq_true id, Bool.true_and, Bool.true_and]

/-- One more definition agrees with consistent ones when it has an id that no other of them has. -/
theorem Definition.Consistent.add {ds : List Definition} {d : Definition} (h : Consistent ds)
    (named : d.id ≠ "") (same : ∀ e ∈ ds, e.kind = d.kind → e.id = d.id → e = d) :
    Consistent (ds ++ [d]) where
  named e he := by
    rcases List.mem_append.mp he with old | new
    · exact h.named e old
    · exact List.mem_singleton.mp new ▸ named
  unique e he f hf kind id := by
    rcases List.mem_append.mp he with old | new <;> rcases List.mem_append.mp hf with old' | new'
    · exact h.unique e old f old' kind id
    · obtain rfl := List.mem_singleton.mp new'
      exact same e old kind id
    · obtain rfl := List.mem_singleton.mp new
      exact (same f old' kind.symm id.symm).symm
    · rw [List.mem_singleton.mp new, List.mem_singleton.mp new']

/-! ## Discovery -/

namespace Discovery

variable {q r : Discovery} {d e : Definition} {ds es : List Definition} {kind : DefinitionKind} {id : String}

/-- The queue after definitions were met that agree with what is known. -/
def meet (q : Discovery) (ds : List Definition) : Discovery :=
  ⟨q.pending ++ firsts q.found ds, q.found ++ firsts q.found ds⟩

theorem meet_nil (q : Discovery) : q.meet [] = q := by
  rw [meet, show firsts q.found [] = [] from rfl, List.append_nil, List.append_nil]

theorem meet_meet (q : Discovery) (ds es : List Definition) : (q.meet ds).meet es = q.meet (ds ++ es) := by
  simp only [meet, firsts_append, List.append_assoc]

theorem mem_found_meet : e ∈ (q.meet ds).found ↔ e ∈ q.found ++ ds := mem_append_firsts

theorem consistent_meet : Consistent ((q.meet ds).found ++ es) ↔ Consistent (q.found ++ (ds ++ es)) := by
  have same : ∀ e, e ∈ (q.meet ds).found ++ es ↔ e ∈ q.found ++ (ds ++ es) := by
    intro e
    rw [List.mem_append, mem_found_meet, ← List.append_assoc, List.mem_append (s := q.found ++ ds)]
  exact ⟨fun h => h.mono fun e => (same e).mpr, fun h => h.mono fun e => (same e).mp⟩

theorem of_known? (known : q.known? kind id = some e) : e ∈ q.found ∧ e.kind = kind ∧ e.id = id := by
  have here := List.find?_some known
  exact ⟨List.mem_of_find?_eq_some known, of_decide_eq_true here⟩

theorem known?_eq_none : q.known? kind id = none ↔ ∀ e ∈ q.found, ¬ (e.kind = kind ∧ e.id = id) := by
  rw [known?, List.find?_eq_none]
  simp only [decide_eq_true_iff]

/-- A definition that agrees with what is known enters the queue unless it is known. -/
theorem enqueue_of_consistent (h : Consistent (q.found ++ [d])) :
    q.enqueue d = .ok (decide (d ∉ q.found), q.meet [d]) := by
  have here : d ∈ q.found ++ [d] := List.mem_append_right _ List.mem_cons_self
  have same : ∀ e ∈ q.found, e.kind = d.kind → e.id = d.id → e = d := fun e he =>
    h.unique e (List.mem_append_left _ he) d here
  rw [enqueue, if_neg (h.named d here), meet]
  by_cases known : d ∈ q.found
  · have present : q.known? d.kind d.id = some d := by
      cases found : q.known? d.kind d.id with
      | none => exact absurd ⟨rfl, rfl⟩ (known?_eq_none.mp found d known)
      | some e =>
        obtain ⟨there, kind, id⟩ := of_known? found
        rw [same e there kind id]
    rw [present, firsts_cons_of_mem known]
    dsimp only
    rw [conflictsWith_eq rfl rfl]
    simp [known, firsts]
  · have absent : q.known? d.kind d.id = none := by
      apply known?_eq_none.mpr
      rintro e he ⟨kind, id⟩
      exact known (same e he kind id ▸ he)
    rw [absent, firsts_cons_of_not_mem known]
    simp [known, firsts]

/-- A definition that can be met agrees with what is known. -/
theorem consistent_of_enqueue (h : Consistent q.found) {news : Bool} (met : q.enqueue d = .ok (news, r)) :
    Consistent (q.found ++ [d]) := by
  have named : d.id ≠ "" := by
    intro none
    rw [enqueue, if_pos none] at met
    cases met
  apply h.add named
  intro e he kind id
  rw [enqueue, if_neg named] at met
  cases found : q.known? d.kind d.id with
  | none => exact absurd ⟨kind, id⟩ (known?_eq_none.mp found e he)
  | some f =>
    obtain ⟨there, kind', id'⟩ := of_known? found
    rw [found] at met
    dsimp only at met
    rw [conflictsWith_eq kind' id'] at met
    have agrees : f = d := by
      apply Decidable.byContradiction
      intro other
      rw [if_pos (decide_eq_true other)] at met
      cases met
    rw [← agrees]
    exact h.unique e he f there (kind.trans kind'.symm) (id.trans id'.symm)

/-- **Consistent definitions can all be met.** -/
theorem enqueueAll_of_consistent (h : Consistent (q.found ++ ds)) : q.enqueueAll ds = .ok (q.meet ds) := by
  induction ds generalizing q with
  | nil => rw [enqueueAll, meet_nil]
  | cons d ds ih =>
    have first : Consistent (q.found ++ [d]) := by
      rw [List.append_cons] at h
      exact h.mono fun e => List.mem_append_left ds
    rw [enqueueAll, enqueue_of_consistent first]
    dsimp only
    rw [ih (consistent_meet.mpr h), meet_meet]
    rfl

/-- **Definitions that can all be met are consistent.** -/
theorem consistent_of_enqueueAll (h : Consistent q.found) (met : q.enqueueAll ds = .ok r) :
    Consistent (q.found ++ ds) := by
  induction ds generalizing q with
  | nil =>
    rw [List.append_nil]
    exact h
  | cons d ds ih =>
    rw [enqueueAll] at met
    cases step : q.enqueue d with
    | error e =>
      rw [step] at met
      cases met
    | ok out =>
      obtain ⟨news, q'⟩ := out
      have first := consistent_of_enqueue h step
      rw [enqueue_of_consistent first] at met
      exact consistent_meet.mp (ih (first.mono fun e => mem_found_meet.mp) met)

/-! ## Documents of what waits -/

/-- What those that wait refer to. -/
def ahead (q : Discovery) : List Definition := q.pending.flatMap references

/-- What a definition refers to refers to nothing. -/
theorem ahead_meet (q : Discovery) (d : Definition) : (q.meet d.references).ahead = q.ahead := by
  have nothing : (firsts q.found d.references).flatMap references = [] := by
    rw [List.flatMap_eq_nil_iff]
    intro e he
    exact references_of_isType (d.references_types e (mem_firsts.mp he).1)
  rw [ahead, meet, List.flatMap_append, nothing, List.append_nil]
  rfl

variable {bundle : String} {rest : List Definition}

theorem documents_nil (empty : q.pending = []) : q.documents bundle = .ok [] := by
  rw [documents]
  split
  · rfl
  · next waits => rw [empty] at waits; cases waits

/-- One turn of the loop: the next definition is taken up, and what it refers to is met. -/
theorem documents_cons (waits : q.pending = d :: rest) : q.documents bundle =
    match enqueueAll ⟨rest, q.found⟩ d.references with
    | .error e => .error e
    | .ok r =>
      match r.documents bundle with
      | .error e => .error e
      | .ok docs => .ok (Document.ofDefinition bundle d :: docs) := by
  rw [documents]
  split
  · next empty => rw [waits] at empty; cases empty
  · next d' rest' same =>
    rw [waits] at same
    cases same
    split
    · next e failed => rw [failed]
    · next r met =>
      cases others : r.documents bundle with
      | error e => simp [met, others]
      | ok docs => simp [met, others]

/-- **Induction along the loop**: what holds of queues where nobody waits, and of a queue as soon as it
holds after the next definition was taken up, holds of all. -/
theorem taking_up {P : Discovery → Prop} (done : ∀ q : Discovery, q.pending = [] → P q)
    (step : ∀ (q : Discovery) d rest, q.pending = d :: rest →
      (∀ r, enqueueAll ⟨rest, q.found⟩ d.references = .ok r → P r) → P q) (q : Discovery) : P q := by
  induction amount : q.work using Nat.strongRecOn generalizing q with
  | ind n ih =>
    cases waits : q.pending with
    | nil => exact done q waits
    | cons d rest =>
      apply step q d rest waits
      intro r met
      apply ih r.work ?_ r rfl
      have left := work_enqueueAll met
      rw [cost_references] at left
      simp only [work, waits, totalCost, cost] at left amount ⊢
      omega

/-- **When what is known and what lies ahead is consistent**, there is a document for each definition
that waits and then for each first occurrence of what lies ahead. -/
theorem documents_of_consistent (h : Consistent (q.found ++ q.ahead)) : q.documents bundle =
    .ok ((q.pending ++ firsts q.found q.ahead).map (Document.ofDefinition bundle)) := by
  induction q using taking_up with
  | done q empty =>
    rw [documents_nil empty, ahead, empty]
    rfl
  | step q d rest waits ih =>
    have ahead : q.ahead = d.references ++ (Discovery.mk rest q.found).ahead := by
      rw [ahead, waits]
      rfl
    have met : enqueueAll ⟨rest, q.found⟩ d.references = .ok (meet ⟨rest, q.found⟩ d.references) := by
      apply enqueueAll_of_consistent
      rw [ahead, ← List.append_assoc] at h
      exact h.mono fun e => List.mem_append_left _
    have others := ih _ met (by rw [ahead_meet, consistent_meet, ← ahead]; exact h)
    rw [documents_cons waits, met]
    dsimp only
    rw [others, ahead_meet, waits, ahead, firsts_append]
    simp only [meet, List.append_assoc, List.cons_append, List.map_cons]

/-- **When there are documents**, what is known and what lies ahead is consistent. -/
theorem consistent_of_documents (h : Consistent q.found) {docs : List Document}
    (made : q.documents bundle = .ok docs) : Consistent (q.found ++ q.ahead) := by
  induction q using taking_up generalizing docs with
  | done q empty =>
    rw [ahead, empty, List.flatMap_nil, List.append_nil]
    exact h
  | step q d rest waits ih =>
    rw [documents_cons waits] at made
    cases met : enqueueAll ⟨rest, q.found⟩ d.references with
    | error e =>
      rw [met] at made
      cases made
    | ok r =>
      have first := consistent_of_enqueueAll (show Consistent (Discovery.mk rest q.found).found from h) met
      obtain rfl := Except.ok.inj ((enqueueAll_of_consistent first).symm.trans met)
      rw [met] at made
      dsimp only at made
      cases others : documents bundle (meet ⟨rest, q.found⟩ d.references) with
      | error e =>
        rw [others] at made
        cases made
      | ok docs =>
        have all := ih _ met (first.mono fun e => mem_found_meet.mp) others
        rw [ahead_meet, consistent_meet] at all
        rw [ahead, waits]
        exact all

end Discovery

end Skirmish
