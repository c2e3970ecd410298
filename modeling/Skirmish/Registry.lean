import Skirmish.Entity.Id

/-!
# Values kept by identifier

A registry keeps values that carry an identifier, one value for each identifier, in the order of
the identifiers. Both the entities of a world and the positions on a board are kept so.

**The view is the lookup.** `get?_insert`, `get?_erase` say what each operation does to it, and
`ext_get?` that a registry is nothing but its lookups: the order is no further information.
-/

namespace Skirmish

variable {α : Type} [HasId α]

/-- A list of values in strictly increasing order of their identifiers. -/
structure Registry (α : Type) [HasId α] where
  entries : List α
  sorted : entries.Pairwise (idOf · < idOf ·)

namespace Registry

/-- A registry that keeps nothing. -/
def empty : Registry α := ⟨[], .nil⟩

instance : Inhabited (Registry α) := ⟨empty⟩

instance [DecidableEq α] : DecidableEq (Registry α) := fun r s =>
  decidable_of_iff (r.entries = s.entries) ⟨fun h => by cases r; cases s; simp_all, fun h => by rw [h]⟩

/-- The values, in the order of their identifiers. -/
def toList (r : Registry α) : List α := r.entries

/-- The number of values. -/
def size (r : Registry α) : Nat := r.entries.length

/-- The value kept for an identifier. -/
def get? (r : Registry α) (i : EntityId) : Option α := r.entries.find? (fun a => decide (idOf a = i))

/-- Whether a value is kept for an identifier. -/
def contains (r : Registry α) (i : EntityId) : Bool := (r.get? i).isSome

/-- A value put into a sorted list at its place; a value of the same identifier gives way. -/
def insertSorted (a : α) : List α → List α
  | [] => [a]
  | b :: bs =>
    if idOf a < idOf b then a :: b :: bs
    else if idOf a = idOf b then a :: bs
    else b :: insertSorted a bs

theorem mem_insertSorted {a c : α} {l : List α} (h : c ∈ insertSorted a l) : c = a ∨ c ∈ l := by
  induction l with
  | nil => simpa [insertSorted] using h
  | cons b bs ih =>
    rw [insertSorted] at h
    split at h
    · simpa using h
    · split at h
      · rcases List.mem_cons.mp h with h | h
        · exact .inl h
        · exact .inr (List.mem_cons_of_mem _ h)
      · rcases List.mem_cons.mp h with h | h
        · exact .inr (h ▸ List.mem_cons_self)
        · exact (ih h).imp_right (List.mem_cons_of_mem _)

theorem sorted_insertSorted (a : α) {l : List α} (h : l.Pairwise (idOf · < idOf ·)) :
    (insertSorted a l).Pairwise (idOf · < idOf ·) := by
  induction l with
  | nil => simp [insertSorted]
  | cons b bs ih =>
    obtain ⟨hb, hbs⟩ := List.pairwise_cons.mp h
    rw [insertSorted]
    split
    · next lt =>
      refine List.pairwise_cons.mpr ⟨fun c hc => ?_, h⟩
      rcases List.mem_cons.mp hc with rfl | hc
      · exact lt
      · exact EntityId.lt_trans lt (hb c hc)
    · split
      · next eq => exact List.pairwise_cons.mpr ⟨fun c hc => eq ▸ hb c hc, hbs⟩
      · next ge ne =>
        refine List.pairwise_cons.mpr ⟨fun c hc => ?_, ih hbs⟩
        rcases mem_insertSorted hc with rfl | hc
        · rcases EntityId.lt_or_eq_or_lt (idOf c) (idOf b) with h | h | h
          · exact absurd h ge
          · exact absurd h ne
          · exact h
        · exact hb c hc

/-- The registry with a value put in; a value of the same identifier gives way. -/
def insert (r : Registry α) (a : α) : Registry α :=
  ⟨insertSorted a r.entries, sorted_insertSorted a r.sorted⟩

/-- The registry without the value kept for an identifier. -/
def erase (r : Registry α) (i : EntityId) : Registry α :=
  ⟨r.entries.filter (fun a => decide (idOf a ≠ i)), r.sorted.sublist List.filter_sublist⟩

/-! ## Lookups -/

/-- A value found for an identifier carries it. -/
theorem idOf_of_get? {r : Registry α} {i : EntityId} {a : α} (h : r.get? i = some a) : idOf a = i := by
  simpa using List.find?_some h

theorem find?_insertSorted (a : α) (l : List α) (i : EntityId) :
    (insertSorted a l).find? (fun c => decide (idOf c = i)) =
      if idOf a = i then some a else l.find? (fun c => decide (idOf c = i)) := by
  induction l with
  | nil => by_cases h : idOf a = i <;> simp [insertSorted, h]
  | cons b bs ih =>
    rw [insertSorted]
    split
    · by_cases h : idOf a = i <;> simp [List.find?_cons, h]
    · split
      · next eq => by_cases h : idOf a = i <;> simp [h, ← eq]
      · next ne =>
        rw [List.find?_cons, ih]
        by_cases h : idOf a = i
        · have : idOf b ≠ i := fun hb => ne (h.trans hb.symm)
          simp [h, this]
        · simp [List.find?_cons, h]

theorem get?_insert (r : Registry α) (a : α) (i : EntityId) :
    (r.insert a).get? i = if idOf a = i then some a else r.get? i :=
  find?_insertSorted a r.entries i

theorem get?_erase (r : Registry α) (j i : EntityId) :
    (r.erase j).get? i = if i = j then none else r.get? i := by
  simp only [get?, erase, List.find?_filter]
  by_cases h : i = j
  · subst h
    rw [if_pos rfl, List.find?_eq_none]
    simp
  · rw [if_neg h]
    congr 1
    funext a
    by_cases ha : idOf a = i <;> simp [ha, h]

/-- What is found after a value was put in is that value, or was there before. -/
theorem of_get?_insert {r : Registry α} {a b : α} {i : EntityId} (h : (r.insert a).get? i = some b) :
    b = a ∧ idOf a = i ∨ r.get? i = some b := by
  rw [get?_insert] at h
  split at h
  · next same => exact .inl ⟨(Option.some.inj h).symm, same⟩
  · exact .inr h

/-- What is found after a value was taken out was there before, under another identifier. -/
theorem of_get?_erase {r : Registry α} {b : α} {i j : EntityId} (h : (r.erase j).get? i = some b) :
    i ≠ j ∧ r.get? i = some b := by
  rw [get?_erase] at h
  split at h
  · cases h
  · next other => exact ⟨other, h⟩

/-- A value is in the list exactly when it is found for its own identifier. -/
theorem mem_entries_iff {r : Registry α} {a : α} : a ∈ r.entries ↔ r.get? (idOf a) = some a := by
  constructor
  · intro h
    obtain ⟨l, s⟩ := r
    simp only [get?] at *
    induction l with
    | nil => cases h
    | cons b bs ih =>
      obtain ⟨hb, hbs⟩ := List.pairwise_cons.mp s
      rw [List.find?_cons]
      rcases List.mem_cons.mp h with rfl | h
      · simp
      · have : idOf b ≠ idOf a := fun e => EntityId.lt_irrefl _ (e ▸ hb a h)
        simp only [this, decide_false]
        exact ih hbs h
  · exact List.mem_of_find?_eq_some

/-- Two lists in strictly increasing order that have the same members are the same. -/
theorem eq_of_sorted {l m : List α} (hl : l.Pairwise (idOf · < idOf ·))
    (hm : m.Pairwise (idOf · < idOf ·)) (h : ∀ a, a ∈ l ↔ a ∈ m) : l = m := by
  induction l generalizing m with
  | nil => exact (List.eq_nil_iff_forall_not_mem.mpr fun a ha => by simpa using (h a).mpr ha).symm
  | cons a l ih =>
    cases m with
    | nil => exact absurd ((h a).mp List.mem_cons_self) (by simp)
    | cons b m =>
      obtain ⟨ha, sl⟩ := List.pairwise_cons.mp hl
      obtain ⟨hb, sm⟩ := List.pairwise_cons.mp hm
      have first : a = b := by
        rcases List.mem_cons.mp ((h a).mp List.mem_cons_self) with e | before
        · exact e
        · rcases List.mem_cons.mp ((h b).mpr List.mem_cons_self) with e | after
          · exact e.symm
          · exact absurd (EntityId.lt_trans (hb a before) (ha b after)) (EntityId.lt_irrefl _)
      subst first
      have rest : ∀ c, c ∈ l ↔ c ∈ m := by
        intro c
        constructor
        · intro hc
          rcases List.mem_cons.mp ((h c).mp (List.mem_cons_of_mem _ hc)) with rfl | there
          · exact absurd (ha c hc) (EntityId.lt_irrefl _)
          · exact there
        · intro hc
          rcases List.mem_cons.mp ((h c).mpr (List.mem_cons_of_mem _ hc)) with rfl | there
          · exact absurd (hb c hc) (EntityId.lt_irrefl _)
          · exact there
      rw [ih sl sm rest]

/-- A registry is nothing but its lookups. -/
theorem ext_get? {r s : Registry α} (h : ∀ i, r.get? i = s.get? i) : r = s := by
  have entries : r.entries = s.entries :=
    eq_of_sorted r.sorted s.sorted fun a => by rw [mem_entries_iff, mem_entries_iff, h]
  cases r
  cases s
  simp_all

/-- To be put in again wipes out what was taken out. -/
theorem insert_erase (r : Registry α) (a : α) :
    (r.erase (idOf a)).insert a = r.insert a := by
  apply ext_get?
  intro id
  rw [get?_insert, get?_insert, get?_erase]
  by_cases same : idOf a = id
  · rw [if_pos same, if_pos same]
  · rw [if_neg same, if_neg same, if_neg (Ne.symm same)]

/-- To be taken out wipes out that a value was put in where there was none. -/
theorem erase_insert {r : Registry α} {a : α} (new : r.get? (idOf a) = none) :
    (r.insert a).erase (idOf a) = r := by
  apply ext_get?
  intro id
  rw [get?_erase, get?_insert]
  by_cases same : id = idOf a
  · rw [if_pos same, same, new]
  · rw [if_neg same, if_neg (Ne.symm same)]

/-- To put in what is kept is no change. -/
theorem insert_of_get? {r : Registry α} {a : α} (kept : r.get? (idOf a) = some a) : r.insert a = r := by
  apply ext_get?
  intro id
  rw [get?_insert]
  by_cases same : idOf a = id
  · rw [if_pos same, ← same, kept]
  · rw [if_neg same]

end Registry

end Skirmish
