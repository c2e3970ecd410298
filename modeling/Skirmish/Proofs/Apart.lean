/-!
# Computations that do not notice each other

Two computations on one state are **apart** when each answers the same before and after the other, and
the state after both does not depend on which was first (`Apart`). A computation that is made of others
is apart from whatever its parts are apart from (`Apart.bind`, `Apart.mapM`).

**Order does not matter**: let each index of a list be treated by a computation, those of different
indices being apart. Then the lists with the same indices in other orders leave the same state, and each
index is told the same answers in the same order (`Apart.perm`). An index may occur more than once; its
own turns are not apart from each other, and they stay in their order.
-/

namespace Skirmish

variable {σ ι α β γ : Type}

/-- **Computations that do not notice each other.** -/
structure Apart (m : StateM σ α) (n : StateM σ β) : Prop where
  left : ∀ s, (m (n s).2).1 = (m s).1
  right : ∀ s, (n (m s).2).1 = (n s).1
  state : ∀ s, (n (m s).2).2 = (m (n s).2).2

namespace Apart

variable {m : StateM σ α} {n : StateM σ β}

theorem symm (h : Apart m n) : Apart n m := ⟨h.right, h.left, fun s => (h.state s).symm⟩

theorem pure (a : α) : Apart (Pure.pure a) n := ⟨fun _ => rfl, fun _ => rfl, fun _ => rfl⟩

/-- The second part is asked only after answers that the first part gives. -/
theorem bind {k : α → StateM σ γ} (first : Apart m n) (next : ∀ s, Apart (k (m s).1) n) :
    Apart (m >>= k) n where
  left s := by
    show (k (m (n s).2).1 (m (n s).2).2).1 = (k (m s).1 (m s).2).1
    rw [first.left, ← first.state]
    exact (next s).left (m s).2
  right s := by
    show (n (k (m s).1 (m s).2).2).1 = (n s).1
    rw [(next s).right, first.right]
  state s := by
    show (n (k (m s).1 (m s).2).2).2 = (k (m (n s).2).1 (m (n s).2).2).2
    rw [first.left, ← first.state]
    exact (next s).state (m s).2

theorem mapM {each : ι → StateM σ α} {l : List ι} (all : ∀ i ∈ l, Apart (each i) n) :
    Apart (l.mapM each) n := by
  induction l with
  | nil => exact pure []
  | cons i l ih =>
    rw [List.mapM_cons]
    refine (all i List.mem_cons_self).bind fun s => ?_
    exact (ih fun j later => all j (List.mem_cons_of_mem i later)).bind fun s => pure _

/-! ## Lists of computations -/

variable {each : ι → StateM σ α}

theorem mapM_cons_apply (i : ι) (l : List ι) (s : σ) : (i :: l).mapM each s =
    ((each i s).1 :: (l.mapM each (each i s).2).1, (l.mapM each (each i s).2).2) := by
  rw [List.mapM_cons]
  rfl

theorem length_mapM (l : List ι) (s : σ) : (l.mapM each s).1.length = l.length := by
  induction l generalizing s with
  | nil => rfl
  | cons i l ih =>
    rw [mapM_cons_apply, List.length_cons, List.length_cons, ih]

end Apart

variable [DecidableEq ι]

/-- What one index was told, where `answers` are those of the indices of `l`. -/
def told (i : ι) (l : List ι) (answers : List α) : List α :=
  ((l.zip answers).filter fun p => decide (p.1 = i)).map Prod.snd

theorem told_cons (i j : ι) (l : List ι) (a : α) (answers : List α) :
    told i (j :: l) (a :: answers) = if j = i then a :: told i l answers else told i l answers := by
  unfold told
  rw [List.zip_cons_cons, List.filter_cons]
  by_cases same : j = i
  · simp [same]
  · simp [same]

/-- **Order does not matter** among computations that are apart. -/
theorem Apart.perm {each : ι → StateM σ α} (apart : ∀ i j, i ≠ j → Apart (each i) (each j))
    {l l' : List ι} (order : l.Perm l') (s : σ) :
    (l.mapM each s).2 = (l'.mapM each s).2 ∧
      ∀ i, told i l (l.mapM each s).1 = told i l' (l'.mapM each s).1 := by
  induction order generalizing s with
  | nil => exact ⟨rfl, fun _ => rfl⟩
  | cons j _ ih =>
    obtain ⟨state, answers⟩ := ih (each j s).2
    rw [mapM_cons_apply, mapM_cons_apply]
    refine ⟨state, fun i => ?_⟩
    rw [told_cons, told_cons, answers]
  | swap j k l =>
    by_cases same : k = j
    · rw [same]
      exact ⟨rfl, fun _ => rfl⟩
    · -- Two neighbours of different indices: their answers are the same, and come to different ones.
      have both := apart k j same
      simp only [mapM_cons_apply, both.left, both.right, both.state, true_and]
      intro i
      simp only [told_cons]
      by_cases first : j = i
      · have second : k ≠ i := fun also => same (also.trans first.symm)
        rw [if_pos first, if_neg second, if_pos first, if_neg second]
      · rw [if_neg first, if_neg first]
  | trans _ _ ih ih' =>
    obtain ⟨state, answers⟩ := ih s
    obtain ⟨state', answers'⟩ := ih' s
    exact ⟨state.trans state', fun i => (answers i).trans (answers' i)⟩

end Skirmish
