import Mathlib.Data.List.Nodup
import Mathlib.Data.List.Pairwise
import Skirmish.Tile

/-!
# Sound tiles

A tile is **sound** when nobody stands on it twice, no two of its occupants claim the same layer, and
its type blocks no layer that an occupant claims. `Tile.Sound` is said on the layers that the tile
recorded, whatever an entity of the same identifier may claim elsewhere.

The checks of a tile ask exactly what keeps it sound: `Sound.receive` and `Sound.retype` have the
passed check as their premise, and an occupant may leave unasked (`Sound.release`).
-/

namespace Skirmish.Tile

/-- **Soundness of a tile.** -/
structure Sound (t : Tile) : Prop where
  /-- Nobody stands here twice. -/
  distinct : t.ids.Nodup
  /-- No two occupants claim the same layer. -/
  apart : t.occupants.Pairwise (fun o p => o.layers.meets p.layers = false)
  /-- The type blocks no layer that is claimed. -/
  unblocked : ∀ o ∈ t.occupants, t.kind.blocked.meets o.layers = false

/-! ## What the checks ask -/

/-- A union of claims meets what one of the claims meets. The induction is on the occupants, with
the union so far in front. -/
theorem foldl_union_meets (os : List Occupant) (acc layers : Layers) :
    (os.foldl (fun acc o => acc ∪ o.layers) acc).meets layers =
      (acc.meets layers || os.any (fun o => o.layers.meets layers)) := by
  induction os generalizing acc with
  | nil => simp
  | cons o os ih => rw [List.foldl_cons, ih, Layers.union_meets, List.any_cons, Bool.or_assoc]

/-- What is claimed on a tile meets what one of the occupants claims. -/
theorem claimed_meets (t : Tile) (layers : Layers) :
    t.claimed.meets layers = t.occupants.any (fun o => o.layers.meets layers) := by
  rw [claimed, foldl_union_meets, Layers.empty_meets, Bool.false_or]

theorem claimed_meets_eq_false {t : Tile} {layers : Layers} :
    t.claimed.meets layers = false ↔ ∀ o ∈ t.occupants, o.layers.meets layers = false := by
  rw [claimed_meets, List.any_eq_false]
  simp only [Bool.not_eq_true]

/-- A claim can be added exactly when neither the type nor an occupant is against it. -/
theorem checkAdd_eq_ok {t : Tile} {layers : Layers} :
    t.checkAdd layers = .ok () ↔
      t.kind.blocked.meets layers = false ∧ ∀ o ∈ t.occupants, o.layers.meets layers = false := by
  rw [← claimed_meets_eq_false, checkAdd]
  cases t.kind.blocked.meets layers <;> cases t.claimed.meets layers <;> simp

/-- A type can be taken on exactly when it blocks no occupant. -/
theorem checkModify_eq_ok {t : Tile} {kind : TileType} :
    t.checkModify kind = .ok () ↔ ∀ o ∈ t.occupants, kind.blocked.meets o.layers = false := by
  have against : kind.blocked.meets t.claimed = false ↔
      ∀ o ∈ t.occupants, kind.blocked.meets o.layers = false := by
    rw [Layers.meets_comm, claimed_meets_eq_false]
    simp only [Layers.meets_comm]
  rw [← against, checkModify]
  cases kind.blocked.meets t.claimed <;> simp

/-! ## Who stands on a tile after a change -/

theorem mem_ids {t : Tile} {id : EntityId} : id ∈ t.ids ↔ ∃ o ∈ t.occupants, o.id = id :=
  List.mem_map

@[simp] theorem ids_receive (t : Tile) (o : Occupant) : (t.receive o).ids = t.ids ++ [o.id] := by
  simp [ids, receive]

/-- Where nobody stands twice, the first of an identifier is the only one. -/
theorem release_occupants {t : Tile} (h : t.ids.Nodup) (id : EntityId) :
    (t.release id).occupants = t.occupants.filter (fun o => decide (o.id ≠ id)) := by
  obtain ⟨kind, os⟩ := t
  simp only [ids, release] at *
  induction os with
  | nil => rfl
  | cons o os ih =>
    obtain ⟨first, rest⟩ := List.nodup_cons.mp (List.map_cons ▸ h)
    by_cases ho : o.id = id
    · have others : ∀ p ∈ os, p.id ≠ id := by
        intro p hp same
        exact first (List.mem_map.mpr ⟨p, hp, same.trans ho.symm⟩)
      rw [List.eraseP_cons_of_pos (by simpa using ho), List.filter_cons_of_neg (by simpa using ho)]
      exact (List.filter_eq_self.mpr fun p hp => by simpa using others p hp).symm
    · rw [List.eraseP_cons_of_neg (by simpa using ho), List.filter_cons_of_pos (by simpa using ho), ih rest]

theorem mem_release {t : Tile} (h : t.ids.Nodup) {id : EntityId} {o : Occupant} :
    o ∈ (t.release id).occupants ↔ o ∈ t.occupants ∧ o.id ≠ id := by
  rw [release_occupants h, List.mem_filter, decide_eq_true_eq]

theorem mem_ids_release {t : Tile} (h : t.ids.Nodup) {id other : EntityId} :
    other ∈ (t.release id).ids ↔ other ∈ t.ids ∧ other ≠ id := by
  simp only [mem_ids, mem_release h]
  constructor
  · rintro ⟨o, ⟨ho, ne⟩, rfl⟩
    exact ⟨⟨o, ho, rfl⟩, ne⟩
  · rintro ⟨⟨o, ho, rfl⟩, ne⟩
    exact ⟨o, ⟨ho, ne⟩, rfl⟩

/-- A newcomer that leaves at once leaves no trace. -/
theorem release_receive {t : Tile} {o : Occupant} (new : o.id ∉ t.ids) : (t.receive o).release o.id = t := by
  have others : ∀ p ∈ t.occupants, ¬ decide (p.id = o.id) = true := by
    intro p hp same
    exact new (mem_ids.mpr ⟨p, hp, of_decide_eq_true same⟩)
  refine congrArg (Tile.mk t.kind) ?_
  show (t.occupants ++ [o]).eraseP (fun p => decide (p.id = o.id)) = t.occupants
  rw [List.eraseP_append_right _ others]
  simp

/-! ## What keeps a tile sound -/

theorem sound_vacant (kind : TileType) : (vacant kind).Sound :=
  ⟨.nil, .nil, by simp [vacant]⟩

namespace Sound

variable {t : Tile}

/-- Two entries of one identifier are the same entry. -/
theorem eq_of_id (h : t.Sound) {o p : Occupant} (ho : o ∈ t.occupants) (hp : p ∈ t.occupants)
    (same : o.id = p.id) : o = p :=
  List.inj_on_of_nodup_map h.distinct ho hp same

/-- An occupant is the only one of its identifier. -/
theorem filter_id (h : t.Sound) {o : Occupant} (ho : o ∈ t.occupants) :
    t.occupants.filter (fun p => decide (p.id = o.id)) = [o] := by
  have same : ∀ p ∈ t.occupants, decide (p.id = o.id) = (p == o) := by
    intro p hp
    rw [Bool.eq_iff_iff, decide_eq_true_eq, beq_iff_eq]
    exact ⟨h.eq_of_id hp ho, congrArg Occupant.id⟩
  rw [List.filter_congr same, List.filter_beq, List.count_eq_one_of_mem (.of_map _ h.distinct) ho]
  rfl

/-- A newcomer that passed the check leaves the tile sound. -/
theorem receive (h : t.Sound) {o : Occupant} (new : o.id ∉ t.ids) (ok : t.checkAdd o.layers = .ok ()) :
    (t.receive o).Sound := by
  obtain ⟨clear, free⟩ := checkAdd_eq_ok.mp ok
  refine ⟨?_, ?_, ?_⟩
  · rw [ids_receive]
    refine List.nodup_append.mpr ⟨h.distinct, by simp, ?_⟩
    intro id hid last hlast same
    rw [List.mem_singleton.mp hlast] at same
    exact new (same ▸ hid)
  · refine List.pairwise_append.mpr ⟨h.apart, List.pairwise_singleton .., ?_⟩
    intro p hp last hlast
    rw [List.mem_singleton.mp hlast]
    exact free p hp
  · intro p hp
    rcases List.mem_append.mp hp with old | last
    · exact h.unblocked p old
    · rw [List.mem_singleton.mp last]
      exact clear

/-- A tile stays sound when somebody leaves. -/
theorem release (h : t.Sound) (id : EntityId) : (t.release id).Sound := by
  have fewer : (t.release id).occupants.Sublist t.occupants := List.eraseP_sublist
  refine ⟨h.distinct.sublist (fewer.map _), h.apart.sublist fewer, ?_⟩
  intro o ho
  exact h.unblocked o (fewer.subset ho)

/-- A type that passed the check leaves the tile sound. -/
theorem retype (h : t.Sound) {kind : TileType} (ok : t.checkModify kind = .ok ()) :
    Sound { t with kind := kind } :=
  ⟨h.distinct, h.apart, checkModify_eq_ok.mp ok⟩

/-- A tile takes back whom it has let go: nobody who stayed was against the claim. -/
theorem takes_back (h : t.Sound) {o : Occupant} (here : o ∈ t.occupants) :
    (t.release o.id).checkAdd o.layers = .ok () := by
  refine checkAdd_eq_ok.mpr ⟨h.unblocked o here, ?_⟩
  intro p stayed
  obtain ⟨there, other⟩ := (mem_release h.distinct).mp stayed
  have apart : Std.Symm fun o p : Occupant => o.layers.meets p.layers = false :=
    ⟨fun o p clear => (Layers.meets_comm p.layers o.layers).trans clear⟩
  exact h.apart.forall there here fun same => other (congrArg Occupant.id same)

end Sound

end Skirmish.Tile
