/-!
# Occupancy layers

An entity claims layers of the tile that it stands on, a tile type blocks layers, and two claims
conflict when they share one. A set of layers is a byte with one bit for each; the board uses two of
them, ground and air. A claim of no layer meets nothing.
-/

namespace Skirmish

/-- A set of layers. -/
structure Layers where
  bits : BitVec 8
  deriving DecidableEq, Repr, Inhabited

namespace Layers

/-- No layer. -/
def empty : Layers := ⟨0⟩

/-- The layer of those that walk. -/
def ground : Layers := ⟨1⟩

/-- The layer of those that fly. -/
def air : Layers := ⟨2⟩

/-- The layers of either set. -/
def union (a b : Layers) : Layers := ⟨a.bits ||| b.bits⟩

instance : Union Layers := ⟨union⟩

/-- Whether two sets share a layer. -/
def meets (a b : Layers) : Bool := a.bits &&& b.bits != 0

/-- Whether all layers of the second set are in the first. -/
def includes (a b : Layers) : Bool := a.bits &&& b.bits == b.bits

/-- One set or none, by a flag. -/
def when (flag : Bool) (a : Layers) : Layers := if flag then a else empty

theorem empty_meets (a : Layers) : empty.meets a = false := by simp [empty, meets]

theorem meets_empty (a : Layers) : a.meets empty = false := by simp [empty, meets]

theorem meets_comm (a b : Layers) : a.meets b = b.meets a := by
  simp [meets, BitVec.and_comm]

/-- A union meets what either part meets. -/
theorem union_meets (a b c : Layers) : (a ∪ b).meets c = (a.meets c || b.meets c) := by
  show ((a.bits ||| b.bits) &&& c.bits != 0) = ((a.bits &&& c.bits != 0) || (b.bits &&& c.bits != 0))
  have split : (a.bits ||| b.bits) &&& c.bits = (a.bits &&& c.bits) ||| (b.bits &&& c.bits) := by
    ext i
    simp [Bool.and_or_distrib_right]
  rw [split, Bool.eq_iff_iff]
  simp only [bne_iff_ne, ne_eq, Bool.or_eq_true]
  constructor
  · intro h
    by_cases ha : a.bits &&& c.bits = 0#8
    · refine .inr fun hb => h ?_
      rw [ha, hb]
      rfl
    · exact .inl ha
  · intro h e
    have part : ∀ x y : BitVec 8, x ||| y = 0#8 → x = 0#8 ∧ y = 0#8 := by
      intro x y hxy
      constructor <;>
      · ext i hi
        have := congrArg (fun v : BitVec 8 => v[i]) hxy
        simp_all
    rcases h with h | h
    · exact h (part _ _ e).1
    · exact h (part _ _ e).2

end Layers

end Skirmish
