/-!
# Entity identifiers

An identifier is a number that is given out once, when the entity is spawned, and never again.
-/

namespace Skirmish

/-- The number of an entity. -/
structure EntityId where
  val : Nat
  deriving DecidableEq, Repr, Inhabited

namespace EntityId

instance : LT EntityId := ⟨fun a b => a.val < b.val⟩

instance (a b : EntityId) : Decidable (a < b) := inferInstanceAs (Decidable (a.val < b.val))

/-- The greatest number that an identifier can have: numbers are 32 bits wide. -/
def last : Nat := 4294967295

/-- An identifier as text: its number behind a hash sign. -/
def text (i : EntityId) : String := "#" ++ toString i.val

theorem ext_val {a b : EntityId} (h : a.val = b.val) : a = b := by
  cases a
  cases b
  simp_all

theorem lt_trans {a b c : EntityId} (h : a < b) (k : b < c) : a < c := Nat.lt_trans h k

theorem lt_irrefl (a : EntityId) : ¬ a < a := Nat.lt_irrefl a.val

theorem lt_or_eq_or_lt (a b : EntityId) : a < b ∨ a = b ∨ b < a := by
  rcases Nat.lt_trichotomy a.val b.val with h | h | h
  · exact .inl h
  · exact .inr (.inl (ext_val h))
  · exact .inr (.inr h)

end EntityId

/-- What carries an identifier of its own. -/
class HasId (α : Type) where
  /-- The identifier that a value carries. -/
  idOf : α → EntityId

export HasId (idOf)

/-- An identifier carries itself. -/
instance : HasId EntityId := ⟨fun id => id⟩

end Skirmish
