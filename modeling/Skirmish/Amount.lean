/-!
# Amounts of damage and healing

An amount is a base with a list of modifiers that apply from the left, so that their order matters.
It is evaluated in 64-bit arithmetic. After each modifier the running value is brought back into the
32-bit range, which keeps every product and sum far inside 64 bits.
-/

namespace Skirmish

/-- One adjustment of a running amount. -/
inductive Modifier where
  /-- Adds a constant. -/
  | flat (delta : Int32)
  /-- Adds so many hundredths of the value; what is left of a whole is dropped, toward zero. -/
  | percent (share : Int32)
  deriving DecidableEq, Repr, Inhabited

namespace Modifier

/-- The running value after an adjustment. -/
def apply (value : Int64) : Modifier → Int64
  | flat delta => value + delta.toInt64
  | percent share => value * (100 + share.toInt64) / 100

end Modifier

/-- A base and the modifiers that apply to it, in order. -/
structure Amount where
  base : Int32
  modifiers : List Modifier
  deriving DecidableEq, Repr, Inhabited

namespace Amount

/-- An amount without modifiers. -/
def flat (base : Int32) : Amount := ⟨base, []⟩

/-- The greatest value of a total. -/
def most : Int64 := 2147483647

/-- The least value of a total. -/
def fewest : Int64 := -2147483648

/-- A running value brought into the range of a total. -/
def bound (value : Int64) : Int64 :=
  if value < fewest then fewest else if most < value then most else value

/-- The running value after a modifier, brought into the range. -/
def step (value : Int64) (m : Modifier) : Int64 := bound (m.apply value)

/-- **The signed total**: the base after every modifier. -/
def total (a : Amount) : Int32 := (a.modifiers.foldl step a.base.toInt64).toInt32

/-- The amount that is applied: the total, or nothing when the total is negative. -/
def resolve (a : Amount) : Nat := a.total.toInt.toNat

end Amount

end Skirmish
