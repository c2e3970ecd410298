import Mathlib.Data.List.Forall2
import Skirmish.Amount

/-!
# Totals are exact

A total is computed in 64-bit arithmetic, which wraps. **The law** (`total_exact`) is that it never does.
Computed with operations that refuse to leave the 64-bit range, the total is the same (`Amount.total?`);
and it is what the modifiers make of the base in the unbounded integers, where each step ends in the range
of a total (`Amount.unbounded`).

What carries the evaluation is that the running value is **confined** to the range of a total, before and
after each modifier. So it has room for a sum with a 32-bit constant, and for a product with 100 and a
32-bit share: that product is hardly greater than 2^62.

Greater bases and greater constants make greater totals, as long as no share lies below -100, where it
would turn the sign. Neither the fractions that are dropped nor the ends of the range upset the order,
since to divide toward zero and to confine are both monotone.
-/

namespace Skirmish

/-- Whether an integer is in the range of a total. -/
def Confined (n : Int) : Prop := -2147483648 ≤ n ∧ n ≤ 2147483647

/-- The integer nearest to one in the range of a total. -/
def confine (n : Int) : Int := max (-2147483648) (min n 2147483647)

/-- The 64-bit value of an integer, when it has one. -/
def narrow (n : Int) : Option Int64 :=
  if -9223372036854775808 ≤ n ∧ n < 9223372036854775808 then some (.ofInt n) else none

namespace Modifier

/-- The running value after an adjustment, when no operation on the way leaves the 64-bit range. -/
def checked (value : Int64) : Modifier → Option Int64
  | flat delta => narrow (value.toInt + delta.toInt64.toInt)
  | percent share => do
    let factor ← narrow (100 + share.toInt64.toInt)
    let product ← narrow (value.toInt * factor.toInt)
    narrow (product.toInt.tdiv 100)

/-- The running value after an adjustment, in the unbounded integers. -/
def unbounded (value : Int) : Modifier → Int
  | flat delta => value + delta.toInt
  | percent share => (value * (100 + share.toInt)).tdiv 100

/-- Whether one modifier gives no more than another: constants are compared, and shares are the same and
do not turn the sign. -/
inductive Below : Modifier → Modifier → Prop
  | flat {delta delta' : Int32} (le : delta ≤ delta') : Below (flat delta) (flat delta')
  | percent {share : Int32} (keeps : -100 ≤ share) : Below (percent share) (percent share)

end Modifier

namespace Amount

/-- One step of a total, when no operation on the way leaves the 64-bit range. -/
def checkedStep (value : Int64) (m : Modifier) : Option Int64 := (m.checked value).map bound

/-- One step of a total in the unbounded integers, which ends in the range of a total. -/
def unboundedStep (value : Int) (m : Modifier) : Int := confine (m.unbounded value)

/-- The total, when no operation on the way leaves the 64-bit range. -/
def total? (a : Amount) : Option Int32 :=
  (a.modifiers.foldlM checkedStep a.base.toInt64).map Int64.toInt32

/-- The total in the unbounded integers, where each step ends in the range of a total. -/
def unbounded (a : Amount) : Int := a.modifiers.foldl unboundedStep a.base.toInt

/-- Whether amounts differ only in their bases and constants, which are no greater in the first. -/
structure Below (a b : Amount) : Prop where
  base : a.base ≤ b.base
  modifiers : List.Forall₂ Modifier.Below a.modifiers b.modifiers

end Amount

/-! ## The ranges -/

section Ranges

variable {a b value : Int64} {n n' : Int}

theorem confined_toInt (n : Int32) : Confined n.toInt :=
  ⟨Int32.le_toInt n, Int.le_of_lt_add_one (Int32.toInt_lt n)⟩

theorem confined_confine (n : Int) : Confined (confine n) := by
  unfold Confined confine
  omega

theorem confine_mono (le : n ≤ n') : confine n ≤ confine n' := by
  unfold confine
  omega

theorem narrow_eq_some : narrow n = some value ↔ value.toInt = n := by
  unfold narrow
  constructor
  · intro found
    split at found
    · next inside =>
      cases found
      exact Int64.toInt_ofInt_of_le inside.1 inside.2
    · cases found
  · rintro rfl
    rw [if_pos ⟨value.le_toInt, value.toInt_lt⟩, Int64.ofInt_toInt]

theorem toInt_add_of_room (low : -9223372036854775808 ≤ a.toInt + b.toInt)
    (high : a.toInt + b.toInt < 9223372036854775808) : (a + b).toInt = a.toInt + b.toInt := by
  rw [Int64.toInt_add]
  exact Int.bmod_eq_of_le low high

theorem toInt_mul_of_room (low : -9223372036854775808 ≤ a.toInt * b.toInt)
    (high : a.toInt * b.toInt < 9223372036854775808) : (a * b).toInt = a.toInt * b.toInt := by
  rw [Int64.toInt_mul]
  exact Int.bmod_eq_of_le low high

theorem toInt_toInt32_of_confined (inside : Confined value.toInt) : value.toInt32.toInt = value.toInt := by
  rw [Int64.toInt_toInt32]
  exact Int.bmod_eq_of_le inside.1 (Int.lt_add_one_of_le inside.2)

end Ranges

/-! ## One modifier -/

namespace Modifier

variable {value : Int64} {n n' : Int} {m m' : Modifier}

/-- From a confined value a modifier has room for all its operations, and so it is exact. -/
theorem checked_eq (inside : Confined value.toInt) (m : Modifier) :
    m.checked value = some (m.apply value) ∧ (m.apply value).toInt = m.unbounded value.toInt := by
  obtain ⟨low, high⟩ := inside
  cases m with
  | flat delta =>
    obtain ⟨least, greatest⟩ := confined_toInt delta
    have sum : (value + delta.toInt64).toInt = value.toInt + delta.toInt64.toInt := by
      apply toInt_add_of_room
      all_goals
        rw [Int32.toInt_toInt64]
        omega
    refine ⟨narrow_eq_some.mpr sum, ?_⟩
    rw [apply, sum, Int32.toInt_toInt64, unbounded]
  | percent share =>
    obtain ⟨least, greatest⟩ := confined_toInt share
    have factor : (100 + share.toInt64).toInt = 100 + share.toInt64.toInt := by
      have hundred : (100 : Int64).toInt = 100 := rfl
      apply toInt_add_of_room
      all_goals
        rw [hundred, Int32.toInt_toInt64]
        omega
    have product : (value * (100 + share.toInt64)).toInt = value.toInt * (100 + share.toInt64).toInt := by
      have size : (value.toInt * (100 + share.toInt64).toInt).natAbs ≤ 2147483648 * 2147483747 := by
        rw [Int.natAbs_mul, factor, Int32.toInt_toInt64]
        exact Nat.mul_le_mul (by omega) (by omega)
      apply toInt_mul_of_room
      all_goals omega
    have quotient : (value * (100 + share.toInt64) / 100).toInt =
        (value * (100 + share.toInt64)).toInt.tdiv 100 :=
      Int64.toInt_div_of_ne_right _ 100 (by decide)
    constructor
    · rw [checked, narrow_eq_some.mpr factor, Option.bind_eq_bind, Option.bind_some,
        narrow_eq_some.mpr product, Option.bind_some]
      exact narrow_eq_some.mpr quotient
    · rw [apply, quotient, product, factor, Int32.toInt_toInt64, unbounded]

/-- Modifiers that do not turn the sign keep the order. -/
theorem Below.unbounded_le (below : m.Below m') (le : n ≤ n') : m.unbounded n ≤ m'.unbounded n' := by
  cases below with
  | flat constants => exact Int.add_le_add le (Int32.le_iff_toInt_le.mp constants)
  | @percent share keeps =>
    have least : -100 ≤ share.toInt := Int32.le_iff_toInt_le.mp keeps
    have factor : 0 ≤ 100 + share.toInt := by omega
    exact Int.tdiv_le_tdiv (by decide) (Int.mul_le_mul_of_nonneg_right le factor)

end Modifier

/-! ## All modifiers -/

namespace Amount

variable {a b : Amount}

theorem toInt_bound (value : Int64) : (bound value).toInt = confine value.toInt := by
  have least : fewest.toInt = -2147483648 := rfl
  have greatest : most.toInt = 2147483647 := rfl
  unfold bound confine
  simp only [Int64.lt_iff_toInt_lt, least, greatest]
  split
  · omega
  · split <;> omega

/-- From a confined value the evaluation stays in the 64-bit range, is exact, and ends confined. The
induction is on the modifiers: each of them starts from a confined value, since the step before has ended
in one. -/
theorem foldl_step (ms : List Modifier) {value : Int64} (inside : Confined value.toInt) :
    ms.foldlM checkedStep value = some (ms.foldl step value) ∧
      (ms.foldl step value).toInt = ms.foldl unboundedStep value.toInt ∧
      Confined (ms.foldl step value).toInt := by
  induction ms generalizing value with
  | nil => exact ⟨rfl, rfl, inside⟩
  | cons m ms ih =>
    obtain ⟨passes, same⟩ := m.checked_eq inside
    have goes : checkedStep value m = some (step value m) := by
      rw [checkedStep, passes, Option.map_some, step]
    have stepped : (step value m).toInt = unboundedStep value.toInt m := by
      rw [step, toInt_bound, same, unboundedStep]
    have confined : Confined (step value m).toInt := stepped ▸ confined_confine _
    rw [List.foldlM_cons, goes, List.foldl_cons, List.foldl_cons, ← stepped]
    exact ih confined

theorem total?_eq (a : Amount) : a.total? = some a.total := by
  have inside : Confined a.base.toInt64.toInt := (Int32.toInt_toInt64 a.base).symm ▸ confined_toInt a.base
  rw [total?, (foldl_step a.modifiers inside).1, Option.map_some, total]

theorem toInt_total (a : Amount) : a.total.toInt = a.unbounded := by
  have inside : Confined a.base.toInt64.toInt := (Int32.toInt_toInt64 a.base).symm ▸ confined_toInt a.base
  obtain ⟨-, same, confined⟩ := foldl_step a.modifiers inside
  rw [total, toInt_toInt32_of_confined confined, same, Int32.toInt_toInt64, unbounded]

theorem foldl_unboundedStep_mono {ms ms' : List Modifier} (below : List.Forall₂ Modifier.Below ms ms')
    {n n' : Int} (le : n ≤ n') : ms.foldl unboundedStep n ≤ ms'.foldl unboundedStep n' := by
  induction below generalizing n n' with
  | nil => exact le
  | cons first _ ih => exact ih (confine_mono (first.unbounded_le le))

/-- Greater bases and constants make greater totals. -/
theorem Below.total_le (below : a.Below b) : a.total ≤ b.total := by
  rw [Int32.le_iff_toInt_le, toInt_total, toInt_total]
  exact foldl_unboundedStep_mono below.modifiers (Int32.le_iff_toInt_le.mp below.base)

/-- **Totals are exact and monotone.** No sum, product or quotient on the way to a total leaves the 64-bit
range. The total is that of the unbounded integers, and what is applied is the total or nothing when that is
negative. Of two amounts that differ only in their bases and constants, and whose shares do not turn the
sign, the one with the smaller numbers has the smaller total and the smaller resolution. -/
theorem total_exact (a : Amount) :
    a.total? = some a.total ∧ a.total.toInt = a.unbounded ∧ (a.resolve : Int) = max 0 a.total.toInt ∧
      ∀ b : Amount, a.Below b → a.total ≤ b.total ∧ a.resolve ≤ b.resolve := by
  refine ⟨a.total?_eq, a.toInt_total, ?_, ?_⟩
  · rw [resolve, Int.toNat_eq_max, Int.max_comm]
  · intro b below
    have le := below.total_le
    exact ⟨le, Int.toNat_le_toNat (Int32.le_iff_toInt_le.mp le)⟩

/-- A fraction is dropped toward zero. -/
example : Amount.total ⟨-7, [.percent (-50)]⟩ = -3 := by decide +kernel

/-- The first of these amounts drops a fraction below zero, and the second reaches the end of the range and
stays there. -/
theorem total_exact_doubled :
    let a : Amount := ⟨-7, [.percent 50, .flat 4]⟩
    let b : Amount := ⟨2147483647, [.percent 50, .flat 2147483647]⟩
    a.Below b ∧ a.total ≤ b.total ∧ a.total = -6 ∧ b.total = 2147483647 := by
  intro a b
  have below : a.Below b := ⟨by decide, .cons (.percent (by decide)) (.cons (.flat (by decide)) .nil)⟩
  exact ⟨below, ((total_exact a).2.2.2 b below).1, by decide +kernel, by decide +kernel⟩

end Amount

end Skirmish
