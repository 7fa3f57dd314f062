/-!
# Binary floating-point numbers

The finite numbers of the 64-bit binary format and the numbers of the 32-bit one, whose largest
stands for infinity. A magnitude is its position in the ascending list of the magnitudes of its
format; a magnitude is also a whole number of units, the least positive magnitude being one unit.
A quotient `n / d` of units is rounded to the nearest magnitude, a tie to the even position, in
exact arithmetic on natural numbers. The main statement is `roundPosition_positionUnits`: a
magnitude is its own rounding.
-/

namespace FacetSearch

/-- A power of two. -/
def twoPow (n : Nat) : Nat := Nat.pow 2 n

/-- A power of ten. -/
def tenPow (n : Nat) : Nat := Nat.pow 10 n

theorem twoPow_pos (n : Nat) : 0 < twoPow n := Nat.two_pow_pos n

theorem twoPow_succ (n : Nat) : twoPow (n + 1) = twoPow n * 2 := Nat.pow_succ 2 n

theorem twoPow_add (m n : Nat) : twoPow (m + n) = twoPow m * twoPow n := Nat.pow_add 2 m n

theorem log2_eq {n k : Nat} (least : twoPow k ≤ n) (greatest : n < twoPow (k + 1)) :
    n.log2 = k := by
  have positive := twoPow_pos k
  exact (Nat.log2_eq_iff (by omega)).mpr ⟨least, greatest⟩

/-- The quotient rounded to the nearest natural number, a tie to the even one. -/
def divHalfEven (n d : Nat) : Nat :=
  let quotient := n / d
  let remainder := n % d
  if 2 * remainder < d ∨ (2 * remainder = d ∧ quotient % 2 = 0) then quotient else quotient + 1

/-- The position of the magnitude nearest to `n / d` units in a format with that many fraction
bits. -/
def roundPosition (fraction n d : Nat) : Nat :=
  let shift := (n / d).log2 - fraction
  shift * twoPow fraction + divHalfEven n (d * twoPow shift)

/-- The number of units of the magnitude at a position. -/
def positionUnits (fraction position : Nat) : Nat :=
  let order := position / twoPow fraction
  if order = 0 then position
  else (twoPow fraction + position % twoPow fraction) * twoPow (order - 1)

theorem divHalfEven_mul_right {d : Nat} (positive : 0 < d) (n : Nat) :
    divHalfEven (n * d) d = n := by
  simp [divHalfEven, Nat.mul_div_cancel _ positive, positive]

theorem log2_sub_of_lt {fraction position : Nat} (small : position < twoPow fraction) :
    position.log2 - fraction = 0 := by
  rcases Nat.eq_zero_or_pos position with rfl | positive
  · simp
  · have : position.log2 < fraction := (Nat.log2_lt (by omega)).mpr small
    omega

theorem log2_leading {fraction rest : Nat} (below : rest < twoPow fraction) (k : Nat) :
    ((twoPow fraction + rest) * twoPow k).log2 = fraction + k := by
  refine log2_eq ?_ ?_
  · rw [twoPow_add]
    exact Nat.mul_le_mul_right _ (by omega)
  · rw [Nat.add_right_comm, twoPow_add, twoPow_succ]
    exact Nat.mul_lt_mul_of_pos_right (by omega) (twoPow_pos k)

/-- A magnitude is its own rounding. -/
theorem roundPosition_positionUnits (fraction position : Nat) :
    roundPosition fraction (positionUnits fraction position) 1 = position := by
  have powPos := twoPow_pos fraction
  have split := Nat.div_add_mod position (twoPow fraction)
  simp only [roundPosition, positionUnits, Nat.div_one, Nat.one_mul]
  split
  · next small =>
    have lt : position < twoPow fraction := by
      rcases Nat.div_eq_zero_iff.mp small with h | h
      · omega
      · exact h
    have rounded : divHalfEven position 1 = position := by
      simpa using divHalfEven_mul_right Nat.one_pos position
    rw [log2_sub_of_lt lt, Nat.zero_mul, Nat.zero_add]
    exact rounded
  · next large =>
    have below := Nat.mod_lt position powPos
    generalize position / twoPow fraction = order at *
    generalize position % twoPow fraction = rest at *
    obtain ⟨k, rfl⟩ : ∃ k, order = k + 1 := ⟨order - 1, by omega⟩
    rw [Nat.add_sub_cancel, log2_leading below, Nat.add_sub_cancel_left,
      divHalfEven_mul_right (twoPow_pos k)]
    rw [Nat.mul_comm] at split
    rw [Nat.add_mul] at split
    omega

/-- A finite number of the 64-bit format, whose unit is `2 ^ -1074`. -/
structure Binary64 where
  negative : Bool
  position : Nat
  finite : position < 2047 * twoPow 52
deriving DecidableEq

/-- A number of the 32-bit format, whose unit is `2 ^ -149`; the last position is infinity. -/
structure Binary32 where
  negative : Bool
  position : Nat
  bounded : position ≤ 255 * twoPow 23
deriving DecidableEq

namespace Binary64

def zero (negative : Bool) : Binary64 := ⟨negative, 0, by decide⟩

instance : Inhabited Binary64 := ⟨zero false⟩

def units (x : Binary64) : Nat := positionUnits 52 x.position

/-- The number of least units in one. -/
def unitsPerOne : Nat := twoPow 1074

/-- The number nearest to `n / d` units, unless it lies beyond the finite ones. -/
def round? (negative : Bool) (n d : Nat) : Option Binary64 :=
  if h : roundPosition 52 n d < 2047 * twoPow 52 then some ⟨negative, roundPosition 52 n d, h⟩
  else none

def neg (x : Binary64) : Binary64 := ⟨!x.negative, x.position, x.finite⟩

def mul? (x y : Binary64) : Option Binary64 :=
  round? (x.negative != y.negative) (x.units * y.units) unitsPerOne

/-- The rounded quotient by a number other than zero. -/
def div? (x y : Binary64) : Option Binary64 :=
  round? (x.negative != y.negative) (x.units * unitsPerOne) y.units

def ofInt? (i : Int) : Option Binary64 := round? (i < 0) (i.natAbs * unitsPerOne) 1

@[simp] theorem round?_units (x : Binary64) : round? x.negative x.units 1 = some x := by
  unfold round? units
  rw [dif_pos (by rw [roundPosition_positionUnits]; exact x.finite)]
  simp only [roundPosition_positionUnits]

end Binary64

/-- The number of decimal digits of a natural number. -/
def decimalLength (n : Nat) : Nat := (Nat.toDigits 10 n).length

/-- The number nearest to `digits · 10 ^ exponent`, unless it lies beyond the finite ones. -/
def Binary64.ofDecimal? (negative : Bool) (digits : Nat) (exponent : Int) : Option Binary64 :=
  let order := decimalLength digits + exponent
  if digits = 0 ∨ order < -330 then some (zero negative)
  else if 320 < order then none
  else if 0 ≤ exponent then round? negative (digits * tenPow exponent.toNat * unitsPerOne) 1
  else round? negative (digits * unitsPerOne) (tenPow (-exponent).toNat)

namespace Binary32

def units (x : Binary32) : Nat := positionUnits 23 x.position

def isFinite (x : Binary32) : Bool := x.position < 255 * twoPow 23

/-- The number nearest to `n / d` units, infinity if it lies beyond the finite ones. -/
def round (negative : Bool) (n d : Nat) : Binary32 :=
  ⟨negative, min (roundPosition 23 n d) (255 * twoPow 23), Nat.min_le_right _ _⟩

def ofInt (i : Int) : Binary32 := round (i < 0) (i.natAbs * twoPow 149) 1

/-- The nearest number of the shorter format. -/
def ofBinary64 (x : Binary64) : Binary32 := round x.negative x.units (twoPow 925)

/-- The same number in the longer format, unless it is infinity. -/
def toBinary64? (x : Binary32) : Option Binary64 :=
  if x.isFinite then Binary64.round? x.negative (x.units * twoPow 925) 1 else none

end Binary32

end FacetSearch
