import FacetSearch.Proofs.DecimalText

/-!
# The shorter binary format within the longer one

Every finite number of the 32-bit format is a number of the 64-bit format: its magnitude is a small
number of units times a power of two, which the longer format has room for. So a number that goes to
the longer format and is rounded back is the same, which `Binary32.exists_toBinary64?` states.
-/

namespace FacetSearch

theorem positionUnits_normal {fraction order rest : Nat} (hrest : rest < twoPow fraction) :
    positionUnits fraction ((order + 1) * twoPow fraction + rest) =
      (twoPow fraction + rest) * twoPow order := by
  have hpow := twoPow_pos fraction
  have hquotient : ((order + 1) * twoPow fraction + rest) / twoPow fraction = order + 1 := by
    rw [Nat.mul_comm, Nat.mul_add_div hpow, Nat.div_eq_of_lt hrest, Nat.add_zero]
  have hremainder : ((order + 1) * twoPow fraction + rest) % twoPow fraction = rest := by
    rw [Nat.mul_comm, Nat.mul_add_mod, Nat.mod_eq_of_lt hrest]
  rw [positionUnits, hquotient, hremainder, if_neg order.succ_ne_zero, Nat.add_sub_cancel]

/-- A magnitude is a number of at most one bit more than the fraction, times a power of two. -/
theorem exists_units_eq (fraction position : Nat) :
    ∃ n order, n < twoPow (fraction + 1) ∧ positionUnits fraction position = n * twoPow order ∧
      order * twoPow fraction ≤ position := by
  have hpow := twoPow_pos fraction
  have hsplit := Nat.div_add_mod position (twoPow fraction)
  have hrest := Nat.mod_lt position hpow
  rw [twoPow_succ]
  rcases Nat.eq_zero_or_pos (position / twoPow fraction) with hzero | hpositive
  · rw [hzero, Nat.mul_zero, Nat.zero_add] at hsplit
    refine ⟨position, 0, by omega, ?_, by omega⟩
    rw [positionUnits, if_pos hzero]
    exact (Nat.mul_one position).symm
  · obtain ⟨order, horder⟩ : ∃ order, position / twoPow fraction = order + 1 :=
      ⟨position / twoPow fraction - 1, by omega⟩
    rw [horder, Nat.mul_comm] at hsplit
    refine ⟨twoPow fraction + position % twoPow fraction, order, by omega, ?_, ?_⟩
    · rw [← positionUnits_normal hrest, hsplit]
    · rw [Nat.add_mul] at hsplit
      omega

/-- A number of few bits, times a power of two that leaves room for the fraction, is the magnitude
at some position. -/
theorem exists_positionUnits_eq {fraction n order : Nat} (hn : n < twoPow (fraction + 1))
    (horder : fraction ≤ order) :
    ∃ position, positionUnits fraction position = n * twoPow order ∧
      position < (order + 2) * twoPow fraction := by
  rcases Nat.eq_zero_or_pos n with rfl | hpositive
  · refine ⟨0, ?_, Nat.mul_pos (Nat.succ_pos _) (twoPow_pos fraction)⟩
    simp [positionUnits]
  · -- The leading bit goes to the place that the fraction gives it.
    have hleading : twoPow n.log2 ≤ n := Nat.log2_self_le hpositive.ne'
    have hbelow : n < twoPow n.log2 * 2 := (twoPow_succ _).symm ▸ Nat.lt_log2_self
    have hbits : n.log2 ≤ fraction :=
      Nat.lt_succ_iff.mp ((Nat.log2_lt hpositive.ne').mpr hn)
    obtain ⟨shift, rfl⟩ : ∃ shift, fraction = n.log2 + shift := ⟨fraction - n.log2, by omega⟩
    obtain ⟨scale, rfl⟩ : ∃ scale, order = shift + scale := ⟨order - shift, by omega⟩
    have hrest : (n - twoPow n.log2) * twoPow shift < twoPow (n.log2 + shift) := by
      rw [twoPow_add]
      exact Nat.mul_lt_mul_of_pos_right (by omega) (twoPow_pos shift)
    refine ⟨(scale + 1) * twoPow (n.log2 + shift) + (n - twoPow n.log2) * twoPow shift, ?_, ?_⟩
    · rw [positionUnits_normal hrest, twoPow_add, ← Nat.add_mul, Nat.add_sub_cancel' hleading,
        twoPow_add, Nat.mul_assoc]
    · calc
        _ < (scale + 1) * twoPow (n.log2 + shift) + twoPow (n.log2 + shift) := by omega
        _ = (scale + 2) * twoPow (n.log2 + shift) := by ring
        _ ≤ _ := Nat.mul_le_mul_right _ (by omega)

namespace Binary32

/-- The units of the shorter format are magnitudes of the longer one. -/
theorem exists_units_eq_mul (x : Binary32) (hfinite : x.isFinite = true) :
    ∃ y : Binary64, y.negative = x.negative ∧ y.units = x.units * twoPow 925 := by
  have hposition : x.position < 255 * twoPow 23 := by simpa [isFinite] using hfinite
  obtain ⟨n, order, hn, hunits, horder⟩ := exists_units_eq 23 x.position
  have hsmall : order < 255 :=
    Nat.lt_of_mul_lt_mul_right (Nat.lt_of_le_of_lt horder hposition)
  have hn' : n < twoPow 53 := by
    refine hn.trans ?_
    decide
  obtain ⟨position, heq, hless⟩ := exists_positionUnits_eq hn' (show 52 ≤ order + 925 by omega)
  refine ⟨⟨x.negative, position, ?_⟩, rfl, ?_⟩
  · calc
      position < (order + 925 + 2) * twoPow 52 := hless
      _ ≤ 2047 * twoPow 52 := Nat.mul_le_mul_right _ (by omega)
  · rw [Binary64.units, heq, units, hunits, twoPow_add, Nat.mul_assoc]

/-- A finite number is the same in the longer format, and is rounded back to itself. -/
theorem exists_toBinary64? (x : Binary32) (hfinite : x.isFinite = true) :
    ∃ y, x.toBinary64? = some y ∧ ofBinary64 y = x := by
  obtain ⟨y, hnegative, hunits⟩ := x.exists_units_eq_mul hfinite
  refine ⟨y, ?_, ?_⟩
  · rw [toBinary64?, if_pos hfinite, ← hunits, ← hnegative, Binary64.round?_units]
  · have hround : roundPosition 23 y.units (twoPow 925) = x.position := by
      have hscaled := roundPosition_mul 23 x.units 1 (twoPow_pos 925)
      rw [Nat.one_mul] at hscaled
      rw [hunits, hscaled, units, roundPosition_positionUnits]
    obtain ⟨negative, position, hbounded⟩ := x
    simp only [ofBinary64, round, hround, hnegative, Nat.min_eq_left hbounded]

end Binary32

end FacetSearch
