import FacetSearch.Decimal.Binary
import FacetSearch.Proofs.BinaryWidening

/-!
# Rounding to the nearest magnitude

The magnitudes of a binary format ascend with their positions. A quotient of units is rounded to the
magnitude that is nearest to it, and halfway between two magnitudes to the one in even position; so
`Binary64.ofDecimal?_eq_some_iff` says which double a decimal number is. The limit of the finite
doubles counts as a magnitude: a number that is rounded to it, or beyond it, is no double.
-/

namespace FacetSearch

variable {fraction : Nat}

/-! ## Magnitudes in ascending order -/

/-- Numbers of one bit more than the fraction, at a scale, are magnitudes that follow each other. -/
theorem positionUnits_scaled {m scale : Nat} (hm : m ≤ twoPow (fraction + 1))
    (hscale : scale = 0 ∨ twoPow fraction ≤ m) :
    positionUnits fraction (scale * twoPow fraction + m) = m * twoPow scale := by
  have hpow := twoPow_pos fraction
  rw [twoPow_succ] at hm
  rcases Nat.lt_or_ge m (twoPow fraction) with hsmall | hlarge
  · obtain rfl : scale = 0 := by omega
    rw [Nat.zero_mul, Nat.zero_add, positionUnits, if_pos (Nat.div_eq_of_lt hsmall)]
    exact (Nat.mul_one m).symm
  obtain ⟨rest, rfl⟩ := Nat.exists_eq_add_of_le hlarge
  have hnormal : scale * twoPow fraction + (twoPow fraction + rest) =
      (scale + 1) * twoPow fraction + rest := by ring
  rcases Nat.lt_or_ge rest (twoPow fraction) with hrest | hfull
  · rw [hnormal, positionUnits_normal hrest]
  · obtain rfl : rest = twoPow fraction := by omega
    have hnext : (scale + 1) * twoPow fraction + twoPow fraction =
        (scale + 1 + 1) * twoPow fraction + 0 := by ring
    rw [hnormal, hnext, positionUnits_normal hpow, twoPow_succ]
    ring

theorem exists_scaled (fraction position : Nat) :
    ∃ m scale, position = scale * twoPow fraction + m ∧ m < twoPow (fraction + 1) ∧
      (scale = 0 ∨ twoPow fraction ≤ m) := by
  have hsplit := Nat.div_add_mod' position (twoPow fraction)
  have hrest := Nat.mod_lt position (twoPow_pos fraction)
  rw [twoPow_succ]
  cases horder : position / twoPow fraction with
  | zero => exact ⟨position, 0, by omega, by rw [horder] at hsplit; omega, .inl rfl⟩
  | succ scale =>
    rw [horder, Nat.succ_mul] at hsplit
    exact ⟨twoPow fraction + position % twoPow fraction, scale, by omega, by omega, .inr (by omega)⟩

theorem positionUnits_strictMono (fraction : Nat) : StrictMono (positionUnits fraction) := by
  refine strictMono_nat_of_lt_succ fun position ↦ ?_
  obtain ⟨m, scale, rfl, hm, hscale⟩ := exists_scaled fraction position
  rw [Nat.add_assoc, positionUnits_scaled hm.le hscale, positionUnits_scaled hm (by omega)]
  exact Nat.mul_lt_mul_of_pos_right m.lt_succ_self (twoPow_pos scale)

/-! ## The nearest magnitude -/

/-- No magnitude is nearer to a number of units, and if another is as near, the position is even. -/
structure IsNearest (fraction : Nat) (units : ℚ) (position : Nat) : Prop where
  least : ∀ other, |units - positionUnits fraction position| ≤ |units - positionUnits fraction other|
  even : ∀ other, |units - positionUnits fraction position| = |units - positionUnits fraction other| →
    other = position ∨ position % 2 = 0

/-- A number that is not below the midpoint of two others is nearer to the greater, or tied. -/
theorem abs_sub_lt_or_tie {x a b : ℚ} (hless : a < b) (hmiddle : a + b ≤ 2 * x) :
    |x - b| < |x - a| ∨ |x - b| = |x - a| ∧ a + b = 2 * x := by
  rw [abs_of_nonneg (by linarith : 0 ≤ x - a)]
  rcases hmiddle.lt_or_eq with hinside | htie
  · exact .inl (abs_lt.mpr ⟨by linarith, by linarith⟩)
  · refine .inr ⟨?_, htie⟩
    rw [abs_of_nonpos (by linarith)]
    linarith

/-- It is enough to compare the number with the midpoints to the neighbours. -/
theorem isNearest_of_midpoints {units : ℚ} {position : Nat}
    (hbelow : ∀ before, before + 1 = position →
      (positionUnits fraction before + positionUnits fraction position : ℚ) ≤ 2 * units ∧
      ((positionUnits fraction before + positionUnits fraction position : ℚ) = 2 * units →
        position % 2 = 0))
    (habove : 2 * units ≤ positionUnits fraction position + positionUnits fraction (position + 1) ∧
      (2 * units = positionUnits fraction position + positionUnits fraction (position + 1) →
        position % 2 = 0)) :
    IsNearest fraction units position := by
  have hascending := positionUnits_strictMono fraction
  have hcompare (other : Nat) (hother : other ≠ position) :
      |units - positionUnits fraction position| < |units - positionUnits fraction other| ∨
        |units - positionUnits fraction position| = |units - positionUnits fraction other| ∧
          position % 2 = 0 := by
    rcases Nat.lt_or_gt_of_ne hother with hless | hgreater
    · obtain ⟨before, rfl⟩ : ∃ before, before + 1 = position := ⟨position - 1, by omega⟩
      obtain ⟨hmiddle, heven⟩ := hbelow before rfl
      have hfar : (positionUnits fraction other : ℚ) ≤ positionUnits fraction before :=
        Nat.cast_le.mpr (hascending.monotone (Nat.lt_succ_iff.mp hless))
      exact (abs_sub_lt_or_tie (Nat.cast_lt.mpr (hascending hless)) (by linarith)).imp_right
        (And.imp_right fun htie ↦ heven (by linarith))
    · obtain ⟨hmiddle, heven⟩ := habove
      have hfar : (positionUnits fraction (position + 1) : ℚ) ≤ positionUnits fraction other :=
        Nat.cast_le.mpr (hascending.monotone hgreater)
      have hnearer := abs_sub_lt_or_tie (x := -units)
        (neg_lt_neg (Nat.cast_lt.mpr (hascending hgreater))) (by linarith)
      rw [neg_sub_neg, neg_sub_neg, abs_sub_comm _ units, abs_sub_comm _ units] at hnearer
      exact hnearer.imp_right (And.imp_right fun htie ↦ heven (by linarith))
  refine ⟨fun other ↦ ?_, fun other hsame ↦ ?_⟩
  · by_cases hother : other = position
    · rw [hother]
    · rcases hcompare other hother with hless | ⟨hsame, -⟩
      · exact hless.le
      · exact hsame.le
  · by_cases hother : other = position
    · exact .inl hother
    · rcases hcompare other hother with hless | ⟨-, heven⟩
      · exact absurd hsame hless.ne
      · exact .inr heven

theorem IsNearest.unique {units : ℚ} {position other : Nat} (h : IsNearest fraction units position)
    (hother : IsNearest fraction units other) : position = other := by
  by_contra hne
  wlog hless : position < other generalizing position other
  · exact this hother h (Ne.symm hne) (by omega)
  have hsame := le_antisymm (h.least other) (hother.least position)
  have heven := (h.even other hsame).resolve_left (Ne.symm hne)
  have hothereven := (hother.even position hsame.symm).resolve_left hne
  -- Between two even positions there is one that is nearer.
  have hascending := positionUnits_strictMono fraction
  have hfirst : (positionUnits fraction position : ℚ) < positionUnits fraction (position + 1) :=
    Nat.cast_lt.mpr (hascending position.lt_succ_self)
  have hsecond : (positionUnits fraction (position + 1) : ℚ) < positionUnits fraction other :=
    Nat.cast_lt.mpr (hascending (by omega))
  have hbetween := h.least (position + 1)
  rcases abs_eq_abs.mp hsame with heq | heq
  · linarith
  · have habs : |units - positionUnits fraction position| =
        units - positionUnits fraction position := abs_of_nonneg (by linarith)
    have hnearer : |units - positionUnits fraction (position + 1)| <
        units - positionUnits fraction position := abs_lt.mpr ⟨by linarith, by linarith⟩
    exact absurd (habs ▸ hbetween) hnearer.not_ge

/-! ## Rounding -/

/-- A quotient is rounded by at most one half, and by one half only to an even number. -/
theorem divHalfEven_spec {n d m : Nat} (hd : 0 < d) (hm : m = divHalfEven n d) :
    (2 * n ≤ 2 * (m * d) + d ∧ (2 * n = 2 * (m * d) + d → m % 2 = 0)) ∧
      2 * (m * d) ≤ 2 * n + d ∧ (2 * (m * d) = 2 * n + d → m % 2 = 0) := by
  have hsplit := Nat.div_add_mod' n d
  have hrest := Nat.mod_lt n hd
  simp only [divHalfEven] at hm
  split at hm
  · next hdown =>
    rw [hm]
    omega
  · next hup =>
    have hnext : m * d = n / d * d + d := by rw [hm, Nat.succ_mul]
    omega

theorem add_twoPow_le_positionUnits_succ {m scale : Nat} (hm : m ≤ twoPow (fraction + 1))
    (hscale : scale = 0 ∨ twoPow fraction ≤ m) :
    (m + 1) * twoPow scale ≤ positionUnits fraction (scale * twoPow fraction + m + 1) := by
  rcases hm.lt_or_eq with hless | rfl
  · rw [Nat.add_assoc, positionUnits_scaled hless (by omega)]
  · have hpow := twoPow_pos fraction
    have hnext : scale * twoPow fraction + twoPow (fraction + 1) + 1 =
        (scale + 1) * twoPow fraction + (twoPow fraction + 1) := by
      rw [twoPow_succ]
      ring
    have hfits : twoPow fraction + 1 ≤ twoPow (fraction + 1) := by
      rw [twoPow_succ]
      omega
    rw [hnext, positionUnits_scaled hfits (by omega), twoPow_succ, twoPow_succ]
    have hscaled := twoPow_pos scale
    nlinarith

/-- A quotient at the scale that its leading bit sets has as many bits as the format. -/
theorem divHalfEven_bounds {n d scale m : Nat} (hd : 0 < d) (hlog : scale = (n / d).log2 - fraction)
    (hm : m = divHalfEven n (d * twoPow scale)) :
    m ≤ twoPow (fraction + 1) ∧
      (scale = 0 ∨ twoPow fraction ≤ m ∧ twoPow fraction * (d * twoPow scale) ≤ n) := by
  have hunit : 0 < d * twoPow scale := Nat.mul_pos hd (twoPow_pos scale)
  obtain ⟨⟨hover, -⟩, hunder, -⟩ := divHalfEven_spec hunit hm
  have hbelow : n < twoPow (fraction + 1) * (d * twoPow scale) := by
    have hbits : n / d < twoPow (fraction + 1 + scale) :=
      Nat.lt_of_lt_of_le Nat.lt_log2_self (Nat.pow_le_pow_right (by decide) (by omega))
    rw [Nat.div_lt_iff_lt_mul hd, twoPow_add, Nat.mul_assoc, Nat.mul_comm (twoPow scale)] at hbits
    exact hbits
  constructor
  · by_contra hlarge
    have hmore := Nat.mul_le_mul_right (d * twoPow scale) (Nat.lt_of_not_le hlarge)
    rw [Nat.succ_mul] at hmore
    omega
  · by_cases hscale : scale = 0
    · exact .inl hscale
    have hleading : twoPow fraction * (d * twoPow scale) ≤ n := by
      have hbits : (n / d).log2 = fraction + scale := by omega
      have hpositive : n / d ≠ 0 := by
        intro hzero
        rw [hzero, Nat.log2_zero] at hbits
        omega
      have hleast : twoPow (fraction + scale) ≤ n / d := hbits ▸ Nat.log2_self_le hpositive
      rw [Nat.le_div_iff_mul_le hd, twoPow_add, Nat.mul_assoc, Nat.mul_comm (twoPow scale)] at hleast
      exact hleast
    refine .inr ⟨?_, hleading⟩
    by_contra hsmall
    have hless := Nat.mul_le_mul_right (d * twoPow scale) (Nat.lt_of_not_le hsmall)
    rw [Nat.succ_mul] at hless
    omega

/-- A number that is rounded to a whole number at a scale is nearest to it among all magnitudes. -/
theorem isNearest_scaled (hfraction : 0 < fraction) {m scale : Nat} {units : ℚ}
    (hm : m ≤ twoPow (fraction + 1))
    (hscale : scale = 0 ∨ twoPow fraction ≤ m ∧ (twoPow fraction * twoPow scale : ℚ) ≤ units)
    (hbelow : (2 * m - 1) * twoPow scale ≤ 2 * units ∧
      ((2 * m - 1) * twoPow scale = 2 * units → m % 2 = 0))
    (habove : 2 * units ≤ (2 * m + 1) * twoPow scale ∧
      (2 * units = (2 * m + 1) * twoPow scale → m % 2 = 0)) :
    IsNearest fraction units (scale * twoPow fraction + m) := by
  have heven (heven : m % 2 = 0) : (scale * twoPow fraction + m) % 2 = 0 := by
    obtain ⟨k, rfl⟩ : ∃ k, fraction = k + 1 := ⟨fraction - 1, by omega⟩
    rw [twoPow_succ, ← Nat.mul_assoc]
    omega
  have hlarge : scale = 0 ∨ twoPow fraction ≤ m := hscale.imp_right And.left
  have hunits : (positionUnits fraction (scale * twoPow fraction + m) : ℚ) = m * twoPow scale := by
    rw [positionUnits_scaled hm hlarge, Nat.cast_mul]
  refine isNearest_of_midpoints (fun before hbefore ↦ ?_) ?_
  · by_cases hwhole : scale = 0 ∨ twoPow fraction < m
    · obtain ⟨k, rfl⟩ : ∃ k, m = k + 1 := by
        refine ⟨m - 1, ?_⟩
        rcases hwhole with rfl | hmore <;> omega
      obtain rfl : before = scale * twoPow fraction + k := by omega
      have hneighbour : (positionUnits fraction (scale * twoPow fraction + k) : ℚ) =
          k * twoPow scale := by
        rw [positionUnits_scaled (by omega) (by omega), Nat.cast_mul]
      rw [hunits, hneighbour]
      push_cast at hbelow ⊢
      exact ⟨by linarith, fun htie ↦ heven (hbelow.2 (by linarith))⟩
    · -- The number is not below the least one at the scale, and the magnitude before is.
      obtain ⟨hleast, hnumber⟩ := hscale.resolve_left (by omega)
      obtain rfl : m = twoPow fraction := by omega
      have hless : (positionUnits fraction before : ℚ) <
          positionUnits fraction (scale * twoPow fraction + twoPow fraction) :=
        Nat.cast_lt.mpr (positionUnits_strictMono fraction (by omega))
      rw [hunits] at hless ⊢
      exact ⟨by linarith, fun htie ↦ by linarith⟩
  · have hneighbour : ((m + 1) * twoPow scale : ℚ) ≤
        positionUnits fraction (scale * twoPow fraction + m + 1) := by
      exact_mod_cast add_twoPow_le_positionUnits_succ hm hlarge
    rw [hunits]
    exact ⟨by linarith, fun htie ↦ heven (habove.2 (by linarith))⟩

variable (fraction) in
/-- The position of the magnitude that is nearest to a quotient. -/
theorem isNearest_roundPosition (hfraction : 0 < fraction) (n : Nat) {d : Nat} (hd : 0 < d) :
    IsNearest fraction (n / d) (roundPosition fraction n d) := by
  rw [roundPosition]
  generalize hlog : (n / d).log2 - fraction = scale
  generalize hrounded : divHalfEven n (d * twoPow scale) = m
  obtain ⟨hm, hscale⟩ := divHalfEven_bounds hd hlog.symm hrounded.symm
  have hunit : 0 < d * twoPow scale := Nat.mul_pos hd (twoPow_pos scale)
  obtain ⟨⟨hover, hovereven⟩, hunder, hundereven⟩ := divHalfEven_spec hunit hrounded.symm
  have hdpos : (0 : ℚ) < d := Nat.cast_pos.mpr hd
  have hquotient : (n : ℚ) = n / d * d := (div_mul_cancel₀ _ hdpos.ne').symm
  generalize (n / d : ℚ) = units at hquotient ⊢
  have hovercast : (2 * n : ℚ) ≤ 2 * (m * (d * twoPow scale)) + d * twoPow scale := by
    exact_mod_cast hover
  have hundercast : 2 * (m * (d * twoPow scale)) ≤ (2 * n + d * twoPow scale : ℚ) := by
    exact_mod_cast hunder
  rw [hquotient] at hovercast hundercast
  have hnumber (hleading : twoPow fraction * (d * twoPow scale) ≤ n) :
      (twoPow fraction * twoPow scale : ℚ) ≤ units := by
    have hcast : (twoPow fraction * (d * twoPow scale) : ℚ) ≤ n := by exact_mod_cast hleading
    rw [hquotient] at hcast
    exact le_of_mul_le_mul_right (by linarith) hdpos
  refine isNearest_scaled hfraction hm (hscale.imp_right (And.imp_right hnumber))
    ⟨le_of_mul_le_mul_right (by linarith) hdpos, fun htie ↦ hundereven ?_⟩
    ⟨le_of_mul_le_mul_right (by linarith) hdpos, fun htie ↦ hovereven ?_⟩
  · have hcast : (2 * (m * (d * twoPow scale)) : ℚ) = 2 * n + d * twoPow scale := by
      rw [hquotient]
      linear_combination d * htie
    exact_mod_cast hcast
  · have hcast : (2 * n : ℚ) = 2 * (m * (d * twoPow scale)) + d * twoPow scale := by
      rw [hquotient]
      linear_combination d * htie
    exact_mod_cast hcast

/-- Zero is nearest to what is less than half of a unit. -/
theorem isNearest_zero {units : ℚ} (hhalf : 2 * units < 1) :
    IsNearest fraction units 0 := by
  have hzero : positionUnits fraction 0 = 0 := by simp [positionUnits]
  have hone : 1 ≤ positionUnits fraction 1 := by
    have hless := positionUnits_strictMono fraction Nat.zero_lt_one
    omega
  have hcast : (1 : ℚ) ≤ positionUnits fraction 1 := by exact_mod_cast hone
  refine isNearest_of_midpoints (fun before hbefore ↦ absurd hbefore before.succ_ne_zero) ?_
  rw [hzero, Nat.cast_zero, zero_add, zero_add]
  exact ⟨by linarith, fun _ ↦ rfl⟩

/-- What a magnitude does not exceed is nearer to it than to those before. -/
theorem IsNearest.le_of_positionUnits_le {units : ℚ} {position limit : Nat}
    (h : IsNearest fraction units position) (hlimit : positionUnits fraction limit ≤ units) :
    limit ≤ position := by
  by_contra hless
  have hbefore : (positionUnits fraction position : ℚ) < positionUnits fraction limit :=
    Nat.cast_lt.mpr (positionUnits_strictMono fraction (by omega))
  have hleast := h.least limit
  rw [abs_of_nonneg (by linarith), abs_of_nonneg (by linarith)] at hleast
  linarith

/-! ## Doubles -/

theorem twoPow_cast (n : Nat) : (twoPow n : ℚ) = 2 ^ n := Nat.cast_pow 2 n

theorem tenPow_cast (n : Nat) : (tenPow n : ℚ) = 10 ^ n := Nat.cast_pow 10 n

theorem decimal_le (digits : Nat) (exponent : Int) :
    (digits * 10 ^ exponent : ℚ) ≤ 10 ^ (decimalLength digits + exponent) := by
  have hlength : digits < 10 ^ decimalLength digits :=
    (Nat.length_toDigits_le_iff (by decide) Nat.length_toDigits_pos).mp le_rfl
  have hcast : (digits : ℚ) ≤ 10 ^ decimalLength digits := by exact_mod_cast hlength.le
  rw [zpow_add₀ (by norm_num), zpow_natCast]
  exact mul_le_mul_of_nonneg_right hcast (by positivity)

theorem le_decimal {digits : Nat} (hdigits : 0 < digits) (exponent : Int) :
    (10 : ℚ) ^ (decimalLength digits + exponent - 1) ≤ digits * 10 ^ exponent := by
  obtain ⟨k, hk⟩ : ∃ k, decimalLength digits = k + 1 :=
    Nat.exists_eq_succ_of_ne_zero (Nat.length_toDigits_pos).ne'
  have hlength : 10 ^ k ≤ digits := by
    rcases Nat.eq_zero_or_pos k with rfl | hmore
    · exact hdigits
    · by_contra hless
      have hshort : decimalLength digits ≤ k :=
        (Nat.length_toDigits_le_iff (by decide) hmore).mpr (Nat.lt_of_not_le hless)
      omega
  have hcast : (10 ^ k : ℚ) ≤ digits := by exact_mod_cast hlength
  have horder : (decimalLength digits + exponent - 1 : Int) = k + exponent := by omega
  rw [horder, zpow_add₀ (by norm_num), zpow_natCast]
  exact mul_le_mul_of_nonneg_right hcast (by positivity)

namespace Binary64

variable {negative : Bool} {x : Binary64}

theorem round?_eq_some_iff {n d : Nat} (hd : 0 < d) :
    round? negative n d = some x ↔ x.negative = negative ∧ IsNearest 52 (n / d) x.position := by
  have hnearest := isNearest_roundPosition 52 (by decide) n hd
  rw [round?]
  constructor
  · intro hround
    split at hround
    · obtain rfl := Option.some.inj hround
      exact ⟨rfl, hnearest⟩
    · cases hround
  · rintro ⟨rfl, hx⟩
    have hposition := hnearest.unique hx
    rw [dif_pos (hposition ▸ x.finite)]
    simp only [hposition]

theorem zero_eq_some_iff {units : ℚ} (hhalf : 2 * units < 1) :
    some (zero negative) = some x ↔ x.negative = negative ∧ IsNearest 52 units x.position := by
  have hnearest : IsNearest 52 units 0 := isNearest_zero hhalf
  constructor
  · rintro heq
    obtain rfl := Option.some.inj heq
    exact ⟨rfl, hnearest⟩
  · rintro ⟨rfl, hx⟩
    have hposition := hnearest.unique hx
    obtain ⟨negative, position, hfinite⟩ := x
    obtain rfl : 0 = position := hposition
    rfl

/-- The limit of the finite doubles. -/
theorem positionUnits_limit : positionUnits 52 (2047 * twoPow 52) = twoPow 2098 := by
  have hnormal := @positionUnits_normal 52 2046 0 (twoPow_pos 52)
  rw [Nat.add_zero ((2046 + 1) * twoPow 52), Nat.add_zero (twoPow 52), ← twoPow_add] at hnormal
  exact hnormal

/-- Numbers of so small an order are rounded to zero. -/
theorem decimal_lt_half {digits : Nat} {exponent : Int}
    (horder : decimalLength digits + exponent < -330) :
    (2 * (digits * 10 ^ exponent * 2 ^ 1074) : ℚ) < 1 := by
  have hvalue : (digits * 10 ^ exponent : ℚ) ≤ (10 ^ 331)⁻¹ :=
    (decimal_le digits exponent).trans <| by
      rw [← zpow_natCast, ← zpow_neg]
      exact zpow_le_zpow_right₀ (by norm_num) (by omega)
  have hpowers : 2 ^ 1075 < 10 ^ 331 := by decide +kernel
  have hcast : (2 ^ 1075 : ℚ) < 10 ^ 331 := by exact_mod_cast hpowers
  calc
    (2 * (digits * 10 ^ exponent * 2 ^ 1074) : ℚ) = digits * 10 ^ exponent * 2 ^ 1075 := by
      rw [pow_succ' 2 1074, mul_left_comm]
    _ ≤ (10 ^ 331)⁻¹ * 2 ^ 1075 := mul_le_mul_of_nonneg_right hvalue (by positivity)
    _ < (10 ^ 331)⁻¹ * 10 ^ 331 := mul_lt_mul_of_pos_left hcast (by positivity)
    _ = 1 := inv_mul_cancel₀ (by positivity)

/-- Numbers of so large an order are beyond the finite doubles. -/
theorem limit_le_decimal {digits : Nat} (hdigits : 0 < digits) {exponent : Int}
    (horder : 320 < decimalLength digits + exponent) :
    (positionUnits 52 (2047 * twoPow 52) : ℚ) ≤ digits * 10 ^ exponent * 2 ^ 1074 := by
  have hvalue : (10 ^ 320 : ℚ) ≤ digits * 10 ^ exponent :=
    le_trans (by
      rw [← zpow_natCast]
      exact zpow_le_zpow_right₀ (by norm_num) (by omega)) (le_decimal hdigits exponent)
  have hpowers : 2 ^ 1024 ≤ 10 ^ 320 := by decide +kernel
  have hcast : (2 ^ 1024 : ℚ) ≤ 10 ^ 320 := by exact_mod_cast hpowers
  rw [positionUnits_limit, twoPow_cast, pow_add 2 1024 1074]
  exact mul_le_mul_of_nonneg_right (hcast.trans hvalue) (by positivity)

/-- A decimal number is the double of its sign that is nearest to it. -/
theorem ofDecimal?_eq_some_iff {digits : Nat} {exponent : Int} :
    ofDecimal? negative digits exponent = some x ↔
      x.negative = negative ∧ IsNearest 52 (digits * 10 ^ exponent * 2 ^ 1074) x.position := by
  rw [ofDecimal?]
  split_ifs with hsmall hlarge hwhole
  · refine zero_eq_some_iff ?_
    rcases hsmall with rfl | horder
    · norm_num
    · exact decimal_lt_half horder
  · have hdigits : 0 < digits := by omega
    refine iff_of_false (by simp) fun ⟨_, hx⟩ ↦ ?_
    have hbeyond := hx.le_of_positionUnits_le (limit_le_decimal hdigits hlarge)
    exact absurd x.finite hbeyond.not_gt
  · lift exponent to Nat using hwhole
    rw [round?_eq_some_iff Nat.one_pos, unitsPerOne, Int.toNat_natCast]
    push_cast
    rw [tenPow_cast, twoPow_cast, zpow_natCast, div_one]
  · obtain ⟨places, rfl⟩ : ∃ places : Nat, exponent = -places := ⟨(-exponent).toNat, by omega⟩
    rw [neg_neg, Int.toNat_natCast, round?_eq_some_iff (tenPow_pos places), unitsPerOne]
    push_cast
    rw [tenPow_cast, twoPow_cast, zpow_neg, zpow_natCast, div_eq_mul_inv, mul_right_comm]

end Binary64

end FacetSearch
