import FacetSearch.Decimal.Scan
import FacetSearch.Decimal.Shortest
import FacetSearch.Json.Printer
import Mathlib.Data.List.TakeWhile
import Mathlib.Tactic

/-!
# Decimal text tells the number

The shortest digits of a magnitude read back as it, and the text that lays them out reads back as
those digits, so no two numbers have one text. How many digits are needed does not matter here:
where no short candidate reads back, the digits are those of the exact value.
-/

namespace FacetSearch

open Literal (digitsValue)

/-! ## Rounding depends on the quotient only -/

theorem divHalfEven_mul (n d : Nat) {k : Nat} (hk : 0 < k) :
    divHalfEven (n * k) (d * k) = divHalfEven n d := by
  have hquotient : n * k / (d * k) = n / d := Nat.mul_div_mul_right n d hk
  have hremainder : n * k % (d * k) = n % d * k := Nat.mul_mod_mul_right k n d
  have hless : 2 * (n % d * k) < d * k ↔ 2 * (n % d) < d := by
    rw [← Nat.mul_assoc, Nat.mul_lt_mul_right hk]
  have hsame : 2 * (n % d * k) = d * k ↔ 2 * (n % d) = d := by
    rw [← Nat.mul_assoc, Nat.mul_left_inj hk.ne']
  simp only [divHalfEven, hquotient, hremainder, hless, hsame]

theorem roundPosition_mul (fraction n d : Nat) {k : Nat} (hk : 0 < k) :
    roundPosition fraction (n * k) (d * k) = roundPosition fraction n d := by
  have hquotient : n * k / (d * k) = n / d := Nat.mul_div_mul_right n d hk
  simp only [roundPosition, hquotient, Nat.mul_right_comm d k, divHalfEven_mul n _ hk]

theorem tenPow_pos (n : Nat) : 0 < tenPow n := Nat.pow_pos (by decide)

theorem tenPow_succ (n : Nat) : tenPow (n + 1) = tenPow n * 10 := Nat.pow_succ 10 n

namespace BinaryFormat

variable (format : BinaryFormat)

theorem nearest_natCast (digits exponent : Nat) :
    format.nearest ⟨digits, exponent⟩ =
      roundPosition format.fraction (digits * tenPow exponent * format.unitsPerOne) 1 := by
  simp [nearest]

theorem nearest_neg_natCast (digits places : Nat) :
    format.nearest ⟨digits, -places⟩ =
      roundPosition format.fraction (digits * format.unitsPerOne) (tenPow places) := by
  cases places with
  | zero => simp [nearest, tenPow]
  | succ places =>
    have hnegative : ¬(0 : Int) ≤ -((places + 1 : Nat) : Int) := by omega
    simp only [nearest, hnegative, if_false, neg_neg, Int.toNat_natCast]

/-- A zero behind the digits is one place less in the exponent. -/
theorem nearest_zero (digits : Nat) (exponent : Int) :
    format.nearest ⟨digits * 10, exponent - 1⟩ = format.nearest ⟨digits, exponent⟩ := by
  rcases Int.lt_or_le 0 exponent with hpositive | hnegative
  · obtain ⟨n, rfl⟩ : ∃ n : Nat, exponent = (n + 1 : Nat) := ⟨(exponent - 1).toNat, by omega⟩
    have hless : ((n + 1 : Nat) : Int) - 1 = (n : Nat) := by omega
    rw [hless, nearest_natCast, nearest_natCast, tenPow_succ]
    congr 2
    ring
  · obtain ⟨n, rfl⟩ : ∃ n : Nat, exponent = -(n : Nat) := ⟨(-exponent).toNat, by omega⟩
    have hless : -(n : Int) - 1 = -((n + 1 : Nat) : Int) := by omega
    rw [hless, nearest_neg_natCast, nearest_neg_natCast, tenPow_succ, Nat.mul_right_comm,
      roundPosition_mul format.fraction _ _ (by decide : 0 < 10)]

theorem nearest_zeros (digits : Nat) (exponent : Int) (zeros : Nat) :
    format.nearest ⟨digits * 10 ^ zeros, exponent - zeros⟩ = format.nearest ⟨digits, exponent⟩ := by
  induction zeros with
  | zero => simp
  | succ zeros ih =>
    have hless : exponent - ((zeros + 1 : Nat) : Int) = exponent - zeros - 1 := by omega
    rw [pow_succ, ← Nat.mul_assoc, hless, nearest_zero, ih]

/-- The exact value has as many places as its unit has bits. -/
theorem nearest_exact {order : Nat} (hunits : format.unitsPerOne = twoPow order)
    (position : Nat) :
    format.nearest ⟨positionUnits format.fraction position * Nat.pow 5 order, -order⟩ =
      position := by
  have hpow : Nat.pow 5 order * twoPow order = tenPow order := (Nat.mul_pow 5 2 order).symm
  rw [nearest_neg_natCast, hunits, Nat.mul_assoc, hpow]
  have hscaled := roundPosition_mul format.fraction (positionUnits format.fraction position) 1
    (tenPow_pos order)
  rw [Nat.one_mul] at hscaled
  rw [hscaled, roundPosition_positionUnits]

/-- The shortest digits of a magnitude read back as it. -/
theorem nearest_shortest {order : Nat} (hunits : format.unitsPerOne = twoPow order)
    (position : Nat) : format.nearest (format.shortest position) = position := by
  have hlog : format.unitsPerOne.log2 = order := by
    rw [hunits]
    exact Nat.log2_two_pow
  simp only [shortest, hlog]
  cases hfound : (format.candidates (positionUnits format.fraction position)).find? fun d ↦
      format.nearest d == position with
  | some d =>
    have hreads := List.find?_some hfound
    simpa using hreads
  | none => exact format.nearest_exact hunits position

theorem double_unitsPerOne : BinaryFormat.double.unitsPerOne = twoPow 1074 := by
  rw [BinaryFormat.double]

theorem double_nearest_shortest (position : Nat) :
    BinaryFormat.double.nearest (BinaryFormat.double.shortest position) = position :=
  nearest_shortest _ double_unitsPerOne position

end BinaryFormat

/-! ## Reading what is laid out -/

theorem digitsValue_eq (digits : List Char) : digitsValue digits = Nat.ofDigitChars 10 digits 0 :=
  rfl

theorem digitsValue_toDigits (n : Nat) : digitsValue (Nat.toDigits 10 n) = n := by
  rw [digitsValue_eq, Nat.ofDigitChars_ten_toDigits]

theorem digitsValue_zeros_append (zeros : Nat) (digits : List Char) :
    digitsValue (List.replicate zeros '0' ++ digits) = digitsValue digits := by
  rw [digitsValue_eq, Nat.ofDigitChars_append, Nat.ofDigitChars_replicate_zero, Nat.mul_zero]
  rfl

theorem digitsValue_append_zeros (digits : List Char) (zeros : Nat) :
    digitsValue (digits ++ List.replicate zeros '0') = digitsValue digits * 10 ^ zeros := by
  rw [digitsValue_eq, Nat.ofDigitChars_append, Nat.ofDigitChars_replicate_zero, Nat.mul_comm]
  rfl

theorem isDigit_of_mem_toDigits {n : Nat} {c : Char} (hc : c ∈ Nat.toDigits 10 n) : c.isDigit :=
  Nat.isDigit_of_mem_toDigits (by decide) (by decide) hc

/-- The zeros at the end of the digits go into the exponent. -/
theorem Digits.strip_spec (d : Digits) :
    ∃ zeros : Nat, Nat.toDigits 10 d.digits = d.strip.1 ++ List.replicate zeros '0' ∧
      d.strip.2 = d.exponent + zeros := by
  let all := Nat.toDigits 10 d.digits
  have hsplit : all = (all.reverse.dropWhile (· == '0')).reverse ++
      (all.reverse.takeWhile (· == '0')).reverse := by
    rw [← List.reverse_append, List.takeWhile_append_dropWhile, List.reverse_reverse]
  have hzeros : (all.reverse.takeWhile (· == '0')).reverse =
      List.replicate (all.reverse.takeWhile (· == '0')).length '0' := by
    rw [List.eq_replicate_iff]
    refine ⟨List.length_reverse, fun c hc ↦ ?_⟩
    have hzero := List.mem_takeWhile_imp (List.mem_reverse.mp hc)
    simpa using hzero
  refine ⟨(all.reverse.takeWhile (· == '0')).length, ?_, ?_⟩
  · rw [← hzeros]
    exact hsplit
  · have hlength := congrArg List.length hsplit
    rw [hzeros, List.length_append, List.length_replicate] at hlength
    change d.exponent + ((all.length - (all.reverse.dropWhile (· == '0')).reverse.length : Nat) :
      Int) = _
    omega

theorem Digits.isDigit_of_mem_strip {d : Digits} {c : Char} (hc : c ∈ d.strip.1) : c.isDigit := by
  obtain ⟨zeros, hall, -⟩ := d.strip_spec
  apply isDigit_of_mem_toDigits (n := d.digits)
  rw [hall]
  exact List.mem_append_left _ hc

theorem BinaryFormat.nearest_strip (format : BinaryFormat) (d : Digits) :
    format.nearest ⟨digitsValue d.strip.1, d.strip.2⟩ = format.nearest d := by
  obtain ⟨zeros, hall, hexponent⟩ := d.strip_spec
  have hdigits : d.digits = digitsValue d.strip.1 * 10 ^ zeros := by
    rw [← digitsValue_append_zeros, ← hall, digitsValue_toDigits]
  have hplaces : d.exponent = d.strip.2 - zeros := by omega
  rw [← format.nearest_zeros _ _ zeros, ← hdigits, ← hplaces]

theorem BinaryFormat.nearest_nothing (format : BinaryFormat) (exponent : Int) :
    format.nearest ⟨0, exponent⟩ = 0 := by
  have hround (d : Nat) : roundPosition format.fraction 0 d = 0 := by
    have hhalf : divHalfEven 0 d = 0 := by
      rcases Nat.eq_zero_or_pos d with rfl | hd <;> simp [divHalfEven, *]
    simp [roundPosition, twoPow, hhalf]
  simp [nearest, hround]

/-- A prefix of characters of one kind ends where a character of another kind follows. -/
theorem takeWhile_dropWhile_append {p : Char → Bool} {cs rest : List Char}
    (hcs : ∀ c ∈ cs, p c = true) (hrest : ∀ c ∈ rest.head?, p c = false) :
    (cs ++ rest).takeWhile p = cs ∧ (cs ++ rest).dropWhile p = rest := by
  rw [List.takeWhile_append_of_pos hcs, List.dropWhile_append_of_pos hcs]
  cases rest with
  | nil => simp
  | cons c rest =>
    have hc : p c = false := hrest c rfl
    simp [hc]

namespace Decimal

/-- The digits and the exponent that a text without a sign is read as. -/
def digits? (text : List Char) : Option Digits := do
  let (digits, decimals, rest) ← readMantissa text
  let exponent ← readExponent rest
  some ⟨digitsValue digits, exponent - decimals⟩

theorem takeWhile_isDigit {digits : List Char} (hdigits : ∀ c ∈ digits, c.isDigit)
    {rest : List Char} (hrest : ∀ c ∈ rest.head?, ¬c.isDigit) :
    (digits ++ rest).takeWhile Char.isDigit = digits ∧
      (digits ++ rest).dropWhile Char.isDigit = rest :=
  takeWhile_dropWhile_append hdigits fun c hc ↦ Bool.eq_false_iff.mpr (hrest c hc)

/-- The part of a number from the point on, which may be missing, and the digits in it. -/
inductive IsFraction : List Char → List Char → Prop
  | missing : IsFraction [] []
  | pointed {digits : List Char} (hdigits : ∀ c ∈ digits, c.isDigit) :
      IsFraction digits ('.' :: digits)

theorem readMantissa_append {whole digits fraction rest : List Char}
    (hwhole : ∀ c ∈ whole, c.isDigit) (hfraction : IsFraction digits fraction)
    (hne : whole ++ digits ≠ []) (hrest : ∀ c ∈ rest.head?, ¬c.isDigit ∧ c ≠ '.') :
    readMantissa (whole ++ (fraction ++ rest)) = some (whole ++ digits, digits.length, rest) := by
  cases hfraction with
  | missing =>
    obtain ⟨htake, hdrop⟩ := takeWhile_isDigit hwhole fun c hc ↦ (hrest c hc).1
    have hwholene : whole ≠ [] := by simpa using hne
    cases rest with
    | nil => simp [readMantissa, htake, hdrop, hwholene, -List.append_nil]
    | cons c others =>
      have hc : c ≠ '.' := (hrest c rfl).2
      simp [readMantissa, htake, hdrop, hwholene, hc]
  | pointed hdigits =>
    have hpoint : ∀ c ∈ ('.' :: (digits ++ rest)).head?, ¬c.isDigit := by simp
    obtain ⟨htake, hdrop⟩ := takeWhile_isDigit hwhole hpoint
    obtain ⟨hfront, hback⟩ := takeWhile_isDigit hdigits fun c hc ↦ (hrest c hc).1
    rw [ne_eq, List.append_eq_nil_iff] at hne
    simp [readMantissa, htake, hdrop, hfront, hback, hne]

theorem readExponent_marked (exponent : Int) :
    readExponent ('e' :: (if exponent < 0 then intText exponent else '+' :: intText exponent)) =
      some exponent := by
  have hdigits (n : Nat) : (Nat.toDigits 10 n).all Char.isDigit = true := by
    rw [List.all_eq_true]
    exact fun c hc ↦ isDigit_of_mem_toDigits hc
  by_cases hnegative : exponent < 0
  · simp [readExponent, intText, hnegative, readSign, hdigits, digitsValue_toDigits,
      Nat.toDigits_ne_nil, abs_of_neg]
  · have hvalue : (exponent.natAbs : Int) = exponent := by omega
    simp [readExponent, intText, hnegative, readSign, hdigits, digitsValue_toDigits,
      Nat.toDigits_ne_nil, hvalue]

/-! ## The text of a magnitude -/

theorem digits?_point (whole fraction : List Char) (hwhole : ∀ c ∈ whole, c.isDigit)
    (hne : whole ≠ []) (hfraction : ∀ c ∈ fraction, c.isDigit) :
    digits? (whole ++ '.' :: fraction) =
      some ⟨digitsValue (whole ++ fraction), -fraction.length⟩ := by
  have hread : readMantissa (whole ++ ('.' :: fraction ++ [])) =
      some (whole ++ fraction, fraction.length, []) :=
    readMantissa_append hwhole (.pointed hfraction) (by simp [hne]) (by simp)
  rw [List.append_nil] at hread
  simp [digits?, hread, readExponent]

/-- In scientific form the first digit stands alone before the point. -/
theorem digits?_scientific {first : Char} {others : List Char} (hfirst : first.isDigit)
    (hothers : ∀ c ∈ others, c.isDigit) (exponent : Int) :
    digits? ((match first :: others with
        | first :: second :: rest => first :: '.' :: second :: rest
        | short => short) ++
          'e' :: (if exponent < 0 then intText exponent else '+' :: intText exponent)) =
      some ⟨digitsValue (first :: others), exponent - others.length⟩ := by
  have hwhole : ∀ c ∈ [first], c.isDigit := by simpa using hfirst
  have hexponent := readExponent_marked exponent
  generalize htail : 'e' :: (if exponent < 0 then intText exponent else '+' :: intText exponent) =
    tail at hexponent ⊢
  have hstart : ∀ c ∈ tail.head?, ¬c.isDigit ∧ c ≠ '.' := by simp [← htail]
  cases others with
  | nil =>
    have hread := readMantissa_append hwhole .missing (by simp) hstart
    simp only [List.cons_append, List.nil_append] at hread ⊢
    simp [digits?, hread, hexponent]
  | cons second rest =>
    have hread := readMantissa_append hwhole (.pointed hothers) (by simp) hstart
    simp only [List.cons_append, List.nil_append] at hread ⊢
    simp only [digits?, hread, Option.bind_eq_bind, Option.bind_some, hexponent]

/-- The text of a magnitude reads back as its digits, up to zeros at their end. -/
theorem digits?_text (layout : FloatLayout) (d : Digits) :
    ∃ read, digits? (layout.text d) = some read ∧
      ∀ format : BinaryFormat, format.nearest read = format.nearest d := by
  have hdigits : ∀ c ∈ d.strip.1, c.isDigit := fun c ↦ Digits.isDigit_of_mem_strip
  have hnearest (format : BinaryFormat) := format.nearest_strip d
  unfold FloatLayout.text
  generalize d.strip = stripped at *
  obtain ⟨kept, exponent⟩ := stripped
  simp only at hdigits hnearest ⊢
  by_cases hnothing : kept = []
  · subst hnothing
    refine ⟨⟨0, -1⟩, rfl, fun format ↦ ?_⟩
    rw [← hnearest]
    exact (format.nearest_nothing _).trans (format.nearest_nothing _).symm
  rw [if_neg (by simpa using hnothing)]
  split
  · -- The exponent is marked.
    obtain ⟨first, others, rfl⟩ := List.exists_cons_of_ne_nil hnothing
    obtain ⟨hfirst, hothers⟩ := List.forall_mem_cons.mp hdigits
    refine ⟨_, digits?_scientific hfirst hothers _, fun format ↦ ?_⟩
    have hplaces : exponent + ((first :: others).length : Int) - 1 - others.length = exponent := by
      rw [List.length_cons]
      omega
    rw [hplaces, hnearest]
  split
  · next hwhole =>
    -- Zeros fill the places before the point, and one stands behind it.
    have hzeros : ∀ c ∈ kept ++ List.replicate exponent.toNat '0', c.isDigit := by
      intro c hc
      rcases List.mem_append.mp hc with hkept | hzero
      · exact hdigits c hkept
      · rw [List.eq_of_mem_replicate hzero]
        rfl
    refine ⟨_, digits?_point _ ['0'] hzeros (by simp [hnothing]) (by simp), fun format ↦ ?_⟩
    have hvalue : digitsValue (kept ++ List.replicate exponent.toNat '0' ++ ['0']) =
        digitsValue kept * 10 ^ (exponent.toNat + 1) := by
      rw [← digitsValue_append_zeros, List.append_assoc, List.replicate_succ']
    have hplaces : -(['0'].length : Int) = exponent - (exponent.toNat + 1 : Nat) := by
      simp only [List.length_singleton]
      omega
    rw [hvalue, hplaces, format.nearest_zeros, hnearest]
  split
  · next hnegative hpoint =>
    -- The point stands among the digits.
    let places := (exponent + kept.length - 1).toNat + 1
    have hlength : places ≤ kept.length := by omega
    have hfront : kept.take places ≠ [] := by
      simpa [places] using hnothing
    refine ⟨_, digits?_point (kept.take places) (kept.drop places)
      (fun c hc ↦ hdigits c (List.mem_of_mem_take hc)) hfront
      (fun c hc ↦ hdigits c (List.mem_of_mem_drop hc)), fun format ↦ ?_⟩
    have hplaces : -((kept.drop places).length : Int) = exponent := by
      rw [List.length_drop]
      omega
    rw [List.take_append_drop, hplaces, hnearest]
  · next hsmall =>
    -- Zeros fill the places behind the point.
    let zeros := (-(exponent + kept.length - 1) - 1).toNat
    have hfraction : ∀ c ∈ List.replicate zeros '0' ++ kept, c.isDigit := by
      intro c hc
      rcases List.mem_append.mp hc with hzero | hkept
      · rw [List.eq_of_mem_replicate hzero]
        rfl
      · exact hdigits c hkept
    refine ⟨_, digits?_point ['0'] _ (by simp) (by simp) hfraction, fun format ↦ ?_⟩
    have hvalue : digitsValue (['0'] ++ (List.replicate zeros '0' ++ kept)) =
        digitsValue kept := by
      rw [← List.append_assoc, List.singleton_append, ← List.replicate_succ,
        digitsValue_zeros_append]
    have hplaces : -((List.replicate zeros '0' ++ kept).length : Int) = exponent := by
      rw [List.length_append, List.length_replicate]
      omega
    rw [hvalue, hplaces, hnearest]

/-! ## The text of a number -/

theorem readSign_of_reads {text : List Char} {read : Digits} (hread : digits? text = some read) :
    readSign text = (false, text) := by
  unfold readSign
  split
  · cases hread
  · cases hread
  · rfl

theorem readSign_minus (text : List Char) : readSign ('-' :: text) = (true, text) := rfl

theorem digits?_toDigits (n : Nat) : digits? (Nat.toDigits 10 n) = some ⟨n, 0⟩ := by
  have hread : readMantissa (Nat.toDigits 10 n ++ ([] ++ [])) =
      some (Nat.toDigits 10 n ++ [], 0, []) :=
    readMantissa_append (fun c hc ↦ isDigit_of_mem_toDigits hc) .missing
      (by simp [Nat.toDigits_ne_nil]) (by simp)
  rw [List.append_nil, List.append_nil] at hread
  simp [digits?, hread, readExponent, digitsValue_toDigits]

theorem readSign_intText (i : Int) :
    readSign (intText i) = (decide (i < 0), Nat.toDigits 10 i.natAbs) := by
  unfold intText
  split
  · next hnegative => simp [readSign, hnegative]
  · next hpositive => rw [readSign_of_reads (digits?_toDigits _), decide_eq_false hpositive]

end Decimal

open Decimal (digits? digits?_text digits?_toDigits readSign readSign_intText readSign_minus
  readSign_of_reads)

theorem intText_injective : Function.Injective intText := by
  intro i j hsame
  have hparts := congrArg readSign hsame
  rw [readSign_intText, readSign_intText, Prod.mk.injEq, decide_eq_decide] at hparts
  obtain ⟨hsign, hdigits⟩ := hparts
  have hvalues := congrArg digitsValue hdigits
  rw [digitsValue_toDigits, digitsValue_toDigits] at hvalues
  omega

theorem mem_intText {i : Int} {c : Char} (hc : c ∈ intText i) : c.isDigit ∨ c = '-' := by
  unfold intText at hc
  split at hc
  · rcases List.mem_cons.mp hc with rfl | hc
    · exact .inr rfl
    · exact .inl (isDigit_of_mem_toDigits hc)
  · exact .inl (isDigit_of_mem_toDigits hc)

/-- A point or an exponent tells the text of a magnitude from that of an integer. -/
theorem FloatLayout.exists_mark (layout : FloatLayout) (d : Digits) :
    ∃ c ∈ layout.text d, c = '.' ∨ c = 'e' := by
  unfold text
  simp only
  split
  · exact ⟨'.', by simp, .inl rfl⟩
  split
  · exact ⟨'e', by simp, .inr rfl⟩
  split
  · exact ⟨'.', by simp, .inl rfl⟩
  split <;> exact ⟨'.', by simp, .inl rfl⟩

/-- Two numbers of one text are one to every format. -/
theorem FloatLayout.nearest_eq_of_text_eq {layout : FloatLayout} {d e : Digits}
    (hsame : layout.text d = layout.text e) (format : BinaryFormat) :
    format.nearest d = format.nearest e := by
  obtain ⟨read, hread, hnearest⟩ := digits?_text layout d
  obtain ⟨other, hother, hothers⟩ := digits?_text layout e
  rw [hsame, hother] at hread
  obtain rfl := Option.some.inj hread
  rw [← hnearest, hothers]

theorem Binary64.eq_of_parts {x y : Binary64} (hsign : x.negative = y.negative)
    (hposition : x.position = y.position) : x = y := by
  obtain ⟨negative, position, hfinite⟩ := x
  obtain ⟨otherNegative, otherPosition, hotherFinite⟩ := y
  simp only at hsign hposition
  subst hsign hposition
  rfl

/-- A character that the text of a number may have. -/
def IsNumeral (c : Char) : Prop := c.isDigit ∨ c = '-' ∨ c = '+' ∨ c = '.' ∨ c = 'e'

instance : DecidablePred IsNumeral := fun c ↦
  inferInstanceAs (Decidable (c.isDigit ∨ c = '-' ∨ c = '+' ∨ c = '.' ∨ c = 'e'))

/-- The text has no other characters than those of numbers. -/
def Numeral (text : List Char) : Prop := ∀ c ∈ text, IsNumeral c

namespace Numeral

variable {text others : List Char}

theorem append (h : Numeral text) (hothers : Numeral others) : Numeral (text ++ others) := by
  intro c hc
  exact (List.mem_append.mp hc).elim (h c) (hothers c)

theorem cons {c : Char} (hc : IsNumeral c) (h : Numeral text) : Numeral (c :: text) :=
  List.forall_mem_cons.mpr ⟨hc, h⟩

theorem of_subset (h : Numeral text) (hsubset : others ⊆ text) : Numeral others :=
  fun c hc ↦ h c (hsubset hc)

theorem zeros (n : Nat) : Numeral (List.replicate n '0') :=
  fun _ hc ↦ .inl (List.eq_of_mem_replicate hc ▸ rfl)

theorem strip (d : Digits) : Numeral d.strip.1 := fun _ hc ↦ .inl (Digits.isDigit_of_mem_strip hc)

theorem intText (i : Int) : Numeral (intText i) := fun _ hc ↦ (mem_intText hc).imp_right .inl

theorem layoutText (layout : FloatLayout) (d : Digits) : Numeral (layout.text d) := by
  have hzero : IsNumeral '0' := by decide
  have hpoint : IsNumeral '.' := by decide
  have hdigits := strip d
  have hnothing : Numeral [] := fun _ hc ↦ absurd hc List.not_mem_nil
  unfold FloatLayout.text
  simp only
  split
  · exact .cons hzero (.cons hpoint (.cons hzero hnothing))
  split
  · refine append ?_ (.cons (by decide) ?_)
    · split
      · next hkept =>
        rw [hkept] at hdigits
        obtain ⟨hfirst, hrest⟩ := List.forall_mem_cons.mp hdigits
        exact .cons hfirst (.cons hpoint hrest)
      · exact hdigits
    · split
      · exact intText _
      · exact .cons (by decide) (intText _)
  split
  · exact (hdigits.append (zeros _)).append (.cons hpoint (.cons hzero hnothing))
  split
  · exact (hdigits.of_subset (List.take_subset _ _)).append
      (.cons hpoint (hdigits.of_subset (List.drop_subset _ _)))
  · exact .cons hzero (.cons hpoint ((zeros _).append hdigits))

end Numeral

namespace Number

theorem readSign_text_float (x : Binary64) :
    readSign (text (.float x)) =
      (x.negative, layout.text (BinaryFormat.double.shortest x.position)) := by
  obtain ⟨read, hread, -⟩ := digits?_text layout (BinaryFormat.double.shortest x.position)
  simp only [text]
  split
  · next hnegative => rw [readSign_minus, hnegative]
  · next hpositive => rw [readSign_of_reads hread, Bool.eq_false_iff.mpr hpositive]

theorem text_float_injective {x y : Binary64} (hsame : text (.float x) = text (.float y)) :
    x = y := by
  have hparts := congrArg readSign hsame
  rw [readSign_text_float, readSign_text_float, Prod.mk.injEq] at hparts
  obtain ⟨hsign, hmagnitude⟩ := hparts
  have hnearest := layout.nearest_eq_of_text_eq hmagnitude BinaryFormat.double
  rw [BinaryFormat.double_nearest_shortest, BinaryFormat.double_nearest_shortest] at hnearest
  exact Binary64.eq_of_parts hsign hnearest

theorem text_int_ne_float (i : Int) (x : Binary64) : text (.int i) ≠ text (.float x) := by
  intro hsame
  obtain ⟨c, hc, hmark⟩ := layout.exists_mark (BinaryFormat.double.shortest x.position)
  have hmem : c ∈ text (.float x) := by
    unfold text
    simp only
    split
    · exact List.mem_cons_of_mem _ hc
    · exact hc
  rw [← hsame] at hmem
  rcases hmark with rfl | rfl <;> rcases mem_intText hmem with hdigit | hminus <;> simp_all

/-- No two numbers have one text. -/
theorem text_injective : Function.Injective text := by
  intro n m hsame
  cases n with
  | int i =>
    cases m with
    | int j => exact congrArg int (intText_injective hsame)
    | float y => exact absurd hsame (text_int_ne_float i y)
  | float x =>
    cases m with
    | int j => exact absurd hsame.symm (text_int_ne_float j x)
    | float y => exact congrArg float (text_float_injective hsame)

theorem text_ne_nil (n : Number) : n.text ≠ [] := by
  intro hnothing
  have hsign := congrArg readSign hnothing
  cases n with
  | int i =>
    rw [text, readSign_intText] at hsign
    exact Nat.toDigits_ne_nil (congrArg Prod.snd hsign)
  | float x =>
    obtain ⟨c, hc, -⟩ := layout.exists_mark (BinaryFormat.double.shortest x.position)
    rw [readSign_text_float] at hsign
    exact List.ne_nil_of_mem hc (congrArg Prod.snd hsign)

theorem numeral_text (n : Number) : Numeral n.text := by
  cases n with
  | int i => exact .intText i
  | float x =>
    simp only [text]
    split
    · exact .cons (by decide) (.layoutText layout _)
    · exact .layoutText layout _

theorem exists_text_eq_cons (n : Number) : ∃ c rest, n.text = c :: rest ∧ IsNumeral c := by
  obtain ⟨c, rest, htext⟩ := List.exists_cons_of_ne_nil n.text_ne_nil
  exact ⟨c, rest, htext, n.numeral_text c (htext ▸ List.mem_cons_self)⟩

end Number

end FacetSearch
