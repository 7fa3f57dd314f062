import FacetSearch.Proofs.DecimalText
import FacetSearch.Proofs.NearestMagnitude

/-!
# The grammar of decimal numbers

A decimal number is an optional sign, digits with an optional point among, before or after them, and
an optional exponent. A text is read exactly if it is such a number and a finite double is nearest to
it; `Decimal.read?_eq_some_iff` says that it is then read as this double.
-/

namespace FacetSearch.Decimal

open Literal (digitsValue)

/-! ## Texts -/

/-- The sign of a number, which may be missing. -/
inductive IsSign : Bool → List Char → Prop
  | missing : IsSign false []
  | plus : IsSign false ['+']
  | minus : IsSign true ['-']

/-- The exponent of a number, which may be missing. -/
inductive IsExponent : Int → List Char → Prop
  | missing : IsExponent 0 []
  | marked {mark : Char} {negative : Bool} {sign digits : List Char} (hmark : mark = 'e' ∨ mark = 'E')
      (hsign : IsSign negative sign) (hne : digits ≠ []) (hdigits : ∀ c ∈ digits, c.isDigit) :
      IsExponent (if negative then -digitsValue digits else digitsValue digits)
        (mark :: (sign ++ digits))

/-- The text stands for these digits times a power of ten, with a sign. -/
inductive IsDecimal : List Char → Bool → Nat → Int → Prop
  | mk {negative : Bool} {exponent : Int} {sign whole digits fraction tail : List Char}
      (hsign : IsSign negative sign) (hwhole : ∀ c ∈ whole, c.isDigit)
      (hfraction : IsFraction digits fraction) (hne : whole ++ digits ≠ [])
      (htail : IsExponent exponent tail) :
      IsDecimal (sign ++ (whole ++ (fraction ++ tail))) negative (digitsValue (whole ++ digits))
        (exponent - digits.length)

/-- The double is nearest to the number that the text stands for. -/
def IsNumber (text : List Char) (x : Binary64) : Prop :=
  ∃ negative digits exponent, IsDecimal text negative digits exponent ∧ x.negative = negative ∧
    IsNearest 52 (digits * 10 ^ exponent * 2 ^ 1074) x.position

/-! ## Reading -/

theorem isSign_readSign (cs : List Char) :
    ∃ sign, IsSign (readSign cs).1 sign ∧ cs = sign ++ (readSign cs).2 := by
  unfold readSign
  split
  · exact ⟨['-'], .minus, rfl⟩
  · exact ⟨['+'], .plus, rfl⟩
  · exact ⟨[], .missing, rfl⟩

theorem readSign_append {negative : Bool} {sign rest : List Char} (hsign : IsSign negative sign)
    (hrest : ∀ c ∈ rest.head?, c ≠ '-' ∧ c ≠ '+') : readSign (sign ++ rest) = (negative, rest) := by
  cases hsign with
  | plus | minus => rfl
  | missing =>
    rw [List.nil_append, readSign]
    · exact fun others heq ↦ absurd rfl (hrest '-' (by rw [heq]; rfl)).1
    · exact fun others heq ↦ absurd rfl (hrest '+' (by rw [heq]; rfl)).2

/-- A digit is neither a sign nor a point. -/
theorem ne_of_isDigit {c : Char} (hc : c.isDigit) : c ≠ '-' ∧ c ≠ '+' ∧ c ≠ '.' := by
  refine ⟨?_, ?_, ?_⟩ <;> rintro rfl <;> exact absurd hc (by decide)

theorem readExponent_eq_some_iff {cs : List Char} {exponent : Int} :
    readExponent cs = some exponent ↔ IsExponent exponent cs := by
  constructor
  · intro hread
    cases cs with
    | nil =>
      obtain rfl := Option.some.inj hread
      exact .missing
    | cons mark rest =>
      obtain ⟨sign, hsign, hrest⟩ := isSign_readSign rest
      simp only [readExponent] at hread
      split_ifs at hread with hmark hnone hnegative
      all_goals
        rw [Bool.or_eq_true, not_or, List.isEmpty_iff, Bool.not_eq_true', Bool.not_eq_false,
          List.all_eq_true] at hnone
        obtain rfl := Option.some.inj hread
        have hexponent := IsExponent.marked hmark hsign hnone.1 hnone.2
        rw [← hrest] at hexponent
      · rwa [if_pos hnegative] at hexponent
      · rwa [if_neg hnegative] at hexponent
  · rintro (_ | ⟨hmark, hsign, hne, hdigits⟩)
    · rfl
    · next negative sign digits =>
      have hstart : ∀ c ∈ digits.head?, c ≠ '-' ∧ c ≠ '+' := fun c hc ↦
        ⟨(ne_of_isDigit (hdigits c (List.mem_of_mem_head? hc))).1,
          (ne_of_isDigit (hdigits c (List.mem_of_mem_head? hc))).2.1⟩
      have hall : digits.all Char.isDigit = true := List.all_eq_true.mpr hdigits
      rw [readExponent, if_pos hmark, readSign_append hsign hstart]
      cases negative <;> simp [hne, hall]

theorem exists_of_readMantissa {cs digits rest : List Char} {decimals : Nat}
    (hread : readMantissa cs = some (digits, decimals, rest)) :
    ∃ whole decimal fraction, cs = whole ++ (fraction ++ rest) ∧ (∀ c ∈ whole, c.isDigit) ∧
      IsFraction decimal fraction ∧ digits = whole ++ decimal ∧ digits ≠ [] ∧
      decimals = decimal.length := by
  have hsplit := List.takeWhile_append_dropWhile (p := Char.isDigit) (l := cs)
  have hwhole : ∀ c ∈ cs.takeWhile Char.isDigit, c.isDigit := fun c ↦ List.mem_takeWhile_imp
  have hparts {decimal fraction tail : List Char}
      (hdrop : cs.dropWhile Char.isDigit = fraction ++ tail) (hdecimal : IsFraction decimal fraction)
      (hsome : (if (cs.takeWhile Char.isDigit).isEmpty && decimal.isEmpty then none
        else some (cs.takeWhile Char.isDigit ++ decimal, decimal.length, tail)) =
          some (digits, decimals, rest)) :
      ∃ whole decimal fraction, cs = whole ++ (fraction ++ rest) ∧ (∀ c ∈ whole, c.isDigit) ∧
        IsFraction decimal fraction ∧ digits = whole ++ decimal ∧ digits ≠ [] ∧
        decimals = decimal.length := by
    split at hsome
    · cases hsome
    · next hne =>
      obtain ⟨rfl, rfl, rfl⟩ := by simpa only [Option.some.injEq, Prod.mk.injEq] using hsome
      refine ⟨_, decimal, fraction, ?_, hwhole, hdecimal, rfl, ?_, rfl⟩
      · rw [← hdrop, hsplit]
      · simpa using hne
  simp only [readMantissa] at hread
  split at hread
  · next others hpoint =>
    refine hparts ?_ (.pointed fun c ↦ List.mem_takeWhile_imp) hread
    rw [List.cons_append, List.takeWhile_append_dropWhile, hpoint]
  · exact hparts (List.nil_append _).symm .missing hread

/-- Where a number goes on there is no digit and no point. -/
theorem IsExponent.head? {exponent : Int} {tail : List Char} (htail : IsExponent exponent tail) :
    ∀ c ∈ tail.head?, ¬c.isDigit ∧ c ≠ '.' := by
  rcases htail with _ | ⟨rfl | rfl, -, -, -⟩
  · exact fun c hc ↦ absurd hc (by simp)
  all_goals
    intro c hc
    obtain rfl := Option.some.inj hc
    decide

/-- A number does not start with a sign after its sign. -/
theorem head?_whole_append {whole digits fraction : List Char} (hwhole : ∀ c ∈ whole, c.isDigit)
    (hfraction : IsFraction digits fraction) (hne : whole ++ digits ≠ []) (tail : List Char) :
    ∀ c ∈ (whole ++ (fraction ++ tail)).head?, c ≠ '-' ∧ c ≠ '+' := by
  intro c hc
  cases whole with
  | cons first others =>
    obtain rfl := Option.some.inj hc
    have hfirst := ne_of_isDigit (hwhole first List.mem_cons_self)
    exact ⟨hfirst.1, hfirst.2.1⟩
  | nil =>
    cases hfraction with
    | missing => exact absurd rfl hne
    | pointed hdigits =>
      obtain rfl := Option.some.inj hc
      decide

/-- A text is read as a double exactly if this is nearest to the number that the text stands for. -/
theorem read?_eq_some_iff {text : List Char} {x : Binary64} :
    read? text = some x ↔ IsNumber text x := by
  rw [read?]
  constructor
  · intro hread
    obtain ⟨sign, hsign, htext⟩ := isSign_readSign text
    simp only [Option.bind_eq_bind, Option.bind_eq_some_iff] at hread
    obtain ⟨⟨digits, decimals, rest⟩, hmantissa, exponent, hexponent, hvalue⟩ := hread
    obtain ⟨whole, decimal, fraction, hrest, hwhole, hfraction, rfl, hne, rfl⟩ :=
      exists_of_readMantissa hmantissa
    have hdecimal := IsDecimal.mk hsign hwhole hfraction hne (readExponent_eq_some_iff.mp hexponent)
    rw [← hrest, ← htext] at hdecimal
    exact ⟨_, _, _, hdecimal, Binary64.ofDecimal?_eq_some_iff.mp hvalue⟩
  · rintro ⟨negative, digits, exponent, hdecimal, hvalue⟩
    cases hdecimal with
    | mk hsign hwhole hfraction hne htail =>
      rw [readSign_append hsign (head?_whole_append hwhole hfraction hne _)]
      simp only [Option.bind_eq_bind, readMantissa_append hwhole hfraction hne htail.head?,
        readExponent_eq_some_iff.mpr htail, Option.bind_some]
      exact Binary64.ofDecimal?_eq_some_iff.mpr hvalue

open Classical in
/-- The finite double that a text stands for. -/
noncomputable def number? (text : List Char) : Option Binary64 :=
  if h : ∃ x, IsNumber text x then some h.choose else none

theorem number?_eq_read? (text : List Char) : number? text = read? text := by
  unfold number?
  split
  · next h => exact (read?_eq_some_iff.mpr h.choose_spec).symm
  · next h =>
    have hnone : ∀ x, read? text ≠ some x := fun x hx ↦ h ⟨x, read?_eq_some_iff.mp hx⟩
    exact (Option.eq_none_iff_forall_ne_some.mpr hnone).symm

theorem number?_eq_some_iff {text : List Char} {x : Binary64} :
    number? text = some x ↔ IsNumber text x := by
  rw [number?_eq_read?, read?_eq_some_iff]

end FacetSearch.Decimal
