import FacetSearch.Json.Reader
import FacetSearch.Proofs.DecimalText

/-!
# Texts of numbers are literals

The text of every number is that of a literal, and a literal is read where it ends. An integer that
fits 64 bits is the value of its literal. A double need not be: its shortest digits tell it, but a
literal is converted with more than one rounding, so another double may be read.
-/

namespace FacetSearch

namespace Literal

/-! ## Literals as they are written -/

/-- Digits stand wherever a literal has a part for them, and no zero stands in front of digits. -/
structure WellFormed (literal : Literal) : Prop where
  whole : ∀ c ∈ literal.whole, c.isDigit
  leading : literal.whole = ['0'] ∨ ∃ first rest, literal.whole = first :: rest ∧ first ≠ '0'
  fraction : ∀ digits ∈ literal.fraction, digits ≠ [] ∧ ∀ c ∈ digits, c.isDigit
  exponent : ∀ part ∈ literal.exponent, part.2 ≠ [] ∧ ∀ c ∈ part.2, c.isDigit

/-- A literal with digits on both sides of its point. -/
theorem wellFormed_point (whole fraction : List Char) {exponent : Option (Bool × List Char)}
    (hwhole : ∀ c ∈ whole, c.isDigit)
    (hleading : whole = ['0'] ∨ ∃ first rest, whole = first :: rest ∧ first ≠ '0')
    (hne : fraction ≠ []) (hfraction : ∀ c ∈ fraction, c.isDigit)
    (hexponent : ∀ part ∈ exponent, part.2 ≠ [] ∧ ∀ c ∈ part.2, c.isDigit) :
    (⟨false, whole, some fraction, exponent⟩ : Literal).WellFormed where
  whole := hwhole
  leading := hleading
  fraction _ hdigits := Option.some.inj hdigits ▸ ⟨hne, hfraction⟩
  exponent := hexponent

def fractionText : Option (List Char) → List Char
  | none => []
  | some digits => '.' :: digits

def exponentText : Option (Bool × List Char) → List Char
  | none => []
  | some (negative, digits) => 'e' :: (if negative then '-' else '+') :: digits

/-- The literal without its sign. -/
def magnitudeText (literal : Literal) : List Char :=
  literal.whole ++ (fractionText literal.fraction ++ exponentText literal.exponent)

def text (literal : Literal) : List Char :=
  if literal.negative then '-' :: literal.magnitudeText else literal.magnitudeText

/-- No literal goes on with this text. -/
def Stops (text : List Char) : Prop := ∀ c ∈ text.head?, ¬c.isDigit ∧ c ≠ '.' ∧ c ≠ 'e' ∧ c ≠ 'E'

theorem stops_nil : Stops [] := by simp [Stops]

theorem stops_cons {c : Char} (hc : ¬c.isDigit ∧ c ≠ '.' ∧ c ≠ 'e' ∧ c ≠ 'E')
    (rest : List Char) : Stops (c :: rest) := by
  simpa [Stops] using hc

/-! ## Reading a literal -/

theorem readDigits_append {digits rest : List Char} (hne : digits ≠ [])
    (hdigits : ∀ c ∈ digits, c.isDigit) (hrest : ∀ c ∈ rest.head?, ¬c.isDigit) :
    readDigits (digits ++ rest) = some (digits, rest) := by
  obtain ⟨htake, hdrop⟩ := Decimal.takeWhile_isDigit hdigits hrest
  obtain ⟨first, others, rfl⟩ := List.exists_cons_of_ne_nil hne
  rw [readDigits, htake, hdrop]

theorem readWhole_append {literal : Literal} (h : literal.WellFormed) {rest : List Char}
    (hrest : ∀ c ∈ rest.head?, ¬c.isDigit) :
    readWhole (literal.whole ++ rest) = some (literal.whole, rest) := by
  rcases h.leading with hzero | ⟨first, others, hwhole, hfirst⟩
  · rw [hzero]
    cases rest with
    | nil => rfl
    | cons c rest =>
      have hc : ¬c.isDigit := hrest c rfl
      simp [readWhole, hc]
  · have hread := readDigits_append (hwhole ▸ List.cons_ne_nil _ _) h.whole hrest
    rw [hwhole] at hread ⊢
    rw [List.cons_append] at hread ⊢
    rw [readWhole, hread]
    intro _ hzero
    exact hfirst (List.cons.inj hzero).1

theorem readFraction_append {literal : Literal} (h : literal.WellFormed) {rest : List Char}
    (hrest : ∀ c ∈ rest.head?, ¬c.isDigit ∧ c ≠ '.') :
    readFraction (fractionText literal.fraction ++ rest) = some (literal.fraction, rest) := by
  cases hfraction : literal.fraction with
  | none =>
    rw [fractionText, List.nil_append]
    unfold readFraction
    split
    · next rest => exact absurd rfl (hrest '.' rfl).2
    · rfl
  | some digits =>
    obtain ⟨hne, hdigits⟩ := h.fraction digits hfraction
    have hread := readDigits_append hne hdigits fun c hc ↦ (hrest c hc).1
    rw [fractionText, List.cons_append, readFraction, hread, Option.map_some]

theorem readExponent_append {literal : Literal} (h : literal.WellFormed) {rest : List Char}
    (hrest : Stops rest) :
    readExponent (exponentText literal.exponent ++ rest) = some (literal.exponent, rest) := by
  cases hexponent : literal.exponent with
  | none =>
    cases rest with
    | nil => rfl
    | cons c rest =>
      obtain ⟨-, -, hsmall, hlarge⟩ := hrest c rfl
      simp [exponentText, readExponent, hsmall, hlarge]
  | some part =>
    obtain ⟨negative, digits⟩ := part
    obtain ⟨hne, hdigits⟩ := h.exponent _ hexponent
    have hread := readDigits_append hne hdigits fun c hc ↦ (hrest c hc).1
    cases negative <;> simp [exponentText, readExponent, readSigned, hread]

theorem head?_exponentText {exponent : Option (Bool × List Char)} {rest : List Char}
    (hrest : Stops rest) : ∀ c ∈ (exponentText exponent ++ rest).head?, ¬c.isDigit ∧ c ≠ '.' := by
  cases exponent with
  | none => exact fun c hc ↦ ⟨(hrest c hc).1, (hrest c hc).2.1⟩
  | some part => simp [exponentText]

theorem head?_fractionText {literal : Literal} {rest : List Char} (hrest : Stops rest) :
    ∀ c ∈ (fractionText literal.fraction ++ (exponentText literal.exponent ++ rest)).head?,
      ¬c.isDigit := by
  cases literal.fraction with
  | none => exact fun c hc ↦ (head?_exponentText hrest c hc).1
  | some digits => simp [fractionText]

theorem readUnsigned_append {literal : Literal} (h : literal.WellFormed) {rest : List Char}
    (hrest : Stops rest) :
    readUnsigned literal.negative (literal.magnitudeText ++ rest) = some (literal, rest) := by
  simp only [readUnsigned, magnitudeText, List.append_assoc,
    readWhole_append h (head?_fractionText hrest), readFraction_append h (head?_exponentText hrest),
    readExponent_append h hrest, Option.bind_eq_bind, Option.bind_some]

/-- A literal is read from its text, where no literal goes on. -/
theorem read_text {literal : Literal} (h : literal.WellFormed) {rest : List Char}
    (hrest : Stops rest) : read (literal.text ++ rest) = some (literal, rest) := by
  have hread := readUnsigned_append h hrest
  unfold text
  split
  · next hnegative => rwa [List.cons_append, read, ← hnegative]
  · next hpositive =>
    have hfirst : ∀ tail, literal.magnitudeText ++ rest ≠ '-' :: tail := by
      intro tail hminus
      rw [magnitudeText] at hminus
      rcases h.leading with hzero | ⟨first, others, hwhole, -⟩
      · simp [hzero] at hminus
      · have hdigit : first.isDigit := h.whole first (hwhole ▸ List.mem_cons_self)
        rw [hwhole] at hminus
        obtain ⟨rfl, -⟩ := List.cons.inj hminus
        exact absurd hdigit (by decide)
    rw [Bool.not_eq_true] at hpositive
    rw [read, ← hpositive, hread]
    exact hfirst

/-! ## Values of literals -/

theorem le_foldl_digits (digits : List Char) (n : Nat) :
    n ≤ digits.foldl (fun n c ↦ 10 * n + digitValue c) n := by
  induction digits generalizing n with
  | nil => exact le_rfl
  | cons c rest ih =>
    have hnext := ih (10 * n + digitValue c)
    rw [List.foldl_cons]
    omega

/-- Digits whose value fits 64 bits are all gathered. -/
theorem gather_of_lt {digits : List Char} {n : Nat}
    (hfits : digits.foldl (fun n c ↦ 10 * n + digitValue c) n < UInt64.size) :
    gather n digits =
      (digits.foldl (fun n c ↦ 10 * n + digitValue c) n, digits.length) := by
  induction digits generalizing n with
  | nil => rfl
  | cons c rest ih =>
    have hnext := le_foldl_digits rest (10 * n + digitValue c)
    rw [List.foldl_cons] at hfits ⊢
    simp only [gather, if_pos (hnext.trans_lt hfits), ih hfits, List.length_cons]

theorem gather_lt {n : Nat} (hn : n < UInt64.size) (digits : List Char) :
    (gather n digits).1 < UInt64.size := by
  induction digits generalizing n with
  | nil => exact hn
  | cons c rest ih =>
    simp only [gather]
    split
    · next hnext => exact ih hnext
    · exact hn

end Literal

/-! ## Numbers -/

/-- The first digit of a number is no zero, unless the number is zero. -/
theorem exists_toDigits_eq_cons {n : Nat} (hn : n ≠ 0) :
    ∃ first rest, Nat.toDigits 10 n = first :: rest ∧ first ≠ '0' := by
  induction n using Nat.strong_induction_on with
  | _ n ih =>
    rcases Nat.lt_or_ge n 10 with hsmall | hlarge
    · exact ⟨n.digitChar, [], Nat.toDigits_of_lt_base hsmall, mt Nat.digitChar_eq_zero.mp hn⟩
    · obtain ⟨first, rest, hdigits, hfirst⟩ := ih (n / 10) (by omega) (by omega)
      refine ⟨first, rest ++ [(n % 10).digitChar], ?_, hfirst⟩
      rw [Nat.toDigits_of_base_le (by decide) hlarge, hdigits, List.cons_append]

theorem Digits.exists_strip_eq_cons {d : Digits} (hkept : d.strip.1 ≠ []) :
    ∃ first rest, d.strip.1 = first :: rest ∧ first ≠ '0' := by
  obtain ⟨zeros, hall, -⟩ := d.strip_spec
  have hdigits : d.digits ≠ 0 := by
    intro hzero
    apply hkept
    simp [Digits.strip, hzero]
  obtain ⟨first, rest, htoDigits, hfirst⟩ := exists_toDigits_eq_cons hdigits
  obtain ⟨head, tail, hstrip⟩ := List.exists_cons_of_ne_nil hkept
  rw [htoDigits, hstrip, List.cons_append] at hall
  exact ⟨head, tail, hstrip, (List.cons.inj hall).1 ▸ hfirst⟩

theorem exponentText_eq (exponent : Int) :
    'e' :: (if exponent < 0 then intText exponent else '+' :: intText exponent) =
      Literal.exponentText (some (decide (exponent < 0), Nat.toDigits 10 exponent.natAbs)) := by
  by_cases hnegative : exponent < 0 <;> simp [Literal.exponentText, intText, hnegative]

/-- The text of a magnitude is a literal without a sign. -/
theorem FloatLayout.exists_literal (layout : FloatLayout) (d : Digits) :
    ∃ literal : Literal, literal.WellFormed ∧ literal.negative = false ∧
      layout.text d = literal.magnitudeText := by
  have hdigits : ∀ c ∈ d.strip.1, c.isDigit := fun c ↦ Digits.isDigit_of_mem_strip
  have hleading : d.strip.1 ≠ [] → ∃ first rest, d.strip.1 = first :: rest ∧ first ≠ '0' :=
    Digits.exists_strip_eq_cons
  have hzeros (n : Nat) : ∀ c ∈ List.replicate n '0', c.isDigit :=
    fun c hc ↦ List.eq_of_mem_replicate hc ▸ rfl
  have hnone : ∀ part ∈ (none : Option (Bool × List Char)),
      part.2 ≠ [] ∧ ∀ c ∈ part.2, c.isDigit := by simp
  unfold text
  generalize d.strip = stripped at *
  obtain ⟨kept, exponent⟩ := stripped
  simp only at hdigits hleading ⊢
  by_cases hnothing : kept = []
  · rw [if_pos (by simpa using hnothing)]
    exact ⟨_, Literal.wellFormed_point ['0'] ['0'] (by simp) (.inl rfl) (by simp) (by simp) hnone,
      rfl, rfl⟩
  obtain ⟨first, others, rfl, hfirst⟩ := hleading hnothing
  obtain ⟨hdigit, hothers⟩ := List.forall_mem_cons.mp hdigits
  have hwhole : ∀ c ∈ [first], c.isDigit := by simpa using hdigit
  have hfirst (rest : List Char) : first :: rest = ['0'] ∨
      ∃ c others, first :: rest = c :: others ∧ c ≠ '0' := .inr ⟨first, rest, rfl, hfirst⟩
  rw [if_neg (by simp)]
  split
  · -- The exponent is marked, and a point stands behind the first digit if others follow.
    let leading := exponent + ((first :: others).length : Nat) - 1
    have hexponent : ∀ part ∈ some (decide (leading < 0), Nat.toDigits 10 leading.natAbs),
        part.2 ≠ [] ∧ ∀ c ∈ part.2, c.isDigit := by
      intro part hpart
      rw [← Option.some.inj hpart]
      exact ⟨Nat.toDigits_ne_nil, fun c hc ↦ isDigit_of_mem_toDigits hc⟩
    rw [exponentText_eq leading]
    cases others with
    | nil => exact ⟨⟨false, [first], none, _⟩, ⟨hwhole, hfirst [], by simp, hexponent⟩, rfl, rfl⟩
    | cons second rest =>
      exact ⟨_, Literal.wellFormed_point [first] (second :: rest) hwhole (hfirst [])
        (List.cons_ne_nil _ _) hothers hexponent, rfl, rfl⟩
  split
  · -- Zeros fill the places before the point, and one stands behind it.
    have hfilled : ∀ c ∈ first :: others ++ List.replicate exponent.toNat '0', c.isDigit :=
      fun c hc ↦ (List.mem_append.mp hc).elim (hdigits c) (hzeros _ c)
    refine ⟨_, Literal.wellFormed_point _ ['0'] hfilled (hfirst _) (by simp) (by simp) hnone, rfl,
      ?_⟩
    simp [Literal.magnitudeText, Literal.fractionText, Literal.exponentText]
  split
  · next hlarge hpoint =>
    -- The point stands among the digits.
    let places := (exponent + ((first :: others).length : Nat) - 1).toNat + 1
    have hplaces : places < (first :: others).length := by omega
    have hbehind : (first :: others).drop places ≠ [] := by
      rw [Ne, List.drop_eq_nil_iff]
      omega
    refine ⟨_, Literal.wellFormed_point ((first :: others).take places)
      ((first :: others).drop places) (fun c hc ↦ hdigits c (List.mem_of_mem_take hc)) (hfirst _)
      hbehind (fun c hc ↦ hdigits c (List.mem_of_mem_drop hc)) hnone, rfl, ?_⟩
    simp only [Literal.magnitudeText, Literal.fractionText, Literal.exponentText, List.append_nil]
    rfl
  · -- Zeros fill the places behind the point.
    let zeros := (-(exponent + ((first :: others).length : Nat) - 1) - 1).toNat
    have hfilled : ∀ c ∈ List.replicate zeros '0' ++ first :: others, c.isDigit :=
      fun c hc ↦ (List.mem_append.mp hc).elim (hzeros _ c) (hdigits c)
    refine ⟨_, Literal.wellFormed_point ['0'] _ (by simp) (.inl rfl) (by simp) hfilled hnone, rfl,
      ?_⟩
    simp only [Literal.magnitudeText, Literal.fractionText, Literal.exponentText, List.append_nil]
    rfl

namespace Number

/-- The literal that an integer is written as. -/
def intLiteral (i : Int) : Literal := ⟨i < 0, Nat.toDigits 10 i.natAbs, none, none⟩

theorem wellFormed_intLiteral (i : Int) : (intLiteral i).WellFormed where
  whole _ hc := isDigit_of_mem_toDigits hc
  leading := by
    rcases Nat.eq_zero_or_pos i.natAbs with hzero | hpositive
    · exact .inl (by rw [intLiteral, hzero, Nat.toDigits_zero])
    · exact .inr (exists_toDigits_eq_cons hpositive.ne')
  fraction _ hdigits := by cases hdigits
  exponent _ hpart := by cases hpart

theorem text_int (i : Int) : (int i).text = (intLiteral i).text := by
  simp [text, intText, Literal.text, Literal.magnitudeText, intLiteral, Literal.fractionText,
    Literal.exponentText]

/-- An integer of 64 bits, signed or unsigned; a double always fits. -/
def Fits : Number → Prop
  | int i => -2 ^ 63 ≤ i ∧ i < 2 ^ 64
  | float _ => True

theorem gather_toDigits {n : Nat} (hn : n < UInt64.size) :
    Literal.gather 0 (Nat.toDigits 10 n) = (n, (Nat.toDigits 10 n).length) := by
  have hvalue := digitsValue_toDigits n
  rw [Literal.digitsValue] at hvalue
  rw [Literal.gather_of_lt (by rwa [hvalue]), hvalue]

theorem value?_intLiteral {i : Int} (hfits : (int i).Fits) :
    (intLiteral i).value? = some (int i) := by
  obtain ⟨hleast, hgreatest⟩ := hfits
  have hgather : Literal.gather 0 (Nat.toDigits 10 i.natAbs) =
      (i.natAbs, (Nat.toDigits 10 i.natAbs).length) :=
    gather_toDigits (by rw [UInt64.size]; omega)
  by_cases hnegative : i < 0
  · have hsigned : 0 < i.natAbs ∧ 2 * i.natAbs ≤ UInt64.size := by
      rw [UInt64.size]
      omega
    simp [Literal.value?, intLiteral, hgather, hnegative, hsigned, abs_of_neg hnegative]
  · have hvalue : (i.natAbs : Int) = i := by omega
    simp [Literal.value?, intLiteral, hgather, hnegative, hvalue]

theorem fits_of_value? {literal : Literal} {n : Number} (hvalue : literal.value? = some n) :
    n.Fits := by
  have hbound := Literal.gather_lt (show 0 < UInt64.size by decide) literal.whole
  simp only [Literal.value?, UInt64.size] at hvalue hbound
  split_ifs at hvalue with hunsigned hsigned
  · cases hvalue
    simp only [Fits]
    omega
  · cases hvalue
    simp only [Bool.and_eq_true, decide_eq_true_eq] at hsigned
    simp only [Fits]
    omega
  · obtain ⟨mantissa, -, x, -, hfloat⟩ := by
      simpa only [Option.bind_eq_bind, Option.bind_eq_some_iff, Option.some.injEq] using hvalue
    subst hfloat
    trivial

/-- The text of every number is a literal. -/
theorem exists_literal (n : Number) :
    ∃ literal : Literal, literal.WellFormed ∧ n.text = literal.text := by
  cases n with
  | int i => exact ⟨intLiteral i, wellFormed_intLiteral i, text_int i⟩
  | float x =>
    obtain ⟨literal, hwell, hunsigned, htext⟩ :=
      layout.exists_literal (BinaryFormat.double.shortest x.position)
    cases hsign : x.negative with
    | false => exact ⟨literal, hwell, by simp [text, hsign, htext, Literal.text, hunsigned]⟩
    | true =>
      refine ⟨{ literal with negative := true }, ?_, ?_⟩
      · exact ⟨hwell.whole, hwell.leading, hwell.fraction, hwell.exponent⟩
      · simp [text, hsign, htext, Literal.text, Literal.magnitudeText]

/-- The number that is read from the text of a number. -/
def reread (n : Number) : Option Number := do
  let (literal, _) ← Literal.read n.text
  literal.value?

theorem readNumber_text (n : Number) {rest : List Char} (hrest : Literal.Stops rest) :
    RawJson.readNumber (n.text ++ rest) = some ((n.reread.map .num).getD .unreadable, rest) := by
  obtain ⟨literal, hwell, htext⟩ := n.exists_literal
  have hread := Literal.read_text hwell hrest
  have halone : Literal.read n.text = some (literal, []) := by
    simpa [htext] using Literal.read_text hwell Literal.stops_nil
  simp [RawJson.readNumber, reread, htext ▸ hread, halone]

/-- An integer that fits is read back. -/
theorem reread_int {i : Int} (hfits : (int i).Fits) : (int i).reread = some (int i) := by
  have hread := Literal.read_text (wellFormed_intLiteral i) Literal.stops_nil
  rw [List.append_nil, ← text_int] at hread
  simp [reread, hread, value?_intLiteral hfits]

end Number

end FacetSearch
