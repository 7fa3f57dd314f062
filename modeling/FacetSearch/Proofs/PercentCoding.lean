import FacetSearch.Proofs.OctetOrder
import FacetSearch.Url.Percent

/-!
# Percent-encoding is read back

Where the percent sign is encoded, decoding an encoded text gives the octets of the text, so no two
texts are encoded alike. An encoded text has no character that had to be encoded.
-/

namespace FacetSearch

namespace Text

theorem hexValue_upperHexDigit {n : Nat} (hn : n < 16) : hexValue (upperHexDigit n) = some n := by
  have hall : ∀ n < 16, hexValue (upperHexDigit n) = some n := by decide
  exact hall n hn

theorem upperHexDigit_ne_slash {n : Nat} (hn : n < 16) : upperHexDigit n ≠ '/' := by
  have hall : ∀ n < 16, upperHexDigit n ≠ '/' := by decide
  exact hall n hn

end Text

namespace Utf8

/-- No two texts have the same octets. -/
theorem encode_injective : Function.Injective encode := by
  intro s t hsame
  have hirrefl {s t : List Char} (hsame : encode s = encode t) : ¬s < t := by
    rw [← encode_lt_iff, hsame, encode_lt_iff]
    exact lt_irrefl t
  exact le_antisymm (not_lt.mp (hirrefl hsame.symm)) (not_lt.mp (hirrefl hsame))

end Utf8

namespace Percent

variable {encoded : Char → Bool}

theorem decode_encodeOctet (octet : UInt8) (rest : List Char) :
    decode (encodeOctet octet ++ rest) = octet :: decode rest := by
  have hsize : octet.toNat < 256 := octet.toNat_lt
  have hhigh := Text.hexValue_upperHexDigit (show octet.toNat / 16 < 16 by omega)
  have hlow := Text.hexValue_upperHexDigit (show octet.toNat % 16 < 16 by omega)
  simp only [encodeOctet, List.cons_append, List.nil_append, decode, hhigh, hlow]
  rw [Nat.div_add_mod, UInt8.ofNat_toNat]

theorem decode_encodeOctets (octets : List UInt8) (rest : List Char) :
    decode (octets.flatMap encodeOctet ++ rest) = octets ++ decode rest := by
  induction octets with
  | nil => rfl
  | cons octet octets ih =>
    rw [List.flatMap_cons, List.append_assoc, decode_encodeOctet, ih, List.cons_append]

theorem decode_cons {c : Char} (hc : c ≠ '%') (rest : List Char) :
    decode (c :: rest) = String.utf8EncodeChar c ++ decode rest := by
  rw [decode]
  intros
  simp_all

/-- Decoding undoes encoding. -/
theorem decode_encode (hpercent : encoded '%' = true) (cs : List Char) :
    decode (encode encoded cs) = Utf8.encode cs := by
  induction cs with
  | nil => rfl
  | cons c cs ih =>
    have hcons : encode encoded (c :: cs) = encodeChar encoded c ++ encode encoded cs := rfl
    rw [hcons, Utf8.encode_cons, ← ih]
    unfold encodeChar
    split
    · rw [decode_encodeOctets]
    · next hplain =>
      have hc : c ≠ '%' := by
        rintro rfl
        simp [hpercent] at hplain
      exact decode_cons hc _

theorem decode_eq_nil_iff {cs : List Char} : decode cs = [] ↔ cs = [] := by
  constructor
  · intro hnothing
    cases cs with
    | nil => rfl
    | cons c rest =>
      unfold decode at hnothing
      split at hnothing
      · split at hnothing <;> cases hnothing
      · next hplain =>
        obtain ⟨rfl, rfl⟩ := List.cons.inj ‹_›
        exact absurd (List.append_eq_nil_iff.mp hnothing).1 (Utf8.encodeChar_ne_nil _)
      · contradiction
  · rintro rfl
    rfl

/-- An encoded text has a slash only where the text has one that stays. -/
theorem slash_not_mem_encode {cs : List Char} (hslash : encoded '/' = true ∨ '/' ∉ cs) :
    '/' ∉ encode encoded cs := by
  intro hmem
  obtain ⟨c, hc, hmem⟩ := List.mem_flatMap.mp hmem
  unfold encodeChar at hmem
  split at hmem
  · obtain ⟨octet, -, hmem⟩ := List.mem_flatMap.mp hmem
    have hsize : octet.toNat < 256 := octet.toNat_lt
    have hhigh := Text.upperHexDigit_ne_slash (show octet.toNat / 16 < 16 by omega)
    have hlow := Text.upperHexDigit_ne_slash (show octet.toNat % 16 < 16 by omega)
    simp [encodeOctet, hhigh.symm, hlow.symm] at hmem
  · next hplain =>
    rw [List.mem_singleton] at hmem
    subst hmem
    rcases hslash with hslash | habsent
    · simp [hslash] at hplain
    · exact habsent hc

end Percent

end FacetSearch
