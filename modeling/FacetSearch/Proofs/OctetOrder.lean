import FacetSearch.Text.Utf8
import Mathlib.Data.Char
import Mathlib.Data.List.Lex
import Mathlib.Data.String.Basic
import Mathlib.Tactic

/-!
# The order of octets

Texts stand in the same order whether they are compared by their code points or by the octets of
their UTF-8 form.
-/

namespace FacetSearch.Utf8

/-- Numbers compare like their digits to the base 64, of which the first may be any number. -/
theorem digits_lt {m n : Nat} (h : m < n) :
    m / 262144 < n / 262144 ∨ m / 262144 = n / 262144 ∧
      (m / 4096 % 64 < n / 4096 % 64 ∨ m / 4096 % 64 = n / 4096 % 64 ∧
        (m / 64 % 64 < n / 64 % 64 ∨ m / 64 % 64 = n / 64 % 64 ∧ m % 64 < n % 64)) := by
  omega

/-- The octets of a smaller character come first, whatever follows them. -/
theorem encodeChar_append_lt {c d : Char} (hlt : c < d) (rest others : List UInt8) :
    String.utf8EncodeChar c ++ rest < String.utf8EncodeChar d ++ others := by
  have hval : c.val.toNat < d.val.toNat := hlt
  have hbound : d.val.toNat < 0x110000 := by
    rcases d.valid with h | h <;> omega
  have hdigits := digits_lt hval
  simp only [String.utf8EncodeChar]
  generalize c.val.toNat = m at *
  generalize d.val.toNat = n at *
  -- One case for each pair of lengths; within one length the digits decide.
  split_ifs <;>
    simp (disch := omega) only [List.cons_append, List.nil_append, List.cons_lt_cons_iff,
      UInt8.lt_iff_toNat_lt, ← UInt8.toNat_inj, UInt8.toNat_ofNat', Nat.mod_eq_of_lt] <;>
    omega

theorem encode_cons (c : Char) (rest : List Char) :
    encode (c :: rest) = String.utf8EncodeChar c ++ encode rest := rfl

theorem encodeChar_ne_nil (c : Char) : String.utf8EncodeChar c ≠ [] := by
  simp only [String.utf8EncodeChar]
  split_ifs <;> simp

theorem encode_lt {s t : List Char} (hlt : s < t) : encode s < encode t := by
  induction s generalizing t with
  | nil =>
    cases t with
    | nil => exact absurd hlt (List.lt_irrefl [])
    | cons d rest =>
      obtain ⟨first, others, hfirst⟩ := List.exists_cons_of_ne_nil (encodeChar_ne_nil d)
      rw [encode_cons, hfirst]
      exact List.nil_lt_cons first _
  | cons c rest ih =>
    cases t with
    | nil => exact absurd hlt (List.not_lt_nil _)
    | cons d others =>
      rw [encode_cons, encode_cons]
      rcases List.cons_lt_cons_iff.mp hlt with hhead | ⟨rfl, htail⟩
      · exact encodeChar_append_lt hhead _ _
      · exact List.append_left_lt (ih htail)

/-- The order of the code points is the order of the octets. -/
theorem encode_lt_iff {s t : List Char} : encode s < encode t ↔ s < t := by
  constructor
  · intro hencoded
    rcases lt_trichotomy s t with hlt | rfl | hgt
    · exact hlt
    · exact absurd hencoded (List.lt_irrefl _)
    · exact absurd (encode_lt hgt) (List.lt_asymm hencoded)
  · exact encode_lt

theorem encode_toList_lt_iff {a b : String} : encode a.toList < encode b.toList ↔ a < b := by
  rw [encode_lt_iff, String.lt_iff_toList_lt]

end FacetSearch.Utf8
