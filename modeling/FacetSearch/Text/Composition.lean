import FacetSearch.Text.Decomposition

/-!
# Composed form

A text in which every character is decomposed, the marks on a character stand in the order of their
combining classes, and whatever can be composed again is. Texts that are canonically equivalent have
the same composed form.
-/

namespace FacetSearch.Text

/-! ## Syllables of Hangul -/

/-- The number of a syllable. -/
def syllable? (c : Char) : Option Nat :=
  if 0xAC00 ≤ c.toNat ∧ c.toNat ≤ 0xD7A3 then some (c.toNat - 0xAC00) else none

/-- The consonant, the vowel and perhaps the last consonant of a syllable. -/
def lettersOf (syllable : Nat) : List Char :=
  [Char.ofNat (0x1100 + syllable / 588), Char.ofNat (0x1161 + syllable % 588 / 28)] ++
    if syllable % 28 = 0 then [] else [Char.ofNat (0x11A7 + syllable % 28)]

/-- A consonant with a vowel, or a syllable with a last consonant. -/
def syllableOf? (a b : Char) : Option Char :=
  if 0x1100 ≤ a.toNat ∧ a.toNat < 0x1113 ∧ 0x1161 ≤ b.toNat ∧ b.toNat < 0x1176 then
    some (Char.ofNat (0xAC00 + 588 * (a.toNat - 0x1100) + 28 * (b.toNat - 0x1161)))
  else
    match syllable? a with
    | none => none
    | some syllable =>
      if syllable % 28 = 0 ∧ 0x11A7 < b.toNat ∧ b.toNat < 0x11C3 then
        some (Char.ofNat (a.toNat + (b.toNat - 0x11A7)))
      else none

/-! ## Decomposition -/

/-- How often a character can be decomposed at most. -/
def decompositionDepth : Nat := 3

/-- What a character is equivalent to after at most so many steps. -/
def decomposeChar : (steps : Nat) → Char → List Char
  | 0, c => [c]
  | steps + 1, c =>
    match valuesOf? decompositions c with
    | none => [c]
    | some values => values.flatMap fun n ↦ decomposeChar steps (Char.ofNat n)

/-- A character puts itself behind the marks that stand before it. -/
def place (c : Char) : List Char → List Char
  | [] => [c]
  | d :: rest =>
    if 0 < combiningClass d ∧ combiningClass d < combiningClass c then d :: place c rest
    else c :: d :: rest

theorem place_perm (c : Char) (cs : List Char) : (place c cs).Perm (c :: cs) := by
  induction cs with
  | nil => exact .refl _
  | cons d rest ih =>
    rw [place]
    split
    · exact (ih.cons d).trans (.swap c d rest)
    · exact .refl _

/-- The marks on each character in the order of their classes. -/
def ordered (cs : List Char) : List Char := cs.foldr place []

theorem ordered_perm (cs : List Char) : (ordered cs).Perm cs := by
  induction cs with
  | nil => exact .refl _
  | cons c rest ih => exact (place_perm c (ordered rest)).trans (ih.cons c)

/-- The decomposed form. -/
def decomposed (cs : List Char) : List Char :=
  ordered (cs.flatMap fun c ↦ match syllable? c with
    | some syllable => lettersOf syllable
    | none => decomposeChar decompositionDepth c)

/-! ## Composition -/

/-- The character that two are equivalent to. -/
def compose? (a b : Char) : Option Char :=
  match syllableOf? a b with
  | some c => some c
  | none =>
    (decompositions.find? fun row ↦ row.values == [a.toNat, b.toNat] &&
      !isInTable compositionExclusions (Char.ofNat row.first)).map fun row ↦ Char.ofNat row.first

/-- Composes what follows a character with it; `marks` could not be composed, the last of them has
the class `last`, and marks of that class cannot be reached behind it. -/
def composeFrom (start : Char) (marks : List Char) (last : Nat) : List Char → List Char
  | [] => start :: marks
  | c :: rest =>
    let rank := combiningClass c
    match if marks.isEmpty || last < rank then compose? start c else none with
    | some composite => composeFrom composite marks last rest
    | none =>
      if rank = 0 then start :: marks ++ composeFrom c [] 0 rest
      else composeFrom start (marks ++ [c]) rank rest

/-- Composes a decomposed text. -/
def compose : List Char → List Char
  | [] => []
  | c :: rest => if combiningClass c = 0 then composeFrom c [] 0 rest else c :: compose rest

/-- The composed form. -/
def composed (cs : List Char) : List Char :=
  if cs.all fun c ↦ c.toNat < 0x80 then cs else compose (decomposed cs)

theorem composed_of_ascii {cs : List Char} (h : ∀ c ∈ cs, c.toNat < 0x80) : composed cs = cs := by
  simpa [composed] using fun c hc hle ↦ absurd (h c hc) (Nat.not_lt.2 hle)

end FacetSearch.Text
