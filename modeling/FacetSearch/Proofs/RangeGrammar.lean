import FacetSearch.Aggregation.Ranges
import FacetSearch.Proofs.DecimalGrammar
import FacetSearch.Proofs.TextTokens

/-!
# The grammar of ranges

`Settles` says of a computation when exactly it fails and what it gives otherwise. Reading ranges
fails exactly on a token that is not blank and does not have two sides, each a star or a finite
number; otherwise it gives the intervals of the tokens in order, but none for a token that is open on
both sides.
-/

namespace FacetSearch

variable {ε α β ι : Type}

/-- The computation fails exactly when `fails` holds, and gives `value` otherwise. -/
structure Settles (result : Except ε α) (fails : Prop) (value : α) : Prop where
  error_of : fails → ∃ fault, result = .error fault
  ok_of : ¬fails → result = .ok value

namespace Settles

theorem ok (value : α) : Settles (.ok value : Except ε α) False value := ⟨False.elim, fun _ ↦ rfl⟩

theorem error (fault : ε) {fails : Prop} (hfails : fails) (value : α) :
    Settles (.error fault : Except ε α) fails value :=
  ⟨fun _ ↦ ⟨fault, rfl⟩, fun hnot ↦ absurd hfails hnot⟩

theorem congr {result : Except ε α} {fails other : Prop} {value : α}
    (hsettles : Settles result fails value) (hiff : fails ↔ other) : Settles result other value :=
  ⟨fun hother ↦ hsettles.error_of (hiff.mpr hother), fun hnot ↦ hsettles.ok_of (hnot ∘ hiff.mp)⟩

/-- A sequence fails when its first part does, or its second part on the value of the first. -/
theorem bind {result : Except ε α} {f : α → Except ε β} {first second : Prop} {a : α} {b : β}
    (hfirst : Settles result first a) (hsecond : ¬first → Settles (f a) second b) :
    Settles (result >>= f) (first ∨ second) b := by
  by_cases h : first
  · obtain ⟨fault, hfault⟩ := hfirst.error_of h
    rw [hfault]
    exact .error fault (.inl h) b
  · rw [hfirst.ok_of h]
    exact (hsecond h).congr (by simp [h])

theorem map {result : Except ε α} {fails : Prop} {value : α} (f : α → β)
    (hsettles : Settles result fails value) : Settles (f <$> result) fails (f value) := by
  constructor
  · intro hfails
    obtain ⟨fault, hfault⟩ := hsettles.error_of hfails
    exact ⟨fault, by rw [hfault]; rfl⟩
  · intro hnot
    rw [hsettles.ok_of hnot]
    rfl

/-- Computations that settle alike differ at most in the fault that they report. -/
theorem toOption_eq {result other : Except ε α} {fails : Prop} {value : α}
    (hsettles : Settles result fails value) (hother : Settles other fails value) :
    result.toOption = other.toOption := by
  by_cases h : fails
  · obtain ⟨fault, hfault⟩ := hsettles.error_of h
    obtain ⟨another, hanother⟩ := hother.error_of h
    rw [hfault, hanother]
    rfl
  · rw [hsettles.ok_of h, hother.ok_of h]

/-- The computation fails exactly when it should. -/
theorem error_iff {result : Except ε α} {fails : Prop} {value : α}
    (hsettles : Settles result fails value) : (∃ fault, result = .error fault) ↔ fails := by
  constructor
  · rintro ⟨fault, hfault⟩
    by_contra hnot
    rw [hsettles.ok_of hnot] at hfault
    cases hfault
  · exact hsettles.error_of

/-- The computation gives its value exactly when it should not fail. -/
theorem ok_iff {result : Except ε α} {fails : Prop} {value : α}
    (hsettles : Settles result fails value) : result = .ok value ↔ ¬fails := by
  constructor
  · intro hok hfails
    obtain ⟨fault, hfault⟩ := hsettles.error_of hfails
    rw [hok] at hfault
    cases hfault
  · exact hsettles.ok_of

end Settles

namespace Ranges

open Text (tokens trimmedPieces_eq_tokens)

/-- A side of a range is open or a finite number. -/
def IsSide (side : String) : Prop := side = "*" ∨ ∃ x, Decimal.IsNumber side.toList x

/-- The bound on a side, which is absent when the side is open. -/
noncomputable def bound? (side : String) : Option Binary64 :=
  if side = "*" then none else Decimal.number? side.toList

/-- The token has two sides with a colon between them. -/
def IsRange (token : String) : Prop :=
  ∃ lower upper, tokens ':' token = [lower, upper] ∧ IsSide lower ∧ IsSide upper

/-- The interval of a token, under the token as its key. -/
noncomputable def interval? (token : String) : Option RangeInterval :=
  match tokens ':' token with
  | [lower, upper] =>
    if lower = "*" ∧ upper = "*" then none else some ⟨some token, bound? lower, bound? upper⟩
  | _ => none

/-- The text of the ranges has a token that is neither blank nor a range. -/
def Malformed (text : String) : Prop := ∃ token ∈ tokens ',' text, token ≠ "" ∧ ¬IsRange token

/-- The intervals of a text, in order. -/
noncomputable def intervals (text : String) : List RangeInterval :=
  ((tokens ',' text).filter (· ≠ "")).filterMap interval?

theorem readBound_settles (field token side : String) :
    Settles (readBound field token side) (¬IsSide side) (bound? side) := by
  unfold readBound bound? IsSide openSide
  rw [Decimal.number?_eq_read?]
  simp only [← Decimal.read?_eq_some_iff]
  by_cases hopen : side = "*"
  · simp only [hopen, if_true, true_or, not_true]
    exact .ok none
  · simp only [hopen, if_false, false_or]
    cases hread : Decimal.read? side.toList with
    | none => exact .error _ (by simp) none
    | some x => exact (Settles.ok (some x)).congr (by simp)

theorem bound?_eq_none_iff {side : String} (hside : IsSide side) :
    bound? side = none ↔ side = "*" := by
  unfold bound?
  rcases hside with rfl | ⟨x, hx⟩
  · simp
  · rw [Decimal.number?_eq_some_iff.mpr hx]
    simp

/-- When both sides are read, the interval is absent exactly if both are open. -/
theorem ends_settle (token : String) {lower upper : String} (hlower : IsSide lower)
    (hupper : IsSide upper) :
    Settles (if (bound? lower).isNone && (bound? upper).isNone then return none
        else return some ⟨some token, bound? lower, bound? upper⟩ :
          Except PropertyFault (Option RangeInterval)) False
      (if lower = "*" ∧ upper = "*" then none
        else some ⟨some token, bound? lower, bound? upper⟩) := by
  have hopen : ((bound? lower).isNone && (bound? upper).isNone) = true ↔
      lower = "*" ∧ upper = "*" := by
    rw [Bool.and_eq_true, Option.isNone_iff_eq_none, Option.isNone_iff_eq_none,
      bound?_eq_none_iff hlower, bound?_eq_none_iff hupper]
  by_cases hboth : lower = "*" ∧ upper = "*"
  · rw [if_pos (hopen.mpr hboth), if_pos hboth]
    exact .ok none
  · rw [if_neg (hboth ∘ hopen.mp), if_neg hboth]
    exact .ok _

theorem readToken_settles (field token : String) :
    Settles (readToken field token) (¬IsRange token) (interval? token) := by
  rw [readToken, trimmedPieces_eq_tokens]
  split
  · next lower upper htokens =>
    rw [show interval? token = if lower = "*" ∧ upper = "*" then none
      else some ⟨some token, bound? lower, bound? upper⟩ by simp only [interval?, htokens]]
    refine Settles.congr (Settles.bind (readBound_settles field token lower) fun hlower ↦
      Settles.bind (readBound_settles field token upper) fun hupper ↦
        ends_settle token (not_not.mp hlower) (not_not.mp hupper)) ?_
    have hrange : IsRange token ↔ IsSide lower ∧ IsSide upper := by
      simp [IsRange, htokens]
    rw [hrange, or_false, not_and_or]
  · next hother =>
    refine .error (PropertyFault.rangeMalformed token field) ?_ _
    rintro ⟨lower, upper, htokens, -⟩
    exact hother lower upper htokens

/-- Reading tokens fails when one that is not blank is no range. -/
theorem readTokens_settles (field : String) (list : List String) :
    Settles (readTokens field list) (∃ token ∈ list, token ≠ "" ∧ ¬IsRange token)
      ((list.filter (· ≠ "")).filterMap interval?) := by
  induction list with
  | nil => exact (Settles.ok []).congr (by simp)
  | cons token rest ih =>
    rw [readTokens]
    by_cases hblank : token = ""
    · rw [if_pos (by simp [hblank]), List.filter_cons_of_neg (by simp [hblank])]
      exact ih.congr (by simp [hblank])
    · rw [if_neg (by simp [hblank]), List.filter_cons_of_pos (by simp [hblank])]
      have hvalue : (token :: rest.filter (· ≠ "")).filterMap interval? =
          (interval? token).toList ++ (rest.filter (· ≠ "")).filterMap interval? := by
        cases hinterval : interval? token <;> simp [hinterval]
      rw [hvalue]
      refine Settles.congr (Settles.bind (readToken_settles field token) fun _ ↦
        Settles.bind ih fun _ ↦ .ok _) ?_
      simp [hblank]

theorem read_settles (field text : String) :
    Settles (read field text) (Malformed text) (intervals text) := by
  rw [read, trimmedPieces_eq_tokens]
  exact readTokens_settles field (tokens ',' text)

end Ranges

end FacetSearch
