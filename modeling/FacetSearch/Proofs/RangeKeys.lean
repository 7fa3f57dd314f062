import FacetSearch.Proofs.DecimalGrammar
import FacetSearch.Proofs.PropertyGrammar

/-!
# The buckets of ranges and their keys

A text of ranges stands for one bucket for each token that is neither blank nor open on both sides,
in order, with the token as its key. Keys are tokens without blanks around them and without commas,
so with commas between them they stand for the same buckets again.
-/

namespace FacetSearch

namespace Ranges

open Text (tokens Spells)

/-! ## Sides and tokens -/

/-- A star leaves a side open; otherwise its bound is the number that stands there. -/
structure IsBound (side : String) (bound : Option Binary64) : Prop where
  open_iff : bound = none ↔ side = "*"
  number : ∀ x, bound = some x → Decimal.IsNumber side.toList x

/-- The token has exactly one colon, and these bounds on its sides. -/
def Spans (token : String) (lower upper : Option Binary64) : Prop :=
  ∃ left right, tokens ':' token = [left, right] ∧ IsBound left lower ∧ IsBound right upper

/-- The token is open on both sides. -/
def IsUnbounded (token : String) : Prop := tokens ':' token = ["*", "*"]

instance : DecidablePred IsUnbounded := fun _ ↦ inferInstanceAs (Decidable (_ = _))

/-- The tokens of a text that stand for buckets. -/
def bucketTokens (text : String) : List String :=
  (tokens ',' text).filter fun token ↦ token ≠ "" ∧ ¬IsUnbounded token

/-- The bucket has the token as its key and the bounds of the token, of which there is one at
least. -/
structure IsBucket (token : String) (bucket : RangeInterval) : Prop where
  key : bucket.key = some token
  spans : Spans token bucket.lower bucket.upper
  bounded : bucket.lower ≠ none ∨ bucket.upper ≠ none

theorem isBound_bound? {side : String} (hside : IsSide side) : IsBound side (bound? side) := by
  refine ⟨bound?_eq_none_iff hside, fun x hx ↦ ?_⟩
  rw [bound?] at hx
  split at hx
  · cases hx
  · exact Decimal.number?_eq_some_iff.mp hx

theorem isSide_iff {side : String} : IsSide side ↔ ∃ bound, IsBound side bound := by
  constructor
  · exact fun hside ↦ ⟨bound? side, isBound_bound? hside⟩
  · rintro ⟨_ | x, hbound⟩
    · exact .inl (hbound.open_iff.mp rfl)
    · exact .inr ⟨x, hbound.number x rfl⟩

theorem isRange_iff {token : String} : IsRange token ↔ ∃ lower upper, Spans token lower upper := by
  constructor
  · rintro ⟨left, right, htokens, hleft, hright⟩
    exact ⟨_, _, left, right, htokens, isBound_bound? hleft, isBound_bound? hright⟩
  · rintro ⟨lower, upper, left, right, htokens, hleft, hright⟩
    exact ⟨left, right, htokens, isSide_iff.mpr ⟨lower, hleft⟩, isSide_iff.mpr ⟨upper, hright⟩⟩

/-- A token that is open on both sides has no bucket. -/
theorem interval?_of_isUnbounded {token : String} (hopen : IsUnbounded token) :
    interval? token = none := by
  rw [interval?, hopen]
  rfl

/-- Any other range has one. -/
theorem exists_isBucket {token : String} (hrange : IsRange token) (hbounded : ¬IsUnbounded token) :
    ∃ bucket, interval? token = some bucket ∧ IsBucket token bucket := by
  obtain ⟨left, right, htokens, hleft, hright⟩ := hrange
  have hsides : ¬(left = "*" ∧ right = "*") := by
    rintro ⟨rfl, rfl⟩
    exact hbounded htokens
  refine ⟨⟨some token, bound? left, bound? right⟩, ?_, rfl,
    ⟨left, right, htokens, isBound_bound? hleft, isBound_bound? hright⟩, ?_⟩
  · simp only [interval?, htokens, hsides, if_false]
  · rw [ne_eq, ne_eq, bound?_eq_none_iff hleft, bound?_eq_none_iff hright]
    exact not_and_or.mp hsides

/-! ## Texts -/

variable {text : String}

theorem mem_bucketTokens_iff {token : String} :
    token ∈ bucketTokens text ↔ token ∈ tokens ',' text ∧ token ≠ "" ∧ ¬IsUnbounded token := by
  rw [bucketTokens, List.mem_filter, decide_eq_true_eq]

theorem not_malformed_iff :
    ¬Malformed text ↔ ∀ token ∈ tokens ',' text, token ≠ "" → IsRange token := by
  simp [Malformed]

theorem intervals_eq (text : String) : intervals text = (bucketTokens text).filterMap interval? := by
  rw [intervals, bucketTokens, List.filterMap_filter, List.filterMap_filter]
  congr 1
  funext token
  by_cases hopen : IsUnbounded token
  · simp [hopen, interval?_of_isUnbounded hopen]
  · simp [hopen]

theorem forall₂_isBucket {list : List String}
    (hlist : ∀ token ∈ list, IsRange token ∧ ¬IsUnbounded token) :
    List.Forall₂ IsBucket list (list.filterMap interval?) := by
  induction list with
  | nil => exact .nil
  | cons token rest ih =>
    obtain ⟨⟨hrange, hbounded⟩, hrest⟩ := List.forall_mem_cons.mp hlist
    obtain ⟨bucket, hinterval, hbucket⟩ := exists_isBucket hrange hbounded
    rw [List.filterMap_cons_some hinterval]
    exact .cons hbucket (ih hrest)

/-- A text without malformed tokens has a bucket for each token that stands for one. -/
theorem forall₂_intervals (hwell : ¬Malformed text) :
    List.Forall₂ IsBucket (bucketTokens text) (intervals text) := by
  rw [intervals_eq]
  refine forall₂_isBucket fun token htoken ↦ ?_
  obtain ⟨hmem, hne, hbounded⟩ := mem_bucketTokens_iff.mp htoken
  exact ⟨not_malformed_iff.mp hwell token hmem hne, hbounded⟩

/-! ## Keys -/

/-- The keys of buckets with commas between them. -/
def joinedKeys (buckets : List RangeInterval) : String :=
  ",".intercalate (buckets.filterMap RangeInterval.key)

theorem filterMap_key {list : List String} {buckets : List RangeInterval}
    (hbuckets : List.Forall₂ IsBucket list buckets) : buckets.filterMap RangeInterval.key = list := by
  induction hbuckets with
  | nil => rfl
  | cons hbucket _ ih => rw [List.filterMap_cons_some hbucket.key, ih]

theorem tokens_joined (text : String) :
    (tokens ',' (",".intercalate (bucketTokens text))).filter (· ≠ "") = bucketTokens text := by
  by_cases hnone : bucketTokens text = []
  · rw [hnone]
    decide
  · have hmem {token : String} (htoken : token ∈ bucketTokens text) : token ∈ tokens ',' text :=
      (mem_bucketTokens_iff.mp htoken).1
    have htokens := Text.tokens_intercalate hnone
      (fun token htoken ↦ Text.not_mem_of_mem_tokens (hmem htoken))
      (fun token htoken ↦ Text.stripped_of_mem_tokens (hmem htoken))
    have hcomma : String.singleton ',' = "," := by decide
    rw [hcomma] at htokens
    rw [htokens, List.filter_eq_self]
    exact fun token htoken ↦ decide_eq_true (mem_bucketTokens_iff.mp htoken).2.1

theorem bucketTokens_joined (text : String) :
    bucketTokens (",".intercalate (bucketTokens text)) = bucketTokens text := by
  have hsplit (text : String) : bucketTokens text =
      ((tokens ',' text).filter (· ≠ "")).filter (¬IsUnbounded ·) := by
    rw [bucketTokens, List.filter_filter]
    congr 1
    funext token
    simp [Bool.and_comm]
  rw [hsplit (",".intercalate _), tokens_joined, List.filter_eq_self]
  exact fun token htoken ↦ decide_eq_true (mem_bucketTokens_iff.mp htoken).2.2

/-- The keys of the buckets of a text stand for the same buckets. -/
theorem read_joinedKeys (field : String) (hwell : ¬Malformed text) :
    read field (joinedKeys (intervals text)) = read field text := by
  rw [joinedKeys, filterMap_key (forall₂_intervals hwell)]
  have hsame : intervals (",".intercalate (bucketTokens text)) = intervals text := by
    rw [intervals_eq, bucketTokens_joined, ← intervals_eq]
  have hjoined : ¬Malformed (",".intercalate (bucketTokens text)) := by
    refine not_malformed_iff.mpr fun token htoken hne ↦ ?_
    have hmem : token ∈ bucketTokens text := by
      rw [← tokens_joined, List.mem_filter]
      exact ⟨htoken, decide_eq_true hne⟩
    exact not_malformed_iff.mp hwell token (mem_bucketTokens_iff.mp hmem).1 hne
  rw [(read_settles field _).ok_of hjoined, (read_settles field text).ok_of hwell, hsame]

end Ranges

/-! ## Aggregations of ranges -/

namespace Planner

open Text (tokens Spells)

variable (planner : Planner) (nested : NestedPlans) {properties : Properties} {root token text : String}

/-- A type that asks for ranges gives one aggregation. -/
theorem planType_of_range (hplain : ¬properties.Localized root) (htype : Spells token "range")
    (htext : properties.get? (root ++ ".ranges") = some text) (otherName : String) :
    planner.planType nested properties root (token, otherName) =
      (Ranges.read root text).map fun buckets ↦
        [⟨if otherName = "" then root else otherName, root, .range,
          planner.definition nested root buckets .range⟩] := by
  have hlocalized : isLocalized properties root = false := by
    rw [← Bool.not_eq_true, isLocalized_iff]
    exact hplain
  have hspells : Spells token AggregationKind.range.name := htype
  have hkind := (kindOf_settles properties root token).ok_of fun hunknown ↦ hplain hunknown.1
  rw [kindOf_of_spells hplain hspells] at hkind
  have hget : properties.get root .ranges = some text :=
    (properties.get_eq root (by decide)).trans htext
  have hintervals : intervals properties root .range = Ranges.read root text := by
    rw [intervals, hget]
  have hname : (if otherName.isEmpty then root else otherName) =
      if otherName = "" then root else otherName := by simp
  have hread : planner.planType nested properties root (token, otherName) =
      (intervals properties root .range >>= fun buckets ↦ pure
        [⟨if otherName.isEmpty then root else otherName, root, .range,
          planner.definition nested root buckets .range⟩]) := by
    rw [planType, hkind, hlocalized]
    rfl
  rw [hread, hintervals, hname]
  exact bind_pure_comp _ _

/-- The ranges of a root that is not localized are read exactly if every token that is not blank has
one colon, with a star or a finite number on each side. They stand for one bucket for each of these
tokens that is not open on both sides, and the keys of the buckets stand for the same. -/
theorem planType_ranges (hplain : ¬properties.Localized root) (htype : Spells token "range")
    (htext : properties.get? (root ++ ".ranges") = some text) (otherName : String) :
    ((∃ plan, planner.planType nested properties root (token, otherName) = .ok plan) ↔
      ∀ range ∈ tokens ',' text, range ≠ "" → ∃ lower upper, Ranges.Spans range lower upper) ∧
    ∀ plan, planner.planType nested properties root (token, otherName) = .ok plan →
      ∃ aggregation buckets, plan = [aggregation] ∧
        aggregation.definition.range = some ⟨root, buckets⟩ ∧
        List.Forall₂ Ranges.IsBucket (Ranges.bucketTokens text) buckets ∧
        ∀ others : Properties, ¬others.Localized root →
          others.get? (root ++ ".ranges") = some (Ranges.joinedKeys buckets) →
            planner.planType nested others root (token, otherName) = .ok plan := by
  have hread := Ranges.read_settles root text
  have hwell : ¬Ranges.Malformed text ↔
      ∀ range ∈ tokens ',' text, range ≠ "" → ∃ lower upper, Ranges.Spans range lower upper := by
    simp only [Ranges.not_malformed_iff, Ranges.isRange_iff]
  rw [planner.planType_of_range nested hplain htype htext otherName, ← hwell]
  by_cases hmalformed : Ranges.Malformed text
  · obtain ⟨fault, hfault⟩ := hread.error_of hmalformed
    rw [hfault]
    refine ⟨iff_of_false ?_ (not_not.mpr hmalformed), fun plan hplan ↦ by cases hplan⟩
    rintro ⟨plan, hplan⟩
    cases hplan
  · have hok := hread.ok_of hmalformed
    rw [hok]
    refine ⟨iff_of_true ⟨_, rfl⟩ hmalformed, fun plan hplan ↦ ?_⟩
    obtain rfl := Except.ok.inj hplan
    refine ⟨_, Ranges.intervals text, rfl, rfl, Ranges.forall₂_intervals hmalformed, ?_⟩
    intro others hothers hjoined
    rw [planner.planType_of_range nested hothers htype hjoined otherName,
      Ranges.read_joinedKeys root hmalformed, hok]
    rfl

/-- Blanks, a blank token and one that is open on both sides. -/
theorem planType_ranges_of_blanks :
    let planner : Planner := ⟨[], 0⟩
    let text := " 1.5 : 2e3 , ,*:*,*:18"
    let properties : Properties := .ofList [("age.ranges", text), ("age.type", "Range")]
    ¬properties.Localized "age" ∧ Spells "Range" "range" ∧
    properties.get? ("age" ++ ".ranges") = some text ∧
    ∃ aggregation buckets,
      planner.planType (fun _ ↦ none) properties "age" ("Range", "") = .ok [aggregation] ∧
      aggregation.definition.range = some ⟨"age", buckets⟩ ∧
      List.Forall₂ Ranges.IsBucket ["1.5 : 2e3", "*:18"] buckets := by
  intro planner text properties
  have hplain : ¬properties.Localized "age" := by decide
  have htype : Spells "Range" "range" := by decide
  have htext : properties.get? ("age" ++ ".ranges") = some text := by decide
  obtain ⟨hsucceeds, hbuckets⟩ :=
    planType_ranges planner (fun _ ↦ none) hplain htype htext ""
  have hnumber (side : String) (hside : (Decimal.read? side.toList).isSome) : Ranges.IsSide side :=
    .inr ((Option.isSome_iff_exists.mp hside).imp fun _ ↦ Decimal.read?_eq_some_iff.mp)
  have hspans : ∀ range ∈ tokens ',' text, range ≠ "" →
      ∃ lower upper, Ranges.Spans range lower upper := by
    have htokens : tokens ',' text = ["1.5 : 2e3", "", "*:*", "*:18"] := by decide
    simp only [htokens, List.forall_mem_cons, ← Ranges.isRange_iff]
    refine ⟨fun _ ↦ ?_, fun hne ↦ absurd rfl hne, fun _ ↦ ?_, fun _ ↦ ?_, by simp⟩
    · exact ⟨"1.5", "2e3", by decide, hnumber "1.5" (by decide +kernel),
        hnumber "2e3" (by decide +kernel)⟩
    · exact ⟨"*", "*", by decide, .inl rfl, .inl rfl⟩
    · exact ⟨"*", "18", by decide, .inl rfl, hnumber "18" (by decide +kernel)⟩
  obtain ⟨plan, hplan⟩ := hsucceeds.mpr hspans
  obtain ⟨aggregation, buckets, rfl, hrange, hforall, -⟩ := hbuckets plan hplan
  have htokens : Ranges.bucketTokens text = ["1.5 : 2e3", "*:18"] := by decide
  exact ⟨hplain, htype, htext, aggregation, buckets, hplan, hrange, htokens ▸ hforall⟩

end Planner

end FacetSearch
