import FacetSearch.Aggregation.Plan
import FacetSearch.Proofs.PropertyRoots
import FacetSearch.Proofs.RangeGrammar

/-!
# The grammar of aggregation properties

What the properties of a root mean, said without the order in which they are read: which roots are
at fault, and which aggregations the others stand for. `Planner.plan_grammar` says that a property
map has a plan exactly when no root is at fault, and that the plan then lists the aggregations of the
roots in ascending order.
-/

namespace FacetSearch

open Text (tokens Spells trimmedPieces_eq_tokens)

/-! ## What is wrong with a root -/

namespace Properties

variable (properties : Properties) (root : String)

def Localized : Prop :=
  ∃ value, properties.get? (root ++ ".localized") = some value ∧ Spells value "true"

/-- The types of a root. -/
def typeTokens : List String :=
  match properties.get? (root ++ ".type") with
  | some text => tokens ',' text
  | none => ["terms"]

/-- The names that are given to the types of a root, blank where none is given. -/
def aliasTokens : List String :=
  match properties.get? (root ++ ".alias") with
  | some text => tokens ',' text
  | none => List.replicate (properties.typeTokens root).length ""

/-- Aliases are given, but not one for each type. -/
def AliasesMiscounted : Prop :=
  ∃ text, properties.get? (root ++ ".alias") = some text ∧
    (tokens ',' text).length ≠ (properties.typeTokens root).length

/-- The ranges are missing or malformed. -/
def RangesFaulty : Prop :=
  properties.get? (root ++ ".ranges") = none ∨
    ∃ text, properties.get? (root ++ ".ranges") = some text ∧ Ranges.Malformed text

/-- The root cannot have an aggregation of that type. -/
inductive TypeFaulty (token : String) : Prop
  | unknown (hlocalized : properties.Localized root)
      (hunknown : ∀ kind : AggregationKind, ¬Spells token kind.name)
  | ranges (hplain : ¬properties.Localized root) (hrange : Spells token "range")
      (hranges : properties.RangesFaulty root)

def Faulty : Prop :=
  properties.AliasesMiscounted root ∨
    ∃ token ∈ properties.typeTokens root, properties.TypeFaulty root token

end Properties

/-! ## What a root stands for -/

section Entries

variable (planner : Planner) (properties : Properties) (root : String)

/-- The property of a root that has the suffix behind a dot. -/
theorem Properties.get_eq {suffix : Suffix} {ending : String} (hending : "." ++ suffix.text = ending) :
    properties.get root suffix = properties.get? (root ++ ending) := by
  rw [get, suffixed, String.append_assoc, hending]

theorem Planner.isLocalized_iff :
    Planner.isLocalized properties root = true ↔ properties.Localized root := by
  have hget : properties.get root .localized = properties.get? (root ++ ".localized") :=
    properties.get_eq root (by decide)
  rw [isLocalized, hget, Option.any_eq_true, Properties.Localized]
  refine exists_congr fun value ↦ and_congr Iff.rfl ?_
  exact Text.sameIgnoringCase_iff rfl

instance : Decidable (properties.Localized root) :=
  decidable_of_iff _ (Planner.isLocalized_iff properties root)

/-- The intervals that the ranges of a root stand for. -/
noncomputable def Properties.rangeIntervals : List RangeInterval :=
  ((properties.get? (root ++ ".ranges")).map Ranges.intervals).getD []

/-- The kind of the aggregation of a type. -/
def Properties.kindOf (token : String) : AggregationKind :=
  if properties.Localized root then .terms
  else if Spells token "stats" then .stats
  else if Spells token "range" then .range
  else .terms

namespace Planner

/-- The aggregation of a kind that reads a field. -/
noncomputable def aggregate (field : String) : AggregationKind → Aggregation
  | .terms => .ofTerms ⟨field, some 32767, some (.singleton "_key" .ascending),
      if planner.minDocCount.toInt < 0 then none
      else some (UInt64.ofNat planner.minDocCount.toInt.toNat)⟩
  | .stats => .ofStats field
  | .range => .ofRange ⟨field, properties.rangeIntervals root⟩

/-- The aggregations of a type of a root, one for each locale if the root is localized. -/
noncomputable def typeEntries (token otherName : String) : List NamedAggregation :=
  let name := if otherName = "" then root else otherName
  let kind := properties.kindOf root token
  if properties.Localized root then
    ((if planner.locales = [] then ["en"] else planner.locales) ++ ["und"]).map fun locale ↦
      ⟨name ++ "." ++ locale, root ++ "." ++ locale, kind,
        planner.aggregate properties root (root ++ "." ++ locale) kind⟩
  else [⟨name, root, kind, planner.aggregate properties root root kind⟩]

/-- The aggregations of a root, type by type. -/
noncomputable def rootEntries : List NamedAggregation :=
  ((properties.typeTokens root).zip (properties.aliasTokens root)).flatMap fun pair ↦
    planner.typeEntries properties root pair.1 pair.2

end Planner

end Entries

/-! ## What the planner does -/

theorem AggregationKind.ofName?_eq_some_iff {name : String} {kind : AggregationKind} :
    AggregationKind.ofName? name = some kind ↔ name = kind.name := by
  unfold ofName?
  constructor
  · intro hname
    split_ifs at hname with hterms hstats hrange <;> cases hname
    · exact hterms
    · exact hstats
    · exact hrange
  · rintro rfl
    cases kind <;> rfl

theorem AggregationKind.ofToken?_eq_some_iff {token : String} {kind : AggregationKind} :
    AggregationKind.ofToken? token = some kind ↔ Spells token kind.name := by
  rw [ofToken?, ofName?_eq_some_iff, Text.ofList_eq_iff]
  rfl

theorem AggregationKind.ofToken?_eq_none_iff {token : String} :
    AggregationKind.ofToken? token = none ↔ ∀ kind : AggregationKind, ¬Spells token kind.name := by
  rw [Option.eq_none_iff_forall_ne_some]
  exact forall_congr' fun kind ↦ not_congr ofToken?_eq_some_iff

namespace Planner

variable (planner : Planner) (properties : Properties) (root : String)

theorem types_eq : types properties root = properties.typeTokens root := by
  have hget : properties.get root .type = properties.get? (root ++ ".type") :=
    properties.get_eq root (by decide)
  unfold types Properties.typeTokens
  rw [hget]
  cases properties.get? (root ++ ".type") with
  | some text => exact trimmedPieces_eq_tokens ',' text
  | none => rfl

theorem aliases_settles :
    Settles (aliases properties root) (properties.AliasesMiscounted root)
      (properties.aliasTokens root) := by
  have hget : properties.get root .aliases = properties.get? (root ++ ".alias") :=
    properties.get_eq root (by decide)
  unfold aliases Properties.AliasesMiscounted Properties.aliasTokens
  rw [types_eq, hget]
  cases properties.get? (root ++ ".alias") with
  | some text =>
    simp only [trimmedPieces_eq_tokens]
    split
    · next hlength => exact (Settles.ok _).congr (by simp [hlength])
    · next hlength => exact .error _ ⟨text, rfl, hlength⟩ _
  | none =>
    rw [← List.map_const']
    exact (Settles.ok _).congr (by simp)

variable {properties root} in
theorem kindOf_of_spells {token : String} {kind : AggregationKind}
    (hplain : ¬properties.Localized root) (hspells : Spells token kind.name) :
    properties.kindOf root token = kind := by
  have hunique (other : AggregationKind) (hother : Spells token other.name) : other = kind := by
    rw [← AggregationKind.ofToken?_eq_some_iff] at hspells hother
    exact Option.some.inj (hother.symm.trans hspells)
  rw [Properties.kindOf, if_neg hplain]
  split_ifs with hstats hrange
  · exact hunique .stats hstats
  · exact hunique .range hrange
  · cases kind with
    | terms => rfl
    | stats => exact absurd hspells hstats
    | range => exact absurd hspells hrange

theorem kindOf_settles (token : String) :
    Settles (kindOf root token (isLocalized properties root))
      (properties.Localized root ∧ ∀ kind : AggregationKind, ¬Spells token kind.name)
      (properties.kindOf root token) := by
  have hlocalized := isLocalized_iff properties root
  unfold kindOf
  split
  · next kind htoken hlocal =>
    have hroot : properties.Localized root := hlocalized.mp hlocal
    have hspells := AggregationKind.ofToken?_eq_some_iff.mp htoken
    rw [Properties.kindOf, if_pos hroot]
    exact (Settles.ok _).congr ⟨False.elim, fun hunknown ↦ hunknown.2 kind hspells⟩
  · next kind htoken hlocal =>
    have hplain : ¬properties.Localized root := by simp [← hlocalized, hlocal]
    have hspells := AggregationKind.ofToken?_eq_some_iff.mp htoken
    rw [kindOf_of_spells hplain hspells]
    exact (Settles.ok kind).congr ⟨False.elim, fun hunknown ↦ hplain hunknown.1⟩
  · next htoken hlocal =>
    have hunknown := AggregationKind.ofToken?_eq_none_iff.mp htoken
    exact .error _ ⟨hlocalized.mp hlocal, hunknown⟩ _
  · next htoken hlocal =>
    have hplain : ¬properties.Localized root := by simp [← hlocalized, hlocal]
    have hunknown := AggregationKind.ofToken?_eq_none_iff.mp htoken
    have hstats : ¬Spells token "stats" := hunknown .stats
    have hrange : ¬Spells token "range" := hunknown .range
    rw [Properties.kindOf, if_neg hplain, if_neg hstats, if_neg hrange]
    exact (Settles.ok _).congr ⟨False.elim, fun hfaulty ↦ hplain hfaulty.1⟩

theorem kindOf_eq_range_iff {token : String} :
    properties.kindOf root token = .range ↔
      ¬properties.Localized root ∧ Spells token "range" := by
  constructor
  · intro hkind
    unfold Properties.kindOf at hkind
    split_ifs at hkind with hlocalized hstats hrange
    exact ⟨hlocalized, hrange⟩
  · rintro ⟨hplain, hrange⟩
    exact kindOf_of_spells hplain hrange

/-- Only ranges need intervals. -/
theorem intervals_settles (kind : AggregationKind) :
    Settles (intervals properties root kind) (kind = .range ∧ properties.RangesFaulty root)
      (if kind = .range then properties.rangeIntervals root else []) := by
  have hget : properties.get root .ranges = properties.get? (root ++ ".ranges") :=
    properties.get_eq root (by decide)
  unfold intervals Properties.RangesFaulty Properties.rangeIntervals
  rw [hget]
  cases kind with
  | terms | stats => exact (Settles.ok []).congr (by simp)
  | range =>
    cases properties.get? (root ++ ".ranges") with
    | none => exact .error _ (by simp) _
    | some text => exact (Ranges.read_settles root text).congr (by simp)

/-- The unsigned form of a number that is not negative. -/
theorem ofNat_toInt {n : Int64} (hn : ¬n.toInt < 0) : UInt64.ofNat n.toInt.toNat = n.toUInt64 := by
  have hvalue : n.toInt = if 2 * n.toUInt64.toNat < 2 ^ 64 then (n.toUInt64.toNat : Int)
      else n.toUInt64.toNat - 2 ^ 64 := BitVec.toInt_eq_toNat_cond n.toBitVec
  have hbound : n.toUInt64.toNat < 2 ^ 64 := n.toUInt64.toNat_lt
  have htoNat : n.toInt.toNat = n.toUInt64.toNat := by
    split at hvalue <;> omega
  rw [htoNat, UInt64.ofNat_toNat]

theorem definition_eq (field : String) (kind : AggregationKind) :
    planner.definition (fun _ ↦ none) field
        (if kind = .range then properties.rangeIntervals root else []) kind =
      planner.aggregate properties root field kind := by
  cases kind with
  | stats | range => rfl
  | terms =>
    have hcount : (if planner.minDocCount < 0 then none
        else some planner.minDocCount.toUInt64) = if planner.minDocCount.toInt < 0 then none
          else some (UInt64.ofNat planner.minDocCount.toInt.toNat) := by
      by_cases hnegative : planner.minDocCount.toInt < 0
      · rw [if_pos hnegative, if_pos (Int64.lt_iff_toInt_lt.mpr hnegative)]
      · rw [if_neg hnegative, if_neg (hnegative ∘ Int64.lt_iff_toInt_lt.mp), ofNat_toInt hnegative]
    simp only [definition, termsOf, hcount]
    rfl

theorem map_outputs_eq (token otherName : String) :
    let kind := properties.kindOf root token
    ((planner.outputs root otherName (isLocalized properties root)).map fun (name, field) ↦
      (⟨name, field, kind, planner.aggregate properties root field kind⟩ : NamedAggregation)) =
        planner.typeEntries properties root token otherName := by
  intro kind
  have hname : (if otherName.isEmpty then root else otherName) =
      if otherName = "" then root else otherName := by simp
  have hlocales : planner.allLocales =
      (if planner.locales = [] then ["en"] else planner.locales) ++ ["und"] := by
    simp [allLocales, defaultLocale, undeterminedLocale]
  simp only [outputs, typeEntries, isLocalized_iff, hname, hlocales]
  split
  · rw [List.map_map]
    rfl
  · rfl

theorem planType_settles (pair : String × String) :
    Settles (planner.planType (fun _ ↦ none) properties root pair)
      (properties.TypeFaulty root pair.1) (planner.typeEntries properties root pair.1 pair.2) := by
  rw [← map_outputs_eq]
  simp only [← definition_eq]
  refine Settles.congr (Settles.bind (kindOf_settles properties root pair.1) fun _ ↦
    Settles.bind (intervals_settles properties root _) fun _ ↦ .ok _) ?_
  rw [or_false, kindOf_eq_range_iff]
  constructor
  · rintro (⟨hlocalized, hunknown⟩ | ⟨⟨hplain, hrange⟩, hranges⟩)
    · exact .unknown hlocalized hunknown
    · exact .ranges hplain hrange hranges
  · rintro (⟨hlocalized, hunknown⟩ | ⟨hplain, hrange, hranges⟩)
    · exact .inl ⟨hlocalized, hunknown⟩
    · exact .inr ⟨⟨hplain, hrange⟩, hranges⟩

/-- The plans of a list fail when one of them does. -/
theorem planEach_settles {ι : Type} {plan : ι → Except PropertyFault Plan} {fails : ι → Prop}
    {value : ι → Plan} (hplan : ∀ item, Settles (plan item) (fails item) (value item))
    (items : List ι) :
    Settles (planEach plan items) (∃ item ∈ items, fails item) (items.flatMap value) := by
  induction items with
  | nil => exact (Settles.ok []).congr (by simp)
  | cons item rest ih =>
    refine Settles.congr (Settles.bind (hplan item) fun _ ↦ Settles.bind ih fun _ ↦ .ok _) ?_
    simp

/-- Unless the aliases are miscounted, there is one for each type. -/
theorem map_fst_zip_aliasTokens (hcounted : ¬properties.AliasesMiscounted root) :
    ((properties.typeTokens root).zip (properties.aliasTokens root)).map Prod.fst =
      properties.typeTokens root := by
  apply List.map_fst_zip
  unfold Properties.aliasTokens
  split
  · next text htext =>
    have hlength : (tokens ',' text).length = (properties.typeTokens root).length :=
      not_not.mp fun hne ↦ hcounted ⟨text, htext, hne⟩
    exact hlength.ge
  · exact List.length_replicate.ge

theorem planRoot_settles :
    Settles (planner.planRoot (fun _ ↦ none) properties root) (properties.Faulty root)
      (planner.rootEntries properties root) := by
  unfold planRoot Properties.Faulty rootEntries
  refine Settles.bind (aliases_settles properties root) fun hcounted ↦ ?_
  rw [types_eq]
  refine (planEach_settles (planner.planType_settles properties root) _).congr ?_
  have hfirsts := map_fst_zip_aliasTokens properties root hcounted
  constructor
  · rintro ⟨pair, hpair, hfaulty⟩
    exact ⟨pair.1, hfirsts ▸ List.mem_map_of_mem hpair, hfaulty⟩
  · rintro ⟨token, htoken, hfaulty⟩
    rw [← hfirsts, List.mem_map] at htoken
    obtain ⟨pair, hpair, rfl⟩ := htoken
    exact ⟨pair, hpair, hfaulty⟩

theorem plan_settles :
    Settles (planner.plan properties) (∃ root ∈ properties.roots, properties.Faulty root)
      (properties.roots.flatMap (planner.rootEntries properties)) :=
  planEach_settles (planner.planRoot_settles properties) properties.roots

/-- A property map either has a root at fault, and no plan, or it stands for the aggregations of its
roots, which are taken in the order of their octets. -/
theorem plan_grammar :
    ∃ roots : List String,
      roots.Pairwise (fun a b ↦ Utf8.encode a.toList < Utf8.encode b.toList) ∧
      (∀ root, root ∈ roots ↔ properties.Declares root) ∧
      ((∃ fault, planner.plan properties = .error fault ∧
          (Error.property fault).kind = .configuration) ↔
        ∃ root ∈ roots, properties.Faulty root) ∧
      (planner.plan properties = .ok (roots.flatMap (planner.rootEntries properties)) ↔
        ∀ root ∈ roots, ¬properties.Faulty root) := by
  have hplan := planner.plan_settles properties
  refine ⟨properties.roots, properties.roots_ascending, fun root ↦ Properties.mem_roots_iff, ?_, ?_⟩
  · rw [← hplan.error_iff]
    exact exists_congr fun fault ↦ and_iff_left rfl
  · rw [hplan.ok_iff]
    exact not_exists.trans (forall_congr' fun root ↦ not_and)

example : (Planner.plan ⟨[], 0⟩ (.ofList [("name.localized", " True "), ("name.type", "range")])).map
    Plan.names = .ok ["name.en", "name.und"] := by decide

end Planner

end FacetSearch
