import FacetSearch.Aggregation.Ranges

/-!
# The plan that properties stand for

Each root of a property map yields, for each of its types and, if it is localized, for each locale,
one named aggregation. The roots are taken in ascending order and independently of one another.
`Planner.plan` builds the list, or says which property is at fault; `Planner.planNested` also puts
the plans of further property maps below the aggregations of the fields they are given for.
-/

namespace FacetSearch

/-- An aggregation under the name that its result will have. -/
structure NamedAggregation where
  name : String
  field : String
  kind : AggregationKind
  definition : Aggregation

/-- The aggregations of a request, in order. -/
abbrev Plan := List NamedAggregation

namespace Plan

def names (plan : Plan) : List String := plan.map NamedAggregation.name

/-- The first aggregation of that name. -/
def find? (plan : Plan) (name : String) : Option NamedAggregation :=
  List.find? (fun aggregation ↦ aggregation.name == name) plan

/-- The definitions under their names; of those with one name, the last. -/
def definitions (plan : Plan) : List (String × Aggregation) :=
  Entries.sorted (plan.map fun aggregation ↦ (aggregation.name, aggregation.definition))

end Plan

/-- The locale that stands for text of no particular language. -/
def undeterminedLocale : String := "und"

def defaultLocale : String := "en"

/-- What a plan depends on besides the properties. -/
structure Planner where
  locales : List String
  /-- The least number of documents of a bucket; a negative one leaves it to the engine. -/
  minDocCount : Int64
deriving DecidableEq

/-- Plans for the aggregations below those of a field. -/
abbrev NestedPlans := String → Option Plan

namespace Planner

/-- The locales of a localized field. -/
def allLocales (planner : Planner) : List String :=
  (if planner.locales.isEmpty then [defaultLocale] else planner.locales) ++ [undeterminedLocale]

/-- The names and fields that an aggregation of a root fans out to. -/
def outputs (planner : Planner) (root otherName : String) (localized : Bool) :
    List (String × String) :=
  let name := if otherName.isEmpty then root else otherName
  if localized then
    planner.allLocales.map fun locale ↦ (name ++ "." ++ locale, root ++ "." ++ locale)
  else [(name, root)]

def isLocalized (properties : Properties) (root : String) : Bool :=
  (properties.get root .localized).any fun value ↦
    Text.sameIgnoringCase (Text.trimmed value) "true"

/-- The type tokens of a root. -/
def types (properties : Properties) (root : String) : List String :=
  match properties.get root .type with
  | some text => Text.trimmedPieces ',' text
  | none => [AggregationKind.terms.name]

/-- The aliases of a root, one for each type and blank where none is declared. -/
def aliases (properties : Properties) (root : String) : Except PropertyFault (List String) :=
  let types := types properties root
  match properties.get root .aliases with
  | some text =>
    let aliases := Text.trimmedPieces ',' text
    if aliases.length = types.length then .ok aliases
    else .error (.aliasCount root aliases.length types.length)
  | none => .ok (types.map fun _ ↦ "")

/-- The kind of a type token. A localized root has terms of known types only; elsewhere an unknown
type means terms. -/
def kindOf (root type : String) (localized : Bool) : Except PropertyFault AggregationKind :=
  match AggregationKind.ofToken? type, localized with
  | some _, true => .ok .terms
  | some kind, false => .ok kind
  | none, true => .error (.unknownLocalizedType root type)
  | none, false => .ok .terms

def termsOf (planner : Planner) (field : String) : Aggregation :=
  .ofTerms ⟨field, some greatestTermsSize, some (.singleton "_key" .ascending),
    if planner.minDocCount < 0 then none else some planner.minDocCount.toUInt64⟩

/-- The definition of an aggregation of a field with the given plans below it. -/
def definition (planner : Planner) (nested : NestedPlans) (field : String)
    (intervals : List RangeInterval) : AggregationKind → Aggregation
  | .terms => (planner.termsOf field).withNested (((nested field).map Plan.definitions).getD [])
  | .stats => .ofStats field
  | .range => (Aggregation.ofRange ⟨field, intervals⟩).withNested
      (((nested field).map Plan.definitions).getD [])

/-- The intervals that an aggregation of that kind needs. -/
def intervals (properties : Properties) (root : String) :
    AggregationKind → Except PropertyFault (List RangeInterval)
  | .range => match properties.get root .ranges with
    | some text => Ranges.read root text
    | none => .error (.rangesMissing root)
  | .terms | .stats => .ok []

/-- The aggregations of one type of a root. -/
def planType (planner : Planner) (nested : NestedPlans) (properties : Properties)
    (root : String) (typeAndAlias : String × String) : Except PropertyFault Plan := do
  let localized := isLocalized properties root
  let kind ← kindOf root typeAndAlias.1 localized
  let intervals ← intervals properties root kind
  return (planner.outputs root typeAndAlias.2 localized).map fun (name, field) ↦
    ⟨name, field, kind, planner.definition nested field intervals kind⟩

/-- The plans for the items of a list, joined. -/
def planEach {ι : Type} (plan : ι → Except PropertyFault Plan) : List ι → Except PropertyFault Plan
  | [] => .ok []
  | item :: rest => do
    let first ← plan item
    let others ← planEach plan rest
    return first ++ others

/-- The aggregations of a root. -/
def planRoot (planner : Planner) (nested : NestedPlans) (properties : Properties)
    (root : String) : Except PropertyFault Plan := do
  let aliases ← aliases properties root
  planEach (planner.planType nested properties root) ((types properties root).zip aliases)

/-- The aggregations of all roots, with the given plans below them. -/
def planWith (planner : Planner) (nested : NestedPlans) (properties : Properties) :
    Except PropertyFault Plan :=
  planEach (planner.planRoot nested properties) properties.roots

/-- The aggregations that a property map stands for. -/
def plan (planner : Planner) (properties : Properties) : Except PropertyFault Plan :=
  planner.planWith (fun _ ↦ none) properties

/-- The plans of the property maps of fields. -/
def planFields (planner : Planner) :
    List (String × Properties) → Except PropertyFault (List (String × Plan))
  | [] => .ok []
  | (field, properties) :: rest => do
    let first ← planner.plan properties
    let others ← planner.planFields rest
    return (field, first) :: others

/-- The aggregations of a property map, with those of the maps of fields below them. -/
def planNested (planner : Planner) (properties : Properties)
    (nested : StringMap Properties) : Except PropertyFault Plan := do
  let plans ← planner.planFields nested.entries
  planner.planWith (fun field ↦ Entries.get? plans field) properties

end Planner

end FacetSearch
