import FacetSearch.Aggregation.Codec
import FacetSearch.Proofs.QueryForms

/-!
# Requests are read back

A request and each of its parts is decoded from the JSON value that is written for it to itself. The
aggregations of a request, and those below an aggregation, may go by either of two names, each for
itself: `Json.renamed` gives them the other name wherever that is chosen, and what is decoded stays
the same. `request_forms_restored` states both for all parts of requests.
-/

namespace FacetSearch

open Json (HasMembers)
open RawJson (Restores)

/-! ## The other name of aggregations -/

namespace Json

/-- The name of the aggregations of an object. -/
def nestedName (other : Bool) : String := if other then "aggregations" else "aggs"

mutual

/-- The object whose aggregations go by their other name where that is chosen, and so do those of
the aggregations in it. The choice depends on the names that lead to an aggregation. -/
def renamed (chosen : List String → Bool) : Json → Json
  | obj members => ofMembers (renamedMembers chosen members)
  | other => other

/-- The members of an object, with the other name for its aggregations if that is chosen. -/
def renamedMembers (chosen : List String → Bool) : List (String × Json) → List (String × Json)
  | [] => []
  | (name, value) :: rest =>
    (if name = "aggs" then (nestedName (chosen []), renamedBelow chosen value)
      else (name, value)) :: renamedMembers chosen rest

/-- The object of named aggregations, each of them with the other names that are chosen in it. -/
def renamedBelow (chosen : List String → Bool) : Json → Json
  | obj members => obj (renamedEach chosen members)
  | other => other

/-- Named aggregations with the other names that are chosen in them. -/
def renamedEach (chosen : List String → Bool) : List (String × Json) → List (String × Json)
  | [] => []
  | (name, value) :: rest =>
    (name, renamed (fun path ↦ chosen (name :: path)) value) :: renamedEach chosen rest

end

/-- A member of an object whose aggregations go by the name that is chosen. -/
def renamedEntry (chosen : List String → Bool) (member : String × Json) : String × Json :=
  if member.1 = "aggs" then (nestedName (chosen []), renamedBelow chosen member.2) else member

/-- A member of a record, which may be absent, likewise. -/
def renamedMember (chosen : List String → Bool) (member : String × Option Json) :
    String × Option Json :=
  if member.1 = "aggs" then (nestedName (chosen []), member.2.map (renamedBelow chosen))
  else member

theorem renamedMembers_eq_map (chosen : List String → Bool) (members : List (String × Json)) :
    renamedMembers chosen members = members.map (renamedEntry chosen) := by
  induction members with
  | nil => rfl
  | cons member rest ih => rw [renamedMembers, ih, List.map_cons, renamedEntry]

theorem renamedEach_eq_map (chosen : List String → Bool) (members : List (String × Json)) :
    renamedEach chosen members = members.map fun member ↦
      (member.1, renamed (fun path ↦ chosen (member.1 :: path)) member.2) := by
  induction members with
  | nil => rfl
  | cons member rest ih => rw [renamedEach, ih, List.map_cons]

theorem map_renamedEntry_present (chosen : List String → Bool)
    (members : List (String × Option Json)) :
    (present members).map (renamedEntry chosen) = present (members.map (renamedMember chosen)) := by
  induction members with
  | nil => rfl
  | cons member rest ih =>
    obtain ⟨name, value?⟩ := member
    by_cases hname : name = "aggs" <;> cases value? <;>
      simp_all [present, renamedEntry, renamedMember]

theorem renamed_record_eq (chosen : List String → Bool) (members : List (String × Option Json)) :
    (record members).renamed chosen =
      ofMembers ((Entries.sorted (present members)).map (renamedEntry chosen)) := by
  rw [← renamedMembers_eq_map]
  rfl

/-- Other names make another record of a record. -/
theorem hasMembers_renamed {chosen : List String → Bool} {members : List (String × Option Json)}
    (hnames : ((members.map (renamedMember chosen)).map Prod.fst).Nodup) :
    HasMembers (members.map (renamedMember chosen)) ((record members).renamed chosen) := by
  have hown : (members.map Prod.fst).Nodup := by
    have hfactor : (members.map (renamedMember chosen)).map Prod.fst =
        (members.map Prod.fst).map fun name ↦
          if name = "aggs" then nestedName (chosen []) else name := by
      simp only [List.map_map]
      congr 1
      funext member
      by_cases hname : member.1 = "aggs" <;> simp [renamedMember, hname]
    exact (hfactor ▸ hnames).of_map _
  have hkeys : (Entries.keys (present members)).Nodup :=
    hown.sublist (keys_present_sublist members)
  rw [renamed_record_eq]
  apply hasMembers_ofMembers hnames
  rw [← map_renamedEntry_present]
  exact (Entries.sorted_perm hkeys).map _

/-- A record stays as it is where all its members do. -/
theorem renamed_record {chosen : List String → Bool} {members : List (String × Option Json)}
    (hmembers : ∀ member ∈ members, renamedMember chosen member = member) :
    (record members).renamed chosen = record members := by
  have hentry (entry : String × Json) (hentry : entry ∈ Entries.sorted (present members)) :
      renamedEntry chosen entry = entry := by
    obtain ⟨⟨name, value?⟩, hmember, hvalue⟩ :=
      List.mem_filterMap.mp (Entries.mem_sorted hentry)
    obtain ⟨value, rfl, rfl⟩ := Option.map_eq_some_iff.mp hvalue
    have hsame := hmembers _ hmember
    by_cases hname : name = "aggs" <;> simp_all [renamedEntry, renamedMember]
  rw [renamed_record_eq, List.map_congr_left hentry, List.map_id', ofMembers,
    (Entries.ascending_sorted _).sorted_eq]
  rfl

end Json

/-! ## Aggregations -/

theorem TermsAggregation.restored (terms : TermsAggregation) : Restores decode toJson terms := by
  rw [Restores, decode, toJson, RawJson.record_record (by simp)
    (by simp [Field.isNamed, Field.required, Field.defaultable])]
  have hcount (count : UInt64) : Restores RawJson.uint64 countJson count :=
    RawJson.uint64_restored count
  have horder (order : StringMap SortDirection) : Restores (RawJson.stringMap SortDirection.decode)
      (fun order ↦ .ofMap (order.map SortDirection.toJson)) order :=
    RawJson.stringMap_restored fun entry _ ↦ entry.2.restored
  simp only [List.map_cons, List.map_nil, Option.map_some, Option.bind_eq_bind, Option.bind_some,
    RawJson.needed, RawJson.string, RawJson.optional_restored rfl fun count _ ↦ hcount count,
    RawJson.optional_restored rfl fun order _ ↦ horder order]
  rfl

theorem RangeInterval.restored (interval : RangeInterval) : Restores decode toJson interval := by
  rw [Restores, decode, toJson, RawJson.record_record (by simp)
    (by simp [Field.isNamed, Field.defaultable])]
  simp only [List.map_cons, List.map_nil, Option.bind_eq_bind, Option.bind_some,
    RawJson.optional_restored rfl fun s _ ↦ RawJson.string_restored s,
    RawJson.optional_restored rfl fun x _ ↦ RawJson.binary64_restored x]

theorem RangeAggregation.restored (range : RangeAggregation) : Restores decode toJson range := by
  rw [Restores, decode, toJson, RawJson.record_record (by simp)
    (by simp [Field.isNamed, Field.required])]
  have hranges := RawJson.list_restored fun interval (_ : interval ∈ range.ranges) ↦
    interval.restored
  simp only [List.map_cons, List.map_nil, Option.map_some, Option.bind_eq_bind, Option.bind_some,
    RawJson.needed, hranges]
  rfl

namespace Aggregation

theorem stats_restored (field : String) : Restores decodeStats statsJson field := rfl

mutual

/-- The aggregations below are in order, at every depth. -/
def Ordered : Aggregation → Prop
  | ⟨_, _, _, _, nested⟩ => Entries.Ascending nested ∧ OrderedEach nested

/-- What is below each of the named aggregations is in order. -/
def OrderedEach : List (String × Aggregation) → Prop
  | [] => True
  | (_, aggregation) :: rest => Ordered aggregation ∧ OrderedEach rest

end

/-- The member that holds named aggregations, if there are any. -/
def nestedJson (nested : List (String × Aggregation)) : Option Json :=
  if nested.isEmpty then none else some (.obj (membersJson nested))

/-- The members of an aggregation. -/
def members (aggregation : Aggregation) : List (String × Option Json) :=
  [("terms", aggregation.terms.map TermsAggregation.toJson),
    ("stats", aggregation.stats.map statsJson),
    ("range", aggregation.range.map RangeAggregation.toJson),
    ("global", if aggregation.global then some (.obj []) else none),
    ("aggs", nestedJson aggregation.nested)]

theorem toJson_eq_record :
    (aggregation : Aggregation) → aggregation.toJson = .record aggregation.members
  | ⟨_, _, _, _, _⟩ => rfl

theorem membersJson_eq_map (nested : List (String × Aggregation)) :
    membersJson nested = nested.map fun entry ↦ (entry.1, entry.2.toJson) := by
  induction nested with
  | nil => rfl
  | cons entry rest ih => rw [membersJson, ih, List.map_cons]

theorem orderedEach_iff {nested : List (String × Aggregation)} :
    OrderedEach nested ↔ ∀ entry ∈ nested, entry.2.Ordered := by
  induction nested with
  | nil => simp [OrderedEach]
  | cons entry rest ih => rw [OrderedEach, ih, List.forall_mem_cons]

/-- The forms of named aggregations, with the other names that are chosen in them. -/
theorem renamedEach_membersJson (chosen : List String → Bool)
    (nested : List (String × Aggregation)) :
    Json.renamedEach chosen (membersJson nested) = nested.map fun entry ↦
      (entry.1, entry.2.toJson.renamed fun path ↦ chosen (entry.1 :: path)) := by
  rw [Json.renamedEach_eq_map, membersJson_eq_map, List.map_map]
  rfl

/-- Named aggregations are read back if each of them is. -/
theorem entries_renamed {decoder : RawJson → Option Aggregation} {chosen : List String → Bool}
    {nested : List (String × Aggregation)}
    (hnested : ∀ entry ∈ nested, decoder (RawJson.ofJson
      (entry.2.toJson.renamed fun path ↦ chosen (entry.1 :: path))) = some entry.2) :
    RawJson.entries decoder
      (RawJson.ofJson (.obj (Json.renamedEach chosen (membersJson nested)))) = some nested := by
  rw [RawJson.entries_eq_some_iff, renamedEach_membersJson, List.forall₂_map_left_iff,
    List.forall₂_same]
  exact fun entry hentry ↦ ⟨rfl, hnested entry hentry⟩

/-- The aggregations of an object are read back, and they are nested less deep than the object. -/
theorem nested_restored {decoder : RawJson → Option Aggregation} {chosen : List String → Bool}
    {json : Json} {members : List (String × Option Json)} (hmembers : HasMembers members json)
    {nested : List (String × Aggregation)}
    (hmember : (nestedJson nested).map (Json.renamedBelow chosen) ∈ members.map Prod.snd)
    (hnested : ∀ entry ∈ nested, ∀ inner : Json,
      inner = entry.2.toJson.renamed (fun path ↦ chosen (entry.1 :: path)) →
        (RawJson.ofJson inner).depth < (RawJson.ofJson json).depth →
          decoder (RawJson.ofJson inner) = some entry.2) :
    RawJson.withDefault [] (RawJson.entries decoder)
      (((nestedJson nested).map (Json.renamedBelow chosen)).map RawJson.ofJson) = some nested := by
  cases nested with
  | nil => rfl
  | cons first rest =>
    apply entries_renamed
    intro entry hentry
    have hbelow := RawJson.depth_lt_of_hasMembers hmembers hmember
    have hinner : (entry.1, entry.2.toJson.renamed fun path ↦ chosen (entry.1 :: path)) ∈
        Json.renamedEach chosen (membersJson (first :: rest)) := by
      rw [renamedEach_membersJson]
      exact List.mem_map_of_mem hentry
    exact hnested entry hentry _ rfl ((RawJson.depth_lt_of_mem hinner).trans hbelow)

theorem members_renamed (chosen : List String → Bool) (aggregation : Aggregation) :
    aggregation.members.map (Json.renamedMember chosen) =
      [("terms", aggregation.terms.map TermsAggregation.toJson),
        ("stats", aggregation.stats.map statsJson),
        ("range", aggregation.range.map RangeAggregation.toJson),
        ("global", if aggregation.global then some (.obj []) else none),
        (Json.nestedName (chosen []),
          (nestedJson aggregation.nested).map (Json.renamedBelow chosen))] := rfl

theorem hasMembers_renamed (chosen : List String → Bool) (aggregation : Aggregation) :
    HasMembers (aggregation.members.map (Json.renamedMember chosen))
      (aggregation.toJson.renamed chosen) := by
  rw [toJson_eq_record]
  apply Json.hasMembers_renamed
  rw [members_renamed]
  cases chosen [] <;> simp [Json.nestedName]

/-- Either name is that of the aggregations. -/
theorem fields_renamed (chosen : List String → Bool) (aggregation : Aggregation) :
    List.Forall₂ (fun field member ↦
      (aggregation.members.map (Json.renamedMember chosen)).filter
        (fun member ↦ field.isNamed (some member.1)) = [member])
      [.defaultable "terms", .defaultable "stats", .defaultable "range", .defaultable "global",
        nestedField] (aggregation.members.map (Json.renamedMember chosen)) := by
  rw [members_renamed]
  cases chosen [] <;>
    simp [Json.nestedName, Field.isNamed, Field.defaultable, nestedField]

mutual

/-- An aggregation is read back at every depth that its form has room in, wherever the other name
is chosen in it. -/
theorem decodeWithin_renamed : (aggregation : Aggregation) → aggregation.Ordered →
    {chosen : List String → Bool} → {depth : Nat} →
      (RawJson.ofJson (aggregation.toJson.renamed chosen)).depth ≤ depth →
        decodeWithin depth (RawJson.ofJson (aggregation.toJson.renamed chosen)) = some aggregation
  | _, _, _, 0, hdepth => absurd (RawJson.depth_pos _) (Nat.not_lt.mpr hdepth)
  | ⟨terms, stats, range, global, nested⟩, ⟨hascending, heach⟩, chosen, depth + 1, hdepth => by
    have hmembers := hasMembers_renamed chosen ⟨terms, stats, range, global, nested⟩
    have hglobal : RawJson.optional (RawJson.record [])
        ((if global then some (Json.obj []) else none).map RawJson.ofJson) =
          some (if global then some [] else none) := by
      cases global <;> rfl
    have hnested : RawJson.withDefault [] (RawJson.entries (decodeWithin depth))
        (((nestedJson nested).map (Json.renamedBelow chosen)).map RawJson.ofJson) =
          some nested := by
      apply nested_restored hmembers (by simp [members_renamed])
      rintro entry hentry _ rfl hless
      exact decodeWithin_renamed_of_mem nested heach hentry (by omega)
    rw [decodeWithin, RawJson.record_of_hasMembers hmembers (fields_renamed chosen _)]
    simp only [members_renamed, List.map_cons, List.map_nil, Option.bind_eq_bind, Option.bind_some,
      RawJson.optional_restored rfl fun terms _ ↦ TermsAggregation.restored terms,
      RawJson.optional_restored rfl fun field _ ↦ stats_restored field,
      RawJson.optional_restored rfl fun range _ ↦ RangeAggregation.restored range,
      hglobal, hnested, hascending.sorted_eq]
    cases global <;> rfl

theorem decodeWithin_renamed_of_mem : (nested : List (String × Aggregation)) →
    OrderedEach nested → {entry : String × Aggregation} → entry ∈ nested →
      {chosen : List String → Bool} → {depth : Nat} →
        (RawJson.ofJson (entry.2.toJson.renamed chosen)).depth ≤ depth →
          decodeWithin depth (RawJson.ofJson (entry.2.toJson.renamed chosen)) = some entry.2
  | (name, aggregation) :: rest, hordered, entry, hentry, chosen, depth, hdepth => by
    rcases List.mem_cons.mp hentry with rfl | hentry
    · exact decodeWithin_renamed aggregation hordered.1 hdepth
    · exact decodeWithin_renamed_of_mem rest hordered.2 hentry hdepth

end

theorem restored_renamed {aggregation : Aggregation} (hordered : aggregation.Ordered)
    (chosen : List String → Bool) :
    (aggregation.toJson.renamed chosen).decode decode = some aggregation :=
  decodeWithin_renamed aggregation hordered le_rfl

theorem renamedBelow_nestedJson {nested : List (String × Aggregation)}
    (heach : Json.renamedEach (fun _ ↦ false) (membersJson nested) = membersJson nested) :
    (nestedJson nested).map (Json.renamedBelow fun _ ↦ false) = nestedJson nested := by
  unfold nestedJson
  split
  · rfl
  · rw [Option.map_some, Json.renamedBelow, heach]

mutual

/-- Where no other name is chosen, the form is the one that is written. -/
theorem renamed_nowhere :
    (aggregation : Aggregation) → aggregation.toJson.renamed (fun _ ↦ false) = aggregation.toJson
  | ⟨terms, stats, range, global, nested⟩ => by
    have hnested := renamedBelow_nestedJson (renamedEach_nowhere nested)
    rw [toJson_eq_record]
    apply Json.renamed_record
    simp [members, Json.renamedMember, Json.nestedName, hnested]

theorem renamedEach_nowhere : (nested : List (String × Aggregation)) →
    Json.renamedEach (fun _ ↦ false) (membersJson nested) = membersJson nested
  | [] => rfl
  | (name, aggregation) :: rest => by
    rw [membersJson, Json.renamedEach, renamed_nowhere aggregation, renamedEach_nowhere rest]

end

theorem restored {aggregation : Aggregation} (hordered : aggregation.Ordered) :
    Restores decode toJson aggregation := by
  have hrenamed := restored_renamed hordered fun _ ↦ false
  rwa [renamed_nowhere] at hrenamed

end Aggregation

/-! ## Requests -/

namespace SearchRequest

/-- The query is regular, and the aggregations are in order at every depth. -/
structure Regular (request : SearchRequest) : Prop where
  query : ∀ query ∈ request.query, query.Regular
  ascending : Entries.Ascending request.aggregations
  ordered : Aggregation.OrderedEach request.aggregations

/-- The members of a request. -/
def members (request : SearchRequest) : List (String × Option Json) :=
  [("query", request.query.map Query.toJson), ("from", request.start.map countJson),
    ("size", request.size.map countJson), ("_source", request.source.map SourceFilter.toJson),
    ("aggs", Aggregation.nestedJson request.aggregations),
    ("sort", if request.sort.isEmpty then none
      else some (.arr (request.sort.map SortClause.toJson))),
    ("track_total_hits", request.totalHits.map TotalHits.toJson)]

theorem toJson_eq_record (request : SearchRequest) : request.toJson = .record request.members := rfl

theorem members_renamed (chosen : List String → Bool) (request : SearchRequest) :
    request.members.map (Json.renamedMember chosen) =
      [("query", request.query.map Query.toJson), ("from", request.start.map countJson),
        ("size", request.size.map countJson), ("_source", request.source.map SourceFilter.toJson),
        (Json.nestedName (chosen []),
          (Aggregation.nestedJson request.aggregations).map (Json.renamedBelow chosen)),
        ("sort", if request.sort.isEmpty then none
          else some (.arr (request.sort.map SortClause.toJson))),
        ("track_total_hits", request.totalHits.map TotalHits.toJson)] := rfl

theorem hasMembers_renamed (chosen : List String → Bool) (request : SearchRequest) :
    HasMembers (request.members.map (Json.renamedMember chosen))
      (request.toJson.renamed chosen) := by
  rw [toJson_eq_record]
  apply Json.hasMembers_renamed
  rw [members_renamed]
  cases chosen [] <;> simp [Json.nestedName]

theorem fields_renamed (chosen : List String → Bool) (request : SearchRequest) :
    List.Forall₂ (fun field member ↦
      (request.members.map (Json.renamedMember chosen)).filter
        (fun member ↦ field.isNamed (some member.1)) = [member])
      [.defaultable "query", .defaultable "from", .defaultable "size", .defaultable "_source",
        Aggregation.nestedField, .defaultable "sort", .defaultable "track_total_hits"]
      (request.members.map (Json.renamedMember chosen)) := by
  rw [members_renamed]
  cases chosen [] <;>
    simp [Json.nestedName, Field.isNamed, Field.defaultable, Aggregation.nestedField]

theorem restored_renamed {request : SearchRequest} (hregular : request.Regular)
    (chosen : List String → Bool) :
    (request.toJson.renamed chosen).decode decode = some request := by
  have hmembers := hasMembers_renamed chosen request
  have hquery := RawJson.optional_restored rfl fun query hmem ↦
    Query.restored (hregular.query query hmem)
  have haggregations : RawJson.withDefault [] (RawJson.entries Aggregation.decode)
      (((Aggregation.nestedJson request.aggregations).map (Json.renamedBelow chosen)).map
        RawJson.ofJson) = some request.aggregations := by
    apply Aggregation.nested_restored hmembers (by simp [members_renamed])
    rintro entry hentry _ rfl -
    have hordered := Aggregation.orderedEach_iff.mp hregular.ordered entry hentry
    exact Aggregation.restored_renamed hordered _
  have hsort := RawJson.withDefault_unlessEmpty (RawJson.list_restored
    fun clause (_ : clause ∈ request.sort) ↦ clause.restored)
  have hcount (count : UInt64) : Restores RawJson.uint64 countJson count :=
    RawJson.uint64_restored count
  rw [Json.decode, decode, RawJson.record_of_hasMembers hmembers (fields_renamed chosen request)]
  simp only [members_renamed, List.map_cons, List.map_nil, Option.bind_eq_bind, Option.bind_some,
    RawJson.optional_restored rfl fun count _ ↦ hcount count,
    RawJson.optional_restored rfl fun filter _ ↦ SourceFilter.restored filter,
    RawJson.optional_restored rfl fun hits _ ↦ TotalHits.restored hits,
    hquery, haggregations, hsort, hregular.ascending.sorted_eq]

theorem renamed_nowhere (request : SearchRequest) :
    request.toJson.renamed (fun _ ↦ false) = request.toJson := by
  have hnested := Aggregation.renamedBelow_nestedJson
    (Aggregation.renamedEach_nowhere request.aggregations)
  rw [toJson_eq_record]
  apply Json.renamed_record
  simp [members, Json.renamedMember, Json.nestedName, hnested]

theorem restored {request : SearchRequest} (hregular : request.Regular) :
    Restores decode toJson request := by
  have hrenamed := restored_renamed hregular fun _ ↦ false
  rwa [renamed_nowhere] at hrenamed

end SearchRequest

/-! ## All parts of requests -/

/-- Every part of a request is decoded from the form that is written for it, if its boosts are
finite and its maps in order, as maps are. The form of a request or an aggregation may have the
other name for the aggregations of the request, and for those below any of its aggregations. -/
theorem request_forms_restored :
    (∀ query : Query, query.Regular → query.toJson.decode Query.decode = some query) ∧
    (∀ request : SearchRequest, request.Regular →
      request.toJson.decode SearchRequest.decode = some request ∧
        ∀ chosen, (request.toJson.renamed chosen).decode SearchRequest.decode = some request) ∧
    (∀ aggregation : Aggregation, aggregation.Ordered →
      aggregation.toJson.decode Aggregation.decode = some aggregation ∧
        ∀ chosen, (aggregation.toJson.renamed chosen).decode Aggregation.decode =
          some aggregation) ∧
    (∀ clause : SortClause, clause.toJson.decode SortClause.decode = some clause) ∧
    (∀ filter : SourceFilter, filter.toJson.decode SourceFilter.decode = some filter) ∧
    (∀ hits : TotalHits, hits.toJson.decode TotalHits.decode = some hits) ∧
    (∀ properties : Properties, properties.toJson.decode Properties.decode = some properties) ∧
    (∀ filter : TermFilter, filter.toJson.decode TermFilter.decode = some filter) ∧
    ∀ filter : IdFilter, filter.toJson.decode IdFilter.decode = some filter := by
  refine ⟨?queries, ?requests, ?aggregations, SortClause.restored, SourceFilter.restored,
    TotalHits.restored, Properties.restored, TermFilter.restored, IdFilter.restored⟩
  case queries => exact fun query hregular ↦ Query.restored hregular
  case requests =>
    intro request hregular
    exact ⟨SearchRequest.restored hregular, SearchRequest.restored_renamed hregular⟩
  case aggregations =>
    intro aggregation hordered
    exact ⟨Aggregation.restored hordered, Aggregation.restored_renamed hordered⟩

/-- The clauses, the source filter and the list of ranges are empty in places, and only the inner
aggregations go by their other name. -/
theorem request_forms_restored_of_nested :
    let boosted : Query := .matchAll (some ⟨true, 127 * twoPow 23, by decide⟩)
    let query : Query := .bool [.bool [] [] [boosted] []] [.termIs "id" .null] [] []
    let inner : Aggregation := ⟨none, none, some ⟨"age", []⟩, true, [("sex", .ofStats "sex")]⟩
    let request : SearchRequest := ⟨some query, some 0, none, some (.patterns (some []) none),
      [("all", inner)], [.directed ∅, .field "age"], some (.counted false)⟩
    let chosen (path : List String) : Bool := path == ["all"]
    inner.toJson.renamed (fun path ↦ chosen ("all" :: path)) =
      .obj [("aggregations", .obj [("sex", .obj [("stats", .obj [("field", .str "sex")])])]),
        ("global", .obj []), ("range", .obj [("field", .str "age"), ("ranges", .arr [])])] ∧
    query.toJson.decode Query.decode = some query ∧
    inner.toJson.decode Aggregation.decode = some inner ∧
    (request.toJson.renamed chosen).decode SearchRequest.decode = some request := by
  intro boosted query inner request chosen
  obtain ⟨hqueries, hrequests, haggregations, -⟩ := request_forms_restored
  have hboosted : boosted.Regular := by
    rintro value ⟨⟩
    decide
  have hquery : query.Regular :=
    ⟨⟨⟨trivial, trivial, ⟨hboosted, trivial⟩, trivial⟩, trivial⟩, ⟨⟨trivial, trivial⟩, trivial⟩,
      trivial, trivial⟩
  have hinner : inner.Ordered :=
    ⟨List.pairwise_singleton _ _, ⟨List.Pairwise.nil, trivial⟩, trivial⟩
  have hrequest : request.Regular := by
    refine ⟨?_, List.pairwise_singleton _ _, hinner, trivial⟩
    rintro _ ⟨⟩
    exact hquery
  exact ⟨by decide, hqueries query hquery, (haggregations inner hinner).1,
    (hrequests request hrequest).2 chosen⟩

end FacetSearch
