import FacetSearch.Aggregation.Properties
import FacetSearch.Filter
import FacetSearch.Proofs.BinaryWidening
import FacetSearch.Proofs.WrittenRecords

/-!
# Queries and filters are read back

A query that is written as JSON is decoded to itself, however its clauses are nested: its kind is
the only member of an object, and the clauses of a kind that has none are left out. So are the forms
around a query that are told apart by the kind of JSON value alone, and the filters that queries are
made of. A boost has to be finite, since an infinite one is written as null.
-/

namespace FacetSearch

open Json (HasMembers)
open RawJson (Restores)

theorem TextQuery.restored (query : TextQuery) : Restores decode toJson query := by
  rw [Restores, decode, toJson, RawJson.record_record (by simp)
    (by simp [Field.isNamed, Field.required, Field.defaultable])]
  simp only [List.map_cons, List.map_nil, Option.map_some, Option.bind_eq_bind, Option.bind_some,
    RawJson.needed, RawJson.optional_restored rfl fun s _ ↦ RawJson.string_restored s,
    RawJson.optional_restored rfl fun texts _ ↦ RawJson.strings_restored texts]
  rfl

/-! ## Queries -/

namespace Query

mutual

/-- Every boost is finite, and the values of terms are canonical. -/
def Regular : Query → Prop
  | matchAll boost => ∀ value ∈ boost, value.isFinite = true
  | term values => Json.CanonicalMembers values.entries
  | bool must should mustNot filter =>
    RegularAll must ∧ RegularAll should ∧ RegularAll mustNot ∧ RegularAll filter
  | startsWith _ | hasField _ | text _ | ids _ => True

/-- Every query of the list is regular. -/
def RegularAll : List Query → Prop
  | [] => True
  | query :: rest => Regular query ∧ RegularAll rest

end

/-- A finite boost is rounded to itself when it is read. -/
theorem boost_restored {boost : Binary32} (hfinite : boost.isFinite = true) :
    Restores RawJson.binary32 boostJson boost := by
  obtain ⟨longer, hlonger, hback⟩ := boost.exists_toBinary64? hfinite
  rw [Restores, boostJson, hlonger]
  exact congrArg some hback

/-- The member that lists the clauses of one kind, if there are any. -/
def clause (queries : List Query) : Option Json :=
  if queries.isEmpty then none else some (.arr (writtenList boostJson queries))

/-- The members of a combination of queries. -/
def clauses (must should mustNot filter : List Query) : List (String × Option Json) :=
  [("must", clause must), ("should", clause should), ("must_not", clause mustNot),
    ("filter", clause filter)]

theorem written_bool (must should mustNot filter : List Query) :
    written boostJson (bool must should mustNot filter) =
      .obj [("bool", .record (clauses must should mustNot filter))] := rfl

theorem ofJson_only (name : String) (value : Json) :
    RawJson.ofJson (.obj [(name, value)]) = .obj [(some name, RawJson.ofJson value)] := rfl

/-- Clauses are nested less deep than the combination that they stand in. -/
theorem clause_restored {depth : Nat} {json : Json} {members : List (String × Option Json)}
    (hmembers : HasMembers members json) (hdepth : (RawJson.ofJson json).depth ≤ depth)
    {queries : List Query} (hmember : clause queries ∈ members.map Prod.snd)
    (hqueries :
      RawJson.depthElements (RawJson.ofJsonElements (writtenList boostJson queries)) ≤ depth →
        RawJson.list (decodeWithin depth)
          (RawJson.ofJson (.arr (writtenList boostJson queries))) = some queries) :
    RawJson.withDefault [] (RawJson.list (decodeWithin depth))
      ((clause queries).map RawJson.ofJson) = some queries := by
  cases queries with
  | nil => rfl
  | cons query rest =>
    have hless := RawJson.depth_lt_of_hasMembers hmembers hmember
    rw [RawJson.ofJson, RawJson.depth] at hless
    exact RawJson.withDefault_unlessEmpty (hqueries (by omega))

mutual

/-- A query is read back at every depth that its form has room in. -/
theorem decodeWithin_written : (query : Query) → query.Regular → {depth : Nat} →
    (RawJson.ofJson (written boostJson query)).depth ≤ depth →
      decodeWithin depth (RawJson.ofJson (written boostJson query)) = some query
  | query, _, 0, hdepth => by
    cases query <;> cases hdepth
  | matchAll boost, hregular, depth + 1, _ => by
    have hboost := RawJson.optional_restored rfl fun value hvalue ↦
      boost_restored (hregular value hvalue)
    rw [written, ofJson_only, decodeWithin, RawJson.record_record (by simp)
      (by simp [Field.isNamed, Field.defaultable])]
    simp only [List.map_cons, List.map_nil, Option.bind_eq_bind, Option.bind_some, hboost]
  | term values, hregular, depth + 1, _ => by
    rw [written, ofJson_only, decodeWithin, RawJson.stringMap_toJson?_restored hregular]
    rfl
  | startsWith values, _, depth + 1, _ => by
    rw [written, ofJson_only, decodeWithin,
      RawJson.stringMap_restored fun entry _ ↦ RawJson.string_restored entry.2]
    rfl
  | bool must should mustNot filter, hregular, depth + 1, hdepth => by
    obtain ⟨hmust, hshould, hmustNot, hfilter⟩ := hregular
    have hmembers : HasMembers (clauses must should mustNot filter) _ :=
      Json.hasMembers_record (by simp [clauses])
    rw [written_bool, ofJson_only] at hdepth ⊢
    have hinner : (RawJson.ofJson (.record (clauses must should mustNot filter))).depth ≤ depth :=
      (max_le_iff.mp (Nat.le_of_succ_le_succ hdepth)).1
    rw [decodeWithin, RawJson.record_record (by simp [clauses])
      (by simp [clauses, Field.isNamed, Field.defaultable])]
    simp only [clauses, List.map_cons, List.map_nil, Option.bind_eq_bind, Option.bind_some]
    rw [clause_restored hmembers hinner (by simp [clauses]) (list_decodeWithin_written must hmust),
      clause_restored hmembers hinner (by simp [clauses])
        (list_decodeWithin_written should hshould),
      clause_restored hmembers hinner (by simp [clauses])
        (list_decodeWithin_written mustNot hmustNot),
      clause_restored hmembers hinner (by simp [clauses])
        (list_decodeWithin_written filter hfilter)]
    rfl
  | hasField field, _, depth + 1, _ => rfl
  | text query, _, depth + 1, _ => by
    rw [written, ofJson_only, decodeWithin, query.restored]
    rfl
  | ids values, _, depth + 1, _ => by
    have hfield : (RawJson.ofJson (.obj [("values", .strings values)])).record
        [.required "values"] = some [some (RawJson.ofJson (.strings values))] := rfl
    have hvalues : RawJson.strings (RawJson.ofJson (.strings values)) = some values :=
      RawJson.strings_restored values
    rw [written, ofJson_only, decodeWithin, hfield]
    simp only [Option.bind_eq_bind, Option.bind_some, RawJson.needed, hvalues]

theorem list_decodeWithin_written : (queries : List Query) → RegularAll queries →
    {depth : Nat} →
      RawJson.depthElements (RawJson.ofJsonElements (writtenList boostJson queries)) ≤ depth →
        RawJson.list (decodeWithin depth)
          (RawJson.ofJson (.arr (writtenList boostJson queries))) = some queries
  | [], _, _, _ => rfl
  | query :: rest, hregular, depth, hdepth => by
    obtain ⟨hfirst, hothers⟩ := max_le_iff.mp hdepth
    have hquery := decodeWithin_written query hregular.1 hfirst
    have hrest := list_decodeWithin_written rest hregular.2 hothers
    rw [RawJson.ofJson, RawJson.list] at hrest ⊢
    rw [writtenList, RawJson.ofJsonElements, List.mapM_cons, hquery, hrest]
    rfl

end

theorem restored {query : Query} (hregular : query.Regular) : Restores decode toJson query :=
  decodeWithin_written query hregular le_rfl

end Query

/-! ## Sorting, projection and totals -/

theorem SortDirection.restored (direction : SortDirection) : Restores decode toJson direction := by
  cases direction <;> rfl

namespace SortClause

/-- The form of the direction of one field. -/
def directionJson (direction : SortDirection) : Json := .obj [("order", direction.toJson)]

theorem direction_restored (direction : SortDirection) :
    Restores decodeDirection directionJson direction := direction.restored

theorem canonical_toJson (clause : SortClause) : clause.toJson.Canonical := by
  cases clause with
  | field name => trivial
  | directed fields =>
    apply Json.canonical_ofMap_iff.mpr
    rw [Json.canonicalMembers_iff]
    intro member hmember
    obtain ⟨⟨name, direction⟩, -, rfl⟩ := List.mem_map.mp hmember
    exact ⟨List.pairwise_singleton _ _, trivial, trivial⟩

theorem restored (clause : SortClause) : Restores decode toJson clause := by
  rw [Restores, decode, if_pos (RawJson.isReadable_ofJson clause.canonical_toJson)]
  cases clause with
  | field name => rfl
  | directed fields =>
    have hfields : RawJson.stringMap decodeDirection (RawJson.ofJson (toJson (directed fields))) =
        some fields := RawJson.stringMap_restored fun entry _ ↦ direction_restored entry.2
    rw [hfields]
    rfl

end SortClause

namespace SourceFilter

theorem canonical_toJson (filter : SourceFilter) : filter.toJson.Canonical := by
  cases filter with
  | all returned => trivial
  | fields names => exact Json.canonical_strings names
  | patterns includes excludes =>
    apply Json.canonical_record
    intro value hvalue
    simp only [List.map_cons, List.map_nil, List.mem_cons, eq_comm, Option.map_eq_some_iff,
      List.not_mem_nil, or_false] at hvalue
    obtain ⟨names, -, rfl⟩ | ⟨names, -, rfl⟩ := hvalue <;>
      exact Json.canonical_strings names

theorem decodePatterns_record (members : List (String × Option Json)) :
    decodePatterns (RawJson.ofJson (.record members)) = (do
      match ← (RawJson.ofJson (.record members)).record
          [.defaultable "includes", .defaultable "excludes"] with
      | [includes, excludes] => some (patterns (← RawJson.optional RawJson.strings includes)
          (← RawJson.optional RawJson.strings excludes))
      | _ => none) := rfl

/-- No form is a truth value and a list, or a list and an object. -/
theorem restored (filter : SourceFilter) : Restores decode toJson filter := by
  rw [Restores, decode, if_pos (RawJson.isReadable_ofJson filter.canonical_toJson)]
  cases filter with
  | all returned => rfl
  | fields names =>
    have hnames : RawJson.strings (RawJson.ofJson (.strings names)) = some names :=
      RawJson.strings_restored names
    rw [toJson, hnames]
    rfl
  | patterns includes excludes =>
    have hpatterns : decodePatterns (RawJson.ofJson (toJson (patterns includes excludes))) =
        some (patterns includes excludes) := by
      rw [toJson, decodePatterns_record,
        RawJson.record_record (by simp) (by simp [Field.isNamed, Field.defaultable])]
      simp only [List.map_cons, List.map_nil, Option.bind_eq_bind, Option.bind_some,
        RawJson.optional_restored rfl fun texts _ ↦ RawJson.strings_restored texts]
    exact hpatterns

end SourceFilter

theorem TotalHits.restored (hits : TotalHits) : Restores decode toJson hits := by
  cases hits with
  | counted exactly => rfl
  | upTo count =>
    have hcount : RawJson.uint64 (RawJson.ofJson (.nat count.toNat)) = some count :=
      RawJson.uint64_restored count
    rw [Restores, decode, toJson, hcount]
    rfl

/-! ## Filters and properties -/

namespace IdFilter

/-- The members of a filter. -/
def members : IdFilter → List (String × Option Json)
  | plain field values => [("kind", some (.str "plain")), ("field", some (.str field)),
      ("values", some (.strings values.toList))]
  | path field values excluded => [("kind", some (.str "path")), ("field", some (.str field)),
      ("values", some (.strings values.toList)), ("excluded", some (.strings excluded.toList))]

theorem toJson_eq_record (filter : IdFilter) : filter.toJson = .record filter.members := by
  cases filter <;> rfl

theorem nodup_members (filter : IdFilter) : (filter.members.map Prod.fst).Nodup := by
  cases filter <;> simp [members]

theorem canonical_toJson (filter : IdFilter) : filter.toJson.Canonical := by
  rw [toJson_eq_record]
  apply Json.canonical_record
  intro value hvalue
  cases filter <;>
    simp only [members, List.map_cons, List.map_nil, List.mem_cons, Option.some.injEq,
      List.not_mem_nil, or_false] at hvalue
  · obtain rfl | rfl | rfl := hvalue
    · trivial
    · trivial
    · exact Json.canonical_strings _
  · obtain rfl | rfl | rfl | rfl := hvalue
    · trivial
    · trivial
    · exact Json.canonical_strings _
    · exact Json.canonical_strings _

/-- The kind says how the other members are read. -/
theorem decode_of_kind (filter : IdFilter) {kind : String}
    (hkind : filter.members.filter (fun member ↦ (Field.required "kind").isNamed (some member.1)) =
      [("kind", some (.str kind))]) :
    decode (RawJson.ofJson filter.toJson) = decodeKind kind (RawJson.ofJson filter.toJson) := by
  have hmembers := Json.hasMembers_record filter.nodup_members
  have hreadable := RawJson.isReadable_ofJson filter.canonical_toJson
  rw [← toJson_eq_record] at hmembers
  generalize filter.toJson = json at hmembers hreadable ⊢
  cases hmembers with
  | obj hwritten =>
    have hfound := RawJson.uniqueMember_of_perm hwritten hkind
    rw [RawJson.ofJson] at hreadable ⊢
    rw [decode, if_pos hreadable]
    simp only [hfound]
    rfl

theorem restored (filter : IdFilter) : Restores decode toJson filter := by
  have hmembers := Json.hasMembers_record filter.nodup_members
  have hset (set : StringSet) :
      RawJson.stringSet (RawJson.ofJson (.strings set.toList)) = some set :=
    RawJson.stringSet_restored set
  rw [Restores]
  cases filter with
  | plain field values =>
    have hrecord : (RawJson.ofJson (plain field values).toJson).record
        [.required "field", .required "values"] =
          some [some (.str field), some (RawJson.ofJson (.strings values.toList))] :=
      @RawJson.record_of_hasMembers _
        [("field", some (.str field)), ("values", some (.strings values.toList))] _ hmembers _
          (.cons rfl (.cons rfl .nil))
    rw [decode_of_kind (plain field values) rfl, decodeKind, if_pos rfl, hrecord]
    simp only [Option.bind_eq_bind, Option.bind_some, RawJson.needed, RawJson.string, hset]
  | path field values excluded =>
    have hrecord : (RawJson.ofJson (path field values excluded).toJson).record
        [.required "field", .required "values", .defaultable "excluded"] =
          some [some (.str field), some (RawJson.ofJson (.strings values.toList)),
            some (RawJson.ofJson (.strings excluded.toList))] :=
      @RawJson.record_of_hasMembers _
        [("field", some (.str field)), ("values", some (.strings values.toList)),
          ("excluded", some (.strings excluded.toList))] _ hmembers _
            (.cons rfl (.cons rfl (.cons rfl .nil)))
    rw [decode_of_kind (path field values excluded) rfl, decodeKind, if_neg (by decide),
      if_pos rfl, hrecord]
    simp only [Option.bind_eq_bind, Option.bind_some, RawJson.needed, RawJson.string,
      RawJson.withDefault, hset]

end IdFilter

theorem TermFilter.restored (filter : TermFilter) : Restores decode toJson filter := by
  rw [Restores, decode, toJson, RawJson.record_record (by simp)
    (by simp [Field.isNamed, Field.required])]
  simp only [List.map_cons, List.map_nil, Option.map_some, Option.bind_eq_bind, Option.bind_some,
    RawJson.needed, RawJson.optional_orNull_restored rfl fun s _ ↦ RawJson.string_restored s]
  rfl

theorem Properties.restored (properties : Properties) : Restores decode toJson properties :=
  RawJson.stringMap_restored fun entry _ ↦ RawJson.string_restored entry.2

end FacetSearch
