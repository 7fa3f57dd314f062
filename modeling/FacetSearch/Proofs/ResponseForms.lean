import FacetSearch.Proofs.WrittenRecords

/-!
# Responses are read back

A response of the engine is decoded from the JSON value that is written for it to itself. A bucket
keeps all members that have no meaning of their own, so an object that decodes as a bucket and the
form of that bucket have the same further members. `response_forms_restored` states both.
-/

namespace FacetSearch

open RawJson (Restores)

/-! ## Readable members -/

namespace RawJson

theorem toJsonMembers?_filter (keeps : Option String → Bool)
    {written : List (Option String × RawJson)} {members : List (String × Json)}
    (h : toJsonMembers? written = some members) :
    toJsonMembers? (written.filter fun member ↦ keeps member.1) =
      some (members.filter fun member ↦ keeps (some member.1)) := by
  induction written generalizing members with
  | nil =>
    cases h
    rfl
  | cons member rest ih =>
    obtain ⟨name?, raw⟩ := member
    simp only [toJsonMembers?, Option.bind_eq_bind, Option.bind_eq_some_iff, Option.some.injEq] at h
    obtain ⟨name, rfl, value, hvalue, values, hvalues, rfl⟩ := h
    have hrest := ih hvalues
    cases hkeeps : keeps (some name) <;> simp [hkeeps, toJsonMembers?, hvalue, hrest]

theorem exists_toJsonMembers?_iff {written : List (Option String × RawJson)} :
    (∃ members, toJsonMembers? written = some members) ↔
      ∀ member ∈ written, ∃ name json, member.1 = some name ∧ member.2.toJson? = some json := by
  induction written with
  | nil => simp [toJsonMembers?]
  | cons member rest ih =>
    obtain ⟨name?, raw⟩ := member
    rw [List.forall_mem_cons, ← ih]
    simp only [toJsonMembers?, Option.bind_eq_bind, Option.bind_eq_some_iff, Option.some.injEq]
    constructor
    · rintro ⟨_, name, hname, json, hjson, members, hmembers, -⟩
      exact ⟨⟨name, json, hname, hjson⟩, members, hmembers⟩
    · rintro ⟨⟨name, json, hname, hjson⟩, members, hmembers⟩
      exact ⟨_, name, hname, json, hjson, members, hmembers, rfl⟩

/-- A field that was found is every member that it names. -/
theorem eq_some_of_uniqueMember {written : List (Option String × RawJson)} {field : Field}
    {found : Option RawJson} (hfound : uniqueMember written field = some found)
    {member : Option String × RawJson} (hmember : member ∈ written)
    (hnamed : field.isNamed member.1 = true) : found = some member.2 := by
  have hfilter : member ∈ written.filter fun member ↦ field.isNamed member.1 :=
    List.mem_filter.mpr ⟨hmember, hnamed⟩
  unfold uniqueMember at hfound
  split at hfound
  · next hnone => simp [hnone] at hfilter
  · next name value hone =>
    cases hfound
    rw [hone, List.mem_singleton] at hfilter
    rw [hfilter]
  · cases hfound

section Readable

variable {raw : RawJson}

theorem readable_of_string {s : String} (h : string raw = some s) :
    ∃ json, raw.toJson? = some json := by
  cases raw with
  | str s => exact ⟨_, rfl⟩
  | null | bool _ | num _ | arr _ | obj _ | unreadable => cases h

theorem readable_of_uint64 {n : UInt64} (h : uint64 raw = some n) :
    ∃ json, raw.toJson? = some json := by
  cases raw with
  | num number => exact ⟨_, rfl⟩
  | null | bool _ | str _ | arr _ | obj _ | unreadable => cases h

theorem readable_of_binary64 {x : Binary64} (h : binary64 raw = some x) :
    ∃ json, raw.toJson? = some json := by
  cases raw with
  | num number => exact ⟨_, rfl⟩
  | null | bool _ | str _ | arr _ | obj _ | unreadable => cases h

theorem readable_of_optional {α : Type} {read : RawJson → Option α}
    (hread : ∀ {value}, read raw = some value → ∃ json, raw.toJson? = some json)
    {value? : Option α} (h : optional read (some raw) = some value?) :
    ∃ json, raw.toJson? = some json := by
  unfold optional at h
  split at h
  · next hnone => cases hnone
  · next hnull =>
    cases hnull
    exact ⟨_, rfl⟩
  · next hsome =>
    cases hsome
    obtain ⟨value, hvalue, -⟩ := Option.map_eq_some_iff.mp h
    exact hread hvalue

end Readable

end RawJson

theorem optionalString_restored (s? : Option String) :
    RawJson.optional RawJson.string (some (RawJson.ofJson (optionalString s?))) = some s? :=
  RawJson.optional_orNull_restored rfl fun s _ ↦ RawJson.string_restored s

theorem optionalFloat_restored (x? : Option Binary64) :
    RawJson.optional RawJson.binary64 (some (RawJson.ofJson (optionalFloat x?))) = some x? :=
  RawJson.optional_orNull_restored rfl fun x _ ↦ RawJson.binary64_restored x

/-! ## Search responses -/

-- An equation that holds by computation would have the kernel compare a count with the bound of its
-- type in unary, hence the explicit proofs where a record has a count.

theorem HitCount.restored (count : HitCount) : Restores decode toJson count := by
  rw [Restores, decode, toJson, RawJson.record_record (by simp)
    (by simp [Field.isNamed, Field.required, Field.defaultable])]
  simp -implicitDefEqProofs only [List.map_cons, List.map_nil, Option.map_some,
    Option.bind_eq_bind, Option.bind_some, RawJson.needed_some, RawJson.withDefault_some,
    RawJson.uint64_ofJson_nat, RawJson.string_ofJson_str]

namespace Hit

/-- The document source is canonical. -/
def Canonical (hit : Hit) : Prop := ∀ source ∈ hit.source, Json.CanonicalMembers source.entries

theorem restored {hit : Hit} (hcanonical : hit.Canonical) : Restores decode toJson hit := by
  have hsource := RawJson.optional_restored rfl fun source hmem ↦
    RawJson.stringMap_toJson?_restored (hcanonical source hmem)
  rw [Restores, decode, toJson, RawJson.record_record (by simp)
    (by simp [Field.isNamed, Field.required, Field.defaultable])]
  simp only [List.map_cons, List.map_nil, Option.map_some, Option.bind_eq_bind, Option.bind_some,
    RawJson.needed_some, RawJson.string_ofJson_str, optionalString_restored,
    optionalFloat_restored, RawJson.optional_restored rfl fun s _ ↦ RawJson.string_restored s,
    hsource]

end Hit

theorem Hits.restored {hits : Hits} (hcanonical : ∀ hit ∈ hits.hits, hit.Canonical) :
    Restores decode toJson hits := by
  have hlist := RawJson.list_restored fun hit hmem ↦ Hit.restored (hcanonical hit hmem)
  have htotal : RawJson.optional HitCount.decode
      (some (RawJson.ofJson (.orNull (hits.total.map HitCount.toJson)))) = some hits.total :=
    RawJson.optional_orNull_restored rfl fun count _ ↦ count.restored
  rw [Restores, decode, toJson, RawJson.record_record (by simp)
    (by simp [Field.isNamed, Field.defaultable])]
  simp only [List.map_cons, List.map_nil, Option.map_some, Option.bind_eq_bind, Option.bind_some,
    RawJson.withDefault_some, optionalFloat_restored, htotal, hlist]

namespace SearchResponse

/-- The sources of the hits and the aggregations are canonical. -/
structure Canonical (response : SearchResponse) : Prop where
  hits : ∀ hit ∈ response.hits.hits, hit.Canonical
  aggregations : Json.CanonicalMembers response.aggregations.entries

theorem restored {response : SearchResponse} (hcanonical : response.Canonical) :
    Restores decode toJson response := by
  have hhits : Hits.decode (RawJson.ofJson response.hits.toJson) = some response.hits :=
    Hits.restored hcanonical.hits
  have haggregations := RawJson.withDefault_unlessEmptyMap hcanonical.aggregations
  rw [Restores, decode, toJson, RawJson.record_record (by simp)
    (by simp [Field.isNamed, Field.defaultable])]
  simp -implicitDefEqProofs only [List.map_cons, List.map_nil, Option.map_some,
    Option.bind_eq_bind, Option.bind_some, RawJson.withDefault_some, RawJson.uint64_ofJson_nat,
    RawJson.boolean_ofJson_bool, hhits, haggregations]

end SearchResponse

/-! ## Bulk responses -/

theorem EngineError.restored (error : EngineError) : Restores decode toJson error := by
  rw [Restores, decode, toJson, RawJson.record_record (by simp)
    (by simp [Field.isNamed, Field.required, Field.defaultable])]
  simp only [List.map_cons, List.map_nil, Option.map_some, Option.bind_eq_bind, Option.bind_some,
    RawJson.needed_some, RawJson.string_ofJson_str, optionalString_restored]

theorem BulkResult.restored (result : BulkResult) : Restores decode toJson result := by
  rw [Restores, decode, toJson, RawJson.record_record (by simp)
    (by simp [Field.isNamed, Field.required, Field.defaultable])]
  simp -implicitDefEqProofs only [List.map_cons, List.map_nil, Option.map_some,
    Option.bind_eq_bind, Option.bind_some, RawJson.needed_some, RawJson.uint16_ofJson_nat,
    optionalString_restored, RawJson.optional_restored rfl fun s _ ↦ RawJson.string_restored s,
    RawJson.optional_restored rfl fun error _ ↦ EngineError.restored error]

theorem BulkItem.restored (item : BulkItem) : Restores decode toJson item := by
  rw [Restores, decode, toJson, RawJson.record_record (by simp)
    (by simp [Field.isNamed, Field.required])]
  simp only [List.map_cons, List.map_nil, Option.bind_eq_bind, Option.bind_some,
    RawJson.optional_restored rfl fun result _ ↦ BulkResult.restored result]

theorem BulkResponse.restored (response : BulkResponse) : Restores decode toJson response := by
  have hitems := RawJson.list_restored fun item (_ : item ∈ response.items) ↦ item.restored
  rw [Restores, decode, toJson, RawJson.record_record (by simp)
    (by simp [Field.isNamed, Field.defaultable])]
  simp -implicitDefEqProofs only [List.map_cons, List.map_nil, Option.map_some,
    Option.bind_eq_bind, Option.bind_some, RawJson.withDefault_some, RawJson.uint64_ofJson_nat,
    RawJson.boolean_ofJson_bool, hitems]

/-! ## Other responses -/

theorem ErrorResponse.restored {response : ErrorResponse} (hcanonical : response.error.Canonical) :
    Restores decode toJson response := by
  have hstatus : RawJson.optional RawJson.uint16 (some (RawJson.ofJson
      (.orNull (response.status.map fun status ↦ .nat status.toNat)))) = some response.status :=
    RawJson.optional_orNull_restored rfl fun status _ ↦ RawJson.uint16_restored status
  rw [Restores, decode, toJson, RawJson.record_record (by simp)
    (by simp [Field.isNamed, Field.required, Field.defaultable])]
  simp -implicitDefEqProofs only [List.map_cons, List.map_nil, Option.map_some,
    Option.bind_eq_bind, Option.bind_some, RawJson.needed_some,
    RawJson.toJson?_ofJson _ hcanonical, hstatus]

theorem count_restored (count : UInt64) : Restores decodeCount encodeCount count := by
  have hrecord : (RawJson.ofJson (encodeCount count)).record [.required "count"] =
      some [some (.ofJson (.nat count.toNat))] :=
    @RawJson.record_record [("count", some (.nat count.toNat))] [.required "count"] (by simp)
      (by simp [Field.isNamed, Field.required])
  rw [Restores, decodeCount, hrecord]
  simp -implicitDefEqProofs only [Option.bind_eq_bind, Option.bind_some, RawJson.needed_some,
    RawJson.uint64_ofJson_nat]

theorem DeletionResponse.restored {response : DeletionResponse}
    (hcanonical : Json.CanonicalElements response.failures) : Restores decode toJson response := by
  rw [Restores, decode, toJson, RawJson.record_record (by simp)
    (by simp [Field.isNamed, Field.defaultable])]
  simp -implicitDefEqProofs only [List.map_cons, List.map_nil, Option.map_some,
    Option.bind_eq_bind, Option.bind_some, RawJson.withDefault_some, RawJson.uint64_ofJson_nat,
    RawJson.list_toJson?_ofJson hcanonical]

/-! ## Buckets -/

namespace Bucket

theorem get?_othersOf_own (members : StringMap Json) {key : String} (hkey : key ∈ ownNames) :
    (othersOf members).get? key = none := by
  apply Entries.get?_eq_none_iff.mpr
  simp [othersOf, Entries.keys, hkey]

/-! ### The written bucket -/

section Form

variable {bucket : Bucket}

/-- The members with a meaning of their own. -/
def ownMembers (bucket : Bucket) : List (String × Option Json) :=
  [("key", some bucket.key), ("key_as_string", bucket.keyAsString.map .str),
    ("doc_count", some (.nat bucket.docCount.toNat)), ("from", bucket.lower.map .float),
    ("to", bucket.upper.map .float)]

/-- The members of the written bucket. -/
def form (bucket : Bucket) : StringMap Json :=
  .ofList (Json.present bucket.ownMembers ++ bucket.others.entries)

/-- The values are canonical, and no other member has a name with a meaning of its own. -/
structure Regular (bucket : Bucket) : Prop where
  key : bucket.key.Canonical
  others : Json.CanonicalMembers bucket.others.entries
  own : ∀ name ∈ ownNames, bucket.others.get? name = none

theorem nodup_ownMembers (bucket : Bucket) : (bucket.ownMembers.map Prod.fst).Nodup := by
  simp [ownMembers]

theorem get?_form (hregular : bucket.Regular) (name : String) :
    bucket.form.get? name =
      ((Entries.get? bucket.ownMembers name).join <|> bucket.others.get? name) := by
  have hkeys : (Entries.keys (Json.present bucket.ownMembers ++ bucket.others.entries)).Nodup := by
    have hown := bucket.nodup_ownMembers.sublist (Json.keys_present_sublist bucket.ownMembers)
    rw [Entries.keys, List.map_append, List.nodup_append]
    refine ⟨hown, bucket.others.ascending.nodup_keys, ?_⟩
    rintro key hkey _ hother rfl
    have hname : key ∈ ownNames := (Json.keys_present_sublist bucket.ownMembers).mem hkey
    exact Entries.get?_eq_none_iff.mp (hregular.own key hname) hother
  have hform : bucket.form.get? name =
      Entries.get? (Json.present bucket.ownMembers ++ bucket.others.entries) name :=
    Entries.get?_sorted_of_nodup hkeys name
  rw [hform, Entries.get?_append, Json.get?_present bucket.nodup_ownMembers]
  rfl

theorem get?_form_own (hregular : bucket.Regular) {name : String} (hname : name ∈ ownNames) :
    bucket.form.get? name = (Entries.get? bucket.ownMembers name).join := by
  rw [get?_form hregular, hregular.own name hname]
  cases (Entries.get? bucket.ownMembers name).join <;> rfl

theorem get?_form_other (hregular : bucket.Regular) {name : String} (hname : name ∉ ownNames) :
    bucket.form.get? name = bucket.others.get? name := by
  have hown : Entries.get? bucket.ownMembers name = none := Entries.get?_eq_none_iff.mpr hname
  rw [get?_form hregular, hown]
  rfl

theorem canonical_form (hregular : bucket.Regular) : (Json.ofMap bucket.form).Canonical := by
  have hown : Json.CanonicalMembers (Json.present bucket.ownMembers) := by
    apply Json.canonicalMembers_present
    intro value hvalue
    simp only [ownMembers, List.map_cons, List.map_nil, List.mem_cons, List.not_mem_nil, or_false,
      Option.some.injEq, @eq_comm _ (some value), Option.map_eq_some_iff] at hvalue
    obtain rfl | ⟨_, -, rfl⟩ | rfl | ⟨_, -, rfl⟩ | ⟨_, -, rfl⟩ := hvalue
    · exact hregular.key
    all_goals trivial
  apply Json.canonical_ofMembers
  rw [Json.canonicalMembers_iff] at hown ⊢
  intro member hmember
  rcases List.mem_append.mp hmember with hmember | hmember
  · exact hown member hmember
  · exact Json.canonicalMembers_iff.mp hregular.others member hmember

theorem readsOptional_str (s? : Option String) :
    ReadsOptional Json.str? (s?.map .str) s? := by
  cases s? with
  | none => rfl
  | some s => exact ⟨s, rfl, rfl⟩

theorem readsOptional_float (x? : Option Binary64) :
    ReadsOptional Json.number? (x?.map .float) x? := by
  cases x? with
  | none => rfl
  | some x => exact ⟨x, rfl, rfl⟩

theorem reads_form (hregular : bucket.Regular) : bucket.Reads bucket.form where
  key := get?_form_own hregular (by simp [ownNames])
  keyAsString := by
    rw [get?_form_own hregular (by simp [ownNames])]
    exact readsOptional_str bucket.keyAsString
  docCount := get?_form_own hregular (by simp [ownNames])
  lower := by
    rw [get?_form_own hregular (by simp [ownNames])]
    exact readsOptional_float bucket.lower
  upper := by
    rw [get?_form_own hregular (by simp [ownNames])]
    exact readsOptional_float bucket.upper
  others := by
    apply StringMap.ext_get?
    intro name
    by_cases hname : name ∈ ownNames
    · rw [get?_othersOf_own _ hname, hregular.own name hname]
    · rw [get?_othersOf _ hname, get?_form_other hregular hname]

theorem restored (hregular : bucket.Regular) : bucket.toJson.decode decode = some bucket :=
  (decode_iff_reads (canonical_form hregular)).mpr ⟨bucket.form, rfl, reads_form hregular⟩

end Form

/-! ### The bucket of an object -/

/-- The others are what the object holds besides what has a meaning of its own. -/
theorem decodeOthers_of_toJsonMembers? {written : List (Option String × RawJson)}
    {members : List (String × Json)} (h : RawJson.toJsonMembers? written = some members) :
    decodeOthers written = some (othersOf (.ofList members)) := by
  rw [decodeOthers, RawJson.toJsonMembers?_filter (fun name? ↦ !(name?.any ownNames.contains)) h,
    Option.map_some, Option.some.injEq]
  apply StringMap.ext_get?
  intro name
  rw [StringMap.get?_ofList, List.filter_filter]
  by_cases hname : name ∈ ownNames
  · have hnone : members.filter (fun member ↦
        decide (member.1 = name) && !((some member.1).any ownNames.contains)) = [] := by
      rw [List.filter_eq_nil_iff]
      rintro member - hmember
      obtain ⟨rfl, hother⟩ : member.1 = name ∧ member.1 ∉ ownNames := by simpa using hmember
      exact hother hname
    rw [get?_othersOf_own _ hname, hnone]
    rfl
  · rw [get?_othersOf _ hname, StringMap.get?_ofList]
    congr 2
    apply List.filter_congr
    intro member _
    by_cases hmember : member.1 = name <;> simp [hmember, hname]

/-- Every member has a meaning of its own or is among the others, and is read in both cases. -/
theorem readable_of_decodeOthers {written : List (Option String × RawJson)}
    {others : StringMap Json} (hothers : decodeOthers written = some others)
    {key text count lower upper : Option RawJson}
    (hfields : RawJson.memberFields [.required "key", .defaultable "key_as_string",
      .required "doc_count", .defaultable "from", .defaultable "to"] written =
        some [key, text, count, lower, upper])
    (hkey : ∃ value, RawJson.needed RawJson.toJson? key = some value)
    (htext : ∃ value, RawJson.optional RawJson.string text = some value)
    (hcount : ∃ value, RawJson.needed RawJson.uint64 count = some value)
    (hlower : ∃ value, RawJson.optional RawJson.binary64 lower = some value)
    (hupper : ∃ value, RawJson.optional RawJson.binary64 upper = some value) :
    ∀ member ∈ written, ∃ name json, member.1 = some name ∧ member.2.toJson? = some json := by
  rw [RawJson.memberFields, Option.ite_none_right_eq_some, mapM_eq_some_iff] at hfields
  obtain ⟨hnamed, hfields⟩ := hfields
  simp only [List.forall₂_cons, List.forall₂_nil_right_iff, and_true] at hfields
  obtain ⟨hkeyfound, htextfound, hcountfound, hlowerfound, hupperfound⟩ := hfields
  rintro ⟨name?, raw⟩ hmember
  obtain ⟨name, rfl⟩ : ∃ name, name? = some name :=
    Option.isSome_iff_exists.mp (List.all_eq_true.mp hnamed _ hmember)
  refine ⟨name, ?_⟩
  simp only [true_and]
  by_cases hname : name ∈ ownNames
  · simp only [ownNames, List.mem_cons, List.not_mem_nil, or_false] at hname
    obtain rfl | rfl | rfl | rfl | rfl := hname
    · obtain rfl := RawJson.eq_some_of_uniqueMember hkeyfound hmember rfl
      exact hkey
    · obtain rfl := RawJson.eq_some_of_uniqueMember htextfound hmember rfl
      obtain ⟨value, hvalue⟩ := htext
      exact RawJson.readable_of_optional RawJson.readable_of_string hvalue
    · obtain rfl := RawJson.eq_some_of_uniqueMember hcountfound hmember rfl
      obtain ⟨value, hvalue⟩ := hcount
      exact RawJson.readable_of_uint64 hvalue
    · obtain rfl := RawJson.eq_some_of_uniqueMember hlowerfound hmember rfl
      obtain ⟨value, hvalue⟩ := hlower
      exact RawJson.readable_of_optional RawJson.readable_of_binary64 hvalue
    · obtain rfl := RawJson.eq_some_of_uniqueMember hupperfound hmember rfl
      obtain ⟨value, hvalue⟩ := hupper
      exact RawJson.readable_of_optional RawJson.readable_of_binary64 hvalue
  · have hkept : (some name, raw) ∈ written.filter fun member ↦
        !(member.1.any ownNames.contains) := List.mem_filter.mpr ⟨hmember, by simpa using hname⟩
    obtain ⟨members, hmembers, -⟩ := Option.map_eq_some_iff.mp hothers
    obtain ⟨_, json, -, hjson⟩ := RawJson.exists_toJsonMembers?_iff.mp ⟨members, hmembers⟩ _ hkept
    exact ⟨json, hjson⟩

/-- An object that decodes as a bucket is readable, and the bucket keeps its other members. -/
theorem exists_members_of_decode {raw : RawJson} {bucket : Bucket}
    (h : decode raw = some bucket) :
    ∃ members : StringMap Json, raw.toJson? = some (.ofMap members) ∧
      bucket.others = othersOf members ∧ bucket.key.Canonical := by
  cases raw with
  | obj written =>
    simp only [decode, Option.bind_eq_bind, Option.bind_eq_some_iff] at h
    obtain ⟨others, hothers, fields, hfields, h⟩ := h
    split at h
    · simp only [Option.bind_eq_some_iff, Option.some.injEq] at h
      obtain ⟨key, hkey, text, htext, count, hcount, lower, hlower, upper, hupper, rfl⟩ := h
      have hreadable : ∀ member ∈ written, ∃ name json,
          member.1 = some name ∧ member.2.toJson? = some json :=
        readable_of_decodeOthers hothers hfields ⟨key, hkey⟩ ⟨text, htext⟩ ⟨count, hcount⟩
          ⟨lower, hlower⟩ ⟨upper, hupper⟩
      obtain ⟨members, hmembers⟩ := RawJson.exists_toJsonMembers?_iff.mpr hreadable
      have heq : others = othersOf (.ofList members) := by
        rw [decodeOthers_of_toJsonMembers? hmembers] at hothers
        exact (Option.some.inj hothers).symm
      refine ⟨.ofList members, ?_, heq, ?_⟩
      · rw [RawJson.toJson?, hmembers]
        rfl
      · obtain ⟨raw, rfl, hread⟩ := Option.bind_eq_some_iff.mp hkey
        exact RawJson.canonical_of_toJson? raw hread
    · cases h
  | null | bool _ | num _ | str _ | arr _ | unreadable => cases h

/-- A bucket that was decoded is written with the other members of the object that it is from. -/
theorem keeps_others {raw : RawJson} {bucket : Bucket} (h : decode raw = some bucket) :
    ∃ members : StringMap Json, raw.toJson? = some (.ofMap members) ∧
      (∀ name ∉ ownNames, bucket.others.get? name = members.get? name) ∧
      (∀ name ∈ ownNames, bucket.others.get? name = none) ∧
      bucket.toJson.decode decode = some bucket ∧
      ∀ name ∉ ownNames, bucket.toJson.member? name = members.get? name := by
  obtain ⟨members, hmembers, hothers, hkey⟩ := exists_members_of_decode h
  have hcanonical : Json.CanonicalMembers members.entries :=
    Json.canonical_ofMap_iff.mp (RawJson.canonical_of_toJson? raw hmembers)
  have hregular : bucket.Regular := by
    refine ⟨hkey, ?_, ?_⟩
    · rw [hothers]
      rw [Json.canonicalMembers_iff] at hcanonical ⊢
      exact fun member hmember ↦ hcanonical member (List.mem_of_mem_filter hmember)
    · intro name hname
      rw [hothers, get?_othersOf_own _ hname]
  have hkept : ∀ name ∉ ownNames, bucket.others.get? name = members.get? name := by
    intro name hname
    rw [hothers, get?_othersOf _ hname]
  refine ⟨members, hmembers, hkept, hregular.own, restored hregular, ?_⟩
  intro name hname
  exact (get?_form_other hregular hname).trans (hkept name hname)

end Bucket

/-! ## All forms -/

/-- Every response is decoded from its form to itself. What decodes as a bucket is an object; the
bucket keeps exactly the members that have no meaning of their own, with their values, and so does
its form, which is decoded to the bucket again. -/
theorem response_forms_restored :
    (∀ response : SearchResponse, response.Canonical →
      response.toJson.decode SearchResponse.decode = some response) ∧
    (∀ bucket : Bucket, bucket.Regular → bucket.toJson.decode Bucket.decode = some bucket) ∧
    (∀ response : BulkResponse, response.toJson.decode BulkResponse.decode = some response) ∧
    (∀ response : ErrorResponse, response.error.Canonical →
      response.toJson.decode ErrorResponse.decode = some response) ∧
    (∀ count : UInt64, (encodeCount count).decode decodeCount = some count) ∧
    (∀ response : DeletionResponse, Json.CanonicalElements response.failures →
      response.toJson.decode DeletionResponse.decode = some response) ∧
    ∀ (raw : RawJson) (bucket : Bucket), Bucket.decode raw = some bucket →
      ∃ members : StringMap Json, raw.toJson? = some (.ofMap members) ∧
        (∀ name ∉ Bucket.ownNames, bucket.others.get? name = members.get? name) ∧
        (∀ name ∈ Bucket.ownNames, bucket.others.get? name = none) ∧
        bucket.toJson.decode Bucket.decode = some bucket ∧
        ∀ name ∉ Bucket.ownNames, bucket.toJson.member? name = members.get? name :=
  ⟨fun _ ↦ SearchResponse.restored, fun _ ↦ Bucket.restored, BulkResponse.restored,
    fun _ ↦ ErrorResponse.restored, count_restored, fun _ ↦ DeletionResponse.restored,
    fun _ _ ↦ Bucket.keeps_others⟩

/-- The object names a member twice, holds a null where a number may stand, and has a member whose
name starts like one with a meaning of its own. -/
theorem response_forms_restored_of_repeated :
    let hit : Hit := ⟨none, "7", none, none, some ∅⟩
    let response : SearchResponse := ⟨3, true, ⟨some ⟨1, "gte"⟩, none, [hit]⟩, ∅⟩
    let raw : RawJson := .obj [(some "keys", .arr []), (some "doc_count", .num (.int 2)),
      (some "from", .null), (some "key", .str "a"), (some "keys", .obj [])]
    let bucket : Bucket :=
      ⟨.str "a", none, 2, none, none, .singleton "keys" (.obj [])⟩
    response.toJson.decode SearchResponse.decode = some response ∧
      Bucket.decode raw = some bucket ∧
      bucket.toJson = .obj [("doc_count", .nat 2), ("key", .str "a"), ("keys", .obj [])] ∧
      bucket.toJson.decode Bucket.decode = some bucket := by
  intro hit response raw bucket
  obtain ⟨hresponses, -, -, -, -, -, hraw⟩ := response_forms_restored
  have hresponse : response.Canonical := by
    refine ⟨?_, trivial⟩
    rintro _ hmem
    obtain rfl := List.mem_singleton.mp hmem
    rintro source ⟨⟩
    exact trivial
  have hdecode : Bucket.decode raw = some bucket := by decide +kernel
  obtain ⟨-, -, -, -, hrestored, -⟩ := hraw raw bucket hdecode
  exact ⟨hresponses response hresponse, hdecode, by decide +kernel, hrestored⟩

end FacetSearch
