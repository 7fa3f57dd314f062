import FacetSearch.Response.Codec
import FacetSearch.Proofs.JsonValues

/-!
# How responses are decoded

Of a bucket the members with a meaning of their own are looked up and all others are kept as they
are, so the others have no influence on whether a bucket decodes. The members that are kept are
nested less deep than the body that the bucket stands in. `Bucket.Reads`, `ListsBuckets` and
`GivesFields` say what is decoded without the decoders.
-/

namespace FacetSearch

/-! ## Traversals -/

section Traversal

variable {α β γ : Type}

/-- The values of a list are those of its items, in order. -/
theorem mapM_eq_some_iff {f : α → Option β} {items : List α} {values : List β} :
    items.mapM f = some values ↔
      List.Forall₂ (fun item value ↦ f item = some value) items values := by
  induction items generalizing values with
  | nil => cases values <;> simp
  | cons item rest ih =>
    cases values with
    | nil => simp [Option.bind_eq_some_iff]
    | cons value values =>
      simp only [List.mapM_cons, Option.bind_eq_bind, Option.bind_eq_some_iff, Option.pure_def,
        Option.some.injEq, List.cons.injEq, List.forall₂_cons, ← ih]
      constructor
      · rintro ⟨_, hitem, _, hrest, rfl, rfl⟩
        exact ⟨hitem, hrest⟩
      · rintro ⟨hitem, hrest⟩
        exact ⟨value, hitem, values, hrest, rfl, rfl⟩

/-- The values are those that some item has. -/
theorem mem_iff_of_mapM {f : α → Option β} {items : List α} {values : List β}
    (h : items.mapM f = some values) {value : β} :
    value ∈ values ↔ ∃ item ∈ items, f item = some value := by
  induction mapM_eq_some_iff.mp h with
  | nil => simp
  | cons hitem hrest ih =>
    simp [ih (mapM_eq_some_iff.mpr hrest), hitem, eq_comm]

theorem exists_mapM_eq_some_iff {f : α → Option β} {items : List α} :
    (∃ values, items.mapM f = some values) ↔ ∀ item ∈ items, ∃ value, f item = some value := by
  induction items with
  | nil => simp
  | cons item rest ih =>
    rw [List.forall_mem_cons, ← ih]
    simp only [List.mapM_cons, Option.bind_eq_bind, Option.bind_eq_some_iff, Option.pure_def,
      Option.some.injEq]
    constructor
    · rintro ⟨_, value, hvalue, values, hvalues, -⟩
      exact ⟨⟨value, hvalue⟩, values, hvalues⟩
    · rintro ⟨⟨value, hvalue⟩, values, hvalues⟩
      exact ⟨value :: values, value, hvalue, values, hvalues, rfl⟩

theorem mapM_congr {f g : α → Option β} {items : List α} (h : ∀ item ∈ items, f item = g item) :
    items.mapM f = items.mapM g := by
  induction items with
  | nil => rfl
  | cons item rest ih =>
    have hitem := h item List.mem_cons_self
    have hrest := ih fun other hother ↦ h other (List.mem_cons_of_mem _ hother)
    rw [List.mapM_cons, List.mapM_cons, hitem, hrest]

/-- Two traversals one after the other fail together like one. -/
theorem mapM_bind_mapM (f : α → Option β) (g : β → Option γ) (items : List α) :
    (items.mapM f).bind (fun values ↦ values.mapM g) = items.mapM fun item ↦ (f item).bind g := by
  induction items with
  | nil => rfl
  | cons item rest ih =>
    rw [List.mapM_cons, List.mapM_cons, ← ih]
    cases hitem : f item with
    | none => rfl
    | some value =>
      cases hrest : rest.mapM f with
      | none => cases hvalue : g value <;> simp [hvalue]
      | some values => simp

/-- Relations that agree on the items of a list relate it to the same lists. -/
theorem forall₂_iff_of_mem {R S : α → β → Prop} {items : List α} {values : List β}
    (h : ∀ item ∈ items, ∀ value, R item value ↔ S item value) :
    List.Forall₂ R items values ↔ List.Forall₂ S items values := by
  induction items generalizing values with
  | nil => simp
  | cons item rest ih =>
    cases values with
    | nil => simp
    | cons value values =>
      rw [List.forall₂_cons, List.forall₂_cons, h item List.mem_cons_self,
        ih fun other hother ↦ h other (List.mem_cons_of_mem _ hother)]

/-- A relation that goes through a value of each item relates the values. -/
theorem forall₂_exists_iff {f : α → Option β} {R : β → γ → Prop} {items : List α}
    {results : List γ} :
    List.Forall₂ (fun item result ↦ ∃ value, f item = some value ∧ R value result) items results ↔
      ∃ values, items.mapM f = some values ∧ List.Forall₂ R values results := by
  simp only [mapM_eq_some_iff]
  constructor
  · intro hall
    induction hall with
    | nil => exact ⟨[], .nil, .nil⟩
    | cons hitem _ ih =>
      obtain ⟨value, hvalue, hresult⟩ := hitem
      obtain ⟨values, hvalues, hresults⟩ := ih
      exact ⟨value :: values, .cons hvalue hvalues, .cons hresult hresults⟩
  · rintro ⟨values, hvalues, hresults⟩
    induction hvalues generalizing results with
    | nil =>
      cases hresults
      exact .nil
    | cons hvalue _ ih =>
      cases hresults with
      | cons hresult hresults => exact .cons ⟨_, hvalue, hresult⟩ (ih hresults)

end Traversal

/-! ## Fields of a record -/

namespace RawJson

/-- Names stand once in a value, so a field is what is found under its name. -/
theorem uniqueMember_ofJsonMembers {members : Entries Json} (hascending : members.Ascending)
    {field : Field} (haliases : field.aliases = []) :
    uniqueMember (ofJsonMembers members) field = some ((members.get? field.name).map ofJson) := by
  have hnamed (name : String) : field.isNamed (some name) = (name == field.name) := by
    simp [Field.isNamed, haliases]
  rw [uniqueMember, ofJsonMembers_eq_map, List.filter_map]
  induction members with
  | nil => rfl
  | cons head rest ih =>
    obtain ⟨hsmallest, hrest⟩ := List.pairwise_cons.mp hascending
    by_cases hname : head.1 = field.name
    · have hnone : rest.filter ((fun member ↦ field.isNamed member.1) ∘
          fun member : String × Json ↦ (some member.1, ofJson member.2)) = [] := by
        apply List.filter_eq_nil_iff.mpr
        intro member hmember
        have hgreater : head.1 < member.1 := hsmallest member hmember
        have hother : member.1 ≠ field.name := by
          rw [← hname]
          exact fun heq ↦ String.lt_irrefl _ (heq ▸ hgreater)
        simpa [hnamed] using hother
      rw [List.filter_cons_of_pos (by simpa [hnamed] using hname), hnone]
      simp [Entries.get?, hname]
    · rw [List.filter_cons_of_neg (by simpa [hnamed] using hname), ih hrest]
      simp [Entries.get?, hname]

theorem memberFields_ofJsonMembers {members : Entries Json} (hascending : members.Ascending)
    {fields : List Field} (haliases : ∀ field ∈ fields, field.aliases = []) :
    memberFields fields (ofJsonMembers members) =
      some (fields.map fun field ↦ (members.get? field.name).map ofJson) := by
  have hnamed : (ofJsonMembers members).all fun member ↦ member.1.isSome := by
    simp [ofJsonMembers_eq_map]
  rw [memberFields, if_pos hnamed, mapM_eq_some_iff, List.forall₂_map_right_iff, List.forall₂_same]
  exact fun field hfield ↦ uniqueMember_ofJsonMembers hascending (haliases field hfield)

/-- The only field of a record is nested less deep than the record. -/
theorem depth_of_record {raw value : RawJson} {field : Field}
    (h : raw.record [field] = some [some value]) : value.depth < raw.depth := by
  cases raw with
  | obj members =>
    simp only [record, memberFields, List.mapM_cons, List.mapM_nil, Option.ite_none_right_eq_some,
      Option.bind_eq_bind, Option.bind_eq_some_iff, Option.pure_def, Option.some.injEq,
      List.cons.injEq] at h
    obtain ⟨-, found, hfound, _, rfl, rfl, -⟩ := h
    unfold uniqueMember at hfound
    split at hfound
    · cases hfound
    · next name other hfilter =>
      cases hfound
      have hmem : (name, value) ∈ members :=
        List.mem_of_mem_filter (hfilter ▸ List.mem_cons_self)
      exact Nat.lt_succ_of_le (depth_le_depthMembers hmem)
    · cases hfound
  | arr elements =>
    cases elements with
    | nil =>
      simp only [record, elementFields] at h
      split at h <;> cases h
    | cons first rest =>
      cases rest with
      | nil =>
        cases h
        exact Nat.lt_succ_of_le (depth_le_depthElements List.mem_cons_self)
      | cons second rest => cases h
  | null | bool _ | num _ | str _ | unreadable => cases h

end RawJson

/-! ## Buckets and their other members -/

namespace Bucket

/-- The members of an object without those that have a meaning in a bucket. -/
def othersOf (members : StringMap Json) : StringMap Json where
  entries := members.entries.filter fun member ↦ !ownNames.contains member.1
  ascending := members.ascending.sublist List.filter_sublist

/-- The bucket with other members in place of those that have no meaning of their own. -/
def withOthers (bucket : Bucket) (others : StringMap Json) : Bucket := { bucket with others }

/-- What the members with a meaning of their own say. -/
def ownPart (members : StringMap Json) : Option Bucket := do
  some {
    key := ← members.get? "key"
    keyAsString := ← RawJson.optional RawJson.string
      ((members.get? "key_as_string").map RawJson.ofJson)
    docCount := ← RawJson.needed RawJson.uint64 ((members.get? "doc_count").map RawJson.ofJson)
    lower := ← RawJson.optional RawJson.binary64 ((members.get? "from").map RawJson.ofJson)
    upper := ← RawJson.optional RawJson.binary64 ((members.get? "to").map RawJson.ofJson)
    others := ∅ }

theorem decodeOthers_ofMap {members : StringMap Json}
    (hcanonical : Json.CanonicalMembers members.entries) :
    decodeOthers (RawJson.ofJsonMembers members.entries) = some (othersOf members) := by
  have hothers : (RawJson.ofJsonMembers members.entries).filter
      (fun member ↦ !(member.1.any ownNames.contains)) =
        RawJson.ofJsonMembers (othersOf members).entries := by
    rw [RawJson.ofJsonMembers_eq_map, RawJson.ofJsonMembers_eq_map, List.filter_map]
    rfl
  have hvalues : Json.CanonicalMembers (othersOf members).entries := by
    rw [Json.canonicalMembers_iff] at hcanonical ⊢
    exact fun member hmember ↦ hcanonical member (List.mem_of_mem_filter hmember)
  rw [decodeOthers, hothers, RawJson.toJsonMembers?_ofJson _ hvalues, Option.map_some]
  congr 1
  exact StringMap.ofList_entries _

theorem get?_othersOf (members : StringMap Json) {key : String} (hkey : key ∉ ownNames) :
    (othersOf members).get? key = members.get? key := by
  apply Option.ext
  intro value
  simp only [StringMap.get?, Entries.get?_eq_some_iff (othersOf members).ascending,
    Entries.get?_eq_some_iff members.ascending]
  simp [othersOf, hkey]

/-- A bucket decodes by what its own members say, and keeps the others. -/
theorem decode_ofMap {members : StringMap Json}
    (hcanonical : Json.CanonicalMembers members.entries) :
    (Json.ofMap members).decode decode =
      (ownPart members).map (withOthers · (othersOf members)) := by
  have hkey : RawJson.needed RawJson.toJson? ((members.get? "key").map RawJson.ofJson) =
      members.get? "key" := by
    cases hfound : members.get? "key" with
    | none => rfl
    | some value =>
      have hvalue : value.Canonical :=
        Json.canonicalMembers_iff.mp hcanonical _ (Entries.mem_of_get?_eq_some hfound)
      exact RawJson.toJson?_ofJson value hvalue
  have hfields : RawJson.memberFields [.required "key", .defaultable "key_as_string",
      .required "doc_count", .defaultable "from", .defaultable "to"]
        (RawJson.ofJsonMembers members.entries) =
      some (["key", "key_as_string", "doc_count", "from", "to"].map fun name ↦
        (members.get? name).map RawJson.ofJson) :=
    RawJson.memberFields_ofJsonMembers members.ascending
      (by simp [Field.required, Field.defaultable])
  change decode (.obj (RawJson.ofJsonMembers members.entries)) = _
  rw [decode, decodeOthers_ofMap hcanonical, hfields, ownPart]
  simp only [List.map_cons, List.map_nil, Option.bind_eq_bind, Option.bind_some, hkey]
  simp only [Option.map_bind, Function.comp_def, Option.map_some, withOthers]

/-- A bucket that decodes is an object and keeps its other members. -/
theorem decodeOthers_of_decode {item : RawJson} {bucket : Bucket} (h : decode item = some bucket) :
    ∃ members, item = .obj members ∧ decodeOthers members = some bucket.others := by
  cases item with
  | obj members =>
    refine ⟨members, rfl, ?_⟩
    simp only [decode, Option.bind_eq_bind, Option.bind_eq_some_iff] at h
    obtain ⟨others, hothers, fields, -, h⟩ := h
    rw [hothers]
    split at h
    · simp only [Option.bind_eq_some_iff, Option.some.injEq] at h
      obtain ⟨_, -, _, -, _, -, _, -, _, -, rfl⟩ := h
      rfl
    · cases h
  | null | bool _ | num _ | str _ | arr _ | unreadable => cases h

theorem depth_others_lt {item : RawJson} {bucket : Bucket} (h : decode item = some bucket) :
    RawJson.depthMembers (RawJson.ofJsonMembers bucket.others.entries) < item.depth := by
  obtain ⟨members, rfl, hothers⟩ := decodeOthers_of_decode h
  obtain ⟨values, hvalues, heq⟩ := Option.map_eq_some_iff.mp hothers
  have hfilter : RawJson.depthMembers (members.filter fun member ↦
      !(member.1.any ownNames.contains)) ≤ RawJson.depthMembers members := by
    rw [RawJson.depthMembers_le_iff]
    exact fun member hmember ↦ RawJson.depth_le_depthMembers (List.mem_of_mem_filter hmember)
  rw [← heq]
  apply Nat.lt_succ_of_le
  calc
    _ ≤ RawJson.depthMembers (RawJson.ofJsonMembers values) := RawJson.depthMembers_sorted_le values
    _ ≤ _ := RawJson.depth_of_toJsonMembers? _ hvalues
    _ ≤ RawJson.depthMembers members := hfilter

/-- A bucket of a body is decoded from an item that is nested less deep. -/
theorem exists_item_of_decodeAll {body : RawJson} {buckets : List Bucket} {bucket : Bucket}
    (h : decodeAll body = some buckets) (hbucket : bucket ∈ buckets) :
    ∃ item, decode item = some bucket ∧ item.depth < body.depth := by
  simp only [decodeAll, Option.bind_eq_bind, Option.bind_eq_some_iff] at h
  obtain ⟨fields, hfields, h⟩ := h
  split at h
  · next field =>
    cases field with
    | none =>
      cases h
      cases hbucket
    | some value =>
      have hvalue : value.depth < body.depth := RawJson.depth_of_record hfields
      cases value with
      | arr elements =>
        obtain ⟨item, hitem, hdecode⟩ := (mem_iff_of_mapM h).mp hbucket
        refine ⟨item, hdecode, ?_⟩
        calc
          item.depth ≤ RawJson.depthElements elements := RawJson.depth_le_depthElements hitem
          _ ≤ (RawJson.arr elements).depth := Nat.le_succ _
          _ < body.depth := hvalue
      | null | bool _ | num _ | str _ | obj _ | unreadable => cases h
  · cases h

/-- The members that a bucket keeps are nested less deep than the body that the bucket is from. -/
theorem depth_others_lt_of_decodeAll {body : RawJson} {buckets : List Bucket} {bucket : Bucket}
    (h : decodeAll body = some buckets) (hbucket : bucket ∈ buckets) :
    RawJson.depthMembers (RawJson.ofJsonMembers bucket.others.entries) < body.depth := by
  obtain ⟨item, hitem, hdepth⟩ := exists_item_of_decodeAll h hbucket
  exact (depth_others_lt hitem).trans hdepth

/-- The members that a bucket keeps are canonical, since they were read. -/
theorem canonical_others {body : RawJson} {buckets : List Bucket} {bucket : Bucket}
    (h : decodeAll body = some buckets) (hbucket : bucket ∈ buckets) :
    Json.CanonicalMembers bucket.others.entries := by
  obtain ⟨item, hitem, -⟩ := exists_item_of_decodeAll h hbucket
  obtain ⟨members, -, hothers⟩ := decodeOthers_of_decode hitem
  obtain ⟨values, hvalues, heq⟩ := Option.map_eq_some_iff.mp hothers
  have hcanonical := RawJson.canonical_of_toJsonMembers? _ hvalues
  rw [← heq]
  exact (Json.canonical_ofMembers hcanonical).2

end Bucket

/-! ## What is decoded -/

/-- The body gives the values of the fields, in the members of an object, some of which may be
missing, or in an array that has as many elements as there are fields. -/
inductive GivesFields (names : List String) : Json → List (Option Json) → Prop
  | members {members : List (String × Json)} :
    GivesFields names (.obj members) (names.map fun name ↦ Entries.get? members name)
  | elements {elements : List Json} :
    elements.length = names.length → GivesFields names (.arr elements) (elements.map some)

/-- A number as one of the binary format. -/
def Json.number? : Json → Option Binary64
  | num (.int i) => Binary64.ofInt? i
  | num (.float x) => some x
  | _ => none

/-- A member that is missing or null has no value, and any other has the value that is read. -/
def ReadsOptional {α : Type} (read : Json → Option α) (found : Option Json) (value : Option α) :
    Prop :=
  match found with
  | none | some .null => value = none
  | some json => ∃ x, read json = some x ∧ value = some x

/-- The bucket says what the members of an object say. -/
structure Bucket.Reads (members : StringMap Json) (bucket : Bucket) : Prop where
  key : members.get? "key" = some bucket.key
  keyAsString : ReadsOptional Json.str? (members.get? "key_as_string") bucket.keyAsString
  docCount : members.get? "doc_count" = some (.nat bucket.docCount.toNat)
  lower : ReadsOptional Json.number? (members.get? "from") bucket.lower
  upper : ReadsOptional Json.number? (members.get? "to") bucket.upper
  others : bucket.others = Bucket.othersOf members

/-- The body lists these buckets, in a member of an object, which may be missing, or in the only
element of an array. -/
inductive ListsBuckets : Json → List Json → Prop
  | member {members : List (String × Json)} {items : List Json} :
    Entries.get? members "buckets" = some (.arr items) → ListsBuckets (.obj members) items
  | missing {members : List (String × Json)} :
    Entries.get? members "buckets" = none → ListsBuckets (.obj members) []
  | listed {items : List Json} : ListsBuckets (.arr [.arr items]) items
  | empty : ListsBuckets (.arr []) []

theorem ListsBuckets.canonical_of_mem {body : Json} {items : List Json}
    (hlists : ListsBuckets body items) (hcanonical : body.Canonical) {item : Json}
    (hitem : item ∈ items) : item.Canonical := by
  cases hlists with
  | member hfound =>
    have hlist : (Json.arr items).Canonical :=
      Json.canonicalMembers_iff.mp hcanonical.2 _ (Entries.mem_of_get?_eq_some hfound)
    exact Json.canonicalElements_iff.mp hlist item hitem
  | listed =>
    have hlist : (Json.arr items).Canonical := hcanonical.1
    exact Json.canonicalElements_iff.mp hlist item hitem
  | missing | empty => cases hitem

namespace RawJson

theorem optional_eq_some_iff {α : Type} {decoder : RawJson → Option α} {read : Json → Option α}
    (hread : ∀ json, decoder (ofJson json) = read json) {found : Option Json} {value : Option α} :
    optional decoder (found.map ofJson) = some value ↔ ReadsOptional read found value := by
  cases found with
  | none => simp [optional, ReadsOptional, eq_comm]
  | some json =>
    cases json <;> simp [optional, ReadsOptional, ofJson, ← hread, eq_comm]

theorem elementFields_required {names : List String} {elements : List RawJson} :
    elementFields (names.map Field.required) elements =
      if elements.length = names.length then some (elements.map some) else none := by
  induction names generalizing elements with
  | nil => cases elements <;> simp [elementFields]
  | cons name rest ih =>
    cases elements with
    | nil => simp [elementFields, Field.required]
    | cons element elements =>
      simp only [List.map_cons, elementFields, ih, List.length_cons, Nat.add_right_cancel_iff]
      split <;> rfl

/-- A record whose fields have no defaults is given in one of two ways. -/
theorem record_eq_some_iff {body : Json} (hcanonical : body.Canonical) {names : List String}
    {values : List (Option RawJson)} :
    (ofJson body).record (names.map Field.required) = some values ↔
      ∃ found, GivesFields names body found ∧ found.map (Option.map ofJson) = values := by
  cases body with
  | obj members =>
    have haliases : ∀ field ∈ names.map Field.required, field.aliases = [] := by
      simp [Field.required]
    have hfields : (ofJson (.obj members)).record (names.map Field.required) =
        some ((names.map fun name ↦ Entries.get? members name).map (Option.map ofJson)) := by
      rw [ofJson, record, memberFields_ofJsonMembers hcanonical.1 haliases, List.map_map,
        List.map_map]
      rfl
    rw [hfields, Option.some.injEq]
    constructor
    · rintro rfl
      exact ⟨_, .members, rfl⟩
    · rintro ⟨_, hgiven, hfound⟩
      cases hgiven with
      | members => exact hfound
  | arr elements =>
    have hvalues : (elements.map ofJson).map some =
        (elements.map some).map (Option.map ofJson) := by simp
    rw [ofJson, record, elementFields_required, ofJsonElements_eq_map, List.length_map,
      Option.ite_none_right_eq_some, Option.some.injEq, hvalues]
    constructor
    · rintro ⟨hlength, rfl⟩
      exact ⟨_, .elements hlength, rfl⟩
    · rintro ⟨_, hgiven, hfound⟩
      cases hgiven with
      | elements hlength => exact ⟨hlength, hfound⟩
  | null | bool _ | num _ | str _ =>
    constructor
    · intro hnone
      cases hnone
    · rintro ⟨_, ⟨⟩, -⟩

theorem string_ofJson (json : Json) : string (ofJson json) = json.str? := by
  cases json <;> rfl

theorem binary64_ofJson (json : Json) : binary64 (ofJson json) = json.number? := by
  cases json with
  | num n => cases n <;> rfl
  | null | bool _ | str _ | arr _ | obj _ => rfl

theorem uint64_ofJson_eq_some_iff {json : Json} {count : UInt64} :
    uint64 (ofJson json) = some count ↔ json = .nat count.toNat := by
  constructor
  · intro hcount
    obtain ⟨n, hn, rfl⟩ := Option.map_eq_some_iff.mp hcount
    cases json with
    | num number =>
      cases number with
      | int i =>
        simp only [ofJson, natBelow, Option.ite_none_right_eq_some, Option.some.injEq] at hn
        obtain ⟨⟨hnonneg, hless⟩, rfl⟩ := hn
        have hsmall : i.toNat < UInt64.size := by omega
        rw [Json.nat, UInt64.toNat_ofNat_of_lt' hsmall, Int.toNat_of_nonneg hnonneg]
      | float x => cases hn
    | null | bool _ | str _ | arr _ | obj _ => cases hn
  · rintro rfl
    have hless : count.toNat < 18446744073709551616 := count.toNat_lt
    simpa [uint64, Json.nat, ofJson, natBelow] using hless

theorem needed_uint64_eq_some_iff {found : Option Json} {count : UInt64} :
    needed uint64 (found.map ofJson) = some count ↔ found = some (.nat count.toNat) := by
  cases found with
  | none => simp [needed]
  | some json => simp [needed, uint64_ofJson_eq_some_iff]

end RawJson

namespace Bucket

theorem decode_eq_some_iff {members : StringMap Json}
    (hcanonical : Json.CanonicalMembers members.entries) {bucket : Bucket} :
    (Json.ofMap members).decode decode = some bucket ↔ bucket.Reads members := by
  rw [decode_ofMap hcanonical, Option.map_eq_some_iff]
  simp only [ownPart, Option.bind_eq_bind, Option.bind_eq_some_iff, Option.some.injEq,
    RawJson.optional_eq_some_iff RawJson.string_ofJson,
    RawJson.optional_eq_some_iff RawJson.binary64_ofJson, RawJson.needed_uint64_eq_some_iff]
  constructor
  · rintro ⟨_, ⟨key, hkey, text, htext, count, hcount, lower, hlower, upper, hupper, rfl⟩, rfl⟩
    exact ⟨hkey, htext, hcount, hlower, hupper, rfl⟩
  · rintro ⟨hkey, htext, hcount, hlower, hupper, hothers⟩
    refine ⟨_, ⟨_, hkey, _, htext, _, hcount, _, hlower, _, hupper, rfl⟩, ?_⟩
    rw [withOthers, ← hothers]

/-- An item that decodes is the object that its bucket reads. -/
theorem decode_iff_reads {item : Json} (hcanonical : item.Canonical) {bucket : Bucket} :
    item.decode decode = some bucket ↔
      ∃ members : StringMap Json, item = .ofMap members ∧ bucket.Reads members := by
  constructor
  · intro hdecode
    cases item with
    | obj members =>
      have hreads : bucket.Reads ⟨members, hcanonical.1⟩ :=
        (decode_eq_some_iff hcanonical.2).mp hdecode
      exact ⟨⟨members, hcanonical.1⟩, rfl, hreads⟩
    | null | bool _ | num _ | str _ | arr _ => cases hdecode
  · rintro ⟨members, rfl, hreads⟩
    exact (decode_eq_some_iff hcanonical.2).mpr hreads

theorem record_buckets {members : List (String × Json)} (hascending : Entries.Ascending members) :
    (RawJson.ofJson (.obj members)).record [.defaultable "buckets"] =
      some [(Entries.get? members "buckets").map RawJson.ofJson] :=
  RawJson.memberFields_ofJsonMembers hascending (by simp [Field.defaultable])

theorem list_ofJson (items : List Json) :
    RawJson.list decode (RawJson.ofJson (.arr items)) = items.mapM (Json.decode decode) := by
  rw [RawJson.ofJson, RawJson.list, RawJson.ofJsonElements_eq_map, List.mapM_map]
  rfl

theorem exists_of_list {value : Json} {buckets : List Bucket}
    (h : RawJson.list decode (RawJson.ofJson value) = some buckets) :
    ∃ items, value = .arr items := by
  cases value with
  | arr items => exact ⟨items, rfl⟩
  | null | bool _ | num _ | str _ | obj _ => cases h

/-- The buckets of a body are decoded one by one. -/
theorem decodeAll_of_lists {body : Json} {items : List Json} (hlists : ListsBuckets body items)
    (hcanonical : body.Canonical) :
    body.decode decodeAll = items.mapM (Json.decode decode) := by
  cases hlists with
  | member hfound =>
    rw [Json.decode, decodeAll, record_buckets hcanonical.1, hfound]
    exact list_ofJson items
  | missing hfound =>
    rw [Json.decode, decodeAll, record_buckets hcanonical.1, hfound]
    rfl
  | listed => exact list_ofJson items
  | empty => rfl

theorem exists_lists_of_decodeAll {body : Json} {buckets : List Bucket}
    (hbuckets : body.decode decodeAll = some buckets) (hcanonical : body.Canonical) :
    ∃ items, ListsBuckets body items := by
  cases body with
  | obj members =>
    rw [Json.decode, decodeAll, record_buckets hcanonical.1] at hbuckets
    cases hfound : Entries.get? members "buckets" with
    | none => exact ⟨[], .missing hfound⟩
    | some value =>
      rw [hfound] at hbuckets
      obtain ⟨items, rfl⟩ := exists_of_list hbuckets
      exact ⟨items, .member hfound⟩
  | arr elements =>
    cases elements with
    | nil => exact ⟨[], .empty⟩
    | cons first rest =>
      cases rest with
      | nil =>
        obtain ⟨items, rfl⟩ := exists_of_list hbuckets
        exact ⟨items, .listed⟩
      | cons second rest => cases hbuckets
  | null | bool _ | num _ | str _ => cases hbuckets

section Items

variable {body : Json} {buckets : List Bucket}

/-- A bucket of a body keeps the other members of an object that the body lists. -/
theorem exists_members_of_mem (hcanonical : body.Canonical)
    (hbuckets : body.decode decodeAll = some buckets) {bucket : Bucket}
    (hbucket : bucket ∈ buckets) :
    ∃ items, ListsBuckets body items ∧
      ∃ members : StringMap Json, .ofMap members ∈ items ∧ bucket.others = othersOf members := by
  obtain ⟨items, hlists⟩ := exists_lists_of_decodeAll hbuckets hcanonical
  rw [decodeAll_of_lists hlists hcanonical] at hbuckets
  obtain ⟨item, hitem, hdecode⟩ := (mem_iff_of_mapM hbuckets).mp hbucket
  obtain ⟨members, rfl, hreads⟩ :=
    (decode_iff_reads (hlists.canonical_of_mem hcanonical hitem)).mp hdecode
  exact ⟨items, hlists, members, hitem, hreads.others⟩

/-- Each object that a body lists has a bucket, which keeps its other members. -/
theorem exists_bucket_of_mem (hcanonical : body.Canonical)
    (hbuckets : body.decode decodeAll = some buckets) {items : List Json}
    (hlists : ListsBuckets body items) {members : StringMap Json} (hitem : .ofMap members ∈ items) :
    ∃ bucket ∈ buckets, bucket.others = othersOf members := by
  have hmembers := (hlists.canonical_of_mem hcanonical hitem).2
  rw [decodeAll_of_lists hlists hcanonical] at hbuckets
  obtain ⟨bucket, hdecode⟩ := exists_mapM_eq_some_iff.mp ⟨buckets, hbuckets⟩ _ hitem
  have hbucket : bucket ∈ buckets := (mem_iff_of_mapM hbuckets).mpr ⟨_, hitem, hdecode⟩
  exact ⟨bucket, hbucket, ((decode_eq_some_iff hmembers).mp hdecode).others⟩

/-- The buckets of a body decode if it lists objects that are read as buckets. -/
theorem exists_decodeAll_iff (hcanonical : body.Canonical) :
    (∃ buckets, body.decode decodeAll = some buckets) ↔
      ∃ items, ListsBuckets body items ∧ ∀ item ∈ items,
        ∃ (members : StringMap Json) (bucket : Bucket),
          item = .ofMap members ∧ bucket.Reads members := by
  have hitems {items : List Json} (hlists : ListsBuckets body items) :
      (∃ buckets, body.decode decodeAll = some buckets) ↔ ∀ item ∈ items,
        ∃ (members : StringMap Json) (bucket : Bucket),
          item = .ofMap members ∧ bucket.Reads members := by
    rw [decodeAll_of_lists hlists hcanonical, exists_mapM_eq_some_iff]
    apply forall₂_congr
    intro item hitem
    rw [exists_comm]
    exact exists_congr fun bucket ↦ decode_iff_reads (hlists.canonical_of_mem hcanonical hitem)
  constructor
  · rintro ⟨buckets, hbuckets⟩
    obtain ⟨items, hlists⟩ := exists_lists_of_decodeAll hbuckets hcanonical
    exact ⟨items, hlists, (hitems hlists).mp ⟨buckets, hbuckets⟩⟩
  · rintro ⟨items, hlists, hall⟩
    exact (hitems hlists).mpr hall

end Items

end Bucket

/-! ## Counts and statistics -/

theorem decodeDocCount_eq_some_iff {body : Json} (hcanonical : body.Canonical) {count : UInt64} :
    body.decode decodeDocCount = some count ↔
      GivesFields ["doc_count"] body [some (.nat count.toNat)] := by
  rw [Json.decode, decodeDocCount, Option.bind_eq_bind, Option.bind_eq_some_iff]
  change (∃ values, (RawJson.ofJson body).record (["doc_count"].map Field.required) = some values ∧
    _) ↔ _
  simp only [RawJson.record_eq_some_iff hcanonical]
  constructor
  · rintro ⟨_, ⟨found, hfound, rfl⟩, hcount⟩
    split at hcount
    · next hvalues =>
      obtain ⟨value, rfl, rfl⟩ := List.map_eq_singleton_iff.mp hvalues
      rwa [RawJson.needed_uint64_eq_some_iff.mp hcount] at hfound
    · cases hcount
  · intro hgiven
    exact ⟨_, ⟨_, hgiven, rfl⟩, RawJson.needed_uint64_eq_some_iff.mpr rfl⟩

/-- The statistics say what the fields of a body say. -/
def Stats.Reads (body : Json) (stats : Stats) : Prop :=
  ∃ min max avg sum,
    GivesFields ["count", "min", "max", "avg", "sum"] body
      [some (.nat stats.count.toNat), min, max, avg, sum] ∧
    ReadsOptional Json.number? min stats.min ∧ ReadsOptional Json.number? max stats.max ∧
    ReadsOptional Json.number? avg stats.avg ∧ ReadsOptional Json.number? sum stats.sum

theorem Stats.decode_eq_some_iff {body : Json} (hcanonical : body.Canonical) {stats : Stats} :
    body.decode decode = some stats ↔ stats.Reads body := by
  have hoptional {found : Option Json} {value : Option Binary64} :
      RawJson.optional RawJson.binary64 (found.map RawJson.ofJson) = some value ↔
        ReadsOptional Json.number? found value :=
    RawJson.optional_eq_some_iff RawJson.binary64_ofJson
  rw [Json.decode, decode, Option.bind_eq_bind, Option.bind_eq_some_iff]
  change (∃ values, (RawJson.ofJson body).record
    (["count", "min", "max", "avg", "sum"].map Field.required) = some values ∧ _) ↔ _
  simp only [RawJson.record_eq_some_iff hcanonical]
  constructor
  · rintro ⟨_, ⟨found, hfound, rfl⟩, hstats⟩
    split at hstats
    · next hvalues =>
      simp only [List.map_eq_cons_iff, List.map_eq_nil_iff] at hvalues
      obtain ⟨count, _, rfl, rfl, min, _, rfl, rfl, max, _, rfl, rfl, avg, _, rfl, rfl, sum, _,
        rfl, rfl, rfl⟩ := hvalues
      simp only [Option.bind_eq_bind, Option.bind_eq_some_iff, Option.some.injEq, hoptional,
        RawJson.needed_uint64_eq_some_iff] at hstats
      obtain ⟨_, rfl, _, hmin, _, hmax, _, havg, _, hsum, rfl⟩ := hstats
      exact ⟨min, max, avg, sum, hfound, hmin, hmax, havg, hsum⟩
    · cases hstats
  · rintro ⟨min, max, avg, sum, hgiven, hmin, hmax, havg, hsum⟩
    refine ⟨_, ⟨_, hgiven, rfl⟩, ?_⟩
    simp only [List.map_cons, List.map_nil, Option.bind_eq_bind, Option.bind_eq_some_iff,
      Option.some.injEq, hoptional, RawJson.needed_uint64_eq_some_iff]
    exact ⟨_, rfl, _, hmin, _, hmax, _, havg, _, hsum, rfl⟩

/-! ## Responses -/

theorem RawJson.canonical_of_stringMap {raw : RawJson} {map : StringMap Json}
    (h : raw.stringMap toJson? = some map) : Json.CanonicalMembers map.entries := by
  obtain ⟨entries, hentries, rfl⟩ := Option.map_eq_some_iff.mp h
  cases raw with
  | obj members =>
    rw [Json.canonicalMembers_iff]
    intro entry hentry
    obtain ⟨⟨name?, value⟩, -, hvalue⟩ :=
      (mem_iff_of_mapM hentries).mp (Entries.mem_sorted hentry)
    simp only [Option.bind_eq_bind, Option.bind_eq_some_iff, Option.some.injEq] at hvalue
    obtain ⟨name, -, json, hjson, rfl⟩ := hvalue
    exact canonical_of_toJson? value hjson
  | null | bool _ | num _ | str _ | arr _ | unreadable => cases hentries

theorem SearchResponse.canonical_of_decode {raw : RawJson} {response : SearchResponse}
    (h : decode raw = some response) : Json.CanonicalMembers response.aggregations.entries := by
  simp only [decode, Option.bind_eq_bind, Option.bind_eq_some_iff] at h
  obtain ⟨fields, -, h⟩ := h
  split at h
  · next took timedOut hits aggregations =>
    simp only [Option.bind_eq_some_iff, Option.some.injEq] at h
    obtain ⟨_, -, _, -, _, -, map, hmap, rfl⟩ := h
    cases aggregations with
    | none =>
      cases hmap
      exact trivial
    | some aggregations => exact RawJson.canonical_of_stringMap hmap
  · cases h

namespace ErrorResponse

theorem canonical_of_decode {raw : RawJson} {response : ErrorResponse}
    (h : decode raw = some response) : response.error.Canonical := by
  simp only [decode, Option.bind_eq_bind, Option.bind_eq_some_iff] at h
  obtain ⟨fields, -, h⟩ := h
  split at h
  · simp only [RawJson.needed, Option.bind_eq_some_iff, Option.some.injEq] at h
    obtain ⟨error, ⟨value, -, herror⟩, _, -, rfl⟩ := h
    exact RawJson.canonical_of_toJson? value herror
  · cases h

theorem errorType_eq_some_iff {response : ErrorResponse} (hcanonical : response.error.Canonical)
    {name : String} :
    response.errorType = some name ↔
      ∃ members, response.error = .obj members ∧ ("type", .str name) ∈ members := by
  simp only [errorType, Option.bind_eq_some_iff, Json.member?_eq_some_iff hcanonical,
    Json.str?_eq_some_iff, exists_eq_right]

end ErrorResponse

end FacetSearch
