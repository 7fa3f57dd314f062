import FacetSearch.Proofs.ResponseDecoding

/-!
# Records that are read back

A record is written as an object of those of its members that are present. Read with fields of the
same names it gives back the members in their order, wherever they stand in the object, so a value
is read back once each of its members is. `RawJson.record_of_hasMembers` says so for records, and
`RawJson.Restores` is what the decoder of a member has to satisfy for the values that occur.
-/

namespace FacetSearch

/-! ## The members of a record -/

namespace Json

/-- The members that are present. -/
def present (members : List (String × Option Json)) : List (String × Json) :=
  members.filterMap fun member ↦ member.2.map fun value ↦ (member.1, value)

/-- The value is an object of those of the members that are present. -/
inductive HasMembers (members : List (String × Option Json)) : Json → Prop
  | obj {written : List (String × Json)} :
    written.Perm (present members) → HasMembers members (.obj written)

theorem present_filter (keeps : String → Bool) (members : List (String × Option Json)) :
    (present members).filter (fun member ↦ keeps member.1) =
      present (members.filter fun member ↦ keeps member.1) := by
  rw [present, present, List.filter_filterMap, List.filterMap_filter]
  congr 1
  funext ⟨name, value?⟩
  cases value? with
  | none => simp
  | some value => cases hkeeps : keeps name <;> simp [hkeeps]

theorem keys_present_sublist (members : List (String × Option Json)) :
    (Entries.keys (present members)).Sublist (members.map Prod.fst) := by
  induction members with
  | nil => exact .slnil
  | cons member rest ih =>
    obtain ⟨name, value?⟩ := member
    cases value? with
    | none => exact ih.cons name
    | some value => exact ih.cons_cons name

theorem get?_present {members : List (String × Option Json)}
    (hnames : (members.map Prod.fst).Nodup) (name : String) :
    Entries.get? (present members) name = (Entries.get? members name).join := by
  induction members with
  | nil => rfl
  | cons member rest ih =>
    obtain ⟨hfirst, hrest⟩ := List.nodup_cons.mp hnames
    obtain ⟨first, value?⟩ := member
    have hnone : first ∉ Entries.keys (present rest) :=
      fun hmem ↦ hfirst ((keys_present_sublist rest).mem hmem)
    by_cases hname : first = name
    · subst hname
      cases value? with
      | none => simpa [present, Entries.get?] using Entries.get?_eq_none_iff.mpr hnone
      | some value => simp [present, Entries.get?]
    · rw [Entries.get?, if_neg hname, ← ih hrest]
      cases value? <;> simp [present, Entries.get?, hname]

theorem hasMembers_ofMembers {members : List (String × Option Json)}
    {written : List (String × Json)} (hnames : (members.map Prod.fst).Nodup)
    (hwritten : written.Perm (present members)) :
    HasMembers members (.ofMembers written) := by
  have hkeys : (Entries.keys written).Nodup :=
    (hwritten.map Prod.fst).nodup_iff.mpr (hnames.sublist (keys_present_sublist members))
  exact .obj ((Entries.sorted_perm hkeys).trans hwritten)

theorem hasMembers_record {members : List (String × Option Json)}
    (hnames : (members.map Prod.fst).Nodup) : HasMembers members (record members) :=
  hasMembers_ofMembers hnames (.refl _)

theorem canonicalMembers_present {members : List (String × Option Json)}
    (h : ∀ value, some value ∈ members.map Prod.snd → value.Canonical) :
    CanonicalMembers (present members) := by
  rw [canonicalMembers_iff]
  intro entry hentry
  obtain ⟨⟨name, value?⟩, hmember, hvalue⟩ := List.mem_filterMap.mp hentry
  obtain ⟨value, rfl, rfl⟩ := Option.map_eq_some_iff.mp hvalue
  exact h value (List.mem_map_of_mem hmember)

theorem canonical_record {members : List (String × Option Json)}
    (h : ∀ value, some value ∈ members.map Prod.snd → value.Canonical) :
    (record members).Canonical :=
  canonical_ofMembers (canonicalMembers_present h)

theorem canonical_strings (strings : List String) : (Json.strings strings).Canonical := by
  apply canonicalElements_iff.mpr
  intro element helement
  obtain ⟨s, -, rfl⟩ := List.mem_map.mp helement
  trivial

end Json

namespace RawJson

open Json (present HasMembers)

/-- A field is the member that it alone names. -/
theorem uniqueMember_of_perm {written : List (String × Json)}
    {members : List (String × Option Json)} (hwritten : written.Perm (present members))
    {field : Field} {member : String × Option Json}
    (hfield : members.filter (fun member ↦ field.isNamed (some member.1)) = [member]) :
    uniqueMember (ofJsonMembers written) field = some (member.2.map ofJson) := by
  have hnamed : (written.filter fun member ↦ field.isNamed (some member.1)).Perm
      (present [member]) := by
    rw [← hfield, ← Json.present_filter fun name ↦ field.isNamed (some name)]
    exact hwritten.filter _
  rw [uniqueMember, ofJsonMembers_eq_map, List.filter_map]
  obtain ⟨name, value?⟩ := member
  cases value? with
  | none =>
    have hnone := List.Perm.eq_nil hnamed
    simp [Function.comp_def, hnone]
  | some value =>
    have hone := List.perm_singleton.mp hnamed
    simp [Function.comp_def, hone]

/-- The fields of a record are those of its members that they name, in the order of the fields. -/
theorem record_of_hasMembers {members found : List (String × Option Json)} {json : Json}
    (hmembers : HasMembers members json) {fields : List Field}
    (hfields : List.Forall₂ (fun field member ↦
      members.filter (fun member ↦ field.isNamed (some member.1)) = [member]) fields found) :
    (ofJson json).record fields = some (found.map fun member ↦ member.2.map ofJson) := by
  cases hmembers with
  | @obj written hwritten =>
    have hnamed : (ofJsonMembers written).all fun member ↦ member.1.isSome := by
      simp [ofJsonMembers_eq_map]
    rw [ofJson, record, memberFields, if_pos hnamed, mapM_eq_some_iff, List.forall₂_map_right_iff]
    exact hfields.imp fun _ _ hfield ↦ uniqueMember_of_perm hwritten hfield

/-- A record is read back as its members, in their order. -/
theorem record_record {members : List (String × Option Json)} {fields : List Field}
    (hnames : (members.map Prod.fst).Nodup)
    (hfields : List.Forall₂ (fun field member ↦
      members.filter (fun member ↦ field.isNamed (some member.1)) = [member]) fields members) :
    (ofJson (Json.record members)).record fields =
      some (members.map fun member ↦ member.2.map ofJson) :=
  record_of_hasMembers (Json.hasMembers_record hnames) hfields

theorem depth_pos (raw : RawJson) : 0 < raw.depth := by
  cases raw <;> simp [depth]

theorem depth_lt_of_mem {members : List (String × Json)} {name : String} {value : Json}
    (hmember : (name, value) ∈ members) :
    (ofJson value).depth < (ofJson (.obj members)).depth := by
  have hraw : (some name, ofJson value) ∈ ofJsonMembers members := by
    rw [ofJsonMembers_eq_map]
    exact List.mem_map_of_mem hmember
  exact Nat.lt_succ_of_le (depth_le_depthMembers hraw)

/-- What a record holds is nested less deep than the record. -/
theorem depth_lt_of_hasMembers {members : List (String × Option Json)} {json : Json}
    (hmembers : HasMembers members json) {value : Json}
    (hvalue : some value ∈ members.map Prod.snd) : (ofJson value).depth < (ofJson json).depth := by
  cases hmembers with
  | obj hwritten =>
    obtain ⟨⟨name, _⟩, hmember, rfl⟩ := List.mem_map.mp hvalue
    have hpresent : (name, value) ∈ present members := List.mem_filterMap.mpr ⟨_, hmember, rfl⟩
    exact depth_lt_of_mem (hwritten.mem_iff.mpr hpresent)

/-! ## The values of members -/

section Fields

variable {α : Type} (read : RawJson → Option α) (raw : RawJson)

@[simp] theorem needed_some : needed read (some raw) = read raw := rfl

@[simp] theorem withDefault_some (default : α) : withDefault default read (some raw) = read raw :=
  rfl

end Fields

section Restores

variable {α : Type}

/-- What is written for the value is read as it. -/
def Restores (read : RawJson → Option α) (write : α → Json) (value : α) : Prop :=
  read (ofJson (write value)) = some value

variable {read : RawJson → Option α} {write : α → Json}

/-- An optional member is told from a null one since null is not read as a value. -/
theorem optional_restored (hnull : read .null = none) {value? : Option α}
    (hvalue : ∀ value ∈ value?, Restores read write value) :
    optional read ((value?.map write).map ofJson) = some value? := by
  cases value? with
  | none => rfl
  | some value =>
    have hread : read (ofJson (write value)) = some value := hvalue value rfl
    have hsome : ofJson (write value) ≠ .null := by
      intro heq
      rw [heq, hnull] at hread
      cases hread
    simp [optional, hread]

theorem optional_orNull_restored (hnull : read .null = none) {value? : Option α}
    (hvalue : ∀ value ∈ value?, Restores read write value) :
    optional read (some (ofJson (.orNull (value?.map write)))) = some value? := by
  cases value? with
  | none => rfl
  | some value => exact optional_restored hnull hvalue

theorem list_restored {values : List α} (hvalues : ∀ value ∈ values, Restores read write value) :
    list read (ofJson (.arr (values.map write))) = some values := by
  rw [ofJson, list, ofJsonElements_eq_map, List.map_map, mapM_eq_some_iff,
    List.forall₂_map_left_iff, List.forall₂_same]
  exact hvalues

/-- A list that is left out when it is empty has the empty list for its default. -/
theorem withDefault_unlessEmpty {values : List α} {elements : List Json}
    (helements : list read (ofJson (.arr elements)) = some values) :
    withDefault [] (list read)
      ((if values.isEmpty then none else some (Json.arr elements)).map ofJson) = some values := by
  cases values with
  | nil => rfl
  | cons value rest => exact helements

theorem entries_eq_some_iff {written : List (String × Json)} {values : List (String × α)} :
    entries read (ofJson (.obj written)) = some values ↔
      List.Forall₂ (fun member value ↦ member.1 = value.1 ∧ read (ofJson member.2) = some value.2)
        written values := by
  rw [ofJson, entries, ofJsonMembers_eq_map, mapM_eq_some_iff, List.forall₂_map_left_iff]
  apply iff_of_eq
  congr 1
  funext ⟨name, json⟩ ⟨key, value⟩
  simp [Option.bind_eq_some_iff, and_comm]

theorem stringMap_restored {map : StringMap α}
    (hvalues : ∀ entry ∈ map.entries, Restores read write entry.2) :
    stringMap read (ofJson (.ofMap (map.map write))) = some map := by
  have hentries : entries read (ofJson (.ofMap (map.map write))) = some map.entries := by
    rw [Json.ofMap, entries_eq_some_iff]
    change List.Forall₂ _ (map.entries.map fun entry ↦ (entry.1, write entry.2)) map.entries
    rw [List.forall₂_map_left_iff, List.forall₂_same]
    exact fun entry hentry ↦ ⟨rfl, hvalues entry hentry⟩
  rw [stringMap, hentries, Option.map_some, StringMap.ofList_entries]

theorem stringMap_toJson?_restored {map : StringMap Json}
    (hcanonical : Json.CanonicalMembers map.entries) :
    stringMap toJson? (ofJson (.ofMap map)) = some map := by
  have hentries : entries toJson? (ofJson (.ofMap map)) = some map.entries := by
    rw [Json.ofMap, entries_eq_some_iff, List.forall₂_same]
    intro entry hentry
    exact ⟨rfl, toJson?_ofJson _ (Json.canonicalMembers_iff.mp hcanonical entry hentry)⟩
  rw [stringMap, hentries, Option.map_some, StringMap.ofList_entries]

/-- A map that is left out when it is empty has the empty map for its default. -/
theorem withDefault_unlessEmptyMap {map : StringMap Json}
    (hcanonical : Json.CanonicalMembers map.entries) :
    withDefault ∅ (stringMap toJson?)
      ((if map.isEmpty then none else some (Json.ofMap map)).map ofJson) = some map := by
  cases hempty : map.isEmpty with
  | true =>
    have hentries : map.entries = [] := List.isEmpty_iff.mp hempty
    have hmap : map = ∅ := by
      obtain ⟨entries, hascending⟩ := map
      subst hentries
      rfl
    subst hmap
    rfl
  | false => exact stringMap_toJson?_restored hcanonical

theorem list_toJson?_ofJson {elements : List Json} (h : Json.CanonicalElements elements) :
    list toJson? (ofJson (.arr elements)) = some elements := by
  rw [ofJson, list, ofJsonElements_eq_map, mapM_eq_some_iff, List.forall₂_map_left_iff,
    List.forall₂_same]
  exact fun element hmem ↦ toJson?_ofJson element (Json.canonicalElements_iff.mp h element hmem)

end Restores

/-! ## Texts, truth values and numbers -/

theorem string_restored (s : String) : Restores string .str s := rfl

theorem strings_restored (texts : List String) : Restores strings .strings texts :=
  list_restored fun s _ ↦ string_restored s

theorem stringSet_restored (set : StringSet) :
    Restores stringSet (fun set ↦ .strings set.toList) set := by
  have hset : StringSet.ofList set.toList = set := by
    obtain ⟨texts, hascending⟩ := set
    have hentries : Entries.Ascending (texts.map fun s ↦ (s, ())) :=
      List.pairwise_map.mpr hascending
    simp [StringSet.ofList, hentries.sorted_eq, Entries.keys, Function.comp_def]
  rw [Restores, stringSet, strings_restored, Option.map_some, hset]

theorem uint64_restored (n : UInt64) : Restores uint64 (fun n ↦ .nat n.toNat) n :=
  uint64_ofJson_eq_some_iff.mpr rfl

theorem uint16_restored (n : UInt16) : Restores uint16 (fun n ↦ .nat n.toNat) n := by
  have hless : n.toNat < 65536 := n.toNat_lt
  simpa [Restores, uint16, Json.nat, ofJson, natBelow] using hless

theorem binary64_restored (x : Binary64) : Restores binary64 .float x := rfl

@[simp] theorem string_ofJson_str (s : String) : string (ofJson (.str s)) = some s := rfl

@[simp] theorem boolean_ofJson_bool (b : Bool) : boolean (ofJson (.bool b)) = some b := rfl

@[simp] theorem uint64_ofJson_nat (n : UInt64) : uint64 (ofJson (.nat n.toNat)) = some n :=
  uint64_ofJson_eq_some_iff.mpr rfl

@[simp] theorem uint16_ofJson_nat (n : UInt16) : uint16 (ofJson (.nat n.toNat)) = some n :=
  uint16_restored n

theorem isReadable_ofJson {json : Json} (hcanonical : json.Canonical) :
    (ofJson json).isReadable = true := by
  rw [isReadable, toJson?_ofJson json hcanonical, Option.isSome_some]

end RawJson

end FacetSearch
