import FacetSearch.Json.Decode
import FacetSearch.Proofs.StringMapOrder

/-!
# Values and the texts that write them

A value that was read from a text has its members in order, and such a value is read back from the
text that writes it. Reading nests no value deeper than its text is.
-/

namespace FacetSearch

/-! ## Reading back what is written -/

namespace RawJson

theorem ofJsonElements_eq_map (elements : List Json) :
    ofJsonElements elements = elements.map ofJson := by
  induction elements with
  | nil => rfl
  | cons element rest ih => rw [ofJsonElements, ih, List.map_cons]

theorem ofJsonMembers_eq_map (members : List (String × Json)) :
    ofJsonMembers members = members.map fun member ↦ (some member.1, ofJson member.2) := by
  induction members with
  | nil => rfl
  | cons member rest ih => rw [ofJsonMembers, ih, List.map_cons]

end RawJson

namespace Json

theorem canonicalElements_iff {elements : List Json} :
    CanonicalElements elements ↔ ∀ element ∈ elements, Canonical element := by
  induction elements with
  | nil => simp [CanonicalElements]
  | cons element rest ih => rw [CanonicalElements, ih, List.forall_mem_cons]

theorem canonicalMembers_iff {members : List (String × Json)} :
    CanonicalMembers members ↔ ∀ member ∈ members, Canonical member.2 := by
  induction members with
  | nil => simp [CanonicalMembers]
  | cons member rest ih => rw [CanonicalMembers, ih, List.forall_mem_cons]

theorem canonicalMembers_entries_iff {members : StringMap Json} :
    CanonicalMembers members.entries ↔
      ∀ key value, members.get? key = some value → Canonical value := by
  rw [canonicalMembers_iff, Prod.forall]
  simp only [StringMap.get?, Entries.get?_eq_some_iff members.ascending]

theorem canonicalMembers_insert {members : StringMap Json} (h : CanonicalMembers members.entries)
    {value : Json} (hvalue : Canonical value) {key : String} :
    CanonicalMembers (members.insert key value).entries := by
  rw [canonicalMembers_iff] at h ⊢
  intro member hmember
  rcases Entries.mem_insert hmember with rfl | hmember
  · exact hvalue
  · exact h member hmember

theorem canonical_ofMap_iff {members : StringMap Json} :
    (ofMap members).Canonical ↔ CanonicalMembers members.entries :=
  and_iff_right members.ascending

theorem canonical_ofMembers {members : List (String × Json)} (h : CanonicalMembers members) :
    Canonical (ofMembers members) := by
  refine ⟨Entries.ascending_sorted members, ?_⟩
  rw [canonicalMembers_iff] at h ⊢
  exact fun member hmember ↦ h member (Entries.mem_sorted hmember)

theorem Canonical.of_mem {members : List (String × Json)} (h : (obj members).Canonical)
    {name : String} {value : Json} (hmember : (name, value) ∈ members) : value.Canonical :=
  canonicalMembers_iff.mp h.2 (name, value) hmember

/-- What is found in a canonical value is a member of it. -/
theorem member?_eq_some_iff {json : Json} (h : json.Canonical) {name : String} {value : Json} :
    json.member? name = some value ↔ ∃ members, json = obj members ∧ (name, value) ∈ members := by
  cases json with
  | obj members =>
    rw [member?, Entries.get?_eq_some_iff h.1]
    constructor
    · exact fun hmember ↦ ⟨members, rfl, hmember⟩
    · rintro ⟨_, hsame, hmember⟩
      rwa [obj.inj hsame]
  | null | bool _ | num _ | str _ | arr _ => simp [member?]

theorem str?_eq_some_iff {json : Json} {s : String} : json.str? = some s ↔ json = str s := by
  cases json <;> simp [str?]

end Json

namespace RawJson

mutual

/-- A canonical value is read back from the text that writes it. -/
theorem toJson?_ofJson : (json : Json) → json.Canonical → (ofJson json).toJson? = some json
  | .null, _ | .bool _, _ | .num _, _ | .str _, _ => rfl
  | .arr elements, h => by
    rw [ofJson, toJson?, toJsonElements?_ofJson elements h]
    rfl
  | .obj members, h => by
    obtain ⟨hascending, hmembers⟩ : Entries.Ascending members ∧ Json.CanonicalMembers members := h
    rw [ofJson, toJson?, toJsonMembers?_ofJson members hmembers, Option.map_some, Json.ofMembers,
      hascending.sorted_eq]

theorem toJsonElements?_ofJson : (elements : List Json) → Json.CanonicalElements elements →
    toJsonElements? (ofJsonElements elements) = some elements
  | [], _ => rfl
  | element :: rest, h => by
    obtain ⟨helement, hrest⟩ : element.Canonical ∧ Json.CanonicalElements rest := h
    rw [ofJsonElements, toJsonElements?, toJson?_ofJson element helement,
      toJsonElements?_ofJson rest hrest]
    rfl

theorem toJsonMembers?_ofJson : (members : List (String × Json)) → Json.CanonicalMembers members →
    toJsonMembers? (ofJsonMembers members) = some members
  | [], _ => rfl
  | (name, value) :: rest, h => by
    obtain ⟨hvalue, hrest⟩ : value.Canonical ∧ Json.CanonicalMembers rest := h
    rw [ofJsonMembers, toJsonMembers?, toJson?_ofJson value hvalue,
      toJsonMembers?_ofJson rest hrest]
    rfl

end

mutual

/-- A value that was read is canonical. -/
theorem canonical_of_toJson? :
    (raw : RawJson) → {json : Json} → raw.toJson? = some json → json.Canonical
  | .null, _, h | .bool _, _, h | .num _, _, h | .str _, _, h => by
    cases h
    trivial
  | .arr elements, _, h => by
    obtain ⟨values, hvalues, rfl⟩ := Option.map_eq_some_iff.mp h
    exact canonical_of_toJsonElements? elements hvalues
  | .obj members, _, h => by
    obtain ⟨values, hvalues, rfl⟩ := Option.map_eq_some_iff.mp h
    exact Json.canonical_ofMembers (canonical_of_toJsonMembers? members hvalues)

theorem canonical_of_toJsonElements? : (elements : List RawJson) → {values : List Json} →
    toJsonElements? elements = some values → Json.CanonicalElements values
  | [], _, h => by
    cases h
    trivial
  | element :: rest, _, h => by
    simp only [toJsonElements?, Option.bind_eq_bind, Option.bind_eq_some_iff,
      Option.some.injEq] at h
    obtain ⟨value, hvalue, values, hvalues, rfl⟩ := h
    exact ⟨canonical_of_toJson? element hvalue, canonical_of_toJsonElements? rest hvalues⟩

theorem canonical_of_toJsonMembers? : (members : List (Option String × RawJson)) →
    {values : List (String × Json)} → toJsonMembers? members = some values →
      Json.CanonicalMembers values
  | [], _, h => by
    cases h
    trivial
  | (name?, element) :: rest, _, h => by
    simp only [toJsonMembers?, Option.bind_eq_bind, Option.bind_eq_some_iff,
      Option.some.injEq] at h
    obtain ⟨name, -, value, hvalue, values, hvalues, rfl⟩ := h
    exact ⟨canonical_of_toJson? element hvalue, canonical_of_toJsonMembers? rest hvalues⟩

end

/-! ## Depth -/

theorem depthMembers_le_iff {members : List (Option String × RawJson)} {bound : Nat} :
    depthMembers members ≤ bound ↔ ∀ member ∈ members, member.2.depth ≤ bound := by
  induction members with
  | nil => simp [depthMembers]
  | cons member rest ih => rw [depthMembers, max_le_iff, ih, List.forall_mem_cons]

theorem depthElements_le_iff {elements : List RawJson} {bound : Nat} :
    depthElements elements ≤ bound ↔ ∀ element ∈ elements, element.depth ≤ bound := by
  induction elements with
  | nil => simp [depthElements]
  | cons element rest ih => rw [depthElements, max_le_iff, ih, List.forall_mem_cons]

theorem depth_le_depthMembers {members : List (Option String × RawJson)}
    {member : Option String × RawJson} (h : member ∈ members) :
    member.2.depth ≤ depthMembers members := depthMembers_le_iff.mp le_rfl member h

theorem depth_le_depthElements {elements : List RawJson} {element : RawJson}
    (h : element ∈ elements) : element.depth ≤ depthElements elements :=
  depthElements_le_iff.mp le_rfl element h

theorem depthMembers_sorted_le (members : List (String × Json)) :
    depthMembers (ofJsonMembers (Entries.sorted members)) ≤
      depthMembers (ofJsonMembers members) := by
  simp only [ofJsonMembers_eq_map, depthMembers_le_iff, List.forall_mem_map]
  intro member hmember
  have hwritten : (some member.1, ofJson member.2) ∈
      members.map fun member ↦ (some member.1, ofJson member.2) :=
    List.mem_map.mpr ⟨member, Entries.mem_sorted hmember, rfl⟩
  exact depth_le_depthMembers hwritten

mutual

/-- Reading nests no value deeper than its text is. -/
theorem depth_of_toJson? :
    (raw : RawJson) → {json : Json} → raw.toJson? = some json → (ofJson json).depth ≤ raw.depth
  | .null, _, h | .bool _, _, h | .num _, _, h | .str _, _, h => by
    cases h
    exact le_rfl
  | .arr elements, _, h => by
    obtain ⟨values, hvalues, rfl⟩ := Option.map_eq_some_iff.mp h
    exact Nat.succ_le_succ (depth_of_toJsonElements? elements hvalues)
  | .obj members, _, h => by
    obtain ⟨values, hvalues, rfl⟩ := Option.map_eq_some_iff.mp h
    have hsorted := depthMembers_sorted_le values
    exact Nat.succ_le_succ (hsorted.trans (depth_of_toJsonMembers? members hvalues))

theorem depth_of_toJsonElements? : (elements : List RawJson) → {values : List Json} →
    toJsonElements? elements = some values →
      depthElements (ofJsonElements values) ≤ depthElements elements
  | [], _, h => by
    cases h
    exact le_rfl
  | element :: rest, _, h => by
    simp only [toJsonElements?, Option.bind_eq_bind, Option.bind_eq_some_iff,
      Option.some.injEq] at h
    obtain ⟨value, hvalue, values, hvalues, rfl⟩ := h
    exact max_le_max (depth_of_toJson? element hvalue) (depth_of_toJsonElements? rest hvalues)

theorem depth_of_toJsonMembers? : (members : List (Option String × RawJson)) →
    {values : List (String × Json)} → toJsonMembers? members = some values →
      depthMembers (ofJsonMembers values) ≤ depthMembers members
  | [], _, h => by
    cases h
    exact le_rfl
  | (name?, element) :: rest, _, h => by
    simp only [toJsonMembers?, Option.bind_eq_bind, Option.bind_eq_some_iff,
      Option.some.injEq] at h
    obtain ⟨name, -, value, hvalue, values, hvalues, rfl⟩ := h
    exact max_le_max (depth_of_toJson? element hvalue) (depth_of_toJsonMembers? rest hvalues)

end

end RawJson

end FacetSearch
