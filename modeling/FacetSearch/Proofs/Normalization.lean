import FacetSearch.Results
import FacetSearch.Proofs.ResponseDecoding
import Mathlib.Data.List.TakeWhile

/-!
# Normalization without bounds

A typed key is a text of a recognized kind, a `#` and a name. The members of an object are
normalized by their own values and by the members of the buckets among them, which are nested less
deep, so that the bound on the depth never counts: `normalizeAggregations_eq` says what
normalization is in terms of itself, and `below_induction` is the induction that goes with it.
-/

namespace FacetSearch

/-! ## Typed keys -/

/-- The texts that stand for a kind. -/
def TypedKind.texts : TypedKind → List String
  | .global => ["global"]
  | .terms => ["sterms", "lterms", "dterms", "umterms", "multi_terms"]
  | .stats => ["stats"]
  | .range => ["range", "date_range"]

/-- The key is a text of the kind, a `#`, which is the first since no such text has one, and the
name. -/
def TypedKey (key : String) (kind : TypedKind) (name : String) : Prop :=
  ∃ text ∈ kind.texts, key = text ++ "#" ++ name

/-- The key has no `#`, or no recognized kind before the first one. -/
def Unrecognized (key : String) : Prop := ∀ kind name, ¬TypedKey key kind name

theorem splitTypedKey_eq_some_iff {key text name : String} :
    splitTypedKey key = some (text, name) ↔ key = text ++ "#" ++ name ∧ '#' ∉ text.toList := by
  have hkey : key = text ++ "#" ++ name ↔ key.toList = text.toList ++ '#' :: name.toList := by
    rw [← String.toList_inj]
    simp [String.toList_append]
  rw [hkey, splitTypedKey]
  constructor
  · intro hsplit
    split at hsplit
    · next rest hrest =>
      simp only [Option.some.injEq, Prod.mk.injEq] at hsplit
      obtain ⟨rfl, rfl⟩ := hsplit
      rw [String.toList_ofList, String.toList_ofList, ← hrest, List.takeWhile_append_dropWhile]
      refine ⟨rfl, fun hmem ↦ ?_⟩
      have hne := List.mem_takeWhile_imp hmem
      simp at hne
    · cases hsplit
  · rintro ⟨hlist, hnone⟩
    have hall : ∀ c ∈ text.toList, decide (c ≠ '#') = true := by
      intro c hc
      exact decide_eq_true fun heq ↦ hnone (heq ▸ hc)
    rw [hlist, List.dropWhile_append_of_pos hall, List.takeWhile_append_of_pos hall]
    simp [String.ofList_toList]

theorem TypedKind.ofText?_eq_some_iff {text : String} {kind : TypedKind} :
    TypedKind.ofText? text = some kind ↔ text ∈ kind.texts := by
  unfold ofText?
  constructor
  · intro h
    split_ifs at h with hglobal hterms hstats hrange <;> cases h
    · exact List.mem_singleton.mpr hglobal
    · exact List.contains_iff_mem.mp hterms
    · exact List.mem_singleton.mpr hstats
    · exact List.contains_iff_mem.mp hrange
  · intro h
    cases kind <;> simp only [texts, List.mem_cons, List.not_mem_nil, or_false] at h
    · rw [h]
      rfl
    · rcases h with rfl | rfl | rfl | rfl | rfl <;> rfl
    · rw [h]
      rfl
    · rcases h with rfl | rfl <;> rfl

theorem TypedKind.no_hash {kind : TypedKind} {text : String} (h : text ∈ kind.texts) :
    '#' ∉ text.toList := by
  have hall : ∀ other ∈ kind.texts, '#' ∉ other.toList := by
    cases kind <;> decide
  exact hall text h

theorem recognize_eq_some_iff {key : String} {kind : TypedKind} {name : String} :
    recognize key = some (kind, name) ↔ TypedKey key kind name := by
  simp only [recognize, Option.bind_eq_bind, Option.bind_eq_some_iff, Prod.exists,
    splitTypedKey_eq_some_iff, TypedKind.ofText?_eq_some_iff, Option.some.injEq, Prod.mk.injEq]
  constructor
  · rintro ⟨text, _, ⟨hkey, -⟩, _, htext, rfl, rfl⟩
    exact ⟨text, htext, hkey⟩
  · rintro ⟨text, htext, hkey⟩
    exact ⟨text, name, ⟨hkey, TypedKind.no_hash htext⟩, kind, htext, rfl, rfl⟩

theorem recognize_eq_none_iff {key : String} : recognize key = none ↔ Unrecognized key := by
  rw [Option.eq_none_iff_forall_ne_some, Prod.forall]
  exact forall₂_congr fun kind name ↦ not_congr recognize_eq_some_iff

theorem TypedKey.unique {key name other : String} {kind otherKind : TypedKind}
    (h : TypedKey key kind name) (hother : TypedKey key otherKind other) :
    kind = otherKind ∧ name = other := by
  have hsame : some (kind, name) = some (otherKind, other) :=
    (recognize_eq_some_iff.mpr h).symm.trans (recognize_eq_some_iff.mpr hother)
  simpa using hsame

theorem unrecognized_of_mem_ownNames {name : String} (h : name ∈ Bucket.ownNames) :
    Unrecognized name := by
  have hall : ∀ own ∈ Bucket.ownNames, recognize own = none := by decide
  exact recognize_eq_none_iff.mp (hall name h)

/-! ## Members below members -/

/-- The members of a bucket of a body among the given members. -/
def Below (members others : List (String × Json)) : Prop :=
  ∃ member ∈ members, ∃ buckets, member.2.decode Bucket.decodeAll = some buckets ∧
    ∃ bucket ∈ buckets, others = bucket.others.entries

theorem depth_lt_of_below {members others : List (String × Json)} (h : Below members others) :
    RawJson.depthMembers (RawJson.ofJsonMembers others) <
      RawJson.depthMembers (RawJson.ofJsonMembers members) := by
  obtain ⟨member, hmember, buckets, hbuckets, bucket, hbucket, rfl⟩ := h
  have hbody : (some member.1, RawJson.ofJson member.2) ∈ RawJson.ofJsonMembers members := by
    rw [RawJson.ofJsonMembers_eq_map]
    exact List.mem_map.mpr ⟨member, hmember, rfl⟩
  calc
    _ < (RawJson.ofJson member.2).depth := Bucket.depth_others_lt_of_decodeAll hbuckets hbucket
    _ ≤ _ := RawJson.depth_le_depthMembers hbody

/-- What holds of members when it holds of all members below them holds of all members. -/
theorem below_induction {motive : List (String × Json) → Prop}
    (step : ∀ members, (∀ others, Below members others → motive others) → motive members)
    (members : List (String × Json)) : motive members := by
  induction hdepth : RawJson.depthMembers (RawJson.ofJsonMembers members) using
    Nat.strong_induction_on generalizing members with
  | h depth ih =>
    apply step
    intro others hothers
    exact ih _ (hdepth ▸ depth_lt_of_below hothers) others rfl

/-! ## Normalization in terms of itself -/

section Equations

variable {f g : List (String × Json) → Option NamedValues}

theorem bodyValue_congr {body : Json}
    (h : ∀ buckets, body.decode Bucket.decodeAll = some buckets →
      ∀ bucket ∈ buckets, f bucket.others.entries = g bucket.others.entries) (kind : TypedKind) :
    bodyValue f body kind = bodyValue g body kind := by
  cases kind with
  | global | stats => rfl
  | terms | range =>
    simp only [bodyValue]
    cases hbuckets : body.decode Bucket.decodeAll with
    | none => rfl
    | some buckets =>
      simp only [Option.bind_eq_bind, Option.bind_some]
      congr 1
      apply mapM_congr
      intro bucket hbucket
      rw [h buckets hbuckets bucket hbucket]

theorem memberValue_congr {members : List (String × Json)}
    (h : ∀ others, Below members others → f others = g others) {member : String × Json}
    (hmember : member ∈ members) : memberValue f member = memberValue g member := by
  unfold memberValue
  split
  · rfl
  · next kind name _ =>
    have hbody : bodyValue f member.2 kind = bodyValue g member.2 kind := by
      apply bodyValue_congr
      intro buckets hbuckets bucket hbucket
      exact h _ ⟨member, hmember, buckets, hbuckets, bucket, hbucket, rfl⟩
    rw [hbody]

end Equations

/-- Any two bounds beyond the depth of the members are as good. -/
theorem normalizeWithin_eq_of_lt {members : List (String × Json)} {bound other : Nat}
    (hbound : RawJson.depthMembers (RawJson.ofJsonMembers members) < bound)
    (hother : RawJson.depthMembers (RawJson.ofJsonMembers members) < other) :
    normalizeWithin bound members = normalizeWithin other members := by
  induction members using below_induction generalizing bound other with
  | step members ih =>
    obtain ⟨bound, rfl⟩ := Nat.exists_eq_add_one_of_ne_zero hbound.ne_bot
    obtain ⟨other, rfl⟩ := Nat.exists_eq_add_one_of_ne_zero hother.ne_bot
    simp only [normalizeWithin]
    congr 1
    apply mapM_congr
    intro member hmember
    apply memberValue_congr _ hmember
    intro others hothers
    have hless := depth_lt_of_below hothers
    exact ih others hothers (by omega) (by omega)

/-- The named values of members are those of each member, in order, where the members of buckets are
normalized in the same way. -/
theorem normalizeAggregations_eq (members : List (String × Json)) :
    normalizeAggregations members =
      (members.mapM (memberValue normalizeAggregations)).map fun values ↦ values.filterMap id := by
  change normalizeWithin (RawJson.depthMembers (RawJson.ofJsonMembers members) + 1) members = _
  rw [normalizeWithin]
  congr 1
  apply mapM_congr
  intro member hmember
  apply memberValue_congr _ hmember
  intro others hothers
  exact normalizeWithin_eq_of_lt (depth_lt_of_below hothers) (Nat.lt_succ_self _)

theorem normalizeAggregations_nil : normalizeAggregations [] = some [] := rfl

theorem normalizeAggregations_cons (member : String × Json) (rest : List (String × Json)) :
    normalizeAggregations (member :: rest) =
      (memberValue normalizeAggregations member).bind fun value? ↦
        (normalizeAggregations rest).map (value?.toList ++ ·) := by
  rw [normalizeAggregations_eq, normalizeAggregations_eq rest, List.mapM_cons]
  cases memberValue normalizeAggregations member with
  | none => rfl
  | some value? =>
    cases hrest : rest.mapM (memberValue normalizeAggregations) with
    | none => rfl
    | some values => cases value? <;> rfl

/-- A member that is not recognized is passed over. -/
theorem normalizeAggregations_unrecognized {key : String} (hkey : Unrecognized key) (body : Json)
    (rest : List (String × Json)) :
    normalizeAggregations ((key, body) :: rest) = normalizeAggregations rest := by
  have hnone : recognize key = none := recognize_eq_none_iff.mpr hkey
  rw [normalizeAggregations_cons, memberValue, hnone]
  cases normalizeAggregations rest <;> rfl

/-- A recognized member comes first if its body has a value. -/
theorem normalizeAggregations_typed {key name : String} {kind : TypedKind}
    (hkey : TypedKey key kind name) (body : Json) (rest : List (String × Json)) :
    normalizeAggregations ((key, body) :: rest) =
      (bodyValue normalizeAggregations body kind).bind fun value ↦
        (normalizeAggregations rest).map ((name, value) :: ·) := by
  have hsome : recognize key = some (kind, name) := recognize_eq_some_iff.mpr hkey
  have hmember : memberValue normalizeAggregations (key, body) =
      (bodyValue normalizeAggregations body kind).map fun value ↦ some (name, value) := by
    simp only [memberValue, hsome]
  rw [normalizeAggregations_cons, hmember]
  cases bodyValue normalizeAggregations body kind <;> rfl

/-- Members that are not recognized may be left out. -/
theorem normalizeAggregations_filter {keep : String × Json → Bool} {members : List (String × Json)}
    (h : ∀ member ∈ members, keep member = false → Unrecognized member.1) :
    normalizeAggregations (members.filter keep) = normalizeAggregations members := by
  induction members with
  | nil => rfl
  | cons member rest ih =>
    have hrest := ih fun other hother ↦ h other (List.mem_cons_of_mem _ hother)
    cases hkeep : keep member with
    | true =>
      rw [List.filter_cons_of_pos hkeep, normalizeAggregations_cons, hrest,
        ← normalizeAggregations_cons]
    | false =>
      have hkey : Unrecognized member.1 := h member List.mem_cons_self hkeep
      rw [List.filter_cons_of_neg (by simp [hkeep]), hrest]
      exact (normalizeAggregations_unrecognized hkey member.2 rest).symm

end FacetSearch
