import FacetSearch.Proofs.Normalization

/-!
# When normalization succeeds

Normalization looks at the recognized entries, those among the members, those in the buckets of a
recognized entry that has buckets, and so on. It succeeds if each of them has a body of its kind,
and only then. `Reaches` and `TypedKind.Decodes` say so in terms of the members alone.
-/

namespace FacetSearch

/-! ## The specification -/

namespace TypedKind

/-- Whether bodies of the kind have buckets. -/
def hasBuckets : TypedKind → Bool
  | terms | range => true
  | global | stats => false

/-- The value is a body of the kind: it gives a count, or statistics, or it lists objects that can
all be read as buckets. -/
def Decodes (kind : TypedKind) (body : Json) : Prop :=
  match kind with
  | global => ∃ count : UInt64, GivesFields ["doc_count"] body [some (.nat count.toNat)]
  | stats => ∃ stats : Stats, stats.Reads body
  | terms | range =>
    ∃ items, ListsBuckets body items ∧ ∀ item ∈ items,
      ∃ (members : StringMap Json) (bucket : Bucket), item = .ofMap members ∧ bucket.Reads members

end TypedKind

/-- A recognized entry of that kind and with that body is among the members or, at any depth, in a
bucket of a recognized entry. -/
inductive Reaches : StringMap Json → TypedKind → Json → Prop
  | here {members : StringMap Json} {key name : String} {kind : TypedKind} {body : Json} :
    members.get? key = some body → TypedKey key kind name → Reaches members kind body
  | inBucket {members bucket : StringMap Json} {key name : String} {kind inner : TypedKind}
      {body value : Json} {items : List Json} :
    members.get? key = some body → TypedKey key kind name → kind.hasBuckets = true →
      ListsBuckets body items → .ofMap bucket ∈ items → Reaches bucket inner value →
        Reaches members inner value

/-! ## Values of bodies and members -/

theorem TypedKind.decodes_iff_of_hasBuckets {kind : TypedKind} (hkind : kind.hasBuckets = true)
    {body : Json} (hcanonical : body.Canonical) :
    kind.Decodes body ↔ ∃ buckets, body.decode Bucket.decodeAll = some buckets := by
  cases kind with
  | global | stats => cases hkind
  | terms | range => exact (Bucket.exists_decodeAll_iff hcanonical).symm

section Values

variable {below : List (String × Json) → Option NamedValues}

/-- A body has a value if it is of the kind and the members of its buckets have values. -/
theorem exists_bodyValue_iff {kind : TypedKind} {body : Json} (hcanonical : body.Canonical) :
    (∃ value, bodyValue below body kind = some value) ↔ kind.Decodes body ∧
      (kind.hasBuckets = true → ∀ buckets, body.decode Bucket.decodeAll = some buckets →
        ∀ bucket ∈ buckets, ∃ values, below bucket.others.entries = some values) := by
  cases kind with
  | global =>
    simp [bodyValue, TypedKind.Decodes, TypedKind.hasBuckets,
      ← decodeDocCount_eq_some_iff hcanonical]
  | stats =>
    simp [bodyValue, TypedKind.Decodes, TypedKind.hasBuckets, ← Stats.decode_eq_some_iff hcanonical]
  | terms | range =>
    rw [TypedKind.decodes_iff_of_hasBuckets rfl hcanonical]
    simp only [bodyValue, TypedKind.hasBuckets, forall_const]
    cases hbuckets : body.decode Bucket.decodeAll with
    | none => simp
    | some buckets =>
      simp only [Option.bind_eq_bind, Option.bind_some, Option.bind_eq_some_iff,
        Option.some.injEq, exists_eq', true_and, forall_eq']
      rw [exists_comm]
      simp only [exists_eq_right', exists_mapM_eq_some_iff]
      simp

/-- A member has a value, or is passed over, unless it is recognized and its body has none. -/
theorem exists_memberValue_iff {member : String × Json} :
    (∃ value?, memberValue below member = some value?) ↔
      ∀ kind name, TypedKey member.1 kind name →
        ∃ value, bodyValue below member.2 kind = some value := by
  simp only [← recognize_eq_some_iff, memberValue]
  cases hkey : recognize member.1 with
  | none => simp
  | some recognized =>
    obtain ⟨kind, name⟩ := recognized
    simp only [Option.map_eq_some_iff, Option.some.injEq, Prod.mk.injEq]
    constructor
    · rintro ⟨_, value, hvalue, -⟩ _ _ ⟨rfl, rfl⟩
      exact ⟨value, hvalue⟩
    · intro hbody
      obtain ⟨value, hvalue⟩ := hbody kind name ⟨rfl, rfl⟩
      exact ⟨_, value, hvalue, rfl⟩

end Values

/-- Members have named values if each that is recognized has a value. -/
theorem exists_normalizeAggregations_iff_forall {members : List (String × Json)} :
    (∃ values, normalizeAggregations members = some values) ↔
      ∀ member ∈ members, ∀ kind name, TypedKey member.1 kind name →
        ∃ value, bodyValue normalizeAggregations member.2 kind = some value := by
  simp only [normalizeAggregations_eq members, Option.map_eq_some_iff]
  rw [exists_comm]
  simp only [exists_eq_right', exists_mapM_eq_some_iff, exists_memberValue_iff]

/-! ## Entries that are reached -/

/-- What is reached depends on the recognized entries alone. -/
theorem Reaches.mono {members others : StringMap Json} {kind : TypedKind} {body : Json}
    (h : ∀ key kind name, TypedKey key kind name → others.get? key = members.get? key)
    (hreach : Reaches members kind body) : Reaches others kind body := by
  cases hreach with
  | here hfound hkey => exact .here ((h _ _ _ hkey).trans hfound) hkey
  | inBucket hfound hkey hkind hlists hitem hreach =>
    exact .inBucket ((h _ _ _ hkey).trans hfound) hkey hkind hlists hitem hreach

/-- The members of a bucket that have a meaning of their own are not recognized entries. -/
theorem reaches_othersOf_iff {members : StringMap Json} {kind : TypedKind} {body : Json} :
    Reaches (Bucket.othersOf members) kind body ↔ Reaches members kind body := by
  have hsame (key : String) (kind : TypedKind) (name : String) (hkey : TypedKey key kind name) :
      (Bucket.othersOf members).get? key = members.get? key := by
    apply Bucket.get?_othersOf
    exact fun hown ↦ unrecognized_of_mem_ownNames hown kind name hkey
  exact ⟨.mono fun key kind name hkey ↦ (hsame key kind name hkey).symm, .mono hsame⟩

/-- Members have named values if all recognized entries that are reached from them have bodies of
their kinds. -/
theorem exists_normalizeAggregations_iff {members : StringMap Json}
    (hcanonical : Json.CanonicalMembers members.entries) :
    (∃ values, normalizeAggregations members.entries = some values) ↔
      ∀ kind body, Reaches members kind body → kind.Decodes body := by
  -- An entry that is reached is here or below, and what is below is covered by the induction.
  induction hentries : members.entries using below_induction generalizing members with
  | step entries ih =>
    subst hentries
    have hbody {key : String} {body : Json} (hmember : (key, body) ∈ members.entries) :
        body.Canonical := Json.canonicalMembers_iff.mp hcanonical _ hmember
    have hbelow {key : String} {body : Json} (hmember : (key, body) ∈ members.entries)
        {buckets : List Bucket} (hbuckets : body.decode Bucket.decodeAll = some buckets)
        {bucket : Bucket} (hbucket : bucket ∈ buckets) :
        (∃ values, normalizeAggregations bucket.others.entries = some values) ↔
          ∀ kind body, Reaches bucket.others kind body → kind.Decodes body :=
      ih bucket.others.entries ⟨_, hmember, buckets, hbuckets, bucket, hbucket, rfl⟩
        (Bucket.canonical_others hbuckets hbucket) rfl
    rw [exists_normalizeAggregations_iff_forall]
    constructor
    · intro hall kind body hreach
      cases hreach with
      | here hfound hkey =>
        have hmember := Entries.mem_of_get?_eq_some hfound
        exact ((exists_bodyValue_iff (hbody hmember)).mp (hall _ hmember _ _ hkey)).1
      | inBucket hfound hkey hkind hlists hitem hreach =>
        have hmember := Entries.mem_of_get?_eq_some hfound
        obtain ⟨hdecodes, hothers⟩ :=
          (exists_bodyValue_iff (hbody hmember)).mp (hall _ hmember _ _ hkey)
        obtain ⟨buckets, hbuckets⟩ :=
          (TypedKind.decodes_iff_of_hasBuckets hkind (hbody hmember)).mp hdecodes
        obtain ⟨bucket, hbucket, heq⟩ :=
          Bucket.exists_bucket_of_mem (hbody hmember) hbuckets hlists hitem
        apply (hbelow hmember hbuckets hbucket).mp (hothers hkind _ hbuckets _ hbucket)
        rwa [heq, reaches_othersOf_iff]
    · rintro hall ⟨key, body⟩ hmember kind name hkey
      have hfound : members.get? key = some body :=
        (Entries.get?_eq_some_iff members.ascending).mpr hmember
      apply (exists_bodyValue_iff (hbody hmember)).mpr
      refine ⟨hall kind body (.here hfound hkey), ?_⟩
      intro hkind buckets hbuckets bucket hbucket
      apply (hbelow hmember hbuckets hbucket).mpr
      intro inner value hreach
      obtain ⟨items, hlists, bucketMembers, hitem, heq⟩ :=
        Bucket.exists_members_of_mem (hbody hmember) hbuckets hbucket
      rw [heq, reaches_othersOf_iff] at hreach
      exact hall inner value (.inBucket hfound hkey hkind hlists hitem hreach)

end FacetSearch
