import FacetSearch.Proofs.RecognizedContent
import Mathlib.Logic.Relation

/-!
# Members that normalization ignores

Members that are not recognized may be added, removed and replaced, among the aggregations of a
response and in the buckets of recognized entries at any depth, but for the members of a bucket that
have a meaning of their own. No such edit changes the results.
-/

namespace FacetSearch

/-! ## Edits -/

/-- How the body of an entry gives its buckets, in a member of an object or in a list of its own. -/
inductive BucketForm where
  | member (others : StringMap Json)
  | listed

/-- The body that gives these buckets. -/
def BucketForm.body (buckets : List Json) : BucketForm → Json
  | member others => .ofMap (others.insert "buckets" (.arr buckets))
  | listed => .arr [.arr buckets]

theorem BucketForm.lists (form : BucketForm) (buckets : List Json) :
    ListsBuckets (form.body buckets) buckets := by
  cases form with
  | member others => exact .member ((StringMap.get?_insert _ _ _ _).trans (if_pos rfl))
  | listed => exact .listed

/-- One member that is not recognized and has no reserved name is set or removed, here or in a
bucket of a recognized entry, where the members with a meaning of their own are reserved. -/
inductive Edit : List String → StringMap Json → StringMap Json → Prop
  | set {reserved : List String} {members : StringMap Json} {key : String} {value : Json} :
    Unrecognized key → key ∉ reserved → value.Canonical →
      Edit reserved members (members.insert key value)
  | remove {reserved : List String} {members : StringMap Json} {key : String} :
    Unrecognized key → key ∉ reserved → Edit reserved members (members.erase key)
  | inBucket {reserved : List String} {members bucket changed : StringMap Json}
      {key name : String} {kind : TypedKind} {form : BucketForm} {before after : List Json} :
    TypedKey key kind name → kind.hasBuckets = true →
      members.get? key = some (form.body (before ++ .ofMap bucket :: after)) →
        Edit Bucket.ownNames bucket changed →
          Edit reserved members
            (members.insert key (form.body (before ++ .ofMap changed :: after)))

/-! ## Canonical values -/

/-- Other canonical buckets may stand in a canonical body. -/
theorem BucketForm.canonical_body {form : BucketForm} {buckets others : List Json}
    (h : (form.body buckets).Canonical) (hothers : ∀ other ∈ others, other.Canonical) :
    (form.body others).Canonical := by
  have hlist : (Json.arr others).Canonical := Json.canonicalElements_iff.mpr hothers
  cases form with
  | member siblings =>
    rw [body, Json.canonical_ofMap_iff] at h ⊢
    rw [← StringMap.insert_insert siblings "buckets" (.arr buckets)]
    exact Json.canonicalMembers_insert h hlist
  | listed => exact ⟨hlist, trivial⟩

/-- A bucket may be replaced by another canonical one. -/
theorem BucketForm.canonical_replace {form : BucketForm} {before after : List Json}
    {bucket other : Json} (h : (form.body (before ++ bucket :: after)).Canonical)
    (hother : other.Canonical) : (form.body (before ++ other :: after)).Canonical := by
  apply canonical_body h
  intro item hitem
  rcases List.mem_append.mp hitem with hbefore | hafter
  · exact (form.lists _).canonical_of_mem h (List.mem_append_left _ hbefore)
  · rcases List.mem_cons.mp hafter with rfl | hafter
    · exact hother
    · exact (form.lists _).canonical_of_mem h (by simp [hafter])

/-! ## What normalization makes of an edit -/

theorem normalizeAggregations_erase {key : String} (hkey : Unrecognized key)
    (members : StringMap Json) :
    normalizeAggregations (members.erase key).entries = normalizeAggregations members.entries := by
  apply normalizeAggregations_filter
  intro member _ hmember
  have hsame : member.1 = key := by simpa using hmember
  rwa [hsame]

theorem normalizeAggregations_insert {key : String} (hkey : Unrecognized key) (value : Json)
    (members : StringMap Json) :
    normalizeAggregations (members.insert key value).entries =
      normalizeAggregations members.entries := by
  rw [← normalizeAggregations_erase hkey, StringMap.erase_insert, normalizeAggregations_erase hkey]

theorem normalizeAggregations_othersOf (members : StringMap Json) :
    normalizeAggregations (Bucket.othersOf members).entries =
      normalizeAggregations members.entries := by
  apply normalizeAggregations_filter
  intro member _ hmember
  exact unrecognized_of_mem_ownNames (by simpa using hmember)

/-- A body may be replaced by one that has the same value. -/
theorem normalizeAggregations_replace {key : String} {body other : Json} {members : StringMap Json}
    (hfound : members.get? key = some body)
    (hvalue : memberValue normalizeAggregations (key, other) =
      memberValue normalizeAggregations (key, body)) :
    normalizeAggregations (members.insert key other).entries =
      normalizeAggregations members.entries := by
  obtain ⟨before, after, hentries⟩ := List.append_of_mem (Entries.mem_of_get?_eq_some hfound)
  have hascending : Entries.Ascending (before ++ (key, body) :: after) :=
    hentries ▸ members.ascending
  have hinsert : (members.insert key other).entries = before ++ (key, other) :: after := by
    change Entries.insert members.entries key other = _
    rw [hentries, hascending.insert_append]
  have hrest (before : List (String × Json)) :
      normalizeAggregations (before ++ (key, other) :: after) =
        normalizeAggregations (before ++ (key, body) :: after) := by
    induction before with
    | nil =>
      simp only [List.nil_append]
      rw [normalizeAggregations_cons, hvalue, ← normalizeAggregations_cons]
    | cons member before ih =>
      simp only [List.cons_append]
      rw [normalizeAggregations_cons, ih, ← normalizeAggregations_cons]
  rw [hinsert, hentries, hrest]

/-! ## What an edit leaves alone -/

section Replacement

variable {bucket changed : StringMap Json}

theorem ownPart_congr (hown : ∀ name ∈ Bucket.ownNames, changed.get? name = bucket.get? name) :
    Bucket.ownPart changed = Bucket.ownPart bucket := by
  simp only [Bucket.ownNames, List.forall_mem_cons] at hown
  obtain ⟨hkey, htext, hcount, hlower, hupper, -⟩ := hown
  rw [Bucket.ownPart, Bucket.ownPart, hkey, htext, hcount, hlower, hupper]

/-- A bucket with other unrecognized members is the same to a reader of its aggregations. -/
theorem decode_bind_congr (hbucket : Json.CanonicalMembers bucket.entries)
    (hchanged : Json.CanonicalMembers changed.entries)
    (hown : ∀ name ∈ Bucket.ownNames, changed.get? name = bucket.get? name)
    (hvalues : normalizeAggregations changed.entries = normalizeAggregations bucket.entries)
    {β : Type} {make : Bucket → NamedValues → β}
    (hmake : ∀ part others, make (Bucket.withOthers part others) = make part) :
    (((Json.ofMap changed).decode Bucket.decode).bind fun read ↦
        (normalizeAggregations read.others.entries).map (make read)) =
      ((Json.ofMap bucket).decode Bucket.decode).bind fun read ↦
        (normalizeAggregations read.others.entries).map (make read) := by
  have hread (members : StringMap Json) (hmembers : Json.CanonicalMembers members.entries) :
      (((Json.ofMap members).decode Bucket.decode).bind fun read ↦
          (normalizeAggregations read.others.entries).map (make read)) =
        (Bucket.ownPart members).bind fun part ↦
          (normalizeAggregations members.entries).map (make part) := by
    rw [Bucket.decode_ofMap hmembers, Option.bind_map]
    congr 1
    funext part
    change (normalizeAggregations (Bucket.othersOf members).entries).map _ = _
    rw [normalizeAggregations_othersOf, hmake]
  rw [hread changed hchanged, hread bucket hbucket, ownPart_congr hown, hvalues]

theorem mapM_replace {α β : Type} {f : α → Option β} {before after : List α} {item other : α}
    (h : f other = f item) :
    (before ++ other :: after).mapM f = (before ++ item :: after).mapM f := by
  rw [List.mapM_append, List.mapM_append, List.mapM_cons, List.mapM_cons, h]

theorem bodyValue_replace {form : BucketForm} {before after : List Json} {kind : TypedKind}
    (hkind : kind.hasBuckets = true)
    (hbody : (form.body (before ++ .ofMap bucket :: after)).Canonical)
    (hother : (form.body (before ++ .ofMap changed :: after)).Canonical)
    (hown : ∀ name ∈ Bucket.ownNames, changed.get? name = bucket.get? name)
    (hvalues : normalizeAggregations changed.entries = normalizeAggregations bucket.entries) :
    bodyValue normalizeAggregations (form.body (before ++ .ofMap changed :: after)) kind =
      bodyValue normalizeAggregations (form.body (before ++ .ofMap bucket :: after)) kind := by
  have hbucket : (Json.ofMap bucket).Canonical := (form.lists _).canonical_of_mem hbody (by simp)
  have hchanged : (Json.ofMap changed).Canonical := (form.lists _).canonical_of_mem hother (by simp)
  cases kind with
  | global | stats => cases hkind
  | terms | range =>
    simp only [bodyValue, Bucket.decodeAll_of_lists (form.lists _) hbody,
      Bucket.decodeAll_of_lists (form.lists _) hother, Option.bind_eq_bind]
    simp only [← Option.bind_assoc, mapM_bind_mapM]
    congr 1
    apply mapM_replace
    apply decode_bind_congr hbucket.2 hchanged.2 hown hvalues
    intro part others
    rfl

end Replacement

/-- An edit keeps values canonical, what is found under reserved names, and the named values. -/
theorem Edit.keeps {reserved : List String} {members changed : StringMap Json}
    (hedit : Edit reserved members changed) (hreserved : ∀ name ∈ reserved, Unrecognized name)
    (hmembers : Json.CanonicalMembers members.entries) :
    Json.CanonicalMembers changed.entries ∧
      (∀ name ∈ reserved, changed.get? name = members.get? name) ∧
      normalizeAggregations changed.entries = normalizeAggregations members.entries := by
  -- Reserved names are what a bucket says of itself, so what is found under them has to stay.
  induction hedit with
  | @set reserved members key value hkey hother hvalue =>
    refine ⟨Json.canonicalMembers_insert hmembers hvalue, ?_,
      normalizeAggregations_insert hkey value members⟩
    intro name hname
    rw [StringMap.get?_insert, if_neg (ne_of_mem_of_not_mem hname hother).symm]
  | @remove reserved members key hkey hother =>
    refine ⟨?_, ?_, normalizeAggregations_erase hkey members⟩
    · rw [Json.canonicalMembers_iff] at hmembers ⊢
      exact fun member hmember ↦ hmembers member (List.mem_of_mem_filter hmember)
    · intro name hname
      rw [StringMap.get?_erase, if_neg (ne_of_mem_of_not_mem hname hother).symm]
  | @inBucket reserved members bucket changed key name kind form before after
      hkey hkind hfound hedit ih =>
    have hbody : (form.body (before ++ .ofMap bucket :: after)).Canonical :=
      Json.canonicalMembers_entries_iff.mp hmembers key _ hfound
    have hbucket : Json.CanonicalMembers bucket.entries := by
      rw [← Json.canonical_ofMap_iff]
      exact (form.lists _).canonical_of_mem hbody (by simp)
    obtain ⟨hchanged, hown, hvalues⟩ := ih (fun _ ↦ unrecognized_of_mem_ownNames) hbucket
    have hother : (form.body (before ++ .ofMap changed :: after)).Canonical :=
      BucketForm.canonical_replace hbody (Json.canonical_ofMap_iff.mpr hchanged)
    refine ⟨Json.canonicalMembers_insert hmembers hother, ?_, ?_⟩
    · intro own hmem
      have hne : key ≠ own := by
        rintro rfl
        exact hreserved key hmem kind name hkey
      rw [StringMap.get?_insert, if_neg hne]
    · apply normalizeAggregations_replace hfound
      simp only [memberValue, recognize_eq_some_iff.mpr hkey]
      rw [bodyValue_replace hkind hbody hother hown hvalues]

/-! ## Responses -/

namespace SearchResults

theorem exists_ofResponse_iff {response : SearchResponse} :
    (∃ results, ofResponse response = .ok results) ↔
      ∃ values, normalizeAggregations response.aggregations.entries = some values := by
  unfold ofResponse
  cases normalizeAggregations response.aggregations.entries <;> simp

theorem ofResponse_congr {response : SearchResponse} {aggregations : StringMap Json}
    (h : normalizeAggregations aggregations.entries =
      normalizeAggregations response.aggregations.entries) :
    ofResponse { response with aggregations } = ofResponse response := by
  simp only [ofResponse, h]

/-- A response has results if all recognized entries, at any depth, decode as bodies of their kinds,
and only then; whatever is set or removed under keys that are not recognized, at any depth, the
outcome is the same. -/
theorem ofResponse_reads_recognized {raw : RawJson} {response : SearchResponse}
    (hresponse : SearchResponse.decode raw = some response) :
    ((∃ results, ofResponse response = .ok results) ↔
      ∀ kind body, Reaches response.aggregations kind body → kind.Decodes body) ∧
    ∀ aggregations, Relation.ReflTransGen (Edit []) response.aggregations aggregations →
      ofResponse { response with aggregations } = ofResponse response := by
  have hcanonical : Json.CanonicalMembers response.aggregations.entries :=
    SearchResponse.canonical_of_decode hresponse
  refine ⟨exists_ofResponse_iff.trans (exists_normalizeAggregations_iff hcanonical), ?_⟩
  intro aggregations hedits
  apply ofResponse_congr
  -- Along the edits the values stay canonical, which the next edit relies on.
  have hkept : Json.CanonicalMembers aggregations.entries ∧
      normalizeAggregations aggregations.entries =
        normalizeAggregations response.aggregations.entries := by
    induction hedits with
    | refl => exact ⟨hcanonical, rfl⟩
    | tail _ hedit ih =>
      obtain ⟨hchanged, -, hvalues⟩ := hedit.keeps (fun _ hname ↦ nomatch hname) ih.1
      exact ⟨hchanged, hvalues.trans ih.2⟩
  exact hkept.2

theorem ofResponse_reads_recognized_in_bucket :
    let bucket : StringMap Json := .ofList [("key", .str "Review"), ("doc_count", .nat 2)]
    let changed : StringMap Json := bucket.insert "top_hits#best" (.str "broken")
    let body (bucket : StringMap Json) : Json := BucketForm.listed.body ([] ++ .ofMap bucket :: [])
    let response (bucket : StringMap Json) : SearchResponse :=
      { SearchResponse.empty with aggregations := .singleton "sterms#class" (body bucket) }
    let results : SearchResults := ⟨0, [], [("class", .terms [.mk "Review" 2 []])]⟩
    SearchResponse.decode (.obj [(some "aggregations", .obj [(some "sterms#class",
      .arr [.arr [.obj [(some "key", .str "Review"), (some "doc_count", .num (.int 2))]]])])]) =
        some (response bucket) ∧
      ofResponse (response bucket) = .ok results ∧ ofResponse (response changed) = .ok results := by
  intro bucket changed body response results
  have hdecode : SearchResponse.decode (.obj [(some "aggregations", .obj [(some "sterms#class",
      .arr [.arr [.obj [(some "key", .str "Review"), (some "doc_count", .num (.int 2))]]])])]) =
        some (response bucket) := by decide +kernel
  have hentries : (response bucket).aggregations.entries = [("sterms#class",
      .arr [.arr [.obj [("doc_count", .nat 2), ("key", .str "Review")]]])] := by decide +kernel
  have hresults : ofResponse (response bucket) = .ok results := by
    rw [ofResponse, hentries]
    rfl
  have hkey : TypedKey "sterms#class" .terms "class" := ⟨"sterms", by decide, rfl⟩
  have hother : Unrecognized "top_hits#best" := recognize_eq_none_iff.mp (by decide)
  have hinside : Edit Bucket.ownNames bucket changed := .set hother (by decide) trivial
  have hedit : Edit [] (response bucket).aggregations
      ((response bucket).aggregations.insert "sterms#class" (body changed)) :=
    .inBucket hkey rfl rfl hinside
  have hsame := (ofResponse_reads_recognized hdecode).2 _ (.single hedit)
  exact ⟨hdecode, hresults, hsame.trans hresults⟩

end SearchResults

end FacetSearch
