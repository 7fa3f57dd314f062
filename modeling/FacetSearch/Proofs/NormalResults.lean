import FacetSearch.Proofs.Normalization
import FacetSearch.Proofs.OctetOrder

/-!
# What results say

Results hold one document for each hit and, at every depth, one aggregation for each recognized
entry and one bucket for each bucket of a body, all in the order in which the response gives them;
entries are given in the order of the octets of their keys. `Normal` says so without saying how it
is brought about.
-/

namespace FacetSearch

/-! ## The specification -/

/-- The text of a key is the text that comes with it, or else the key itself if it is a string, or
else the compact text of the key. -/
def Bucket.HasKeyText (bucket : Bucket) (text : String) : Prop :=
  bucket.keyAsString = some text ∨
    bucket.keyAsString = none ∧
      (bucket.key = .str text ∨
        (∀ other, bucket.key ≠ .str other) ∧ text = bucket.key.compact)

/-- The recognized entries of an object, each once, in the order of the octets of their keys. -/
structure RecognizedEntries (members : StringMap Json) (entries : List (String × Json)) : Prop where
  mem_iff : ∀ key body, (key, body) ∈ entries ↔
    members.get? key = some body ∧ ∃ kind name, TypedKey key kind name
  ordered : entries.Pairwise fun a b ↦ Utf8.encode a.1.toList < Utf8.encode b.1.toList

mutual

/-- The named values stand one to one for the recognized entries. -/
inductive Normal : StringMap Json → NamedValues → Prop
  | intro {members : StringMap Json} {entries : List (String × Json)} {values : NamedValues} :
    RecognizedEntries members entries → List.Forall₂ NormalEntry entries values →
      Normal members values

/-- A named value has the name in the typed key of its entry and the kind of value that the kind in
the typed key asks for. -/
inductive NormalEntry : String × Json → String × AggregationValue → Prop
  | global {key name : String} {body : Json} {count : UInt64} :
    TypedKey key .global name → GivesFields ["doc_count"] body [some (.nat count.toNat)] →
      NormalEntry (key, body) (name, .global count)
  | stats {key name : String} {body : Json} {stats : Stats} :
    TypedKey key .stats name → stats.Reads body → NormalEntry (key, body) (name, .stats stats)
  | terms {key name : String} {body : Json} {items : List Json} {results : List TermsBucket} :
    TypedKey key .terms name → ListsBuckets body items →
      List.Forall₂ NormalTermsBucket items results → NormalEntry (key, body) (name, .terms results)
  | range {key name : String} {body : Json} {items : List Json} {results : List RangeBucket} :
    TypedKey key .range name → ListsBuckets body items →
      List.Forall₂ NormalRangeBucket items results → NormalEntry (key, body) (name, .range results)

/-- A bucket of a terms aggregation has the count of the object it stands for and the aggregations
that the other members of the object stand for. -/
inductive NormalTermsBucket : Json → TermsBucket → Prop
  | intro {members : StringMap Json} {bucket : Bucket} {text : String} {values : NamedValues} :
    bucket.Reads members → bucket.HasKeyText text → Normal bucket.others values →
      NormalTermsBucket (.ofMap members) (.mk text bucket.docCount values)

/-- A bucket of a range aggregation also has the bounds in the object it stands for. -/
inductive NormalRangeBucket : Json → RangeBucket → Prop
  | intro {members : StringMap Json} {bucket : Bucket} {text : String} {values : NamedValues} :
    bucket.Reads members → bucket.HasKeyText text → Normal bucket.others values →
      NormalRangeBucket (.ofMap members)
        (.mk text bucket.lower bucket.upper bucket.docCount values)

end

/-- A document says what its hit says; its class is the class name in the source if that is a
string. -/
structure DocumentOf (hit : Hit) (document : DocumentResult) : Prop where
  id : document.id = hit.id
  index : document.index = hit.index
  score : document.score = hit.score
  source : document.source = hit.source
  sourceText : document.sourceText = hit.source.map fun source ↦ (Json.ofMap source).compact
  className : ∀ text, document.className = some text ↔
    ∃ source, hit.source = some source ∧ source.get? "className" = some (.str text)

/-- The results stand one to one for what the response holds. -/
structure ResultsOf (response : SearchResponse) (results : SearchResults) : Prop where
  total : ∀ count, response.hits.total = some count → results.total = count.value
  counted : response.hits.total = none →
    results.total = UInt64.ofNat response.hits.hits.length
  documents : List.Forall₂ DocumentOf response.hits.hits results.documents
  aggregations : Normal response.aggregations results.aggregations

/-- No two recognized entries have one name. -/
def DistinctNames (members : StringMap Json) : Prop :=
  ∀ key other kind otherKind name, members.contains key = true → members.contains other = true →
    TypedKey key kind name → TypedKey other otherKind name → key = other

/-- What is found under the name of a recognized entry stands for that entry. -/
def FoundByName (members : StringMap Json) (find : String → Option AggregationValue) : Prop :=
  ∀ key kind name body, members.get? key = some body → TypedKey key kind name →
    ∃ value, NormalEntry (key, body) (name, value) ∧ find name = some value

/-! ## Normalization meets it -/

theorem Bucket.hasKeyText_iff {bucket : Bucket} {text : String} :
    bucket.HasKeyText text ↔ bucket.keyText = text := by
  unfold HasKeyText keyText
  cases hstring : bucket.keyAsString with
  | some string => simp
  | none =>
    cases hkey : bucket.key <;> simp [eq_comm]

/-- The recognized entries are those of the object that are recognized, in its order. -/
theorem recognizedEntries_iff {members : StringMap Json} {entries : List (String × Json)} :
    RecognizedEntries members entries ↔
      entries = members.entries.filter fun member ↦ (recognize member.1).isSome := by
  have hfilter : RecognizedEntries members
      (members.entries.filter fun member ↦ (recognize member.1).isSome) := by
    constructor
    · intro key body
      rw [List.mem_filter, StringMap.get?, Entries.get?_eq_some_iff members.ascending,
        Option.isSome_iff_exists, Prod.exists]
      simp only [recognize_eq_some_iff]
    · simp only [Utf8.encode_toList_lt_iff]
      exact members.ascending.filter _
  constructor
  · intro h
    -- Both lists are in order, so the same entries make the same list.
    have hascending : Entries.Ascending entries := h.ordered.imp Utf8.encode_toList_lt_iff.mp
    have hother : Entries.Ascending
        (members.entries.filter fun member ↦ (recognize member.1).isSome) :=
      members.ascending.filter _
    apply hascending.ext hother
    intro key
    apply Option.ext
    intro body
    rw [Entries.get?_eq_some_iff hascending, Entries.get?_eq_some_iff hother, h.mem_iff,
      hfilter.mem_iff]
  · rintro rfl
    exact hfilter

section Buckets

variable {item : Json}

theorem normalTermsBucket_iff (hcanonical : item.Canonical) {result : TermsBucket} :
    NormalTermsBucket item result ↔
      ∃ bucket, item.decode Bucket.decode = some bucket ∧
        ∃ values, Normal bucket.others values ∧
          TermsBucket.mk bucket.keyText bucket.docCount values = result := by
  simp only [Bucket.decode_iff_reads hcanonical]
  constructor
  · rintro ⟨hreads, htext, hvalues⟩
    exact ⟨_, ⟨_, rfl, hreads⟩, _, hvalues, by rw [Bucket.hasKeyText_iff.mp htext]⟩
  · rintro ⟨bucket, ⟨members, rfl, hreads⟩, values, hvalues, rfl⟩
    exact .intro hreads (Bucket.hasKeyText_iff.mpr rfl) hvalues

theorem normalRangeBucket_iff (hcanonical : item.Canonical) {result : RangeBucket} :
    NormalRangeBucket item result ↔
      ∃ bucket, item.decode Bucket.decode = some bucket ∧
        ∃ values, Normal bucket.others values ∧
          RangeBucket.mk bucket.keyText bucket.lower bucket.upper bucket.docCount values =
            result := by
  simp only [Bucket.decode_iff_reads hcanonical]
  constructor
  · rintro ⟨hreads, htext, hvalues⟩
    exact ⟨_, ⟨_, rfl, hreads⟩, _, hvalues, by rw [Bucket.hasKeyText_iff.mp htext]⟩
  · rintro ⟨bucket, ⟨members, rfl, hreads⟩, values, hvalues, rfl⟩
    exact .intro hreads (Bucket.hasKeyText_iff.mpr rfl) hvalues

variable {below : List (String × Json) → Option NamedValues} {body : Json}

/-- Where the members of buckets are read as they should be, so are the buckets of a body. -/
theorem listsBuckets_iff {β : Type} {relation : Json → β → Prop}
    {make : Bucket → NamedValues → β} (results : List β) (hcanonical : body.Canonical)
    (hrelation : ∀ item : Json, item.Canonical → ∀ result, relation item result ↔
      ∃ bucket, item.decode Bucket.decode = some bucket ∧
        ∃ values, Normal bucket.others values ∧ make bucket values = result)
    (hbelow : ∀ buckets, body.decode Bucket.decodeAll = some buckets →
      ∀ bucket ∈ buckets, ∀ values,
        below bucket.others.entries = some values ↔ Normal bucket.others values) :
    (∃ items, ListsBuckets body items ∧ List.Forall₂ relation items results) ↔
      ∃ buckets, body.decode Bucket.decodeAll = some buckets ∧
        buckets.mapM (fun bucket ↦ (below bucket.others.entries).map (make bucket)) =
          some results := by
  have hitems {items : List Json} (hlists : ListsBuckets body items) :
      List.Forall₂ relation items results ↔
        ∃ buckets, items.mapM (Json.decode Bucket.decode) = some buckets ∧
          List.Forall₂ (fun bucket result ↦ ∃ values, Normal bucket.others values ∧
            make bucket values = result) buckets results := by
    rw [← forall₂_exists_iff]
    apply forall₂_iff_of_mem
    intro item hitem result
    exact hrelation item (hlists.canonical_of_mem hcanonical hitem) result
  have hbuckets {buckets : List Bucket} (hdecode : body.decode Bucket.decodeAll = some buckets) :
      List.Forall₂ (fun bucket result ↦ ∃ values, Normal bucket.others values ∧
          make bucket values = result) buckets results ↔
        buckets.mapM (fun bucket ↦ (below bucket.others.entries).map (make bucket)) =
          some results := by
    rw [mapM_eq_some_iff]
    apply forall₂_iff_of_mem
    intro bucket hbucket result
    simp only [Option.map_eq_some_iff, hbelow buckets hdecode bucket hbucket]
  constructor
  · rintro ⟨items, hlists, hall⟩
    obtain ⟨buckets, hmapM, hall⟩ := (hitems hlists).mp hall
    have hdecode := (Bucket.decodeAll_of_lists hlists hcanonical).trans hmapM
    exact ⟨buckets, hdecode, (hbuckets hdecode).mp hall⟩
  · rintro ⟨buckets, hdecode, hall⟩
    obtain ⟨items, hlists⟩ := Bucket.exists_lists_of_decodeAll hdecode hcanonical
    have hmapM := (Bucket.decodeAll_of_lists hlists hcanonical).symm.trans hdecode
    exact ⟨items, hlists, (hitems hlists).mpr ⟨buckets, hmapM, (hbuckets hdecode).mpr hall⟩⟩

/-- Where the members of its buckets are read as they should be, so is an entry. -/
theorem normalEntry_iff {key : String} {named : String × AggregationValue}
    (hcanonical : body.Canonical)
    (hbelow : ∀ buckets, body.decode Bucket.decodeAll = some buckets →
      ∀ bucket ∈ buckets, ∀ values,
        below bucket.others.entries = some values ↔ Normal bucket.others values) :
    NormalEntry (key, body) named ↔
      ∃ kind, TypedKey key kind named.1 ∧ bodyValue below body kind = some named.2 := by
  have hterms (results : List TermsBucket) := listsBuckets_iff results hcanonical
    (fun item hitem result ↦ normalTermsBucket_iff hitem) hbelow
  have hranges (results : List RangeBucket) := listsBuckets_iff results hcanonical
    (fun item hitem result ↦ normalRangeBucket_iff hitem) hbelow
  obtain ⟨name, value⟩ := named
  constructor
  · intro hnormal
    cases hnormal with
    | global hkey hcount =>
      have hdecode := (decodeDocCount_eq_some_iff hcanonical).mpr hcount
      exact ⟨.global, hkey, by simp [bodyValue, hdecode]⟩
    | stats hkey hstats =>
      have hdecode := (Stats.decode_eq_some_iff hcanonical).mpr hstats
      exact ⟨.stats, hkey, by simp [bodyValue, hdecode]⟩
    | terms hkey hlists hresults =>
      obtain ⟨buckets, hbuckets, hall⟩ := (hterms _).mp ⟨_, hlists, hresults⟩
      exact ⟨.terms, hkey, by simp [bodyValue, hbuckets, hall]⟩
    | range hkey hlists hresults =>
      obtain ⟨buckets, hbuckets, hall⟩ := (hranges _).mp ⟨_, hlists, hresults⟩
      exact ⟨.range, hkey, by simp [bodyValue, hbuckets, hall]⟩
  · rintro ⟨kind, hkey, hvalue⟩
    cases kind with
    | global =>
      obtain ⟨count, hcount, rfl⟩ := Option.map_eq_some_iff.mp hvalue
      exact .global hkey ((decodeDocCount_eq_some_iff hcanonical).mp hcount)
    | stats =>
      obtain ⟨stats, hstats, rfl⟩ := Option.map_eq_some_iff.mp hvalue
      exact .stats hkey ((Stats.decode_eq_some_iff hcanonical).mp hstats)
    | terms =>
      simp only [bodyValue, Option.bind_eq_bind, Option.bind_eq_some_iff, Option.some.injEq]
        at hvalue
      obtain ⟨buckets, hbuckets, results, hall, rfl⟩ := hvalue
      obtain ⟨items, hlists, hresults⟩ := (hterms results).mpr ⟨buckets, hbuckets, hall⟩
      exact .terms hkey hlists hresults
    | range =>
      simp only [bodyValue, Option.bind_eq_bind, Option.bind_eq_some_iff, Option.some.injEq]
        at hvalue
      obtain ⟨buckets, hbuckets, results, hall, rfl⟩ := hvalue
      obtain ⟨items, hlists, hresults⟩ := (hranges results).mpr ⟨buckets, hbuckets, hall⟩
      exact .range hkey hlists hresults

end Buckets

/-- Of recognized entries alone, each has its value. -/
theorem normalizeAggregations_eq_some_iff_forall₂ {entries : List (String × Json)}
    (h : ∀ entry ∈ entries, (recognize entry.1).isSome = true) {values : NamedValues} :
    normalizeAggregations entries = some values ↔
      List.Forall₂ (fun entry named ↦ ∃ kind, TypedKey entry.1 kind named.1 ∧
        bodyValue normalizeAggregations entry.2 kind = some named.2) entries values := by
  induction entries generalizing values with
  | nil => simp [normalizeAggregations_nil, eq_comm]
  | cons entry rest ih =>
    obtain ⟨hentry, hrest⟩ := List.forall_mem_cons.mp h
    obtain ⟨⟨kind, name⟩, hkey⟩ := Option.isSome_iff_exists.mp hentry
    rw [recognize_eq_some_iff] at hkey
    obtain ⟨key, body⟩ := entry
    rw [normalizeAggregations_typed hkey]
    cases values with
    | nil => simp [Option.bind_eq_some_iff]
    | cons named values =>
      simp only [Option.bind_eq_some_iff, Option.map_eq_some_iff, List.cons.injEq,
        List.forall₂_cons, ih hrest]
      constructor
      · rintro ⟨value, hvalue, others, hothers, rfl, rfl⟩
        exact ⟨⟨kind, hkey, hvalue⟩, hothers⟩
      · rintro ⟨⟨other, hother, hvalue⟩, hothers⟩
        obtain ⟨rfl, rfl⟩ := hkey.unique hother
        exact ⟨_, hvalue, _, hothers, rfl, rfl⟩

/-- Normalization gives what the members stand for and nothing else. -/
theorem normalizeAggregations_eq_some_iff {members : StringMap Json}
    (hcanonical : Json.CanonicalMembers members.entries) {values : NamedValues} :
    normalizeAggregations members.entries = some values ↔ Normal members values := by
  induction hentries : members.entries using below_induction generalizing members values with
  | step entries ih =>
    subst hentries
    -- Entries that are not recognized are left out, and the others are read by what is below them.
    have hrecognized : ∀ entry ∈ members.entries,
        (recognize entry.1).isSome = false → Unrecognized entry.1 := by
      intro entry _ hentry
      simpa [recognize_eq_none_iff] using hentry
    have hentries : List.Forall₂ (fun entry named ↦ ∃ kind, TypedKey entry.1 kind named.1 ∧
        bodyValue normalizeAggregations entry.2 kind = some named.2)
          (members.entries.filter fun member ↦ (recognize member.1).isSome) values ↔
        List.Forall₂ NormalEntry
          (members.entries.filter fun member ↦ (recognize member.1).isSome) values := by
      apply forall₂_iff_of_mem
      intro entry hentry named
      have hmem : entry ∈ members.entries := List.mem_of_mem_filter hentry
      refine (normalEntry_iff (Json.canonicalMembers_iff.mp hcanonical entry hmem) ?_).symm
      intro buckets hbuckets bucket hbucket others
      have hbelow : Below members.entries bucket.others.entries :=
        ⟨entry, hmem, buckets, hbuckets, bucket, hbucket, rfl⟩
      exact ih _ hbelow (Bucket.canonical_others hbuckets hbucket) rfl
    rw [← normalizeAggregations_filter hrecognized,
      normalizeAggregations_eq_some_iff_forall₂ fun entry hentry ↦ (List.mem_filter.mp hentry).2,
      hentries]
    constructor
    · intro hnormal
      exact .intro (recognizedEntries_iff.mpr rfl) hnormal
    · rintro ⟨hlisted, hnormal⟩
      rwa [recognizedEntries_iff.mp hlisted] at hnormal

/-! ## Looking up by name -/

theorem NormalEntry.typedKey {entry : String × Json} {named : String × AggregationValue}
    (h : NormalEntry entry named) : ∃ kind, TypedKey entry.1 kind named.1 := by
  cases h with
  | global hkey | stats hkey | terms hkey | range hkey => exact ⟨_, hkey⟩

/-- The only entry of a name is found under it. -/
theorem exists_get?_of_forall₂ {entries : List (String × Json)} {values : NamedValues}
    (hnormal : List.Forall₂ NormalEntry entries values) {key name : String} {kind : TypedKind}
    {body : Json} (hkey : TypedKey key kind name) (hmem : (key, body) ∈ entries)
    (honly : ∀ entry ∈ entries, ∀ other, TypedKey entry.1 other name → entry = (key, body)) :
    ∃ value, NormalEntry (key, body) (name, value) ∧ Entries.get? values name = some value := by
  induction hnormal with
  | nil => cases hmem
  | @cons entry named rest values hentry hrest ih =>
    obtain ⟨first, value⟩ := named
    obtain ⟨other, hother⟩ := hentry.typedKey
    by_cases hname : first = name
    · subst hname
      have hsame : entry = (key, body) := honly entry List.mem_cons_self other hother
      exact ⟨value, hsame ▸ hentry, by simp [Entries.get?]⟩
    · have hne : (key, body) ≠ entry := by
        rintro rfl
        exact hname (hother.unique hkey).2
      have hlater := List.mem_of_ne_of_mem hne hmem
      obtain ⟨found, hfound, hget⟩ :=
        ih hlater fun entry hentry ↦ honly entry (List.mem_cons_of_mem _ hentry)
      exact ⟨found, hfound, by simpa [Entries.get?, hname] using hget⟩

theorem Normal.foundByName {members : StringMap Json} {values : NamedValues}
    (hnormal : Normal members values) (hdistinct : DistinctNames members) :
    FoundByName members (Entries.get? values) := by
  obtain ⟨hlisted, hentries⟩ := hnormal
  intro key kind name body hfound hkey
  have hmem : (key, body) ∈ _ := (hlisted.mem_iff key body).mpr ⟨hfound, kind, name, hkey⟩
  apply exists_get?_of_forall₂ hentries hkey hmem
  rintro ⟨other, value⟩ hmem otherKind hother
  have hvalue : members.get? other = some value := ((hlisted.mem_iff other value).mp hmem).1
  have hsame : other = key := by
    apply hdistinct other key otherKind kind name _ _ hother hkey
    · exact StringMap.contains_eq_true_iff.mpr ⟨value, hvalue⟩
    · exact StringMap.contains_eq_true_iff.mpr ⟨body, hfound⟩
  subst hsame
  rw [hfound] at hvalue
  cases hvalue
  rfl

/-! ## Results of a response -/

theorem documentOf_iff {hit : Hit} {document : DocumentResult} :
    DocumentOf hit document ↔ DocumentResult.ofHit hit = document := by
  have hclass (text : String) : (DocumentResult.ofHit hit).className = some text ↔
      ∃ source, hit.source = some source ∧ source.get? "className" = some (.str text) := by
    simp [DocumentResult.ofHit, classNameField, Option.bind_eq_some_iff, Json.str?_eq_some_iff]
  constructor
  · rintro ⟨hid, hindex, hscore, hsource, htext, hclassName⟩
    obtain ⟨id, index, score, source, sourceText, className⟩ := document
    have hsame : (DocumentResult.ofHit hit).className = className := by
      apply Option.ext
      exact fun text ↦ (hclass text).trans (hclassName text).symm
    simp only at hid hindex hscore hsource htext
    rw [hid, hindex, hscore, hsource, htext, ← hsame]
    rfl
  · rintro rfl
    exact ⟨rfl, rfl, rfl, rfl, rfl, hclass⟩

namespace SearchResults

theorem ofResponse_eq_ok_iff {response : SearchResponse} {results : SearchResults}
    (hcanonical : Json.CanonicalMembers response.aggregations.entries) :
    ofResponse response = .ok results ↔ ResultsOf response results := by
  have hdocuments : List.Forall₂ DocumentOf response.hits.hits results.documents ↔
      response.hits.hits.map DocumentResult.ofHit = results.documents := by
    rw [forall₂_iff_of_mem fun hit _ document ↦ documentOf_iff, ← List.forall₂_eq_eq_eq,
      List.forall₂_map_left_iff]
  have hok : ofResponse response = .ok results ↔
      ∃ values, normalizeAggregations response.aggregations.entries = some values ∧
        (⟨(response.hits.total.map HitCount.value).getD response.hits.hits.length.toUInt64,
          response.hits.hits.map DocumentResult.ofHit, values⟩ : SearchResults) = results := by
    unfold ofResponse
    cases normalizeAggregations response.aggregations.entries <;> simp
  rw [hok]
  obtain ⟨total, documents, aggregations⟩ := results
  simp only [mk.injEq, normalizeAggregations_eq_some_iff hcanonical, ← hdocuments]
  constructor
  · rintro ⟨values, hvalues, htotal, hall, rfl⟩
    refine ⟨?_, ?_, hall, hvalues⟩
    · intro count hcount
      simpa [hcount] using htotal.symm
    · intro hnone
      simpa [hnone] using htotal.symm
  · rintro ⟨htotal, hcounted, hall, hvalues⟩
    refine ⟨aggregations, hvalues, ?_, hall, rfl⟩
    cases hcount : response.hits.total with
    | none => exact (hcounted hcount).symm
    | some count => exact (htotal count hcount).symm

/-- A response has these results exactly if they stand one to one, in order and at every depth, for
what it holds; and where names are distinct, an aggregation is found under its name. -/
theorem ofResponse_one_to_one {raw : RawJson} {response : SearchResponse}
    (hresponse : SearchResponse.decode raw = some response) (results : SearchResults) :
    (ofResponse response = .ok results ↔ ResultsOf response results) ∧
      (ofResponse response = .ok results → DistinctNames response.aggregations →
        FoundByName response.aggregations results.find?) ∧
      ∀ members values, Normal members values → DistinctNames members →
        FoundByName members (Entries.get? values) := by
  have hiff : ofResponse response = .ok results ↔ ResultsOf response results :=
    ofResponse_eq_ok_iff (SearchResponse.canonical_of_decode hresponse)
  refine ⟨hiff, ?_, fun _ _ ↦ Normal.foundByName⟩
  intro hok
  exact (hiff.mp hok).aggregations.foundByName

theorem ofResponse_one_to_one_name_with_hash :
    let body : Json := .arr [.arr [.obj [("doc_count", .nat 2), ("key", .str "home")]]]
    let response : SearchResponse :=
      { SearchResponse.empty with aggregations := .singleton "sterms#page#count" body }
    let results : SearchResults := ⟨0, [], [("page#count", .terms [.mk "home" 2 []])]⟩
    SearchResponse.decode (.obj [(some "aggregations", .obj [(some "sterms#page#count",
      .arr [.arr [.obj [(some "key", .str "home"), (some "doc_count", .num (.int 2))]]])])]) =
        some response ∧
      ResultsOf response results ∧
      ∃ value, NormalEntry ("sterms#page#count", body) ("page#count", value) ∧
        results.find? "page#count" = some value := by
  intro body response results
  have hdecode : SearchResponse.decode (.obj [(some "aggregations", .obj [(some "sterms#page#count",
      .arr [.arr [.obj [(some "key", .str "home"), (some "doc_count", .num (.int 2))]]])])]) =
        some response := by decide +kernel
  have hentries : response.aggregations.entries = [("sterms#page#count", .arr [.arr [.obj
      [("doc_count", .nat 2), ("key", .str "home")]]])] := by rfl
  have hok : ofResponse response = .ok results := by
    rw [ofResponse, hentries]
    rfl
  have hkey : TypedKey "sterms#page#count" .terms "page#count" := ⟨"sterms", by decide, rfl⟩
  have hdistinct : DistinctNames response.aggregations := by
    have honly (key : String) (hkey : response.aggregations.contains key = true) :
        "sterms#page#count" = key := by
      have hinsert := StringMap.contains_insert ∅ "sterms#page#count" body key
      simpa [StringMap.contains_eq] using hinsert.symm.trans hkey
    intro key other _ _ _ hcontains hother _ _
    exact (honly key hcontains).symm.trans (honly other hother)
  obtain ⟨hresults, hfound, -⟩ := ofResponse_one_to_one hdecode results
  exact ⟨hdecode, hresults.mp hok, hfound hok hdistinct _ _ _ _ rfl hkey⟩

end SearchResults

end FacetSearch
