import FacetSearch.Proofs.UrlSegments

/-!
# Addresses of documents

A segment is appended to a path as itself, encoded, unless it is a dot segment or has characters
that URLs pass over; and a lone empty segment gives way to the next one. So a document is written
and deleted under its own address just if neither its index nor its identifier is such a segment,
and then no other document has that address.
-/

namespace FacetSearch

namespace Url

/-- An appended segment stays what it is. -/
def Plain (segment : String) : Prop :=
  segment ≠ "." ∧ segment ≠ ".." ∧ ∀ c ∈ segment.toList, c ≠ '\t' ∧ c ≠ '\n' ∧ c ≠ '\r'

/-- What the segments of a path stand for. -/
def octets (path : List String) : List (List UInt8) :=
  path.map fun segment ↦ Percent.decode segment.toList

/-- The segments behind which another one is put: a lone empty one gives way. -/
def stem (path : List String) : List String := if path = [""] then [] else path

theorem opened_eq (path : List String) : opened path = stem path ++ [""] := by
  unfold opened stem
  split
  · next hlone => rw [hlone, List.nil_append]
  · rfl

theorem length_stem_le (path : List String) : (stem path).length ≤ path.length := by
  unfold stem
  split <;> simp

/-! ## One segment -/

/-- The characters of a segment that URLs do not pass over. -/
def kept (segment : String) : List Char := segment.toList.filter fun c ↦ !isPassedOver c

theorem decode_segmentText (special : Bool) (segment : String) :
    Percent.decode (segmentText special segment).toList = Utf8.encode (kept segment) := by
  rw [segmentText, String.toList_ofList]
  exact Percent.decode_encode (by simp [Percent.inSegment]) _

theorem kept_eq_iff {segment : String} :
    kept segment = segment.toList ↔ ∀ c ∈ segment.toList, c ≠ '\t' ∧ c ≠ '\n' ∧ c ≠ '\r' := by
  simp [kept, isPassedOver, and_assoc]

theorem Plain.octets_segmentText {segment : String} (h : Plain segment) (special : Bool) :
    Percent.decode (segmentText special segment).toList = Utf8.encode segment.toList := by
  rw [decode_segmentText, kept_eq_iff.mpr h.2.2]

/-- A segment that is written as dots is not plain: it is those dots, or has more in it that is
passed over. -/
theorem not_plain_of_text {special : Bool} {segment dots : String}
    (hdots : dots = "." ∨ dots = "..")
    (htext : segmentText special segment = dots) : segment ≠ "" ∧ ¬Plain segment := by
  have hdecode : Percent.decode dots.toList = Utf8.encode dots.toList := by
    rcases hdots with rfl | rfl <;> decide
  constructor
  · rintro rfl
    have hnothing : segmentText special "" = "" := rfl
    rw [hnothing] at htext
    subst htext
    exact absurd hdots (by decide)
  · intro hplain
    have hoctets := hplain.octets_segmentText special
    rw [htext, hdecode] at hoctets
    have hsame : dots = segment := String.toList_inj.mp (Utf8.encode_injective hoctets)
    subst hsame
    exact hdots.elim hplain.1 hplain.2.1

/-- What can become of a path to which a segment is appended. -/
theorem appendSegment_cases (special : Bool) (path : List String) (segment : String) :
    ((segment = "." ∨ segment = "..") ∧ appendSegment special path segment = path) ∨
      (segment ≠ "" ∧ ¬Plain segment ∧ ∃ above, above.length ≤ (stem path).length ∧
        appendSegment special path segment = above ++ [""]) ∨
      (segment ≠ "." ∧ segment ≠ ".." ∧
        appendSegment special path segment = stem path ++ [segmentText special segment]) := by
  unfold appendSegment
  simp only [opened_eq, List.dropLast_concat]
  split
  · next hdots => exact .inl ⟨hdots, rfl⟩
  next hsegment =>
  obtain ⟨hdot, hdots⟩ := not_or.mp hsegment
  split
  · next htext =>
    obtain ⟨hempty, hplain⟩ := not_plain_of_text (.inl rfl) htext
    exact .inr (.inl ⟨hempty, hplain, stem path, le_rfl, rfl⟩)
  split
  · next htext =>
    obtain ⟨hempty, hplain⟩ := not_plain_of_text (.inr rfl) htext
    refine .inr (.inl ⟨hempty, hplain, parent (stem path), ?_, rfl⟩)
    unfold parent
    split <;> simp
  · exact .inr (.inr ⟨hdot, hdots, rfl⟩)

theorem length_appendSegment_le (special : Bool) (path : List String) (segment : String) :
    (appendSegment special path segment).length ≤ (stem path).length + 1 := by
  rcases appendSegment_cases special path segment with
    ⟨-, hsame⟩ | ⟨-, -, above, habove, hsame⟩ | ⟨-, -, hsame⟩
  · rw [hsame]
    unfold stem
    split
    · next hlone => simp [hlone]
    · omega
  · rw [hsame, List.length_append, List.length_singleton]
    omega
  · rw [hsame, List.length_append, List.length_singleton]

theorem encode_eq_nil_iff {segment : String} : Utf8.encode segment.toList = [] ↔ segment = "" := by
  rw [← String.toList_eq_nil_iff]
  exact ⟨fun hnothing ↦ Utf8.encode_injective hnothing, fun hnothing ↦ by rw [hnothing]; rfl⟩

theorem octets_append (path others : List String) :
    octets (path ++ others) = octets path ++ octets others := List.map_append

theorem octets_append_empty_ne (above : List String) (before : List (List UInt8))
    {segment : String} (hsegment : segment ≠ "") :
    octets (above ++ [""]) ≠ before ++ [Utf8.encode segment.toList] := by
  intro hoctets
  rw [octets_append] at hoctets
  have hlast := (List.append_inj' hoctets rfl).2
  exact hsegment (encode_eq_nil_iff.mp (List.singleton_inj.mp hlast).symm)

/-- A segment comes to stand behind others as what it is just if it is plain. -/
theorem octets_appendSegment_iff {special : Bool} {path : List String} {segment : String}
    {before : List (List UInt8)} (hlength : (stem path).length ≤ before.length) :
    octets (appendSegment special path segment) = before ++ [Utf8.encode segment.toList] ↔
      octets (stem path) = before ∧ Plain segment := by
  rcases appendSegment_cases special path segment with
    ⟨hdots, hsame⟩ | ⟨hempty, hplain, above, habove, hsame⟩ | ⟨hdot, hdots, hsame⟩
  · -- The path stays, which is too short, or a lone empty segment.
    have hplain : ¬Plain segment := fun hplain ↦ hdots.elim hplain.1 hplain.2.1
    rw [hsame]
    simp only [hplain, and_false, iff_false]
    intro hoctets
    by_cases hlone : path = [""]
    · have hempty : segment ≠ "" := by rcases hdots with rfl | rfl <;> decide
      rw [hlone] at hoctets
      exact octets_append_empty_ne [] before hempty hoctets
    · have hlengths := congrArg List.length hoctets
      simp only [octets, List.length_map, List.length_append, List.length_singleton] at hlengths
      rw [stem, if_neg hlone] at hlength
      omega
  · simp only [hplain, and_false, iff_false]
    rw [hsame]
    exact octets_append_empty_ne above before hempty
  · have hlast : octets [segmentText special segment] = [Utf8.encode (kept segment)] := by
      rw [octets, List.map_singleton, decode_segmentText]
    rw [hsame, octets_append, hlast]
    constructor
    · intro hoctets
      obtain ⟨hfront, hsegment⟩ := List.append_inj' hoctets rfl
      have hkept := Utf8.encode_injective (List.singleton_inj.mp hsegment)
      exact ⟨hfront, hdot, hdots, kept_eq_iff.mp hkept⟩
    · rintro ⟨rfl, hplain⟩
      rw [kept_eq_iff.mpr hplain.2.2]

/-! ## A run of segments -/

/-- Every segment is plain, and none is put behind a lone empty one. -/
def Takes : (before : List (List UInt8)) → (segments : List String) → Prop
  | _, [] => True
  | before, segment :: rest =>
    before ≠ [[]] ∧ Plain segment ∧ Takes (before ++ [Utf8.encode segment.toList]) rest

theorem octets_eq_lone_iff {path : List String} : octets path = [[]] ↔ path = [""] := by
  simp [octets, List.map_eq_singleton_iff, Percent.decode_eq_nil_iff]

theorem octets_stem_ne (path : List String) : octets (stem path) ≠ [[]] := by
  rw [Ne, octets_eq_lone_iff]
  unfold stem
  split
  · exact List.cons_ne_nil _ _ ∘ Eq.symm
  · assumption

/-- Where there is more than an empty segment, the stem of a path is the path. -/
theorem octets_stem_eq_iff {path : List String} {before : List (List UInt8)} (hbefore : before ≠ [])
    (hlone : before ≠ [[]]) : octets (stem path) = before ↔ octets path = before := by
  unfold stem
  split
  · next hpath =>
    subst hpath
    exact ⟨fun hoctets ↦ absurd hoctets.symm hbefore, fun hoctets ↦ absurd hoctets.symm hlone⟩
  · rfl

theorem octets_foldl_appendSegment_iff {special : Bool} {path : List String} {segment : String}
    {rest : List String} {before : List (List UInt8)}
    (hlength : (stem path).length ≤ before.length) :
    octets ((segment :: rest).foldl (appendSegment special) path) =
        before ++ (segment :: rest).map (fun segment ↦ Utf8.encode segment.toList) ↔
      octets (stem path) = before ∧ Takes before (segment :: rest) := by
  induction rest generalizing path segment before with
  | nil =>
    simp only [List.foldl_cons, List.foldl_nil, List.map_cons, List.map_nil, Takes, and_true]
    rw [octets_appendSegment_iff hlength]
    constructor
    · rintro ⟨rfl, hplain⟩
      exact ⟨rfl, octets_stem_ne path, hplain⟩
    · rintro ⟨hstem, -, hplain⟩
      exact ⟨hstem, hplain⟩
  | cons next rest ih =>
    have hlonger : (stem (appendSegment special path segment)).length ≤
        (before ++ [Utf8.encode segment.toList]).length := by
      have hstem := length_stem_le (appendSegment special path segment)
      have happend := length_appendSegment_le special path segment
      rw [List.length_append, List.length_singleton]
      omega
    have hstep (hlone : before ++ [Utf8.encode segment.toList] ≠ [[]]) :
        octets (stem (appendSegment special path segment)) =
            before ++ [Utf8.encode segment.toList] ↔
          octets (stem path) = before ∧ Plain segment :=
      (octets_stem_eq_iff (by simp) hlone).trans (octets_appendSegment_iff hlength)
    rw [List.foldl_cons, List.map_cons, List.append_cons, ih hlonger]
    constructor
    · rintro ⟨hstem, htakes⟩
      obtain ⟨rfl, hplain⟩ := (hstep htakes.1).mp hstem
      exact ⟨rfl, octets_stem_ne path, hplain, htakes⟩
    · rintro ⟨hstem, -, hplain, htakes⟩
      exact ⟨(hstep htakes.1).mpr ⟨hstem, hplain⟩, htakes⟩

/-! ## The address of a call -/

/-- The segments without an empty last one, which is there when a path ends with a slash. -/
def withoutEmptyLast (steps : List (List UInt8)) : List (List UInt8) :=
  if steps.getLast? = some [] then steps.dropLast else steps

theorem getLast?_octets_iff {path : List String} :
    (octets path).getLast? = some [] ↔ path.getLast? = some "" := by
  simp [octets, List.getLast?_map, Percent.decode_eq_nil_iff]

theorem octets_stem (path : List String) :
    octets (stem path) = if octets path = [[]] then [] else octets path := by
  simp only [octets_eq_lone_iff, stem]
  split <;> rfl

/-- Segments are put behind the base without its empty last segment, unless nothing but an empty
segment is left of it. -/
theorem octets_stem_popEmpty (path : List String) :
    octets (stem (popEmpty path)) =
      if withoutEmptyLast (octets path) = [[]] then [] else withoutEmptyLast (octets path) := by
  unfold popEmpty
  by_cases hlast : path.getLast? = some ""
  · have htrimmed : withoutEmptyLast (octets path) = octets path.dropLast := by
      rw [withoutEmptyLast, if_pos (getLast?_octets_iff.mpr hlast)]
      exact List.map_dropLast.symm
    rw [htrimmed]
    split
    · exact octets_stem path.dropLast
    · next hshort =>
      obtain rfl : path = [""] := by
        obtain ⟨init, rfl⟩ := List.getLast?_eq_some_iff.mp hlast
        have hnothing : init = [] := by simpa [hlast] using hshort
        rw [hnothing, List.nil_append]
      rfl
  · have hkept : withoutEmptyLast (octets path) = octets path := by
      rw [withoutEmptyLast, if_neg (getLast?_octets_iff.not.mpr hlast)]
    rw [hkept, if_neg fun h ↦ hlast h.1]
    exact octets_stem path

/-- Appended segments come to stand behind the base as what they are just if the base takes them. -/
theorem octets_appended_iff {special : Bool} {path segments : List String}
    (hsegments : segments ≠ []) :
    octets (appended special path segments) = withoutEmptyLast (octets path) ++
        segments.map (fun segment ↦ Utf8.encode segment.toList) ↔
      Takes (withoutEmptyLast (octets path)) segments := by
  obtain ⟨segment, rest, rfl⟩ := List.exists_cons_of_ne_nil hsegments
  have hstem := octets_stem_popEmpty path
  have hlength : (stem (popEmpty path)).length ≤ (withoutEmptyLast (octets path)).length := by
    have hlengths := congrArg List.length hstem
    rw [octets, List.length_map] at hlengths
    rw [hlengths]
    split <;> simp
  rw [appended, octets_foldl_appendSegment_iff hlength, hstem, and_iff_right_iff_imp]
  intro htakes
  rw [if_neg htakes.1]

/-! ## No slash is added -/

theorem slashless_appendSegment {special : Bool} {path : List String} (h : Slashless path)
    (segment : String) : Slashless (appendSegment special path segment) := by
  have hstem : Slashless (stem path) := by
    unfold stem
    split
    · exact .nil
    · exact h
  unfold appendSegment
  simp only [opened_eq, List.dropLast_concat]
  split
  · exact h
  split
  · exact hstem.append .empty
  split
  · exact hstem.parent.append .empty
  · refine hstem.append fun text hmem ↦ ?_
    rw [List.mem_singleton.mp hmem, segmentText, String.toList_ofList]
    exact Percent.slash_not_mem_encode (.inl (by simp [Percent.inSegment]))

theorem slashless_appended {special : Bool} {path : List String} (h : Slashless path)
    (segments : List String) : Slashless (appended special path segments) := by
  have hpop : Slashless (popEmpty path) := by
    unfold popEmpty
    split
    · exact h.of_subset (List.dropLast_subset path)
    · exact h
  unfold appended
  induction segments using List.reverseRecOn with
  | nil => exact hpop
  | append_singleton segments segment ih =>
    rw [List.foldl_append]
    exact slashless_appendSegment ih segment

theorem path_foldl_withParameter (url : Url) (parameters : List (String × String)) :
    (parameters.foldl (fun url parameter ↦ url.withParameter parameter.1 parameter.2) url).path =
      url.path := by
  induction parameters generalizing url with
  | nil => rfl
  | cons parameter rest ih => exact ih _

end Url

open Url (Plain Takes withoutEmptyLast)

namespace Call

theorem path_url {base : Url} {path : List String} (hpath : base.path = .segments path)
    (call : Call) :
    (call.url base).path = .segments (Url.appended base.isSpecial path call.segments) := by
  rw [url, Url.path_foldl_withParameter, Url.withSegments, hpath]

/-- The path of a request is the path of the base and behind it the segments of the call just if the
base takes them. -/
theorem steps_url_iff {settings : EngineSettings} {client : Http.Client}
    (hclient : Http.Client.ofSettings settings = .ok client) (call : Call) :
    (call.request client.base).url.steps = withoutEmptyLast client.base.steps ++
        call.segments.map (fun segment ↦ Utf8.encode segment.toList) ↔
      Takes (withoutEmptyLast client.base.steps) call.segments := by
  obtain ⟨path, hpath, hslashless⟩ := Http.Client.exists_segments hclient
  have hsegments : call.segments ≠ [] := by cases call <;> exact List.cons_ne_nil _ _
  have hbase : client.base.steps = Url.octets path := Url.steps_eq hpath hslashless
  have hurl : (call.request client.base).url.steps =
      Url.octets (Url.appended client.base.isSpecial path call.segments) :=
    Url.steps_eq (path_url hpath call) (Url.slashless_appended hslashless _)
  rw [hbase, hurl, Url.octets_appended_iff hsegments]

/-- The call writes or deletes the document with that identifier in that index. -/
def IsAbout (index id : String) : Call → Prop
  | indexDocument callIndex callId _ _ | deleteDocument callIndex callId =>
    callIndex = index ∧ callId = id
  | _ => False

theorem segments_of_isAbout {call : Call} {index id : String} (h : call.IsAbout index id) :
    call.segments = [index, "_doc", id] := by
  cases call with
  | indexDocument | deleteDocument =>
    obtain ⟨rfl, rfl⟩ := h
    rfl
  | _ => exact h.elim

end Call

/-! ## Documents -/

/-- Below the base, the document has an address of its own. -/
structure Url.Addresses (base : Url) (index id : String) : Prop where
  plainIndex : Plain index
  plainId : Plain id
  /-- The path of the base is not a pair of slashes. -/
  notLone : withoutEmptyLast base.steps ≠ [[]]
  /-- An index without a name is not put behind nothing. -/
  named : index = "" → withoutEmptyLast base.steps ≠ []

theorem Url.takes_document_iff {base : Url} {index id : String} :
    Takes (withoutEmptyLast base.steps) [index, "_doc", id] ↔ base.Addresses index id := by
  have hlone : withoutEmptyLast base.steps ++ [Utf8.encode index.toList] ≠ [[]] ↔
      (index = "" → withoutEmptyLast base.steps ≠ []) := by
    rw [← not_iff_not]
    simp [List.append_eq_singleton_iff, Url.encode_eq_nil_iff, and_comm]
  have hdoc : Plain "_doc" := by
    simp [Plain]
  simp only [Takes, hlone]
  constructor
  · rintro ⟨hbase, hindex, hnamed, -, -, hid, -⟩
    exact ⟨hindex, hid, hbase, hnamed⟩
  · rintro ⟨hindex, hid, hbase, hnamed⟩
    exact ⟨hbase, hindex, hnamed, hdoc, by simp [List.append_eq_singleton_iff], hid, trivial⟩

/-- A document is written and deleted under the path of the base, its index, `_doc` and its
identifier just if the base can address it so; and then no other such document has that path. -/
theorem document_address_iff {settings : EngineSettings} {client : Http.Client}
    (hclient : Http.Client.ofSettings settings = .ok client) {call : Call} {index id : String}
    (hcall : call.IsAbout index id) :
    ((call.request client.base).url.steps = withoutEmptyLast client.base.steps ++
        [Utf8.encode index.toList, Utf8.encode "_doc".toList, Utf8.encode id.toList] ↔
      client.base.Addresses index id) ∧
    (client.base.Addresses index id → ∀ (other : Call) (otherIndex otherId : String),
      other.IsAbout otherIndex otherId → client.base.Addresses otherIndex otherId →
      (other.request client.base).url.pathString = (call.request client.base).url.pathString →
      otherIndex = index ∧ otherId = id) := by
  have hsteps {call : Call} {index id : String} (hcall : call.IsAbout index id) :
      (call.request client.base).url.steps = withoutEmptyLast client.base.steps ++
          [Utf8.encode index.toList, Utf8.encode "_doc".toList, Utf8.encode id.toList] ↔
        client.base.Addresses index id := by
    have hurl := Call.steps_url_iff hclient call
    rw [Call.segments_of_isAbout hcall, Url.takes_document_iff] at hurl
    exact hurl
  refine ⟨hsteps hcall, fun haddress other otherIndex otherId hother hotherAddress hpath ↦ ?_⟩
  have hsame : (other.request client.base).url.steps = (call.request client.base).url.steps := by
    rw [Url.steps, hpath, Url.steps]
  rw [(hsteps hcall).mpr haddress, (hsteps hother).mpr hotherAddress] at hsame
  have hparts := List.append_cancel_left hsame
  simp only [List.cons.injEq, and_true, true_and] at hparts
  exact ⟨String.toList_inj.mp (Utf8.encode_injective hparts.1),
    String.toList_inj.mp (Utf8.encode_injective hparts.2)⟩

/-- Settings with a base path, and the client that they describe. -/
def proxiedSettings : EngineSettings := ⟨"http://[::1]:9200/es/", 30000, 5000, 1000000⟩

def proxied : Http.Client :=
  ⟨⟨"http", some ⟨"", none, .ipv6 [0, 0, 0, 0, 0, 0, 0, 1], some 9200⟩, .segments ["es", ""], none,
    none⟩, 1000000⟩

theorem ofSettings_proxied : Http.Client.ofSettings proxiedSettings = .ok proxied := by
  decide +kernel

theorem document_address_iff_of_slash :
    ((Call.deleteDocument "studies" "a/b").request proxied.base).url.steps =
      withoutEmptyLast proxied.base.steps ++
        [Utf8.encode "studies".toList, Utf8.encode "_doc".toList, Utf8.encode "a/b".toList] := by
  have hcall : (Call.deleteDocument "studies" "a/b").IsAbout "studies" "a/b" := ⟨rfl, rfl⟩
  have haddress : proxied.base.Addresses "studies" "a/b" :=
    ⟨by simp [Plain], by simp [Plain], by decide +kernel, by simp⟩
  exact (document_address_iff ofSettings_proxied hcall).1.mpr haddress

/-- Identifiers with a tab and without it lead to one address, and one that is two dots to that of
no document. -/
theorem address_of_other_document :
    ((Call.deleteDocument "studies" "a\tb").request proxied.base).url.steps ≠
        withoutEmptyLast proxied.base.steps ++
          [Utf8.encode "studies".toList, Utf8.encode "_doc".toList, Utf8.encode "a\tb".toList] ∧
      (Call.deleteDocument "studies" "a\tb").request proxied.base =
        (Call.deleteDocument "studies" "ab").request proxied.base ∧
      ((Call.deleteDocument "studies" "..").request proxied.base).url.pathString =
        "/es/studies/_doc" := by
  refine ⟨?_, ?_, ?_⟩ <;> decide +kernel

end FacetSearch
