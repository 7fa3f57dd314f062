import FacetSearch.Http.Client
import FacetSearch.Index.Manager
import FacetSearch.Proofs.ProgramRun
import FacetSearch.Proofs.ResponseDecoding

/-!
# What answers mean

All calls that read a body treat an answer by one rule: the body is beyond the limit, or the status
reports a failure and the body tells whether the index is absent, or the body is decoded. Whether an
index exists is told by the status alone, and the deletion of a document departs from the rule in
that it does not decode and takes an absent document for a deleted one.
`Client.answers_classified` states the rule for a client, whatever its exchange.
-/

namespace FacetSearch.Http

/-! ## Bodies -/

namespace Body

/-- As long as what was read is within the limit, the rest is read if the whole is. -/
theorem gather_eq {limit : Nat} {before : List UInt8} (hbefore : before.length ≤ limit)
    (parts : List (List UInt8)) :
    gather limit before parts =
      if limit < (before ++ parts.flatten).length then none
      else some (before ++ parts.flatten) := by
  induction parts generalizing before with
  | nil => simp [gather, hbefore]
  | cons part rest ih =>
    rw [gather, List.flatten_cons, ← List.append_assoc]
    by_cases hpart : limit < before.length + part.length
    · have hwhole : limit < (before ++ part ++ rest.flatten).length := by
        simp only [List.length_append]
        omega
      rw [if_pos hpart, if_pos hwhole]
    · have hlength : (before ++ part).length ≤ limit := by
        rw [List.length_append]
        omega
      rw [if_neg hpart, ih hlength]

/-- Only the length of the whole body counts, not how it arrives. -/
theorem read_eq (limit : UInt64) (index : String) (body : Body) :
    body.read limit index =
      if limit.toNat < body.octets.length then .error (.responseTooLarge index limit)
      else .ok body.octets := by
  have hgather : gather limit.toNat [] body.parts =
      if limit.toNat < body.octets.length then none else some body.octets :=
    gather_eq (Nat.zero_le _) body.parts
  have hannounced : body.announced.any (limit.toNat < ·) = true →
      limit.toNat < body.octets.length := by
    intro hany
    rw [Option.any_eq_true] at hany
    obtain ⟨length, hlength, hbeyond⟩ := hany
    rw [octets, ← body.exact length hlength]
    exact of_decide_eq_true hbeyond
  rw [read, hgather]
  by_cases hbeyond : limit.toNat < body.octets.length
  · simp [hbeyond]
  · rw [if_neg (mt hannounced hbeyond), if_neg hbeyond, if_neg hbeyond]

end Body

/-- Text that is well formed is read as it is. -/
theorem jsonText_map_some {units : List Utf8.Unit} {cs : List Char} (h : units = cs.map some) :
    jsonText units = cs := by
  fun_induction jsonText units generalizing cs with
  | case1 => exact (List.map_eq_nil_iff.mp h.symm).symm
  | case2 c rest ih =>
    obtain ⟨_, _, rfl, hfirst, hlater⟩ := List.map_eq_cons_iff.mp h.symm
    obtain ⟨_, _, rfl, hsecond, hrest⟩ := List.map_eq_cons_iff.mp hlater
    rw [ih hrest.symm, Option.some.inj hfirst, Option.some.inj hsecond]
  | case3 rest ih =>
    obtain ⟨_, _, rfl, -, hlater⟩ := List.map_eq_cons_iff.mp h.symm
    obtain ⟨_, _, _, hnone, -⟩ := List.map_eq_cons_iff.mp hlater
    cases hnone
  | case4 rest c _ _ ih =>
    obtain ⟨_, _, rfl, hfirst, hrest⟩ := List.map_eq_cons_iff.mp h.symm
    rw [ih hrest.symm, Option.some.inj hfirst]
  | case5 rest ih =>
    obtain ⟨_, _, _, hnone, -⟩ := List.map_eq_cons_iff.mp h.symm
    cases hnone

theorem decodeOctets_of_decode? {α : Type} {decoder : RawJson → Option α} {octets : List UInt8}
    {cs : List Char} (h : Utf8.decode? octets = some cs) :
    decodeOctets decoder octets = Json.decodeText decoder (String.ofList cs) := by
  have hunits : Utf8.units octets = cs.map some := by
    rw [← List.forall₂_eq_eq_eq, List.forall₂_map_right_iff]
    exact mapM_eq_some_iff.mp h
  rw [decodeOctets, jsonText_map_some hunits]

-- An octet that is malformed does no harm in a member that is skipped.
example : decodeOctets decodeCount (Utf8.encode "\x7b\"took\":\"".toList ++ [0xFF] ++
    Utf8.encode "\",\"count\":1\x7d".toList) = some 1 := by decide +kernel

theorem decodeOctets_map {α β : Type} (decoder : RawJson → Option α) (f : α → β)
    (octets : List UInt8) :
    decodeOctets (fun raw ↦ (decoder raw).map f) octets = (decodeOctets decoder octets).map f := by
  rw [decodeOctets, decodeOctets, Json.decodeText, Json.decodeText, Option.map_bind]
  rfl

/-- What is decoded was decoded of a value. -/
theorem exists_of_decodeOctets {α : Type} {decoder : RawJson → Option α} {octets : List UInt8}
    {value : α} (h : decodeOctets decoder octets = some value) : ∃ raw, decoder raw = some value :=
  (Option.bind_eq_some_iff.mp h).imp fun _ hraw ↦ hraw.2

/-! ## Answers -/

namespace Answer

variable (limit : UInt64) (index : String) (answer : Answer)

def Oversized : Prop := limit.toNat < answer.body.octets.length

def Succeeds : Prop := 200 ≤ answer.status ∧ answer.status < 300

instance : Decidable (answer.Oversized limit) :=
  inferInstanceAs (Decidable (limit.toNat < answer.body.octets.length))

instance : Decidable answer.Succeeds :=
  inferInstanceAs (Decidable (200 ≤ answer.status ∧ answer.status < 300))

/-- The body reports an error of the type of absent indices. -/
def ReportsAbsence : Prop :=
  ∃ response members, decodeOctets ErrorResponse.decode answer.body.octets = some response ∧
    response.error = .obj members ∧ ("type", .str "index_not_found_exception") ∈ members

theorem isSuccess_iff : answer.isSuccess = true ↔ answer.Succeeds := by
  simp [isSuccess, Succeeds]

variable {answer}

theorem reportsAbsence_iff {response : ErrorResponse}
    (hdecode : decodeOctets ErrorResponse.decode answer.body.octets = some response) :
    answer.ReportsAbsence ↔ response.errorType = some indexNotFoundType := by
  obtain ⟨raw, hraw⟩ := exists_of_decodeOctets hdecode
  rw [ErrorResponse.errorType_eq_some_iff (ErrorResponse.canonical_of_decode hraw)]
  constructor
  · rintro ⟨other, members, hother, hmembers⟩
    rw [hdecode] at hother
    exact ⟨members, Option.some.inj hother ▸ hmembers⟩
  · rintro ⟨members, hmembers⟩
    exact ⟨response, members, hdecode, hmembers⟩

theorem failure_of_reportsAbsence (h : answer.ReportsAbsence) :
    answer.failure index answer.body.octets = .indexNotFound index := by
  obtain ⟨response, _, hdecode, -⟩ := id h
  simp only [failure, hdecode]
  exact if_pos ((reportsAbsence_iff hdecode).mp h)

theorem failure_of_not_reportsAbsence (h : ¬answer.ReportsAbsence) :
    ∃ reason, answer.failure index answer.body.octets = .backend answer.status index reason := by
  unfold failure
  split
  · next response hdecode =>
    exact ⟨_, if_neg (mt (reportsAbsence_iff hdecode).mpr h)⟩
  · exact ⟨_, rfl⟩

theorem failure_eq_indexNotFound_iff :
    answer.failure index answer.body.octets = .indexNotFound index ↔ answer.ReportsAbsence := by
  refine ⟨?_, failure_of_reportsAbsence index⟩
  intro hfailure
  by_contra hother
  obtain ⟨reason, hreason⟩ := failure_of_not_reportsAbsence index hother
  rw [hreason] at hfailure
  cases hfailure

theorem exists_failure_eq_backend_iff :
    (∃ reason, answer.failure index answer.body.octets = .backend answer.status index reason) ↔
      ¬answer.ReportsAbsence := by
  refine ⟨?_, failure_of_not_reportsAbsence index⟩
  rintro ⟨reason, hreason⟩ habsent
  rw [failure_of_reportsAbsence index habsent] at hreason
  cases hreason

section Value

variable {α : Type} {limit : UInt64} {index : String} {read : RawJson → Option α}

theorem read_of_not_oversized (h : ¬answer.Oversized limit) :
    answer.body.read limit index = .ok answer.body.octets :=
  (Body.read_eq limit index answer.body).trans (if_neg h)

theorem read_of_oversized (h : answer.Oversized limit) :
    answer.body.read limit index = .error (.responseTooLarge index limit) :=
  (Body.read_eq limit index answer.body).trans (if_pos h)

theorem value_of_oversized (h : answer.Oversized limit) :
    answer.value limit index read = .error (.responseTooLarge index limit) := by
  rw [value, read_of_oversized h]
  rfl

theorem value_of_not_succeeds (hwithin : ¬answer.Oversized limit) (hfails : ¬answer.Succeeds) :
    answer.value limit index read = .error (answer.failure index answer.body.octets) := by
  have hstatus : ¬answer.isSuccess = true := mt answer.isSuccess_iff.mp hfails
  rw [value, read_of_not_oversized hwithin]
  exact if_neg hstatus

theorem value_of_succeeds (hwithin : ¬answer.Oversized limit) (hsucceeds : answer.Succeeds) :
    answer.value limit index read =
      ((decodeOctets read answer.body.octets).map Except.ok).getD (.error .json) := by
  rw [value, read_of_not_oversized hwithin]
  change (if answer.isSuccess = true then _ else _) = _
  rw [if_pos (answer.isSuccess_iff.mpr hsucceeds)]
  cases decodeOctets read answer.body.octets <;> rfl

/-- A function of what is decoded may as well be a part of the decoder. -/
theorem value_map {β : Type} (f : α → β) :
    (answer.value limit index read).map f =
      answer.value limit index fun raw ↦ (read raw).map f := by
  by_cases hoversized : answer.Oversized limit
  · rw [value_of_oversized hoversized, value_of_oversized hoversized]
    rfl
  by_cases hsucceeds : answer.Succeeds
  · rw [value_of_succeeds hoversized hsucceeds, value_of_succeeds hoversized hsucceeds,
      decodeOctets_map]
    cases decodeOctets read answer.body.octets <;> rfl
  · rw [value_of_not_succeeds hoversized hsucceeds, value_of_not_succeeds hoversized hsucceeds]
    rfl

end Value

/-- The outcome of a call that reads the body is told by the length of the body, by whether the
status reports a failure, by whether the body then says that the index is absent, and by what is
decoded of it otherwise. -/
structure Classifies {α : Type} (limit : UInt64) (index : String) (answer : Answer)
    (Decoded : α → Prop) (outcome : Except Error α) : Prop where
  oversized : outcome = .error (.responseTooLarge index limit) ↔ answer.Oversized limit
  absent : ¬answer.Oversized limit → ¬answer.Succeeds →
    (outcome = .error (.indexNotFound index) ↔ answer.ReportsAbsence)
  failed : ¬answer.Oversized limit → ¬answer.Succeeds →
    ((∃ reason, outcome = .error (.backend answer.status index reason)) ↔ ¬answer.ReportsAbsence)
  decoded : ¬answer.Oversized limit → answer.Succeeds → ∀ value,
    (outcome = .ok value ↔ Decoded value)
  malformed : ¬answer.Oversized limit → answer.Succeeds →
    (outcome = .error .json ↔ ∀ value, ¬Decoded value)

/-- Where the body decodes or reports the index absent, a call that takes an absent index for no
failure succeeds. -/
theorem Classifies.ok_or_absent_iff {α : Type} {Decoded : α → Prop} {outcome : Except Error α}
    (h : answer.Classifies limit index Decoded outcome) :
    ((∃ value, outcome = .ok value) ∨ ∃ other, outcome = .error (.indexNotFound other)) ↔
      ¬answer.Oversized limit ∧
        ((answer.Succeeds ∧ ∃ value, Decoded value) ∨ (¬answer.Succeeds ∧ answer.ReportsAbsence)) := by
  by_cases hoversized : answer.Oversized limit
  · simp [h.oversized.mpr hoversized, hoversized]
  by_cases hsucceeds : answer.Succeeds
  · by_cases hdecoded : ∃ value, Decoded value
    · obtain ⟨value, hvalue⟩ := hdecoded
      have hok := (h.decoded hoversized hsucceeds value).mpr hvalue
      exact iff_of_true (.inl ⟨value, hok⟩) ⟨hoversized, .inl ⟨hsucceeds, value, hvalue⟩⟩
    · simp [(h.malformed hoversized hsucceeds).mpr (not_exists.mp hdecoded), hsucceeds, hdecoded]
  by_cases habsent : answer.ReportsAbsence
  · have hreported := (h.absent hoversized hsucceeds).mpr habsent
    exact iff_of_true (.inr ⟨index, hreported⟩) ⟨hoversized, .inr ⟨hsucceeds, habsent⟩⟩
  · obtain ⟨reason, hreason⟩ := (h.failed hoversized hsucceeds).mpr habsent
    simp [hreason, hsucceeds, habsent]

theorem failure_ne_responseTooLarge (octets : List UInt8) :
    answer.failure index octets ≠ .responseTooLarge index limit := by
  unfold failure
  split
  · split <;> simp
  · simp

theorem classifies_value {α : Type} {read : RawJson → Option α} {Decoded : α → Prop}
    (hread : ∀ value, decodeOctets read answer.body.octets = some value ↔ Decoded value) :
    answer.Classifies limit index Decoded (answer.value limit index read) where
  oversized := by
    refine ⟨?_, value_of_oversized⟩
    intro hvalue
    by_contra hwithin
    by_cases hsucceeds : answer.Succeeds
    · rw [value_of_succeeds hwithin hsucceeds] at hvalue
      cases hread : decodeOctets read answer.body.octets <;> simp [hread] at hvalue
    · rw [value_of_not_succeeds hwithin hsucceeds] at hvalue
      exact failure_ne_responseTooLarge limit index _ (Except.error.inj hvalue)
  absent := by
    intro hwithin hfails
    rw [value_of_not_succeeds hwithin hfails, Except.error.injEq, failure_eq_indexNotFound_iff]
  failed := by
    intro hwithin hfails
    simp only [value_of_not_succeeds hwithin hfails, Except.error.injEq,
      exists_failure_eq_backend_iff]
  decoded := by
    intro hwithin hsucceeds value
    rw [value_of_succeeds hwithin hsucceeds, ← hread]
    cases decodeOctets read answer.body.octets <;> simp
  malformed := by
    intro hwithin hsucceeds
    simp only [value_of_succeeds hwithin hsucceeds, ← hread]
    cases decodeOctets read answer.body.octets <;> simp

/-! ### Existence of an index -/

theorem existence_eq_true_iff :
    answer.existence index = .ok true ↔ answer.Succeeds := by
  rw [existence, ← answer.isSuccess_iff]
  split_ifs <;> simp [*]

theorem existence_eq_false_iff :
    answer.existence index = .ok false ↔ answer.status = 404 := by
  have hfails (hstatus : answer.status = 404) : ¬answer.isSuccess = true := by
    simp [isSuccess, hstatus]
  rw [existence]
  split_ifs with hsuccess hstatus
  · simpa using fun hstatus ↦ hfails hstatus hsuccess
  · simpa using hstatus
  · simpa using hstatus

theorem existence_eq_error_iff :
    answer.existence index =
        .error (.backend answer.status index "index existence check failed") ↔
      ¬answer.Succeeds ∧ answer.status ≠ 404 := by
  rw [existence, ← answer.isSuccess_iff]
  split_ifs <;> simp [*]

/-! ### Deletions of documents -/

section Deletion

variable {limit index}

theorem deletion_of_oversized (h : answer.Oversized limit) :
    answer.deletion limit index = .error (.responseTooLarge index limit) := by
  rw [deletion, read_of_oversized h]
  rfl

theorem deletion_of_succeeds (hwithin : ¬answer.Oversized limit) (hsucceeds : answer.Succeeds) :
    answer.deletion limit index = .ok () := by
  rw [deletion, read_of_not_oversized hwithin]
  exact if_pos (answer.isSuccess_iff.mpr hsucceeds)

theorem deletion_of_absent_document (hwithin : ¬answer.Oversized limit)
    (hfails : ¬answer.Succeeds) (hstatus : answer.status = 404) (hother : ¬answer.ReportsAbsence) :
    answer.deletion limit index = .ok () := by
  obtain ⟨reason, hreason⟩ := failure_of_not_reportsAbsence index hother
  rw [deletion, read_of_not_oversized hwithin]
  change (if answer.isSuccess = true then _ else _) = _
  rw [if_neg (mt answer.isSuccess_iff.mp hfails), hreason, hstatus]
  rfl

theorem deletion_of_refused (hwithin : ¬answer.Oversized limit) (hfails : ¬answer.Succeeds)
    (hrefused : answer.status = 404 → answer.ReportsAbsence) :
    answer.deletion limit index = .error (answer.failure index answer.body.octets) := by
  rw [deletion, read_of_not_oversized hwithin]
  change (if answer.isSuccess = true then _ else _) = _
  rw [if_neg (mt answer.isSuccess_iff.mp hfails)]
  by_cases habsent : answer.ReportsAbsence
  · rw [failure_of_reportsAbsence index habsent]
  · obtain ⟨reason, hreason⟩ := failure_of_not_reportsAbsence index habsent
    rw [hreason]
    split
    · next hfound =>
      obtain ⟨hstatus, -⟩ := Error.backend.inj hfound
      exact absurd (hrefused hstatus) habsent
    · rfl

theorem deletion_eq_ok_iff :
    answer.deletion limit index = .ok () ↔
      ¬answer.Oversized limit ∧
        (answer.Succeeds ∨ answer.status = 404 ∧ ¬answer.ReportsAbsence) := by
  by_cases hoversized : answer.Oversized limit
  · simp [deletion_of_oversized hoversized, hoversized]
  by_cases hsucceeds : answer.Succeeds
  · simp [deletion_of_succeeds hoversized hsucceeds, hoversized, hsucceeds]
  by_cases habsent : answer.status = 404 ∧ ¬answer.ReportsAbsence
  · simp [deletion_of_absent_document hoversized hsucceeds habsent.1 habsent.2, hoversized, habsent]
  · have hrefused : answer.status = 404 → answer.ReportsAbsence :=
      fun hstatus ↦ by_contra fun hother ↦ habsent ⟨hstatus, hother⟩
    simp [deletion_of_refused hoversized hsucceeds hrefused, hsucceeds, habsent]

/-- The deletion of a document fails like a call that reads the body. -/
theorem value_eq_of_deletion {error : Error} (h : answer.deletion limit index = .error error)
    {α : Type} (read : RawJson → Option α) : answer.value limit index read = .error error := by
  by_cases hoversized : answer.Oversized limit
  · rw [deletion_of_oversized hoversized] at h
    rw [value_of_oversized hoversized, Except.error.inj h]
  · have hrefused : ¬(answer.Succeeds ∨ answer.status = 404 ∧ ¬answer.ReportsAbsence) := by
      intro hdeleted
      rw [deletion_eq_ok_iff.mpr ⟨hoversized, hdeleted⟩] at h
      cases h
    obtain ⟨hfails, habsent⟩ := not_or.mp hrefused
    rw [deletion_of_refused hoversized hfails
      fun hstatus ↦ by_contra fun hother ↦ habsent ⟨hstatus, hother⟩] at h
    rw [value_of_not_succeeds hoversized hfails, Except.error.inj h]

end Deletion

/-! ### The mapping of an index -/

section Mapping

variable {index}

/-- The member that is about an index: the one under its name or, if there is none, the one whose
name comes first. -/
inductive IsEntry (index : String) (members : List (String × Json)) (entry : Json) : Prop
  | named (hmember : (index, entry) ∈ members)
  | first {name : String} (hmember : (name, entry) ∈ members)
      (hleast : ∀ other ∈ members, other.1 ≠ index ∧ ¬other.1 < name)

/-- The body holds a mapping where the member that is about the index does. -/
def HoldsMapping (index : String) (body mapping : Json) : Prop :=
  ∃ members own, body = .obj members ∧ IsEntry index members (.obj own) ∧
    ("mappings", mapping) ∈ own

/-- The mapping of an index is what the body holds, or else has no members. -/
def IsMapping (index : String) (body mapping : Json) : Prop :=
  HoldsMapping index body mapping ∨ (∀ held, ¬HoldsMapping index body held) ∧ mapping = .obj []

theorem isEntry_iff {members : Entries Json} (hascending : members.Ascending) {entry : Json} :
    IsEntry index members entry ↔
      (members.get? index <|> members.head?.map Prod.snd) = some entry := by
  have hfound : members.get? index = some entry ↔ (index, entry) ∈ members :=
    Entries.get?_eq_some_iff hascending
  cases hnamed : members.get? index with
  | some found =>
    have hmember := Entries.mem_of_get?_eq_some hnamed
    rw [hnamed] at hfound
    constructor
    · rintro (hentry | ⟨-, hleast⟩)
      · exact hfound.mpr hentry
      · exact absurd rfl (hleast _ hmember).1
    · exact fun hentry ↦ .named (hfound.mp hentry)
  | none =>
    have hothers : ∀ other ∈ members, other.1 ≠ index := by
      rintro ⟨name, value⟩ hother rfl
      rw [(Entries.get?_eq_some_iff hascending).mpr hother] at hnamed
      cases hnamed
    cases members with
    | nil => exact iff_of_false (by rintro (h | ⟨h, -⟩) <;> cases h) (by simp)
    | cons head rest =>
      obtain ⟨hsmallest, -⟩ := List.pairwise_cons.mp hascending
      constructor
      · rintro (hentry | ⟨hentry, hleast⟩)
        · exact absurd rfl (hothers _ hentry)
        · rcases List.mem_cons.mp hentry with rfl | hlater
          · rfl
          · exact absurd (hsmallest _ hlater) (hleast _ List.mem_cons_self).2
      · rintro ⟨⟩
        refine .first List.mem_cons_self fun other hother ↦ ⟨hothers other hother, ?_⟩
        rcases List.mem_cons.mp hother with rfl | hlater
        · exact String.lt_irrefl _
        · exact String.lt_asymm (hsmallest other hlater)

theorem holdsMapping_iff {body : Json} (hcanonical : body.Canonical) {mapping : Json} :
    HoldsMapping index body mapping ↔
      ((body.member? index <|> (body.members?.bind List.head?).map Prod.snd).bind
        fun entry ↦ entry.member? "mappings") = some mapping := by
  cases body with
  | obj members =>
    have hentry (entry : Json) : IsEntry index members entry ↔
        ((Json.obj members).member? index <|>
          ((Json.obj members).members?.bind List.head?).map Prod.snd) = some entry :=
      isEntry_iff hcanonical.1
    have hmember {entry : Json} (h : IsEntry index members entry) :
        entry.member? "mappings" = some mapping ↔
          ∃ own, entry = .obj own ∧ ("mappings", mapping) ∈ own := by
      apply Json.member?_eq_some_iff
      cases h with
      | named h | first h => exact hcanonical.of_mem h
    rw [Option.bind_eq_some_iff]
    simp only [← hentry]
    constructor
    · rintro ⟨_, own, ⟨⟩, hown, hmapping⟩
      exact ⟨.obj own, hown, (hmember hown).mpr ⟨own, rfl, hmapping⟩⟩
    · rintro ⟨entry, hown, hmapping⟩
      obtain ⟨own, rfl, hheld⟩ := (hmember hown).mp hmapping
      exact ⟨members, own, rfl, hown, hheld⟩
  | null | bool _ | num _ | str _ | arr _ => simp [HoldsMapping, Json.member?, Json.members?]

theorem mappingOf_eq_iff {body : Json} (hcanonical : body.Canonical) {mapping : Json} :
    mappingOf index body = mapping ↔ IsMapping index body mapping := by
  simp only [IsMapping, holdsMapping_iff hcanonical, ← Option.eq_none_iff_forall_ne_some, mappingOf]
  cases (body.member? index <|> (body.members?.bind List.head?).map Prod.snd).bind
      fun entry ↦ entry.member? "mappings" with
  | some held => simp
  | none => simp [eq_comm]

-- The body names the index that an alias stands for.
example : mappingOf "studies" (.obj [("studies-1", .obj [("mappings", .obj [("dynamic", .null)])])]) =
    .obj [("dynamic", .null)] := by decide

end Mapping

end Answer

end FacetSearch.Http

namespace FacetSearch

open Http

/-! ## Calls -/

/-- The calls that take the body of an answer for a reply. -/
def Call.ReadsBody : Call → Prop
  | .bulk _ [] | .indexExists _ | .deleteDocument .. => False
  | _ => True

/-- What the octets of a body are decoded to. Calls without a reply of their own take any value. -/
def Call.Decodes (octets : List UInt8) : (call : Call) → call.Reply → Prop
  | .createIndex .., _ | .deleteIndex _, _ | .putMapping .., _ | .indexDocument .., _ =>
    ∃ body, decodeOctets RawJson.toJson? octets = some body
  | .getMapping index, mapping =>
    ∃ body, decodeOctets RawJson.toJson? octets = some body ∧ Answer.IsMapping index body mapping
  | .search .., response => decodeOctets SearchResponse.decode octets = some response
  | .count .., documents => decodeOctets decodeCount octets = some documents
  | .bulk _ (_ :: _), response => decodeOctets BulkResponse.decode octets = some response
  | .deleteByQuery .., deleted =>
    ∃ response, decodeOctets DeletionResponse.decode octets = some response ∧
      response.deleted = deleted
  | .bulk _ [], _ | .indexExists _, _ | .deleteDocument .., _ => False

/-- The calls that read a body have one way to read it, which decodes what it should. -/
theorem Call.exists_reader {call : Call} (h : call.ReadsBody) :
    ∃ read : RawJson → Option call.Reply,
      (∀ (limit : UInt64) (answer : Answer),
        answer.reply limit call = answer.value limit call.index read) ∧
      ∀ octets reply, decodeOctets read octets = some reply ↔ call.Decodes octets reply := by
  cases call with
  | createIndex | deleteIndex | putMapping | indexDocument =>
    refine ⟨fun raw ↦ raw.toJson?.map fun _ ↦ (), fun _ _ ↦ Answer.value_map _, fun octets _ ↦ ?_⟩
    rw [decodeOctets_map, Option.map_eq_some_iff]
    exact exists_congr fun _ ↦ and_iff_left rfl
  | getMapping index =>
    refine ⟨fun raw ↦ raw.toJson?.map (Answer.mappingOf index), fun _ _ ↦ Answer.value_map _,
      fun octets mapping ↦ ?_⟩
    rw [decodeOctets_map, Option.map_eq_some_iff]
    refine exists_congr fun body ↦ and_congr_right fun hbody ↦ ?_
    obtain ⟨raw, hraw⟩ := exists_of_decodeOctets hbody
    exact Answer.mappingOf_eq_iff (RawJson.canonical_of_toJson? raw hraw)
  | deleteByQuery =>
    refine ⟨fun raw ↦ (DeletionResponse.decode raw).map DeletionResponse.deleted,
      fun _ _ ↦ Answer.value_map _, fun octets deleted ↦ ?_⟩
    rw [decodeOctets_map, Option.map_eq_some_iff]
    rfl
  | search => exact ⟨SearchResponse.decode, fun _ _ ↦ rfl, fun _ _ ↦ Iff.rfl⟩
  | count => exact ⟨decodeCount, fun _ _ ↦ rfl, fun _ _ ↦ Iff.rfl⟩
  | bulk index actions =>
    cases actions with
    | nil => cases h
    | cons action rest => exact ⟨BulkResponse.decode, fun _ _ ↦ rfl, fun _ _ ↦ Iff.rfl⟩
  | indexExists | deleteDocument => cases h

theorem Http.Answer.classifies_reply (limit : UInt64) {answer : Answer} {call : Call}
    (h : call.ReadsBody) :
    answer.Classifies limit call.index (call.Decodes answer.body.octets)
      (answer.reply limit call) := by
  obtain ⟨read, hreply, hdecodes⟩ := Call.exists_reader h
  rw [hreply]
  exact classifies_value limit call.index (hdecodes answer.body.octets)

theorem Call.idleReply?_of_readsBody {call : Call} (h : call.ReadsBody) :
    call.idleReply? = none := by
  cases call with
  | bulk index actions =>
    cases actions with
    | nil => cases h
    | cons action rest => rfl
  | _ => rfl

namespace Http.Client

variable {σ : Type}

/-- The client can send the request of the call, and this is the answer to it. -/
def Receives (client : Client) (exchange : Request → StateM σ (Option Answer)) (call : Call)
    (state : σ) (answer : Answer) : Prop :=
  client.canSend = true ∧ ((exchange (call.request client.base)).run state).1 = some answer

variable {client : Client} {exchange : Request → StateM σ (Option Answer)} {state : σ}
  {answer : Answer}

theorem reply_of_receives {call : Call} (hidle : call.idleReply? = none)
    (h : client.Receives exchange call state answer) :
    ((client.engine exchange).reply call state).1 = answer.reply client.limit call := by
  obtain ⟨hsend, hanswer⟩ := h
  have hreply : ((client.engine exchange).reply call state).1 =
      client.replyOf call ((exchange (call.request client.base)).run state).1 := by
    simp only [engine, perform, hidle, hsend]
    rfl
  rw [hreply, hanswer, replyOf]

/-- The deletion of an index succeeds, fails or reports the index absent, which is no failure of
dropping it. -/
theorem run_dropIndex_eq_ok_iff (engine : Engine σ) (index : String) (state : σ) :
    ((IndexManager.dropIndex index).run engine state).result = .ok () ↔
      (engine.reply (.deleteIndex index) state).1 = .ok () ∨
        ∃ other, (engine.reply (.deleteIndex index) state).1 = .error (.indexNotFound other) := by
  rw [IndexManager.dropIndex, Program.bind_eq, Program.run_bind, Program.run_attempt,
    Run.followedBy_ok rfl, Program.run_request]
  cases hreply : (engine.reply (.deleteIndex index) state).1 with
  | ok done => simp
  | error error => cases error <;> simp

/-- Calls that read a body classify the answer by one rule, whatever the exchange. The existence of
an index is told by the status alone. The deletion of a document succeeds with any status of success
and where the document is absent but not the index, and fails otherwise like the other calls. An
index is dropped where its deletion succeeds or reports it absent. -/
theorem answers_classified (client : Client) (exchange : Request → StateM σ (Option Answer))
    (state : σ) (answer : Answer) :
    let outcome (call : Call) : Except Error call.Reply :=
      ((client.engine exchange).reply call state).1
    (∀ call : Call, call.ReadsBody → client.Receives exchange call state answer →
      answer.Classifies client.limit call.index (call.Decodes answer.body.octets) (outcome call)) ∧
    (∀ index, client.Receives exchange (.indexExists index) state answer →
      (outcome (.indexExists index) = .ok true ↔ answer.Succeeds) ∧
      (outcome (.indexExists index) = .ok false ↔ answer.status = 404) ∧
      (outcome (.indexExists index) =
          .error (.backend answer.status index "index existence check failed") ↔
        ¬answer.Succeeds ∧ answer.status ≠ 404)) ∧
    (∀ index id, client.Receives exchange (.deleteDocument index id) state answer →
      (outcome (.deleteDocument index id) = .ok () ↔ ¬answer.Oversized client.limit ∧
        (answer.Succeeds ∨ answer.status = 404 ∧ ¬answer.ReportsAbsence)) ∧
      ∀ error, outcome (.deleteDocument index id) = .error error →
        ∀ call : Call, call.ReadsBody → call.index = index →
          client.Receives exchange call state answer → outcome call = .error error) ∧
    ∀ index, client.Receives exchange (.deleteIndex index) state answer →
      let dropped := ((IndexManager.dropIndex index).run (client.engine exchange) state).result
      (dropped = .ok () ↔ outcome (.deleteIndex index) = .ok () ∨
        ∃ other, outcome (.deleteIndex index) = .error (.indexNotFound other)) ∧
      (dropped = .ok () ↔ ¬answer.Oversized client.limit ∧
        ((answer.Succeeds ∧ ∃ json, decodeOctets RawJson.toJson? answer.body.octets = some json) ∨
          (¬answer.Succeeds ∧ answer.ReportsAbsence))) := by
  intro outcome
  have houtcome {call : Call} (hreads : call.ReadsBody)
      (hreceives : client.Receives exchange call state answer) :
      outcome call = answer.reply client.limit call :=
    reply_of_receives (Call.idleReply?_of_readsBody hreads) hreceives
  have hclassifies (call : Call) (hreads : call.ReadsBody)
      (hreceives : client.Receives exchange call state answer) :
      answer.Classifies client.limit call.index (call.Decodes answer.body.octets) (outcome call) :=
    houtcome hreads hreceives ▸ Answer.classifies_reply client.limit hreads
  refine ⟨hclassifies, ?existence, ?deletions, ?drops⟩
  case existence =>
    intro index hreceives
    have hreply : outcome (.indexExists index) = answer.existence index :=
      reply_of_receives rfl hreceives
    rw [hreply]
    exact ⟨Answer.existence_eq_true_iff index, Answer.existence_eq_false_iff index,
      Answer.existence_eq_error_iff index⟩
  case deletions =>
    intro index id hreceives
    have hreply : outcome (.deleteDocument index id) = answer.deletion client.limit index :=
      reply_of_receives rfl hreceives
    rw [hreply]
    refine ⟨Answer.deletion_eq_ok_iff, ?_⟩
    rintro error herror call hreads rfl hother
    obtain ⟨read, hread, -⟩ := Call.exists_reader hreads
    rw [houtcome hreads hother, hread]
    exact Answer.value_eq_of_deletion herror read
  case drops =>
    intro index hreceives dropped
    have hdropped := run_dropIndex_eq_ok_iff (client.engine exchange) index state
    refine ⟨hdropped, hdropped.trans ?_⟩
    have hdeletion := (hclassifies (.deleteIndex index) trivial hreceives).ok_or_absent_iff
    have hdone : outcome (.deleteIndex index) = .ok () ↔
        ∃ done : Unit, outcome (.deleteIndex index) = .ok done :=
      ⟨fun hok ↦ ⟨(), hok⟩, fun ⟨_, hok⟩ ↦ hok⟩
    rw [hdone]
    exact hdeletion.trans (by simp [Call.Decodes])

/-- The same status of a missing resource, with a body that reports the index absent, and with one
that is empty. -/
theorem answers_classified_of_missing :
    let client : Client := ⟨⟨"http", none, .segments [""], none, none⟩, 46⟩
    let parts : List (List UInt8) :=
      [Utf8.encode "\x7b\"error\":\x7b\"type\":".toList,
        Utf8.encode "\"index_not_found_exception\"\x7d\x7d".toList]
    let reported : Answer := ⟨404, ⟨none, parts, nofun⟩⟩
    let silent : Answer := ⟨404, .empty⟩
    let engine (answer : Answer) : Engine Unit := client.engine fun _ ↦ pure (some answer)
    ((engine reported).reply (.count "studies" (.matchAll none)) ()).1 =
        .error (.indexNotFound "studies") ∧
      ((IndexManager.dropIndex "studies").run (engine reported) ()).result = .ok () ∧
      ((engine reported).reply (.deleteDocument "studies" "7") ()).1 ≠ .ok () ∧
      ((engine silent).reply (.deleteDocument "studies" "7") ()).1 = .ok () ∧
      ((IndexManager.dropIndex "studies").run (engine silent) ()).result ≠ .ok () := by
  intro client parts reported silent engine
  obtain ⟨hreaders, -, hdeletions, hdrops⟩ :=
    client.answers_classified (fun _ ↦ pure (some reported)) () reported
  obtain ⟨-, -, hothers, hdropothers⟩ :=
    client.answers_classified (fun _ ↦ pure (some silent)) () silent
  have hwithin : ¬reported.Oversized client.limit := by decide +kernel
  have hfails : ¬reported.Succeeds := by decide
  have hreports : reported.ReportsAbsence :=
    ⟨⟨.obj [("type", .str "index_not_found_exception")], none⟩, _, by decide +kernel, rfl,
      List.mem_singleton.mpr rfl⟩
  have hsilent : ¬silent.ReportsAbsence := by
    rintro ⟨response, _, hresponse, -⟩
    have hnone : decodeOctets ErrorResponse.decode silent.body.octets = none := by decide +kernel
    rw [hnone] at hresponse
    cases hresponse
  have hsilentfails : ¬silent.Succeeds := by decide
  have hsilentwithin : ¬silent.Oversized client.limit := by decide
  refine ⟨?count, ?drop, ?document, ?absent, ?dropped⟩
  case count =>
    have hcount := hreaders (.count "studies" (.matchAll none)) trivial ⟨rfl, rfl⟩
    exact (hcount.absent hwithin hfails).mpr hreports
  case drop => exact ((hdrops "studies" ⟨rfl, rfl⟩).2).mpr ⟨hwithin, .inr ⟨hfails, hreports⟩⟩
  case document =>
    intro hdeleted
    rcases (((hdeletions "studies" "7" ⟨rfl, rfl⟩).1).mp hdeleted).2 with hsuccess | hother
    · exact hfails hsuccess
    · exact hother.2 hreports
  case absent =>
    exact ((hothers "studies" "7" ⟨rfl, rfl⟩).1).mpr ⟨hsilentwithin, .inr ⟨rfl, hsilent⟩⟩
  case dropped =>
    intro hdropped
    rcases (((hdropothers "studies" ⟨rfl, rfl⟩).2).mp hdropped).2 with hsuccess | hreport
    · exact hsilentfails hsuccess.1
    · exact hsilent hreport.2

end Http.Client

end FacetSearch
