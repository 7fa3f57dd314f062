import FacetSearch.Document.BulkSummary
import FacetSearch.Proofs.JsonText
import FacetSearch.Proofs.ResponseDecoding

/-!
# Reasons of failures

The engine reports an error as an object, with a type and often with a reason, both for an action of
a bulk call and for a request that failed. The summary of a bulk call gives the reason, or else the
type. A failed request does the same unless the reason is null: its text is then that of the whole
object, which is longer than any text in it.
-/

namespace FacetSearch

namespace Json

theorem escapeChar_ne_nil (c : Char) : escapeChar c ≠ [] := by
  unfold escapeChar
  split_ifs <;> exact List.cons_ne_nil _ _

/-- A string is shorter than its JSON text. -/
theorem length_lt_quoted (s : String) : s.toList.length < (quoted s).length := by
  have hescaped (cs : List Char) : cs.length ≤ (cs.flatMap escapeChar).length := by
    induction cs with
    | nil => exact le_rfl
    | cons c rest ih =>
      have hc := List.length_pos_of_ne_nil (escapeChar_ne_nil c)
      rw [List.flatMap_cons, List.length_append, List.length_cons]
      omega
  have hs := hescaped s.toList
  rw [quoted, List.length_cons, List.length_append, List.length_singleton]
  omega

/-- The value of a member has no longer text than all members. -/
theorem length_text_le_of_mem {members : List (String × Json)} {name : String} {value : Json}
    (hmember : (name, value) ∈ members) : (text value).length ≤ (membersText members).length := by
  induction members with
  | nil => cases hmember
  | cons head rest ih =>
    obtain ⟨other, found⟩ := head
    rcases List.mem_cons.mp hmember with heq | hrest
    · obtain ⟨rfl, rfl⟩ := Prod.mk.inj heq
      rw [membersText_cons, List.length_append, List.length_cons, List.length_append]
      omega
    · have hlater := ih hrest
      cases rest with
      | nil => cases hrest
      | cons next others =>
        rw [membersText, List.length_append, List.length_cons, List.length_append, List.length_cons]
        · omega
        · exact List.cons_ne_nil _ _

/-- No string in an object is the text of the object. -/
theorem compact_ofMap_ne {members : StringMap Json} {name s : String}
    (hmember : members.get? name = some (.str s)) : (ofMap members).compact ≠ s := by
  intro heq
  have hvalue := length_text_le_of_mem (Entries.mem_of_get?_eq_some hmember)
  have hquoted := length_lt_quoted s
  have hlength : (text (ofMap members)).length = s.toList.length := by
    rw [← heq, compact, String.toList_ofList]
  rw [ofMap, text, List.length_cons, List.length_append] at hlength
  rw [text] at hvalue
  omega

end Json

/-- An error object with that type, whose reason is a string, null or missing. -/
structure DescribesError (members : StringMap Json) (type : String) (reason : Option String) :
    Prop where
  type_eq : members.get? "type" = some (.str type)
  reason : ReadsOptional Json.str? (members.get? "reason") reason

theorem DescribesError.reason_cases {members : StringMap Json} {type : String}
    {reason : Option String} (h : DescribesError members type reason) :
    (members.get? "reason" = none ∧ reason = none) ∨
      (members.get? "reason" = some .null ∧ reason = none) ∨
      ∃ text, members.get? "reason" = some (.str text) ∧ reason = some text := by
  have hreason := h.reason
  unfold ReadsOptional at hreason
  split at hreason
  · next hmissing => exact .inl ⟨hmissing, hreason⟩
  · next hnull => exact .inr (.inl ⟨hnull, hreason⟩)
  · next value _ hvalue =>
    obtain ⟨text, htext, rfl⟩ := hreason
    cases value with
    | str s =>
      obtain rfl := Option.some.inj htext
      exact .inr (.inr ⟨s, hvalue, rfl⟩)
    | null | bool _ | num _ | arr _ | obj _ => cases htext

/-! ## Bulk calls -/

theorem EngineError.decode_of_describes {members : StringMap Json} {type : String}
    {reason : Option String} (h : DescribesError members type reason) :
    (Json.ofMap members).decode decode = some ⟨type, reason⟩ := by
  have hreason : RawJson.optional RawJson.string ((members.get? "reason").map RawJson.ofJson) =
      some reason := (RawJson.optional_eq_some_iff RawJson.string_ofJson).mpr h.reason
  have htype : RawJson.needed RawJson.string ((members.get? "type").map RawJson.ofJson) =
      some type := by
    rw [h.type_eq]
    rfl
  have hfields : (RawJson.ofJson (.ofMap members)).record [.required "type", .defaultable "reason"] =
      some [(members.get? "type").map RawJson.ofJson, (members.get? "reason").map RawJson.ofJson] :=
    RawJson.memberFields_ofJsonMembers members.ascending
      (by simp [Field.required, Field.defaultable])
  rw [Json.decode, decode, hfields]
  simp only [Option.bind_eq_bind, Option.bind_some, htype, hreason]

/-- An action with an error is among the failures, with what the error says. -/
theorem BulkSummary.failure_mem_of_error {response : BulkResponse} {item : BulkItem}
    (hitem : item ∈ response.items) {result : BulkResult} (hresult : item.result? = some result)
    {error : EngineError} (herror : result.error = some error) :
    ⟨result.id.getD "", result.status, error.text⟩ ∈ (ofResponse response).failures := by
  have hfailed : result.failed = true := by
    rw [BulkResult.failed, herror]
    rfl
  have hfailure : result.failure = ⟨result.id.getD "", result.status, error.text⟩ := by
    rw [BulkResult.failure, BulkResult.reason, herror]
  rw [← hfailure]
  refine List.mem_map_of_mem (List.mem_filter.mpr ⟨?_, hfailed⟩)
  exact List.mem_filterMap.mpr ⟨item, hitem, hresult⟩

/-! ## Failed requests -/

namespace ErrorResponse

variable {members : StringMap Json} {type : String} {reason : Option String} {response : ErrorResponse}

theorem reason_eq (hresponse : response.error = .ofMap members) :
    response.reason = (((members.get? "reason" <|> members.get? "type").bind Json.str?)).getD
      (Json.ofMap members).compact := by
  rw [ErrorResponse.reason, hresponse]
  rfl

theorem reason_of_null (hresponse : response.error = .ofMap members)
    (hnull : members.get? "reason" = some .null) :
    response.reason = (Json.ofMap members).compact := by
  rw [reason_eq hresponse, hnull]
  rfl

theorem reason_eq_iff (hresponse : response.error = .ofMap members)
    (h : DescribesError members type reason) :
    response.reason = reason.getD type ↔ members.get? "reason" ≠ some .null := by
  rcases h.reason_cases with ⟨hmissing, rfl⟩ | ⟨hnull, rfl⟩ | ⟨text, htext, rfl⟩
  · rw [reason_eq hresponse, hmissing, h.type_eq]
    simp [Json.str?]
  · rw [reason_of_null hresponse hnull]
    simp [hnull, Json.compact_ofMap_ne h.type_eq]
  · rw [reason_eq hresponse, htext]
    simp [Json.str?]

end ErrorResponse

/-- The same error is reported for an action of a bulk call and for a failed request. The summary of
the bulk call gives the reason, or else the type. The failed request gives the same exactly unless
the reason is null, and then it gives the text of the whole error. -/
theorem reasons_agree_iff {members : StringMap Json} {type : String} {reason : Option String}
    (herror : DescribesError members type reason) :
    (∃ error, (Json.ofMap members).decode EngineError.decode = some error ∧
      ∀ (bulk : BulkResponse), ∀ item ∈ bulk.items, ∀ result, item.result? = some result →
        result.error = some error →
          ⟨result.id.getD "", result.status, reason.getD type⟩ ∈
            (BulkSummary.ofResponse bulk).failures) ∧
    ∀ response : ErrorResponse, response.error = .ofMap members →
      (response.reason = reason.getD type ↔ members.get? "reason" ≠ some .null) ∧
      (members.get? "reason" = some .null → response.reason = (Json.ofMap members).compact) := by
  refine ⟨⟨⟨type, reason⟩, EngineError.decode_of_describes herror, ?_⟩, fun response hresponse ↦ ?_⟩
  · intro bulk item hitem result hresult hcarried
    exact BulkSummary.failure_mem_of_error hitem hresult hcarried
  · exact ⟨ErrorResponse.reason_eq_iff hresponse herror, ErrorResponse.reason_of_null hresponse⟩

/-- An error with a reason and with a member that nobody reads, in the second action of a bulk call. -/
theorem reasons_agree_iff_of_reason :
    let members : StringMap Json := ⟨[("caused_by", .obj [("reason", .null)]),
      ("reason", .str "queue full"), ("type", .str "rejected")], by decide⟩
    let bulk (error : EngineError) : BulkResponse :=
      ⟨0, true, [⟨some ⟨none, some "s1", none, 201, none⟩, none, none, none⟩,
        ⟨none, none, none, some ⟨none, some "s2", none, 429, some error⟩⟩]⟩
    DescribesError members "rejected" (some "queue full") ∧
    (∃ error, (Json.ofMap members).decode EngineError.decode = some error ∧
      ⟨"s2", 429, "queue full"⟩ ∈ (BulkSummary.ofResponse (bulk error)).failures) ∧
    (⟨.ofMap members, some 429⟩ : ErrorResponse).reason = "queue full" := by
  intro members bulk
  have herror : DescribesError members "rejected" (some "queue full") :=
    ⟨by decide, "queue full", rfl, rfl⟩
  obtain ⟨⟨error, hdecoded, hfailures⟩, hreasons⟩ := reasons_agree_iff herror
  refine ⟨herror, ⟨error, hdecoded, ?_⟩, ?_⟩
  · exact hfailures (bulk error) _ (List.mem_cons_of_mem _ List.mem_cons_self) _ rfl rfl
  · exact ((hreasons ⟨.ofMap members, some 429⟩ rfl).1).mpr (by decide)

/-- A reason that is null leaves the type to the summary of a bulk call, and the text of the whole
error to a failed request. -/
theorem reasons_differ_for_null :
    let members : StringMap Json := ⟨[("reason", .null), ("type", .str "rejected")], by decide⟩
    DescribesError members "rejected" none ∧
    ∃ error, (Json.ofMap members).decode EngineError.decode = some error ∧
      (BulkSummary.ofResponse
          ⟨0, true, [⟨some ⟨none, some "s1", none, 429, some error⟩, none, none, none⟩]⟩).failures =
        [⟨"s1", 429, "rejected"⟩] ∧
      (⟨.ofMap members, none⟩ : ErrorResponse).reason =
        "\x7b\"reason\":null,\"type\":\"rejected\"\x7d" :=
  ⟨⟨by decide, rfl⟩, ⟨"rejected", none⟩, by decide, rfl, by decide⟩

end FacetSearch
