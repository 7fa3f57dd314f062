import FacetSearch.Engine.Call
import FacetSearch.Proofs.JsonText
import FacetSearch.Proofs.StringMapLookup

/-!
# Lines of a bulk body

The engine takes a bulk body line by line: a line with an object whose one member is named by the
verb, and after it, unless the verb deletes, a line with a document. The lines of a body are those
texts and nothing else, whatever characters stand in names, identifiers, routings and documents, and
the engine can read them in one way only.
-/

namespace FacetSearch

/-- What the engine is asked to do by a part of a bulk body. -/
structure BulkDirective where
  verb : String
  target : Json
  document : Option Json

namespace BulkDirective

/-- The line that names a verb and what it is about. -/
def head (verb : String) (target : Json) : String := (Json.obj [(verb, target)]).compact

/-- The line with the verb and, where there is a document, one with the document. -/
def lines (directive : BulkDirective) : List String :=
  head directive.verb directive.target :: directive.document.toList.map Json.compact

/-- How the engine takes lines: it is the verb alone that tells whether a document follows. -/
inductive Reads : List String → List BulkDirective → Prop where
  | done : Reads [] []
  | delete {target : Json} {rest : List String} {directives : List BulkDirective}
      (later : Reads rest directives) :
      Reads (head "delete" target :: rest) (⟨"delete", target, none⟩ :: directives)
  | write {verb : String} {target document : Json} {rest : List String}
      {directives : List BulkDirective} (hverb : verb ≠ "delete") (later : Reads rest directives) :
      Reads (head verb target :: document.compact :: rest)
        (⟨verb, target, some document⟩ :: directives)

end BulkDirective

namespace BulkAction

/-- The index, the identifier and the routing if there is one. -/
def target (index : String) (action : BulkAction) : Json :=
  .ofMembers ([("_index", .str index), ("_id", .str action.id)] ++
    action.routing.toList.map fun routing ↦ ("routing", .str routing))

/-- What an action asks for. -/
def directive (index : String) : BulkAction → BulkDirective
  | .index id routing document =>
    ⟨"index", target index (.index id routing document), some document⟩
  | .delete id routing => ⟨"delete", target index (.delete id routing), none⟩

theorem header_eq (index : String) (action : BulkAction) :
    action.header index = .obj [(action.verb, action.target index)] := by
  unfold header target Json.record
  cases action.routing <;> rfl

theorem lines_eq (index : String) (action : BulkAction) :
    action.lines index = (action.directive index).lines := by
  unfold lines
  rw [header_eq]
  cases action <;> rfl

theorem member?_target (index : String) (action : BulkAction) :
    (action.target index).member? "_id" = some (.str action.id) ∧
      (action.target index).member? "routing" = action.routing.map .str := by
  simp only [target, Json.ofMembers, Json.member?, Entries.get?_sorted]
  cases action.routing <;> simp

theorem target_injective {index : String} {action other : BulkAction}
    (hsame : action.target index = other.target index) :
    action.id = other.id ∧ action.routing = other.routing := by
  obtain ⟨hid, hrouting⟩ := member?_target index action
  rw [hsame, (member?_target index other).1] at hid
  rw [hsame, (member?_target index other).2] at hrouting
  refine ⟨(Json.str.inj (Option.some.inj hid)).symm, ?_⟩
  exact (Option.map_injective (fun _ _ ↦ Json.str.inj) hrouting).symm

/-- No two actions ask for the same. -/
theorem directive_injective (index : String) : Function.Injective (directive index) := by
  intro action other hsame
  cases action with
  | index id routing document =>
    cases other with
    | index otherId otherRouting other =>
      simp only [directive, BulkDirective.mk.injEq, Option.some.injEq, true_and] at hsame
      obtain ⟨htarget, rfl⟩ := hsame
      obtain ⟨rfl, rfl⟩ := target_injective htarget
      rfl
    | delete otherId otherRouting => simp [directive] at hsame
  | delete id routing =>
    cases other with
    | index otherId otherRouting other => simp [directive] at hsame
    | delete otherId otherRouting =>
      simp only [directive, BulkDirective.mk.injEq, and_true, true_and] at hsame
      obtain ⟨rfl, rfl⟩ := target_injective hsame
      rfl

end BulkAction

/-- The lines of a body, one or two for each action. -/
def bulkLines (index : String) (actions : List BulkAction) : List String :=
  actions.flatMap fun action ↦ (action.directive index).lines

/-! ## Reading is unique -/

namespace BulkDirective

theorem head_inj {verb other : String} {target others : Json}
    (hsame : head verb target = head other others) : verb = other ∧ target = others := by
  simpa using Json.compact_injective hsame

theorem Reads.cons_cases {line : String} {rest : List String} {directives : List BulkDirective}
    (hreads : Reads (line :: rest) directives) :
    (∃ target later, line = head "delete" target ∧ Reads rest later ∧
        directives = ⟨"delete", target, none⟩ :: later) ∨
      ∃ verb target document lines later, verb ≠ "delete" ∧ line = head verb target ∧
        rest = document.compact :: lines ∧ Reads lines later ∧
        directives = ⟨verb, target, some document⟩ :: later := by
  cases hreads with
  | delete later => exact .inl ⟨_, _, rfl, later, rfl⟩
  | write hverb later => exact .inr ⟨_, _, _, _, _, hverb, rfl, rfl, later, rfl⟩

/-- Lines are read in one way at most. -/
theorem Reads.unique {lines : List String} {directives others : List BulkDirective}
    (hdirectives : Reads lines directives) (hothers : Reads lines others) :
    directives = others := by
  induction hdirectives generalizing others with
  | done =>
    cases hothers
    rfl
  | delete later ih =>
    obtain ⟨_, _, hhead, hlater, rfl⟩ | ⟨_, _, _, _, _, hverb, hhead, -⟩ := hothers.cons_cases
    · obtain ⟨-, rfl⟩ := head_inj hhead
      rw [ih hlater]
    · exact absurd (head_inj hhead).1.symm hverb
  | write hverb later ih =>
    obtain ⟨_, _, hhead, -⟩ | ⟨_, _, _, _, _, -, hhead, hrest, hlater, rfl⟩ := hothers.cons_cases
    · exact absurd (head_inj hhead).1 hverb
    · obtain ⟨rfl, rfl⟩ := head_inj hhead
      obtain ⟨hdocument, rfl⟩ := List.cons.inj hrest
      obtain rfl := Json.compact_injective hdocument
      rw [ih hlater]

/-- The lines of actions are read as what the actions ask for. -/
theorem reads_directives (index : String) (actions : List BulkAction) :
    Reads (bulkLines index actions) (actions.map (BulkAction.directive index)) := by
  induction actions with
  | nil => exact .done
  | cons action rest ih =>
    cases action with
    | index id routing document => exact .write (show "index" ≠ "delete" by decide) ih
    | delete id routing => exact .delete ih

end BulkDirective

/-! ## Splitting a body into lines -/

/-- Terminated lines are the lines with line breaks between them and before an empty last one. -/
theorem flatMap_terminated (lines : List (List Char)) :
    (lines.flatMap fun line ↦ line ++ ['\n']) = ['\n'].intercalate (lines ++ [[]]) := by
  induction lines with
  | nil => rfl
  | cons line rest ih =>
    rw [List.flatMap_cons, ih, List.cons_append]
    cases rest <;> simp [List.intercalate]

theorem getLast?_terminated {lines : List (List Char)} (hlines : lines ≠ []) :
    (lines.flatMap fun line ↦ line ++ ['\n']).getLast? = some '\n' := by
  obtain ⟨init, last, rfl⟩ := (List.eq_nil_or_concat lines).resolve_left hlines
  simp [← List.append_assoc]

theorem toList_bulkBody (index : String) (actions : List BulkAction) :
    (bulkBody index actions).toList =
      ((bulkLines index actions).map String.toList).flatMap fun line ↦ line ++ ['\n'] := by
  rw [bulkBody, String.toList_join, List.flatMap_map, List.flatMap_map]
  have hlines : actions.flatMap (BulkAction.lines index) = bulkLines index actions :=
    List.flatMap_congr fun action _ ↦ action.lines_eq index
  simp [hlines]

theorem newline_not_mem_lines {index : String} {actions : List BulkAction} {line : String}
    (hline : line ∈ bulkLines index actions) : '\n' ∉ line.toList := by
  obtain ⟨action, -, hline⟩ := List.mem_flatMap.mp hline
  obtain ⟨json, rfl⟩ : ∃ json : Json, json.compact = line := by
    rcases List.mem_cons.mp hline with rfl | hdocument
    · exact ⟨_, rfl⟩
    · obtain ⟨document, -, hdocument⟩ := List.mem_map.mp hdocument
      exact ⟨document, hdocument⟩
  exact json.newline_not_mem_compact

theorem splitOn_bulkBody (index : String) (actions : List BulkAction) :
    (bulkBody index actions).toList.splitOn '\n' =
      (bulkLines index actions).map String.toList ++ [[]] := by
  rw [toList_bulkBody, flatMap_terminated, List.splitOn_intercalate]
  · intro line hline
    rcases List.mem_append.mp hline with hline | hlast
    · obtain ⟨text, htext, rfl⟩ := List.mem_map.mp hline
      exact newline_not_mem_lines htext
    · simp_all
  · simp

/-- A body that is not empty ends with a line break; between the line breaks of a body stand the
action lines in order, each with its document line after it where there is one; the engine can take
them for what the actions ask for and for nothing else; and no other actions on the index have that
body. -/
theorem bulkBody_framed (index : String) (actions : List BulkAction) :
    (actions ≠ [] → (bulkBody index actions).toList.getLast? = some '\n') ∧
      (bulkBody index actions).toList.splitOn '\n' =
        (bulkLines index actions).map String.toList ++ [[]] ∧
      (∀ directives, BulkDirective.Reads (bulkLines index actions) directives ↔
        directives = actions.map (BulkAction.directive index)) ∧
      ∀ others, bulkBody index others = bulkBody index actions → others = actions := by
  refine ⟨fun hactions ↦ ?_, splitOn_bulkBody index actions, fun directives ↦ ⟨fun hreads ↦ ?_, ?_⟩,
    fun others hsame ↦ ?_⟩
  · have hlines : bulkLines index actions ≠ [] := by
      obtain ⟨action, rest, rfl⟩ := List.exists_cons_of_ne_nil hactions
      exact List.cons_ne_nil _ _
    rw [toList_bulkBody]
    exact getLast?_terminated (by simpa using hlines)
  · exact hreads.unique (BulkDirective.reads_directives index actions)
  · rintro rfl
    exact BulkDirective.reads_directives index actions
  · have hlines : bulkLines index others = bulkLines index actions := by
      have hsplit := congrArg (fun body : String ↦ body.toList.splitOn '\n') hsame
      simp only [splitOn_bulkBody] at hsplit
      exact List.map_injective_iff.mpr (fun _ _ ↦ String.toList_inj.mp)
        (List.append_cancel_right hsplit)
    have hreads := BulkDirective.reads_directives index others
    rw [hlines] at hreads
    exact List.map_injective_iff.mpr (BulkAction.directive_injective index)
      (hreads.unique (BulkDirective.reads_directives index actions))

theorem bulkBody_framed_of_line_breaks :
    (bulkBody "studies" [.index "1\n2" (some "\r")
      (.obj [("\n", .str "\n\x7b\"delete\":\x7b\x7d\x7d\n")])]).toList.getLast? = some '\n' :=
  (bulkBody_framed _ _).1 (List.cons_ne_nil _ _)

end FacetSearch
