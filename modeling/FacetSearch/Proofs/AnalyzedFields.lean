import FacetSearch.Index.Mapping
import FacetSearch.Proofs.TextTokens
import Mathlib.Logic.Relation

/-!
# Analyzed fields

A field is analyzed exactly if the names that are met on some way down from the root of the mapping
have the segments of the field, and then `analyzed`, as a subsequence. Members that are added to a
mapping only add ways, and fewer segments ask for less.
-/

namespace FacetSearch

namespace Json

/-- These names are met one below the other on a way down from a value. Elements of arrays have no
name. -/
inductive Descent : Json → List String → Prop
  | start (json : Json) : Descent json []
  | member {members : List (String × Json)} {name : String} {value : Json} {names : List String} :
      (name, value) ∈ members → Descent value names → Descent (obj members) (name :: names)
  | element {elements : List Json} {value : Json} {names : List String} :
      value ∈ elements → Descent value names → Descent (arr elements) names

/-- One member more, at whatever place and of whatever name, in an object anywhere in a value. -/
inductive Adds : Json → Json → Prop
  | here (before after : List (String × Json)) (name : String) (value : Json) :
      Adds (obj (before ++ after)) (obj (before ++ (name, value) :: after))
  | member (before after : List (String × Json)) (name : String) {value grown : Json} :
      Adds value grown →
        Adds (obj (before ++ (name, value) :: after)) (obj (before ++ (name, grown) :: after))
  | element (before after : List Json) {value grown : Json} :
      Adds value grown → Adds (arr (before ++ value :: after)) (arr (before ++ grown :: after))

/-- A way down is still there when a member is added. -/
theorem Descent.adds {json grown : Json} (hadds : Adds json grown) {names : List String}
    (hnames : Descent json names) : Descent grown names := by
  induction hadds generalizing names with
  | here before after name value =>
    cases hnames with
    | start => exact .start _
    | member hmember hvalue =>
      refine .member ?_ hvalue
      rw [List.mem_append] at hmember ⊢
      exact hmember.imp_right (List.mem_cons_of_mem _)
  | member before after name hvalue ih =>
    cases hnames with
    | start => exact .start _
    | member hmember hother =>
      rw [List.mem_append, List.mem_cons] at hmember
      rcases hmember with hmember | hsame | hmember
      · exact .member (List.mem_append_left _ hmember) hother
      · obtain ⟨rfl, rfl⟩ := Prod.mk.inj hsame
        exact .member (List.mem_append_right _ List.mem_cons_self) (ih hother)
      · exact .member (List.mem_append_right _ (List.mem_cons_of_mem _ hmember)) hother
  | element before after hvalue ih =>
    cases hnames with
    | start => exact .start _
    | element hmember hother =>
      rw [List.mem_append, List.mem_cons] at hmember
      rcases hmember with hmember | rfl | hmember
      · exact .element (List.mem_append_left _ hmember) hother
      · exact .element (List.mem_append_right _ List.mem_cons_self) (ih hother)
      · exact .element (List.mem_append_right _ (List.mem_cons_of_mem _ hmember)) hother

theorem Descent.grows {json grown : Json} (hgrows : Relation.ReflTransGen Adds json grown)
    {names : List String} (hnames : Descent json names) : Descent grown names := by
  induction hgrows with
  | refl => exact hnames
  | tail _ hadds ih => exact ih.adds hadds

end Json

namespace Mapping

open Json (Descent)

/-- What stands between the dots of a field, as far as there is anything. -/
def fieldNames (field : String) : List String :=
  ((field.toList.splitOn '.').filter (· ≠ [])).map String.ofList

theorem segments_eq_fieldNames (field : String) : segments field = fieldNames field := by
  rw [segments, fieldNames, Text.pieces_eq_splitOn]
  congr 2
  funext piece
  cases piece <;> rfl

theorem meets_nil (json : Json) : meets [] json = true := by
  cases json <;> rfl

theorem meetsElements_iff {path : List String} {elements : List Json} :
    meetsElements path elements = true ↔ ∃ value ∈ elements, meets path value = true := by
  induction elements with
  | nil => simp [meetsElements]
  | cons element rest ih => rw [meetsElements, Bool.or_eq_true, ih, List.exists_mem_cons_iff]

theorem meetsMembers_cons_iff {first : String} {path : List String}
    {members : List (String × Json)} :
    meetsMembers (first :: path) members = true ↔ ∃ member ∈ members,
      member.1 = first ∧ meets path member.2 = true ∨ meets (first :: path) member.2 = true := by
  induction members with
  | nil => simp [meetsMembers]
  | cons member rest ih =>
    rw [meetsMembers, Bool.or_eq_true, ih, List.exists_mem_cons_iff, Bool.or_eq_true,
      Bool.and_eq_true, beq_iff_eq]

/-- Names that are met in order are a subsequence of those on the way: at each member the search
may take its name or pass it by. -/
theorem meets_of_descent {json : Json} {names : List String} (hnames : Descent json names)
    {path : List String} (hpath : path.Sublist names) : meets path json = true := by
  induction hnames generalizing path with
  | start json =>
    rw [List.sublist_nil.mp hpath]
    exact meets_nil json
  | member hmember _ ih =>
    cases path with
    | nil => exact meets_nil _
    | cons first path =>
      rw [meets, List.isEmpty_cons, Bool.false_or, meetsMembers_cons_iff]
      rcases List.sublist_cons_iff.mp hpath with hpassed | ⟨rest, htaken, hrest⟩
      · exact ⟨_, hmember, .inr (ih hpassed)⟩
      · obtain ⟨rfl, rfl⟩ := List.cons.inj htaken
        exact ⟨_, hmember, .inl ⟨rfl, ih hrest⟩⟩
  | element hmember _ ih =>
    rw [meets, Bool.or_eq_true, meetsElements_iff]
    exact .inr ⟨_, hmember, ih hpath⟩

mutual

theorem exists_descent : (json : Json) → {path : List String} → meets path json = true →
    ∃ names, Descent json names ∧ path.Sublist names
  | json, [], _ => ⟨[], .start json, List.nil_sublist _⟩
  | .obj members, first :: path, hmeets => by
    rw [meets, List.isEmpty_cons, Bool.false_or] at hmeets
    obtain ⟨member, hmember, names, hnames, hpath⟩ := exists_descent_member members hmeets
    exact ⟨member.1 :: names, .member hmember hnames, hpath⟩
  | .arr elements, first :: path, hmeets => by
    rw [meets, List.isEmpty_cons, Bool.false_or] at hmeets
    obtain ⟨value, hvalue, names, hnames, hpath⟩ := exists_descent_element elements hmeets
    exact ⟨names, .element hvalue hnames, hpath⟩
  | .null, _ :: _, hmeets | .bool _, _ :: _, hmeets | .num _, _ :: _, hmeets
  | .str _, _ :: _, hmeets => by
    simp [meets] at hmeets

theorem exists_descent_element : (elements : List Json) → {path : List String} →
    meetsElements path elements = true →
      ∃ value ∈ elements, ∃ names, Descent value names ∧ path.Sublist names
  | [], _, hmeets => by simp [meetsElements] at hmeets
  | element :: rest, path, hmeets => by
    rw [meetsElements, Bool.or_eq_true] at hmeets
    rcases hmeets with hhere | hrest
    · exact ⟨element, List.mem_cons_self, exists_descent element hhere⟩
    · obtain ⟨value, hvalue, hnames⟩ := exists_descent_element rest hrest
      exact ⟨value, List.mem_cons_of_mem _ hvalue, hnames⟩

theorem exists_descent_member : (members : List (String × Json)) → {first : String} →
    {path : List String} → meetsMembers (first :: path) members = true →
      ∃ member ∈ members, ∃ names, Descent member.2 names ∧
        (first :: path).Sublist (member.1 :: names)
  | [], _, _, hmeets => by simp [meetsMembers] at hmeets
  | (name, value) :: rest, first, path, hmeets => by
    simp only [meetsMembers, Bool.or_eq_true, Bool.and_eq_true, beq_iff_eq] at hmeets
    rcases hmeets with (⟨rfl, htaken⟩ | hpassed) | hrest
    · obtain ⟨names, hnames, hpath⟩ := exists_descent value htaken
      exact ⟨_, List.mem_cons_self, names, hnames, hpath.cons_cons name⟩
    · obtain ⟨names, hnames, hpath⟩ := exists_descent value hpassed
      exact ⟨_, List.mem_cons_self, names, hnames, hpath.cons name⟩
    · obtain ⟨member, hmember, hnames⟩ := exists_descent_member rest hrest
      exact ⟨member, List.mem_cons_of_mem _ hmember, hnames⟩

end

theorem meets_iff {json : Json} {path : List String} :
    meets path json = true ↔ ∃ names, Descent json names ∧ path.Sublist names :=
  ⟨exists_descent json, fun ⟨_, hnames, hpath⟩ ↦ meets_of_descent hnames hpath⟩

/-- A field is analyzed exactly if its names and then `analyzed` are met in this order on a way down
from the root, whatever is met between them. It stays so when members are added anywhere in the
mapping, and each field with fewer of the names is analyzed too. -/
theorem isAnalyzed_iff_descent (mapping : Json) (field : String) :
    (isAnalyzed mapping field = true ↔
      ∃ names, Descent mapping names ∧ (fieldNames field ++ ["analyzed"]).Sublist names) ∧
    (∀ grown, Relation.ReflTransGen Json.Adds mapping grown →
      isAnalyzed mapping field = true → isAnalyzed grown field = true) ∧
    ∀ shorter, (fieldNames shorter).Sublist (fieldNames field) →
      isAnalyzed mapping field = true → isAnalyzed mapping shorter = true := by
  have hiff (mapping : Json) (field : String) : isAnalyzed mapping field = true ↔
      ∃ names, Descent mapping names ∧ (fieldNames field ++ ["analyzed"]).Sublist names := by
    rw [isAnalyzed, segments_eq_fieldNames, meets_iff]
  refine ⟨hiff mapping field, fun grown hgrows hanalyzed ↦ ?_, fun shorter hshorter hanalyzed ↦ ?_⟩
  · obtain ⟨names, hnames, hfield⟩ := (hiff mapping field).mp hanalyzed
    exact (hiff grown field).mpr ⟨names, hnames.grows hgrows, hfield⟩
  · obtain ⟨names, hnames, hfield⟩ := (hiff mapping field).mp hanalyzed
    have hfewer : (fieldNames shorter ++ ["analyzed"]).Sublist names :=
      (hshorter.append_right _).trans hfield
    exact (hiff mapping shorter).mpr ⟨names, hnames, hfewer⟩

/-- In the mapping of a field `en` below `name`, with the analyzed form below that, `name.en` is
analyzed. So it is when `type` is added beside the form, and so is `en` alone. -/
theorem isAnalyzed_iff_descent_of_subfield :
    let form : List (String × Json) := [("analyzed", .obj [])]
    let mapping := fun inner ↦ Json.obj [("name", .arr [.obj [("en", .obj inner)]])]
    (Relation.ReflTransGen Json.Adds (mapping form) (mapping (form ++ [("type", .str "text")])) ∧
      (fieldNames "en").Sublist (fieldNames "name.en") ∧
      isAnalyzed (mapping form) "name.en" = true) ∧
    isAnalyzed (mapping (form ++ [("type", .str "text")])) "name.en" = true ∧
      isAnalyzed (mapping form) "en" = true := by
  intro form mapping
  obtain ⟨hiff, hgrows, hshorter⟩ := isAnalyzed_iff_descent (mapping form) "name.en"
  have hdescent : Descent (mapping form) ["name", "en", "analyzed"] :=
    .member List.mem_cons_self (.element List.mem_cons_self (.member List.mem_cons_self
      (.member List.mem_cons_self (.start _))))
  have hnames : fieldNames "name.en" ++ ["analyzed"] = ["name", "en", "analyzed"] := by decide
  have hanalyzed : isAnalyzed (mapping form) "name.en" = true :=
    hiff.mpr ⟨_, hdescent, hnames ▸ List.Sublist.refl _⟩
  have hadds : Json.Adds (mapping form) (mapping (form ++ [("type", .str "text")])) :=
    .member [] [] "name" (.element [] [] (.member [] [] "en" (.here form [] "type" (.str "text"))))
  have hgrown := Relation.ReflTransGen.single hadds
  have hfewer : (fieldNames "en").Sublist (fieldNames "name.en") := by decide
  exact ⟨⟨hgrown, hfewer, hanalyzed⟩, hgrows _ hgrown hanalyzed, hshorter "en" hfewer hanalyzed⟩

end Mapping

end FacetSearch
