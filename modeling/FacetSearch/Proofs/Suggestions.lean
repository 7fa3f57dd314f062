import FacetSearch.Engine.Memory
import FacetSearch.Search.Searcher
import FacetSearch.Proofs.SearchCalls

/-!
# The field of a suggestion

Replacing a part of a text cuts the text at the part and joins the pieces again. A part whose first
character does not come again in it has no occurrences but those at the cuts. The field that is
suggested from should be the one that is searched without an ending `.analyzed`; what is taken out
is every `.analyzed`, so this holds exactly if the searched field has none but at its end.
-/

namespace FacetSearch

/-! ## Cutting texts at a part -/

variable {part text : List Char}

theorem replaceFrom_skip (part replacement : List Char) (skip : Nat) (text : List Char) :
    replaceFrom part replacement skip text = replaceFrom part replacement 0 (text.drop skip) := by
  induction text generalizing skip with
  | nil => simp [replaceFrom]
  | cons c rest ih =>
    cases skip with
    | zero => rfl
    | succ skip => rw [replaceFrom, if_pos (Nat.succ_pos _), List.drop_succ_cons, ← ih skip]; rfl

/-- The text is cut at the part into pieces that have the part nowhere in them. -/
structure Cuts (part text : List Char) (pieces : List (List Char)) : Prop where
  ne_nil : pieces ≠ []
  joined : text = part.intercalate pieces
  free : ∀ piece ∈ pieces, ¬part <:+: piece

theorem replaceFrom_append (hpart : part ≠ []) (replacement rest : List Char) :
    replaceFrom part replacement 0 (part ++ rest) =
      replacement ++ replaceFrom part replacement 0 rest := by
  obtain ⟨first, others, rfl⟩ := List.exists_cons_of_ne_nil hpart
  have hstarts : (first :: others).isPrefixOf (first :: (others ++ rest)) = true :=
    List.isPrefixOf_iff_prefix.mpr (List.prefix_append (first :: others) rest)
  rw [List.cons_append, replaceFrom, if_neg (Nat.lt_irrefl 0), if_pos hstarts, replaceFrom_skip]
  simp

theorem replaceFrom_cons {c : Char} {rest : List Char} (hstart : ¬part <+: c :: rest)
    (replacement : List Char) :
    replaceFrom part replacement 0 (c :: rest) = c :: replaceFrom part replacement 0 rest := by
  rw [replaceFrom, if_neg (Nat.lt_irrefl 0), if_neg (mt List.isPrefixOf_iff_prefix.mp hstart)]

theorem prefix_intercalate (part piece : List Char) (others : List (List Char)) :
    piece <+: part.intercalate (piece :: others) := by
  cases others with
  | nil => simp
  | cons next rest => simp [List.append_assoc]

/-- Every text can be cut at a part, and a replacement joins the pieces again. -/
theorem exists_cuts (hpart : part ≠ []) (text : List Char) :
    ∃ pieces, Cuts part text pieces ∧
      ∀ replacement, replaceFrom part replacement 0 text = replacement.intercalate pieces := by
  by_cases hstart : part <+: text
  · obtain ⟨rest, htext⟩ := hstart
    have hshorter : rest.length < text.length := by
      have hpositive := List.length_pos_of_ne_nil hpart
      rw [← htext, List.length_append]
      omega
    obtain ⟨pieces, hcuts, hreplaced⟩ := exists_cuts hpart rest
    subst htext
    refine ⟨[] :: pieces, ⟨List.cons_ne_nil _ _, ?_, ?_⟩, fun replacement ↦ ?_⟩
    · rw [List.intercalate_cons_of_ne_nil hcuts.ne_nil, ← hcuts.joined, List.nil_append]
    · exact List.forall_mem_cons.mpr ⟨fun hnil ↦ hpart (List.infix_nil.mp hnil), hcuts.free⟩
    · rw [replaceFrom_append hpart, hreplaced, List.intercalate_cons_of_ne_nil hcuts.ne_nil,
        List.nil_append]
  · cases text with
    | nil =>
      refine ⟨[[]], ⟨List.cons_ne_nil _ _, by simp, ?_⟩, fun replacement ↦ by simp [replaceFrom]⟩
      simpa using hpart
    | cons c rest =>
      obtain ⟨pieces, ⟨hne, hjoined, hfree⟩, hreplaced⟩ := exists_cuts hpart rest
      obtain ⟨piece, others, rfl⟩ := List.exists_cons_of_ne_nil hne
      obtain ⟨hpiece, hothers⟩ := List.forall_mem_cons.mp hfree
      have hgrown : c :: piece <+: c :: rest :=
        List.prefix_cons_inj c |>.mpr (hjoined ▸ prefix_intercalate part piece others)
      refine ⟨(c :: piece) :: others, ⟨List.cons_ne_nil _ _, ?_, ?_⟩, fun replacement ↦ ?_⟩
      · rw [List.intercalate_cons_cons_left, ← hjoined]
      · refine List.forall_mem_cons.mpr ⟨fun hinfix ↦ ?_, hothers⟩
        rcases List.infix_cons_iff.mp hinfix with hfront | hlater
        · exact hstart (hfront.trans hgrown)
        · exact hpiece hlater
      · rw [replaceFrom_cons hstart, hreplaced, List.intercalate_cons_cons_left]
termination_by text.length

/-! ## Where a part stands -/

/-- The first character of the part does not come again in it. -/
def StartsOnce (part : List Char) : Prop := ∃ c tail, part = c :: tail ∧ c ∉ tail

/-- Such a part does not stand across its own end. -/
theorem StartsOnce.not_across (hpart : StartsOnce part) {after skipped rest : List Char}
    (heq : part ++ after = skipped ++ (part ++ rest)) :
    skipped = [] ∨ ∃ between, skipped = part ++ between := by
  obtain ⟨c, tail, rfl, hc⟩ := hpart
  cases skipped with
  | nil => exact .inl rfl
  | cons d skipped =>
    obtain ⟨rfl, htail⟩ := List.cons.inj heq
    right
    rcases List.append_eq_append_iff.mp htail with ⟨between, rfl, -⟩ | ⟨across, hsplit, hcross⟩
    · exact ⟨between, rfl⟩
    · cases across with
      | nil => exact ⟨[], by simp [hsplit]⟩
      | cons e across =>
        obtain ⟨rfl, -⟩ := List.cons.inj hcross
        exact absurd (hsplit ▸ List.mem_append_right _ List.mem_cons_self) hc

/-- Where such a part stands in a text that is cut at it, there is a cut. -/
theorem Cuts.exists_cut (hpart : StartsOnce part) {pieces : List (List Char)}
    (hcuts : Cuts part text pieces) {before after : List Char} (htext : text = before ++ part ++ after) :
    ∃ first second, pieces = first ++ second ∧ Cuts part before first ∧ Cuts part after second := by
  obtain ⟨hne, hjoined, hfree⟩ := hcuts
  induction pieces generalizing text before with
  | nil => exact absurd rfl hne
  | cons piece others ih =>
    obtain ⟨hpiece, hothers⟩ := List.forall_mem_cons.mp hfree
    have hlone : Cuts part piece [piece] := ⟨List.cons_ne_nil _ _, by simp, by simpa using hpiece⟩
    by_cases hlast : others = []
    · rw [hlast, List.intercalate_singleton] at hjoined
      exact absurd ⟨before, after, htext.symm.trans hjoined⟩ hpiece
    have hrest : Cuts part (part.intercalate others) others := ⟨hlast, rfl, hothers⟩
    rw [List.intercalate_cons_of_ne_nil hlast, htext, List.append_assoc, List.append_assoc] at hjoined
    rcases List.append_eq_append_iff.mp hjoined with
      ⟨skipped, rfl, hskipped⟩ | ⟨skipped, rfl, hskipped⟩
    · -- The piece goes on after the start of the part, and so cannot end before the part does.
      rcases hpart.not_across hskipped with rfl | ⟨between, rfl⟩
      · rw [List.nil_append, List.append_cancel_left_eq] at hskipped
        rw [List.append_nil] at hlone hpiece ⊢
        exact ⟨[before], others, rfl, hlone, hskipped ▸ hrest⟩
      · exact absurd ⟨before, between, by simp⟩ hpiece
    · rcases hpart.not_across hskipped with rfl | ⟨between, rfl⟩
      · rw [List.nil_append, List.append_cancel_left_eq] at hskipped
        rw [List.append_nil]
        exact ⟨[piece], others, rfl, hlone, hskipped ▸ hrest⟩
      · have hwithin : part.intercalate others = between ++ part ++ after := by
          rw [List.append_assoc, List.append_cancel_left_eq] at hskipped
          rw [hskipped, List.append_assoc]
        obtain ⟨first, second, rfl, hfirst, hsecond⟩ := ih hwithin hlast rfl hothers
        refine ⟨piece :: first, second, rfl, ⟨List.cons_ne_nil _ _, ?_, ?_⟩, hsecond⟩
        · rw [List.intercalate_cons_of_ne_nil hfirst.ne_nil, ← hfirst.joined, List.append_assoc]
        · exact List.forall_mem_cons.mpr ⟨hpiece, hfirst.free⟩

theorem nil_intercalate (pieces : List (List Char)) :
    List.intercalate [] pieces = pieces.flatten := by
  induction pieces with
  | nil => rfl
  | cons piece others ih =>
    cases others with
    | nil => simp
    | cons next rest => rw [List.intercalate_cons_cons, ih, List.append_nil, ← List.flatten_cons]

/-- The pieces leave out one part less than they are. -/
theorem Cuts.length_flatten {pieces : List (List Char)} (hcuts : Cuts part text pieces) :
    text.length + part.length = pieces.flatten.length + pieces.length * part.length := by
  obtain ⟨hne, rfl, -⟩ := hcuts
  induction pieces with
  | nil => exact absurd rfl hne
  | cons piece others ih =>
    by_cases hlast : others = []
    · simp [hlast]
    · have hothers := ih hlast
      rw [List.intercalate_cons_of_ne_nil hlast, List.flatten_cons, List.length_append,
        List.length_append, List.length_append, List.length_cons, Nat.succ_mul]
      omega

theorem Cuts.eq_singleton {pieces : List (List Char)} (hcuts : Cuts part text pieces)
    (hnowhere : ¬part <:+: text) : pieces = [text] := by
  obtain ⟨hne, hjoined, -⟩ := hcuts
  obtain ⟨piece, others, rfl⟩ := List.exists_cons_of_ne_nil hne
  by_cases hlast : others = []
  · rw [hlast, List.intercalate_singleton] at hjoined
    rw [hlast, hjoined]
  · rw [List.intercalate_cons_of_ne_nil hlast] at hjoined
    exact absurd ⟨piece, part.intercalate others, hjoined.symm⟩ hnowhere

theorem StartsOnce.ne_nil (hpart : StartsOnce part) : part ≠ [] := by
  obtain ⟨c, tail, rfl, -⟩ := hpart
  exact List.cons_ne_nil c tail

/-- A text that ends in the part is cut there, and nothing comes after the cut. -/
theorem Cuts.exists_cut_at_end (hpart : StartsOnce part) {pieces : List (List Char)}
    {before : List Char} (hcuts : Cuts part (before ++ part) pieces) :
    ∃ first, pieces = first ++ [[]] ∧ Cuts part before first := by
  obtain ⟨first, second, rfl, hfirst, hsecond⟩ :=
    hcuts.exists_cut hpart (List.append_nil (before ++ part)).symm
  have hnowhere : ¬part <:+: [] := fun hnil ↦ hpart.ne_nil (List.infix_nil.mp hnil)
  exact ⟨first, by rw [hsecond.eq_singleton hnowhere], hfirst⟩

/-- Removing the part everywhere removes no more than an ending exactly if the part stands nowhere
but at the end. -/
theorem removed_eq_iff (hpart : StartsOnce part) {expected : List Char}
    (hexpected : text = expected ++ part ∨ expected = text ∧ ¬part <:+ text) :
    replaceFrom part [] 0 text = expected ↔
      ∀ before after, text = before ++ part ++ after → after = [] := by
  obtain ⟨pieces, hcuts, hreplaced⟩ := exists_cuts hpart.ne_nil text
  rw [hreplaced, nil_intercalate]
  constructor
  · intro hremoved before after htext
    obtain ⟨first, second, rfl, hfirst, hsecond⟩ := hcuts.exists_cut hpart htext
    have hlength := hcuts.length_flatten
    have hpositive := List.length_pos_of_ne_nil hpart.ne_nil
    have hbefore := List.length_pos_of_ne_nil hfirst.ne_nil
    have hafter := List.length_pos_of_ne_nil hsecond.ne_nil
    rw [hremoved] at hlength
    rcases hexpected with rfl | ⟨rfl, -⟩
    · -- There are two pieces, and the last of them is empty.
      rw [List.length_append, Nat.add_assoc, Nat.add_left_cancel_iff, ← Nat.two_mul] at hlength
      have htwo := Nat.eq_of_mul_eq_mul_right hpositive hlength
      rw [List.length_append] at htwo
      obtain ⟨piece, rfl⟩ := List.length_eq_one_iff.mp (by omega : second.length = 1)
      obtain ⟨others, hlast, -⟩ := hcuts.exists_cut_at_end hpart
      have hempty : [piece] = [[]] := (List.append_inj' hlast rfl).2
      rw [hsecond.joined, hempty, List.intercalate_singleton]
    · rw [Nat.add_left_cancel_iff] at hlength
      have hone := Nat.eq_of_mul_eq_mul_right hpositive ((Nat.one_mul _).trans hlength)
      rw [List.length_append] at hone
      omega
  · intro hend
    rcases hexpected with rfl | ⟨rfl, hending⟩
    · obtain ⟨first, rfl, hfirst⟩ := hcuts.exists_cut_at_end hpart
      have hnowhere : ¬part <:+: expected := by
        rintro ⟨before, after, rfl⟩
        have hnil := hend before (after ++ part) (List.append_assoc _ _ _)
        exact hpart.ne_nil (List.append_eq_nil_iff.mp hnil).2
      rw [hfirst.eq_singleton hnowhere]
      simp
    · have hnowhere : ¬part <:+: expected := by
        rintro ⟨before, after, htext⟩
        obtain rfl := hend before after htext.symm
        exact hending ⟨before, by rw [← htext, List.append_nil]⟩
      rw [hcuts.eq_singleton hnowhere]
      simp

/-! ## Texts with a part replaced -/

/-- The result is the text with the replacement in place of every occurrence of the part. -/
def Replaced (part replacement text result : String) : Prop :=
  ∃ pieces : List String, text = part.intercalate pieces ∧
    (∀ piece ∈ pieces, ¬part.toList <:+: piece.toList) ∧ result = replacement.intercalate pieces

/-- The rest is the text without the ending, or the text itself if it does not end so. -/
def WithoutEnding (ending text rest : String) : Prop :=
  text = rest ++ ending ∨ rest = text ∧ ∀ before, text ≠ before ++ ending

/-- Where the part stands in the text, the text ends. -/
def OnlyAtEnd (part text : String) : Prop :=
  ∀ before after, text = before ++ part ++ after → after = ""

theorem replaced_replaceAll {part : String} (hpart : part.toList ≠ []) (text replacement : String) :
    Replaced part replacement text (replaceAll text part replacement) := by
  obtain ⟨pieces, hcuts, hreplaced⟩ := exists_cuts hpart text.toList
  have hjoin (separator : String) : (separator.intercalate (pieces.map String.ofList)).toList =
      separator.toList.intercalate pieces := by
    simp [String.toList_intercalate, Function.comp_def]
  refine ⟨pieces.map String.ofList, ?_, ?_, ?_⟩
  · rw [← String.toList_inj, hjoin, ← hcuts.joined]
  · intro piece hpiece
    obtain ⟨cs, hcs, rfl⟩ := List.mem_map.mp hpiece
    rw [String.toList_ofList]
    exact hcuts.free cs hcs
  · rw [← String.toList_inj, hjoin, ← hreplaced, replaceAll, String.toList_ofList]

theorem exists_withoutEnding (ending text : String) : ∃ rest, WithoutEnding ending text rest := by
  by_cases hending : ∃ before, text = before ++ ending
  · obtain ⟨before, htext⟩ := hending
    exact ⟨before, .inl htext⟩
  · exact ⟨text, .inr ⟨rfl, not_exists.mp hending⟩⟩

theorem onlyAtEnd_iff {part text : String} :
    OnlyAtEnd part text ↔
      ∀ before after, text.toList = before ++ part.toList ++ after → after = [] := by
  constructor
  · intro hend before after htext
    have hsame : text = String.ofList before ++ part ++ String.ofList after := by
      rw [← String.toList_inj, htext, String.toList_append, String.toList_append,
        String.toList_ofList, String.toList_ofList]
    have hafter := congrArg String.toList (hend _ _ hsame)
    rwa [String.toList_ofList, String.toList_empty] at hafter
  · intro hend before after htext
    have hafter := hend before.toList after.toList (by rw [htext, String.toList_append,
      String.toList_append])
    rwa [← String.toList_inj, String.toList_empty]

/-- Removing a part of a text takes away no more than an ending exactly if the part stands nowhere
else. -/
theorem replaceAll_empty_eq_iff {part text rest : String} (hpart : StartsOnce part.toList)
    (hrest : WithoutEnding part text rest) :
    replaceAll text part "" = rest ↔ OnlyAtEnd part text := by
  rw [onlyAtEnd_iff, replaceAll, ← String.toList_inj, String.toList_ofList, String.toList_empty]
  apply removed_eq_iff hpart
  rcases hrest with rfl | ⟨rfl, hending⟩
  · exact .inl String.toList_append
  · refine .inr ⟨rfl, fun ⟨before, hbefore⟩ ↦ hending (String.ofList before) ?_⟩
    rw [← String.toList_inj, String.toList_append, String.toList_ofList, hbefore]

/-! ## Suggestions -/

/-- The cleaned text of a field of a hit, if it has the field and the text is not blank. -/
def suggestion? (field : String) (hit : Hit) : Option String :=
  let text? := hit.source.bind fun source ↦ (Source.flatten source).get? field
  (text?.map cleanSuggestion).filter fun text ↦ !text.isEmpty

/-- The program makes one search for a text in a field, fetches one field of the documents found,
and gives the texts of this field in the order of the hits. -/
def Program.Suggests (program : Program (List String)) (index : String) (limit : UInt64)
    (text searched fetched : String) : Prop :=
  ∃ request : SearchRequest,
    request.query = some (.text ⟨text, some searched, none, some "OR"⟩) ∧
    request.source = some (.patterns (some [fetched]) none) ∧
    request.start = some 0 ∧ request.size = some limit ∧ request.sort = [.bestScore] ∧
    program.MakesOnly (.search index request) ∧
    ∀ {σ : Type} (engine : Engine σ) (state : σ), (program.run engine state).result =
      (engine.reply (.search index request) state).1.map fun response : SearchResponse ↦
        response.hits.hits.filterMap (suggestion? fetched)

/-- What is fetched can be told from the calls. -/
theorem Program.Suggests.fetched_eq {program : Program (List String)} {index text searched : String}
    {limit : UInt64} {field other : String} (h : program.Suggests index limit text searched field)
    (hother : program.Suggests index limit text searched other) : field = other := by
  obtain ⟨request, -, hsource, -, -, -, hcalls, -⟩ := h
  obtain ⟨second, -, hsecond, -, -, -, hsame, -⟩ := hother
  have hcall := (hcalls Memory.engine .empty).symm.trans (hsame Memory.engine .empty)
  obtain rfl := (Call.search.inj (List.singleton_inj.mp hcall)).2
  simpa using hsource.symm.trans hsecond

namespace Searcher

theorem suggestions_eq (field : String) (hits : List Hit) :
    suggestions field hits = hits.filterMap (suggestion? field) := by
  rw [suggestions, List.filterMap_filterMap, List.map_filterMap, List.filter_filterMap]
  rfl

variable (index : String) (limit : UInt64) (locale text pattern : String)

theorem suggests_suggest :
    (suggest index limit locale text pattern).Suggests index limit text
      (localizedField pattern locale) (sourceField (localizedField pattern locale)) := by
  refine ⟨suggestRequest limit (localizedField pattern locale) text, rfl, rfl, rfl, rfl, rfl, ?_, ?_⟩
  · exact Program.makesOnly_request_bind (.search index _) fun response ↦
      .ok (suggestions (sourceField (localizedField pattern locale)) response.hits.hits)
  · intro σ engine state
    rw [suggest, Program.bind_eq, Program.run_bind, Program.run_request]
    cases hreply : (engine.reply (.search index _) state).1 with
    | error error => rfl
    | ok response => exact congrArg Except.ok (suggestions_eq _ response.hits.hits)

/-- The pattern in the locale is searched, and the field that is fetched and suggested from is the
searched one without any `.analyzed` in it. This is the searched one without an ending `.analyzed`,
or unchanged if it has none, exactly if `.analyzed` stands in it nowhere but at the end. -/
theorem suggest_fetches_iff :
    ∃ localized field expected,
      Replaced "\x7blocale\x7d" locale pattern localized ∧
      Replaced ".analyzed" "" localized field ∧
      WithoutEnding ".analyzed" localized expected ∧
      (suggest index limit locale text pattern).Suggests index limit text localized field ∧
      ((suggest index limit locale text pattern).Suggests index limit text localized expected ↔
        OnlyAtEnd ".analyzed" localized) := by
  have hsuggests := suggests_suggest index limit locale text pattern
  obtain ⟨expected, hexpected⟩ :=
    exists_withoutEnding ".analyzed" (localizedField pattern locale)
  have hstarts : StartsOnce ".analyzed".toList := ⟨'.', "analyzed".toList, by decide, by decide⟩
  refine ⟨localizedField pattern locale, sourceField (localizedField pattern locale), expected,
    replaced_replaceAll (by decide) pattern locale, replaced_replaceAll (by decide) _ "",
    hexpected, hsuggests, ?_⟩
  rw [← replaceAll_empty_eq_iff hstarts hexpected]
  constructor
  · exact hsuggests.fetched_eq
  · intro hfield
    rwa [sourceField, analyzedEnding, hfield] at hsuggests

/-- A segment that begins with `analyzed` is not the end of a field, but the field is not found. -/
theorem suggest_misses_field :
    let hit : Hit := ⟨none, "1", none, none,
      some ⟨[("author", .obj [("analyzedBy", .str "ann")])], by decide⟩⟩
    let program := suggest "studies" 10 "en" "an*" "author.analyzedBy"
    Replaced "\x7blocale\x7d" "en" "author.analyzedBy" "author.analyzedBy" ∧
    WithoutEnding ".analyzed" "author.analyzedBy" "author.analyzedBy" ∧
    ¬program.Suggests "studies" 10 "an*" "author.analyzedBy" "author.analyzedBy" ∧
    suggestion? "author.analyzedBy" hit = some "ann" ∧
    ∀ {σ : Type} (engine : Engine σ) (state : σ),
      (∀ request, (engine.reply (.search "studies" request) state).1 =
        .ok (⟨0, false, ⟨none, none, [hit]⟩, ∅⟩ : SearchResponse)) →
      (program.run engine state).result = .ok [] := by
  intro hit program
  have hlocalized : localizedField "author.analyzedBy" "en" = "author.analyzedBy" := by decide
  have hfield : sourceField "author.analyzedBy" = "authorBy" := by decide
  have hsuggests := suggests_suggest "studies" 10 "en" "an*" "author.analyzedBy"
  rw [hlocalized, hfield] at hsuggests
  refine ⟨⟨["author.analyzedBy"], by decide, by decide, by decide⟩, .inr ⟨rfl, ?_⟩, ?_, by decide, ?_⟩
  · intro before hbefore
    have hends : ".analyzed".toList <:+ "author.analyzedBy".toList :=
      ⟨before.toList, by rw [hbefore, String.toList_append]⟩
    revert hends
    decide
  · intro hclaimed
    exact absurd (hsuggests.fetched_eq hclaimed) (by decide)
  · intro σ engine state hreply
    obtain ⟨request, -, -, -, -, -, -, hresult⟩ := hsuggests
    have hnone : [hit].filterMap (suggestion? "authorBy") = [] := by decide
    rw [hresult, hreply request]
    exact congrArg Except.ok hnone

end Searcher

end FacetSearch
