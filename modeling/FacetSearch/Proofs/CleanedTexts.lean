import FacetSearch.Source
import FacetSearch.Proofs.LowerCaseText
import FacetSearch.Proofs.TextTokens

/-!
# Cleaned suggestions

The words of a text are told by the blanks around them, so a text that joins words by single spaces
has just these words. A cleaned suggestion joins the words of the lower-case form, without their marks
and as far as something is left of them. Such texts are exactly those that cleaning leaves as they
are; taking marks out can bring no capital letter back, so cleaning once is enough.
-/

namespace FacetSearch

namespace Text

/-! ## Words of a text -/

/-- A text that is not empty and has no blanks. -/
structure IsWord (cs : List Char) : Prop where
  ne_nil : cs ≠ []
  solid : ∀ c ∈ cs, isBlank c = false

/-- The text has these words, in order, and no other characters than theirs and blanks; two words
have a blank between them. -/
inductive InWords : List Char → List (List Char) → Prop
  | nil : InWords [] []
  | blank {c : Char} {rest : List Char} {words : List (List Char)} (hc : isBlank c = true)
      (hrest : InWords rest words) : InWords (c :: rest) words
  | word {word rest : List Char} {words : List (List Char)} (hword : IsWord word)
      (hend : ∀ c ∈ rest.head?, isBlank c = true) (hrest : InWords rest words) :
      InWords (word ++ rest) (word :: words)

theorem wordsFrom_append {word : List Char} (hword : ∀ c ∈ word, isBlank c = false)
    (read rest : List Char) :
    wordsFrom read (word ++ rest) = wordsFrom (word.reverse ++ read) rest := by
  induction word generalizing read with
  | nil => rfl
  | cons c others ih =>
    obtain ⟨hc, hothers⟩ := List.forall_mem_cons.mp hword
    rw [List.cons_append, wordsFrom, if_neg (by simp [hc]), ih hothers, List.reverse_cons,
      List.append_assoc, List.singleton_append]

theorem wordsFrom_of_ne_nil {read rest : List Char} (hread : read ≠ [])
    (hend : ∀ c ∈ rest.head?, isBlank c = true) :
    wordsFrom read rest = read.reverse :: words rest := by
  cases rest with
  | nil => simp [wordsFrom, words, hread]
  | cons c rest =>
    have hc : isBlank c = true := hend c rfl
    simp [wordsFrom, words, hc, hread]

theorem inWords_wordsFrom {read : List Char} (hread : ∀ c ∈ read, isBlank c = false)
    (cs : List Char) : InWords (read.reverse ++ cs) (wordsFrom read cs) := by
  induction cs generalizing read with
  | nil =>
    by_cases hne : read = []
    · rw [hne]
      exact .nil
    · rw [wordsFrom_of_ne_nil hne (by simp)]
      exact .word ⟨by simpa using hne, by simpa using hread⟩ (by simp) .nil
  | cons c rest ih =>
    by_cases hc : isBlank c = true
    · have hlater : InWords rest (words rest) := ih (List.forall_mem_nil _)
      have hrest : InWords (c :: rest) (words rest) := .blank hc hlater
      by_cases hne : read = []
      · rw [hne, wordsFrom, if_pos hc]
        exact hrest
      · have hend : ∀ d ∈ (c :: rest).head?, isBlank d = true := by simpa using hc
        rw [wordsFrom_of_ne_nil hne hend, words, wordsFrom, if_pos hc]
        exact .word ⟨by simpa using hne, by simpa using hread⟩ hend hrest
    · have hgrown := ih (List.forall_mem_cons.mpr ⟨Bool.eq_false_iff.mpr hc, hread⟩)
      rw [List.reverse_cons, List.append_assoc, List.singleton_append] at hgrown
      rw [wordsFrom, if_neg hc]
      exact hgrown

/-- A text has the words that it is split into, and no others. -/
theorem inWords_iff {cs : List Char} {list : List (List Char)} :
    InWords cs list ↔ words cs = list := by
  constructor
  · intro h
    induction h with
    | nil => rfl
    | blank hc _ ih =>
      rw [← ih, words, wordsFrom, if_pos hc]
      rfl
    | @word word rest _ hword hend _ ih =>
      rw [← ih, words, wordsFrom_append hword.solid, List.append_nil,
        wordsFrom_of_ne_nil (mt List.reverse_eq_nil_iff.mp hword.ne_nil) hend,
        List.reverse_reverse]
  · rintro rfl
    exact inWords_wordsFrom (List.forall_mem_nil _) cs

theorem InWords.of_mem {cs word : List Char} {list : List (List Char)} (h : InWords cs list)
    (hmem : word ∈ list) : IsWord word ∧ word ⊆ cs := by
  induction h with
  | nil => cases hmem
  | blank _ _ ih => exact (ih hmem).imp_right (List.subset_cons_of_subset _)
  | word hword _ _ ih =>
    rcases List.mem_cons.mp hmem with rfl | hmem
    · exact ⟨hword, List.subset_append_left _ _⟩
    · exact (ih hmem).imp_right fun hsubset ↦ List.subset_append_of_subset_right _ hsubset

/-- Words that single spaces join are the words of the joined text. -/
theorem inWords_intercalate {list : List (List Char)} (hlist : ∀ word ∈ list, IsWord word) :
    InWords ([' '].intercalate list) list := by
  induction list with
  | nil => exact .nil
  | cons word others ih =>
    obtain ⟨hword, hothers⟩ := List.forall_mem_cons.mp hlist
    by_cases hlast : others = []
    · have hlone : InWords (word ++ []) [word] := .word hword (by simp) .nil
      rw [List.append_nil] at hlone
      rwa [hlast, List.intercalate_singleton]
    · have hspace : isBlank ' ' = true := by decide
      rw [List.intercalate_cons_of_ne_nil hlast, List.append_assoc]
      exact .word hword (by simpa using hspace) (.blank hspace (ih hothers))

end Text

open Text

/-! ## Cleaned texts -/

/-- The marks that are taken out of words. -/
def wordMarks : List Char := ['[', ']', '(', ')', '{', '}', ':', ',']

/-- A text of words without marks, in lower case, that single spaces join. -/
structure IsCleaned (text : String) : Prop where
  unmarked : ∀ c ∈ text.toList, c ∉ wordMarks
  lower : ∀ c ∈ text.toList, IsLower c
  spaced : ∃ list, (∀ word ∈ list, IsWord word) ∧ text.toList = [' '].intercalate list

/-- The words without their marks, those left out of which nothing remains. -/
def withoutMarks (list : List (List Char)) : List (List Char) :=
  (list.map fun word ↦ word.filter (· ∉ wordMarks)).filter (· ≠ [])

theorem Text.InWords.of_mem_withoutMarks {cs word : List Char} {list : List (List Char)}
    (h : InWords cs list) (hmem : word ∈ withoutMarks list) :
    IsWord word ∧ ∀ c ∈ word, c ∈ cs ∧ c ∉ wordMarks := by
  obtain ⟨hmem, hne⟩ := List.mem_filter.mp hmem
  obtain ⟨whole, hwhole, rfl⟩ := List.mem_map.mp hmem
  obtain ⟨hword, hsubset⟩ := h.of_mem hwhole
  have hof {c : Char} (hc : c ∈ whole.filter (· ∉ wordMarks)) : c ∈ whole ∧ c ∉ wordMarks := by
    simpa using List.mem_filter.mp hc
  exact ⟨⟨by simpa using hne, fun c hc ↦ hword.solid c (hof hc).1⟩,
    fun c hc ↦ (hof hc).imp_left fun hwhole ↦ hsubset hwhole⟩

theorem withoutMarks_eq_self {list : List (List Char)}
    (hlist : ∀ word ∈ list, word ≠ [] ∧ ∀ c ∈ word, c ∉ wordMarks) : withoutMarks list = list := by
  have hsame : ∀ word ∈ list, word.filter (· ∉ wordMarks) = id word := fun word hword ↦
    List.filter_eq_self.mpr fun c hc ↦ by simpa using (hlist word hword).2 c hc
  rw [withoutMarks, List.map_congr_left hsame, List.map_id, List.filter_eq_self]
  exact fun word hword ↦ by simpa using (hlist word hword).1

theorem toList_cleanSuggestion (value : String) : (cleanSuggestion value).toList =
    [' '].intercalate (withoutMarks (words (lowerCase value.toList))) := by
  have hnoise (c : Char) : (!isNoise c) = decide (c ∉ wordMarks) := by
    rw [decide_not, ← List.contains_eq_mem]
    rfl
  have hempty (word : List Char) : (!(String.ofList word).isEmpty) = decide (word ≠ []) := by
    rw [decide_not, Bool.not_inj_iff, Bool.eq_iff_iff, String.isEmpty_iff, decide_eq_true_eq,
      ofList_eq_iff, String.toList_empty]
  have hlist (list : List (List Char)) :
      ((list.map fun word ↦ String.ofList (word.filter fun c ↦ !isNoise c)).filter
        fun word ↦ !word.isEmpty).map String.toList = withoutMarks list := by
    simp only [hnoise, withoutMarks, List.filter_map, Function.comp_def, hempty, List.map_map,
      String.toList_ofList]
  rw [cleanSuggestion, String.toList_intercalate, hlist]
  rfl

theorem mem_intercalate_space {list : List (List Char)} {c : Char}
    (hc : c ∈ [' '].intercalate list) : c = ' ' ∨ ∃ word ∈ list, c ∈ word := by
  induction list with
  | nil => simp at hc
  | cons word others ih =>
    by_cases hlast : others = []
    · rw [hlast, List.intercalate_singleton] at hc
      exact .inr ⟨word, List.mem_cons_self, hc⟩
    · rw [List.intercalate_cons_of_ne_nil hlast, List.append_assoc, List.mem_append,
        List.mem_append, List.mem_singleton] at hc
      rcases hc with hc | hc | hc
      · exact .inr ⟨word, List.mem_cons_self, hc⟩
      · exact .inl hc
      · exact (ih hc).imp_right fun ⟨other, hother, hmem⟩ ↦
          ⟨other, List.mem_cons_of_mem _ hother, hmem⟩

theorem isCleaned_cleanSuggestion (value : String) : IsCleaned (cleanSuggestion value) := by
  have hwords : InWords (lowerCase value.toList) (words (lowerCase value.toList)) :=
    inWords_iff.mpr rfl
  have hchar {c : Char} (hc : c ∈ (cleanSuggestion value).toList) : c ∉ wordMarks ∧ IsLower c := by
    rw [toList_cleanSuggestion] at hc
    rcases mem_intercalate_space hc with rfl | ⟨word, hmem, hc⟩
    · decide +kernel
    · obtain ⟨hlowered, hunmarked⟩ := (hwords.of_mem_withoutMarks hmem).2 c hc
      exact ⟨hunmarked, isLower_of_mem_lowerCase hlowered⟩
  exact ⟨fun c hc ↦ (hchar hc).1, fun c hc ↦ (hchar hc).2, _,
    fun word hmem ↦ (hwords.of_mem_withoutMarks hmem).1, toList_cleanSuggestion value⟩

/-- Cleaning leaves just the cleaned texts as they are. -/
theorem cleanSuggestion_eq_self_iff {text : String} :
    cleanSuggestion text = text ↔ IsCleaned text := by
  constructor
  · intro heq
    exact heq ▸ isCleaned_cleanSuggestion text
  · rintro ⟨hunmarked, hlower, list, hlist, htext⟩
    have hwords : InWords text.toList list := htext ▸ inWords_intercalate hlist
    have hsame : withoutMarks list = list := withoutMarks_eq_self fun word hword ↦
      ⟨(hlist word hword).ne_nil, fun c hc ↦ hunmarked c ((hwords.of_mem hword).2 hc)⟩
    rw [← String.toList_inj, toList_cleanSuggestion, lowerCase_eq_self_iff.mpr hlower,
      inWords_iff.mp hwords, hsame, htext]

/-- A suggestion is cleaned to a text of lower-case words without marks that single spaces join. They
are the words of the lower-case form without their marks, as far as something is left of them, and
cleaning once more changes nothing. -/
theorem cleanSuggestion_normalizes (value : String) :
    IsCleaned (cleanSuggestion value) ∧
    (∃ list, InWords (lowerCase value.toList) list ∧
      InWords (cleanSuggestion value).toList (withoutMarks list)) ∧
    cleanSuggestion (cleanSuggestion value) = cleanSuggestion value := by
  have hcleaned := isCleaned_cleanSuggestion value
  have hwords : InWords (lowerCase value.toList) (words (lowerCase value.toList)) :=
    inWords_iff.mpr rfl
  refine ⟨hcleaned, ⟨_, hwords, ?_⟩, cleanSuggestion_eq_self_iff.mpr hcleaned⟩
  rw [toList_cleanSuggestion]
  exact inWords_intercalate fun word hmem ↦ (hwords.of_mem_withoutMarks hmem).1

/-- A sigma that ends its word only once a bracket is gone does not become a final one. -/
example : cleanSuggestion "(\u0391)\u03a3 : [\u0391\u03a3]" = "\u03b1\u03c3 \u03b1\u03c2" := by
  decide +kernel

end FacetSearch
