import FacetSearch.Text.Blank
import Mathlib.Data.List.DropRight
import Mathlib.Tactic

/-!
# Tokens of a text

The tokens of a text stand between separators; blanks around them do not count. A token spells a
word whatever the case of its letters.
-/

namespace FacetSearch.Text

/-- The text without the blanks at its ends. -/
def stripped (cs : List Char) : List Char := (cs.dropWhile isBlank).rdropWhile isBlank

/-- What stands between the separators of a text, without the blanks around it. -/
def tokens (separator : Char) (text : String) : List String :=
  (text.toList.splitOn separator).map fun piece ↦ String.ofList (stripped piece)

/-- The token is that word, given in small letters, apart from blanks around it and from the case of
its ASCII letters. -/
def Spells (token word : String) : Prop := (stripped token.toList).map Char.toLower = word.toList

instance (token word : String) : Decidable (Spells token word) :=
  inferInstanceAs (Decidable (_ = _))

theorem pieces_eq_splitOn (separator : Char) (cs : List Char) :
    pieces separator cs = cs.splitOn separator := by
  induction cs with
  | nil => rfl
  | cons c rest ih =>
    rw [pieces, List.splitOn_cons_eq_if_modifyHead, ih]
    by_cases hc : c = separator
    · simp [hc]
    · rw [if_neg hc, if_neg (by simpa using hc)]
      cases hpieces : rest.splitOn separator with
      | nil => exact absurd hpieces (List.splitOn_ne_nil separator rest)
      | cons piece others => rfl

/-- A separator ends the pieces before it. -/
theorem pieces_append (separator : Char) (cs rest : List Char) :
    pieces separator (cs ++ separator :: rest) = pieces separator cs ++ pieces separator rest := by
  induction cs with
  | nil => simp [pieces]
  | cons c others ih =>
    rw [List.cons_append, pieces, pieces, ih]
    split
    · rfl
    · cases hpieces : pieces separator others with
      | nil => exact absurd hpieces (pieces_ne_nil separator others)
      | cons piece later => rfl

theorem pieces_of_not_mem {separator : Char} {cs : List Char} (hcs : separator ∉ cs) :
    pieces separator cs = [cs] := by
  induction cs with
  | nil => rfl
  | cons c rest ih =>
    obtain ⟨hc, hrest⟩ := not_or.mp (mt List.mem_cons.mpr hcs)
    rw [pieces, if_neg (Ne.symm hc), ih hrest]

theorem trimmedPieces_eq_tokens (separator : Char) (text : String) :
    trimmedPieces separator text = tokens separator text := by
  rw [trimmedPieces, tokens, pieces_eq_splitOn]
  rfl

/-- The text has no other characters than blanks. -/
def Blank (text : String) : Prop := ∀ c ∈ text.toList, isBlank c = true

instance : DecidablePred Blank := fun _ ↦ List.decidableBAll _ _

/-- Nothing is left of a text just if it is blank. -/
theorem isEmpty_trim_iff {text : String} : (trim text.toList).isEmpty = true ↔ Blank text := by
  have hend : trim text.toList = (trimStart text.toList).rdropWhile isBlank := rfl
  rw [List.isEmpty_iff, hend, List.rdropWhile_eq_nil_iff, trimStart, ← List.dropWhile_eq_nil_iff,
    List.dropWhile_idempotent, List.dropWhile_eq_nil_iff, Blank]

theorem ofList_eq_iff {cs : List Char} {s : String} : String.ofList cs = s ↔ cs = s.toList := by
  constructor
  · rintro rfl
    exact String.toList_ofList.symm
  · rintro rfl
    exact String.ofList_toList

/-- A value with blanks around it is the word `true` in whatever case. -/
theorem sameIgnoringCase_iff {token word : String} (hword : word.toList.map Char.toLower = word.toList) :
    sameIgnoringCase (trimmed token) word ↔ Spells token word := by
  rw [sameIgnoringCase, trimmed, String.toList_ofList, beq_iff_eq, hword]
  rfl

/-! ## Tokens with separators between them -/

theorem separator_not_mem_of_mem_pieces {separator : Char} {cs piece : List Char}
    (hpiece : piece ∈ pieces separator cs) : separator ∉ piece := by
  induction cs generalizing piece with
  | nil => simp_all [pieces]
  | cons c rest ih =>
    simp only [pieces] at hpiece
    split at hpiece
    · rcases List.mem_cons.mp hpiece with rfl | hpiece
      · exact List.not_mem_nil
      · exact ih hpiece
    · next hc =>
      split at hpiece
      · simp_all [pieces_ne_nil]
      · next first others hrest =>
        rw [hrest] at ih
        rcases List.mem_cons.mp hpiece with rfl | hpiece
        · have hfirst := ih List.mem_cons_self
          simp [hfirst, Ne.symm hc]
        · exact ih (List.mem_cons_of_mem _ hpiece)

theorem stripped_sublist (cs : List Char) : (stripped cs).Sublist cs :=
  (List.rdropWhile_prefix _ _).sublist.trans (List.dropWhile_sublist _)

theorem stripped_stripped (cs : List Char) : stripped (stripped cs) = stripped cs := by
  have hstart : (stripped cs).dropWhile isBlank = stripped cs := by
    cases hstripped : stripped cs with
    | nil => rfl
    | cons c rest =>
      obtain ⟨tail, htail⟩ : c :: rest <+: cs.dropWhile isBlank :=
        hstripped ▸ List.rdropWhile_prefix _ _
      have hc := List.head?_dropWhile_not isBlank cs
      rw [← htail] at hc
      exact List.dropWhile_cons_of_neg (by simpa using hc)
  rw [stripped, hstart, stripped, List.rdropWhile_idempotent]

theorem stripped_of_mem_tokens {separator : Char} {text token : String}
    (htoken : token ∈ tokens separator text) : stripped token.toList = token.toList := by
  obtain ⟨piece, -, rfl⟩ := List.mem_map.mp htoken
  rw [String.toList_ofList, stripped_stripped]

theorem not_mem_of_mem_tokens {separator : Char} {text token : String}
    (htoken : token ∈ tokens separator text) : separator ∉ token.toList := by
  obtain ⟨piece, hpiece, rfl⟩ := List.mem_map.mp htoken
  rw [← pieces_eq_splitOn] at hpiece
  rw [String.toList_ofList]
  exact fun hmem ↦ separator_not_mem_of_mem_pieces hpiece ((stripped_sublist piece).subset hmem)

/-- Tokens with separators between them are the tokens of the text. -/
theorem tokens_intercalate {separator : Char} {list : List String} (hne : list ≠ [])
    (hseparated : ∀ token ∈ list, separator ∉ token.toList)
    (hstripped : ∀ token ∈ list, stripped token.toList = token.toList) :
    tokens separator ((String.singleton separator).intercalate list) = list := by
  have hsplit : ([separator].intercalate (list.map String.toList)).splitOn separator =
      list.map String.toList :=
    List.splitOn_intercalate separator (by simpa using hseparated) (by simpa using hne)
  rw [tokens, String.toList_intercalate, String.toList_singleton, hsplit, List.map_map]
  have hsame : ∀ token ∈ list, String.ofList (stripped token.toList) = id token := by
    intro token htoken
    rw [hstripped token htoken, String.ofList_toList, id]
  exact (List.map_congr_left hsame).trans (List.map_id list)

end FacetSearch.Text
