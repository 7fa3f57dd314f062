import FacetSearch.Proofs.StringMapLookup

/-!
# Maps of strings as lists in order

Sorting entries keeps some of them, all if every key stands once, and leaves entries that are in
order as they are; a value that is inserted stands where the one with its key stood.
-/

namespace FacetSearch

universe u v

namespace Entries

variable {α : Type u}

theorem mem_sorted {entries : Entries α} {entry : String × α} (h : entry ∈ entries.sorted) :
    entry ∈ entries := by
  induction entries using List.reverseRecOn with
  | nil => cases h
  | append_singleton rest last ih =>
    have hsorted : sorted (rest ++ [last]) = insert (sorted rest) last.1 last.2 := by
      simp [sorted]
    rw [hsorted] at h
    rcases mem_insert h with rfl | hrest
    · exact List.mem_append_right rest List.mem_cons_self
    · exact List.mem_append_left _ (ih hrest)

theorem get?_mapValues {β : Type v} (f : α → β) (entries : Entries α) (key : String) :
    (entries.mapValues f).get? key = (entries.get? key).map f := by
  induction entries with
  | nil => rfl
  | cons head rest ih =>
    change (if head.1 = key then some (f head.2) else (mapValues f rest).get? key) = _
    rw [ih, get?]
    split <;> rfl

/-- A key that is greater than all others goes to the end. -/
theorem insert_of_lt {entries : Entries α} {key : String} (h : ∀ entry ∈ entries, entry.1 < key)
    (value : α) : entries.insert key value = entries ++ [(key, value)] := by
  induction entries with
  | nil => rfl
  | cons head rest ih =>
    have hhead : head.1 < key := h head List.mem_cons_self
    have hne : key ≠ head.1 := fun heq ↦ String.lt_irrefl key (heq ▸ hhead)
    have hrest := ih fun entry hentry ↦ h entry (List.mem_cons_of_mem _ hentry)
    rw [insert, if_neg (String.lt_asymm hhead), if_neg hne, hrest]
    rfl

/-- A value takes the place of the one that was there. -/
theorem Ascending.insert_append {before after : Entries α} {key : String} {old : α}
    (h : Ascending (before ++ (key, old) :: after)) (value : α) :
    Entries.insert (before ++ (key, old) :: after) key value = before ++ (key, value) :: after := by
  induction before with
  | nil => simp [Entries.insert]
  | cons head before ih =>
    obtain ⟨hsmallest, hrest⟩ := List.pairwise_cons.mp h
    have hhead : head.1 < key := hsmallest (key, old) (by simp)
    have hne : key ≠ head.1 := fun heq ↦ String.lt_irrefl key (heq ▸ hhead)
    simp only [List.cons_append]
    rw [Entries.insert, if_neg (String.lt_asymm hhead), if_neg hne, ih hrest]

/-- Entries that are in order are sorted already. -/
theorem Ascending.sorted_eq {entries : Entries α} (h : entries.Ascending) :
    entries.sorted = entries := by
  have hfoldl (done rest : Entries α) (hall : (done ++ rest).Ascending) :
      rest.foldl (fun done entry ↦ Entries.insert done entry.1 entry.2) done = done ++ rest := by
    induction rest generalizing done with
    | nil => simp
    | cons entry rest ih =>
      have hlast : Entries.insert done entry.1 entry.2 = done ++ [entry] := by
        apply insert_of_lt
        intro other hother
        exact (List.pairwise_append.mp hall).2.2 other hother entry List.mem_cons_self
      rw [List.foldl_cons, hlast, ih _ (by simpa using hall)]
      simp
  exact hfoldl [] entries h

theorem insert_perm {entries : Entries α} {key : String} (hkey : key ∉ entries.keys) (value : α) :
    (entries.insert key value).Perm ((key, value) :: entries) := by
  induction entries with
  | nil => exact .refl _
  | cons head rest ih =>
    obtain ⟨hhead, hrest⟩ : key ≠ head.1 ∧ key ∉ keys rest := by simpa [keys] using hkey
    simp only [insert]
    split
    · exact .refl _
    · exact ((ih hrest).cons head).trans (.swap _ _ _)

/-- Where every key stands once, sorting only changes the order. -/
theorem sorted_perm {entries : Entries α} (hkeys : entries.keys.Nodup) :
    entries.sorted.Perm entries := by
  have hfoldl (done rest : Entries α) (hall : (keys (rest ++ done)).Nodup) :
      (rest.foldl (fun done entry ↦ insert done entry.1 entry.2) done).Perm (rest ++ done) := by
    induction rest generalizing done with
    | nil => exact .refl _
    | cons entry rest ih =>
      obtain ⟨hentry, hrest⟩ := List.nodup_cons.mp hall
      have hdone : entry.1 ∉ keys done := fun hmem ↦ hentry (by simp_all [keys])
      have hinsert := insert_perm hdone entry.2
      have hmoved : (rest ++ insert done entry.1 entry.2).Perm (entry :: (rest ++ done)) :=
        (hinsert.append_left rest).trans List.perm_middle
      have hkeys : (keys (rest ++ insert done entry.1 entry.2)).Nodup :=
        (hmoved.map Prod.fst).nodup_iff.mpr hall
      exact (ih _ hkeys).trans hmoved
  simpa [sorted] using hfoldl [] entries (by simpa using hkeys)

/-- Where every key stands once, sorting does not change what is found. -/
theorem get?_sorted_of_nodup {entries : Entries α} (hkeys : entries.keys.Nodup) (key : String) :
    entries.sorted.get? key = entries.get? key :=
  ((ascending_sorted entries).get?_eq_of_perm (sorted_perm hkeys).symm key).symm

end Entries

namespace StringMap

variable {α : Type u}

theorem ofList_entries (map : StringMap α) : ofList map.entries = map := by
  obtain ⟨entries, hascending⟩ := map
  simp only [ofList, hascending.sorted_eq]

theorem erase_insert (map : StringMap α) (key : String) (value : α) :
    (map.insert key value).erase key = map.erase key := by
  apply ext_get?
  intro name
  rw [get?_erase, get?_erase, get?_insert]
  split <;> rfl

end StringMap

end FacetSearch
