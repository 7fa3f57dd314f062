import FacetSearch.StringMap
import Mathlib.Tactic

/-!
# Looking up in maps of strings

What is found under a key after an insertion, an erasure, or when a map is built from a list of
entries, of which the last with the key counts. A map is determined by what is found in it.
-/

namespace FacetSearch

universe u

namespace Entries

variable {α : Type u}

theorem get?_insert (entries : Entries α) (key : String) (value : α) (other : String) :
    (entries.insert key value).get? other =
      if key = other then some value else entries.get? other := by
  induction entries with
  | nil => rfl
  | cons head rest ih =>
    obtain ⟨k, old⟩ := head
    simp only [insert]
    split
    · rfl
    · split
      · next heq =>
        subst heq
        simp only [get?]
        split <;> rfl
      · next hne =>
        simp only [get?, ih]
        split
        · next hk =>
          subst hk
          rw [if_neg hne]
        · rfl

theorem get?_erase (entries : Entries α) (key other : String) :
    (entries.erase key).get? other = if key = other then none else entries.get? other := by
  induction entries with
  | nil => simp [erase, get?]
  | cons head rest ih =>
    obtain ⟨k, old⟩ := head
    by_cases hk : k = key
    · subst hk
      have herase : erase ((k, old) :: rest) k = erase rest k := by simp [erase]
      rw [herase, ih]
      simp only [get?]
      split <;> rfl
    · have herase : erase ((k, old) :: rest) key = (k, old) :: erase rest key := by
        simp [erase, hk]
      rw [herase]
      simp only [get?, ih]
      split
      · next hother =>
        subst hother
        rw [if_neg (Ne.symm hk)]
      · rfl

theorem get?_filter (entries : Entries α) (kept : String → Bool) (key : String) :
    Entries.get? (entries.filter fun entry ↦ kept entry.1) key =
      if kept key then entries.get? key else none := by
  induction entries with
  | nil => simp [get?]
  | cons head rest ih =>
    obtain ⟨name, value⟩ := head
    by_cases hkey : name = key
    · subst hkey
      by_cases hkept : kept name <;> simp [hkept, get?, ih]
    · by_cases hkept : kept name <;> simp [hkept, get?, ih, hkey]

theorem mem_of_get?_eq_some {entries : Entries α} {key : String} {value : α}
    (h : entries.get? key = some value) : (key, value) ∈ entries := by
  induction entries with
  | nil => cases h
  | cons head rest ih =>
    obtain ⟨k, old⟩ := head
    simp only [get?] at h
    split at h
    · next heq =>
      cases h
      exact heq ▸ List.mem_cons_self
    · exact List.mem_cons_of_mem _ (ih h)

theorem get?_eq_some_iff {entries : Entries α} (hascending : entries.Ascending) {key : String}
    {value : α} : entries.get? key = some value ↔ (key, value) ∈ entries := by
  refine ⟨mem_of_get?_eq_some, ?_⟩
  intro hmem
  induction entries with
  | nil => simp at hmem
  | cons head rest ih =>
    obtain ⟨hsmallest, hrest⟩ := List.pairwise_cons.mp hascending
    rcases List.mem_cons.mp hmem with rfl | hmem
    · simp [get?]
    · -- The key of the head is smaller, so it is another one.
      have hne : head.1 ≠ key := by
        intro heq
        have hlt : head.1 < key := hsmallest _ hmem
        exact String.lt_irrefl key (heq ▸ hlt)
      rw [get?, if_neg hne]
      exact ih hrest hmem

theorem Ascending.nodup {entries : Entries α} (hascending : entries.Ascending) :
    entries.Nodup := by
  apply hascending.imp
  intro a b hlt heq
  rw [heq] at hlt
  exact String.lt_irrefl b.1 hlt

theorem Ascending.nodup_keys {entries : Entries α} (hascending : entries.Ascending) :
    entries.keys.Nodup := by
  apply List.pairwise_map.mpr
  apply hascending.imp
  intro a b hlt heq
  rw [heq] at hlt
  exact String.lt_irrefl b.1 hlt

/-- Entries in ascending order are determined by what is found in them. -/
theorem Ascending.ext {a b : Entries α} (ha : a.Ascending) (hb : b.Ascending)
    (h : ∀ key, a.get? key = b.get? key) : a = b := by
  have hmem (entry : String × α) : entry ∈ a ↔ entry ∈ b := by
    rw [← get?_eq_some_iff ha, ← get?_eq_some_iff hb, h]
  have hperm : a.Perm b := (List.perm_ext_iff_of_nodup ha.nodup hb.nodup).mpr hmem
  exact hperm.eq_of_pairwise (fun _ _ _ _ hlt hgt ↦ absurd hgt (String.lt_asymm hlt)) ha hb

theorem get?_append (entries others : Entries α) (key : String) :
    Entries.get? (entries ++ others) key = (entries.get? key <|> others.get? key) := by
  induction entries with
  | nil => rfl
  | cons head rest ih =>
    by_cases hkey : head.1 = key
    · simp [get?, hkey]
    · simpa [get?, hkey] using ih

theorem get?_eq_none_iff {entries : Entries α} {key : String} :
    entries.get? key = none ↔ key ∉ entries.keys := by
  induction entries with
  | nil => simp [get?, keys]
  | cons head rest ih =>
    by_cases hkey : head.1 = key
    · simp [get?, keys, hkey]
    · simpa [get?, keys, hkey, Ne.symm hkey] using ih

/-- Where every key stands once, the order of the entries does not matter. -/
theorem Ascending.get?_eq_of_perm {entries others : Entries α} (hascending : entries.Ascending)
    (hperm : others.Perm entries) (key : String) : others.get? key = entries.get? key := by
  cases hfound : others.get? key with
  | some value =>
    have hmem : (key, value) ∈ entries := hperm.mem_iff.mp (mem_of_get?_eq_some hfound)
    exact ((get?_eq_some_iff hascending).mpr hmem).symm
  | none =>
    have hkeys : key ∉ entries.keys :=
      mt (hperm.map Prod.fst).mem_iff.mpr (get?_eq_none_iff.mp hfound)
    exact (get?_eq_none_iff.mpr hkeys).symm

/-- Of the entries with one key, the last counts. -/
theorem get?_sorted (entries : Entries α) (key : String) :
    entries.sorted.get? key =
      ((entries.filter fun entry ↦ entry.1 = key).getLast?).map Prod.snd := by
  induction entries using List.reverseRecOn with
  | nil => rfl
  | append_singleton rest entry ih =>
    have hsorted : sorted (rest ++ [entry]) = insert (sorted rest) entry.1 entry.2 := by
      simp [sorted]
    rw [hsorted, get?_insert, ih, List.filter_append, List.getLast?_append]
    by_cases hkey : entry.1 = key <;> simp [hkey]

theorem mem_keys_sorted {entries : Entries α} {key : String} :
    key ∈ entries.sorted.keys ↔ key ∈ entries.keys := by
  rw [← not_iff_not, ← get?_eq_none_iff, get?_sorted]
  simp only [Option.map_eq_none_iff, List.getLast?_eq_none_iff, List.filter_eq_nil_iff,
    decide_eq_true_eq, keys, List.mem_map, not_exists, not_and]

end Entries

namespace StringMap

variable {α : Type u}

theorem contains_eq (map : StringMap α) (key : String) :
    map.contains key = (map.get? key).isSome := rfl

theorem contains_eq_true_iff {map : StringMap α} {key : String} :
    map.contains key = true ↔ ∃ value, map.get? key = some value := by
  rw [contains_eq, Option.isSome_iff_exists]

theorem contains_eq_false_iff {map : StringMap α} {key : String} :
    map.contains key = false ↔ map.get? key = none := by
  rw [contains_eq, Option.isSome_eq_false_iff, Option.isNone_iff_eq_none]

@[simp] theorem get?_insert (map : StringMap α) (key : String) (value : α) (other : String) :
    (map.insert key value).get? other = if key = other then some value else map.get? other :=
  Entries.get?_insert map.entries key value other

@[simp] theorem get?_erase (map : StringMap α) (key other : String) :
    (map.erase key).get? other = if key = other then none else map.get? other :=
  Entries.get?_erase map.entries key other

/-- A map is determined by what is found in it. -/
theorem ext_get? {a b : StringMap α} (h : ∀ key, a.get? key = b.get? key) : a = b := by
  obtain ⟨entries, hascending⟩ := a
  obtain ⟨others, hothers⟩ := b
  have heq : entries = others := hascending.ext hothers h
  subst heq
  rfl

theorem mem_keys_iff {map : StringMap α} {key : String} :
    key ∈ map.keys ↔ ∃ value, map.get? key = some value := by
  rw [← Option.isSome_iff_exists, ← Option.ne_none_iff_isSome, ne_eq]
  exact (not_iff_comm.mp Entries.get?_eq_none_iff.symm).symm

@[simp] theorem get?_empty (key : String) : (∅ : StringMap α).get? key = none := rfl

theorem insert_insert (map : StringMap α) (key : String) (value other : α) :
    (map.insert key value).insert key other = map.insert key other := by
  apply ext_get?
  intro name
  rw [get?_insert, get?_insert, get?_insert]
  split <;> rfl

theorem insert_erase (map : StringMap α) (key : String) (value : α) :
    (map.erase key).insert key value = map.insert key value := by
  apply ext_get?
  intro name
  rw [get?_insert, get?_insert, get?_erase]
  split <;> rfl

/-- Maps that agree but for one key are the same once that key has a value. -/
theorem insert_eq_of_erase_eq {a b : StringMap α} {key : String}
    (h : a.erase key = b.erase key) (value : α) : a.insert key value = b.insert key value := by
  rw [← insert_erase a, h, insert_erase]

theorem erase_of_get?_eq_none {map : StringMap α} {key : String} (h : map.get? key = none) :
    map.erase key = map := by
  apply ext_get?
  intro name
  rw [get?_erase]
  split
  · next heq => rw [← heq, h]
  · rfl

theorem insert_of_get?_eq_some {map : StringMap α} {key : String} {value : α}
    (h : map.get? key = some value) : map.insert key value = map := by
  apply ext_get?
  intro name
  rw [get?_insert]
  split
  · next heq => rw [← heq, h]
  · rfl

/-- Inserting entries one after the other builds the map of the list. -/
theorem foldl_insert_empty (entries : Entries α) :
    entries.foldl (fun map entry ↦ map.insert entry.1 entry.2) ∅ = ofList entries := by
  have hfoldl (map : StringMap α) :
      (entries.foldl (fun map entry ↦ map.insert entry.1 entry.2) map).entries =
        entries.foldl (fun done entry ↦ done.insert entry.1 entry.2) map.entries := by
    induction entries generalizing map with
    | nil => rfl
    | cons entry rest ih => exact ih (map.insert entry.1 entry.2)
  apply ext_get?
  intro key
  exact congrArg (fun found ↦ Entries.get? found key) (hfoldl ∅)

theorem get?_ofList (entries : Entries α) (key : String) :
    (ofList entries).get? key =
      ((entries.filter fun entry ↦ entry.1 = key).getLast?).map Prod.snd :=
  Entries.get?_sorted entries key

theorem contains_insert (map : StringMap α) (key : String) (value : α) (other : String) :
    (map.insert key value).contains other = (map.contains other || key == other) := by
  rw [contains_eq, contains_eq, get?_insert]
  by_cases h : key = other <;> simp [h]

theorem contains_insert_of_contains {map : StringMap α} {key : String} (hkey : map.contains key)
    (value : α) (other : String) : (map.insert key value).contains other = map.contains other := by
  rw [contains_insert]
  by_cases h : key = other
  · subst h
    simp [hkey]
  · simp [h]

theorem contains_erase (map : StringMap α) (key other : String) :
    (map.erase key).contains other = (map.contains other && key != other) := by
  rw [contains_eq, contains_eq, get?_erase]
  by_cases h : key = other <;> simp [h]

end StringMap

theorem StringSet.mem_ofList {strings : List String} {s : String} :
    s ∈ (StringSet.ofList strings).toList ↔ s ∈ strings := by
  change s ∈ (Entries.sorted _).keys ↔ _
  rw [Entries.mem_keys_sorted]
  simp [Entries.keys]

end FacetSearch
