/-!
# Maps and sets of strings

A finite map from strings is the list of its entries in ascending order of the keys, and a finite
set of strings the ascending list of its members. The order is that of the code points, which is
also the order of the UTF-8 octets, so two maps with the same entries are equal. A later entry
replaces an earlier one with the same key.
-/

namespace FacetSearch

universe u v

variable {α : Type u} {β : Type v}

/-- Values listed under names. -/
abbrev Entries (α : Type u) := List (String × α)

namespace Entries

/-- Every key is smaller than all that follow. -/
def Ascending (entries : Entries α) : Prop := entries.Pairwise fun a b ↦ a.1 < b.1

instance (entries : Entries α) : Decidable entries.Ascending :=
  inferInstanceAs (Decidable (entries.Pairwise _))

def get? (entries : Entries α) (key : String) : Option α :=
  match entries with
  | [] => none
  | (k, value) :: rest => if k = key then some value else get? rest key

def contains (entries : Entries α) (key : String) : Bool := (entries.get? key).isSome

/-- The entries with `value` under `key`, in place of any value that was there. -/
def insert (entries : Entries α) (key : String) (value : α) : Entries α :=
  match entries with
  | [] => [(key, value)]
  | (k, old) :: rest =>
    if key < k then (key, value) :: (k, old) :: rest
    else if key = k then (key, value) :: rest
    else (k, old) :: insert rest key value

def erase (entries : Entries α) (key : String) : Entries α :=
  entries.filter fun entry ↦ entry.1 ≠ key

/-- The entries in ascending order; of those with one key, the last. -/
def sorted (entries : Entries α) : Entries α :=
  entries.foldl (fun done entry ↦ insert done entry.1 entry.2) []

def keys (entries : Entries α) : List String := entries.map Prod.fst

def mapValues (f : α → β) (entries : Entries α) : Entries β :=
  entries.map fun entry ↦ (entry.1, f entry.2)

theorem ascending_nil : Ascending ([] : Entries α) := List.Pairwise.nil

theorem lt_of_not_lt {a b : String} (h : ¬ a < b) (ne : a ≠ b) : b < a := by
  rcases String.le_total a b with le | le
  · exact absurd (String.le_antisymm le (String.not_lt.mp h)) ne
  · exact String.not_le.mp fun le' ↦ ne (String.le_antisymm le' le)

theorem mem_insert {entries : Entries α} {key : String} {value : α} {entry : String × α}
    (h : entry ∈ entries.insert key value) : entry = (key, value) ∨ entry ∈ entries := by
  induction entries with
  | nil => simpa [insert] using h
  | cons head rest ih =>
    simp only [insert] at h
    split at h
    · simpa using h
    · split at h
      · rcases List.mem_cons.mp h with h | h
        · exact .inl h
        · exact .inr (List.mem_cons_of_mem _ h)
      · rcases List.mem_cons.mp h with h | h
        · exact .inr (h ▸ List.mem_cons_self)
        · exact (ih h).imp_right (List.mem_cons_of_mem _)

theorem Ascending.insert {entries : Entries α} (h : entries.Ascending) (key : String)
    (value : α) : (entries.insert key value).Ascending := by
  induction entries with
  | nil => exact List.pairwise_singleton _ _
  | cons head rest ih =>
    have smallest : ∀ entry ∈ rest, head.1 < entry.1 := (List.pairwise_cons.mp h).1
    have tail : Ascending rest := h.of_cons
    simp only [Entries.insert]
    split
    · next lt =>
      refine List.Pairwise.cons (fun entry member ↦ ?_) h
      rcases List.mem_cons.mp member with rfl | member
      · exact lt
      · exact String.lt_trans lt (smallest entry member)
    · next notLt =>
      split
      · next eq =>
        subst eq
        exact List.Pairwise.cons smallest tail
      · next ne =>
        refine List.Pairwise.cons (fun entry member ↦ ?_) (ih tail)
        rcases mem_insert member with rfl | member
        · exact lt_of_not_lt notLt ne
        · exact smallest entry member

theorem Ascending.erase {entries : Entries α} (h : entries.Ascending) (key : String) :
    (entries.erase key).Ascending := List.Pairwise.filter _ h

theorem ascending_foldl_insert {done : Entries α} (h : done.Ascending) (entries : Entries α) :
    (entries.foldl (fun done entry ↦ done.insert entry.1 entry.2) done).Ascending := by
  induction entries generalizing done with
  | nil => exact h
  | cons entry rest ih => exact ih (h.insert entry.1 entry.2)

theorem ascending_sorted (entries : Entries α) : entries.sorted.Ascending :=
  ascending_foldl_insert ascending_nil entries

theorem Ascending.mapValues {entries : Entries α} (h : entries.Ascending) (f : α → β) :
    (entries.mapValues f).Ascending := by
  simpa [Entries.mapValues, Ascending, List.pairwise_map] using h

end Entries

/-- A finite map from strings. -/
structure StringMap (α : Type u) where
  entries : Entries α
  ascending : entries.Ascending
deriving DecidableEq

namespace StringMap

def empty : StringMap α := ⟨[], Entries.ascending_nil⟩

instance : EmptyCollection (StringMap α) := ⟨empty⟩

instance : Inhabited (StringMap α) := ⟨empty⟩

def insert (map : StringMap α) (key : String) (value : α) : StringMap α :=
  ⟨map.entries.insert key value, map.ascending.insert key value⟩

def erase (map : StringMap α) (key : String) : StringMap α :=
  ⟨map.entries.erase key, map.ascending.erase key⟩

def ofList (entries : List (String × α)) : StringMap α :=
  ⟨Entries.sorted entries, Entries.ascending_sorted entries⟩

def singleton (key : String) (value : α) : StringMap α := empty.insert key value

def get? (map : StringMap α) (key : String) : Option α := map.entries.get? key

def contains (map : StringMap α) (key : String) : Bool := map.entries.contains key

def isEmpty (map : StringMap α) : Bool := map.entries.isEmpty

def size (map : StringMap α) : Nat := map.entries.length

def keys (map : StringMap α) : List String := map.entries.keys

def map (f : α → β) (m : StringMap α) : StringMap β :=
  ⟨m.entries.mapValues f, m.ascending.mapValues f⟩

end StringMap

/-- A finite set of strings. -/
structure StringSet where
  toList : List String
  ascending : toList.Pairwise (· < ·)
deriving DecidableEq

namespace StringSet

/-- The set of the strings in a list. -/
def ofList (strings : List String) : StringSet where
  toList := (Entries.sorted (strings.map fun s ↦ (s, ()))).keys
  ascending := by
    simpa [Entries.keys, List.pairwise_map, Entries.Ascending] using
      Entries.ascending_sorted (strings.map fun s ↦ (s, ()))

def empty : StringSet := ⟨[], List.Pairwise.nil⟩

instance : Inhabited StringSet := ⟨empty⟩

def contains (set : StringSet) (s : String) : Bool := set.toList.contains s

def isEmpty (set : StringSet) : Bool := set.toList.isEmpty

end StringSet

end FacetSearch
