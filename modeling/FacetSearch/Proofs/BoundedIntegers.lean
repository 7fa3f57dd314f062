import FacetSearch.Toml.Reader
import FacetSearch.Proofs.JsonReading
import FacetSearch.Proofs.StringMapLookup

/-!
# Integers of a document

The integers in the values of a document that is read have 64 bits, wherever they stand: no pair and no
header changes a value that was there, and what they add was read.
-/

namespace FacetSearch.Toml

open RawJson (Yields)

/-- The integers in a value have 64 bits. -/
inductive Bounded : Toml → Prop where
  | string (s : String) : Bounded (string s)
  | integer {i : Int} (hi : fitsInt64 i = true) : Bounded (integer i)
  | float (text : String) : Bounded (float text)
  | boolean (b : Bool) : Bounded (boolean b)
  | dateTime (text : String) : Bounded (dateTime text)
  | array {elements : List Toml} (h : ∀ element ∈ elements, Bounded element) : Bounded (array elements)
  | tables {elements : List Toml} (h : ∀ element ∈ elements, Bounded element) :
    Bounded (tables elements)
  | table {origin : TableOrigin} {entries : List (String × Toml)}
    (h : ∀ entry ∈ entries, Bounded entry.2) : Bounded (table origin entries)

/-- The integers in the values of entries have 64 bits. -/
def BoundedEntries (entries : List (String × Toml)) : Prop := ∀ entry ∈ entries, Bounded entry.2

theorem bounded_tables_iff {elements : List Toml} :
    Bounded (tables elements) ↔ ∀ element ∈ elements, Bounded element :=
  ⟨fun | .tables h => h, .tables⟩

theorem bounded_table_iff {origin : TableOrigin} {entries : List (String × Toml)} :
    Bounded (table origin entries) ↔ BoundedEntries entries :=
  ⟨fun | .table h => h, .table⟩

theorem boundedEntries_nil : BoundedEntries [] := List.forall_mem_nil _

theorem bounded_tables_append {elements : List Toml} (h : ∀ element ∈ elements, Bounded element)
    {last : Toml} (hlast : Bounded last) : Bounded (tables (elements ++ [last])) :=
  .tables (List.forall_mem_append.mpr ⟨h, by simpa using hlast⟩)

/-! ## Tokens -/

theorem bounded_of_boundedInteger {i : Int} {value : Toml} (h : boundedInteger i = some value) :
    Bounded value := by
  rw [boundedInteger] at h
  split at h
  · next hi =>
    cases h
    exact .integer hi
  · cases h

theorem bounded_of_readInteger {cs : List Char} {value : Toml} (h : readInteger cs = some value) :
    Bounded value := by
  rw [readInteger.eq_def] at h
  split at h <;>
    · obtain ⟨digits, -, hvalue⟩ := Option.bind_eq_some_iff.mp h
      exact bounded_of_boundedInteger hvalue

theorem bounded_of_readFloat {cs : List Char} {value : Toml} (h : readFloat cs = some value) :
    Bounded value := by
  simp only [readFloat] at h
  split at h
  · cases h
    exact .float _
  split at h
  · cases h
  obtain ⟨whole, -, h⟩ := Option.bind_eq_some_iff.mp h
  split at h <;>
    · obtain ⟨fraction, -, h⟩ := Option.bind_eq_some_iff.mp h
      split at h <;>
        · obtain ⟨exponent, -, h⟩ := Option.bind_eq_some_iff.mp h
          split at h
          · cases h
          · cases h
            exact .float _

theorem bounded_of_readDateTime {cs : List Char} {value : Toml} (h : readDateTime cs = some value) :
    Bounded value := by
  simp only [readDateTime] at h
  split at h
  · cases h
    exact .dateTime _
  · cases h

theorem bounded_of_readToken {token : List Char} {value : Toml} (h : readToken token = some value) :
    Bounded value := by
  rw [readToken] at h
  split at h
  · cases h
    exact .boolean true
  split at h
  · cases h
    exact .boolean false
  rcases (Option.orElse_eq_some _ _ _).mp h with hinteger | ⟨-, h⟩
  · exact bounded_of_readInteger hinteger
  rcases (Option.orElse_eq_some _ _ _).mp h with hfloat | ⟨-, hdate⟩
  · exact bounded_of_readFloat hfloat
  · exact bounded_of_readDateTime hdate

/-! ## Tables -/

theorem BoundedEntries.insert {entries : Entries Toml} (h : BoundedEntries entries) (key : String)
    {value : Toml} (hvalue : Bounded value) : BoundedEntries (entries.insert key value) := by
  intro entry hentry
  rcases Entries.mem_insert hentry with rfl | hmem
  · exact hvalue
  · exact h entry hmem

theorem BoundedEntries.get? {entries : Entries Toml} (h : BoundedEntries entries) {key : String}
    {value : Toml} (hfound : entries.get? key = some value) : Bounded value :=
  h _ (Entries.mem_of_get?_eq_some hfound)

theorem BoundedEntries.addPair {key : String} {value : Toml} (hvalue : Bounded value)
    {path : List String} {entries added : Entries Toml} (h : BoundedEntries entries)
    (hadd : addPair key value path entries = some added) : BoundedEntries added := by
  induction path generalizing entries added with
  | nil =>
    rw [Toml.addPair] at hadd
    split at hadd
    · cases hadd
    · cases hadd
      exact h.insert key hvalue
  | cons segment path ih =>
    rw [Toml.addPair] at hadd
    split at hadd
    · obtain ⟨inner, hinner, rfl⟩ := Option.map_eq_some_iff.mp hadd
      exact h.insert segment (.table (ih boundedEntries_nil hinner))
    · next hfound =>
      split at hadd
      · obtain ⟨inner, hinner, rfl⟩ := Option.map_eq_some_iff.mp hadd
        exact h.insert segment (.table (ih (bounded_table_iff.mp (h.get? hfound)) hinner))
      · cases hadd
    · next hfound =>
      split at hadd
      · next hlast =>
        obtain ⟨inner, hinner, rfl⟩ := Option.map_eq_some_iff.mp hadd
        have htables := bounded_tables_iff.mp (h.get? hfound)
        have hentries := bounded_table_iff.mp (htables _ (List.mem_of_getLast? hlast))
        exact h.insert segment (bounded_tables_append
          (fun element hmem ↦ htables element (List.mem_of_mem_dropLast hmem))
          (.table (ih hentries hinner)))
      · cases hadd
    · cases hadd

theorem BoundedEntries.addPairs {pairs : List Pair} (hpairs : ∀ pair ∈ pairs, Bounded pair.value)
    {entries added : Entries Toml} (h : BoundedEntries entries)
    (hadd : addPairs entries pairs = some added) : BoundedEntries added := by
  induction pairs generalizing entries with
  | nil =>
    cases hadd
    exact h
  | cons pair pairs ih =>
    obtain ⟨hpair, hpairs⟩ := List.forall_mem_cons.mp hpairs
    obtain ⟨first, hfirst, hrest⟩ := Option.bind_eq_some_iff.mp hadd
    exact ih hpairs (h.addPair hpair hfirst) hrest

theorem BoundedEntries.addHeader {block : Block}
    (hblock : ∀ pair ∈ block.pairs, Bounded pair.value) {entries added : Entries Toml}
    (h : BoundedEntries entries) (hadd : addHeader block entries = some added) :
    BoundedEntries added := by
  rw [Toml.addHeader] at hadd
  split at hadd
  · obtain ⟨inner, hinner, rfl⟩ := Option.map_eq_some_iff.mp hadd
    exact h.insert block.key (bounded_tables_append (List.forall_mem_nil _)
      (.table (boundedEntries_nil.addPairs hblock hinner)))
  · next hfound =>
    obtain ⟨inner, hinner, rfl⟩ := Option.map_eq_some_iff.mp hadd
    exact h.insert block.key (bounded_tables_append (bounded_tables_iff.mp (h.get? hfound))
      (.table (boundedEntries_nil.addPairs hblock hinner)))
  · cases hadd
  · obtain ⟨inner, hinner, rfl⟩ := Option.map_eq_some_iff.mp hadd
    exact h.insert block.key (.table (boundedEntries_nil.addPairs hblock hinner))
  · next hfound =>
    obtain ⟨inner, hinner, rfl⟩ := Option.map_eq_some_iff.mp hadd
    have hentries := bounded_table_iff.mp (h.get? hfound)
    exact h.insert block.key (.table (hentries.addPairs hblock hinner))
  · cases hadd

theorem BoundedEntries.addBlock {block : Block}
    (hblock : ∀ pair ∈ block.pairs, Bounded pair.value) {path : List String}
    {entries added : Entries Toml} (h : BoundedEntries entries)
    (hadd : addBlock block path entries = some added) : BoundedEntries added := by
  induction path generalizing entries added with
  | nil => exact h.addHeader hblock hadd
  | cons segment path ih =>
    rw [Toml.addBlock] at hadd
    split at hadd
    · obtain ⟨inner, hinner, rfl⟩ := Option.map_eq_some_iff.mp hadd
      exact h.insert segment (.table (ih boundedEntries_nil hinner))
    · cases hadd
    · next hfound =>
      obtain ⟨inner, hinner, rfl⟩ := Option.map_eq_some_iff.mp hadd
      exact h.insert segment (.table (ih (bounded_table_iff.mp (h.get? hfound)) hinner))
    · next hfound =>
      split at hadd
      · next hlast =>
        obtain ⟨inner, hinner, rfl⟩ := Option.map_eq_some_iff.mp hadd
        have htables := bounded_tables_iff.mp (h.get? hfound)
        have hentries := bounded_table_iff.mp (htables _ (List.mem_of_getLast? hlast))
        exact h.insert segment (bounded_tables_append
          (fun element hmem ↦ htables element (List.mem_of_mem_dropLast hmem))
          (.table (ih hentries hinner)))
      · cases hadd
    · cases hadd

theorem BoundedEntries.addBlocks {blocks : List Block}
    (hblocks : ∀ block ∈ blocks, ∀ pair ∈ block.pairs, Bounded pair.value)
    {entries added : Entries Toml} (h : BoundedEntries entries)
    (hadd : addBlocks entries blocks = some added) : BoundedEntries added := by
  induction blocks generalizing entries with
  | nil =>
    cases hadd
    exact h
  | cons block blocks ih =>
    obtain ⟨hblock, hblocks⟩ := List.forall_mem_cons.mp hblocks
    obtain ⟨first, hfirst, hrest⟩ := Option.bind_eq_some_iff.mp hadd
    exact ih hblocks (h.addBlock hblock hfirst) hrest

theorem boundedEntries_document {pairs : List Pair} (hpairs : ∀ pair ∈ pairs, Bounded pair.value)
    {blocks : List Block} (hblocks : ∀ block ∈ blocks, ∀ pair ∈ block.pairs, Bounded pair.value)
    {entries : Entries Toml} (h : document pairs blocks = some entries) : BoundedEntries entries := by
  obtain ⟨first, hfirst, hrest⟩ := Option.bind_eq_some_iff.mp h
  exact (boundedEntries_nil.addPairs hpairs hfirst).addBlocks hblocks hrest

/-! ## Texts -/

section Values

variable {value : ValueReader}

theorem yields_readElements (hvalue : Yields value Bounded) (fuel : Nat) :
    Yields (readElements value fuel) fun elements ↦ ∀ element ∈ elements, Bounded element := by
  induction fuel with
  | zero =>
    intro _ _ _ hread
    cases hread
  | succ fuel ih =>
    intro cs elements rest hread
    simp only [readElements, Option.bind_eq_bind, Option.bind_eq_some_iff] at hread
    obtain ⟨text, -, hread⟩ := hread
    split at hread
    · cases hread
      exact List.forall_mem_nil _
    simp only [Option.bind_eq_some_iff, Prod.exists] at hread
    obtain ⟨element, others, helement, next, -, hread⟩ := hread
    split at hread
    · cases hread
      simpa using hvalue helement
    · simp only [Option.bind_eq_some_iff, Prod.exists, Option.some.injEq, Prod.mk.injEq] at hread
      obtain ⟨later, others, hlater, rfl, rfl⟩ := hread
      exact List.forall_mem_cons.mpr ⟨hvalue helement, ih hlater⟩
    · cases hread

theorem yields_readPair (hvalue : Yields value Bounded) :
    Yields (readPair value) fun pair ↦ Bounded pair.value := by
  intro cs pair rest hread
  simp only [readPair, Option.bind_eq_bind, Option.bind_eq_some_iff, Prod.exists] at hread
  obtain ⟨path, key, others, -, hread⟩ := hread
  split at hread
  · simp only [Option.bind_eq_some_iff, Prod.exists, Option.some.injEq, Prod.mk.injEq] at hread
    obtain ⟨found, others, hfound, rfl, rfl⟩ := hread
    exact hvalue hfound
  · cases hread

theorem yields_readPairs (hvalue : Yields value Bounded) (fuel : Nat) :
    Yields (readPairs value fuel) fun pairs ↦ ∀ pair ∈ pairs, Bounded pair.value := by
  induction fuel with
  | zero =>
    intro _ _ _ hread
    cases hread
  | succ fuel ih =>
    intro cs pairs rest hread
    simp only [readPairs, Option.bind_eq_bind, Option.bind_eq_some_iff, Prod.exists] at hread
    obtain ⟨pair, others, hpair, hread⟩ := hread
    split at hread
    · cases hread
      simpa using yields_readPair hvalue hpair
    · simp only [Option.bind_eq_some_iff, Prod.exists, Option.some.injEq, Prod.mk.injEq] at hread
      obtain ⟨later, others, hlater, rfl, rfl⟩ := hread
      exact List.forall_mem_cons.mpr ⟨yields_readPair hvalue hpair, ih hlater⟩
    · cases hread

end Values

theorem yields_readValue (depth : Nat) : Yields (readValue depth) Bounded := by
  -- The elements and pairs of a container are read by the reader one level below.
  induction depth using Nat.strong_induction_on with
  | _ depth ih =>
    intro cs value rest hread
    rw [readValue.eq_def] at hread
    split at hread
    · split at hread
      · cases hread
      · next depth =>
        obtain ⟨⟨elements, others⟩, helements, hvalue⟩ := Option.map_eq_some_iff.mp hread
        cases hvalue
        exact .array (yields_readElements (ih depth (Nat.lt_succ_self depth)) _ helements)
    · split at hread
      · cases hread
      · next depth =>
        split at hread
        · cases hread
          exact .table boundedEntries_nil
        · simp only [Option.bind_eq_bind, Option.bind_eq_some_iff, Prod.exists, Option.some.injEq,
            Prod.mk.injEq] at hread
          obtain ⟨pairs, others, hpairs, entries, hentries, rfl, rfl⟩ := hread
          have hall := yields_readPairs (ih depth (Nat.lt_succ_self depth)) _ hpairs
          exact .table (boundedEntries_nil.addPairs hall hentries)
    · split at hread
      · cases hread
        exact .string _
      · obtain ⟨found, hfound, hvalue⟩ := Option.map_eq_some_iff.mp hread
        cases hvalue
        exact bounded_of_readToken hfound

theorem bounded_of_readBlocks {fuel : Nat} {cs : List Char} {pairs : List Pair} {blocks : List Block}
    (hread : readBlocks fuel cs = some (pairs, blocks)) : (∀ pair ∈ pairs, Bounded pair.value) ∧
      ∀ block ∈ blocks, ∀ pair ∈ block.pairs, Bounded pair.value := by
  induction fuel generalizing cs pairs blocks with
  | zero => cases hread
  | succ fuel ih =>
    simp only [readBlocks, Option.bind_eq_bind, Option.bind_eq_some_iff] at hread
    obtain ⟨text, -, hread⟩ := hread
    split at hread
    · cases hread
      exact ⟨List.forall_mem_nil _, List.forall_mem_nil _⟩
    · -- One bracket or two, the pairs that follow belong to the header.
      split at hread <;>
        · obtain ⟨⟨block, others⟩, -, hread⟩ := Option.bind_eq_some_iff.mp hread
          obtain ⟨⟨below, later⟩, hlater, hread⟩ := Option.bind_eq_some_iff.mp hread
          cases hread
          obtain ⟨hbelow, hblocks⟩ := ih hlater
          exact ⟨List.forall_mem_nil _, List.forall_mem_cons.mpr ⟨hbelow, hblocks⟩⟩
    · simp only [Option.bind_eq_some_iff, Prod.exists, Option.some.injEq, Prod.mk.injEq] at hread
      obtain ⟨pair, others, hpair, next, -, below, later, hlater, rfl, rfl⟩ := hread
      obtain ⟨hbelow, hblocks⟩ := ih hlater
      exact ⟨List.forall_mem_cons.mpr ⟨yields_readPair (yields_readValue _) hpair, hbelow⟩, hblocks⟩

theorem boundedEntries_of_read {text : String} {entries : Entries Toml}
    (hread : read text = some entries) : BoundedEntries entries := by
  simp only [read, Option.bind_eq_bind, Option.bind_eq_some_iff, Prod.exists] at hread
  obtain ⟨pairs, blocks, hblocks, hdocument⟩ := hread
  obtain ⟨hpairs, hall⟩ := bounded_of_readBlocks hblocks
  exact boundedEntries_document hpairs hall hdocument

end FacetSearch.Toml
