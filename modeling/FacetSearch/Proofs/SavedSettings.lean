import FacetSearch.Proofs.BoundedIntegers
import FacetSearch.Proofs.WrittenSettings

/-!
# Settings survive saving

Settings that were read from a file can be written, and the written text is read as the same settings
again: their numbers have 63 bits because the text that they came from has no greater ones, and a path
in which the tilde was expanded is absolute or has no tilde that stands for anything.
-/

namespace FacetSearch

/-! ## Paths -/

/-- A path from the root. -/
def IsAbsolute (path : String) : Prop := path.toList.head? = some '/'

instance : DecidablePred IsAbsolute := fun _ ↦ inferInstanceAs (Decidable (_ = _))

theorem IsAbsolute.append {home : String} (hhome : IsAbsolute home) (rest : String) :
    IsAbsolute (home ++ rest) := by
  rw [IsAbsolute, String.toList_append, List.head?_append, hhome]
  rfl

theorem IsAbsolute.joinPaths {home : String} (hhome : IsAbsolute home) (path : String) :
    IsAbsolute (joinPaths home path) := by
  have hempty : home.isEmpty = false := by
    rw [Bool.eq_false_iff, ne_eq, String.isEmpty_iff]
    rintro rfl
    cases hhome
  simp only [FacetSearch.joinPaths, hempty, Bool.or_false]
  split
  · next hpath => exact beq_iff_eq.mp hpath
  split
  · exact hhome.append path
  · rw [String.append_assoc]
    exact hhome.append _

theorem IsAbsolute.expandTilde_eq {path : String} (hpath : IsAbsolute path) (home : String) :
    expandTilde home path = path := by
  rw [IsAbsolute] at hpath
  rw [expandTilde]
  split
  · next heq =>
    rw [heq] at hpath
    cases hpath
  · next heq =>
    rw [heq] at hpath
    cases hpath
  · rfl

/-- Only the first expansion of a path can change it. -/
theorem expandTilde_expandTilde {home : String} (hhome : IsAbsolute home) (path : String) :
    expandTilde home (expandTilde home path) = expandTilde home path := by
  have hcases : IsAbsolute (expandTilde home path) ∨ expandTilde home path = path := by
    rw [expandTilde]
    split
    · exact .inl hhome
    · exact .inl (hhome.joinPaths _)
    · exact .inr rfl
  rcases hcases with habsolute | hsame
  · exact habsolute.expandTilde_eq home
  · rw [hsame, hsame]

namespace Settings

theorem expandPaths_expandPaths {home : String} (hhome : IsAbsolute home) (settings : Settings) :
    (settings.expandPaths home).expandPaths home = settings.expandPaths home := by
  simp [expandPaths, Function.comp_def, expandTilde_expandTilde hhome]

end Settings

/-! ## Numbers -/

namespace Toml

theorem writable_of_uint64? {value : Toml} (hvalue : Bounded value) {n : UInt64}
    (h : uint64? value = some n) : Writable n := by
  cases hvalue with
  | @integer i hi =>
    simp only [uint64?, natBelow?, Option.map_eq_some_iff] at h
    obtain ⟨m, hm, rfl⟩ := h
    split at hm
    · next hrange =>
      cases hm
      have hsize : i.toNat < UInt64.size := (Int.toNat_lt hrange.1).mpr hrange.2
      have hnumber : (UInt64.ofNat i.toNat).toNat = i.toNat := UInt64.toNat_ofNat_of_lt hsize
      rw [Writable, hnumber, Int.toNat_of_nonneg hrange.1]
      exact hi
    · cases hm
  | _ => cases h

/-- What holds of a default and of what is decoded holds of a field. -/
theorem property_of_withDefault {α : Type} {property : α → Prop} {default : α}
    {item : Toml → Option α} (hdefault : property default)
    (hitem : ∀ {value}, Bounded value → ∀ {a}, item value = some a → property a) {field : Option Toml}
    (hfield : ∀ value ∈ field, Bounded value) {a : α} (h : withDefault default item field = some a) :
    property a := by
  cases field with
  | none =>
    cases h
    exact hdefault
  | some value => exact hitem (hfield value rfl) h

theorem bounded_of_record {value : Toml} (hvalue : Bounded value) {names : List String}
    {fields : List (Option Toml)} (h : value.record names = some fields) :
    ∀ field ∈ fields, ∀ value ∈ field, Bounded value := by
  cases hvalue with
  | table hentries =>
    cases h
    exact List.forall_mem_map.mpr fun _ _ _ hfound ↦ BoundedEntries.get? hentries hfound
  | array helements | tables helements =>
    cases h
    exact List.forall_mem_map.mpr fun _ _ _ hfound ↦ helements _ (List.mem_of_getElem? hfound)
  | dateTime text =>
    cases h
    exact List.forall_mem_map.mpr fun _ _ _ hfound ↦ absurd hfound (Option.not_mem_none _)
  | _ => cases h

end Toml

namespace EngineSettings

theorem writable_default : default.Writable := by
  constructor <;> decide

theorem writable_of_ofToml {value : Toml} (hvalue : Toml.Bounded value) {settings : EngineSettings}
    (h : ofToml value = some settings) : settings.Writable := by
  simp only [ofToml, Option.bind_eq_bind, Option.bind_eq_some_iff] at h
  obtain ⟨fields, hfields, h⟩ := h
  have hbounded := Toml.bounded_of_record hvalue hfields
  split at h
  · simp only [Option.bind_eq_some_iff] at h
    obtain ⟨url, -, request, hrequest, connect, hconnect, bytes, hbytes, h⟩ := h
    cases h
    have hdefault := writable_default
    simp only [List.forall_mem_cons] at hbounded
    obtain ⟨-, hrequested, hconnected, hlimited, -⟩ := hbounded
    constructor
    · exact Toml.property_of_withDefault hdefault.1 Toml.writable_of_uint64? hrequested hrequest
    · exact Toml.property_of_withDefault hdefault.2 Toml.writable_of_uint64? hconnected hconnect
    · exact Toml.property_of_withDefault hdefault.3 Toml.writable_of_uint64? hlimited hbytes
  · cases h

end EngineSettings

namespace Settings

theorem isWritable_default : default.isWritable = true := isWritable_iff.mpr EngineSettings.writable_default

/-- Settings that were read can be written. -/
theorem isWritable_of_read {home text : String} {settings : Settings}
    (h : read home text = some settings) : settings.isWritable = true := by
  simp only [read, Option.bind_eq_bind, Option.bind_eq_some_iff] at h
  obtain ⟨entries, hentries, found, hfound, h⟩ := h
  cases h
  have htable : Toml.Bounded (.table .header entries) := .table (Toml.boundedEntries_of_read hentries)
  rw [isWritable_iff]
  simp only [ofToml, Option.bind_eq_bind, Option.bind_eq_some_iff] at hfound
  obtain ⟨fields, hfields, hfound⟩ := hfound
  have hbounded := Toml.bounded_of_record htable hfields
  split at hfound
  · simp only [Option.bind_eq_some_iff] at hfound
    obtain ⟨engine, hengine, index, -, aggregations, -, logging, -, hfound⟩ := hfound
    cases hfound
    have hfound := hbounded _ List.mem_cons_self
    exact Toml.property_of_withDefault EngineSettings.writable_default
      EngineSettings.writable_of_ofToml hfound hengine
  · cases hfound

end Settings

/-! ## Files -/

namespace Settings

theorem load_eq_ok_iff {home path : String} {content : FileContent} {settings : Settings} :
    load home path content = .ok settings ↔
      ∃ text, content = .ok text ∧ read home text = some settings := by
  cases content with
  | error fault => simp [load]
  | ok text => cases hread : read home text <;> simp [load, hread]

theorem expandPaths_of_read {home : String} (hhome : IsAbsolute home) {text : String}
    {settings : Settings} (hread : read home text = some settings) :
    settings.expandPaths home = settings := by
  simp only [read, Option.bind_eq_bind, Option.bind_eq_some_iff] at hread
  obtain ⟨entries, -, found, -, hfound⟩ := hread
  cases hfound
  exact expandPaths_expandPaths hhome found

/-- Settings that can be written and have no path to expand survive saving. -/
theorem load_written {home : String} {settings : Settings} (hwritable : settings.isWritable = true)
    (hpaths : settings.expandPaths home = settings) :
    ∃ text, settings.write = some text ∧ ∀ path, load home path (.ok text) = .ok settings := by
  have hwrite : settings.write = some ("\n".intercalate settings.paragraphs) := if_pos hwritable
  have hread := read_of_write hwrite home
  rw [hpaths] at hread
  exact ⟨_, hwrite, fun path ↦ load_eq_ok_iff.mpr ⟨_, rfl, hread⟩⟩

/-- Settings survive saving: whatever a file is read as can be written, and the written file is read as
the same, because a path is expanded once and for all. Where there is no file, the settings are the
default ones, and the text that is to be written is read as them. -/
theorem load_survives_saving {home : String} (hhome : IsAbsolute home) :
    (∀ path content settings, load home path content = .ok settings →
      ∃ text, settings.write = some text ∧ ∀ other, load home other (.ok text) = .ok settings) ∧
    (∀ dir, expandTilde home (expandTilde home dir) = expandTilde home dir) ∧
    ∀ path (content : FileContent), content.isPresent = false →
      ∃ text, loadOrCreate home path content = .ok (default, some text) ∧
        ∀ other, load home other (.ok text) = .ok default := by
  refine ⟨?_, expandTilde_expandTilde hhome, ?_⟩
  · intro path content settings hload
    obtain ⟨text, -, hread⟩ := load_eq_ok_iff.mp hload
    exact load_written (isWritable_of_read hread) (expandPaths_of_read hhome hread)
  · intro path content habsent
    obtain ⟨text, hwrite, hload⟩ := @load_written home default isWritable_default rfl
    have hcreate : loadOrCreate home path content = .ok (default, some text) := by
      rw [loadOrCreate, habsent, hwrite]
      rfl
    exact ⟨text, hcreate, hload⟩

theorem load_survives_saving_with_tilde : IsAbsolute "/home/user" ∧ ∃ settings,
    load "/home/user" "config.toml"
      (.ok "[index]\nsettings = \"\\\"'\\n\\\\\"\nmapping_dir = \"~/mappings\"\n") = .ok settings ∧
    settings.index = ⟨5, 1, "\"'\n\\", some "/home/user/mappings"⟩ ∧
    ∃ text, settings.write = some text ∧
      ∀ other, load "/home/user" other (.ok text) = .ok settings := by
  have hload : load "/home/user" "config.toml"
      (.ok "[index]\nsettings = \"\\\"'\\n\\\\\"\nmapping_dir = \"~/mappings\"\n") =
        .ok ⟨.default, ⟨5, 1, "\"'\n\\", some "/home/user/mappings"⟩, .default, .default⟩ := by
    decide +kernel
  have hhome : IsAbsolute "/home/user" := by decide
  exact ⟨hhome, _, hload, rfl, (load_survives_saving hhome).1 _ _ _ hload⟩

end Settings

end FacetSearch
