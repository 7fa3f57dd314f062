import FacetSearch.Proofs.WrittenSections

/-!
# Written settings are read back

Settings whose numbers have 63 bits are written as four sections, and from that text they are read again,
up to the expansion of their paths. A mapping directory that is not set has no line, and its field is
missing when the section is decoded.
-/

namespace FacetSearch

/-! ## Fields -/

namespace Toml

/-- The number can be written. -/
def Writable (n : UInt64) : Prop := fitsInt64 n.toNat = true

instance : DecidablePred Writable := fun _ ↦ inferInstanceAs (Decidable (_ = _))

theorem withDefault_some {α : Type} (default : α) (item : Toml → Option α) (value : Toml) :
    withDefault default item (some value) = item value := rfl

theorem string_written (default s : String) :
    withDefault default string? (some (string s)) = some s := rfl

theorem natBelow?_integer {bound n : Nat} (hn : n < bound) :
    natBelow? bound (integer n) = some n := by
  have hrange : (0 : Int) ≤ n ∧ (n : Int) < bound := ⟨Int.natCast_nonneg n, Int.ofNat_lt.mpr hn⟩
  rw [natBelow?, if_pos hrange, Int.toNat_natCast]

theorem uint64_written (default n : UInt64) :
    withDefault default uint64? (some (integer n.toNat)) = some n := by
  rw [withDefault, uint64?, natBelow?_integer n.toNat_lt, Option.map_some, UInt64.ofNat_toNat]

theorem uint32_written (default n : UInt32) :
    withDefault default uint32? (some (integer n.toNat)) = some n := by
  rw [withDefault, uint32?, natBelow?_integer n.toNat_lt, Option.map_some, UInt32.ofNat_toNat]

theorem fits_uint32 (n : UInt32) : fitsInt64 n.toNat = true := by
  have hsize : n.toNat < 2 ^ 32 := n.toNat_lt
  simp only [fitsInt64, Int64.toInt_minValue, Int64.toInt_maxValue, Bool.and_eq_true,
    decide_eq_true_eq]
  omega

theorem fits_int64 (n : Int64) : fitsInt64 n.toInt = true := by
  rw [fitsInt64, Bool.and_eq_true, decide_eq_true_eq, decide_eq_true_eq]
  exact ⟨n.minValue_le_toInt, n.toInt_le⟩

theorem int64_written (default n : Int64) :
    withDefault default int64? (some (integer n.toInt)) = some n := by
  rw [withDefault, int64?, if_pos (fits_int64 n), Int64.ofInt_toInt]

theorem strings_written (default strings : List String) :
    withDefault default strings? (some (array (strings.map string))) = some strings := by
  rw [withDefault, strings?]
  induction strings with
  | nil => rfl
  | cons s strings ih => simp [string?, ih]

namespace WrittenLine

variable (key : String) (bare : IsBareKey key)

def ofString (s : String) : WrittenLine := ⟨key, Settings.quoted s, string s, bare, writes_quoted s⟩

def ofInteger {i : Int} (hi : fitsInt64 i = true) : WrittenLine :=
  ⟨key, toString i, integer i, bare, writes_toString hi⟩

def ofStrings (strings : List String) : WrittenLine :=
  ⟨key, Settings.quotedList strings, array (strings.map string), bare, writes_quotedList strings⟩

end WrittenLine

theorem WrittenSection.nodup_entries (paragraph : WrittenSection) : paragraph.entries.keys.Nodup := by
  rw [Entries.keys, WrittenSection.entries, List.map_map]
  exact paragraph.distinct

/-- Where every key stands once, the fields of a record are the values of its table, and those that
its table lacks. -/
theorem record_sorted {entries : Entries Toml} (hkeys : entries.keys.Nodup) {missing : List String}
    (hmissing : ∀ name ∈ missing, name ∉ entries.keys) :
    record (entries.keys ++ missing) (table .header entries.sorted) =
      some (entries.map (fun entry ↦ some entry.2) ++ missing.map fun _ ↦ none) := by
  have hfound (name : String) : Entries.get? entries.sorted name = entries.get? name :=
    Entries.get?_sorted_of_nodup hkeys name
  have hentries : entries.keys.map (Entries.get? entries.sorted) =
      entries.map fun entry ↦ some entry.2 := by
    rw [Entries.keys, List.map_map]
    apply List.map_congr_left
    intro entry hentry
    exact (Entries.get?_eq_some_iff (Entries.ascending_sorted entries)).mpr
      ((Entries.sorted_perm hkeys).mem_iff.mpr hentry)
  have hothers : missing.map (Entries.get? entries.sorted) = missing.map fun _ ↦ none := by
    apply List.map_congr_left
    intro name hname
    rw [hfound, Entries.get?_eq_none_iff]
    exact hmissing name hname
  rw [record, List.map_append, hentries, hothers]

end Toml

/-! ## Sections -/

namespace EngineSettings

/-- The settings can be written. -/
structure Writable (settings : EngineSettings) : Prop where
  requestTimeout : Toml.Writable settings.requestTimeout
  connectTimeout : Toml.Writable settings.connectTimeout
  maxResponseBytes : Toml.Writable settings.maxResponseBytes

/-- The settings as they are written. -/
def written (settings : EngineSettings) (h : settings.Writable) : Toml.WrittenSection where
  name := "elasticsearch"
  lines := [
    .ofString "url" (by decide) settings.url,
    .ofInteger "request_timeout_ms" (by decide) h.requestTimeout,
    .ofInteger "connect_timeout_ms" (by decide) h.connectTimeout,
    .ofInteger "max_response_bytes" (by decide) h.maxResponseBytes]
  bare := by decide
  distinct := by simp [Toml.WrittenLine.ofString, Toml.WrittenLine.ofInteger]

theorem ofToml_of_fields {value : Toml} {url request connect bytes : Option Toml}
    {settings : EngineSettings} (hrecord : value.record
      ["url", "request_timeout_ms", "connect_timeout_ms", "max_response_bytes"] =
        some [url, request, connect, bytes])
    (hurl : Toml.withDefault default.url Toml.string? url = some settings.url)
    (hrequest : Toml.withDefault default.requestTimeout Toml.uint64? request =
      some settings.requestTimeout)
    (hconnect : Toml.withDefault default.connectTimeout Toml.uint64? connect =
      some settings.connectTimeout)
    (hbytes : Toml.withDefault default.maxResponseBytes Toml.uint64? bytes =
      some settings.maxResponseBytes) : ofToml value = some settings := by
  -- The fields are variables: with numbers in their place the bounds of the types would be unfolded.
  rw [ofToml, hrecord]
  simp only [Option.bind_eq_bind, Option.bind_some, hurl, hrequest, hconnect, hbytes]
  rfl

theorem ofToml_written (settings : EngineSettings) (h : settings.Writable) :
    ofToml (settings.written h).entry.2 = some settings := by
  have hrecord := @Toml.record_sorted _ (settings.written h).nodup_entries [] (List.forall_mem_nil _)
  exact ofToml_of_fields hrecord (Toml.string_written _ _) (Toml.uint64_written _ _)
    (Toml.uint64_written _ _) (Toml.uint64_written _ _)

end EngineSettings

namespace IndexSettings

/-- The settings as they are written. -/
def written (settings : IndexSettings) : Toml.WrittenSection where
  name := "index"
  lines := [
    .ofInteger "shards" (by decide) (Toml.fits_uint32 settings.shards),
    .ofInteger "replicas" (by decide) (Toml.fits_uint32 settings.replicas),
    .ofString "settings" (by decide) settings.settings] ++
    settings.mappingDir.toList.map (.ofString "mapping_dir" (by decide))
  bare := by decide
  distinct := by
    cases settings.mappingDir <;> simp [Toml.WrittenLine.ofString, Toml.WrittenLine.ofInteger]

theorem ofToml_of_fields {value : Toml} {shards replicas text dir : Option Toml}
    {settings : IndexSettings} (hrecord : value.record
      ["shards", "replicas", "settings", "mapping_dir"] = some [shards, replicas, text, dir])
    (hshards : Toml.withDefault default.shards Toml.uint32? shards = some settings.shards)
    (hreplicas : Toml.withDefault default.replicas Toml.uint32? replicas = some settings.replicas)
    (htext : Toml.withDefault default.settings Toml.string? text = some settings.settings)
    (hdir : Toml.withDefault none (fun value ↦ value.string?.map some) dir =
      some settings.mappingDir) : ofToml value = some settings := by
  rw [ofToml, hrecord]
  simp only [Option.bind_eq_bind, Option.bind_some, hshards, hreplicas, htext, hdir]
  rfl

theorem ofToml_written (settings : IndexSettings) : ofToml settings.written.entry.2 = some settings := by
  obtain ⟨shards, replicas, text, dir⟩ := settings
  cases dir with
  | none =>
    have hmissing : ∀ name ∈ ["mapping_dir"], name ∉ ["shards", "replicas", "settings"] := by
      decide
    have hrecord := @Toml.record_sorted _ (written ⟨shards, replicas, text, none⟩).nodup_entries
      ["mapping_dir"] hmissing
    exact ofToml_of_fields hrecord (Toml.uint32_written _ _) (Toml.uint32_written _ _)
      (Toml.string_written _ _) rfl
  | some dir =>
    have hrecord := @Toml.record_sorted _ (written ⟨shards, replicas, text, some dir⟩).nodup_entries
      [] (List.forall_mem_nil _)
    exact ofToml_of_fields hrecord (Toml.uint32_written _ _) (Toml.uint32_written _ _)
      (Toml.string_written _ _) rfl

end IndexSettings

namespace AggregationSettings

/-- The settings as they are written. -/
def written (settings : AggregationSettings) : Toml.WrittenSection where
  name := "aggregations"
  lines := [
    .ofStrings "locales" (by decide) settings.locales,
    .ofInteger "min_doc_count" (by decide) (Toml.fits_int64 settings.minDocCount)]
  bare := by decide
  distinct := by simp [Toml.WrittenLine.ofStrings, Toml.WrittenLine.ofInteger]

theorem ofToml_of_fields {value : Toml} {locales count : Option Toml}
    {settings : AggregationSettings}
    (hrecord : value.record ["locales", "min_doc_count"] = some [locales, count])
    (hlocales : Toml.withDefault default.locales Toml.strings? locales = some settings.locales)
    (hcount : Toml.withDefault default.minDocCount Toml.int64? count = some settings.minDocCount) :
    ofToml value = some settings := by
  rw [ofToml, hrecord]
  simp only [Option.bind_eq_bind, Option.bind_some, hlocales, hcount]
  rfl

theorem ofToml_written (settings : AggregationSettings) :
    ofToml settings.written.entry.2 = some settings := by
  have hrecord := @Toml.record_sorted _ settings.written.nodup_entries [] (List.forall_mem_nil _)
  exact ofToml_of_fields hrecord (Toml.strings_written _ _) (Toml.int64_written _ _)

end AggregationSettings

namespace LoggingSettings

/-- The settings as they are written. -/
def written (settings : LoggingSettings) : Toml.WrittenSection where
  name := "logging"
  lines := [
    .ofString "level" (by decide) settings.level,
    .ofString "format" (by decide) settings.format]
  bare := by decide
  distinct := by simp [Toml.WrittenLine.ofString]

theorem ofToml_of_fields {value : Toml} {level format : Option Toml} {settings : LoggingSettings}
    (hrecord : value.record ["level", "format"] = some [level, format])
    (hlevel : Toml.withDefault default.level Toml.string? level = some settings.level)
    (hformat : Toml.withDefault default.format Toml.string? format = some settings.format) :
    ofToml value = some settings := by
  rw [ofToml, hrecord]
  simp only [Option.bind_eq_bind, Option.bind_some, hlevel, hformat]
  rfl

theorem ofToml_written (settings : LoggingSettings) :
    ofToml settings.written.entry.2 = some settings := by
  have hrecord := @Toml.record_sorted _ settings.written.nodup_entries [] (List.forall_mem_nil _)
  exact ofToml_of_fields hrecord (Toml.string_written _ _) (Toml.string_written _ _)

end LoggingSettings

namespace Settings

theorem isWritable_iff {settings : Settings} :
    settings.isWritable = true ↔ settings.engine.Writable := by
  simp only [isWritable, List.all_cons, List.all_nil, Bool.and_true, Bool.and_eq_true]
  exact ⟨fun ⟨hrequest, hconnect, hbytes⟩ ↦ ⟨hrequest, hconnect, hbytes⟩,
    fun ⟨hrequest, hconnect, hbytes⟩ ↦ ⟨hrequest, hconnect, hbytes⟩⟩

/-- The sections of the settings. -/
def written (settings : Settings) (h : settings.engine.Writable) : List Toml.WrittenSection :=
  [settings.engine.written h, settings.index.written, settings.aggregations.written,
    settings.logging.written]

theorem map_content_written (settings : Settings) (h : settings.engine.Writable) :
    (settings.written h).map Toml.WrittenSection.content = settings.paragraphs := by
  have hindex : settings.index.written.lines.map Toml.WrittenLine.content = [
      line "shards" (toString settings.index.shards),
      line "replicas" (toString settings.index.replicas),
      line "settings" (quoted settings.index.settings)] ++
      settings.index.mappingDir.toList.map fun dir ↦ line "mapping_dir" (quoted dir) := by
    rw [IndexSettings.written, List.map_append, List.map_map]
    rfl
  rw [written, paragraphs]
  simp only [List.map_cons, List.map_nil, Toml.WrittenSection.content, hindex]
  rfl

theorem ofToml_of_fields {value : Toml} {engine index aggregations logging : Option Toml}
    {settings : Settings} (hrecord : value.record
      ["elasticsearch", "index", "aggregations", "logging"] =
        some [engine, index, aggregations, logging])
    (hengine : Toml.withDefault .default EngineSettings.ofToml engine = some settings.engine)
    (hindex : Toml.withDefault .default IndexSettings.ofToml index = some settings.index)
    (haggregations : Toml.withDefault .default AggregationSettings.ofToml aggregations =
      some settings.aggregations)
    (hlogging : Toml.withDefault .default LoggingSettings.ofToml logging = some settings.logging) :
    ofToml value = some settings := by
  rw [ofToml, hrecord]
  simp only [Option.bind_eq_bind, Option.bind_some, hengine, hindex, haggregations, hlogging]
  rfl

theorem nodup_written (settings : Settings) (h : settings.engine.Writable) :
    ((settings.written h).map Toml.WrittenSection.name).Nodup := by
  change ["elasticsearch", "index", "aggregations", "logging"].Nodup
  decide

theorem ofToml_sorted (settings : Settings) (h : settings.engine.Writable) :
    ofToml (.table .header (Entries.sorted ((settings.written h).map Toml.WrittenSection.entry))) =
      some settings := by
  have hkeys : Entries.keys ((settings.written h).map Toml.WrittenSection.entry) =
      (settings.written h).map Toml.WrittenSection.name := by
    rw [Entries.keys, List.map_map]
    rfl
  have hrecord := @Toml.record_sorted _ (hkeys ▸ settings.nodup_written h) [] (List.forall_mem_nil _)
  exact ofToml_of_fields hrecord
    ((Toml.withDefault_some _ _ _).trans (settings.engine.ofToml_written h))
    ((Toml.withDefault_some _ _ _).trans settings.index.ofToml_written)
    ((Toml.withDefault_some _ _ _).trans settings.aggregations.ofToml_written)
    ((Toml.withDefault_some _ _ _).trans settings.logging.ofToml_written)

theorem read_of_entries {text : String} {entries : Entries Toml} {settings : Settings}
    (hread : Toml.read text = some entries) (hsettings : ofToml (.table .header entries) = some settings)
    (home : String) : read home text = some (settings.expandPaths home) := by
  rw [read, hread]
  simp only [Option.bind_eq_bind, Option.bind_some, hsettings]
  rfl

/-- Settings are read from the text that was written, up to the paths. -/
theorem read_of_write {settings : Settings} {text : String} (hwrite : settings.write = some text)
    (home : String) : read home text = some (settings.expandPaths home) := by
  rw [write] at hwrite
  split at hwrite
  · next hwritable =>
    cases hwrite
    have h := isWritable_iff.mp hwritable
    have htext : ("\n".intercalate settings.paragraphs).toList =
        Toml.documentText (settings.written h) := by
      rw [String.toList_intercalate, ← settings.map_content_written h, List.map_map]
      rfl
    exact read_of_entries (Toml.read_documentText htext (settings.nodup_written h))
      (settings.ofToml_sorted h) home
  · cases hwrite

end Settings

end FacetSearch
