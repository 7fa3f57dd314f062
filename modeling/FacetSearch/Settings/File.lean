import FacetSearch.Settings.Basic
import FacetSearch.Toml.Decode
import FacetSearch.Toml.Reader

/-!
# Settings files

Settings are read from a TOML text in which everything may be missing, and written to one in which
everything stands. A tilde in a path is expanded when it is read. Integers are written in 63 bits,
so settings that exceed them cannot be written.
-/

namespace FacetSearch

namespace EngineSettings

def ofToml (value : Toml) : Option EngineSettings := do
  let [url, request, connect, bytes] ← value.record
    ["url", "request_timeout_ms", "connect_timeout_ms", "max_response_bytes"] | none
  return {
    url := ← Toml.withDefault default.url Toml.string? url
    requestTimeout := ← Toml.withDefault default.requestTimeout Toml.uint64? request
    connectTimeout := ← Toml.withDefault default.connectTimeout Toml.uint64? connect
    maxResponseBytes := ← Toml.withDefault default.maxResponseBytes Toml.uint64? bytes }

end EngineSettings

namespace IndexSettings

def ofToml (value : Toml) : Option IndexSettings := do
  let [shards, replicas, settings, dir] ← value.record
    ["shards", "replicas", "settings", "mapping_dir"] | none
  return {
    shards := ← Toml.withDefault default.shards Toml.uint32? shards
    replicas := ← Toml.withDefault default.replicas Toml.uint32? replicas
    settings := ← Toml.withDefault default.settings Toml.string? settings
    mappingDir := ← Toml.withDefault none (fun value ↦ value.string?.map some) dir }

end IndexSettings

namespace AggregationSettings

def ofToml (value : Toml) : Option AggregationSettings := do
  let [locales, count] ← value.record ["locales", "min_doc_count"] | none
  return {
    locales := ← Toml.withDefault default.locales Toml.strings? locales
    minDocCount := ← Toml.withDefault default.minDocCount Toml.int64? count }

end AggregationSettings

namespace LoggingSettings

def ofToml (value : Toml) : Option LoggingSettings := do
  let [level, format] ← value.record ["level", "format"] | none
  return {
    level := ← Toml.withDefault default.level Toml.string? level
    format := ← Toml.withDefault default.format Toml.string? format }

end LoggingSettings

namespace Settings

def ofToml (value : Toml) : Option Settings := do
  let [engine, index, aggregations, logging] ← value.record
    ["elasticsearch", "index", "aggregations", "logging"] | none
  return {
    engine := ← Toml.withDefault .default EngineSettings.ofToml engine
    index := ← Toml.withDefault .default IndexSettings.ofToml index
    aggregations := ← Toml.withDefault .default AggregationSettings.ofToml aggregations
    logging := ← Toml.withDefault .default LoggingSettings.ofToml logging }

/-- The settings in a text, the home directory put into their paths. -/
def read (home text : String) : Option Settings := do
  let entries ← Toml.read text
  let settings ← ofToml (.table .header entries)
  return settings.expandPaths home

/-- A value as it is written after the equals sign. -/
def quoted (s : String) : String := String.ofList (Toml.quote s.toList)

/-- An array of strings, with one line for each as soon as there are two. -/
def quotedList : List String → String
  | [] => "[]"
  | [only] => "[" ++ quoted only ++ "]"
  | several =>
    "[\n" ++ String.join (several.map fun s ↦ "    " ++ quoted s ++ ",\n") ++ "]"

/-- A line with a key and a value as it is written. -/
def line (key value : String) : String := key ++ " = " ++ value ++ "\n"

/-- A section with its lines. -/
def paragraph (name : String) (lines : List String) : String :=
  "[" ++ name ++ "]\n" ++ String.join lines

/-- The sections of the text. -/
def paragraphs (settings : Settings) : List String :=
  let engine := settings.engine
  let index := settings.index
  [ paragraph "elasticsearch" [
      line "url" (quoted engine.url),
      line "request_timeout_ms" (toString engine.requestTimeout),
      line "connect_timeout_ms" (toString engine.connectTimeout),
      line "max_response_bytes" (toString engine.maxResponseBytes)],
    paragraph "index" ([
      line "shards" (toString index.shards),
      line "replicas" (toString index.replicas),
      line "settings" (quoted index.settings)] ++
      index.mappingDir.toList.map fun dir ↦ line "mapping_dir" (quoted dir)),
    paragraph "aggregations" [
      line "locales" (quotedList settings.aggregations.locales),
      line "min_doc_count" (toString settings.aggregations.minDocCount.toInt)],
    paragraph "logging" [
      line "level" (quoted settings.logging.level),
      line "format" (quoted settings.logging.format)]]

/-- Every number fits into 63 bits. -/
def isWritable (settings : Settings) : Bool :=
  [settings.engine.requestTimeout, settings.engine.connectTimeout,
    settings.engine.maxResponseBytes].all fun n ↦ Toml.fitsInt64 n.toNat

/-- The text of the settings. Integers are all that can stand in its way, because the directory of
the mapping files is a Unicode string; a path below a home directory whose octets are no UTF-8, which
cannot be written, is left out. -/
def write (settings : Settings) : Option String :=
  if settings.isWritable then some ("\n".intercalate settings.paragraphs) else none

/-- The settings in a file at a path. -/
def load (home path : String) : FileContent → Except Error Settings
  | .error _ => .error .io
  | .ok content => match read home content with
    | some settings => .ok settings
    | none => .error (.setting (.unreadableFile path))

/-- The settings in a file, or, when there is none, the default ones with the text that is to be
written to it. -/
def loadOrCreate (home path : String) (content : FileContent) :
    Except Error (Settings × Option String) :=
  if content.isPresent then (load home path content).map fun settings ↦ (settings, none)
  else .ok (.default, Settings.default.write)

end Settings

end FacetSearch
