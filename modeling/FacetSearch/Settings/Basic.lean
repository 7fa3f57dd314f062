import FacetSearch.File
import FacetSearch.Index.Settings

/-!
# Settings

Everything that can be set: how the engine is reached, how indices are created, how aggregations
are planned, and what is logged.
-/

namespace FacetSearch

/-- How the engine is reached. -/
structure EngineSettings where
  url : String
  /-- The time that a request may take, in milliseconds. -/
  requestTimeout : UInt64
  /-- The time that making a connection may take, in milliseconds. -/
  connectTimeout : UInt64
  /-- The length, in octets, that the body of an answer may not exceed. -/
  maxResponseBytes : UInt64
deriving DecidableEq

/-- How aggregations are planned. -/
structure AggregationSettings where
  locales : List String
  /-- The number of documents that a bucket must have; a negative one sets nothing. -/
  minDocCount : Int64
deriving DecidableEq

/-- What is logged. -/
structure LoggingSettings where
  level : String
  format : String
deriving DecidableEq

structure Settings where
  engine : EngineSettings
  index : IndexSettings
  aggregations : AggregationSettings
  logging : LoggingSettings
deriving DecidableEq

namespace EngineSettings

/-- The length that the body of an answer may have unless it is set. -/
def defaultMaxResponseBytes : UInt64 := 250 * 1024 * 1024

def default : EngineSettings := ⟨"http://localhost:9200", 30000, 5000, defaultMaxResponseBytes⟩

end EngineSettings

namespace AggregationSettings

def default : AggregationSettings := ⟨[], 0⟩

end AggregationSettings

namespace LoggingSettings

def default : LoggingSettings := ⟨"info", "pretty"⟩

end LoggingSettings

namespace Settings

def default : Settings := ⟨.default, .default, .default, .default⟩

/-- The settings with the home directory put into their paths. -/
def expandPaths (home : String) (settings : Settings) : Settings :=
  { settings with index :=
      { settings.index with mappingDir := settings.index.mappingDir.map (expandTilde home) } }

/-- The directory that holds the program's data. -/
def dataDir (home : String) : String := joinPaths home ".docsearch"

/-- The file that the settings are read from unless another one is given. -/
def defaultPath (home : String) : String := joinPaths (dataDir home) "config.toml"

end Settings

end FacetSearch
