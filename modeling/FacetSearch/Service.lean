import FacetSearch.Document.Indexer
import FacetSearch.Index.Mapping
import FacetSearch.Search.Searcher
import FacetSearch.Settings.Basic

/-!
# The service

Settings determine how indices are created and how aggregations are planned. The mapping files, if a
directory of them is set, are applied to a new index before any other listener runs.
-/

namespace FacetSearch

structure Service where
  manager : IndexManager
  searcher : Searcher

namespace Service

/-- The listener that applies mapping files, if their directory is set, and then the others. -/
def listeners (settings : IndexSettings) (read : String → FileContent)
    (others : List Listener) : List Listener :=
  (settings.mappingDir.map (Mapping.listener read)).toList ++ others

/-- The service with the given settings, whose mapping files are read by `read`. -/
def ofSettings (settings : Settings) (read : String → FileContent) (others : List Listener)
    (compiler : Compiler) : Service where
  manager := ⟨settings.index, listeners settings.index read others⟩
  searcher :=
    ⟨⟨settings.aggregations.locales, settings.aggregations.minDocCount⟩, compiler⟩

end Service

end FacetSearch
