import FacetSearch.Json.Reader
import FacetSearch.Text.Blank
import FacetSearch.Error

/-!
# Settings of new indices

The settings of an index are a JSON text to which the numbers of shards and replicas are added. The
text is either the body of a creation, with its settings in a member of that name, or the settings
alone, beside which only the sections `mappings` and `aliases` may stand.
-/

namespace FacetSearch

structure IndexSettings where
  shards : UInt32
  replicas : UInt32
  /-- The settings as a JSON text; blank text is the empty object. -/
  settings : String
  /-- The directory of the mapping files. Its path is a Unicode string, so it can always be written
  to a file of settings. -/
  mappingDir : Option String
deriving DecidableEq

namespace IndexSettings

def default : IndexSettings := ⟨5, 1, "\x7b\x7d", none⟩

/-- The members of a creation body that are no settings. -/
def isSection (name : String) : Bool := name == "mappings" || name == "aliases"

/-- The members of the settings text. -/
def members (settings : IndexSettings) : Except Error (List (String × Json)) :=
  if (Text.trim settings.settings.toList).isEmpty then .ok []
  else match Json.read settings.settings with
    | none => .error (.setting .indexSettingsUnreadable)
    | some (.obj members) => .ok members
    | some _ => .error (.setting .indexSettingsNotObject)

/-- Splits members into the settings proper and the other sections. -/
def split (members : List (String × Json)) :
    Except Error (List (String × Json) × List (String × Json)) :=
  match Entries.get? members "settings" with
  | some (.obj settings) => .ok (settings, Entries.erase members "settings")
  | some _ => .error (.setting .settingsEntryNotObject)
  | none => .ok (members.filter fun member ↦ !isSection member.1,
      members.filter fun member ↦ isSection member.1)

/-- The settings with the numbers of shards and replicas. -/
def withCounts (settings : IndexSettings) (members : List (String × Json)) :
    List (String × Json) :=
  Entries.insert (Entries.insert members "number_of_shards" (.nat settings.shards.toNat))
    "number_of_replicas" (.nat settings.replicas.toNat)

/-- The body with which an index is created. -/
def createBody (settings : IndexSettings) : Except Error Json := do
  let members ← settings.members
  let (own, sections) ← split members
  return .obj (Entries.insert sections "settings" (.obj (settings.withCounts own)))

end IndexSettings

end FacetSearch
