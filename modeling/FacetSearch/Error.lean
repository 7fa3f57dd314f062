/-!
# Errors

What can go wrong, each error with the data of its cause, its kind, and its wording.
-/

namespace FacetSearch

/-- What is wrong with the properties of an aggregation. -/
inductive PropertyFault where
  | aliasCount (field : String) (aliases types : Nat)
  | unknownLocalizedType (field type : String)
  | rangesMissing (field : String)
  | rangeMalformed (token field : String)
  | boundNotNumeric (token field bound : String)
deriving DecidableEq

/-- What is wrong with a URL. -/
inductive UrlFault where
  | noBase
  | emptyHost
  | invalidPort
  | invalidDomain
  | invalidDomainCharacter
  | invalidIpv4
  | invalidIpv6
deriving DecidableEq

/-- What is wrong with a setting. -/
inductive SettingFault where
  | indexSettingsUnreadable
  | indexSettingsNotObject
  | settingsEntryNotObject
  | urlWithoutPath (url : String)
  | unreadableFile (path : String)
deriving DecidableEq

inductive Error where
  | transport (index : String)
  | backend (status : UInt16) (index reason : String)
  | indexNotFound (index : String)
  | property (fault : PropertyFault)
  | documentWithoutId (index : String)
  /-- A step after the creation of an index failed. -/
  | setupFailed (index : String) (cause : Error)
  | misconfigured (reason : String)
  | bulk (index : String) (failed total : Nat)
  | responseTooLarge (index : String) (limit : UInt64)
  | invalidUrl (fault : UrlFault)
  | json
  | io
  | setting (fault : SettingFault)
deriving DecidableEq

/-- The kinds of errors that a caller tells apart. -/
inductive ErrorKind where
  | transport
  | backend
  | indexNotFound
  | configuration
  | bulk
  | responseTooLarge
  | invalidUrl
  | json
  | io
  | config
deriving DecidableEq

def PropertyFault.message : PropertyFault → String
  | aliasCount field aliases types =>
    s!"Aggregation '{field}' declares {aliases} alias(es) for {types} type(s)"
  | unknownLocalizedType field type =>
    s!"Aggregation '{field}' is localized but declares unknown type '{type}'"
  | rangesMissing field => s!"Range aggregation '{field}' has no 'ranges' property"
  | rangeMalformed token field => s!"Range '{token}' of aggregation '{field}' must be 'from:to'"
  | boundNotNumeric token field bound =>
    s!"Range '{token}' of aggregation '{field}' has non-numeric bound '{bound}'"

def UrlFault.message : UrlFault → String
  | noBase => "relative URL without a base"
  | emptyHost => "empty host"
  | invalidPort => "invalid port number"
  | invalidDomain => "invalid international domain name"
  | invalidDomainCharacter => "invalid domain character"
  | invalidIpv4 => "invalid IPv4 address"
  | invalidIpv6 => "invalid IPv6 address"

def SettingFault.message : SettingFault → String
  | indexSettingsUnreadable => "Invalid index settings JSON: not a JSON text"
  | indexSettingsNotObject => "Index settings must be a JSON object"
  | settingsEntryNotObject => "Index settings 'settings' entry must be an object"
  | urlWithoutPath url => s!"Elasticsearch URL '{url}' cannot be used as a base URL"
  | unreadableFile path => s!"{path}: not a configuration"

namespace Error

def kind : Error → ErrorKind
  | transport _ => .transport
  | backend .. => .backend
  | indexNotFound _ => .indexNotFound
  | property _ | documentWithoutId _ | setupFailed .. | misconfigured _ => .configuration
  | bulk .. => .bulk
  | responseTooLarge .. => .responseTooLarge
  | invalidUrl _ => .invalidUrl
  | json => .json
  | io => .io
  | setting _ => .config

def message : Error → String
  | transport index => s!"Transport error on index {index}: no answer"
  | backend status index reason => s!"Backend error ({status}) on index {index}: {reason}"
  | indexNotFound index => s!"Index not found: {index}"
  | property fault => "Configuration error: " ++ fault.message
  | documentWithoutId index =>
    s!"Configuration error: Cannot index a document without id into {index}"
  | setupFailed index cause =>
    s!"Configuration error: Index configuration failed for {index}: " ++ cause.message
  | misconfigured reason => "Configuration error: " ++ reason
  | bulk index failed total =>
    s!"Bulk request on index {index} had {failed} failed item(s) out of {total}"
  | responseTooLarge index limit => s!"Response from index {index} exceeds {limit} bytes"
  | invalidUrl fault => "Invalid URL: " ++ fault.message
  | json => "JSON error: the text does not decode"
  | io => "IO error: the file cannot be read"
  | setting fault => "Config error: " ++ fault.message

end Error

end FacetSearch
