import FacetSearch.File
import FacetSearch.Text.Blank

/-!
# Files in memory

A store of files and directories that are found by paths. A path is followed name by name, so every
directory on the way has to be there, also one that is left again by two dots.
-/

namespace FacetSearch

/-- What has a path. -/
inductive FileEntry where
  | directory
  | file (content : String)
deriving DecidableEq

/-- Files and directories with the names on the way to them; the directories on the way need not be
among them. -/
structure FileStore where
  entries : List (List String × FileEntry)

namespace FileStore

/-- The entry at the end of a way, of several the first. -/
def entry? (store : FileStore) (way : List String) : Option FileEntry :=
  match store.entries.find? fun entry ↦ entry.1 = way with
  | some entry => some entry.2
  | none =>
    if way.isEmpty || store.entries.any fun entry ↦ way.isPrefixOf entry.1 then some .directory
    else none

/-- The most octets that a name has. -/
def longestName : Nat := 255

/-- The most octets that a path has. -/
def longestPath : Nat := 4095

/-- The entry to which names lead that follow a way. -/
def follow (store : FileStore) (way : List String) : List String → Except FileFault FileEntry
  | [] =>
    match store.entry? way with
    | some entry => .ok entry
    | none => .error .absent
  | name :: rest =>
    match store.entry? way with
    | none => .error .absent
    | some (.file _) => .error .notDirectory
    | some .directory =>
      if name = "" ∨ name = "." then follow store way rest
      else if name = ".." then follow store way.dropLast rest
      else if longestName < name.utf8ByteSize then .error .nameTooLong
      else follow store (way ++ [name]) rest

/-- The names in a path. -/
def names (path : String) : List String := (Text.pieces '/' path.toList).map String.ofList

/-- The entry at a path, which starts at the directory `here` unless it is absolute. -/
def find (store : FileStore) (here : List String) (path : String) : Except FileFault FileEntry :=
  if path.toList.contains (Char.ofNat 0) then .error .unreadable
  else if path = "" then .error .absent
  else if longestPath < path.utf8ByteSize then .error .nameTooLong
  else store.follow (if path.toList.head? = some '/' then [] else here) (names path)

/-- The text of the file at a path. -/
def read (store : FileStore) (here : List String) (path : String) : FileContent := do
  match ← store.find here path with
  | .file content => return content
  | .directory => .error .unreadable

end FileStore

end FacetSearch
