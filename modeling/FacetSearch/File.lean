/-!
# Files

What a path leads to, as far as a reader of text can tell, and how paths are put together. A path is
a Unicode string.
-/

namespace FacetSearch

/-- Why a path leads to no text. -/
inductive FileFault where
  /-- Nothing is there. -/
  | absent
  /-- The path goes on behind a file. -/
  | notDirectory
  /-- The path, or a name in it, is too long. -/
  | nameTooLong
  /-- Something is there, but it cannot be read as text. -/
  | unreadable
deriving DecidableEq

/-- The text of a file. -/
abbrev FileContent := Except FileFault String

/-- Something is at the path, even if it cannot be read. -/
def FileContent.isPresent : FileContent → Bool
  | .ok _ | .error .unreadable => true
  | .error .absent | .error .notDirectory | .error .nameTooLong => false

/-- A path below a directory; an absolute path stands for itself. -/
def joinPaths (dir path : String) : String :=
  if path.toList.head? == some '/' || dir.isEmpty then path
  else if dir.toList.getLast? == some '/' then dir ++ path
  else dir ++ "/" ++ path

/-- The path with the home directory in place of a tilde in front; only a tilde that is a whole
segment stands for it. Paths are Unicode strings, also that of the home directory: one with octets
that are no UTF-8 is left out. -/
def expandTilde (home path : String) : String :=
  match path.toList with
  | ['~'] => home
  | '~' :: '/' :: rest => joinPaths home (String.ofList rest)
  | _ => path

end FacetSearch
