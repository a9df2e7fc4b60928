import Choreography.Text

/-!
# File trees

The files that a command works on.  A path is a list of names between slashes,
where a single dot stands for the folder itself and two dots for the one above.
`find` follows a path from the root of the tree through folders that exist.
-/

namespace Choreography

/-- The content of a file; none if it is not text. -/
abbrev Content := Option String

/-- What stands at a path. -/
inductive Found where
  | nothing
  | file (content : Content)
  /-- A folder, with every file below it and the names that lead there. -/
  | folder (files : List (List String × Content))
deriving DecidableEq, Repr, Inhabited

/-- All files of a tree, each with the names that lead to it. -/
abbrev FileTree := List (List String × Content)

namespace FileTree

/-- The texts between the slashes of a path. -/
def splitSlashes (path : String) : List String :=
  (path.toList.splitOnP (· == '/')).map String.ofList

/-- The tree of files with the given paths. -/
def ofList (files : List (String × Content)) : FileTree :=
  files.map fun (path, content) =>
    ((splitSlashes path).filter fun name => name ≠ "" && name ≠ ".", content)

/-- The names after the given ones, if a list starts with those and goes on. -/
def below? (place names : List String) : Option (List String) :=
  if place.isPrefixOf names && place.length < names.length then
    some (names.drop place.length)
  else none

/-- Whether one list of names stands before another or is the same: the first
names that differ decide, in alphabetical order, and a list stands before its
own continuations. -/
def precedes : List String → List String → Bool
  | [], _ => true
  | _ :: _, [] => false
  | name :: rest, other :: others =>
    if name = other then precedes rest others else name ≤ other

/-- What stands at a place that is given by names alone. -/
def found (tree : FileTree) (place : List String) : Found :=
  match tree.lookup place with
  | some content => .file content
  | none =>
    let files := tree.filterMap fun (names, content) =>
      (below? place names).map (·, content)
    if files.isEmpty && !place.isEmpty then .nothing else .folder files

/-- What a path leads to from a folder.  An empty name and a single dot ask that
what came before them is a folder. -/
def follow (tree : FileTree) (place : List String) : List String → Found
  | [] => found tree place
  | name :: rest =>
    match found tree place with
    | .folder _ =>
      if name = "" ∨ name = "." then follow tree place rest
      else if name = ".." then
        if place.isEmpty then .nothing else follow tree place.dropLast rest
      else follow tree (place ++ [name]) rest
    | _ => .nothing

/-- What stands at a path; the empty path and paths from a root outside the tree
lead nowhere. -/
def find (tree : FileTree) (path : String) : Found :=
  match splitSlashes path with
  | "" :: _ => .nothing
  | names => follow tree [] names

end FileTree

end Choreography
