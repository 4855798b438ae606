import Rulebook.Dict
import Rulebook.Failure
import Rulebook.Text.Split

/-!
# Files in memory

A tree of directories and files, in which paths are followed as a file system
does. File commands can be run against it as against a disk.
-/

namespace Rulebook

/-- A file or a directory. -/
inductive FileTree where
  /-- A file with its bytes. -/
  | file (content : ByteArray)
  /-- A directory with its entries in the order of their names. -/
  | directory (entries : List (String × FileTree))

namespace FileTree

/-- A directory without entries. -/
def empty : FileTree := .directory []

/-- The parts of a path between its slashes. -/
def parts (path : String) : List String :=
  (Text.splitAt '/' path.toList).map String.ofList

/-- What is reached from a directory. `above` holds the directories around it, the
nearest first; above the last one there is nothing to be found. Every part of a
path but the last must lead to a directory, and so must a part before a slash. -/
def walk (above : List FileTree) (here : FileTree) : List String → Except ReadFault FileTree
  | [] => .ok here
  | part :: rest =>
    match here with
    | .file _ => .error .notDirectory
    | .directory entries =>
      if part = "" ∨ part = "." then walk above here rest
      else if part = ".." then
        match above with
        | [] => walk [] empty rest
        | parent :: above => walk above parent rest
      else
        match Dict.find? part entries with
        | none => .error .notFound
        | some child => walk (here :: above) child rest

/-- What a path leads to. An empty path leads nowhere, and nothing is known of
paths from the root. -/
def follow (tree : FileTree) (path : String) : Except ReadFault FileTree :=
  if path.isEmpty then .error .notFound
  else walk [] (if path.startsWith "/" then empty else tree) (parts path)

/-- The bytes of the file at a path. -/
def read (tree : FileTree) (path : String) : Except ReadFault ByteArray := do
  match ← tree.follow path with
  | .file content => .ok content
  | .directory _ => .error .isDirectory

/-- The names along a path, where `..` takes back the name before it. `passed`
holds the names already passed, the last one first. -/
def namesAlong (passed : List String) : List String → List String
  | [] => passed.reverse
  | part :: rest =>
    if part = "" ∨ part = "." then namesAlong passed rest
    else if part = ".." then namesAlong (passed.drop 1) rest
    else namesAlong (part :: passed) rest

/-- The entries with the one at the end of the names changed. `missing` stands for
a directory on the way that does not exist, if one is to be made. -/
def alter (missing : Option FileTree) (change : Option FileTree → Option FileTree) :
    List String → Dict FileTree → Dict FileTree
  | [], entries => entries
  | [name], entries =>
    match change (Dict.find? name entries) with
    | some tree => Dict.insert name tree entries
    | none => Dict.erase name entries
  | name :: rest, entries =>
    match (Dict.find? name entries).or missing with
    | some (.directory below) => Dict.insert name (.directory (alter missing change rest below)) entries
    | _ => entries

/-- The tree with the entry at a path changed. -/
def alterAt (tree : FileTree) (path : String) (missing : Option FileTree)
    (change : Option FileTree → Option FileTree) : FileTree :=
  match tree with
  | .file content => .file content
  | .directory entries => .directory (alter missing change (namesAlong [] (parts path)) entries)

/-- The tree with a file written at a path, unless there is a directory. -/
def write (tree : FileTree) (path : String) (content : ByteArray) : FileTree :=
  tree.alterAt path none fun
    | some (.directory entries) => some (.directory entries)
    | _ => some (.file content)

/-- The tree with a directory made at a path, and with those on the way to it. -/
def makeDirectory (tree : FileTree) (path : String) : FileTree :=
  tree.alterAt path (some empty) fun existing => existing.or (some empty)

/-- The tree without what a path leads to. -/
def remove (tree : FileTree) (path : String) : FileTree :=
  tree.alterAt path none fun _ => none

end FileTree

end Rulebook
