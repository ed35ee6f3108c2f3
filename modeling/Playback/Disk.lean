import Playback.Failure

set_option autoImplicit false

namespace Playback

inductive Node where
  | folder
  | file (contents : Bytes)
  | socket
  deriving DecidableEq, Repr

/-- The place of a node: the names of the folders above it and its own. -/
abbrev Place := List String

/-- A tree of folders, files and socket files. A path is followed component by component from
the top; empty components and single dots stay where they are, and double dots go up. -/
structure Disk where
  nodes : List (Place × Node) := []
  deriving DecidableEq, Repr

namespace Disk

/-- The longest name of a node and the longest path, in bytes. -/
def nameLimit : Nat := 255
def pathLimit : Nat := 4095

def components (path : String) : List String := path.splitOn "/"

/-- The top of the tree is a folder. -/
def node? (disk : Disk) (place : Place) : Option Node :=
  if place.isEmpty then some .folder else disk.nodes.lookup place

def put (disk : Disk) (place : Place) (node : Node) : Disk where
  nodes := (place, node) :: disk.nodes.filter fun entry => entry.1 ≠ place

def erase (disk : Disk) (place : Place) : Disk where
  nodes := disk.nodes.filter fun entry => entry.1 ≠ place

def staysPut (name : String) : Bool := name = "" || name = "."

/-- The place that a path names, if it does not go up. -/
def placeOf (path : String) : Place := (components path).filter fun name => !staysPut name

/-- The place that the components lead to. The node there need not exist. -/
def follow (disk : Disk) (place : Place) : List String → Except IoFault Place
  | [] => .ok place
  | name :: rest =>
    match disk.node? place with
    | none => .error .missingFile
    | some .folder =>
      if staysPut name then disk.follow place rest
      else if name = ".." then disk.follow place.dropLast rest
      else if nameLimit < (Utf8.encode name).length then .error .nameTooLong
      else disk.follow (place ++ [name]) rest
    | some _ => .error .notFolder

def checkPath (path : String) (zero : IoFault) : Except IoFault Unit :=
  if path.toList.contains '\x00' then .error zero
  else if pathLimit < (Utf8.encode path).length then .error .nameTooLong
  else .ok ()

def read (disk : Disk) (path : String) : Except IoFault Bytes := do
  checkPath path .zeroInName
  let place ← disk.follow [] (components path)
  match disk.node? place with
  | some (.file contents) => .ok contents
  | some .folder => .error .isFolder
  | some .socket => .error .notSocketFile
  | none => .error .missingFile

/-- A path that ends in a slash or in dots names a folder. -/
def namesFolder (names : List String) : Bool :=
  match names.getLast? with
  | some name => staysPut name || name = ".."
  | none => true

/-- Replaces or creates a file. -/
def write (disk : Disk) (path : String) (contents : Bytes) : Except IoFault Disk := do
  checkPath path .zeroInName
  let names := components path
  if namesFolder names then
    let above := ((names.reverse.dropWhile (· = "")).drop 1).reverse
    let place ← disk.follow [] above
    match disk.node? place with
    | some .folder => .error .isFolder
    | some _ => .error .notFolder
    | none => .error .missingFile
  else
    let place ← disk.follow [] names
    match disk.node? place with
    | some .folder => .error .isFolder
    | some .socket => .error .notSocketFile
    | _ => .ok (disk.put place (.file contents))

/-- Creates a folder and the folders above it, as far as they are missing. -/
def makeFolders (disk : Disk) (place : Place) : Disk :=
  (List.range place.length).foldl (fun disk depth =>
    let above := place.take (depth + 1)
    if (disk.node? above).isSome then disk else disk.put above .folder) disk

end Disk

end Playback
