import SecureForward.Files.Path
import SecureForward.Text.Quoted
import SecureForward.Text.Utf8

/-!
# The file tree

Files and directories by their path, the rights that the user lacks, and the room that is left. The
root is always a directory. An access fails for the first reason that is met on the way down.
Writing adds as much as there is room for, also when that is not all.
-/

namespace SecureForward

open SecureForward.Text (quoted)
open SecureForward.Text.Utf8 (Bytes)

/-- What stands at a path. -/
inductive Node where
  /-- A file with its content. -/
  | file (content : Bytes)
  /-- A directory. -/
  | directory
deriving DecidableEq, Repr

/-- Why a file cannot be accessed. -/
inductive AccessError where
  /-- Nothing stands there. -/
  | missing
  /-- A name above is no directory. -/
  | notDirectory
  /-- A directory stands where a file is expected. -/
  | isDirectory
  /-- A name, or the whole path, is too long. -/
  | tooLong
  /-- The user lacks the right. -/
  | denied
  /-- The device cannot be written to. -/
  | readOnly
  /-- The device is full. -/
  | noRoom
deriving DecidableEq, Repr

namespace AccessError

/-- The number of the error. -/
def code : AccessError → Nat
  | .missing => 2
  | .notDirectory => 20
  | .isDirectory => 21
  | .tooLong => 36
  | .denied => 13
  | .readOnly => 30
  | .noRoom => 28

/-- The error in words. -/
def text : AccessError → String
  | .missing => "No such file or directory"
  | .notDirectory => "Not a directory"
  | .isDirectory => "Is a directory"
  | .tooLong => "File name too long"
  | .denied => "Permission denied"
  | .readOnly => "Read-only file system"
  | .noRoom => "No space left on device"

/-- The error with its number. -/
def numbered (e : AccessError) : String :=
  s!"[Errno {e.code}] {e.text}"

/-- The error with its number and the path. -/
def message (e : AccessError) (path : String) : String :=
  s!"{e.numbered}: {quoted path}"

end AccessError

/-- What a user may do. -/
inductive Right where
  /-- To go through a directory. -/
  | search
  /-- To read a file. -/
  | read
  /-- To write to a file, or to change what stands in a directory. -/
  | write
deriving DecidableEq, Repr

/-- Files and directories with the names that lead to them; the first entry of a path counts. -/
structure FileTree where
  /-- The entries. -/
  entries : List (List (List Char) × Node)
  /-- The rights that the user lacks, with the names of what they concern. -/
  withheld : List (List (List Char) × Right) := []
  /-- The names of what stands on a device that cannot be written to. -/
  frozen : List (List (List Char)) := []
  /-- How many more bytes there is room for, if there is a bound. -/
  room : Option Nat := none
deriving DecidableEq, Repr

namespace FileTree

/-- A tree with the root only. -/
def empty : FileTree := { entries := [] }

/-- What stands under these names. -/
def node? (tree : FileTree) (names : List (List Char)) : Option Node :=
  if names = [] then some .directory
  else (tree.entries.find? fun entry => entry.1 == names).map (·.2)

/-- Puts a node under these names. -/
def put (tree : FileTree) (names : List (List Char)) (node : Node) : FileTree :=
  { tree with entries := (names, node) :: tree.entries.filter fun entry => entry.1 != names }

/-- Makes the directories above these names that do not exist. -/
def makeParents (tree : FileTree) (names : List (List Char)) : FileTree :=
  (List.range names.length).foldl
    (fun tree depth =>
      let above := names.take depth
      if (tree.node? above).isNone then tree.put above .directory else tree)
    tree

/-- Puts a node at a path, with the directories above it. -/
def insert (tree : FileTree) (path : Path) (node : Node) : FileTree :=
  (tree.makeParents path.names).put path.names node

/-- Takes away what stands at a path, and with it the rights that concern it. -/
def erase (tree : FileTree) (path : Path) : FileTree :=
  { tree with
    entries := tree.entries.filter fun entry => entry.1 != path.names
    withheld := tree.withheld.filter fun entry => entry.1 != path.names }

/-- Whether the user has a right at a place. -/
def may (tree : FileTree) (right : Right) (names : List (List Char)) : Bool :=
  !tree.withheld.contains (names, right)

/-- Why what stands at a place cannot be written to, if it cannot. -/
def writeError? (tree : FileTree) (names : List (List Char)) : Option AccessError :=
  if tree.frozen.contains names then some .readOnly
  else if tree.may .write names then none
  else some .denied

/-- The most bytes that a name may have. -/
def nameLimit : Nat := 255

/-- The most bytes that a path may have. -/
def pathLimit : Nat := 4095

/-- Walks down from `above` along the names and gives the node at the end. -/
def walk (tree : FileTree) (above : List (List Char)) :
    List (List Char) → Except AccessError Node
  | [] => (tree.node? above).elim (.error .missing) .ok
  | name :: names =>
    match tree.node? above with
    | none => .error .missing
    | some (.file _) => .error .notDirectory
    | some .directory =>
      if !tree.may .search above then .error .denied
      else if nameLimit < (Text.Utf8.encode name).length then .error .tooLong
      else walk tree (above ++ [name]) names

/-- What stands at a path. -/
def lookup (tree : FileTree) (path : Path) : Except AccessError Node :=
  if pathLimit < (Text.Utf8.encode path.toList).length then .error .tooLong
  else tree.walk [] path.names

/-- Whether anything is found at a path. -/
def stands (tree : FileTree) (path : Path) : Bool :=
  (tree.lookup path).isOk

/-- The content of the file at a path. -/
def read (tree : FileTree) (path : Path) : Except AccessError Bytes :=
  match tree.lookup path with
  | .error e => .error e
  | .ok node =>
    if !tree.may .read path.names then .error .denied
    else
      match node with
      | .file content => .ok content
      | .directory => .error .isDirectory

/-- Whether a file stands at a path. A path that leads nowhere holds no file; a name that is too
long and a directory that may not be gone through are errors. -/
def isFile (tree : FileTree) (path : Path) : Except AccessError Bool :=
  if path.toList.contains '\x00' then .ok false
  else
    match tree.lookup path with
    | .ok (.file _) => .ok true
    | .ok .directory | .error .missing | .error .notDirectory => .ok false
    | .error e => .error e

/-- The content of the file at a path, which is opened to be read and written. -/
def readToUpdate (tree : FileTree) (path : Path) : Except AccessError Bytes :=
  match tree.lookup path with
  | .error e => .error e
  | .ok .directory => .error .isDirectory
  | .ok (.file _) =>
    match tree.writeError? path.names with
    | some e => .error e
    | none => tree.read path

/-- The content to which an append at a path adds: nothing if there is no file yet but a directory
for it. -/
def readToAppend (tree : FileTree) (path : Path) : Except AccessError Bytes :=
  match tree.lookup path with
  | .ok .directory => .error .isDirectory
  | .ok (.file content) => (tree.writeError? path.names).elim (.ok content) .error
  | .error .missing =>
    let above := path.names.dropLast
    match tree.walk [] above with
    | .ok .directory => (tree.writeError? above).elim (.ok []) .error
    | .ok (.file _) => .error .notDirectory
    | .error e => .error e
  | .error e => .error e

/-- Whether there is no room for so many bytes. -/
def lacksRoom (tree : FileTree) (bytes : Bytes) : Bool :=
  tree.room.any (· < bytes.length)

/-- As many of these bytes as there is room for. -/
def fitting (tree : FileTree) (bytes : Bytes) : Bytes :=
  tree.room.elim bytes bytes.take

/-- Puts bytes behind the old content of a file, as many as there is room for. -/
def extend (tree : FileTree) (path : Path) (old bytes : Bytes) : FileTree :=
  { tree.put path.names (.file (old ++ tree.fitting bytes)) with
    room := tree.room.map (· - bytes.length) }

/-- Whether what stands at a path can be taken out of its directory. -/
def isLoose (tree : FileTree) (path : Path) : Bool :=
  (tree.writeError? path.names.dropLast).isNone && !tree.frozen.contains path.names

/-- Takes away the file at a path, if that can be done. -/
def remove? (tree : FileTree) (path : Path) : Option FileTree :=
  match tree.lookup path with
  | .ok (.file content) =>
    if tree.isLoose path then
      some { tree.erase path with room := tree.room.map (· + content.length) }
    else none
  | _ => none

/-- The names that lead to something once what stands at `source` stands at `target`. -/
def moved (source target names : List (List Char)) : List (List Char) :=
  if source.isPrefixOf names then target ++ names.drop source.length else names

/-- Moves what stands at a path, with all that is in it, to a path of the same directory where
nothing stands, if that can be done. -/
def rename? (tree : FileTree) (source target : Path) : Option FileTree :=
  match tree.lookup target with
  | .error .missing =>
    if tree.isLoose source then
      let move := moved source.names target.names
      some
        { tree with
          entries := tree.entries.map fun entry => (move entry.1, entry.2)
          withheld := tree.withheld.map fun entry => (move entry.1, entry.2)
          frozen := tree.frozen.map move }
    else none
  | _ => none

end FileTree

end SecureForward
