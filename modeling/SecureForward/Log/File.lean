import SecureForward.Files.Tree
import SecureForward.Log.Level

/-!
# Log files

A log file grows line by line. Before it would reach its limit it is put aside under a numbered
name, and so are the copies that were put aside before, the oldest of which is given up. A line for
which the log file cannot be put aside is lost.
-/

namespace SecureForward

/-- A log that writes lines. -/
structure LogFile where
  /-- Where the lines go. -/
  path : Path
  /-- The least level of what is written. -/
  threshold : Level
deriving DecidableEq, Repr

namespace Log

/-- The size in bytes at which a log file is put aside. -/
def fileLimit : Nat := 10 * 1024 * 1024

/-- How many log files that were put aside are kept. -/
def keptFiles : Nat := 5

/-- The path of a copy of a log file: the higher the number, the older the copy. The file itself
counts as the newest. -/
def copyPath (path : Path) (number : Nat) : Path :=
  if number = 0 then path
  else
    let name := path.names.getLastD [] ++ '.' :: (toString number).toList
    { path with names := path.names.dropLast ++ [name] }

/-- Goes on with a tree if there is one, and gives up with the one that is there otherwise. -/
def orStop (tree : FileTree) (next : Option FileTree) : Except FileTree FileTree :=
  next.elim (.error tree) .ok

/-- Moves what stands at a path to another path and takes away what stands there. When this fails,
the tree is given as it is by then. -/
def replaceBy (source target : Path) (tree : FileTree) : Except FileTree FileTree := do
  if !tree.stands source then return tree
  let tree ← if tree.stands target then orStop tree (tree.remove? target) else pure tree
  orStop tree (tree.rename? source target)

/-- Puts a log file aside, the oldest copy first. -/
def putAside (path : Path) (tree : FileTree) : Except FileTree FileTree :=
  (List.range keptFiles).reverse.foldlM
    (fun tree number => replaceBy (copyPath path number) (copyPath path (number + 1)) tree) tree

/-- Whether a log file has to be put aside before a line is written. The size of the file is in
bytes and that of the line in characters. -/
def isDue (path : Path) (line : List Char) (tree : FileTree) : Bool :=
  match tree.lookup path with
  | .ok (.file content) => fileLimit ≤ content.length + line.length
  | _ => false

/-- Puts a line at the end of a log file, as far as that can be done. -/
def append (path : Path) (line : List Char) (tree : FileTree) : FileTree :=
  match if isDue path line tree then putAside path tree else .ok tree with
  | .error tree => tree
  | .ok tree =>
    match tree.readToAppend path with
    | .ok old => tree.extend path old (Text.Utf8.encode line)
    | .error _ => tree

end Log

end SecureForward
