import SecureForward.Text.Cut

/-!
# Paths

A path of the file tree, absolute and in normal form: no empty name, no dot and no two dots are left
in it. A path that begins with exactly two slashes keeps both of them. `Place.resolve?` makes such a
path of what a person wrote, relative to a current directory and a home directory.
-/

namespace SecureForward

/-- An absolute path in normal form. -/
structure Path where
  /-- Whether the path begins with two slashes. -/
  doubled : Bool
  /-- The names from the root downwards. -/
  names : List (List Char)
deriving DecidableEq, Repr

namespace Path

/-- The root directory. -/
def root : Path := { doubled := false, names := [] }

/-- Follows one name from the place that `above` leads to, the last name first. An empty name and a
dot lead nowhere, two dots lead one name back and stay at the root. -/
def step (above : List (List Char)) (name : List Char) : List (List Char) :=
  if name = [] || name = ['.'] then above
  else if name = ['.', '.'] then above.tail
  else name :: above

/-- The names that remain when all names are followed. -/
def collapse (names : List (List Char)) : List (List Char) :=
  (names.foldl step []).reverse

/-- Whether a text begins with exactly two slashes. -/
def startsDoubled : List Char → Bool
  | '/' :: '/' :: '/' :: _ => false
  | '/' :: '/' :: _ => true
  | _ => false

/-- The path that an absolute text denotes. -/
def ofAbsolute (l : List Char) : Path :=
  { doubled := startsDoubled l, names := collapse (Text.split (· = '/') l) }

/-- The text of a path. -/
def toList (p : Path) : List Char :=
  let mark : List Char := if p.doubled then ['/', '/'] else ['/']
  mark ++ ['/'].intercalate p.names

instance : ToString Path where
  toString p := .ofList p.toList

/-- The text `l` as seen from the directory `base`: an absolute text stands for itself. -/
def join (base l : List Char) : List Char :=
  if l.head? = some '/' then l
  else if base = [] || base.getLast? = some '/' then base ++ l
  else base ++ '/' :: l

/-- Whether a text begins with a tilde and a slash or a backslash, and so speaks of the home
directory. -/
def startsAtHome : List Char → Bool
  | '~' :: c :: _ => c = '/' || c = '\\'
  | _ => false

/-- The path that a text denotes in a current directory and a home directory. -/
def resolve (current home l : List Char) : Path :=
  let l := if startsAtHome l then join home (l.drop 2) else l
  ofAbsolute (join current l)

end Path

/-- Where paths that are not absolute start. -/
structure Place where
  /-- The home directory as the surroundings name it. -/
  home : String
  /-- The current directory, absolute. -/
  current : String
deriving DecidableEq, Repr

namespace Place

/-- The home directory without slashes at its end; `none` if it is itself relative to a home. -/
def home? (place : Place) : Option (List Char) :=
  let l := (place.home.toList.reverse.dropWhile (· = '/')).reverse
  let l := if l = [] then ['/'] else l
  if l.head? = some '~' then none else some l

/-- The path that a text denotes; `none` if it needs the home directory and there is none. -/
def resolve? (place : Place) (text : String) : Option Path :=
  let l := text.toList
  if Path.startsAtHome l then
    place.home?.map fun home => Path.resolve place.current.toList home l
  else some (Path.resolve place.current.toList [] l)

end Place

end SecureForward
