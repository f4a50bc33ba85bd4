import AppDescription.Text.Basic

namespace AppDescription

/-- The octets a text takes up. -/
def Text.octetCount (text : Text) : Nat :=
  text.foldl (fun count c => count + c.utf8Size) 0

/-- A name of more than 255 octets, which nothing can have. -/
def Text.isLongName (name : Text) : Bool :=
  255 < name.octetCount

/-- A path of 4096 octets or more, which leads nowhere. -/
def Text.isLongPath (path : Text) : Bool :=
  4096 ≤ path.octetCount

/-- A place in a file tree: the names on the way from the root. -/
abbrev Location := List Text

namespace Location

def text (location : Location) : Text :=
  '/' :: Text.join ['/'] location

/-- The last name, or nothing at the root. -/
def name (location : Location) : Text :=
  location.getLast?.getD []

/-- One name further down, or back up at `..`. The root is its own parent. -/
def step (location : Location) (part : Text) : Location :=
  if part = "..".toList then location.dropLast else location ++ [part]

/-- Whether a location is `root` or lies below it. -/
def isAtOrBelow (location root : Location) : Bool :=
  root.isPrefixOf location

end Location

/-- A path as it is written: its leading slashes (none, one or two) and its parts, where `..` is a
part and `.` is not. -/
structure Path where
  root : Text
  parts : List Text
  deriving Repr, DecidableEq

namespace Path

/-- Reads a path. Repeated slashes count once, except that exactly two at the start stay two. -/
def ofText (text : Text) : Path :=
  let slashes := text.takeWhile (· = '/')
  { root := if slashes.length = 2 then slashes else slashes.take 1
    parts := (Text.splitOn '/' text).filter fun part => !part.isEmpty && part ≠ ".".toList }

def text (path : Path) : Text :=
  if path.root.isEmpty && path.parts.isEmpty then "."
  else path.root ++ Text.join ['/'] path.parts

def ofLocation (location : Location) : Path :=
  ⟨['/'], location⟩

def isAbsolute (path : Path) : Bool :=
  !path.root.isEmpty

/-- A path taken from another; an absolute one stands for itself. -/
def append (base path : Path) : Path :=
  if path.isAbsolute then path else ⟨base.root, base.parts ++ path.parts⟩

def parent (path : Path) : Path :=
  ⟨path.root, path.parts.dropLast⟩

/-- Whether a path holds the character zero, which no path may. -/
def isMalformed (path : Path) : Bool :=
  path.parts.any (·.contains '\x00')

/-- The last part, or nothing. -/
def name (path : Path) : Text :=
  path.parts.getLast?.getD []

/-- The name without its last extension. A dot at either end of a name starts no extension. -/
def stem (path : Path) : Text :=
  let backwards := path.name.reverse
  let extension := backwards.takeWhile (· ≠ '.')
  let rest := (backwards.drop extension.length).drop 1
  if extension.isEmpty || rest.isEmpty then path.name else rest.reverse

/-- The location a path leads to from a working directory. -/
def resolve (path : Path) (workingDirectory : Location) : Location :=
  path.parts.foldl Location.step (if path.isAbsolute then [] else workingDirectory)

end Path

end AppDescription
