import AppDescription.Path
import AppDescription.Text.Quoted
import AppDescription.Text.Utf8

namespace AppDescription

inductive FileNode where
  | folder
  | file (octets : Octets)
  deriving Repr, DecidableEq

/-- The folders and files below the root, each under its location. -/
abbrev FileTree := List (Location × FileNode)

/-- The ways the file system refuses an operation. -/
inductive SystemError where
  | notFound | alreadyExists | notDirectory | isDirectory | nameTooLong
  deriving Repr, DecidableEq

namespace SystemError

def number : SystemError → Nat
  | notFound => 2
  | alreadyExists => 17
  | notDirectory => 20
  | isDirectory => 21
  | nameTooLong => 36

def description : SystemError → Text
  | notFound => "No such file or directory"
  | alreadyExists => "File exists"
  | notDirectory => "Not a directory"
  | isDirectory => "Is a directory"
  | nameTooLong => "File name too long"

end SystemError

/-- A refusal and the path it is about. -/
structure SystemFault where
  error : SystemError
  path : Path
  deriving Repr, DecidableEq

namespace SystemFault

def text (fault : SystemFault) : Text :=
  "[Errno " ++ Text.ofNat fault.error.number ++ "] " ++ fault.error.description ++ ": " ++
    Text.quoted fault.path.text

end SystemFault

namespace FileTree

/-- What is at a location. The root is always a folder. -/
def node? (tree : FileTree) (location : Location) : Option FileNode :=
  if location.isEmpty then some .folder else List.lookup location tree

/-- Puts a node at a location, in the place of what was there. -/
def put (tree : FileTree) (location : Location) (node : FileNode) : FileTree :=
  match tree with
  | [] => [(location, node)]
  | entry :: rest =>
    if entry.1 = location then (location, node) :: rest else entry :: put rest location node

theorem lookup_cons_eq (location other : Location) (node : FileNode) (rest : FileTree) :
    List.lookup other ((location, node) :: rest) =
      if other = location then some node else List.lookup other rest := by
  by_cases same : other = location
  · simp [same]
  · have differs : (other == location) = false := by simpa using same
    simp [List.lookup_cons, differs, same]

theorem lookup_put (tree : FileTree) (location other : Location) (node : FileNode) :
    List.lookup other (put tree location node) =
      if other = location then some node else List.lookup other tree := by
  induction tree with
  | nil => simp only [put, lookup_cons_eq, List.lookup_nil]
  | cons entry rest ih =>
    obtain ⟨first, old⟩ := entry
    unfold put
    by_cases here : first = location
    · subst here
      by_cases same : other = first <;> simp [lookup_cons_eq, same]
    · by_cases same : other = first
      · subst same
        simp [here]
      · simp [lookup_cons_eq, here, same, ih]

/-- A node that was put somewhere is there, and all else is as it was. -/
theorem node?_put (tree : FileTree) {location : Location} (other : Location) (node : FileNode)
    (below : location ≠ []) :
    (put tree location node).node? other =
      if other = location then some node else tree.node? other := by
  unfold node?
  rw [lookup_put]
  by_cases top : other = []
  · subst top
    simp [below.symm]
  · simp [top]

/-- Removes a location and everything below it. -/
def remove (tree : FileTree) (location : Location) : FileTree :=
  tree.filter fun entry => !entry.1.isAtOrBelow location

def isFolder (tree : FileTree) (location : Location) : Bool :=
  tree.node? location = some .folder

def isFile (tree : FileTree) (location : Location) : Bool :=
  match tree.node? location with
  | some (.file _) => true
  | _ => false

/-- The location a path leads to from a working directory, by way of folders that exist. -/
def locate (tree : FileTree) (directory : Location) (path : Path) : Except SystemError Location :=
  if path.text.isLongPath then .error .nameTooLong
  else
    path.parts.foldlM (fun location part =>
      match tree.node? location with
      | none => .error .notFound
      | some (.file _) => .error .notDirectory
      | some .folder => if part.isLongName then .error .nameTooLong else .ok (location.step part))
      (if path.isAbsolute then [] else directory)

/-- What is at a location, which must have a name that something can have. -/
def look (tree : FileTree) (location : Location) : Except SystemFault (Option FileNode) :=
  match tree.locate [] (.ofLocation location) with
  | .error .nameTooLong => .error ⟨.nameTooLong, .ofLocation location⟩
  | .error _ => .ok none
  | .ok location => .ok (tree.node? location)

/-- What is in a file. -/
def read (tree : FileTree) (directory : Location) (path : Path) : Except SystemFault Octets :=
  match tree.locate directory path with
  | .error error => .error ⟨error, path⟩
  | .ok location =>
    match tree.node? location with
    | none => .error ⟨.notFound, path⟩
    | some .folder => .error ⟨.isDirectory, path⟩
    | some (.file octets) => .ok octets

/-- The locations on the way down to a location, itself included. -/
def wayDown (location : Location) : List Location :=
  (List.range location.length).map fun count => location.take (count + 1)

/-- The locations on the way to a location that are not there yet, from the top down. -/
def missing (tree : FileTree) (location : Location) : List Location :=
  ((wayDown location).reverse.takeWhile fun step => (tree.node? step).isNone).reverse

/-- A file on the way to a location, or in its place. -/
def obstacle? (tree : FileTree) (location : Location) : Option Location :=
  let lowest := location.take (location.length - (tree.missing location).length)
  if tree.isFile lowest then some lowest else none

/-- The files after an operation, and the fault that ended it before its end. What was done before
stays done. -/
structure Change where
  files : FileTree
  fault? : Option SystemFault
  deriving Repr, DecidableEq

/-- Makes folders that are missing, each inside the one before it, up to a name that is too long. -/
def addFolders (tree : FileTree) (folders : List Location) : Change :=
  let fine := folders.takeWhile fun step => !step.name.isLongName
  ⟨tree ++ fine.map (·, .folder),
    (folders.drop fine.length).head?.map fun step => ⟨.nameTooLong, .ofLocation step⟩⟩

/-- Makes a folder and the folders it lies in, as far as they are missing. What stands in the way at
the first of them is reported with the path of the folder that was asked for, and a name too long
further down with its own. -/
def makeFolders (tree : FileTree) (location : Location) : Change :=
  let refuse (error : SystemError) : Change := ⟨tree, some ⟨error, .ofLocation location⟩⟩
  if location.text.isLongPath then refuse .nameTooLong
  else
    match tree.obstacle? location with
    | some found => refuse (if found = location then .alreadyExists else .notDirectory)
    | none =>
      let missing := tree.missing location
      if missing.head?.any fun first => first.name.isLongName then refuse .nameTooLong
      else tree.addFolders missing

/-- Writes a file, in the place of one that was there. -/
def write (tree : FileTree) (location : Location) (octets : Octets) : Except SystemFault FileTree :=
  if location.text.isLongPath || location.name.isLongName then
    .error ⟨.nameTooLong, .ofLocation location⟩
  else if tree.isFolder location then .error ⟨.isDirectory, .ofLocation location⟩
  else .ok (put tree location (.file octets))

/-- The locations below a folder whose names end in a text, in order of their names from the top
down. -/
def below (tree : FileTree) (folder : Location) (ending : Text) : List Location :=
  ((tree.map Prod.fst).filter fun location =>
    location.isAtOrBelow folder && location ≠ folder &&
      Text.endsWith location.name ending).mergeSort fun a b => !List.lex b a Text.isBefore

end FileTree

end AppDescription
