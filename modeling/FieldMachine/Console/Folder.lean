/-!
# Folders

What the programs of the console can do with files, whatever keeps them: a
`Store` gives the operations in some monad.  A `Folder` keeps files in memory
below a root folder, and paths lead to them from there or from the working
folder.

Every name on a path is looked up in the folder reached so far, so that a path
leads through folders only: `Folder.walk?` stops at a file or at nothing.
-/

namespace FieldMachine.Console

set_option autoImplicit false

/-- The operations on files that the programs use; each tells whether it succeeded. -/
structure Store (m : Type → Type) where
  /-- Whether there is a file or a folder at a path. -/
  isThere : String → m Bool
  read? : String → m (Option ByteArray)
  write : String → ByteArray → m Bool
  /-- Makes a folder, and the folders around it. -/
  makeFolder : String → m Bool

/-! ## Paths -/

/-- The number of bytes that a name can have at most. -/
def nameLimit : Nat := 255

/-- The number of bytes that a path has to stay below. -/
def pathLimit : Nat := 4096

/-- Where to find something. -/
structure Path where
  /-- Whether the path starts at the root and not at the working folder. -/
  fromRoot : Bool
  /-- The names on the way.  A dot is the folder reached so far, two dots are the one around it. -/
  names : List String
  /-- Whether a slash stands at the end, so that only a folder can be meant. -/
  isClosed : Bool
deriving DecidableEq

namespace Path

/-- Cuts characters at slashes. -/
def cutAtSlashes : List Char → List (List Char)
  | [] => [[]]
  | char :: rest =>
      if char = '/' then [] :: cutAtSlashes rest
      else match cutAtSlashes rest with
        | [] => [[char]]
        | name :: names => (char :: name) :: names

/-- Reads a path; one that is too long leads nowhere. -/
def read? (text : String) : Option Path :=
  if pathLimit ≤ text.utf8ByteSize then none
  else some {
    fromRoot := text.toList.head? = some '/'
    names := ((cutAtSlashes text.toList).map String.ofList).filter (· ≠ "")
    isClosed := text.toList.getLast? = some '/' }

/-- The text of the path that leads to a name in the folder at another path. -/
def join (folder name : String) : String :=
  if folder.toList.getLast? = some '/' then folder ++ name else folder ++ "/" ++ name

/-- The paths to the folders around a place, the outermost first, and then the path itself. -/
def stages (path : Path) : List Path :=
  let names := path.names.filter (· ≠ ".")
  (List.range (names.length - 1)).map (fun count => { path with names := names.take (count + 1) })
    ++ [path]

end Path

/-! ## Files in memory -/

/-- A place: the names that lead to it from the root down. -/
abbrev Place := List String

/-- The working folder.  No path spells its name, so that no other folder leads to it. -/
def workplace : Place := [""]

/-- Files and folders in memory, each with its place. -/
structure Folder where
  files : List (Place × ByteArray) := []
  folders : List Place := [[], workplace]

namespace Folder

/-- A working folder with some files. -/
def holding (files : List (String × ByteArray)) : Folder :=
  { files := files.map fun (name, contents) => (workplace ++ [name], contents) }

/-- The file at a place. -/
def file? (folder : Folder) (place : Place) : Option ByteArray := folder.files.lookup place

/-- Whether there is a folder at a place. -/
def isFolder (folder : Folder) (place : Place) : Bool := folder.folders.contains place

/-- The place that a name leads to from a folder. -/
def next (place : Place) (name : String) : Place :=
  if name = "." then place else if name = ".." then place.dropLast else place ++ [name]

/-- The place that names lead to; there need not be anything at the last of them. -/
def walk? (folder : Folder) : Place → List String → Option Place
  | place, [] => some place
  | place, name :: rest =>
      if folder.isFolder place && name.utf8ByteSize ≤ nameLimit then
        folder.walk? (next place name) rest
      else none

/-- The place that a path leads to; there need not be anything at its end. -/
def place? (folder : Folder) (path : Path) : Option Place :=
  folder.walk? (if path.fromRoot then [] else workplace) path.names

/-- Whether there is something at the end of a path. -/
def isThere (folder : Folder) (path : Path) : Bool :=
  (folder.place? path).any fun place =>
    folder.isFolder place || (!path.isClosed && (folder.file? place).isSome)

/-- The contents of the file at the end of a path. -/
def read? (folder : Folder) (path : Path) : Option ByteArray :=
  if path.isClosed then none else (folder.place? path).bind folder.file?

/-- Writes a file into a folder that is there. -/
def write? (folder : Folder) (path : Path) (contents : ByteArray) : Option Folder := do
  let place ← folder.place? path
  if path.isClosed || folder.isFolder place then none
  else some { folder with
    files := (place, contents) :: folder.files.filter (·.1 ≠ place) }

/-- Makes one folder in a folder that is there, unless it is there itself. -/
def makeOne? (folder : Folder) (path : Path) : Option Folder := do
  let place ← folder.place? path
  if folder.isFolder place then some folder
  else if (folder.file? place).isSome then none
  else some { folder with folders := place :: folder.folders }

/-- Makes a folder and the folders around it. -/
def makeFolder? (folder : Folder) (path : Path) : Option Folder :=
  path.stages.foldlM makeOne? folder

/-- An operation that changes a folder if it succeeds. -/
def attempt (operation : Folder → Option Folder) : StateM Folder Bool := fun folder =>
  match operation folder with
  | some changed => (true, changed)
  | none => (false, folder)

/-- The operations on a folder in memory. -/
def store : Store (StateM Folder) where
  isThere text := return (Path.read? text).any (← get).isThere
  read? text := return (Path.read? text).bind (← get).read?
  write text contents := attempt fun folder => (Path.read? text).bind (folder.write? · contents)
  makeFolder text := attempt fun folder => (Path.read? text).bind folder.makeFolder?

end Folder

end FieldMachine.Console
