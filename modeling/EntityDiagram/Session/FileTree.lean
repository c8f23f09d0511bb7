import EntityDiagram.Entries
import EntityDiagram.Session.Path

/-! # File trees

A file tree gives a file or a directory to some locations, a location being the names on the way
from the root. Paths are followed name by name: each name before the last must be a directory.
-/

namespace EntityDiagram

/-- The names on the way from the root. -/
abbrev Location := List String

/-- What is at a location. -/
inductive Node where
  | file (content : ByteArray)
  | directory

/-- Why a file operation fails. -/
inductive FileError where
  | notFound
  | notDirectory
  | isDirectory
  | alreadyExists
  | nameTooLong
  | nullCharacter
  deriving Repr, DecidableEq

/-- Files and directories by their locations. The root is always a directory. -/
structure FileTree where
  nodes : List (Location × Node) := []

namespace FileTree

/-- What is at a location. -/
def node? (tree : FileTree) (location : Location) : Option Node :=
  if location.isEmpty then some .directory else tree.nodes.lookup location

/-- Puts a node at a location. -/
def put (tree : FileTree) (location : Location) (node : Node) : FileTree :=
  ⟨Entries.put location node tree.nodes⟩

theorem node?_put_self (tree : FileTree) {location : Location} (node : Node) (h : location ≠ []) :
    (tree.put location node).node? location = some node := by
  simp [node?, put, h, Entries.lookup_put_self]

theorem node?_put_of_ne (tree : FileTree) {location other : Location} (node : Node)
    (h : other ≠ location) : (tree.put location node).node? other = tree.node? other := by
  simp [node?, put, Entries.lookup_put_of_ne h]

/-- The longest name of a file, in bytes. -/
def maxName : Nat := 255

/-- The longest path, in bytes. -/
def maxPath : Nat := 4095

/-- Follows names from a location. -/
def follow (tree : FileTree) (here : Location) : List String → Except FileError Location
  | [] => .ok here
  | part :: rest =>
      match tree.node? here with
      | none => .error .notFound
      | some (.file _) => .error .notDirectory
      | some .directory =>
          if part = ".." then tree.follow here.dropLast rest
          else if maxName < part.utf8ByteSize then .error .nameTooLong
          else
            match tree.node? (here ++ [part]) with
            | none => .error .notFound
            | some _ => tree.follow (here ++ [part]) rest

/-- Refuses a path that no file can have. -/
def admissible (path : Path) : Except FileError Unit :=
  if path.text.toList.contains '\x00' then .error .nullCharacter
  else if maxPath < path.text.utf8ByteSize then .error .nameTooLong
  else .ok ()

/-- Where a path starts. -/
def start (here : Location) (path : Path) : Location := if path.isAbsolute then [] else here

/-- The location and node of a path, seen from the location `here`. -/
def find (tree : FileTree) (here : Location) (path : Path) : Except FileError (Location × Node) :=
  match admissible path with
  | .error error => .error error
  | .ok () =>
      match tree.follow (start here path) path.parts with
      | .error error => .error error
      | .ok location =>
          match tree.node? location with
          | some node => .ok (location, node)
          | none => .error .notFound

/-- The node of a path, if there is one; only a name that is too long is an error. -/
def probe (tree : FileTree) (here : Location) (path : Path) : Except FileError (Option Node) :=
  match tree.find here path with
  | .ok (_, node) => .ok (some node)
  | .error .nameTooLong => .error .nameTooLong
  | .error _ => .ok none

/-- Whether a path leads to a file. -/
def isFile (tree : FileTree) (here : Location) (path : Path) : Except FileError Bool :=
  match tree.probe here path with
  | .error error => .error error
  | .ok (some (.file _)) => .ok true
  | .ok _ => .ok false

/-- Whether a path leads to a directory. -/
def isDirectory (tree : FileTree) (here : Location) (path : Path) : Bool :=
  match tree.find here path with
  | .ok (_, .directory) => true
  | _ => false

/-- The content of the file at a path. -/
def read (tree : FileTree) (here : Location) (path : Path) : Except FileError ByteArray :=
  match tree.find here path with
  | .error error => .error error
  | .ok (_, .directory) => .error .isDirectory
  | .ok (_, .file content) => .ok content

/-- The location for a new node at a path, with what is there now. The directory that it is in must
exist. -/
def place (tree : FileTree) (here : Location) (path : Path) :
    Except FileError (Location × Option Node) :=
  match admissible path with
  | .error error => .error error
  | .ok () =>
      match path.parts.getLast? with
      | none => .ok (start here path, some .directory)
      | some name =>
          match tree.follow (start here path) path.parts.dropLast with
          | .error error => .error error
          | .ok directory =>
              match tree.node? directory with
              | none => .error .notFound
              | some (.file _) => .error .notDirectory
              | some .directory =>
                  if name = ".." then .ok (directory.dropLast, some .directory)
                  else if maxName < name.utf8ByteSize then .error .nameTooLong
                  else .ok (directory ++ [name], tree.node? (directory ++ [name]))

/-- Writes a file. -/
def write (tree : FileTree) (here : Location) (path : Path) (content : ByteArray) :
    Except FileError FileTree :=
  match tree.place here path with
  | .error error => .error error
  | .ok (_, some .directory) => .error .isDirectory
  | .ok (location, _) => .ok (tree.put location (.file content))

/-- Opens a file for adding to it, making it if it is not there, and gives its location. -/
def openAppend (tree : FileTree) (here : Location) (path : Path) :
    Except FileError (Location × FileTree) :=
  match tree.place here path with
  | .error error => .error error
  | .ok (_, some .directory) => .error .isDirectory
  | .ok (location, some (.file _)) => .ok (location, tree)
  | .ok (location, none) => .ok (location, tree.put location (.file .empty))

/-- Adds to the end of the file at a location. -/
def append (tree : FileTree) (location : Location) (content : ByteArray) : FileTree :=
  match tree.node? location with
  | some (.file old) => tree.put location (.file (old ++ content))
  | _ => tree

/-- Makes a directory in one that exists. -/
def makeDirectory (tree : FileTree) (here : Location) (path : Path) : Except FileError FileTree :=
  match tree.place here path with
  | .error error => .error error
  | .ok (_, some _) => .error .alreadyExists
  | .ok (location, none) => .ok (tree.put location .directory)

/-- Makes a directory unless there is one at the path. -/
def ensureDirectory (tree : FileTree) (here : Location) (path : Path) :
    Except FileError FileTree :=
  match tree.makeDirectory here path with
  | .ok tree => .ok tree
  | .error .notFound => .error .notFound
  | .error error => if tree.isDirectory here path then .ok tree else .error error

/-- Makes a directory and those on the way to it, given the names of its path backwards. What was
made before a failure stays. -/
def ensureDirectories (tree : FileTree) (here : Location) (slashes : Nat) :
    List String → Except FileError Unit × FileTree
  | [] => (.ok (), tree)
  | name :: front =>
      let path : Path := ⟨slashes, (name :: front).reverse⟩
      match tree.ensureDirectory here path with
      | .ok tree => (.ok (), tree)
      | .error .notFound =>
          match tree.ensureDirectories here slashes front with
          | (.error error, tree) => (.error error, tree)
          | (.ok (), tree) =>
              match tree.ensureDirectory here path with
              | .ok tree => (.ok (), tree)
              | .error error => (.error error, tree)
      | .error error => (.error error, tree)

/-- Makes a directory and those on the way to it. -/
def makeDirectories (tree : FileTree) (here : Location) (path : Path) :
    Except FileError Unit × FileTree :=
  tree.ensureDirectories here path.slashes path.parts.reverse

/-- The directories on the way to a location, and the location itself. -/
def makeWay (tree : FileTree) : Location → Location → FileTree
  | _, [] => tree
  | here, part :: rest =>
      let next := here ++ [part]
      match tree.node? next with
      | some _ => tree.makeWay next rest
      | none => (tree.put next .directory).makeWay next rest

/-- The files below a directory that are new or have changed, by the rest of their locations. -/
def changes (before after : FileTree) (root : Location) : List (Location × ByteArray) :=
  after.nodes.filterMap fun (location, node) =>
    match node with
    | .directory => none
    | .file content =>
        let same :=
          match before.node? location with
          | some (.file old) => old.data == content.data
          | _ => false
        if root.isPrefixOf location && !same then some (location.drop root.length, content)
        else none

end FileTree

end EntityDiagram
