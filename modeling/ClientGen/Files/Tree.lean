import ClientGen.Files.Error
import ClientGen.Path.Basic

/-!
# File trees

A file system as a value: what stands at each location, and the working directory from which
relative paths start. A location is the list of names from the root down. Reading, writing and
making directories answer as an operating system does; links, permissions and full disks are left
out.
-/

namespace ClientGen

inductive Entry where
  | directory
  | file (content : ByteArray)

/-- A place in a file tree: the names from the root down. -/
abbrev Location := List String

/-- The entries of a file system other than its root, and the working directory. -/
structure FileTree where
  entries : List (Location × Entry)
  workingDirectory : Location

namespace FileTree

def empty : FileTree := ⟨[], []⟩

/-- What stands at a location. The root is a directory. -/
def entry? (tree : FileTree) : Location → Option Entry
  | [] => some .directory
  | location => (tree.entries.find? fun (other, _) => other == location).map (·.2)

def put (tree : FileTree) (location : Location) (entry : Entry) : FileTree :=
  { tree with
    entries :=
      tree.entries.filter (fun (other, _) => other != location) ++ [(location, entry)] }

/-- The locations above one, from the root on. -/
def above (location : Location) : List Location :=
  (List.range location.length).map fun n => location.take n

/-- Puts an entry at a location and makes the directories above it. -/
def place (tree : FileTree) (location : Location) (entry : Entry) : FileTree :=
  ((above location).foldl (fun tree directory =>
    if (tree.entry? directory).isSome then tree else tree.put directory .directory) tree).put
      location entry

/-- The longest name of a file, in bytes. -/
def maxName : Nat := 255

/-- The longest path, in bytes. -/
def maxPath : Nat := 4095

/-- Where a path leads: a location whose directory exists, and whether a slash at the end asks for
a directory there. -/
structure Target where
  location : Location
  wantsDirectory : Bool
  deriving DecidableEq, Repr

def walk (tree : FileTree) (directory : Location) : List (List Char) → Except FileError Target
  | [] => .ok ⟨directory, true⟩
  | piece :: rest =>
      match Path.component? piece with
      | some (.name name) =>
          let location := directory ++ [name]
          if maxName < name.utf8ByteSize then .error .nameTooLong
          else if rest.isEmpty then .ok ⟨location, false⟩
          else match tree.entry? location with
            | some .directory => walk tree location rest
            | some (.file _) => .error .notDirectory
            | none => if rest.all List.isEmpty then .ok ⟨location, true⟩ else .error .notFound
      | some .parent => walk tree directory.dropLast rest
      | _ => walk tree directory rest

def resolve (tree : FileTree) (path : Path) : Except FileError Target :=
  if path.chars.contains '\x00' then .error .nulInPath
  else if path.text.isEmpty then .error .notFound
  else if maxPath < path.text.utf8ByteSize then .error .nameTooLong
  else tree.walk (if path.isAbsolute then [] else tree.workingDirectory)
    (Text.split '/' path.chars)

def lookup (tree : FileTree) (path : Path) : Option Entry :=
  match tree.resolve path with
  | .ok target => tree.entry? target.location
  | .error _ => none

def isFile (tree : FileTree) (path : Path) : Bool :=
  match tree.lookup path with
  | some (.file _) => true
  | _ => false

def isDirectory (tree : FileTree) (path : Path) : Bool :=
  match tree.lookup path with
  | some .directory => true
  | _ => false

def readText (tree : FileTree) (path : Path) : Except FileError String :=
  match tree.resolve path with
  | .error e => .error e
  | .ok target =>
      match tree.entry? target.location with
      | none => .error .notFound
      | some .directory => .error .isDirectory
      | some (.file content) =>
          match String.fromUTF8? content with
          | some text => .ok text
          | none => .error .notText

def writeText (tree : FileTree) (path : Path) (text : String) : Except FileError FileTree :=
  match tree.resolve path with
  | .error e => .error e
  | .ok target =>
      match tree.entry? target.location with
      | some .directory => .error .isDirectory
      | some (.file _) => .ok (tree.put target.location (.file text.toUTF8))
      | none =>
          if target.wantsDirectory then .error .isDirectory
          else .ok (tree.put target.location (.file text.toUTF8))

def makeDirectory (tree : FileTree) (path : Path) : Except FileError FileTree :=
  match tree.resolve path with
  | .error e => .error e
  | .ok target =>
      match tree.entry? target.location with
      | some _ => .error .alreadyExists
      | none => .ok (tree.put target.location .directory)

/-- Makes a directory and those above it; `fuel` bounds how many. What was made before a failure
stays. -/
def makeDirectoriesFrom (path : Path) : Nat → FileTree → Except FileError Unit × FileTree
  | 0, tree => (.ok (), tree)
  | fuel + 1, tree =>
      if path.text.isEmpty then (.ok (), tree)
      else match tree.makeDirectory path with
        | .ok tree => (.ok (), tree)
        | .error .notFound =>
            match path.parent? with
            | none => (.error (.stated "failed to create whole tree"), tree)
            | some parent =>
                match makeDirectoriesFrom parent fuel tree with
                | (.error e, tree) => (.error e, tree)
                | (.ok (), tree) =>
                    match tree.makeDirectory path with
                    | .ok tree => (.ok (), tree)
                    | .error e => (if tree.isDirectory path then .ok () else .error e, tree)
        | .error e => (if tree.isDirectory path then .ok () else .error e, tree)

def makeDirectories (tree : FileTree) (path : Path) : Except FileError Unit × FileTree :=
  makeDirectoriesFrom path (path.text.length + 1) tree

def changeDirectory (tree : FileTree) (path : Path) : Except FileError FileTree :=
  match tree.resolve path with
  | .error e => .error e
  | .ok target =>
      match tree.entry? target.location with
      | none => .error .notFound
      | some (.file _) => .error .notDirectory
      | some .directory => .ok { tree with workingDirectory := target.location }

def remove (tree : FileTree) (path : Path) : Except FileError FileTree :=
  match tree.resolve path with
  | .error e => .error e
  | .ok target =>
      match tree.entry? target.location with
      | none => .error .notFound
      | some _ =>
          .ok { tree with
            entries := tree.entries.filter fun (other, _) =>
              other.take target.location.length != target.location }

def pathOf (location : Location) : Path :=
  ⟨"/" ++ Text.join "/" location⟩

end FileTree

end ClientGen
