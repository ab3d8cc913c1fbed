import ClientGen.Text.Replace

/-!
# Paths

File paths are texts. What a path names is read off its components: empty pieces between slashes
and single dots do not count, except for a single dot at the beginning.
-/

namespace ClientGen

/-- A file path, kept as it was written. -/
structure Path where
  text : String
  deriving DecidableEq, Repr, Inhabited

namespace Path

inductive Component where
  | root
  | current
  | parent
  | name (name : String)
  deriving DecidableEq, Repr

def Component.text : Component → String
  | .root => "/"
  | .current => "."
  | .parent => ".."
  | .name text => text

def Component.name? : Component → Option String
  | .name text => some text
  | _ => none

def chars (path : Path) : List Char :=
  path.text.toList

def isAbsolute (path : Path) : Bool :=
  path.chars.head? == some '/'

/-- The component that a piece between slashes stands for, if it counts. -/
def component? (piece : List Char) : Option Component :=
  if piece.isEmpty || piece == ['.'] then none
  else if piece == ['.', '.'] then some .parent
  else some (.name (String.ofList piece))

def components (path : Path) : List Component :=
  let pieces := Text.split '/' path.chars
  let body := pieces.filterMap component?
  if path.isAbsolute then .root :: body
  else if pieces.head? == some ['.'] then .current :: body
  else body

def names (path : Path) : List String :=
  path.components.filterMap Component.name?

/-- The beginning of a path that is no name: the slash of an absolute path or the single dot at
the beginning, and the rest. -/
def splitStart (path : Path) : List Char × List Char :=
  if path.isAbsolute then (path.chars.take 1, path.chars.drop 1)
  else if (Text.split '/' path.chars).head? == some ['.'] then
    (path.chars.take 1, path.chars.drop 1)
  else ([], path.chars)

def trimPieces (pieces : List (List Char)) : List (List Char) :=
  (pieces.reverse.dropWhile fun piece => (component? piece).isNone).reverse

def joinPieces : List (List Char) → List Char
  | [] => []
  | [piece] => piece
  | piece :: rest => piece ++ '/' :: joinPieces rest

/-- The path without its last component; none for the root and the empty path. -/
def parent? (path : Path) : Option Path :=
  let (start, body) := path.splitStart
  match trimPieces (Text.split '/' body) with
  | [] => if start == ['.'] then some ⟨""⟩ else none
  | pieces => some ⟨String.ofList (start ++ joinPieces (trimPieces pieces.dropLast))⟩

def parent (path : Path) : Path :=
  path.parent?.getD ⟨""⟩

def fileName? (path : Path) : Option String :=
  match path.components.getLast? with
  | some (.name name) => some name
  | _ => none

/-- A file name cut at its last dot, unless that is its first character. -/
def cutName (name : String) : String × Option String :=
  let cs := name.toList
  let after := (cs.reverse.takeWhile (· != '.')).reverse
  let before := (cs.reverse.dropWhile (· != '.')).reverse.dropLast
  if name == ".." || before.isEmpty then (name, none)
  else (String.ofList before, some (String.ofList after))

def stem? (path : Path) : Option String :=
  path.fileName?.map fun name => (cutName name).1

def extension? (path : Path) : Option String :=
  path.fileName?.bind fun name => (cutName name).2

/-- The extension in lower case, empty if there is none. It tells the format of a file. -/
def format (path : Path) : String :=
  String.ofList ((path.extension?.getD "").toList.map Char.toLower)

def setExtension (extension : String) (path : Path) : Path :=
  let (start, body) := path.splitStart
  match path.stem? with
  | some stem =>
      ⟨String.ofList (start ++ joinPieces
        ((trimPieces (Text.split '/' body)).dropLast ++
          [stem.toList ++ '.' :: extension.toList]))⟩
  | none => path

/-- The path with another extension. The characters of the old one are taken off first; if that
leaves no file name, as for `..js`, nothing is put in their place. -/
def withExtension (extension : String) (path : Path) : Path :=
  let old := (path.extension?.getD "").length
  setExtension extension ⟨String.ofList (path.chars.take (path.chars.length - old))⟩

def join (base other : Path) : Path :=
  if other.isAbsolute || base.text.isEmpty then other
  else if base.chars.getLast? == some '/' then ⟨base.text ++ other.text⟩
  else ⟨base.text ++ "/" ++ other.text⟩

example : (Path.mk "./a//b.ts").components = [.current, .name "a", .name "b.ts"] := by decide
example : (Path.mk "a//b.d.ts/").parent? = some ⟨"a"⟩ := by decide
example : (Path.mk "a//b.d.ts/").withExtension "js" = ⟨"a//b.d.js"⟩ := by decide
example : (Path.mk "src").join ⟨"x.ts"⟩ = ⟨"src/x.ts"⟩ := by decide

end Path

end ClientGen
