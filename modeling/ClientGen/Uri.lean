import ClientGen.Path.Basic
import ClientGen.Text.Blank
import ClientGen.Text.Percent

/-!
# URIs

Where an API description lies: at a URL that has to be downloaded, or in a file. Only addresses
with the schemes `http`, `https` and `file` are URLs here; anything else is the path of a file as
it stands.
-/

namespace ClientGen.Uri

inductive Place where
  | remote (url : String)
  | file (path : Path)
  deriving DecidableEq, Repr

/-- The characters that a URL is read without: space and control characters at both ends, and tabs
and line ends anywhere. -/
def cleaned (uri : String) : List Char :=
  (Text.trimBy (fun c => c.toNat ≤ 0x20) uri.toList).filter fun c =>
    c != '\t' && c != '\n' && c != '\r'

def scheme? (cs : List Char) : Option (String × List Char) :=
  match Text.splitOnce? ':' cs with
  | some (c :: name, rest) =>
      if c.isAlpha && name.all fun c => c.isAlphanum || c == '+' || c == '-' || c == '.' then
        some (String.ofList ((c :: name).map Char.toLower), rest)
      else none
  | _ => none

def isSlash (c : Char) : Bool :=
  c == '/' || c == '\\'

def endsHost (c : Char) : Bool :=
  isSlash c || c == '?' || c == '#'

def isForbiddenInHost (c : Char) : Bool :=
  c.toNat ≤ 0x20 || c.toNat == 0x7F || "#/:<>?@[\\]^|%".toList.contains c

def hasHost (authority : List Char) : Bool :=
  let host := (authority.reverse.takeWhile (· != '@')).reverse
  match Text.splitOnce? ':' host with
  | none => !host.isEmpty && !host.any isForbiddenInHost
  | some (name, number) =>
      (!name.isEmpty && !name.any isForbiddenInHost && number.all Char.isDigit &&
        (String.ofList number).toNat?.getD 0 < 65536) || name.head? == some '['

def plainDots (segment : List Char) : List Char :=
  (Text.replace "%2e" "." (Text.replace "%2E" "." (String.ofList segment))).toList

/-- Whether a segment names a drive: a letter and a colon or bar. -/
def isDrive : List Char → Bool
  | [letter, mark] => letter.isAlpha && (mark == ':' || mark == '|')
  | _ => false

/-- Takes back the last segment, which two dots do. A drive stays. -/
def parent (done : List (List Char)) : List (List Char) :=
  if done.getLast?.any isDrive then done else done.dropLast

/-- A segment behind others: a drive in front has a colon. -/
def placed (done : List (List Char)) (segment : List Char) : List Char :=
  if done.isEmpty && isDrive segment then segment.take 1 ++ [':'] else segment

/-- Takes the segments of a path in turn: a single dot stands for nothing and two dots take back
the segment before. Either at the end leaves a slash. -/
def normalSegments (done : List (List Char)) : List (List Char) → List (List Char)
  | [] => done
  | segment :: rest =>
      let dots := plainDots segment
      if dots == ['.'] then
        if rest.isEmpty then done ++ [[]] else normalSegments done rest
      else if dots == ['.', '.'] then
        if rest.isEmpty then parent done ++ [[]] else normalSegments (parent done) rest
      else normalSegments (done ++ [placed done segment]) rest

def endsLikeDrive (path : List Char) : Bool :=
  match path.reverse with
  | mark :: letter :: _ :: _ => isDrive [letter, mark]
  | _ => false

/-- The path of a `file` URL, given what follows its host. However many slashes it starts with, it
has one, and one more after the name of a drive at its end. -/
def filePath (cs : List Char) : Path :=
  let path := cs.takeWhile fun c => c != '?' && c != '#'
  let path := path.map fun c => if c == '\\' then '/' else c
  let path := match path with
    | '/' :: rest => rest
    | path => path
  let path := match (normalSegments [] (Text.split '/' path)).dropWhile (·.isEmpty) with
    | [] => ['/']
    | segments => segments.flatMap fun segment => '/' :: Text.percentDecoded segment
  ⟨String.ofList (if endsLikeDrive path then path ++ ['/'] else path)⟩

/-- The path that a `file` URL names, given what follows the scheme; none if it names a host. -/
def localPath? (cs : List Char) : Option Path :=
  match cs with
  | a :: b :: rest =>
      if isSlash a && isSlash b then
        let host := rest.takeWhile fun c => !endsHost c
        if isDrive host then some (filePath rest)
        else if host.isEmpty || String.ofList (host.map Char.toLower) == "localhost" then
          some (filePath (rest.dropWhile fun c => !endsHost c))
        else none
      else some (filePath cs)
  | cs => some (filePath cs)

def place (uri : String) : Place :=
  match scheme? (cleaned uri) with
  | some ("file", rest) =>
      match localPath? rest with
      | some path => .file path
      | none => .file ⟨uri⟩
  | some (scheme, rest) =>
      if scheme == "http" || scheme == "https" then
        let rest := rest.dropWhile isSlash
        if hasHost (rest.takeWhile fun c => !endsHost c) then .remote uri else .file ⟨uri⟩
      else .file ⟨uri⟩
  | none => .file ⟨uri⟩

def remotePath (url : String) : String :=
  match scheme? (cleaned url) with
  | some (_, rest) =>
      let path := (rest.dropWhile isSlash).dropWhile fun c => !endsHost c
      let path := path.takeWhile fun c => c != '?' && c != '#'
      if path.isEmpty then "/" else String.ofList path
  | none => url

end ClientGen.Uri
