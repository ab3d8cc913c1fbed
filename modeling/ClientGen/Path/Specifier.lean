import ClientGen.Path.Basic

/-!
# Import specifiers

How one generated file names another one in an import: by the relative path from its directory,
without the extension of the language.
-/

namespace ClientGen.Path

def dropShared : List Component → List Component → List Component × List Component
  | a :: as, b :: bs => if a = b then dropShared as bs else (a :: as, b :: bs)
  | as, bs => (as, bs)

/-- The components that move. -/
def moves (path : Path) : List Component :=
  path.components.filter (· != .current)

/-- The relative path from a directory to a file. It starts with a dot. -/
def relativeSpecifier (directory target : Path) : String :=
  let (up, down) := dropShared directory.moves target.moves
  let specifier := Text.join "/" (up.map (fun _ => "..") ++ down.map Component.text)
  if (Text.dropStart? ['.', '.'] specifier.toList).isSome then specifier else "./" ++ specifier

/-- The extensions that an import leaves out, the longer ones first. -/
def importExtensions : List String := [".d.ts", ".ts", ".tsx", ".js"]

/-- The relative path from a directory to a file without the extension of the language. -/
def importSpecifier (directory target : Path) : String :=
  let specifier := relativeSpecifier directory target
  (importExtensions.findSome? fun ending => Text.stripEnd? ending specifier).getD specifier

end ClientGen.Path
