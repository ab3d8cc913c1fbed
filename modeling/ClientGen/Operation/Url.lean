import ClientGen.Text.Replace

/-!
# URL templates

A path with placeholders in braces becomes the text of a template literal in which each
placeholder is replaced by the parameter that fills it.
-/

namespace ClientGen.Operation

def placeholders (path : String) : List String :=
  ((Text.split '\x7b' path.toList).drop 1).filterMap fun piece =>
    (Text.splitOnce? '\x7d' piece).map fun (name, _) => String.ofList name

def braced (name : String) : String :=
  "\x7b" ++ name ++ "\x7d"

/-- The text of a template literal for a path, given the name that each parameter has in the path
and the name it has in the function. -/
def urlTemplate (path : String) (names : List (String × String)) : String :=
  names.foldl (fun url (placeholder, name) =>
      Text.replace (braced placeholder) ("$" ++ braced name) url)
    (Text.replace "\x60" "\\\x60" path)

example : placeholders "/a/\x7bid\x7d/\x7bx-y\x7d" = ["id", "x-y"] := by decide

end ClientGen.Operation
