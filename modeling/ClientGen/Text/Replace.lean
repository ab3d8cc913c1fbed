/-!
# Searching and replacing

Cutting a text at a character and replacing a pattern in it. Occurrences are found from left to
right and do not overlap, and replaced text is not searched again.
-/

namespace ClientGen.Text

def dropStart? : List Char → List Char → Option (List Char)
  | [], cs => some cs
  | _ :: _, [] => none
  | p :: ps, c :: cs => if p = c then dropStart? ps cs else none

def dropEnd? (ending cs : List Char) : Option (List Char) :=
  (dropStart? ending.reverse cs.reverse).map List.reverse

/-- `replaceFrom skip pattern replacement cs` passes over `skip` characters of an occurrence that
is already replaced, then goes on replacing. -/
def replaceFrom (pattern replacement : List Char) : Nat → List Char → List Char
  | _, [] => []
  | skip + 1, _ :: rest => replaceFrom pattern replacement skip rest
  | 0, c :: rest =>
      if (dropStart? pattern (c :: rest)).isSome then
        replacement ++ replaceFrom pattern replacement (pattern.length - 1) rest
      else c :: replaceFrom pattern replacement 0 rest

def replace (pattern replacement s : String) : String :=
  String.ofList (replaceFrom pattern.toList replacement.toList 0 s.toList)

/-- The pieces between the occurrences of a character: always one more than occurrences. -/
def split (sep : Char) : List Char → List (List Char)
  | [] => [[]]
  | c :: rest =>
      if c = sep then [] :: split sep rest
      else match split sep rest with
        | [] => [[c]]
        | piece :: pieces => (c :: piece) :: pieces

def splitOnce? (sep : Char) : List Char → Option (List Char × List Char)
  | [] => none
  | c :: rest =>
      if c = sep then some ([], rest)
      else (splitOnce? sep rest).map fun (before, after) => (c :: before, after)

def stripStart? (beginning s : String) : Option String :=
  (dropStart? beginning.toList s.toList).map String.ofList

def stripEnd? (ending s : String) : Option String :=
  (dropEnd? ending.toList s.toList).map String.ofList

def contains (pattern : List Char) : List Char → Bool
  | [] => pattern.isEmpty
  | c :: rest => (dropStart? pattern (c :: rest)).isSome || contains pattern rest

def join (separator : String) : List String → String
  | [] => ""
  | [text] => text
  | text :: rest => text ++ separator ++ join separator rest

example : replace "aa" "b" "aaaa a" = "bb a" := by decide
example : split '/' "/a//".toList = [[], ['a'], [], []] := by decide
example : join ", " ["a", "b", "c"] = "a, b, c" := by decide

end ClientGen.Text
