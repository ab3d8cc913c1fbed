/-!
# Blank space

The characters that Unicode calls white space, and trimming by them. Blank space surrounds type
expressions and operation identifiers without being part of them, and an identifier made of
nothing else names nothing.
-/

namespace ClientGen.Text

/-- The characters with the Unicode property `White_Space`. -/
def isBlank (c : Char) : Bool :=
  let n := c.toNat
  (9 ≤ n && n ≤ 13) || n == 0x20 || n == 0x85 || n == 0xA0 || n == 0x1680 ||
    (0x2000 ≤ n && n ≤ 0x200A) || n == 0x2028 || n == 0x2029 || n == 0x202F ||
    n == 0x205F || n == 0x3000

def trimBy (p : Char → Bool) (cs : List Char) : List Char :=
  ((cs.dropWhile p).reverse.dropWhile p).reverse

def trimEndBy (p : Char → Bool) (cs : List Char) : List Char :=
  (cs.reverse.dropWhile p).reverse

def trim (s : String) : String :=
  String.ofList (trimBy isBlank s.toList)

def trimEnd (c : Char) (s : String) : String :=
  String.ofList (trimEndBy (· == c) s.toList)

/-- A text of blank space only, the empty one included. -/
def isBlankText (s : String) : Bool :=
  s.toList.all isBlank

example : trim "\t a b\n" = "a b" := by decide
example : trimEnd '/' "/v2//" = "/v2" := by decide

end ClientGen.Text
