import ClientGen.Decimal.Shortest

/-!
# JSON values

The values that documents, configurations and manifests are read from. An object is the list of
its members. The canonical form of a value sorts the members of every object by key and keeps the
last member of each key; a text that repeats keys stands for its canonical form.
-/

namespace ClientGen

/-- A number keeps whether it was written as a whole number of 64 bits or as anything else. -/
inductive Number where
  | integer (n : Int)
  | double (d : Double)
  deriving DecidableEq, Repr, Inhabited

namespace Number

/-- Doubles are written positionally from `0.00001` up to, not including, `1e+16`, and always show
a point or an exponent. -/
def layout : Double.Layout := ⟨-5, 16⟩

def text : Number → String
  | .integer n => toString n
  | .double d => d.text layout

end Number

inductive Json where
  | null
  | bool (b : Bool)
  | number (n : Number)
  | string (s : String)
  | array (items : List Json)
  | object (members : List (String × Json))
  deriving Repr, Inhabited

abbrev Members := List (String × Json)

namespace Json

/-- Puts a member into a list sorted by key, unless its key is there already. -/
def insertMember (key : String) (value : Json) : Members → Members
  | [] => [(key, value)]
  | (k, v) :: rest =>
      if key < k then (key, value) :: (k, v) :: rest
      else if key = k then (k, v) :: rest
      else (k, v) :: insertMember key value rest

mutual

def canonical : Json → Json
  | .array items => .array (canonicalItems items)
  | .object members => .object (canonicalMembers members)
  | .null => .null
  | .bool b => .bool b
  | .number n => .number n
  | .string s => .string s

def canonicalItems : List Json → List Json
  | [] => []
  | item :: rest => canonical item :: canonicalItems rest

/-- The members of an object sorted by key, the last of each key, in canonical form. -/
def canonicalMembers : List (String × Json) → List (String × Json)
  | [] => []
  | (key, value) :: rest => insertMember key (canonical value) (canonicalMembers rest)

end

def lookup (key : String) : Members → Option Json
  | [] => none
  | (k, v) :: rest => if k = key then some v else lookup key rest

def erase (key : String) (members : Members) : Members :=
  members.filter fun (k, _) => k != key

end Json

end ClientGen
