import ClientGen.Json.Basic
import ClientGen.Text.Quoted
import ClientGen.Text.Replace

/-!
# Reading typed data from JSON values

Decoders for texts, flags, lists, maps, records and choices, and the reasons for which a value is
refused. A record may be written as an object, where unknown members are passed over, or as an
array of its fields in order. Of several bad members the one with the least key is reported, and a
missing field only when every member that is there is good.
-/

namespace ClientGen

/-- What a decoder wanted to find. -/
inductive Wanted where
  | text
  | flag
  | list
  | map
  | record (name : String)
  | nameOrMap
  | nothing
  | payload
  deriving DecidableEq, Repr

inductive Found where
  | null
  | bool (b : Bool)
  | number (n : Number)
  | text (s : String)
  | list
  | map
  | bareName
  deriving DecidableEq, Repr

inductive DecodeError where
  | wrongType (found : Found) (wanted : Wanted)
  | notSingleKey
  | missingField (name : String)
  | repeatedField (name : String)
  | unknownField (name : String) (known : List String)
  | unknownChoice (name : String) (known : List String)
  | noAlternative (type : String)
  | tooFewItems (count : Nat) (record : String) (fields : Nat)
  | tooManyItems (count : Nat)
  | surplusItems (count fields : Nat)
  deriving DecidableEq, Repr

def Wanted.describe : Wanted → String
  | .text => "a string"
  | .flag => "a boolean"
  | .list => "a sequence"
  | .map => "a map"
  | .record name => "struct " ++ name
  | .nameOrMap => "string or map"
  | .nothing => "unit"
  | .payload => "newtype variant"

def Found.describe : Found → String
  | .null => "null"
  | .bool b => "boolean \x60" ++ (if b then "true" else "false") ++ "\x60"
  | .number (.integer n) => "integer \x60" ++ toString n ++ "\x60"
  | .number (.double d) => "floating point \x60" ++ (Number.double d).text ++ "\x60"
  | .text s => "string " ++ Text.quoted s
  | .list => "sequence"
  | .map => "map"
  | .bareName => "unit variant"

def backquoted (name : String) : String :=
  "\x60" ++ name ++ "\x60"

def describeNames : List String → String
  | [] => "nothing"
  | [a] => backquoted a
  | [a, b] => backquoted a ++ " or " ++ backquoted b
  | names => "one of " ++ Text.join ", " (names.map backquoted)

def countElements (count : Nat) : String :=
  toString count ++ (if count = 1 then " element" else " elements")

def DecodeError.message : DecodeError → String
  | .wrongType found wanted =>
      "invalid type: " ++ found.describe ++ ", expected " ++ wanted.describe
  | .notSingleKey => "invalid value: map, expected map with a single key"
  | .missingField name => "missing field " ++ backquoted name
  | .repeatedField name => "duplicate field " ++ backquoted name
  | .unknownField name known =>
      "unknown field " ++ backquoted name ++ ", expected " ++ describeNames known
  | .unknownChoice name known =>
      "unknown variant " ++ backquoted name ++ ", expected " ++ describeNames known
  | .noAlternative type => "data did not match any variant of untagged enum " ++ type
  | .tooFewItems count record fields =>
      "invalid length " ++ toString count ++ ", expected struct " ++ record ++ " with " ++
        countElements fields
  | .tooManyItems count =>
      "invalid length " ++ toString count ++ ", expected fewer elements in array"
  | .surplusItems count fields =>
      "invalid length " ++ toString count ++ ", expected " ++ countElements fields ++
        " in sequence"

/-- Reads a value of a type from a JSON value. -/
abbrev Decoder (α : Type) := Json → Except DecodeError α

namespace Json

def found : Json → Found
  | .null => .null
  | .bool b => .bool b
  | .number n => .number n
  | .string s => .text s
  | .array _ => .list
  | .object _ => .map

end Json

namespace Decoder

def reject {α : Type} (wanted : Wanted) : Decoder α := fun value =>
  .error (.wrongType value.found wanted)

def text : Decoder String
  | .string s => .ok s
  | value => reject .text value

def flag : Decoder Bool
  | .bool b => .ok b
  | value => reject .flag value

def any : Decoder Json := .ok

def optional {α : Type} (decode : Decoder α) : Decoder (Option α)
  | .null => .ok none
  | value => (decode value).map some

def list {α : Type} (decode : Decoder α) : Decoder (List α)
  | .array items => items.mapM decode
  | value => reject .list value

def map {α : Type} (decode : Decoder α) : Decoder (List (String × α))
  | .object members => members.mapM fun (key, value) => (decode value).map fun v => (key, v)
  | value => reject .map value

def firstOf {α : Type} (type : String) : List (Decoder α) → Decoder α
  | [], _ => .error (.noAlternative type)
  | decode :: rest, value =>
      match decode value with
      | .ok a => .ok a
      | .error _ => firstOf type rest value

/-- One of several words, written as a text or as the only key of an object with nothing
under it. -/
def word {α : Type} (words : List (String × α)) : Decoder α
  | .string s => named s
  | .object [(s, payload)] =>
      match named s, payload with
      | .ok a, .null => .ok a
      | .ok _, payload => reject .nothing payload
      | .error e, _ => .error e
  | .object _ => .error .notSingleKey
  | value => reject .nameOrMap value
where
  named (s : String) : Except DecodeError α :=
    match words.find? fun (w, _) => w == s with
    | some (_, a) => .ok a
    | none => .error (.unknownChoice s (words.map (·.1)))

/-- One of several forms, written as an object whose only key names the form and holds its
payload. -/
def tagged {α : Type} (forms : List (String × Decoder α)) : Decoder α
  | .string s =>
      if forms.any fun (tag, _) => tag == s then .error (.wrongType .bareName .payload)
      else .error (.unknownChoice s (forms.map (·.1)))
  | .object [(s, payload)] =>
      match forms.find? fun (tag, _) => tag == s with
      | some (_, decode) => decode payload
      | none => .error (.unknownChoice s (forms.map (·.1)))
  | .object _ => .error .notSingleKey
  | value => reject .nameOrMap value

end Decoder

/-- Why the members of an object do not make a record. -/
inductive FieldFault where
  | at (key : String) (error : DecodeError)
  | missing (name : String)
  deriving DecidableEq, Repr

namespace FieldFault

/-- The fault that is reported: a bad member before a missing field, the bad member with the least
key, the missing field declared first. -/
def first : FieldFault → FieldFault → FieldFault
  | .at k e, .at l f => if l < k then .at l f else .at k e
  | .at k e, .missing _ => .at k e
  | .missing _, .at l f => .at l f
  | .missing n, .missing _ => .missing n

def error : FieldFault → DecodeError
  | .at _ e => e
  | .missing name => .missingField name

end FieldFault

/-- Why the items of an array do not make a record. -/
inductive ItemFault where
  | tooFew (count : Nat)
  | bad (error : DecodeError)
  deriving DecidableEq, Repr

/-- How the fields of a record are read, from the members of an object or from the items of an
array. Reading items also answers the index of the next item. -/
structure Fields (α : Type) where
  keys : List String
  count : Nat
  ofMembers : Members → Except FieldFault α
  ofItems : Nat × List Json → Except ItemFault (α × Nat × List Json)

namespace Fields

protected def pure {α : Type} (a : α) : Fields α where
  keys := []
  count := 0
  ofMembers _ := .ok a
  ofItems items := .ok (a, items)

protected def seq {α β : Type} (f : Fields (α → β)) (x : Fields α) : Fields β where
  keys := f.keys ++ x.keys
  count := f.count + x.count
  ofMembers members :=
    match f.ofMembers members, x.ofMembers members with
    | .ok f, .ok a => .ok (f a)
    | .ok _, .error e => .error e
    | .error e, .ok _ => .error e
    | .error e, .error e' => .error (e.first e')
  ofItems items :=
    match f.ofItems items with
    | .error e => .error e
    | .ok (f, rest) =>
        match x.ofItems rest with
        | .error e => .error e
        | .ok (a, rest) => .ok (f a, rest)

instance : Applicative Fields where
  pure := Fields.pure
  seq f x := Fields.seq f (x ())

/-- The values under any of the given names, with the name used. -/
def under (names : List String) (members : Members) : Members :=
  members.filter fun (key, _) => names.contains key

/-- A field that may be written under several names, the first being its own; `absent` is its
value when no member has one of the names, and `short` its value when an array is too short. -/
def field {α : Type} (names : List String) (absent short : Option α) (decode : Decoder α) :
    Fields α where
  keys := names
  count := 1
  ofMembers members :=
    let name := names.headD ""
    match under names members with
    | [] => match absent with
      | some a => .ok a
      | none => .error (.missing name)
    | [(key, value)] => match decode value with
      | .ok a => .ok a
      | .error e => .error (.at key e)
    | (first, value) :: (second, _) :: _ => match decode value with
      | .ok _ => .error (.at second (.repeatedField name))
      | .error e => .error (.at first e)
  ofItems
    | (index, []) => match short with
      | some a => .ok (a, index + 1, [])
      | none => .error (.tooFew index)
    | (index, value :: rest) => match decode value with
      | .ok a => .ok (a, index + 1, rest)
      | .error e => .error (.bad e)

def required {α : Type} (name : String) (decode : Decoder α) : Fields α :=
  field [name] none none decode

/-- A field with a value of its own when it is left out. -/
def defaulted {α : Type} (name : String) (default : α) (decode : Decoder α) : Fields α :=
  field [name] (some default) (some default) decode

/-- A field that may be left out of an object or be `null`. -/
def optional {α : Type} (name : String) (decode : Decoder α) : Fields (Option α) :=
  field [name] (some none) none (Decoder.optional decode)

/-- A field that may be left out of an object or an array or be `null`. -/
def omissible {α : Type} (name : String) (decode : Decoder α) : Fields (Option α) :=
  field [name] (some none) (some none) (Decoder.optional decode)

/-- Checks that every member has a known key. -/
def closed {α : Type} (fields : Fields α) (known : List String) : Fields α where
  keys := fields.keys
  count := fields.count
  ofMembers members :=
    let unknown := members.filterMap fun (key, _) =>
      if fields.keys.contains key then none
      else some (FieldFault.at key (.unknownField key known))
    match fields.ofMembers members, unknown with
    | .ok a, [] => .ok a
    | .ok _, e :: es => .error (es.foldl FieldFault.first e)
    | .error e, es => .error (es.foldl FieldFault.first e)
  ofItems := fields.ofItems

end Fields

namespace Decoder

def objectRecord {α : Type} (name : String) (fields : Fields α) : Decoder α
  | .object members => (fields.ofMembers members).mapError FieldFault.error
  | value => reject (.record name) value

/-- A record written as an object or as the array of its fields. -/
def record {α : Type} (name : String) (fields : Fields α) : Decoder α
  | .array items =>
      match fields.ofItems (0, items) with
      | .ok (a, _, []) => .ok a
      | .ok (_, _, _ :: _) => .error (.tooManyItems items.length)
      | .error (.tooFew count) => .error (.tooFewItems count name fields.count)
      | .error (.bad e) => .error e
  | value => objectRecord name fields value

/-- A record written as an object or as the array of its fields. Of an array that is too long it
says how many items the record takes. -/
def countedRecord {α : Type} (name : String) (fields : Fields α) : Decoder α := fun value =>
  match record name fields value with
  | .error (.tooManyItems count) => .error (.surplusItems count fields.count)
  | outcome => outcome

end Decoder

end ClientGen
