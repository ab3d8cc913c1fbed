import ClientGen.Json.Decode
import ClientGen.Schema.Basic

/-!
# Reading schemas

A schema is read from an object keyword by keyword, or from the array of its keywords in order.
Unknown keywords are passed over, and `null` under a keyword means its absence, except for
`required`.
-/

namespace ClientGen

def TypeNames.decode : Decoder TypeNames :=
  Decoder.firstOf "SchemaType" [
    fun value => (Decoder.text value).map .one,
    fun value => (Decoder.list Decoder.text value).map .many]

namespace Schema

/-- The keywords in the order in which an array gives them. -/
def keywordNames : List String := [
  "type", "$ref", "properties", "required", "items", "enum", "anyOf", "oneOf", "allOf",
  "additionalProperties", "format", "description", "const", "nullable"]

/-- Reads a keyword that holds no schema; any other keyword is passed over. -/
def Keywords.assign (keywords : Keywords) (key : String) (value : Json) :
    Except DecodeError Keywords :=
  match key with
  | "type" => (Decoder.optional TypeNames.decode value).map fun v => { keywords with type := v }
  | "$ref" => (Decoder.optional Decoder.text value).map fun v => { keywords with ref := v }
  | "required" =>
      (Decoder.list Decoder.text value).map fun v => { keywords with required := v }
  | "enum" =>
      (Decoder.optional (Decoder.list Decoder.any) value).map fun v =>
        { keywords with enumeration := v }
  | "format" => (Decoder.optional Decoder.text value).map fun v => { keywords with format := v }
  | "description" =>
      (Decoder.optional Decoder.text value).map fun v => { keywords with description := v }
  | "const" => (Decoder.optional Decoder.any value).map fun v => { keywords with constant := v }
  | "nullable" =>
      (Decoder.optional Decoder.flag value).map fun v => { keywords with nullable := v }
  | _ => .ok keywords

/-- The children that one keyword of a schema gives. -/
inductive Child where
  | properties (schemas : List (String × Schema))
  | items (schema : Schema)
  | anyOf (schemas : List Schema)
  | oneOf (schemas : List Schema)
  | allOf (schemas : List Schema)
  | additional (rule : Additional Schema)

def withChild : Schema → Child → Schema
  | .node k _ i a o l d, .properties ps => .node k (some ps) i a o l d
  | .node k p _ a o l d, .items s => .node k p (some s) a o l d
  | .node k p i _ o l d, .anyOf ss => .node k p i (some ss) o l d
  | .node k p i a _ l d, .oneOf ss => .node k p i a (some ss) l d
  | .node k p i a o _ d, .allOf ss => .node k p i a o (some ss) d
  | .node k p i a o l _, .additional r => .node k p i a o l (some r)

def withKeywords : Schema → Keywords → Schema
  | .node _ p i a o l d, k => .node k p i a o l d

def assignKeyword (draft : Schema) (key : String) (value : Json) : Except DecodeError Schema :=
  (draft.keywords.assign key value).map draft.withKeywords

/-- Hides why a value is no schema where a flag would have been possible too. -/
def orFlag (result : Except DecodeError Schema) : Except DecodeError Child :=
  match result with
  | .ok schema => .ok (.additional (.schema schema))
  | .error _ => .error (.noAlternative "AdditionalProperties")

mutual

def assign (draft : Schema) (key : String) : Json → Except DecodeError Schema
  | .object members =>
      match key with
      | "properties" => (readProperties members).map fun ps => draft.withChild (.properties ps)
      | "items" => (readMembers empty members).map fun s => draft.withChild (.items s)
      | "additionalProperties" => (orFlag (readMembers empty members)).map draft.withChild
      | "anyOf" | "oneOf" | "allOf" => .error (.wrongType .map .list)
      | _ => assignKeyword draft key (.object members)
  | .array values =>
      match key with
      | "properties" => .error (.wrongType .list .map)
      | "items" =>
          (readItems empty values.length 0 keywordNames values).map fun s =>
            draft.withChild (.items s)
      | "additionalProperties" =>
          (orFlag (readItems empty values.length 0 keywordNames values)).map draft.withChild
      | "anyOf" => (readList values).map fun ss => draft.withChild (.anyOf ss)
      | "oneOf" => (readList values).map fun ss => draft.withChild (.oneOf ss)
      | "allOf" => (readList values).map fun ss => draft.withChild (.allOf ss)
      | _ => assignKeyword draft key (.array values)
  | .null =>
      match key with
      | "properties" | "items" | "additionalProperties" | "anyOf" | "oneOf" | "allOf" => .ok draft
      | _ => assignKeyword draft key .null
  | value =>
      match key, value with
      | "properties", _ => .error (.wrongType value.found .map)
      | "items", _ => .error (.wrongType value.found (.record "Schema"))
      | "additionalProperties", .bool b => .ok (draft.withChild (.additional (.allowed b)))
      | "additionalProperties", _ => .error (.noAlternative "AdditionalProperties")
      | "anyOf", _ => .error (.wrongType value.found .list)
      | "oneOf", _ => .error (.wrongType value.found .list)
      | "allOf", _ => .error (.wrongType value.found .list)
      | _, _ => assignKeyword draft key value

def readMembers (draft : Schema) : List (String × Json) → Except DecodeError Schema
  | [] => .ok draft
  | (key, value) :: rest =>
      match assign draft key value with
      | .ok draft => readMembers draft rest
      | .error e => .error e

/-- Reads the items of an array as keywords in order. `total` is the length of the whole array and
`index` the place of the first item. Only `required` may be missing. -/
def readItems (draft : Schema) (total index : Nat) (names : List String) :
    List Json → Except DecodeError Schema
  | [] =>
      match names with
      | [] => .ok draft
      | name :: _ =>
          .error (.tooFewItems (if name = "required" then index + 1 else index) "Schema"
            keywordNames.length)
  | value :: rest =>
      match names with
      | [] => .error (.tooManyItems total)
      | name :: names =>
          match assign draft name value with
          | .ok draft => readItems draft total (index + 1) names rest
          | .error e => .error e

def decode : Json → Except DecodeError Schema
  | .object members => readMembers empty members
  | .array values => readItems empty values.length 0 keywordNames values
  | value => .error (.wrongType value.found (.record "Schema"))

def readList : List Json → Except DecodeError (List Schema)
  | [] => .ok []
  | value :: rest =>
      match decode value with
      | .error e => .error e
      | .ok schema => (readList rest).map fun schemas => schema :: schemas

def readProperties : List (String × Json) → Except DecodeError (List (String × Schema))
  | [] => .ok []
  | (name, value) :: rest =>
      match decode value with
      | .error e => .error e
      | .ok schema => (readProperties rest).map fun schemas => (name, schema) :: schemas

end

end Schema

end ClientGen
