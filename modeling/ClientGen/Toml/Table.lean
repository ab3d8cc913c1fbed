import ClientGen.Json.Basic
import ClientGen.Text.ReadError

/-!
# TOML tables

Tables as the lines of a TOML text build them up. A header or a dotted key makes the tables on its
way if they are missing. A table has one header at most, a dotted key adds only to tables made by
dotted keys or on the way of a header, and nothing adds to a value.
-/

namespace ClientGen.Toml

open Text (ReadFault)

/-- What stands under a key: a value, a table, or several tables. A table is implicit if it was
only made on the way to something else. -/
inductive Item where
  | value (value : Json)
  | table (isImplicit isDotted : Bool) (members : List (String × Item))
  | tables (items : List (List (String × Item)))

abbrev Table := List (String × Item)

namespace Table

def lookup (table : Table) (key : String) : Option Item :=
  (table.find? fun (other, _) => other == key).map (·.2)

def put (table : Table) (key : String) (item : Item) : Table :=
  table.filter (fun (other, _) => other != key) ++ [(key, item)]

/-- Changes the table at the end of a path and makes those on its way. The change is told whether
that table was made by a dotted key. -/
def descend (byDotted : Bool) (change : Bool → Table → Except ReadFault Table) :
    List String → Bool → Table → Except ReadFault Table
  | [], isDotted, table => change isDotted table
  | key :: path, _, table =>
      match table.lookup key with
      | none =>
          (descend byDotted change path byDotted []).map fun members =>
            table.put key (.table true byDotted members)
      | some (.table isImplicit isDotted members) =>
          if byDotted && !isImplicit then .error (.repeatedKey key)
          else (descend byDotted change path isDotted members).map fun members =>
            table.put key (.table isImplicit isDotted members)
      | some (.tables items) =>
          (descend byDotted change path false (items.getLast?.getD [])).map fun members =>
            table.put key (.tables (items.dropLast ++ [members]))
      | some (.value _) => .error (.keyNotTable key)

def assign (path : List String) (key : String) (value : Json) (table : Table) :
    Except ReadFault Table :=
  descend true (fun isDotted table =>
    if isDotted == path.isEmpty || (table.lookup key).isSome then .error (.repeatedKey key)
    else .ok (table.put key (.value value))) path false table

def assignUnder (header path : List String) (key : String) (value : Json) (table : Table) :
    Except ReadFault Table :=
  descend false (fun _ table => assign path key value table) header false table

def openHeader (path : List String) (key : String) (table : Table) : Except ReadFault Table :=
  descend false (fun _ table =>
    match table.lookup key with
    | none => .ok (table.put key (.table false false []))
    | some (.table true false members) => .ok (table.put key (.table false false members))
    | some _ => .error (.repeatedKey key)) path false table

def openItem (path : List String) (key : String) (table : Table) : Except ReadFault Table :=
  descend false (fun _ table =>
    match table.lookup key with
    | none => .ok (table.put key (.tables [[]]))
    | some (.tables items) => .ok (table.put key (.tables (items ++ [[]])))
    | some _ => .error (.repeatedKey key)) path false table

end Table

mutual

def Item.json : Item → Json
  | .value value => value
  | .table _ _ members => .object (Table.json members)
  | .tables items => .array (Table.jsonItems items)

def Table.json : List (String × Item) → List (String × Json)
  | [] => []
  | (key, item) :: rest => (key, item.json) :: Table.json rest

def Table.jsonItems : List (List (String × Item)) → List Json
  | [] => []
  | members :: rest => .object (Table.json members) :: Table.jsonItems rest

end

end ClientGen.Toml
