import ClientGen.Yaml.Node
import ClientGen.Yaml.Plain

/-!
# Reading YAML

The value of the one document of a YAML text. Nodes that stand for others are replaced by what
they stand for, within limits on nesting and on replacements. As a description a mapping may have
any scalars for keys, taken by their text; as settings its keys have to be texts.
-/

namespace ClientGen.Yaml

open Text (ReadFault ReadError)

def maxDepth : Nat := 128

namespace Node

mutual

/-- The named nodes within a node, by number, outer ones and earlier ones first. -/
def named : Node → List (Nat × Node)
  | .scalar name tag isPlain text =>
      (name.map fun number => (number, Node.scalar name tag isPlain text)).toList
  | .reference _ => []
  | .sequence name tag items =>
      (name.map fun number => (number, Node.sequence name tag items)).toList ++ namedItems items
  | .mapping name tag members =>
      (name.map fun number => (number, Node.mapping name tag members)).toList ++
        namedMembers members

def namedItems : List Node → List (Nat × Node)
  | [] => []
  | item :: rest => named item ++ namedItems rest

def namedMembers : List (Node × Node) → List (Nat × Node)
  | [] => []
  | (key, value) :: rest => named key ++ named value ++ namedMembers rest

end

mutual

/-- How many steps it takes to go through a node. -/
def size : Node → Nat
  | .scalar _ _ _ _ => 1
  | .reference _ => 1
  | .sequence _ _ items => 2 + sizeItems items
  | .mapping _ _ members => 2 + sizeMembers members

def sizeItems : List Node → Nat
  | [] => 0
  | item :: rest => size item + sizeItems rest

def sizeMembers : List (Node × Node) → Nat
  | [] => 0
  | (key, value) :: rest => size key + size value + sizeMembers rest

end

/-- The node that a number stands for: the last one that carries it. -/
def target? (named : List (Nat × Node)) (number : Nat) : Option Node :=
  (named.reverse.find? fun (other, _) => other == number).map (·.2)

/-- What a node stands for; the state counts the replacements that are left. -/
def follow (named : List (Nat × Node)) (node : Node) : StateT Nat (Except ReadFault) Node := do
  match node with
  | .reference number =>
      match ← get, target? named number with
      | left + 1, some node =>
          set left
          return node
      | _, _ => throw .tooDeep
  | node => return node

/-- Replaces the nodes that stand for others, at most `depth` levels deep. -/
def expand (named : List (Nat × Node)) : Nat → Node → StateT Nat (Except ReadFault) Node
  | 0, node => do
      match ← follow named node with
      | .scalar name tag isPlain text => return .scalar name tag isPlain text
      | _ => throw .tooDeep
  | depth + 1, node => do
      match ← follow named node with
      | .sequence name tag items => return .sequence name tag (← items.mapM (expand named depth))
      | .mapping name tag members =>
          return .mapping name tag (← members.mapM fun (key, value) => do
            let key ← expand named depth key
            return (key, ← expand named depth value))
      | node => return node

/-- The node with the nodes that stand for others replaced. There may be a hundred replacements
for every step through the node. -/
def expanded (node : Node) : Except ReadFault Node :=
  ((expand node.named maxDepth node).run (100 * node.size)).map (·.1)

def keyText : Node → Except ReadFault String
  | .scalar _ _ _ text => .ok text
  | _ => .error .keyNotText

def textKey : Node → Except ReadFault String
  | .scalar _ tag isPlain text =>
      match scalarValue tag isPlain text with
      | .ok (.string text) => .ok text
      | .ok _ => .error .keyNotText
      | .error fault => .error fault
  | _ => .error .keyNotText

mutual

/-- The value of a node, given how keys are taken. -/
def valueBy (key : Node → Except ReadFault String) : Node → Except ReadFault Json
  | .scalar _ tag isPlain text => scalarValue tag isPlain text
  | .reference _ => .error .tooDeep
  | .sequence _ tag items =>
      if isLocalTag tag then .error .badTag else (itemsBy key items).map .array
  | .mapping _ tag members =>
      if isLocalTag tag then .error .badTag else (membersBy key members).map .object

def itemsBy (key : Node → Except ReadFault String) : List Node → Except ReadFault (List Json)
  | [] => .ok []
  | item :: rest => do
      let value ← valueBy key item
      return value :: (← itemsBy key rest)

def membersBy (key : Node → Except ReadFault String) :
    List (Node × Node) → Except ReadFault (List (String × Json))
  | [] => .ok []
  | (name, item) :: rest => do
      let name ← key name
      let value ← valueBy key item
      return (name, value) :: (← membersBy key rest)

end

def misfit : Json := .number (.integer 0)

/-- The value of a setting. A mapping with a key that is no text fits no setting. -/
def setting (node : Node) : Except ReadFault Json :=
  match node.valueBy textKey with
  | .error .keyNotText => .ok misfit
  | value => value

/-- The members of a mapping of settings; none if a key can be no name. Keys that are natural
numbers name nothing and are passed over. -/
def settingMembers (valueOf : String → Node → Except ReadFault Json) :
    List (Node × Node) → Except ReadFault (Option Members)
  | [] => .ok (some [])
  | (key, item) :: rest => do
      let key ← match key with
        | .scalar _ tag isPlain text => scalarValue tag isPlain text
        | _ => pure .null
      let value ← match key with
        | .string name => valueOf name item
        | _ => item.setting
      let members ← settingMembers valueOf rest
      match key with
      | .string name => return members.map fun members => (name, value) :: members
      | .number (.integer n) => return if 0 ≤ n then members else none
      | _ => return none

def settingsBy (valueOf : String → Node → Except ReadFault Json) (node : Node) :
    Except ReadFault Json :=
  match node with
  | .mapping _ tag members =>
      if isLocalTag tag then .error .badTag
      else (settingMembers valueOf members).map fun members =>
        (members.map Json.object).getD misfit
  | node => node.setting

/-- The value of a document of settings, where the items of a sequence called `servers` are
mappings of settings too. -/
def settings (node : Node) : Except ReadFault Json :=
  node.settingsBy fun name value =>
    match name, value with
    | "servers", .sequence _ tag items =>
        if isLocalTag tag then .error .badTag
        else (items.mapM (settingsBy fun _ value => value.setting)).map .array
    | _, value => value.setting

end Node

/-- Reads the first document of a text, and the error that the text ends with if there is more
after it. A text without documents stands for nothing. -/
def readFirst (value : Node → Except ReadFault Json) (text : String) :
    Except ReadError (Json × Option ReadError) := do
  let document ← FirstDocument.ofText text.toList
  let excess := if document.isOnly then none else some ⟨.severalDocuments, 1⟩
  match document.root with
  | none => return (.null, excess)
  | some root =>
      match root.expanded.bind value with
      | .ok value => return (value, excess)
      | .error fault => throw ⟨fault, 1⟩

def read (text : String) : Except ReadError Json := do
  match ← readFirst (Node.valueBy Node.keyText) text with
  | (value, none) => return value.canonical
  | (_, some e) => throw e

/-- The value of the first document of a text as settings, with keys in the order of the text. -/
def readSettings (text : String) : Except ReadError (Json × Option ReadError) :=
  readFirst Node.settings text

end ClientGen.Yaml
