import ClientGen.Yaml.Token

/-!
# YAML nodes

The first document of a YAML text as a tree. A node can be named, and later nodes can stand for it
by its name. Names are numbered as they come; where a name is given again, the number counts the
names that differ so far, and a number means the last node that carries it.
-/

namespace ClientGen.Yaml

open Text (ReadFault ReadError)

/-- A node: a scalar, the number of a named node, or a collection. -/
inductive Node where
  | scalar (anchor : Option Nat) (tag : Option String) (isPlain : Bool) (text : String)
  | reference (number : Nat)
  | sequence (anchor : Option Nat) (tag : Option String) (items : List Node)
  | mapping (anchor : Option Nat) (tag : Option String) (members : List (Node × Node))
  deriving Repr, Inhabited

def Node.empty : Node := .scalar none none true ""

/-- What is left of a document: the tokens, the names given so far, and the shorthands for tags. -/
structure Feed where
  rest : List Lexeme
  stop : Option Stop
  names : List (String × Nat)
  shorthands : List (String × String)

namespace Feed

def peek (feed : Feed) : Except ReadError (Option Token) :=
  match feed.rest, feed.stop with
  | lexeme :: _, _ => .ok (some lexeme.token)
  | [], some (fault, cursor) => .error ⟨fault, cursor.line + 1⟩
  | [], none => .ok none

def skip (feed : Feed) : Feed :=
  { feed with rest := feed.rest.drop 1 }

def fail {α : Type} (feed : Feed) (fault : ReadFault) : Except ReadError α :=
  .error ⟨fault, (feed.rest.head?.map Lexeme.line).getD 0 + 1⟩

def name (feed : Feed) (name : String) : Nat × Feed :=
  let number := feed.names.length
  (number, { feed with
    names := (name, number) :: feed.names.filter fun (other, _) => other != name })

def number? (feed : Feed) (name : String) : Option Nat :=
  (feed.names.find? fun (other, _) => other == name).map (·.2)

def expansion? (feed : Feed) (handle : String) : Option String :=
  if handle.isEmpty then some ""
  else (feed.shorthands.find? fun (other, _) => other == handle).map (·.2)

end Feed

def readName (feed : Feed) : Except ReadError (Option Nat × Feed) := do
  match ← feed.peek with
  | some (.anchor name) =>
      let (number, feed) := feed.skip.name name
      return (some number, feed)
  | _ => return (none, feed)

def readTagOf (feed : Feed) : Except ReadError (Option String × Feed) := do
  match ← feed.peek with
  | some (.tag handle suffix) =>
      match feed.expansion? handle with
      | some expansion => return (some (expansion ++ suffix), feed.skip)
      | none => feed.fail .badTag
  | _ => return (none, feed)

/-- Reads the name and the tag of a node, in either order. -/
def readProperties (feed : Feed) : Except ReadError ((Option Nat × Option String) × Feed) := do
  let (name, feed) ← readName feed
  let (tag, feed) ← readTagOf feed
  if name.isSome then return ((name, tag), feed)
  let (name, feed) ← readName feed
  return ((name, tag), feed)

/-- The tokens before which a node in a block mapping can be left out. -/
def endsBlockPart (token : Token) : Bool :=
  token == .key || token == .value || token == .blockEnd

def endsBlockItem (token : Token) : Bool :=
  token == .dash || token == .blockEnd

/-- The tokens before which an item of a sequence without indentation can be left out. -/
def endsLevelItem (token : Token) : Bool :=
  token == .dash || endsBlockPart token

/-- The tokens before which a value between braces can be left out. -/
def endsFlowValue (token : Token) : Bool :=
  token == .comma || token == .flowMappingEnd

def endsFlowKey (token : Token) : Bool :=
  token == .value || endsFlowValue token

/-- The tokens before which a value between brackets can be left out. -/
def endsPairValue (token : Token) : Bool :=
  token == .comma || token == .flowSequenceEnd

def endsPairKey (token : Token) : Bool :=
  token == .value || endsPairValue token

def skipComma (isFirst : Bool) (feed : Feed) : Except ReadError Feed := do
  if isFirst then return feed
  match ← feed.peek with
  | some .comma => return feed.skip
  | _ => feed.fail .unexpectedEnd

mutual

/-- Reads a node. Block collections need `inBlock`; a sequence on the level of its mapping needs
`level`. `fuel` bounds the steps. -/
def readNode : Nat → (inBlock level : Bool) → Feed → Except ReadError (Node × Feed)
  | 0, _, _, feed => feed.fail .unexpectedEnd
  | fuel + 1, inBlock, level, feed => do
      match ← feed.peek with
      | some (.reference name) =>
          match feed.number? name with
          | some number => return (.reference number, feed.skip)
          | none => feed.fail (.unknownAnchor name)
      | _ =>
          let ((name, tag), feed) ← readProperties feed
          match ← feed.peek with
          | some (.scalar isPlain text) =>
              let tag := if tag == some "!" then none else tag
              return (.scalar name tag isPlain text, feed.skip)
          | some .flowSequenceStart => do
              let (items, feed) ← readFlowItems fuel true [] feed.skip
              return (.sequence name tag items, feed)
          | some .flowMappingStart => do
              let (members, feed) ← readFlowMembers fuel true [] feed.skip
              return (.mapping name tag members, feed)
          | next =>
              if level && next == some .dash then do
                let (items, feed) ← readLevelItems fuel [] feed
                return (.sequence name tag items, feed)
              else if inBlock && next == some .blockSequenceStart then do
                let (items, feed) ← readBlockItems fuel [] feed.skip
                return (.sequence name tag items, feed)
              else if inBlock && next == some .blockMappingStart then do
                let (members, feed) ← readBlockMembers fuel [] feed.skip
                return (.mapping name tag members, feed)
              else if name.isSome || tag.isSome then
                return (.scalar name tag true "", feed)
              else feed.fail .unexpectedEnd

def readPart : Nat → (inBlock level : Bool) → (Token → Bool) → Feed →
    Except ReadError (Node × Feed)
  | 0, _, _, _, feed => feed.fail .unexpectedEnd
  | fuel + 1, inBlock, level, ends, feed => do
      if (← feed.peek).any ends then return (.empty, feed)
      readNode fuel inBlock level feed

/-- Reads a value that is empty without a colon before it. -/
def readValue : Nat → (inBlock : Bool) → (Token → Bool) → Feed →
    Except ReadError (Node × Feed)
  | 0, _, _, feed => feed.fail .unexpectedEnd
  | fuel + 1, inBlock, ends, feed => do
      match ← feed.peek with
      | some .value => readPart fuel inBlock inBlock ends feed.skip
      | _ => return (.empty, feed)

def readBlockItems : Nat → List Node → Feed → Except ReadError (List Node × Feed)
  | 0, _, feed => feed.fail .unexpectedEnd
  | fuel + 1, read, feed => do
      match ← feed.peek with
      | some .dash =>
          let (item, feed) ← readPart fuel true false endsBlockItem feed.skip
          readBlockItems fuel (item :: read) feed
      | some .blockEnd => return (read.reverse, feed.skip)
      | _ => feed.fail .badIndentation

/-- Reads the items of a sequence on the level of the mapping it stands in. -/
def readLevelItems : Nat → List Node → Feed → Except ReadError (List Node × Feed)
  | 0, _, feed => feed.fail .unexpectedEnd
  | fuel + 1, read, feed => do
      match ← feed.peek with
      | some .dash =>
          let (item, feed) ← readPart fuel true false endsLevelItem feed.skip
          readLevelItems fuel (item :: read) feed
      | _ => return (read.reverse, feed)

def readBlockMembers : Nat → List (Node × Node) → Feed →
    Except ReadError (List (Node × Node) × Feed)
  | 0, _, feed => feed.fail .unexpectedEnd
  | fuel + 1, read, feed => do
      match ← feed.peek with
      | some .key =>
          let (key, feed) ← readPart fuel true true endsBlockPart feed.skip
          let (value, feed) ← readValue fuel true endsBlockPart feed
          readBlockMembers fuel ((key, value) :: read) feed
      | some .blockEnd => return (read.reverse, feed.skip)
      | _ => feed.fail .badIndentation

/-- Reads the items between brackets. A key makes a mapping of one member. -/
def readFlowItems : Nat → (isFirst : Bool) → List Node → Feed →
    Except ReadError (List Node × Feed)
  | 0, _, _, feed => feed.fail .unexpectedEnd
  | fuel + 1, isFirst, read, feed => do
      if (← feed.peek) == some .flowSequenceEnd then return (read.reverse, feed.skip)
      let feed ← skipComma isFirst feed
      match ← feed.peek with
      | some .flowSequenceEnd => return (read.reverse, feed.skip)
      | some .key =>
          let (member, feed) ← readPair fuel feed.skip
          readFlowItems fuel false (.mapping none none [member] :: read) feed
      | _ =>
          let (item, feed) ← readNode fuel false false feed
          readFlowItems fuel false (item :: read) feed

/-- Reads a member between brackets. Where the key is left out, the token in its place is passed
over. -/
def readPair : Nat → Feed → Except ReadError ((Node × Node) × Feed)
  | 0, feed => feed.fail .unexpectedEnd
  | fuel + 1, feed => do
      let (key, feed) ←
        if (← feed.peek).any endsPairKey then pure (Node.empty, feed.skip)
        else readNode fuel false false feed
      let (value, feed) ← readValue fuel false endsPairValue feed
      return ((key, value), feed)

def readFlowMembers : Nat → (isFirst : Bool) → List (Node × Node) → Feed →
    Except ReadError (List (Node × Node) × Feed)
  | 0, _, _, feed => feed.fail .unexpectedEnd
  | fuel + 1, isFirst, read, feed => do
      if (← feed.peek) == some .flowMappingEnd then return (read.reverse, feed.skip)
      let feed ← skipComma isFirst feed
      match ← feed.peek with
      | some .flowMappingEnd => return (read.reverse, feed.skip)
      | some .key =>
          let (key, feed) ← readPart fuel false false endsFlowKey feed.skip
          let (value, feed) ← readValue fuel false endsFlowValue feed
          readFlowMembers fuel false ((key, value) :: read) feed
      | _ =>
          let (key, feed) ← readNode fuel false false feed
          readFlowMembers fuel false ((key, .empty) :: read) feed

end

/-- The shorthands for tags that every document has unless it gives them a meaning of its own. -/
def standardShorthands : List (String × String) :=
  [("!", "!"), ("!!", "tag:yaml.org,2002:")]

/-- Reads the directives before a document; `hasVersion` tells whether one gave a version. -/
def readDirectives (feed : Feed) : Nat → (hasVersion : Bool) → List (String × String) →
    Except ReadError Feed
  | 0, _, _ => feed.fail .badDirective
  | fuel + 1, hasVersion, shorthands => do
      match ← feed.peek with
      | some (.version major minor) =>
          if hasVersion || major != 1 || (minor != 1 && minor != 2) then feed.fail .badDirective
          else readDirectives feed.skip fuel true shorthands
      | some (.shorthand handle expansion) =>
          if shorthands.any fun (other, _) => other == handle then feed.fail .badDirective
          else readDirectives feed.skip fuel hasVersion ((handle, expansion) :: shorthands)
      | _ => return { feed with shorthands := shorthands ++ standardShorthands }

def endsDocument : Token → Bool
  | .version _ _ => true
  | .shorthand _ _ => true
  | .documentStart => true
  | .documentEnd => true
  | _ => false

/-- Reads the content of the first document; none if the text has no document. Only a document
without directives can begin without its mark. -/
def readContent (fuel : Nat) (feed : Feed) : Except ReadError (Option Node × Feed) := do
  match ← feed.peek with
  | none => return (none, feed)
  | some token =>
      if endsDocument token && token != .documentEnd then
        let feed ← readDirectives feed fuel false []
        if (← feed.peek) != some .documentStart then feed.fail .badDirective
        let feed := feed.skip
        match ← feed.peek with
        | none => return (some .empty, feed)
        | some token =>
            if endsDocument token then return (some .empty, feed)
            else
              let (node, feed) ← readNode fuel true false feed
              return (some node, feed)
      else
        let (node, feed) ← readNode fuel true false feed
        return (some node, feed)

structure FirstDocument where
  root : Option Node
  isOnly : Bool

def skipEnds (lexemes : List Lexeme) : List Lexeme :=
  lexemes.dropWhile fun lexeme => lexeme.token == .documentEnd

/-- Reads the first document of a text. What follows it is not read. -/
def FirstDocument.ofText (cs : List Char) : Except ReadError FirstDocument := do
  let tokens := TokenList.ofText cs
  let feed : Feed := ⟨tokens.lexemes, tokens.stop, [], standardShorthands⟩
  let (root, feed) ← readContent (4 * tokens.lexemes.length + 4) feed
  return ⟨root, (skipEnds feed.rest).isEmpty && feed.stop.isNone⟩

end ClientGen.Yaml
