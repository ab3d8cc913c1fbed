import ClientGen.Text.Percent
import ClientGen.Yaml.Scalar

/-!
# YAML tokens

The tokens of a YAML text. Indentation becomes tokens that open and close block collections. The
token that marks a key goes in front of what turns out to be one: that must be followed by a colon
within its line and within 1024 bytes.
-/

namespace ClientGen.Yaml

open Text (ReadFault)

inductive Token where
  | version (major minor : Nat)
  | shorthand (handle expansion : String)
  | documentStart
  | documentEnd
  | blockSequenceStart
  | blockMappingStart
  | blockEnd
  | flowSequenceStart
  | flowSequenceEnd
  | flowMappingStart
  | flowMappingEnd
  | dash
  | comma
  | key
  | value
  | reference (name : String)
  | anchor (name : String)
  | tag (handle suffix : String)
  | scalar (isPlain : Bool) (text : String)
  deriving DecidableEq, Repr

structure Lexeme where
  token : Token
  line : Nat
  deriving DecidableEq, Repr

/-- What may turn out to be a key: how many tokens stand before it, where it begins, and whether
nothing else can stand there. -/
structure Candidate where
  place : Nat
  line : Nat
  column : Nat
  index : Nat
  isRequired : Bool

/-- How far a text has come apart into tokens. `read` holds the tokens in reverse order. There is
one candidate for a key on each level of brackets and braces, the innermost first. -/
structure Scanner where
  cursor : Cursor
  read : List Lexeme
  count : Nat
  indent : Int
  outerIndents : List Int
  candidates : List (Option Candidate)
  keyAllowed : Bool

namespace Scanner

def start (cs : List Char) : Scanner :=
  ⟨Cursor.start cs, [], 0, -1, [], [none], true⟩

def inFlow (s : Scanner) : Bool :=
  1 < s.candidates.length

def add (s : Scanner) (token : Token) : Scanner :=
  { s with read := ⟨token, s.cursor.line⟩ :: s.read, count := s.count + 1 }

def insert (s : Scanner) (place : Nat) (token : Token) : Scanner :=
  let later := s.count - place
  { s with
    read := s.read.take later ++ ⟨token, s.cursor.line⟩ :: s.read.drop later
    count := s.count + 1 }

/-- Opens a block collection at a column unless one is open there. -/
def openBlock (s : Scanner) (column place : Nat) (token : Token) : Scanner :=
  if !s.inFlow && s.indent < column then
    { s.insert place token with indent := column, outerIndents := s.indent :: s.outerIndents }
  else s

def closeBlocksFrom (column : Int) : List Int → Scanner → Scanner
  | [], s => s
  | outer :: rest, s =>
      if column < s.indent then
        closeBlocksFrom column rest
          { s.add .blockEnd with indent := outer, outerIndents := rest }
      else s

def closeBlocks (s : Scanner) (column : Int) : Scanner :=
  if s.inFlow then s else closeBlocksFrom column s.outerIndents s

def dropCandidate (s : Scanner) : Except Stop Scanner :=
  match s.candidates with
  | some candidate :: outer =>
      if candidate.isRequired then s.cursor.unexpected
      else .ok { s with candidates := none :: outer }
  | _ => .ok s

/-- Takes the next token for a candidate if a key can stand here. -/
def saveCandidate (s : Scanner) : Except Stop Scanner :=
  if s.keyAllowed then
    s.dropCandidate.map fun s =>
      let candidate : Candidate :=
        ⟨s.count, s.cursor.line, s.cursor.column, s.cursor.index,
          !s.inFlow && s.indent == s.cursor.column⟩
      { s with candidates := some candidate :: s.candidates.drop 1 }
  else .ok s

/-- Whether the colon of a candidate would come too late. -/
def isStale (cursor : Cursor) (candidate : Candidate) : Bool :=
  candidate.line < cursor.line || candidate.index + 1024 < cursor.index

def dropStale (s : Scanner) : Except Stop Scanner :=
  let stale := s.candidates.filter fun candidate => candidate.any (isStale s.cursor)
  if stale.any fun candidate => candidate.any Candidate.isRequired then s.cursor.unexpected
  else
    .ok { s with candidates := s.candidates.map fun candidate =>
      candidate.filter fun candidate => !isStale s.cursor candidate }

/-- Passes over space, comments and line ends. A tab counts as space only where no key can
stand. -/
def skipSpace : Nat → Scanner → Scanner
  | 0, s => s
  | fuel + 1, s =>
      let cursor := s.cursor.skipWhile fun c =>
        c == ' ' || ((s.inFlow || !s.keyAllowed) && c == '\t')
      let cursor := if cursor.peek == some '#' then cursor.skipWhile (!isBreak ·) else cursor
      if cursor.peek.any isBreak then
        skipSpace fuel { s with
          cursor := cursor.takeBreak.2
          keyAllowed := s.keyAllowed || !s.inFlow }
      else { s with cursor := cursor }

def addOver (s : Scanner) (token : Token) (length : Nat) (keyAllowed : Bool) : Scanner :=
  { s.add token with cursor := s.cursor.skipMany length, keyAllowed := keyAllowed }

end Scanner

def isNameChar (c : Char) : Bool :=
  c.isAlphanum || c == '_' || c == '-'

def isTagChar (inBrackets : Bool) (c : Char) : Bool :=
  isNameChar c || ";/?:@&=+$.%!~*'()".toList.contains c ||
    (inBrackets && (c == ',' || c == '[' || c == ']'))

def readVersionNumber (cursor : Cursor) : Except Stop (Nat × Cursor) :=
  let (digits, after) := cursor.takeWhile Char.isDigit
  if digits.isEmpty || 9 < digits.length then cursor.fail .badDirective
  else .ok (Json.decimalValue digits, after)

/-- Reads a tag or what a tag begins with; `start` holds its characters so far. -/
def readTagText (inBrackets : Bool) (start : List Char) (cursor : Cursor) :
    Except Stop (List Char × Cursor) :=
  let (text, after) := cursor.takeWhile (isTagChar inBrackets)
  if start.isEmpty && text.isEmpty then cursor.fail .badTag
  else if !Text.hasPercentPairs text then cursor.fail .badTag
  else match Text.percentDecode? text with
    | some text => .ok (start.drop 1 ++ text, after)
    | none => cursor.fail .badTag

/-- Reads the handle of a tag: an exclamation mark, and a name with another one if there is one.
Answers a name without the second mark too. -/
def readHandle (cursor : Cursor) : Except Stop (List Char × Cursor) :=
  if cursor.peek != some '!' then cursor.fail .badTag
  else
    let (name, after) := cursor.skip.takeWhile isNameChar
    if after.peek == some '!' then .ok ('!' :: name ++ ['!'], after.skip)
    else .ok ('!' :: name, after)

def readDirectiveBody (name : String) (cursor : Cursor) : Except Stop (Token × Cursor) := do
  let cursor := cursor.skipWhile isBlank
  if name == "YAML" then
    let (major, cursor) ← readVersionNumber cursor
    if cursor.peek != some '.' then cursor.fail .badDirective
    let (minor, cursor) ← readVersionNumber cursor.skip
    return (.version major minor, cursor)
  else if name == "TAG" then
    let (handle, cursor) ← readHandle cursor
    if handle != ['!'] && (handle.length == 1 || handle.getLast? != some '!') then
      cursor.fail .badTag
    if !cursor.peek.any isBlank then cursor.fail .badDirective
    let (expansion, cursor) ← readTagText true [] (cursor.skipWhile isBlank)
    if !Cursor.isBlankOrEnd cursor.peek then cursor.fail .badDirective
    return (.shorthand (String.ofList handle) (String.ofList expansion), cursor)
  else cursor.fail .badDirective

def readDirective (cursor : Cursor) : Except Stop (Token × Cursor) := do
  let (name, cursor) := cursor.skip.takeWhile isNameChar
  if name.isEmpty || !Cursor.isBlankOrEnd cursor.peek then cursor.fail .badDirective
  let (token, cursor) ← readDirectiveBody (String.ofList name) cursor
  let cursor := skipToLineEnd cursor
  if !Cursor.isLineEnd cursor.peek then cursor.fail .badDirective
  return (token, cursor.takeBreak.2)

def readAnchor (cursor : Cursor) : Except Stop (String × Cursor) :=
  let (name, after) := cursor.takeWhile isNameChar
  let mayFollow (c : Char) : Bool := "?:,]\x7d%@\x60".toList.contains c
  if !name.isEmpty && (Cursor.isBlankOrEnd after.peek || after.peek.any mayFollow) then
    .ok (String.ofList name, after)
  else after.unexpected

/-- Reads a tag: a whole one between angle brackets, or a handle and what follows it. -/
def readTag (inFlow : Bool) (cursor : Cursor) : Except Stop (Token × Cursor) := do
  let (token, cursor) ←
    if cursor.peekNext == some '<' then do
      let (suffix, cursor) ← readTagText true [] (cursor.skipMany 2)
      if cursor.peek != some '>' then cursor.fail .badTag
      pure (Token.tag "" (String.ofList suffix), cursor.skip)
    else do
      let (handle, cursor) ← readHandle cursor
      if handle.length != 1 && handle.getLast? == some '!' then do
        let (suffix, cursor) ← readTagText false [] cursor
        pure (Token.tag (String.ofList handle) (String.ofList suffix), cursor)
      else do
        let (suffix, cursor) ← readTagText false handle cursor
        pure (if suffix.isEmpty then (Token.tag "" "!", cursor)
          else (Token.tag "!" (String.ofList suffix), cursor))
  if Cursor.isBlankOrEnd cursor.peek || (inFlow && cursor.peek == some ',') then
    return (token, cursor)
  else cursor.fail .badTag

namespace Scanner

def takeDash (s : Scanner) : Except Stop Scanner := do
  if !s.inFlow && !s.keyAllowed then s.cursor.unexpected
  let s ← (s.openBlock s.cursor.column s.count .blockSequenceStart).dropCandidate
  return s.addOver .dash 1 true

def takeKey (s : Scanner) : Except Stop Scanner := do
  if !s.inFlow && !s.keyAllowed then s.cursor.unexpected
  let s ← (s.openBlock s.cursor.column s.count .blockMappingStart).dropCandidate
  return s.addOver .key 1 !s.inFlow

/-- Takes the colon before a value. A candidate for the key has become one. -/
def takeValue (s : Scanner) : Except Stop Scanner :=
  match s.candidates with
  | some candidate :: outer =>
      let s := (s.insert candidate.place .key).openBlock candidate.column candidate.place
        .blockMappingStart
      .ok (({ s with candidates := none :: outer } : Scanner).addOver .value 1 false)
  | _ => do
      if !s.inFlow && !s.keyAllowed then s.cursor.unexpected
      let s := s.openBlock s.cursor.column s.count .blockMappingStart
      return s.addOver .value 1 !s.inFlow

def takeOpening (s : Scanner) (token : Token) : Except Stop Scanner := do
  let s ← s.saveCandidate
  return { s with candidates := none :: s.candidates }.addOver token 1 true

def takeClosing (s : Scanner) (token : Token) : Except Stop Scanner := do
  let s ← s.dropCandidate
  let outer := if s.inFlow then s.candidates.drop 1 else s.candidates
  return { s with candidates := outer }.addOver token 1 false

def takeMarker (s : Scanner) (token : Token) : Except Stop Scanner := do
  let s ← (s.closeBlocks (-1)).dropCandidate
  return s.addOver token 3 false

def takeDirective (s : Scanner) : Except Stop Scanner := do
  let s ← (s.closeBlocks (-1)).dropCandidate
  let (token, cursor) ← readDirective s.cursor
  return { s.add token with cursor := cursor, keyAllowed := false }

/-- Takes what can be part of a key: an anchor, an alias, a tag, or a scalar that is no block. -/
def takePart (s : Scanner) (read : Cursor → Except Stop (Token × Bool × Cursor)) :
    Except Stop Scanner := do
  let s ← s.saveCandidate
  let (token, keyAllowed, cursor) ← read s.cursor
  return { s.add token with cursor := cursor, keyAllowed := keyAllowed }

def takeBlock (s : Scanner) (bound : Nat) (literal : Bool) : Except Stop Scanner := do
  let s ← s.dropCandidate
  let (text, cursor) ← readBlock bound literal s.indent s.cursor.skip
  return { s.add (.scalar false (String.ofList text)) with cursor := cursor, keyAllowed := true }

def takeQuoted (s : Scanner) (bound : Nat) (quote : Char) : Except Stop Scanner :=
  s.takePart fun cursor => do
    let (text, cursor) ← readQuoted bound quote cursor.skip
    return (.scalar false (String.ofList text), false, cursor)

/-- Takes a plain scalar. A key can follow it if it ends with its line. -/
def takePlain (s : Scanner) (bound : Nat) : Except Stop Scanner :=
  s.takePart fun cursor => do
    let (text, atLineStart, cursor) ← readPlain bound s.inFlow (s.indent + 1).toNat cursor
    return (.scalar true (String.ofList text), atLineStart, cursor)

def startsPlain (inFlow : Bool) (c : Char) (next : Option Char) : Bool :=
  !(isBlank c || "-?:,[]\x7b\x7d#&*!|>'\"%@\x60".toList.contains c) ||
    (c == '-' && !next.any isBlank) ||
    (!inFlow && (c == '?' || c == ':') && !Cursor.isBlankOrEnd next)

/-- Takes the token that begins with a character. Fewer than `bound` characters are left. -/
def takeToken (s : Scanner) (bound : Nat) (c : Char) : Except Stop Scanner :=
  let next := s.cursor.peekNext
  let standsAlone := s.inFlow || Cursor.isBlankOrEnd next
  if s.cursor.column == 0 && c == '%' then s.takeDirective
  else if s.cursor.isAtMarker '-' then s.takeMarker .documentStart
  else if s.cursor.isAtMarker '.' then s.takeMarker .documentEnd
  else if c == '[' then s.takeOpening .flowSequenceStart
  else if c == '\x7b' then s.takeOpening .flowMappingStart
  else if c == ']' then s.takeClosing .flowSequenceEnd
  else if c == '\x7d' then s.takeClosing .flowMappingEnd
  else if c == ',' then s.dropCandidate.map fun s => s.addOver .comma 1 true
  else if c == '-' && Cursor.isBlankOrEnd next then s.takeDash
  else if c == '?' && standsAlone then s.takeKey
  else if c == ':' && standsAlone then s.takeValue
  else if c == '*' then s.takePart fun cursor => do
    let (name, cursor) ← readAnchor cursor.skip
    return (.reference name, false, cursor)
  else if c == '&' then s.takePart fun cursor => do
    let (name, cursor) ← readAnchor cursor.skip
    return (.anchor name, false, cursor)
  else if c == '!' then s.takePart fun cursor => do
    let (token, cursor) ← readTag s.inFlow cursor
    return (token, false, cursor)
  else if c == '|' && !s.inFlow then s.takeBlock bound true
  else if c == '>' && !s.inFlow then s.takeBlock bound false
  else if c == '\'' || c == '"' then s.takeQuoted bound c
  else if startsPlain s.inFlow c next then s.takePlain bound
  else s.cursor.unexpected

/-- Takes the tokens that are left, each of which is at least one character long. -/
def takeAll : Nat → Scanner → Scanner × Option Stop
  | 0, s => (s, none)
  | fuel + 1, s =>
      let s := s.skipSpace (fuel + 1)
      match s.dropStale with
      | .error stop => (s, some stop)
      | .ok s =>
          let s := s.closeBlocks s.cursor.column
          match s.cursor.peek with
          | none =>
              let s := s.closeBlocks (-1)
              match s.dropCandidate with
              | .error stop => (s, some stop)
              | .ok s => (s, none)
          | some c =>
              match s.takeToken (fuel + 1) c with
              | .error stop => (s, some stop)
              | .ok s => takeAll fuel s

end Scanner

def isAllowed (c : Char) : Bool :=
  let n := c.toNat
  n == 0x09 || n == 0x0A || n == 0x0D || (0x20 ≤ n && n ≤ 0x7E) || n == 0x85 ||
    (0xA0 ≤ n && n ≤ 0xFFFD && n != 0xFEFF) || 0x10000 ≤ n

/-- The tokens of a text, and why there are no more if it is not read to its end. -/
structure TokenList where
  lexemes : List Lexeme
  stop : Option Stop

def TokenList.ofText (cs : List Char) : TokenList :=
  let scanner := Scanner.start cs
  match scanner.cursor.rest.find? fun c => !isAllowed c with
  | some _ => ⟨[], some (.controlCharacter, scanner.cursor)⟩
  | none =>
      let (scanner, stop) := scanner.takeAll (cs.length + 1)
      ⟨scanner.read.reverse, stop⟩

end ClientGen.Yaml
