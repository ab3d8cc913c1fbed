import ClientGen.Json.Reader
import ClientGen.Yaml.Cursor

/-!
# YAML scalars

Reading the text of a scalar in each of its styles: plain, between single or double quotes, and as
a block. A single line end inside a scalar that is not literal is folded into a space, and of
several the first is dropped.
-/

namespace ClientGen.Yaml

open Text (ReadFault)

/-- The space between two parts of a scalar: blanks within a line, or the line ends between
lines. -/
structure Gap where
  blanks : List Char
  hasBreak : Bool
  firstBreak : List Char
  moreBreaks : List Char

namespace Gap

def none : Gap := ⟨[], false, [], []⟩

def text (gap : Gap) : List Char :=
  if !gap.hasBreak then gap.blanks
  else if gap.firstBreak == ['\n'] then
    if gap.moreBreaks.isEmpty then [' '] else gap.moreBreaks
  else gap.firstBreak ++ gap.moreBreaks

def withBreak (gap : Gap) (text : List Char) : Gap :=
  if gap.hasBreak then { gap with moreBreaks := gap.moreBreaks ++ text }
  else ⟨[], true, text, []⟩

def withBlank (gap : Gap) (c : Char) : Gap :=
  if gap.hasBreak then gap else { gap with blanks := gap.blanks ++ [c] }

end Gap

/-- Reads the space up to the next part of a scalar. A tab may not stand before the column
`indent` of a new line. -/
def readGap (indent : Nat) : Nat → Gap → Cursor → Except Stop (Gap × Cursor)
  | 0, gap, cursor => .ok (gap, cursor)
  | fuel + 1, gap, cursor =>
      match cursor.peek with
      | some c =>
          if isBlank c then
            if gap.hasBreak && cursor.column < indent && c == '\t' then
              cursor.fail .badIndentation
            else readGap indent fuel (gap.withBlank c) cursor.skip
          else if isBreak c then
            let (text, cursor) := cursor.takeBreak
            readGap indent fuel (gap.withBreak text) cursor
          else .ok (gap, cursor)
      | Option.none => .ok (gap, cursor)

def isFlowMark (c : Char) : Bool :=
  c == ',' || c == '[' || c == ']' || c == '\x7b' || c == '\x7d'

/-- Reads the characters of a plain scalar within a line; `read` holds those so far in reverse
order. -/
def plainRun (inFlow : Bool) : Nat → List Char → Cursor → Except Stop (List Char × Cursor)
  | 0, read, cursor => .ok (read, cursor)
  | fuel + 1, read, cursor =>
      match cursor.peek with
      | Option.none => .ok (read, cursor)
      | some c =>
          let next := cursor.peekNext
          if isBlank c || isBreak c then .ok (read, cursor)
          else if inFlow && c == ':' && (next.any fun n => isFlowMark n || n == '?') then
            cursor.fail (.unexpected ':')
          else if (c == ':' && Cursor.isBlankOrEnd next) || (inFlow && isFlowMark c) then
            .ok (read, cursor)
          else plainRun inFlow fuel (c :: read) cursor.skip

/-- Reads the lines of a plain scalar. Answers its text and whether the cursor has come to a new
line. -/
def plainFrom (inFlow : Bool) (indent : Nat) :
    Nat → List Char → Gap → Cursor → Except Stop (List Char × Bool × Cursor)
  | 0, read, gap, cursor => .ok (read.reverse, gap.hasBreak, cursor)
  | fuel + 1, read, gap, cursor =>
      if cursor.isAtDocumentMarker || cursor.peek == some '#' then
        .ok (read.reverse, gap.hasBreak, cursor)
      else
        match plainRun inFlow (fuel + 1) [] cursor with
        | .error stop => .error stop
        | .ok (run, after) =>
            let (read, gap) :=
              if run.isEmpty then (read, gap) else (run ++ gap.text.reverse ++ read, Gap.none)
            match after.peek with
            | Option.none => .ok (read.reverse, gap.hasBreak, after)
            | some c =>
                if !(isBlank c || isBreak c) then .ok (read.reverse, gap.hasBreak, after)
                else
                  match readGap indent (fuel + 1) gap after with
                  | .error stop => .error stop
                  | .ok (gap, after) =>
                      if !inFlow && after.column < indent then
                        .ok (read.reverse, gap.hasBreak, after)
                      else plainFrom inFlow indent fuel read gap after

/-- Reads a plain scalar that must be indented to the given column at least. Fewer than `bound`
characters are left. -/
def readPlain (bound : Nat) (inFlow : Bool) (indent : Nat) (cursor : Cursor) :
    Except Stop (List Char × Bool × Cursor) :=
  plainFrom inFlow indent bound [] Gap.none cursor

def readHex : Nat → Nat → Cursor → Except Stop (Nat × Cursor)
  | 0, value, cursor => .ok (value, cursor)
  | count + 1, value, cursor =>
      match cursor.peek.bind Json.hexValue? with
      | some digit => readHex count (value * 16 + digit) cursor.skip
      | Option.none => cursor.fail .badEscape

def simpleEscape? : Char → Option Char
  | '0' => some '\x00'
  | 'a' => some '\x07'
  | 'b' => some '\x08'
  | 't' => some '\t'
  | '\t' => some '\t'
  | 'n' => some '\n'
  | 'v' => some '\x0b'
  | 'f' => some '\x0c'
  | 'r' => some '\r'
  | 'e' => some '\x1b'
  | ' ' => some ' '
  | '"' => some '"'
  | '/' => some '/'
  | '\\' => some '\\'
  | 'N' => some '\x85'
  | '_' => some '\xa0'
  | 'L' => some '\u2028'
  | 'P' => some '\u2029'
  | _ => Option.none

def escapeWidth? : Char → Option Nat
  | 'x' => some 2
  | 'u' => some 4
  | 'U' => some 8
  | _ => Option.none

def readEscape (cursor : Cursor) : Except Stop (Char × Cursor) :=
  match cursor.peek with
  | Option.none => cursor.fail .unexpectedEnd
  | some letter =>
      match simpleEscape? letter, escapeWidth? letter with
      | some c, _ => .ok (c, cursor.skip)
      | Option.none, some width =>
          match readHex width 0 cursor.skip with
          | .error stop => .error stop
          | .ok (code, after) =>
              if code.isValidChar then .ok (Char.ofNat code, after) else cursor.fail .badEscape
      | Option.none, Option.none => cursor.fail .badEscape

/-- Reads the characters of a quoted scalar up to a blank, a line end or the closing quote. Answers
also whether a line end was escaped. -/
def quotedRun (quote : Char) :
    Nat → List Char → Cursor → Except Stop (List Char × Bool × Cursor)
  | 0, read, cursor => .ok (read, false, cursor)
  | fuel + 1, read, cursor =>
      match cursor.peek with
      | Option.none => .ok (read, false, cursor)
      | some c =>
          if isBlank c || isBreak c then .ok (read, false, cursor)
          else if c == quote then
            if quote == '\'' && cursor.peekNext == some '\'' then
              quotedRun quote fuel ('\'' :: read) (cursor.skipMany 2)
            else .ok (read, false, cursor)
          else if quote == '"' && c == '\\' then
            if cursor.peekNext.any isBreak then .ok (read, true, cursor.skip.takeBreak.2)
            else
              match readEscape cursor.skip with
              | .error stop => .error stop
              | .ok (c, cursor) => quotedRun quote fuel (c :: read) cursor
          else quotedRun quote fuel (c :: read) cursor.skip

def quotedFrom (quote : Char) : Nat → List Char → Cursor → Except Stop (List Char × Cursor)
  | 0, _, cursor => cursor.fail .unexpectedEnd
  | fuel + 1, read, cursor =>
      if cursor.isAtDocumentMarker || cursor.rest.isEmpty then cursor.fail .unexpectedEnd
      else
        match quotedRun quote (fuel + 1) read cursor with
        | .error stop => .error stop
        | .ok (read, escapedBreak, after) =>
            if after.peek == some quote && !escapedBreak then .ok (read.reverse, after.skip)
            else
              let gap : Gap := if escapedBreak then ⟨[], true, [], []⟩ else Gap.none
              match readGap 0 (fuel + 1) gap after with
              | .error stop => .error stop
              | .ok (gap, after) => quotedFrom quote fuel (gap.text.reverse ++ read) after

/-- Reads a quoted scalar after its opening quote. Fewer than `bound` characters are left. -/
def readQuoted (bound : Nat) (quote : Char) (cursor : Cursor) :
    Except Stop (List Char × Cursor) :=
  quotedFrom quote (bound + 1) [] cursor

inductive Chomping where
  | strip
  | clip
  | keep
  deriving DecidableEq, Repr

/-- Reads the marks after the sign of a block: how its end is treated and how far it is
indented. -/
def blockHeader (cursor : Cursor) : Except Stop (Chomping × Option Nat × Cursor) :=
  let chomping? (cursor : Cursor) : Option Chomping :=
    match cursor.peek with
    | some '+' => some .keep
    | some '-' => some .strip
    | _ => Option.none
  let digit? (cursor : Cursor) : Option Nat :=
    cursor.peek.bind fun c => if c.isDigit then some (c.toNat - '0'.toNat) else Option.none
  let checked (chomping : Chomping) (indent : Option Nat) (cursor : Cursor) :
      Except Stop (Chomping × Option Nat × Cursor) :=
    if indent == some 0 then cursor.fail .badIndentation else .ok (chomping, indent, cursor)
  match chomping? cursor with
  | some chomping =>
      match digit? cursor.skip with
      | some digit => checked chomping (some digit) (cursor.skipMany 2)
      | Option.none => .ok (chomping, Option.none, cursor.skip)
  | Option.none =>
      match digit? cursor with
      | some digit =>
          match chomping? cursor.skip with
          | some chomping => checked chomping (some digit) (cursor.skipMany 2)
          | Option.none => checked .clip (some digit) cursor.skip
      | Option.none => .ok (.clip, Option.none, cursor)

def skipToLineEnd (cursor : Cursor) : Cursor :=
  let cursor := cursor.skipWhile isBlank
  if cursor.peek == some '#' then cursor.skipWhile (!isBreak ·) else cursor

/-- Reads the indentation and the empty lines before a line of a block. `indent` is the column of
the block, zero while it is unknown; `widest` is the widest indentation seen. -/
def blockBreaks (indent : Nat) :
    Nat → Nat → List Char → Cursor → Except Stop (Nat × List Char × Cursor)
  | 0, widest, breaks, cursor => .ok (widest, breaks, cursor)
  | fuel + 1, widest, breaks, cursor =>
      let spaces := (cursor.rest.takeWhile (· == ' ')).length
      let count := if indent == 0 then spaces else min spaces (indent - cursor.column)
      let cursor := cursor.skipMany count
      let widest := max widest cursor.column
      if (indent == 0 || cursor.column < indent) && cursor.peek == some '\t' then
        cursor.fail .badIndentation
      else if cursor.peek.any isBreak then
        let (text, cursor) := cursor.takeBreak
        blockBreaks indent fuel widest (breaks ++ text) cursor
      else .ok (widest, breaks, cursor)

/-- Reads the lines of a block. `lineBreak` is the end of the line before, `breaks` the empty
lines since, and `wasBlank` tells whether that line began with a blank. -/
def blockLines (literal : Bool) (indent : Nat) :
    Nat → List Char → List Char → List Char → Bool → Cursor →
      Except Stop (List Char × List Char × List Char × Cursor)
  | 0, read, lineBreak, breaks, _, cursor => .ok (read, lineBreak, breaks, cursor)
  | fuel + 1, read, lineBreak, breaks, wasBlank, cursor =>
      if cursor.column != indent || cursor.rest.isEmpty then
        .ok (read, lineBreak, breaks, cursor)
      else
        let blank := cursor.peek.any isBlank
        let between :=
          if !literal && lineBreak == ['\n'] && !wasBlank && !blank then
            if breaks.isEmpty then [' '] else breaks
          else lineBreak ++ breaks
        let (line, after) := cursor.takeWhile (!isBreak ·)
        let (lineBreak, after) := after.takeBreak
        match blockBreaks indent (fuel + 1) 0 [] after with
        | .error stop => .error stop
        | .ok (_, breaks, after) =>
            blockLines literal indent fuel (line.reverse ++ between.reverse ++ read) lineBreak
              breaks blank after

/-- Reads a block after its sign. `parentIndent` is the column of the collection it stands in, or
-1. Fewer than `bound` characters are left. -/
def readBlock (bound : Nat) (literal : Bool) (parentIndent : Int) (cursor : Cursor) :
    Except Stop (List Char × Cursor) :=
  match blockHeader cursor with
  | .error stop => .error stop
  | .ok (chomping, increment, cursor) =>
      let cursor := skipToLineEnd cursor
      if !Cursor.isLineEnd cursor.peek then cursor.unexpected
      else
        let cursor := cursor.takeBreak.2
        let known : Nat := match increment with
          | some n => (max parentIndent 0).toNat + n
          | Option.none => 0
        match blockBreaks known bound 0 [] cursor with
        | .error stop => .error stop
        | .ok (widest, breaks, cursor) =>
            let indent :=
              if known == 0 then max (max widest (parentIndent + 1).toNat) 1 else known
            match blockLines literal indent bound [] [] breaks false cursor with
            | .error stop => .error stop
            | .ok (read, lineBreak, breaks, cursor) =>
                let read := if chomping == .strip then read else lineBreak.reverse ++ read
                let read := if chomping == .keep then breaks.reverse ++ read else read
                .ok (read.reverse, cursor)

end ClientGen.Yaml
