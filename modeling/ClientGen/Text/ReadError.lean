/-!
# Errors of text formats

What can be wrong with a text that should hold a value of one of the supported formats, and the
line at which reading stopped. The kind and the line are what counts; the words are few, and no
column is kept.
-/

namespace ClientGen.Text

/-- The causes for which a text is refused. -/
inductive ReadFault where
  | unexpectedEnd
  | unexpected (c : Char)
  | badEscape
  | controlCharacter
  | badNumber
  | numberTooLarge
  | tooDeep
  | trailingText
  | badIndentation
  | badTag
  | badDirective
  | unknownAnchor (name : String)
  | severalDocuments
  | keyNotText
  | repeatedKey (key : String)
  | keyNotTable (key : String)
  deriving DecidableEq, Repr

def ReadFault.describe : ReadFault → String
  | .unexpectedEnd => "unexpected end of text"
  | .unexpected c => "unexpected character " ++ String.ofList ['\'', c, '\'']
  | .badEscape => "invalid escape"
  | .controlCharacter => "control character in a string"
  | .badNumber => "invalid number"
  | .numberTooLarge => "number out of range"
  | .tooDeep => "nesting limit exceeded"
  | .trailingText => "text after the end of the value"
  | .badIndentation => "invalid indentation"
  | .badTag => "invalid tag"
  | .badDirective => "invalid directive"
  | .unknownAnchor name => "unknown anchor " ++ name
  | .severalDocuments => "more than one document"
  | .keyNotText => "a key must be a string"
  | .repeatedKey key => "duplicate key " ++ key
  | .keyNotTable key => "not a table: " ++ key

/-- A cause and the place: how many lines had begun when reading stopped. -/
structure ReadError where
  fault : ReadFault
  line : Nat
  deriving DecidableEq, Repr

/-- The error of a text of which the characters in `rest` were still to be read. -/
def ReadError.before (text rest : List Char) (fault : ReadFault) : ReadError :=
  ⟨fault, (text.take (text.length - rest.length)).count '\n' + 1⟩

def ReadError.message (e : ReadError) : String :=
  e.fault.describe ++ " at line " ++ toString e.line

end ClientGen.Text
