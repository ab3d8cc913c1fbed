import ClientGen.Json.Basic

/-!
# Writing JSON

The compact text of a value: no blank space, members in the order of their object, and in strings
escapes for the quote, the backslash and control characters only.
-/

namespace ClientGen.Json

def hexByte (n : Nat) : String :=
  String.ofList [Nat.digitChar (n / 16), Nat.digitChar (n % 16)]

def escapedChar (c : Char) : String :=
  if c = '"' then "\\\""
  else if c = '\\' then "\\\\"
  else if c = '\n' then "\\n"
  else if c = '\r' then "\\r"
  else if c = '\t' then "\\t"
  else if c.toNat < 0x20 then "\\u00" ++ hexByte c.toNat
  else c.toString

def stringText (s : String) : String :=
  s.toList.foldl (fun text c => text ++ escapedChar c) "\"" ++ "\""

mutual

def renderOnto (out : String) : Json → String
  | .null => out ++ "null"
  | .bool true => out ++ "true"
  | .bool false => out ++ "false"
  | .number n => out ++ n.text
  | .string s => out ++ stringText s
  | .array items => renderItems (out ++ "[") "" items ++ "]"
  | .object members => renderMembers (out ++ "\x7b") "" members ++ "\x7d"

/-- Appends the items of an array, the first after the given separator and the others after
commas. -/
def renderItems (out separator : String) : List Json → String
  | [] => out
  | item :: rest => renderItems (renderOnto (out ++ separator) item) "," rest

def renderMembers (out separator : String) : List (String × Json) → String
  | [] => out
  | (key, value) :: rest =>
      renderMembers (renderOnto (out ++ separator ++ stringText key ++ ":") value) "," rest

end

def render (value : Json) : String :=
  renderOnto "" value

end ClientGen.Json
