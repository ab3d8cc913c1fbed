import ClientGen.Client
import ClientGen.Document.Basic
import ClientGen.Text.Replace
import ClientGen.TypeScript.Literal

/-!
# Calls

The body of a generated function, line by line: it puts the URL together, sends the request
through the client, and answers the response.
-/

namespace ClientGen.Operation

/-- What a request sends besides the URL and the query. -/
inductive PayloadKind where
  | json
  | form
  deriving DecidableEq, Repr

structure Call where
  method : Method
  url : String
  hasQuery : Bool
  payload : Option PayloadKind
  responseType : String
  answersBody : Bool
  hasBaseUrl : Bool
  deriving DecidableEq, Repr

namespace Call

def templateLiteral (text : String) : String :=
  "\x60" ++ text ++ "\x60"

def objectLiteral (members : List String) : String :=
  "\x7b " ++ Text.join ", " members ++ " \x7d"

def methodMember (call : Call) : String :=
  "method: " ++ TypeScript.quote (String.ofList (call.method.name.toList.map Char.toUpper))

def memberIf (condition : Bool) (member : String) : List String :=
  if condition then [member] else []

def axiosLines (call : Call) : List String :=
  let members :=
    memberIf call.hasBaseUrl "baseURL" ++ ["url", call.methodMember] ++
      memberIf call.hasQuery "params: query" ++ memberIf call.payload.isSome "data: body" ++
      ["...config"]
  ["const url = " ++ templateLiteral call.url,
    "return http.request<" ++ call.responseType ++ ">(" ++ objectLiteral members ++ ")"]

def fetchPayload : Option PayloadKind → List String
  | some .json => [
      "headers: " ++ objectLiteral
        [TypeScript.quoteIfNeeded "Content-Type" ++ ": " ++
          TypeScript.quote "application/json"],
      "body: JSON.stringify(body)"]
  | some .form => ["body"]
  | none => []

def fetchLines (call : Call) : List String :=
  let base := if call.hasBaseUrl then "$\x7bbaseURL\x7d" else ""
  let urlLines :=
    if call.hasQuery then [
      "const search = new URLSearchParams((query ?? \x7b\x7d) as Record<string, string>)" ++
        ".toString()",
      "const url = " ++ templateLiteral
        (base ++ call.url ++ "$\x7bsearch ? " ++ templateLiteral "?$\x7bsearch\x7d" ++ " : ''\x7d")]
    else ["const url = " ++ templateLiteral (base ++ call.url)]
  let members := [call.methodMember] ++ fetchPayload call.payload ++ ["...config"]
  urlLines ++ ["const response = await fetch(url, " ++ objectLiteral members ++ ")"] ++
    memberIf call.answersBody "return response.json()"

def lines (call : Call) : Client → List String
  | .axios => call.axiosLines
  | .fetch => call.fetchLines

end Call

end ClientGen.Operation
