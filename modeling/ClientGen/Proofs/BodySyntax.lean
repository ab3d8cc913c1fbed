import ClientGen.Operation.Call

/-!
# The syntax of function bodies

A body is a list of lines. Here the same lines are the printed form of statements, and the names
that a body declares and the names that it takes from outside are read off the statements, by the
scoping rules of the language. The path in a URL is a text of its own: its placeholders stand for
parameters of the function.
-/

namespace ClientGen

namespace TypeScript

/-- What stands before the value of a member of an object literal. -/
inductive MemberLabel where
  | shorthand
  | key (text : String)
  | spread

/-- An expression, as far as function bodies use them. A template consists of expressions, each
with the text before it, and the text at its end. -/
inductive Expression where
  | name (text : String)
  | literal (text : String)
  | template (holes : List (String × Expression)) (ending : String)
  | property (owner : Expression) (key : String)
  | call (callee : Expression) (type : Option String) (arguments : List Expression)
  | construct (callee : Expression) (arguments : List Expression)
  | await (promise : Expression)
  | object (members : List (MemberLabel × Expression))
  | fallback (value other : Expression)
  | cast (value : Expression) (type : String)
  | conditional (condition yes no : Expression)

/-- A statement of a function body. -/
inductive Statement where
  | declaration (name : String) (value : Expression)
  | answer (value : Expression)

/-! ## Printing -/

def MemberLabel.print : MemberLabel → String
  | .shorthand => ""
  | .key text => text ++ ": "
  | .spread => "..."

namespace Expression

mutual

def print : Expression → String
  | .name text => text
  | .literal text => quote text
  | .template holes ending => "\x60" ++ (printHoles holes ++ ending) ++ "\x60"
  | .property owner key => print owner ++ "." ++ key
  | .call callee none arguments => print callee ++ "(" ++ Text.join ", " (prints arguments) ++ ")"
  | .call callee (some type) arguments =>
      print callee ++ "<" ++ type ++ ">(" ++ Text.join ", " (prints arguments) ++ ")"
  | .construct callee arguments =>
      "new " ++ print callee ++ "(" ++ Text.join ", " (prints arguments) ++ ")"
  | .await promise => "await " ++ print promise
  | .object [] => "\x7b\x7d"
  | .object (member :: members) =>
      "\x7b " ++ Text.join ", " (printMembers (member :: members)) ++ " \x7d"
  | .fallback value other => print value ++ " ?? " ++ print other
  | .cast value type => "(" ++ print value ++ ") as " ++ type
  | .conditional condition yes no => print condition ++ " ? " ++ print yes ++ " : " ++ print no

def prints : List Expression → List String
  | [] => []
  | expression :: rest => print expression :: prints rest

/-- The text of a template up to the end of its last hole. -/
def printHoles : List (String × Expression) → String
  | [] => ""
  | (before, expression) :: rest =>
      before ++ "$\x7b" ++ print expression ++ "\x7d" ++ printHoles rest

def printMembers : List (MemberLabel × Expression) → List String
  | [] => []
  | (label, value) :: rest => (label.print ++ print value) :: printMembers rest

end

/-! ## Names -/

mutual

def names : Expression → List String
  | .name text => [text]
  | .literal _ => []
  | .template holes _ => namesOfHoles holes
  | .property owner _ => names owner
  | .call callee _ arguments => names callee ++ namesOf arguments
  | .construct callee arguments => names callee ++ namesOf arguments
  | .await promise => names promise
  | .object members => namesOfMembers members
  | .fallback value other => names value ++ names other
  | .cast value _ => names value
  | .conditional condition yes no => names condition ++ names yes ++ names no

def namesOf : List Expression → List String
  | [] => []
  | expression :: rest => names expression ++ namesOf rest

def namesOfHoles : List (String × Expression) → List String
  | [] => []
  | (_, expression) :: rest => names expression ++ namesOfHoles rest

def namesOfMembers : List (MemberLabel × Expression) → List String
  | [] => []
  | (_, value) :: rest => names value ++ namesOfMembers rest

end

end Expression

namespace Statement

def print : Statement → String
  | .declaration name value => "const " ++ name ++ " = " ++ value.print
  | .answer value => "return " ++ value.print

def declared? : Statement → Option String
  | .declaration name _ => some name
  | .answer _ => none

def names : Statement → List String
  | .declaration _ value => value.names
  | .answer value => value.names

end Statement

def declaredNames (body : List Statement) : List String :=
  body.filterMap Statement.declared?

/-- The names that a body uses without declaring them. -/
def freeNames (body : List Statement) : List String :=
  (body.flatMap Statement.names).filter fun name => !(declaredNames body).contains name

end TypeScript

namespace Operation.Call

open TypeScript (Expression Statement MemberLabel)

/-! ## Calls -/

def methodEntry (call : Call) : MemberLabel × Expression :=
  (.key "method", .literal (String.ofList (call.method.name.toList.map Char.toUpper)))

def entryIf (condition : Bool) (label : MemberLabel) (value : String) :
    List (MemberLabel × Expression) :=
  if condition then [(label, .name value)] else []

/-- The options of the call, which every request takes over. -/
def optionsEntry : MemberLabel × Expression :=
  (.spread, .name "config")

def axiosStatements (call : Call) : List Statement :=
  [.declaration "url" (.template [] call.url),
    .answer (.call (.property (.name "http") "request") (some call.responseType)
      [.object (entryIf call.hasBaseUrl .shorthand "baseURL" ++
        [(.shorthand, .name "url"), call.methodEntry] ++
        entryIf call.hasQuery (.key "params") "query" ++
        entryIf call.payload.isSome (.key "data") "body" ++ [optionsEntry])])]

/-- The members that send the payload through `fetch`. -/
def fetchEntries : Option PayloadKind → List (MemberLabel × Expression)
  | some .json =>
      [(.key "headers", .object [(.key (TypeScript.quoteIfNeeded "Content-Type"),
          .literal "application/json")]),
        (.key "body", .call (.property (.name "JSON") "stringify") none [.name "body"])]
  | some .form => [(.shorthand, .name "body")]
  | none => []

def searchText : Expression :=
  .call (.property (.construct (.name "URLSearchParams")
    [.cast (.fallback (.name "query") (.object [])) "Record<string, string>"]) "toString") none []

/-- The query behind a URL, unless it is empty. -/
def searchSuffix : Expression :=
  .conditional (.name "search") (.template [("?", .name "search")] "") (.literal "")

/-- The statements that put the URL together for `fetch`. -/
def fetchUrl (call : Call) : List Statement :=
  let base : List (String × Expression) :=
    if call.hasBaseUrl then [("", .name "baseURL")] else []
  if call.hasQuery then
    [.declaration "search" searchText,
      .declaration "url" (.template (base ++ [(call.url, searchSuffix)]) "")]
  else [.declaration "url" (.template base call.url)]

def fetchStatements (call : Call) : List Statement :=
  call.fetchUrl ++
    [.declaration "response" (.await (.call (.name "fetch") none
      [.name "url",
        .object ([call.methodEntry] ++ fetchEntries call.payload ++ [optionsEntry])]))] ++
    if call.answersBody then
      [.answer (.call (.property (.name "response") "json") none [])]
    else []

def statements (call : Call) : Client → List Statement
  | .axios => call.axiosStatements
  | .fetch => call.fetchStatements

theorem printMembers_append (first second : List (MemberLabel × Expression)) :
    Expression.printMembers (first ++ second) =
      Expression.printMembers first ++ Expression.printMembers second := by
  induction first with
  | nil => rfl
  | cons member rest ih =>
      obtain ⟨label, value⟩ := member
      simp only [List.cons_append, Expression.printMembers, ih]

theorem printMembers_entryIf (condition : Bool) (label : MemberLabel) (value : String) :
    Expression.printMembers (entryIf condition label value) =
      memberIf condition (label.print ++ value) := by
  cases condition <;> rfl

theorem print_object (members : List (MemberLabel × Expression)) (nonempty : members ≠ []) :
    (Expression.object members).print = objectLiteral (Expression.printMembers members) := by
  cases members with
  | nil => exact absurd rfl nonempty
  | cons member rest => rfl

theorem printMembers_methodEntry (call : Call) :
    Expression.printMembers [call.methodEntry] = [call.methodMember] := by
  simp only [methodEntry, methodMember, Expression.printMembers, Expression.print,
    MemberLabel.print, String.reduceAppend]

theorem print_axiosStatements (call : Call) :
    call.axiosStatements.map Statement.print = call.axiosLines := by
  have members : Expression.printMembers (entryIf call.hasBaseUrl .shorthand "baseURL" ++
        [(.shorthand, .name "url"), call.methodEntry] ++
        entryIf call.hasQuery (.key "params") "query" ++
        entryIf call.payload.isSome (.key "data") "body" ++ [optionsEntry]) =
      memberIf call.hasBaseUrl "baseURL" ++ ["url", call.methodMember] ++
        memberIf call.hasQuery "params: query" ++ memberIf call.payload.isSome "data: body" ++
        ["...config"] := by
    have url : [((.shorthand, .name "url") : MemberLabel × Expression), call.methodEntry] =
        [(.shorthand, .name "url")] ++ [call.methodEntry] := rfl
    rw [url]
    simp only [printMembers_append, printMembers_entryIf, printMembers_methodEntry]
    rfl
  simp only [axiosStatements, axiosLines, templateLiteral, List.map_cons, List.map_nil,
    Statement.print, Expression.print, Expression.prints, Expression.printHoles, Text.join]
  rw [print_object _ (by simp), members]
  simp only [← String.append_assoc, String.append_empty, String.reduceAppend]

theorem printMembers_fetchEntries (payload : Option PayloadKind) :
    Expression.printMembers (fetchEntries payload) = fetchPayload payload := by
  cases payload with
  | none => rfl
  | some kind =>
      cases kind with
      | json =>
          simp only [fetchEntries, fetchPayload, objectLiteral, Expression.printMembers,
            MemberLabel.print, Expression.print, Expression.prints, Text.join,
            String.reduceAppend]
      | form => rfl

theorem printHoles_append (first second : List (String × Expression)) :
    Expression.printHoles (first ++ second) =
      Expression.printHoles first ++ Expression.printHoles second := by
  induction first with
  | nil => simp [Expression.printHoles]
  | cons hole rest ih =>
      obtain ⟨before, expression⟩ := hole
      simp only [List.cons_append, Expression.printHoles, ih, String.append_assoc]

theorem print_template (holes : List (String × Expression)) (ending : String) :
    (Expression.template holes ending).print =
      templateLiteral (Expression.printHoles holes ++ ending) := by
  simp only [Expression.print, templateLiteral]

theorem printHoles_searchSuffix (url : String) :
    Expression.printHoles [(url, searchSuffix)] =
      url ++ "$\x7bsearch ? " ++ templateLiteral "?$\x7bsearch\x7d" ++ " : ''\x7d" := by
  have hole : "$\x7b" ++ searchSuffix.print ++ "\x7d" ++ "" =
      "$\x7bsearch ? " ++ templateLiteral "?$\x7bsearch\x7d" ++ " : ''\x7d" := by rfl
  rw [Expression.printHoles, Expression.printHoles]
  simp only [String.append_assoc] at hole ⊢
  rw [hole]

/-- The statements that put the URL together are the lines before the request. -/
theorem print_fetchUrl (call : Call) :
    call.fetchUrl.map Statement.print =
      let base := if call.hasBaseUrl then "$\x7bbaseURL\x7d" else ""
      if call.hasQuery then [
        "const search = new URLSearchParams((query ?? \x7b\x7d) as Record<string, string>)" ++
          ".toString()",
        "const url = " ++ templateLiteral
          (base ++ call.url ++ "$\x7bsearch ? " ++ templateLiteral "?$\x7bsearch\x7d" ++
            " : ''\x7d")]
      else ["const url = " ++ templateLiteral (base ++ call.url)] := by
  have base : Expression.printHoles
        (if call.hasBaseUrl then [("", Expression.name "baseURL")] else []) =
      if call.hasBaseUrl then "$\x7bbaseURL\x7d" else "" := by
    cases call.hasBaseUrl <;> rfl
  have search : (Statement.declaration "search" searchText).print =
      "const search = new URLSearchParams((query ?? \x7b\x7d) as Record<string, string>)" ++
        ".toString()" := by rfl
  have url (holes : List (String × Expression)) (ending : String) :
      (Statement.declaration "url" (.template holes ending)).print =
        "const url = " ++ templateLiteral (Expression.printHoles holes ++ ending) := by
    rw [Statement.print, print_template]
    rfl
  unfold fetchUrl
  dsimp only
  split
  · rw [List.map_cons, List.map_singleton, search, url, printHoles_append, base,
      printHoles_searchSuffix, String.append_empty]
    simp only [String.append_assoc]
  · rw [List.map_singleton, url, base]

theorem print_fetchStatements (call : Call) :
    call.fetchStatements.map Statement.print = call.fetchLines := by
  have members : Expression.printMembers
        ([call.methodEntry] ++ fetchEntries call.payload ++ [optionsEntry]) =
      [call.methodMember] ++ fetchPayload call.payload ++ ["...config"] := by
    simp only [printMembers_append, printMembers_methodEntry, printMembers_fetchEntries]
    rfl
  have response : (Statement.declaration "response" (.await (.call (.name "fetch") none
        [.name "url", .object ([call.methodEntry] ++ fetchEntries call.payload ++
          [optionsEntry])]))).print =
      "const response = await fetch(url, " ++ objectLiteral
        ([call.methodMember] ++ fetchPayload call.payload ++ ["...config"]) ++ ")" := by
    simp only [Statement.print, Expression.print, Expression.prints, Text.join]
    rw [print_object _ (by simp), members]
    simp only [← String.append_assoc, String.reduceAppend]
  have answer : (if call.answersBody then
        [Statement.answer (.call (.property (.name "response") "json") none [])]
      else []).map Statement.print = memberIf call.answersBody "return response.json()" := by
    cases call.answersBody <;> rfl
  rw [fetchStatements, List.map_append, List.map_append, print_fetchUrl, List.map_singleton,
    response, answer]
  rfl

/-- The lines of a body are its statements. -/
theorem print_statements (call : Call) (client : Client) :
    (call.statements client).map Statement.print = call.lines client := by
  cases client with
  | axios => exact print_axiosStatements call
  | fetch => exact print_fetchStatements call

end Operation.Call

end ClientGen
