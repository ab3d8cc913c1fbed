import ClientGen.Proofs.BodySyntax
import ClientGen.Proofs.Identifier
import ClientGen.Proofs.Operations

/-!
# Name capture

The parameters of a function come from the API description and share a scope with the names of its
body. Reserved words keep them apart from most of these names, but not from all that a function of
`fetch` uses. The main statement says exactly when a function of a client is free of captures.
-/

namespace ClientGen

open TypeScript (Statement declaredNames freeNames sanitizeIdentifier isReserved)

namespace Operation

/-- The parameters of a function that do not come from the path. -/
def ownParameters : List String := ["query", "body", "config"]

/-- The names that a body takes from outside of its function. -/
def outsideNames (body : List Statement) : List String :=
  (freeNames body).filter fun name => !ownParameters.contains name

/-- A function and its parameters for the path leave the names of the body alone. -/
structure CaptureFree (body : List Statement) (function : String) (path : List String) : Prop where
  declared : ∀ name ∈ path, name ∉ declaredNames body
  outside : ∀ name ∈ path, name ∉ outsideNames body
  function : function ∉ outsideNames body

namespace Call

theorem declaredNames_axios (call : Call) :
    declaredNames (call.statements .axios) = ["url"] := rfl

theorem declaredNames_fetch (call : Call) :
    declaredNames (call.statements .fetch) =
      memberIf call.hasQuery "search" ++ ["url", "response"] := by
  simp only [statements, fetchStatements, fetchUrl]
  cases call.hasQuery <;> cases call.answersBody <;> rfl

theorem outsideNames_axios (call : Call) :
    outsideNames (call.statements .axios) = ["http"] ++ memberIf call.hasBaseUrl "baseURL" := by
  simp only [statements, axiosStatements]
  cases call.hasBaseUrl <;> cases call.hasQuery <;> cases call.payload <;> rfl

theorem outsideNames_fetch (call : Call) :
    outsideNames (call.statements .fetch) =
      memberIf call.hasQuery "URLSearchParams" ++ memberIf call.hasBaseUrl "baseURL" ++
        ["fetch"] ++ memberIf (call.payload == some .json) "JSON" := by
  simp only [statements, fetchStatements, fetchUrl]
  cases call.hasBaseUrl <;> cases call.hasQuery <;> cases call.answersBody <;>
    rcases call.payload with _ | (_ | _) <;> rfl

/-! ## Names that are not reserved -/

/-- The names that a body declares although no reserved word keeps them free. -/
def exposedLocals (call : Call) : Client → List String
  | .axios => []
  | .fetch => memberIf call.hasQuery "search" ++ ["response"]

/-- The names that a body takes from outside although no reserved word keeps them free. -/
def exposedOutside (call : Call) : Client → List String
  | .axios => []
  | .fetch => memberIf call.hasQuery "URLSearchParams" ++ ["fetch"] ++
      memberIf (call.payload == some .json) "JSON"

theorem ne_of_isReserved {name word : String} (free : isReserved name = false)
    (reserved : isReserved word = true) : name ≠ word := by
  rintro rfl
  rw [free] at reserved
  cases reserved

theorem mem_memberIf_iff {condition : Bool} {name member : String} :
    name ∈ memberIf condition member ↔ condition = true ∧ name = member := by
  cases condition <;> simp [memberIf]

theorem mem_declaredNames_iff (call : Call) (client : Client) {name : String}
    (free : isReserved name = false) :
    name ∈ declaredNames (call.statements client) ↔ name ∈ call.exposedLocals client := by
  have url : name ≠ "url" := ne_of_isReserved free (by decide)
  cases client with
  | axios => simp [declaredNames_axios, exposedLocals, url]
  | fetch => simp [declaredNames_fetch, exposedLocals, url]

theorem mem_outsideNames_iff (call : Call) (client : Client) {name : String}
    (free : isReserved name = false) :
    name ∈ outsideNames (call.statements client) ↔ name ∈ call.exposedOutside client := by
  have http : name ≠ "http" := ne_of_isReserved free (by decide)
  have base : name ≠ "baseURL" := ne_of_isReserved free (by decide)
  cases client with
  | axios => simp [outsideNames_axios, exposedOutside, mem_memberIf_iff, http, base]
  | fetch => simp [outsideNames_fetch, exposedOutside, mem_memberIf_iff, base]

/-- Names that are not reserved clash with the body in the exposed names only. -/
theorem captureFree_iff (call : Call) (client : Client) {function : String} {path : List String}
    (functionFree : isReserved function = false)
    (pathFree : ∀ name ∈ path, isReserved name = false) :
    CaptureFree (call.statements client) function path ↔
      (∀ name ∈ path, name ∉ call.exposedLocals client ∧ name ∉ call.exposedOutside client) ∧
        function ∉ call.exposedOutside client := by
  constructor
  · rintro ⟨declared, outside, own⟩
    refine ⟨fun name member => ⟨?_, ?_⟩, ?_⟩
    · exact mt (call.mem_declaredNames_iff client (pathFree name member)).mpr (declared name member)
    · exact mt (call.mem_outsideNames_iff client (pathFree name member)).mpr (outside name member)
    · exact mt (call.mem_outsideNames_iff client functionFree).mpr own
  · rintro ⟨clear, own⟩
    refine ⟨fun name member => ?_, fun name member => ?_, ?_⟩
    · exact mt (call.mem_declaredNames_iff client (pathFree name member)).mp (clear name member).1
    · exact mt (call.mem_outsideNames_iff client (pathFree name member)).mp (clear name member).2
    · exact mt (call.mem_outsideNames_iff client functionFree).mp own

end Call

/-! ## The names of functions and of their parameters -/

open Document (Parameter)

def pathNames (site : Site) (parameters : List Parameter) : List String :=
  (pathFields site.path parameters).map fun entry => entry.2.name

theorem isReserved_name (site : Site) : isReserved site.name = false := by
  unfold Site.name
  split
  · dsimp only
    split <;> exact TypeScript.isReserved_sanitizeIdentifier _
  · exact TypeScript.isReserved_sanitizeIdentifier _

theorem name_of_mem_addPlaceholders {fields : List (String × Graph.Field)} {names : List String}
    (named : ∀ entry ∈ fields, entry.2.name = sanitizeIdentifier entry.1) :
    ∀ entry ∈ addPlaceholders fields names, entry.2.name = sanitizeIdentifier entry.1 := by
  induction names generalizing fields with
  | nil => exact named
  | cons name rest ih =>
      rw [addPlaceholders]
      split
      · exact ih named
      · apply ih
        intro entry member
        rcases List.mem_append.mp member with old | new
        · exact named entry old
        · obtain rfl := List.mem_singleton.mp new
          rfl

theorem name_of_mem_pathFields {path : String} {parameters : List Parameter} :
    ∀ entry ∈ pathFields path parameters, entry.2.name = sanitizeIdentifier entry.1 := by
  apply name_of_mem_addPlaceholders
  intro entry given
  obtain ⟨parameter, -, rfl⟩ := List.mem_map.mp given
  rfl

theorem isReserved_of_mem_pathNames {site : Site} {parameters : List Parameter} {name : String}
    (member : name ∈ pathNames site parameters) : isReserved name = false := by
  obtain ⟨entry, listed, rfl⟩ := List.mem_map.mp member
  rw [name_of_mem_pathFields entry listed]
  exact TypeScript.isReserved_sanitizeIdentifier _

/-- A function takes the fields that its operation asks for, in some order, and the options. -/
theorem perm_names_parameterList (settings : Settings) (fields : List Graph.Field) :
    ((parameterList settings fields).map (·.name)).Perm (fields.map (·.name) ++ ["config"]) := by
  have names : ∀ given : List Graph.Field,
      ((requiredFirst given).map (·.name)).Perm (given.map (·.name)) := by
    intro given
    exact (List.filter_append_perm (fun field => field.isRequired) given).map (·.name)
  rw [parameterList, List.map_append]
  apply List.Perm.append_right
  split
  · apply (names _).trans
    rw [List.map_map]
    rfl
  · exact names fields

theorem mem_names_parameterList {settings : Settings} {fields : List Graph.Field}
    {field : Graph.Field} (member : field ∈ fields) :
    field.name ∈ (parameterList settings fields).map (·.name) := by
  apply (perm_names_parameterList settings fields).mem_iff.mpr
  exact List.mem_append_left _ (List.mem_map_of_mem member)

/-- A function is built for an operation from its merged parameters and its payload. -/
structure Built (document : Document) (settings : Settings) (site : Site)
    (parameters : List Parameter) (sent : Option Payload) (function : Graph.Function) : Prop where
  merged : mergedParameters document site.item site.operation = .ok parameters
  payload : payload document parameters site.operation = .ok sent
  function : function = assemble settings (Graph.envelopeOf settings) site parameters sent

end Operation

/-- What a record is parsed from, with one function for each operation of the document. -/
theorem Record.built_of_parse {client : Client} {record parsed : Record}
    (accepted : record.parse client = .ok parsed) :
    ∃ source document, record.source = some source ∧ Document.ofJson source = .ok document ∧
      List.Forall₂ (fun site function => ∃ parameters sent,
        Operation.Built document (Graph.settings record.config.shaping document client) site
          parameters sent function)
        (Graph.sites document) parsed.graph.functions := by
  obtain ⟨source, document, graph, loaded, read, built, rfl⟩ :=
    (Record.parse_eq_ok_iff client record parsed).mp accepted
  obtain ⟨functions, made, rfl⟩ := (Graph.ofDocument_eq_ok_iff document _ client graph).mp built
  refine ⟨source, document, loaded, read, (Graph.functionsOf_forall₂ made).imp ?_⟩
  intro site function single
  obtain ⟨parameters, sent, merged, found, same⟩ :=
    (Operation.function_eq_ok_iff document _ _ site function).mp single
  exact ⟨parameters, sent, merged, found, same⟩

namespace Operation

/-- In every client the parameters for the path and the name of the function keep clear of the
names of the body, but for the exposed names. There are none with `axios`; a function of `fetch` is
captured exactly by `response` and `fetch`, by `search` and `URLSearchParams` if it has a query,
and by `JSON` if it sends a value. -/
theorem captureFree_iff_of_parse {client : Client} {record parsed : Record}
    (accepted : record.parse client = .ok parsed) :
    ∃ source document, record.source = some source ∧ Document.ofJson source = .ok document ∧
      List.Forall₂ (fun site function => ∃ parameters sent call,
        Built document (Graph.settings record.config.shaping document client) site parameters sent
          function ∧
        call = callOf (Graph.settings record.config.shaping document client)
          (Graph.envelopeOf (Graph.settings record.config.shaping document client)) site parameters
          sent ∧
        function.body = (call.statements client).map Statement.print ∧
        (∀ name ∈ pathNames site parameters, name ∈ function.parameters.map (·.name)) ∧
        (CaptureFree (call.statements client) function.name (pathNames site parameters) ↔
          (∀ name ∈ pathNames site parameters,
            name ∉ call.exposedLocals client ∧ name ∉ call.exposedOutside client) ∧
          function.name ∉ call.exposedOutside client))
        (Graph.sites document) parsed.graph.functions := by
  obtain ⟨source, document, loaded, read, functions⟩ := Record.built_of_parse accepted
  refine ⟨source, document, loaded, read, functions.imp ?_⟩
  rintro site function ⟨parameters, sent, built⟩
  refine ⟨parameters, sent, _, built, rfl, ?_, ?_, ?_⟩
  · rw [built.function, Call.print_statements]
    rfl
  · intro name member
    obtain ⟨entry, listed, rfl⟩ := List.mem_map.mp member
    rw [built.function]
    apply mem_names_parameterList
    apply List.mem_append_left
    apply List.mem_append_left
    exact List.mem_map_of_mem listed
  · apply Call.captureFree_iff
    · rw [built.function]
      exact isReserved_name site
    · exact fun name => isReserved_of_mem_pathNames

end Operation

namespace Answers

/-- A description of one operation, whose path holds a name that functions of `fetch` declare. -/
def source : Json :=
  .object [
    ("openapi", .string "3.0.0"),
    ("paths", .object [("/answers/\x7bresponse\x7d", .object [("get", .object [
      ("operationId", .string "answer"),
      ("responses", .object [("200", .object [("content", .object [
        ("application/json", .object [
          ("schema", .object [("type", .string "string")])])])])])])])])]

def answer : Document.Operation :=
  ⟨some "answer", none, none, false, [], none,
    [("200", ⟨none, none, [("application/json", ⟨some (.node
      { Schema.Keywords.none with type := some (.one "string") }
      none none none none none none)⟩)]⟩)]⟩

def item : Document.PathItem :=
  ⟨some answer, none, none, none, none, none, none, []⟩

def document : Document where
  swagger := none
  openapi := some "3.0.0"
  info := ⟨none, none, none⟩
  host := none
  basePath := none
  schemes := []
  servers := []
  paths := [("/answers/\x7bresponse\x7d", item)]
  definitions := []
  parameters := []
  components := none

def site : Operation.Site :=
  ⟨"/answers/\x7bresponse\x7d", .get, item, answer⟩

def start : Record :=
  { Record.new (.uri "answers.json") ⟨none, ⟨none, none⟩, Shaping.none, none⟩ [] with
    source := some source }

def settings (client : Client) : Operation.Settings :=
  Graph.settings Shaping.none document client

def call (client : Client) : Operation.Call :=
  Operation.callOf (settings client) (Graph.envelopeOf (settings client)) site [] none

def function (client : Client) : Graph.Function :=
  Operation.assemble (settings client) (Graph.envelopeOf (settings client)) site [] none

def parsed (client : Client) : Record :=
  { start with graph := Graph.assemble document Shaping.none client [function client] }

end Answers

namespace Operation

/-- With `axios` a parameter called `response` is safe. -/
theorem captureFree_answer :
    CaptureFree ((Answers.call .axios).statements .axios) (Answers.function .axios).name
      ["response"] := by
  have accepted : Answers.start.parse .axios = .ok (Answers.parsed .axios) := by rfl
  obtain ⟨source, document, loaded, read, functions⟩ := captureFree_iff_of_parse accepted
  obtain rfl : Answers.source = source := Option.some.inj loaded
  obtain rfl : Answers.document = document := Except.ok.inj read
  cases functions with
  | cons single _ =>
      obtain ⟨parameters, sent, call, built, rfl, -, -, free⟩ := single
      obtain rfl : [] = parameters := Except.ok.inj built.merged
      obtain rfl : none = sent := Except.ok.inj built.payload
      exact free.mpr ⟨by simp [Call.exposedLocals, Call.exposedOutside], List.not_mem_nil⟩

/-- With `fetch` a parameter called `response` is declared again by the body of its function. -/
theorem not_captureFree_answer :
    Answers.start.parse .fetch = .ok (Answers.parsed .fetch) ∧
      (Answers.parsed .fetch).graph.functions = [Answers.function .fetch] ∧
      (Answers.function .fetch).body =
        ((Answers.call .fetch).statements .fetch).map Statement.print ∧
      (Answers.function .fetch).parameters.map (·.name) = ["response", "config"] ∧
      pathNames Answers.site [] = ["response"] ∧
      ¬ CaptureFree ((Answers.call .fetch).statements .fetch) (Answers.function .fetch).name
        (pathNames Answers.site []) := by
  refine ⟨by rfl, by rfl, by rfl, by rfl, by rfl, fun free => ?_⟩
  have kept : "response" ∉ declaredNames ((Answers.call .fetch).statements .fetch) :=
    free.declared "response" (List.mem_singleton.mpr rfl)
  rw [Call.declaredNames_fetch] at kept
  exact kept (by decide)

end Operation

end ClientGen
