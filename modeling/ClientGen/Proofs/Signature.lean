import ClientGen.Proofs.NameCapture
import ClientGen.Proofs.TypeScope
import ClientGen.Proofs.UrlTemplate

/-!
# Signature and body

The parameters of a function and its body are put together from one operation, but apart from each
other. They agree: the body sends a query or a payload exactly if there is a parameter for it, it
uses the base URL exactly if the module declares it, and what fills the path are parameters.
-/

namespace ClientGen

namespace TypeScript

namespace Expression

mutual

/-- An expression and everything inside of it. -/
@[simp] def parts : Expression → List Expression
  | .name text => [.name text]
  | .literal text => [.literal text]
  | .template holes ending => .template holes ending :: partsOfHoles holes
  | .property owner key => .property owner key :: parts owner
  | .call callee type arguments =>
      .call callee type arguments :: (parts callee ++ partsOf arguments)
  | .construct callee arguments =>
      .construct callee arguments :: (parts callee ++ partsOf arguments)
  | .await promise => .await promise :: parts promise
  | .object members => .object members :: partsOfMembers members
  | .fallback value other => .fallback value other :: (parts value ++ parts other)
  | .cast value type => .cast value type :: parts value
  | .conditional condition yes no =>
      .conditional condition yes no :: (parts condition ++ parts yes ++ parts no)

@[simp] def partsOf : List Expression → List Expression
  | [] => []
  | expression :: rest => parts expression ++ partsOf rest

@[simp] def partsOfHoles : List (String × Expression) → List Expression
  | [] => []
  | (_, expression) :: rest => parts expression ++ partsOfHoles rest

@[simp] def partsOfMembers : List (MemberLabel × Expression) → List Expression
  | [] => []
  | (_, value) :: rest => parts value ++ partsOfMembers rest

end

end Expression

@[simp] def Statement.value : Statement → Expression
  | .declaration _ value => value
  | .answer value => value

def expressions (body : List Statement) : List Expression :=
  body.flatMap fun statement => statement.value.parts

/-- Some object literal of a body has a member. -/
def HasEntry (body : List Statement) (label : MemberLabel) (value : Expression) : Prop :=
  ∃ members, .object members ∈ expressions body ∧ (label, value) ∈ members

namespace TypeExpr

theorem isVoid_iff (type : TypeExpr) : type.isVoid = true ↔ type = .void := by
  cases type <;> simp [isVoid, void]

end TypeExpr

end TypeScript

namespace Operation

open TypeScript (Expression HasEntry MemberLabel Statement expressions isReserved
  sanitizeIdentifier)

/-! ## What a body does -/

/-- A body hands the query to the client: as `params` to `axios`, as search parameters to
`fetch`. -/
def SendsQuery : Client → List Statement → Prop
  | .axios, body => HasEntry body (.key "params") (.name "query")
  | .fetch, body => ∃ value, .construct (.name "URLSearchParams") [value] ∈ expressions body ∧
      "query" ∈ value.names

/-- A body hands the payload to the client: as `data` to `axios`, as `body` to `fetch`. -/
def SendsPayload : Client → List Statement → Prop
  | .axios, body => HasEntry body (.key "data") (.name "body")
  | .fetch, body => HasEntry body .shorthand (.name "body") ∨
      ∃ value, HasEntry body (.key "body") value ∧ "body" ∈ value.names

/-- A body uses the base URL: as an option of `axios`, in front of the URL for `fetch`. -/
def UsesBaseUrl : Client → List Statement → Prop
  | .axios, body => HasEntry body .shorthand (.name "baseURL")
  | .fetch, body => ∃ holes ending,
      .declaration "url" (.template (("", .name "baseURL") :: holes) ending) ∈ body

/-- A body answers the response as JSON. -/
def ReadsResponse (body : List Statement) : Prop :=
  .answer (.call (.property (.name "response") "json") none []) ∈ body

namespace Call

theorem mem_entryIf_iff {condition : Bool} {label : MemberLabel} {value : String}
    {entry : MemberLabel × Expression} :
    entry ∈ entryIf condition label value ↔ condition = true ∧ entry = (label, .name value) := by
  cases condition <;> simp [entryIf]

variable (call : Call)

/-- The options of the request are the one object literal in a body for `axios`. -/
theorem hasEntry_axios_iff {label : MemberLabel} {value : Expression} :
    HasEntry (call.statements .axios) label value ↔
      (label, value) ∈ entryIf call.hasBaseUrl .shorthand "baseURL" ++
        [(.shorthand, .name "url"), call.methodEntry] ++
        entryIf call.hasQuery (.key "params") "query" ++
        entryIf call.payload.isSome (.key "data") "body" ++ [optionsEntry] := by
  -- Each choice of parts makes a fixed list of statements.
  simp only [HasEntry, expressions, statements, axiosStatements]
  cases call.hasQuery <;> cases call.hasBaseUrl <;> cases call.payload <;>
    simp [entryIf, methodEntry, optionsEntry]

/-- In a body for `fetch`, the headers of a value that is sent as JSON are an object literal
inside of the options; the one that stands for a missing query is empty. -/
theorem hasEntry_fetch_iff {label : MemberLabel} {value : Expression} :
    HasEntry (call.statements .fetch) label value ↔
      (label, value) ∈ [call.methodEntry] ++ fetchEntries call.payload ++ [optionsEntry] ∨
        call.payload = some .json ∧
          (label, value) = (.key (TypeScript.quoteIfNeeded "Content-Type"),
            .literal "application/json") := by
  simp only [HasEntry, expressions, statements, fetchStatements, fetchUrl]
  cases call.hasQuery <;> cases call.hasBaseUrl <;> cases call.answersBody <;>
    rcases call.payload with _ | (_ | _) <;>
    simp [fetchEntries, methodEntry, optionsEntry, searchText, searchSuffix]

theorem sendsQuery_iff (client : Client) :
    SendsQuery client (call.statements client) ↔ call.hasQuery = true := by
  cases client with
  | axios =>
      rw [SendsQuery, hasEntry_axios_iff]
      simp [mem_entryIf_iff, methodEntry, optionsEntry]
  | fetch =>
      simp only [SendsQuery, expressions, statements, fetchStatements, fetchUrl]
      cases call.hasQuery <;> cases call.hasBaseUrl <;> cases call.answersBody <;>
        rcases call.payload with _ | (_ | _) <;>
        simp [fetchEntries, methodEntry, optionsEntry, searchText, searchSuffix, Expression.names,
          Expression.namesOfMembers]

theorem sendsPayload_iff (client : Client) :
    SendsPayload client (call.statements client) ↔ call.payload.isSome = true := by
  cases client with
  | axios =>
      rw [SendsPayload, hasEntry_axios_iff]
      simp [mem_entryIf_iff, methodEntry, optionsEntry]
  | fetch =>
      simp only [SendsPayload, hasEntry_fetch_iff]
      rcases call.payload with _ | (_ | _) <;>
        simp [fetchEntries, methodEntry, optionsEntry, Expression.names, Expression.namesOf]

theorem usesBaseUrl_iff (client : Client) :
    UsesBaseUrl client (call.statements client) ↔ call.hasBaseUrl = true := by
  cases client with
  | axios =>
      rw [UsesBaseUrl, hasEntry_axios_iff]
      simp [mem_entryIf_iff, methodEntry, optionsEntry]
  | fetch =>
      simp only [UsesBaseUrl, statements, fetchStatements, fetchUrl]
      cases call.hasQuery <;> cases call.hasBaseUrl <;> cases call.answersBody <;>
        simp [searchSuffix]

theorem readsResponse_iff :
    ReadsResponse (call.statements .fetch) ↔ call.answersBody = true := by
  simp only [ReadsResponse, statements, fetchStatements, fetchUrl]
  cases call.hasQuery <;> cases call.answersBody <;> simp

end Call

/-! ## What a function takes -/

open Document (Parameter)

theorem names_fieldsOf (site : Site) (parameters : List Parameter) (sent : Option Payload) :
    (fieldsOf site parameters sent).map (·.name) =
      pathNames site parameters ++
        Call.memberIf (!(queryMembers parameters).isEmpty) "query" ++
        Call.memberIf sent.isSome "body" := by
  have query : (queryField (queryMembers parameters)).map (·.name) =
      Call.memberIf (!(queryMembers parameters).isEmpty) "query" := by
    cases queryMembers parameters <;> rfl
  have payload : (payloadField sent).map (·.name) = Call.memberIf sent.isSome "body" := by
    cases sent <;> rfl
  rw [fieldsOf, List.map_append, List.map_append, query, payload, List.map_map]
  rfl

/-- A reserved name is the name of a parameter only if the query, the payload or the options have
it: what the path is filled with has other names. -/
theorem mem_names_iff_of_isReserved {settings : Settings} {site : Site}
    {parameters : List Parameter} {sent : Option Payload} {name : String}
    (reserved : isReserved name = true) :
    name ∈ (parameterList settings (fieldsOf site parameters sent)).map (·.name) ↔
      (queryMembers parameters).isEmpty = false ∧ name = "query" ∨
        sent.isSome = true ∧ name = "body" ∨ name = "config" := by
  have apart : name ∉ pathNames site parameters := by
    intro inPath
    rw [isReserved_of_mem_pathNames inPath] at reserved
    cases reserved
  rw [(perm_names_parameterList settings _).mem_iff, names_fieldsOf]
  simp [apart, Call.mem_memberIf_iff]

/-- No placeholder is left without a field. -/
theorem exists_field_of_mem {fields : List (String × Graph.Field)} {names : List String}
    {name : String} (wanted : (∃ field, (name, field) ∈ fields) ∨ name ∈ names) :
    ∃ field, (name, field) ∈ addPlaceholders fields names := by
  induction names generalizing fields with
  | nil => exact wanted.resolve_right List.not_mem_nil
  | cons first rest ih =>
      rw [addPlaceholders]
      split
      · rename_i filled
        -- Nothing is added for `first`, because a field has its name already.
        apply ih
        rcases wanted with given | listed
        · exact .inl given
        · rcases List.mem_cons.mp listed with rfl | later
          · obtain ⟨⟨_, field⟩, member, same⟩ := List.any_eq_true.mp filled
            obtain rfl := beq_iff_eq.mp same
            exact .inl ⟨field, member⟩
          · exact .inr later
      · apply ih
        rcases wanted with ⟨field, given⟩ | listed
        · exact .inl ⟨field, List.mem_append_left _ given⟩
        · rcases List.mem_cons.mp listed with rfl | later
          · exact .inl ⟨_, List.mem_append_right _ (List.mem_singleton.mpr rfl)⟩
          · exact .inr later

theorem sanitizeIdentifier_mem_pathNames {site : Site} {parameters : List Parameter} {name : String}
    (inside : InBraces name site.path) : sanitizeIdentifier name ∈ pathNames site parameters := by
  obtain ⟨field, listed⟩ : ∃ field, (name, field) ∈ pathFields site.path parameters :=
    exists_field_of_mem (.inr inside.mem_placeholders)
  rw [← name_of_mem_pathFields _ listed]
  exact List.mem_map.mpr ⟨_, listed, rfl⟩

/-! ## Agreement -/

/-- The body of a function agrees with its parameters, with the variables of its graph and with the
response of its operation. -/
structure Agrees (client : Client) (graph : Graph) (site : Site) (call : Call)
    (function : Graph.Function) : Prop where
  body : function.body = (call.statements client).map Statement.print
  query : SendsQuery client (call.statements client) ↔
    "query" ∈ function.parameters.map (·.name)
  payload : SendsPayload client (call.statements client) ↔
    "body" ∈ function.parameters.map (·.name)
  baseUrl : UsesBaseUrl client (call.statements client) ↔
    "baseURL" ∈ graph.bindings.map (·.name)
  url : Filled (fun placeholder name =>
      name = sanitizeIdentifier placeholder ∧ name ∈ function.parameters.map (·.name))
    (Text.replace "\x60" "\\\x60" site.path) call.url
  placeholders : ∀ name, InBraces name site.path →
    sanitizeIdentifier name ∈ function.parameters.map (·.name)
  response : client = .fetch →
    (ReadsResponse (call.statements client) ↔ responseType site.operation ≠ .void)

theorem baseUrl_mem_iff (settings : Settings) :
    "baseURL" ∈ (Graph.baseUrlVariable settings).map (·.name) ↔ settings.baseUrl.isSome = true := by
  unfold Graph.baseUrlVariable
  cases settings.baseUrl <;> simp

theorem Built.agrees {document : Document} {settings : Settings} {site : Site}
    {parameters : List Parameter} {sent : Option Payload} {function : Graph.Function} {graph : Graph}
    (built : Built document settings site parameters sent function)
    (bindings : graph.bindings = Graph.baseUrlVariable settings) :
    Agrees settings.client graph site
      (callOf settings (Graph.envelopeOf settings) site parameters sent) function := by
  obtain rfl := built.function
  have takes : ∀ name ∈ pathNames site parameters,
      name ∈ (parameterList settings (fieldsOf site parameters sent)).map (·.name) := by
    intro name inPath
    rw [(perm_names_parameterList settings _).mem_iff, names_fieldsOf]
    simp [inPath]
  constructor
  case body => exact (Call.print_statements _ _).symm
  case query =>
    rw [Call.sendsQuery_iff, assemble, mem_names_iff_of_isReserved (by decide)]
    simp [callOf]
  case payload =>
    rw [Call.sendsPayload_iff, assemble, mem_names_iff_of_isReserved (by decide)]
    simp [callOf]
  case baseUrl =>
    rw [Call.usesBaseUrl_iff, bindings, baseUrl_mem_iff]
    rfl
  case url =>
    apply filled_urlTemplate
    intro entry member
    obtain ⟨⟨placeholder, field⟩, listed, rfl⟩ := List.mem_map.mp member
    exact ⟨name_of_mem_pathFields _ listed, takes _ (List.mem_map.mpr ⟨_, listed, rfl⟩)⟩
  case placeholders => exact fun name inside => takes _ (sanitizeIdentifier_mem_pathNames inside)
  case response =>
    intro fetch
    rw [fetch, Call.readsResponse_iff, ne_eq, ← TypeScript.TypeExpr.isVoid_iff]
    simp [callOf]

/-- Every function of a parsed description agrees with its operation: it sends a query or a payload
exactly if it has a parameter for it, uses the base URL exactly if the graph declares it, fills the
path with its own parameters, one for each placeholder, and reads what `fetch` answers exactly if
there is a type for it. -/
theorem agrees_of_parse {client : Client} {record parsed : Record}
    (accepted : record.parse client = .ok parsed) :
    ∃ source document, record.source = some source ∧ Document.ofJson source = .ok document ∧
      List.Forall₂ (fun site function => ∃ parameters sent call,
        Built document (Graph.settings record.config.shaping document client) site parameters sent
          function ∧
        call = callOf (Graph.settings record.config.shaping document client)
          (Graph.envelopeOf (Graph.settings record.config.shaping document client)) site parameters
          sent ∧
        Agrees client parsed.graph site call function)
        (Graph.sites document) parsed.graph.functions := by
  obtain ⟨source, document, loaded, read, functions⟩ := Record.built_of_parse accepted
  obtain ⟨sameConfig, -, ⟨made, -, graph⟩⟩ := Record.parsedFrom_of_parse loaded read accepted
  have bindings : parsed.graph.bindings =
      Graph.baseUrlVariable (Graph.settings record.config.shaping document client) := by
    rw [graph, sameConfig]
    rfl
  refine ⟨source, document, loaded, read, functions.imp ?_⟩
  rintro site function ⟨parameters, sent, built⟩
  exact ⟨parameters, sent, _, built, rfl, built.agrees bindings⟩

end Operation

namespace Orders

/-- A description of one operation, with a placeholder that no parameter declares. -/
def source : Json :=
  .object [
    ("openapi", .string "3.0.0"),
    ("paths", .object [("/shops/\x7bshop-id\x7d/orders/\x7bno\x7d", .object [("put", .object [
      ("operationId", .string "putOrder"),
      ("parameters", .array [
        .object [("name", .string "shop-id"), ("in", .string "path"), ("type", .string "string")],
        .object [("name", .string "dry"), ("in", .string "query"), ("type", .string "boolean")]]),
      ("requestBody", .object [("content", .object [
        ("application/json", .object [("schema", .object [("type", .string "string")])])])]),
      ("responses", .object [("200", .object [("content", .object [
        ("application/json", .object [
          ("schema", .object [("type", .string "string")])])])])])])])])]

def text : Schema :=
  .node { Schema.Keywords.none with type := some (.one "string") } none none none none none none

def content : List (String × Document.MediaType) := [("application/json", ⟨some text⟩)]

def shop : Document.Parameter :=
  ⟨"shop-id", "path", false, none, none, some (.one "string"), none, none, none⟩

def dry : Document.Parameter :=
  ⟨"dry", "query", false, none, none, some (.one "boolean"), none, none, none⟩

def put : Document.Operation :=
  ⟨some "putOrder", none, none, false, [.inline shop, .inline dry],
    some (.inline ⟨false, none, content⟩), [("200", ⟨none, none, content⟩)]⟩

def item : Document.PathItem :=
  ⟨none, some put, none, none, none, none, none, []⟩

def site : Operation.Site :=
  ⟨"/shops/\x7bshop-id\x7d/orders/\x7bno\x7d", .put, item, put⟩

def document : Document where
  swagger := none
  openapi := some "3.0.0"
  info := ⟨none, none, none⟩
  host := none
  basePath := none
  schemes := []
  servers := []
  paths := [("/shops/\x7bshop-id\x7d/orders/\x7bno\x7d", item)]
  definitions := []
  parameters := []
  components := none

def start : Record :=
  { Record.new (.uri "orders.json") ⟨none, ⟨none, none⟩, Shaping.none, none⟩ [] with
    source := some source }

def settings (client : Client) : Operation.Settings :=
  Graph.settings Shaping.none document client

def sent : Operation.Payload := .json (.keyword "string") false

def call (client : Client) : Operation.Call :=
  Operation.callOf (settings client) (Graph.envelopeOf (settings client)) site [shop, dry]
    (some sent)

def function (client : Client) : Graph.Function :=
  Operation.assemble (settings client) (Graph.envelopeOf (settings client)) site [shop, dry]
    (some sent)

def parsed (client : Client) : Record :=
  { start with graph := Graph.assemble document Shaping.none client [function client] }

end Orders

namespace Operation

/-- The function of `fetch` that puts an order sends its query and its order, and reads the
answer. -/
theorem agrees_order :
    Agrees .fetch (Orders.parsed .fetch).graph Orders.site (Orders.call .fetch)
        (Orders.function .fetch) ∧
      SendsQuery .fetch ((Orders.call .fetch).statements .fetch) ∧
      SendsPayload .fetch ((Orders.call .fetch).statements .fetch) ∧
      UsesBaseUrl .fetch ((Orders.call .fetch).statements .fetch) ∧
      ReadsResponse ((Orders.call .fetch).statements .fetch) := by
  have accepted : Orders.start.parse .fetch = .ok (Orders.parsed .fetch) := by rfl
  have names : (Orders.function .fetch).parameters.map (·.name) =
      ["shopId", "no", "query", "body", "config"] := by decide
  obtain ⟨source, document, loaded, read, functions⟩ := agrees_of_parse accepted
  obtain rfl : Orders.source = source := Option.some.inj loaded
  obtain rfl : Orders.document = document := Except.ok.inj read
  cases functions with
  | cons single _ =>
      obtain ⟨parameters, sent, call, built, rfl, agrees⟩ := single
      obtain rfl : [Orders.shop, Orders.dry] = parameters := Except.ok.inj built.merged
      obtain rfl : some Orders.sent = sent := Except.ok.inj built.payload
      refine ⟨agrees, ?_, ?_, ?_, ?_⟩
      · exact agrees.query.mpr (by rw [names]; decide)
      · exact agrees.payload.mpr (by rw [names]; decide)
      · exact agrees.baseUrl.mpr (by decide)
      · exact (agrees.response rfl).mpr (mt (TypeScript.TypeExpr.isVoid_iff _).mpr (by decide))

end Operation

end ClientGen
