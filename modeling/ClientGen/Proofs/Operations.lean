import ClientGen.Record
import Mathlib.Data.List.Forall2

/-!
# From documents to graphs

What a successful reading of an API description consists of: the document behind the record, the
functions of the graph as one function for each operation, and each function as put together from
the merged parameters and the payload of its operation.
-/

namespace ClientGen

open TypeScript (TypeExpr Member)

namespace Operation

open Document (Parameter Fault)

def callOf (settings : Settings) (envelope : Graph.Envelope) (site : Site)
    (parameters : List Parameter) (payload : Option Payload) : Call where
  method := site.method
  url := urlTemplate site.path
    ((pathFields site.path parameters).map fun (name, field) => (name, field.name))
  hasQuery := !(queryMembers parameters).isEmpty
  payload := payload.map fun payload => if payload.isJson then .json else .form
  responseType := envelope.bodyType (responseType site.operation).text
  answersBody := !(responseType site.operation).isVoid
  hasBaseUrl := settings.baseUrl.isSome

/-- The fields that an operation asks for, in the order in which they are collected. -/
def fieldsOf (site : Site) (parameters : List Parameter) (payload : Option Payload) :
    List Graph.Field :=
  (pathFields site.path parameters).map (·.2) ++ queryField (queryMembers parameters) ++
    payloadField payload

/-- The function for an operation with the given merged parameters and payload. -/
def assemble (settings : Settings) (envelope : Graph.Envelope) (site : Site)
    (parameters : List Parameter) (payload : Option Payload) : Graph.Function where
  name := site.name
  description := site.docs
  parameters := parameterList settings (fieldsOf site parameters payload)
  returnType := some (envelope.wrap (responseType site.operation).text)
  body := (callOf settings envelope site parameters payload).lines settings.client
  isAsync := settings.client == .fetch

/-- A function is built exactly when the parameters and the payload of its operation are found. -/
theorem function_eq_ok_iff (document : Document) (settings : Settings) (envelope : Graph.Envelope)
    (site : Site) (built : Graph.Function) :
    function document settings envelope site = .ok built ↔
      ∃ parameters found, mergedParameters document site.item site.operation = .ok parameters ∧
        payload document parameters site.operation = .ok found ∧
        built = assemble settings envelope site parameters found := by
  unfold function
  cases merged : mergedParameters document site.item site.operation with
  | error fault =>
      simp only [bind, Except.bind, reduceCtorEq, false_and, exists_false]
  | ok parameters =>
      simp only [bind, Except.bind, Except.ok.injEq, exists_and_left, exists_eq_left']
      cases found : payload document parameters site.operation with
      | error fault => simp
      | ok sent =>
          simp only [pure, Except.pure, Except.ok.injEq, exists_eq_left']
          exact eq_comm

end Operation

namespace Graph

open Operation (Settings Site)
open Document (Fault)

/-- Every function of the graph is the function of its operation, in the order of operations. -/
theorem functionsOf_forall₂ {document : Document} {settings : Settings} {envelope : Envelope}
    {taken : List String} {sites : List Site} {functions : List Function}
    (built : functionsOf document settings envelope taken sites = .ok functions) :
    List.Forall₂ (fun site function =>
      Operation.function document settings envelope site = .ok function) sites functions := by
  induction sites generalizing taken functions with
  | nil =>
      cases built
      exact .nil
  | cons site rest ih =>
      rw [functionsOf] at built
      cases first : Operation.function document settings envelope site with
      | error fault =>
          rw [first] at built
          cases built
      | ok function =>
          rw [first] at built
          dsimp only at built
          split at built
          · cases built
          · cases others : functionsOf document settings envelope (function.name :: taken) rest with
            | error fault =>
                rw [others] at built
                cases built
            | ok functions =>
                rw [others] at built
                cases built
                exact .cons first (ih others)

def declarations (document : Document) : List Schema.Declaration :=
  document.schemas.map fun (name, schema) => schema.declare name

def assemble (document : Document) (shaping : Shaping) (client : Client)
    (functions : List Function) : Graph where
  comments := headerLines document.info
  functions := functions
  imports := client.imports (settings shaping document client).httpModule
  bindings := baseUrlVariable (settings shaping document client)
  aliases := aliasesIn (declarations document)
  interfaces := interfacesIn (declarations document)
  envelope := envelopeOf (settings shaping document client)

/-- A graph is built exactly when its functions are. -/
theorem ofDocument_eq_ok_iff (document : Document) (shaping : Shaping) (client : Client)
    (graph : Graph) :
    ofDocument document shaping client = .ok graph ↔
      ∃ functions,
        functionsOf document (settings shaping document client)
          (envelopeOf (settings shaping document client)) [] (sites document) = .ok functions ∧
        graph = assemble document shaping client functions := by
  unfold ofDocument
  cases built : functionsOf document (settings shaping document client)
      (envelopeOf (settings shaping document client)) [] (sites document) with
  | error fault => simp [bind, Except.bind, built]
  | ok functions =>
      simp only [bind, Except.bind, built, pure, Except.pure, Except.ok.injEq, exists_eq_left']
      exact eq_comm

end Graph

/-- A record is parsed exactly when its description is a document whose graph can be built; only
the graph of the record changes. -/
theorem Record.parse_eq_ok_iff (client : Client) (record parsed : Record) :
    record.parse client = .ok parsed ↔
      ∃ source document graph, record.source = some source ∧
        Document.ofJson source = .ok document ∧
        Graph.ofDocument document record.config.shaping client = .ok graph ∧
        parsed = { record with graph := graph } := by
  unfold parse
  cases record.source with
  | none => simp
  | some source =>
      cases read : Document.ofJson source with
      | error reason => simp [read]
      | ok document =>
          cases built : Graph.ofDocument document record.config.shaping client with
          | error fault => simp [read, built]
          | ok graph =>
              simp only [Option.some.injEq, Except.ok.injEq, exists_and_left, exists_eq_left',
                read, built]
              exact eq_comm

end ClientGen
