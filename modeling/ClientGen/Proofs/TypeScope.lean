import ClientGen.Compile
import ClientGen.Proofs.Declaration
import ClientGen.Proofs.References

/-!
# Types in scope

The types of a generated client are annotations in its modules. When every reference of the
document ends in the key of a named schema, every name in these annotations is in scope of the
request module: the module declares it, or it imports it from the typings module, which then
declares and exports exactly the imported names.
-/

namespace ClientGen

open TypeScript (TypeExpr TypeSpec Member)

/-! ## The types that annotations are written from -/

/-- The types in the declarations, parameters and responses of a client: types of schemas, the
object of the query, the text of a placeholder, and the options of a call. -/
inductive WrittenType (document : Document) (client : Client) : TypeExpr → Prop where
  | declaration {name : String} {schema : Schema} : (name, schema) ∈ document.schemas →
      WrittenType document client schema.typeOf
  | property {name key : String} {schema child : Schema} {properties : List (String × Schema)} :
      (name, schema) ∈ document.schemas → schema.properties = some properties →
      (key, child) ∈ properties → WrittenType document client child.typeOf
  | parameter {site : Operation.Site} {parameters : List Document.Parameter}
      {parameter : Document.Parameter} : site ∈ Graph.sites document →
      Operation.mergedParameters document site.item site.operation = .ok parameters →
      parameter ∈ parameters → WrittenType document client parameter.valueSchema.typeOf
  | query {members : List (Member TypeExpr)} :
      (∀ member ∈ members, WrittenType document client member.type) →
      WrittenType document client (.object members)
  | placeholder : WrittenType document client (.keyword "string")
  | payload {site : Operation.Site} {parameters : List Document.Parameter}
      {sent : Operation.Payload} : site ∈ Graph.sites document →
      Operation.mergedParameters document site.item site.operation = .ok parameters →
      Operation.payload document parameters site.operation = .ok (some sent) →
      WrittenType document client sent.type
  | options : WrittenType document client (.keyword client.configType)
  | response {site : Operation.Site} : site ∈ Graph.sites document →
      WrittenType document client (Operation.responseType site.operation)

/-- A name in a type of the client stands for a reference in a schema of the document. -/
theorem WrittenType.refersTo {document : Document} {client : Client} {type : TypeExpr}
    (written : WrittenType document client type) :
    ∀ name ∈ type.refNames, ∃ root ∈ document.schemaRoots, root.RefersTo name := by
  have ofRoot {root : Schema} (member : root ∈ document.schemaRoots) :
      ∀ name ∈ root.typeOf.refNames, ∃ root ∈ document.schemaRoots, root.RefersTo name :=
    fun name inside => ⟨root, member, Schema.refersTo_of_mem_refNames inside⟩
  induction written with
  | declaration named => exact ofRoot (Document.mem_schemaRoots_of_named named)
  | property named properties listed =>
      intro name inside
      exact ⟨_, Document.mem_schemaRoots_of_named named,
        (Schema.refersTo_of_mem_refNames inside).of_child
          (Schema.mem_children_of_mem_properties properties listed)⟩
  | parameter site merged given =>
      exact ofRoot (Operation.mem_schemaRoots_of_merged site merged given)
  | query members ih =>
      intro name inside
      obtain ⟨member, listed, found⟩ := TypeExpr.mem_memberRefNames_iff.mp inside
      exact ih member listed name found
  | placeholder =>
      intro name inside
      cases inside
  | payload site merged found =>
      rcases Operation.type_of_payload site merged found with plain | ⟨root, member, typed⟩
      · rw [plain]
        intro name inside
        cases inside
      · rw [typed]
        exact ofRoot member
  | options =>
      intro name inside
      cases inside
  | response site =>
      rcases Operation.type_of_responseType site with plain | ⟨root, member, typed⟩
      · rw [plain]
        intro name inside
        cases inside
      · rw [typed]
        exact ofRoot member

/-! ## The declared names -/

namespace Graph

theorem mem_aliasesIn_iff {document : Document} {declared : Alias} :
    declared ∈ aliasesIn (declarations document) ↔
      ∃ name schema, (name, schema) ∈ document.schemas ∧
        schema.declare name = .typeAlias declared := by
  simp only [aliasesIn, declarations, List.mem_filterMap, List.mem_map, Prod.exists]
  constructor
  · rintro ⟨declaration, ⟨name, schema, named, rfl⟩, same⟩
    split at same
    · rename_i found declares
      cases same
      exact ⟨name, schema, named, declares⟩
    · cases same
  · rintro ⟨name, schema, named, declares⟩
    exact ⟨_, ⟨name, schema, named, rfl⟩, by simp only [declares]⟩

theorem mem_interfacesIn_iff {document : Document} {declared : Interface} :
    declared ∈ interfacesIn (declarations document) ↔
      ∃ name schema, (name, schema) ∈ document.schemas ∧
        schema.declare name = .interface declared := by
  simp only [interfacesIn, declarations, List.mem_filterMap, List.mem_map, Prod.exists]
  constructor
  · rintro ⟨declaration, ⟨name, schema, named, rfl⟩, same⟩
    split at same
    · cases same
    · rename_i found declares
      cases same
      exact ⟨name, schema, named, declares⟩
  · rintro ⟨name, schema, named, declares⟩
    exact ⟨_, ⟨name, schema, named, rfl⟩, by simp only [declares]⟩

theorem mem_typeNames {document : Document} {shaping : Shaping} {client : Client}
    {functions : List Function} {key : String} (named : key ∈ document.schemas.map (·.1)) :
    TypeScript.sanitizeTypeName key ∈ (assemble document shaping client functions).typeNames := by
  obtain ⟨⟨name, schema⟩, listed, rfl⟩ := List.mem_map.mp named
  cases declares : schema.declare name with
  | typeAlias declared =>
      have member := mem_aliasesIn_iff.mpr ⟨name, schema, listed, declares⟩
      exact List.mem_append_left _
        (List.mem_map.mpr ⟨declared, member, (Schema.typeAlias_of_declare declares).1⟩)
  | interface declared =>
      have member := mem_interfacesIn_iff.mpr ⟨name, schema, listed, declares⟩
      exact List.mem_append_right _
        (List.mem_map.mpr ⟨declared, member, (Schema.interface_of_declare declares).1⟩)

/-- Every name in a type of the client is declared. -/
theorem mem_typeNames_of_written {document : Document} {shaping : Shaping} {client : Client}
    {functions : List Function} (referencesNamed : document.ReferencesNamed) {type : TypeExpr}
    (written : WrittenType document client type) {name : String} (inside : name ∈ type.refNames) :
    name ∈ (assemble document shaping client functions).typeNames := by
  obtain ⟨root, member, node, within, reference, given, same⟩ := written.refersTo name inside
  rw [same]
  exact mem_typeNames (referencesNamed root member node within reference given)

end Graph

/-! ## Annotations of parameters and results -/

namespace Operation

open Document (Parameter)

theorem mem_addPlaceholders {fields : List (String × Graph.Field)} {names : List String}
    {entry : String × Graph.Field} (member : entry ∈ addPlaceholders fields names) :
    entry ∈ fields ∨ entry.2.type = some "string" := by
  induction names generalizing fields with
  | nil => exact Or.inl member
  | cons name rest ih =>
      rw [addPlaceholders] at member
      split at member
      · exact ih member
      · rcases ih member with added | placeholder
        · rcases List.mem_append.mp added with old | new
          · exact Or.inl old
          · obtain rfl := List.mem_singleton.mp new
            exact Or.inr rfl
        · exact Or.inr placeholder

theorem type_of_mem_parameterList {settings : Settings} {fields : List Graph.Field}
    {field : Graph.Field} (member : field ∈ parameterList settings fields) :
    field.type = some settings.client.configType ∨ ∃ given ∈ fields, field.type = given.type := by
  rcases List.mem_append.mp member with asked | options
  · have listed : field ∈ if settings.allOptional then
        fields.map fun field => { field with isRequired := false } else fields := by
      rcases List.mem_append.mp asked with required | optional
      · exact (List.mem_filter.mp required).1
      · exact (List.mem_filter.mp optional).1
    right
    split at listed
    · obtain ⟨given, inside, rfl⟩ := List.mem_map.mp listed
      exact ⟨given, inside, rfl⟩
    · exact ⟨field, listed, rfl⟩
  · obtain rfl := List.mem_singleton.mp options
    exact Or.inl rfl

/-- Every field that an operation asks for is typed by a type of the client. -/
theorem written_of_mem_fieldsOf {document : Document} {client : Client} {site : Site}
    (listed : site ∈ Graph.sites document) {parameters : List Parameter} {sent : Option Payload}
    (merged : mergedParameters document site.item site.operation = .ok parameters)
    (found : payload document parameters site.operation = .ok sent) {field : Graph.Field}
    (member : field ∈ fieldsOf site parameters sent) :
    ∃ type, WrittenType document client type ∧ field.type = some type.text := by
  rcases List.mem_append.mp member with front | payload
  · rcases List.mem_append.mp front with path | query
    · obtain ⟨entry, inPath, rfl⟩ := List.mem_map.mp path
      rcases mem_addPlaceholders inPath with declared | placeholder
      · obtain ⟨parameter, inLocation, rfl⟩ := List.mem_map.mp declared
        have given : parameter ∈ parameters := (List.mem_filter.mp inLocation).1
        exact ⟨_, .parameter listed merged given, rfl⟩
      · exact ⟨_, .placeholder, placeholder⟩
    · have members : ∀ member ∈ queryMembers parameters,
          WrittenType document client member.type := by
        intro member inQuery
        obtain ⟨parameter, inLocation, rfl⟩ := List.mem_map.mp inQuery
        exact .parameter listed merged (List.mem_filter.mp inLocation).1
      unfold queryField at query
      split at query
      · cases query
      · obtain rfl := List.mem_singleton.mp query
        exact ⟨_, .query members, rfl⟩
  · cases sent with
    | none => cases payload
    | some body =>
        obtain rfl := List.mem_singleton.mp payload
        exact ⟨_, .payload listed merged found, rfl⟩

end Operation

/-! ## Modules -/

def specOf (type : TypeExpr) : TypeSpec :=
  .ofText (some type.text)

/-- The types in a definition are types of the client. -/
def DefinedFrom (document : Document) (client : Client) : TypeScript.Definition → Prop
  | .typeAlias spec => ∃ type, WrittenType document client type ∧ spec = specOf type
  | .interface properties =>
      ∀ property ∈ properties, ∃ type, WrittenType document client type ∧
        property.type = specOf type

/-- The annotations of a module are written from types of the client; the helper type, if the
module defines it, is written in the configuration, and results stand in their envelope. -/
structure WrittenFrom (document : Document) (client : Client) (envelope : Graph.Envelope)
    (module : TypeScript.Module) : Prop where
  types : ∀ defined ∈ module.types, defined ∈ Synthesis.envelopeDefinition envelope ∨
    DefinedFrom document client defined.definition
  parameters : ∀ function ∈ module.functions, ∀ parameter ∈ function.parameters,
    ∃ type, WrittenType document client type ∧ parameter.type = some (specOf type)
  results : ∀ function ∈ module.functions, ∃ type, WrittenType document client type ∧
    function.returnType = some (.ofText (some (envelope.wrap type.text)))

/-- A module defines types of exactly these names, in order, and exports them all. -/
structure DefinesTypes (module : TypeScript.Module) (names : List String) : Prop where
  names_eq : module.types.map (·.name) = names
  exported : ∀ defined ∈ module.types, defined.isExported = true

/-- The helper type under a name, if the configuration takes bodies out of responses. -/
def helper (config : Config) (name : String) : List String :=
  ((config.shaping.responses.bind ResponseShape.infer?).map fun _ => name).toList

/-- The import of types by their names, if there are any. -/
def importOfTypes (source : String) : List String → List TypeScript.Import
  | [] => []
  | names =>
      [{ default := none
         namespaceName := none
         items := names.map fun name => ⟨name, none⟩
         source := source
         isTypeOnly := true }]

namespace Synthesis

theorem names_typeDefinitions (graph : Graph) :
    (typeDefinitions graph).map (·.name) =
      graph.typeNames ++
        (graph.envelope.infer.map fun _ => graph.envelope.typeName ++ "<T>").toList := by
  have helper : (envelopeDefinition graph.envelope).map (·.name) =
      (graph.envelope.infer.map fun _ => graph.envelope.typeName ++ "<T>").toList := by
    unfold envelopeDefinition
    cases graph.envelope.infer <;> rfl
  rw [typeDefinitions, List.map_append, List.map_append, List.map_map, List.map_map, helper]
  rfl

variable {document : Document} {shaping : Shaping} {client : Client}
  {functions : List Graph.Function}

theorem exported_typeDefinitions :
    ∀ defined ∈ typeDefinitions (Graph.assemble document shaping client functions),
      defined.isExported = true := by
  intro defined member
  rcases List.mem_append.mp member with declared | helper
  · rcases List.mem_append.mp declared with typeAlias | interface
    · obtain ⟨declared, listed, rfl⟩ := List.mem_map.mp typeAlias
      obtain ⟨name, schema, -, declares⟩ := Graph.mem_aliasesIn_iff.mp listed
      exact (Schema.typeAlias_of_declare declares).2.1
    · obtain ⟨declared, listed, rfl⟩ := List.mem_map.mp interface
      obtain ⟨name, schema, -, declares⟩ := Graph.mem_interfacesIn_iff.mp listed
      exact (Schema.interface_of_declare declares).2.1
  · unfold envelopeDefinition at helper
    split at helper
    · obtain rfl := List.mem_singleton.mp helper
      rfl
    · cases helper

/-- The definitions of a graph are written from types of the client. -/
theorem written_typeDefinitions :
    ∀ defined ∈ typeDefinitions (Graph.assemble document shaping client functions),
      defined ∈ envelopeDefinition
          (Graph.assemble document shaping client functions).envelope ∨
        DefinedFrom document client defined.definition := by
  intro defined member
  rcases List.mem_append.mp member with declared | helper
  · right
    rcases List.mem_append.mp declared with typeAlias | interface
    · obtain ⟨declared, listed, rfl⟩ := List.mem_map.mp typeAlias
      obtain ⟨name, schema, named, declares⟩ := Graph.mem_aliasesIn_iff.mp listed
      refine ⟨schema.typeOf, .declaration named, ?_⟩
      rw [specOf, ← (Schema.typeAlias_of_declare declares).2.2]
    · obtain ⟨declared, listed, rfl⟩ := List.mem_map.mp interface
      obtain ⟨name, schema, named, declares⟩ := Graph.mem_interfacesIn_iff.mp listed
      obtain ⟨-, -, properties, given, fields⟩ := Schema.interface_of_declare declares
      intro written inside
      rw [fields] at inside
      obtain ⟨field, inFields, rfl⟩ := List.mem_map.mp inside
      obtain ⟨⟨key, child⟩, entry, rfl⟩ := List.mem_map.mp inFields
      refine ⟨child.typeOf, .property named given entry, ?_⟩
      dsimp only [property, Schema.propertyField, specOf]
  · exact Or.inl helper

/-- The parameters and the result of the function of an operation are written from types of the
client. -/
theorem written_functionStatement {settings : Operation.Settings} {envelope : Graph.Envelope}
    {site : Operation.Site} (listed : site ∈ Graph.sites document)
    (sameClient : settings.client = client) {built : Graph.Function}
    (function : Operation.function document settings envelope site = .ok built) :
    (∀ parameter ∈ (functionStatement built).parameters,
      ∃ type, WrittenType document client type ∧ parameter.type = some (specOf type)) ∧
    ∃ type, WrittenType document client type ∧
      (functionStatement built).returnType = some (.ofText (some (envelope.wrap type.text))) := by
  obtain ⟨parameters, sent, merged, found, rfl⟩ :=
    (Operation.function_eq_ok_iff document settings envelope site built).mp function
  constructor
  · intro parameter member
    obtain ⟨field, inFields, rfl⟩ := List.mem_map.mp member
    have typed : ∃ type, WrittenType document client type ∧ field.type = some type.text := by
      rcases Operation.type_of_mem_parameterList inFields with options | ⟨given, asked, same⟩
      · rw [sameClient] at options
        exact ⟨_, .options, options⟩
      · rw [same]
        exact Operation.written_of_mem_fieldsOf listed merged found asked
    obtain ⟨type, written, text⟩ := typed
    refine ⟨type, written, ?_⟩
    dsimp only [parameter, specOf]
    rw [text, Option.map_some]
  · exact ⟨_, .response listed, rfl⟩

/-- A module with the functions of a graph and definitions written from types of the client. -/
theorem writtenFrom_of_functions
    (built : Graph.functionsOf document (Graph.settings shaping document client)
      (Graph.envelopeOf (Graph.settings shaping document client)) [] (Graph.sites document) =
        .ok functions)
    {module : TypeScript.Module}
    (types : ∀ defined ∈ module.types,
      defined ∈ typeDefinitions (Graph.assemble document shaping client functions))
    (statements : ∀ function ∈ module.functions, function ∈ functions.map functionStatement) :
    WrittenFrom document client (Graph.assemble document shaping client functions).envelope
      module := by
  have each : ∀ function ∈ module.functions, ∃ site ∈ Graph.sites document, ∃ given,
      Operation.function document (Graph.settings shaping document client)
        (Graph.envelopeOf (Graph.settings shaping document client)) site = .ok given ∧
      function = functionStatement given := by
    intro function member
    obtain ⟨given, listed, rfl⟩ := List.mem_map.mp (statements function member)
    obtain ⟨index, bound, rfl⟩ := List.getElem_of_mem listed
    have pairs := Graph.functionsOf_forall₂ built
    have inSites : index < (Graph.sites document).length := by
      rw [pairs.length_eq]
      exact bound
    exact ⟨_, List.getElem_mem inSites, _, pairs.get inSites bound, rfl⟩
  constructor
  · intro defined member
    exact written_typeDefinitions defined (types defined member)
  · intro function member
    obtain ⟨site, listed, given, made, rfl⟩ := each function member
    exact (written_functionStatement listed rfl made).1
  · intro function member
    obtain ⟨site, listed, given, made, rfl⟩ := each function member
    exact (written_functionStatement listed rfl made).2

end Synthesis

/-! ## Compilation -/

/-- A configuration starts with the request file and, after it, the typings file, if there is
one; that one knows how it is imported. -/
theorem Record.of_ofConfig {config : Config} {start : Record}
    (configured : Record.ofConfig config = .ok start) :
    start.config = config ∧
      (start.outputs = [Output.new .request (Record.mainPath config)] ∨
        ∃ path specifier, start.outputs = [Output.new .request (Record.mainPath config),
          (Output.new .typings path).withSpecifier specifier]) := by
  unfold Record.ofConfig at configured
  split at configured
  · cases configured
  · dsimp only at configured
    split at configured
    · cases configured
      exact ⟨rfl, Or.inl rfl⟩
    · split at configured
      · cases configured
      · cases configured
        exact ⟨rfl, Or.inr ⟨_, _, rfl⟩⟩

namespace Compiler

theorem compile_request {record : Record} {request : Output}
    (outputs : record.outputs = [request]) (kind : request.kind = .request) :
    standard.compile record =
      .ok { record with
        outputs := [request.setSlot (.request (Synthesis.requestModule record))] } := by
  obtain ⟨input, config, graph, given, source⟩ := record
  cases outputs
  simp only [compile, compileFrom, slotFor, kind, standard, Except.map, List.nil_append]

theorem compile_request_typings {record : Record} {request typings : Output}
    (outputs : record.outputs = [request, typings]) (kind : request.kind = .request)
    (otherKind : typings.kind = .typings) :
    standard.compile record =
      .ok { record with
        outputs := [request.setSlot (.request (Synthesis.requestModule record)),
          typings.setSlot (.typings (Synthesis.typingsModule record))] } := by
  obtain ⟨input, config, graph, given, source⟩ := record
  cases outputs
  simp only [compile, compileFrom, slotFor, kind, otherKind, standard, Except.map,
    List.nil_append, List.cons_append]
  rfl

end Compiler

/-! ## The two modules of a parsed record -/

/-- The graph of a record is the graph of a document under the configuration of the record. -/
structure ParsedFrom (document : Document) (client : Client) (record : Record) : Prop where
  graph : ∃ functions,
    Graph.functionsOf document (Graph.settings record.config.shaping document client)
      (Graph.envelopeOf (Graph.settings record.config.shaping document client)) []
      (Graph.sites document) = .ok functions ∧
    record.graph = Graph.assemble document record.config.shaping client functions

namespace ParsedFrom

variable {document : Document} {client : Client} {record : Record}

theorem definesTypes (parsed : ParsedFrom document client record) :
    DefinesTypes (Synthesis.typingsModule record)
      (record.graph.typeNames ++ helper record.config "InferResponse<T>") := by
  obtain ⟨functions, -, same⟩ := parsed.graph
  constructor
  · rw [Synthesis.typingsModule, Synthesis.names_typeDefinitions, same]
    rfl
  · rw [Synthesis.typingsModule, same]
    exact Synthesis.exported_typeDefinitions

theorem written_typings (parsed : ParsedFrom document client record) :
    WrittenFrom document client record.graph.envelope (Synthesis.typingsModule record) := by
  obtain ⟨functions, built, same⟩ := parsed.graph
  rw [Synthesis.typingsModule, same]
  exact Synthesis.writtenFrom_of_functions built (fun _ member => member)
    (fun _ member => by cases member)

theorem written_request (parsed : ParsedFrom document client record) :
    WrittenFrom document client record.graph.envelope (Synthesis.requestModule record) := by
  obtain ⟨functions, built, same⟩ := parsed.graph
  rw [Synthesis.requestModule, same]
  refine Synthesis.writtenFrom_of_functions built (fun defined member => ?_)
    (fun _ member => member)
  dsimp only at member
  split at member
  · cases member
  · exact member

theorem mem_typeNames (parsed : ParsedFrom document client record)
    (referencesNamed : document.ReferencesNamed) {type : TypeExpr}
    (written : WrittenType document client type) {name : String} (inside : name ∈ type.refNames) :
    name ∈ record.graph.typeNames := by
  obtain ⟨functions, -, same⟩ := parsed.graph
  rw [same]
  exact Graph.mem_typeNames_of_written referencesNamed written inside

theorem importedTypeNames (parsed : ParsedFrom document client record) :
    Synthesis.importedTypeNames record.graph =
      record.graph.typeNames ++ helper record.config "InferResponse" := by
  obtain ⟨functions, -, same⟩ := parsed.graph
  rw [same]
  rfl

end ParsedFrom

namespace Synthesis

/-- Without a typings file the request module defines the types. -/
theorem requestModule_types {record : Record} (none : record.output? .typings = none) :
    (requestModule record).types = (typingsModule record).types := by
  rw [requestModule, none]
  rfl

/-- With a typings file that can be imported, the request module imports the types by name. -/
theorem requestModule_imports {record : Record} {typings : Output} {source : String}
    (output : record.output? .typings = some typings)
    (given : typingsSource record typings = some source) :
    (requestModule record).imports =
      record.graph.imports.map importStatement ++
        importOfTypes source (importedTypeNames record.graph) := by
  rw [requestModule, output]
  dsimp only
  rw [typingsImport, given]
  cases importedTypeNames record.graph <;> rfl

end Synthesis

theorem Record.parsedFrom_of_parse {client : Client} {record parsed : Record} {source : Json}
    {document : Document} (loaded : record.source = some source)
    (read : Document.ofJson source = .ok document)
    (accepted : record.parse client = .ok parsed) :
    parsed.config = record.config ∧ parsed.outputs = record.outputs ∧
      ParsedFrom document client parsed := by
  obtain ⟨given, found, graph, loaded', read', built, rfl⟩ :=
    (Record.parse_eq_ok_iff client record parsed).mp accepted
  obtain rfl : given = source := Option.some.inj (loaded'.symm.trans loaded)
  obtain rfl : found = document := Except.ok.inj (read'.symm.trans read)
  obtain ⟨functions, functionsBuilt, rfl⟩ :=
    (Graph.ofDocument_eq_ok_iff found _ client graph).mp built
  exact ⟨rfl, rfl, ⟨functions, functionsBuilt, rfl⟩⟩

namespace Compiler

/-- The names in the types of a client are names of types that the client declares. The request
module defines these types, or imports them from the typings module, which defines and exports
them; the helper type goes with them when the configuration asks for it. -/
theorem types_in_scope {config : Config} {start parsed : Record} {client : Client} {source : Json}
    {document : Document} (configured : Record.ofConfig config = .ok start)
    (read : Document.ofJson source = .ok document) (referencesNamed : document.ReferencesNamed)
    (accepted : Record.parse client { start with source := some source } = .ok parsed) :
    ∃ compiled request names,
      standard.compile parsed = .ok compiled ∧
      (compiled.output? .request).map (·.slot) = some (.request request) ∧
      WrittenFrom document client parsed.graph.envelope request ∧
      (∀ type, WrittenType document client type → ∀ name ∈ type.refNames, name ∈ names) ∧
      match compiled.output? .typings with
      | none => DefinesTypes request (names ++ helper config "InferResponse<T>")
      | some output =>
          ∃ typings module, output.slot = .typings typings ∧
            WrittenFrom document client parsed.graph.envelope typings ∧
            DefinesTypes typings (names ++ helper config "InferResponse<T>") ∧
            (config.shaping.imports.bind (·.typings)).or output.specifier = some module ∧
            request.imports = parsed.graph.imports.map Synthesis.importStatement ++
              importOfTypes module (names ++ helper config "InferResponse") := by
  obtain ⟨startConfig, startOutputs⟩ := Record.of_ofConfig configured
  obtain ⟨parsedConfig, parsedOutputs, from_document⟩ :=
    Record.parsedFrom_of_parse rfl read accepted
  have sameConfig : parsed.config = config := parsedConfig.trans startConfig
  have defines := from_document.definesTypes
  rw [sameConfig] at defines
  have scope : ∀ type, WrittenType document client type → ∀ name ∈ type.refNames,
      name ∈ parsed.graph.typeNames :=
    fun type written name inside => from_document.mem_typeNames referencesNamed written inside
  rcases startOutputs with alone | ⟨path, specifier, both⟩
  · have outputs := parsedOutputs.trans alone
    have noTypings : parsed.output? .typings = none := by
      rw [Record.output?, outputs]
      rfl
    refine ⟨_, Synthesis.requestModule parsed, _, compile_request outputs rfl, rfl,
      from_document.written_request, scope, ?_⟩
    have types := Synthesis.requestModule_types noTypings
    exact ⟨by rw [types]; exact defines.names_eq, by rw [types]; exact defines.exported⟩
  · have outputs := parsedOutputs.trans both
    have typings : parsed.output? .typings =
        some ((Output.new .typings path).withSpecifier specifier) := by
      rw [Record.output?, outputs]
      rfl
    have source : ∃ module,
        (config.shaping.imports.bind (·.typings)).or (some specifier) = some module := by
      cases config.shaping.imports.bind (·.typings) <;> exact ⟨_, rfl⟩
    obtain ⟨module, given⟩ := source
    refine ⟨_, Synthesis.requestModule parsed, _, compile_request_typings outputs rfl rfl, rfl,
      from_document.written_request, scope, ?_⟩
    refine ⟨Synthesis.typingsModule parsed, module, rfl, from_document.written_typings, defines,
      given, ?_⟩
    rw [← sameConfig, ← from_document.importedTypeNames]
    apply Synthesis.requestModule_imports typings
    rw [Synthesis.typingsSource, sameConfig]
    exact given

end Compiler

namespace Pets

/-- A description of pets, each with an owner. -/
def source : Json :=
  .object [
    ("swagger", .string "2.0"),
    ("paths", .object [("/pets", .object [("get", .object [("responses", .object [
      ("200", .object [("schema", .object [("$ref", .string "#/definitions/Pet")])])])])])]),
    ("definitions", .object [
      ("Owner", .object [("type", .string "string")]),
      ("Pet", .object [("properties", .object [
        ("owner", .object [("$ref", .string "#/definitions/Owner")])])])])]

def reference (name : String) : Schema :=
  .node { Schema.Keywords.none with ref := some ("#/definitions/" ++ name) }
    none none none none none none

def owner : Schema :=
  .node { Schema.Keywords.none with type := some (.one "string") } none none none none none none

def pet : Schema :=
  .node .none (some [("owner", reference "Owner")]) none none none none none

def list : Document.Operation :=
  ⟨none, none, none, false, [], none, [("200", ⟨none, some (reference "Pet"), []⟩)]⟩

def document : Document where
  swagger := some "2.0"
  openapi := none
  info := ⟨none, none, none⟩
  host := none
  basePath := none
  schemes := []
  servers := []
  paths := [("/pets", ⟨some list, none, none, none, none, none, none, []⟩)]
  definitions := [("Owner", owner), ("Pet", pet)]
  parameters := []
  components := none

def config : Config :=
  ⟨some (.shorthand "pets.json"), ⟨some "api.ts", some (.flag true)⟩,
    { Shaping.none with responses := some (.inferred "T") }, none⟩

def start : Record :=
  .new (.uri "pets.json") config
    [.new .request ⟨"api.ts"⟩, (Output.new .typings ⟨"api.type.ts"⟩).withSpecifier "./api.type"]

def site : Operation.Site :=
  ⟨"/pets", .get, ⟨some list, none, none, none, none, none, none, []⟩, list⟩

def settings : Operation.Settings := Graph.settings config.shaping document .axios

def parsed : Record :=
  { start with
    source := some source
    graph := Graph.assemble document config.shaping .axios
      [Operation.assemble settings (Graph.envelopeOf settings) site [] none] }

theorem referencesNamed : document.ReferencesNamed := by
  intro root member node within path given
  have roots : document.schemaRoots = [owner, pet, reference "Pet"] := by rfl
  rw [roots] at member
  simp only [List.mem_cons, List.not_mem_nil, or_false] at member
  rcases member with rfl | rfl | rfl
  · obtain rfl := Schema.within_of_children_eq_nil (by rfl) within
    cases given
  · rcases Schema.within_iff.mp within with rfl | ⟨child, listed, inside⟩
    · cases given
    · obtain rfl : child = reference "Owner" := List.mem_singleton.mp listed
      obtain rfl := Schema.within_of_children_eq_nil (by rfl) inside
      cases given
      decide
  · obtain rfl := Schema.within_of_children_eq_nil (by rfl) within
    cases given
    decide

end Pets

namespace Compiler

/-- The request file of the pets imports their types and the helper type. -/
theorem types_in_scope_pets :
    ∃ compiled request names,
      standard.compile Pets.parsed = .ok compiled ∧
      (compiled.output? .request).map (·.slot) = some (.request request) ∧
      (∀ type, WrittenType Pets.document .axios type → ∀ name ∈ type.refNames, name ∈ names) ∧
      ∃ output typings, compiled.output? .typings = some output ∧ output.slot = .typings typings ∧
        DefinesTypes typings (names ++ ["InferResponse<T>"]) ∧
        request.imports = Pets.parsed.graph.imports.map Synthesis.importStatement ++
          importOfTypes "./api.type" (names ++ ["InferResponse"]) := by
  have configured : Record.ofConfig Pets.config = .ok Pets.start := by rfl
  have read : Document.ofJson Pets.source = .ok Pets.document := by rfl
  have accepted : Record.parse .axios { Pets.start with source := some Pets.source } =
      .ok Pets.parsed := by rfl
  obtain ⟨compiled, request, names, compiles, slot, -, scope, rest⟩ :=
    types_in_scope configured read Pets.referencesNamed accepted
  refine ⟨compiled, request, names, compiles, slot, scope, ?_⟩
  obtain rfl := Except.ok.inj compiles
  obtain ⟨typings, module, held, -, defines, given, imports⟩ := rest
  cases given
  exact ⟨_, typings, rfl, held, defines, imports⟩

end Compiler

end ClientGen
