import ClientGen.Proofs.Identifier
import ClientGen.Proofs.Parsing
import ClientGen.Proofs.TypeScope
import Mathlib.Data.List.Nodup
import Mathlib.Data.List.TakeWhile

/-!
# Distinct type names

A named schema is declared under a name that is made from its key, and nothing keeps the names of
two schemas apart, or the name of a schema from the helper type and from the types of the client.
The main statement says exactly when every generated module binds each type name once.
-/

namespace ClientGen

open TypeScript (sanitizeTypeName)

namespace TypeScript

/-- The name of a type without the parameters behind it. -/
def bareName (name : String) : String :=
  String.ofList (name.toList.takeWhile (· != '<'))

/-- The names of all items of type imports, as they are used in the module. -/
def typeItems (imports : List Import) : List String :=
  (imports.filter (·.isTypeOnly)).flatMap fun imported =>
    imported.items.map fun item => item.localName.getD item.name

/-- The type names that a module binds: the items of its type imports, and its definitions. -/
def Module.boundTypes (module : Module) : List String :=
  typeItems module.imports ++ module.types.map fun defined => bareName defined.name

theorem typeItems_append (first second : List Import) :
    typeItems (first ++ second) = typeItems first ++ typeItems second := by
  rw [typeItems, List.filter_append, List.flatMap_append]
  rfl

/-- An identifier has no parameters behind it. -/
theorem bareName_eq {name : String} (identifier : isIdentifier name.toList = true) :
    bareName name = name := by
  have kept : name.toList.takeWhile (· != '<') = name.toList := by
    apply List.takeWhile_eq_self_iff.mpr
    intro c member
    have part := parts_of_isIdentifier identifier c member
    apply bne_iff_ne.mpr
    rintro rfl
    cases part
  rw [bareName, kept, String.ofList_toList]

end TypeScript

/-! ## The names of schemas -/

/-- The types that the request module imports for its client. -/
def Client.typeImports : Client → List String
  | .axios => ["AxiosRequestConfig", "AxiosResponse"]
  | .fetch => []

namespace Document

def typeNames (document : Document) : List String :=
  document.schemas.map fun (key, _) => sanitizeTypeName key

/-- No two named schemas have one type name, and none has a name that is taken. -/
structure TypesApart (document : Document) (taken : List String) : Prop where
  schemas : document.schemas.Pairwise fun a b => sanitizeTypeName a.1 ≠ sanitizeTypeName b.1
  others : ∀ entry ∈ document.schemas, sanitizeTypeName entry.1 ∉ taken

/-- Names that are those of the schemas and the taken ones, in some order, are distinct exactly if
the schemas are apart. -/
theorem nodup_iff_typesApart {document : Document} {taken bound : List String}
    (perm : bound.Perm (document.typeNames ++ taken)) (distinct : taken.Nodup) :
    bound.Nodup ↔ document.TypesApart taken := by
  have schemas : document.typeNames.Nodup ↔
      document.schemas.Pairwise fun a b => sanitizeTypeName a.1 ≠ sanitizeTypeName b.1 :=
    List.pairwise_map
  have others : document.typeNames.Disjoint taken ↔
      ∀ entry ∈ document.schemas, sanitizeTypeName entry.1 ∉ taken :=
    List.forall_mem_map
  rw [perm.nodup_iff, List.nodup_append', schemas, others]
  exact ⟨fun ⟨apart, _, away⟩ => ⟨apart, away⟩, fun ⟨apart, away⟩ => ⟨apart, distinct, away⟩⟩

end Document

namespace Graph

theorem perm_names (declarations : List Schema.Declaration) :
    ((aliasesIn declarations).map (·.name) ++ (interfacesIn declarations).map (·.name)).Perm
      (declarations.map Schema.Declaration.name) := by
  induction declarations with
  | nil => exact .nil
  | cons declaration rest ih =>
      cases declaration with
      | typeAlias declared => exact ih.cons declared.name
      | interface declared => exact List.perm_middle.trans (ih.cons declared.name)

theorem perm_typeNames (document : Document) (shaping : Shaping) (client : Client)
    (functions : List Function) :
    (assemble document shaping client functions).typeNames.Perm document.typeNames := by
  have names : (declarations document).map Schema.Declaration.name = document.typeNames := by
    rw [declarations, List.map_map]
    exact List.map_congr_left fun entry _ => Schema.name_declare entry.2 entry.1
  rw [← names]
  exact perm_names (declarations document)

end Graph

/-! ## The names that modules bind -/

/-- The type names that the module of an output binds beside those of the schemas. -/
def takenTypes (config : Config) (client : Client) : OutputKind → List String
  | .request => helper config "InferResponse" ++ client.typeImports
  | _ => helper config "InferResponse"

theorem helper_eq_or (config : Config) (name : String) :
    helper config name = [] ∨ helper config name = [name] := by
  unfold helper
  cases config.shaping.responses.bind ResponseShape.infer? with
  | none => exact .inl rfl
  | some infer => exact .inr rfl

theorem map_helper (config : Config) (f : String → String) (name : String) :
    (helper config name).map f = helper config (f name) := by
  unfold helper
  cases config.shaping.responses.bind ResponseShape.infer? <;> rfl

theorem nodup_takenTypes (config : Config) (client : Client) (kind : OutputKind) :
    (takenTypes config client kind).Nodup := by
  have alone : (helper config "InferResponse").Nodup := by
    rcases helper_eq_or config "InferResponse" with same | same
    · rw [same]
      exact List.nodup_nil
    · rw [same]
      exact List.nodup_singleton _
  cases kind with
  | request =>
      rw [takenTypes]
      rcases helper_eq_or config "InferResponse" with same | same
      · rw [same]
        cases client <;> decide
      · rw [same]
        cases client <;> decide
  | typings => exact alone
  | other tag => exact alone

theorem typeItems_imports (client : Client) (http : Option String) :
    TypeScript.typeItems ((client.imports http).map Synthesis.importStatement) =
      client.typeImports := by
  cases client with
  | axios => rfl
  | fetch => cases http <;> rfl

theorem typeItems_importOfTypes (source : String) (names : List String) :
    TypeScript.typeItems (importOfTypes source names) = names := by
  cases names with
  | nil => rfl
  | cons name rest => simp [importOfTypes, TypeScript.typeItems, Function.comp_def]

namespace ParsedFrom

variable {document : Document} {client : Client} {record : Record}

theorem perm_typeNames (parsed : ParsedFrom document client record) :
    record.graph.typeNames.Perm document.typeNames := by
  obtain ⟨functions, -, same⟩ := parsed.graph
  rw [same]
  exact Graph.perm_typeNames document _ client functions

theorem boundTypes_typings (parsed : ParsedFrom document client record) :
    (Synthesis.typingsModule record).boundTypes =
      record.graph.typeNames ++ helper record.config "InferResponse" := by
  have identified : ∀ name ∈ record.graph.typeNames, TypeScript.bareName name = name := by
    intro name member
    obtain ⟨entry, -, rfl⟩ := List.mem_map.mp (parsed.perm_typeNames.mem_iff.mp member)
    exact TypeScript.bareName_eq (TypeScript.isTypeName_sanitizeTypeName entry.1).1
  have cut : TypeScript.bareName "InferResponse<T>" = "InferResponse" := by decide
  have names := congrArg (List.map TypeScript.bareName) parsed.definesTypes.names_eq
  rw [List.map_map, List.map_append, map_helper, cut, List.map_congr_left identified,
    List.map_id'] at names
  exact names

/-- Whether it defines the types or imports them, the request module binds those of the typings
module and those of its client. -/
theorem boundTypes_request (parsed : ParsedFrom document client record)
    (reachable : ∀ typings, record.output? .typings = some typings →
      (Synthesis.typingsSource record typings).isSome) :
    (Synthesis.requestModule record).boundTypes =
      client.typeImports ++ (Synthesis.typingsModule record).boundTypes := by
  have imported : TypeScript.typeItems (record.graph.imports.map Synthesis.importStatement) =
      client.typeImports := by
    obtain ⟨functions, -, same⟩ := parsed.graph
    rw [same]
    exact typeItems_imports client _
  cases output : record.output? .typings with
  | none =>
      have imports : (Synthesis.requestModule record).imports =
          record.graph.imports.map Synthesis.importStatement := by
        rw [Synthesis.requestModule, output]
        exact List.append_nil _
      rw [TypeScript.Module.boundTypes, Synthesis.requestModule_types output, imports, imported]
      rfl
  | some typings =>
      obtain ⟨source, given⟩ := Option.isSome_iff_exists.mp (reachable typings output)
      have types : (Synthesis.requestModule record).types = [] := by
        rw [Synthesis.requestModule, output]
      rw [TypeScript.Module.boundTypes, types, Synthesis.requestModule_imports output given,
        TypeScript.typeItems_append, imported, typeItems_importOfTypes, parsed.importedTypeNames,
        parsed.boundTypes_typings]
      exact List.append_nil _

end ParsedFrom

namespace Compiler

/-- Every module of a parsed description binds its type names once exactly if the named schemas are
apart: from each other and from the helper type, and in the request module from the types of the
client. -/
theorem nodup_boundTypes_iff {config : Config} {start parsed : Record} {client : Client}
    {source : Json} {document : Document} (configured : Record.ofConfig config = .ok start)
    (read : Document.ofJson source = .ok document)
    (accepted : Record.parse client { start with source := some source } = .ok parsed) :
    ∃ compiled, standard.compile parsed = .ok compiled ∧
      (compiled.output? .request).isSome ∧
      ∀ output ∈ compiled.outputs, ∃ module, output.slot.module? = some module ∧
        (module.boundTypes.Nodup ↔ document.TypesApart (takenTypes config client output.kind)) := by
  obtain ⟨startConfig, startOutputs⟩ := Record.of_ofConfig configured
  obtain ⟨parsedConfig, parsedOutputs, from_document⟩ :=
    Record.parsedFrom_of_parse rfl read accepted
  have sameConfig : parsed.config = config := parsedConfig.trans startConfig
  have boundTypings := from_document.boundTypes_typings
  rw [sameConfig] at boundTypings
  have typings : (Synthesis.typingsModule parsed).boundTypes.Nodup ↔
      document.TypesApart (takenTypes config client .typings) := by
    apply Document.nodup_iff_typesApart _ (nodup_takenTypes config client .typings)
    rw [boundTypings]
    exact from_document.perm_typeNames.append_right _
  have request (reachable : ∀ typings, parsed.output? .typings = some typings →
        (Synthesis.typingsSource parsed typings).isSome) :
      (Synthesis.requestModule parsed).boundTypes.Nodup ↔
        document.TypesApart (takenTypes config client .request) := by
    apply Document.nodup_iff_typesApart _ (nodup_takenTypes config client .request)
    rw [from_document.boundTypes_request reachable, boundTypings]
    -- The types of the client come first in the module and last among the taken names.
    apply List.perm_append_comm.trans
    rw [List.append_assoc]
    exact from_document.perm_typeNames.append_right _
  rcases startOutputs with alone | ⟨path, specifier, both⟩
  · have outputs := parsedOutputs.trans alone
    refine ⟨_, compile_request outputs rfl, rfl, ?_⟩
    intro output listed
    obtain rfl := List.mem_singleton.mp listed
    refine ⟨_, rfl, request fun typings found => ?_⟩
    rw [Record.output?, outputs] at found
    cases found
  · have outputs := parsedOutputs.trans both
    refine ⟨_, compile_request_typings outputs rfl rfl, rfl, ?_⟩
    intro output listed
    rcases List.mem_cons.mp listed with rfl | last
    · refine ⟨_, rfl, request fun typings found => ?_⟩
      rw [Record.output?, outputs] at found
      cases found
      rw [Synthesis.typingsSource]
      cases parsed.config.shaping.imports.bind (·.typings) <;> rfl
    · obtain rfl := List.mem_singleton.mp last
      exact ⟨_, rfl, typings⟩

/-- Both modules of the pets bind every type name once. -/
theorem nodup_boundTypes_pets :
    ∃ compiled, standard.compile Pets.parsed = .ok compiled ∧
      ∀ output ∈ compiled.outputs, ∃ module, output.slot.module? = some module ∧
        module.boundTypes.Nodup := by
  have configured : Record.ofConfig Pets.config = .ok Pets.start := by rfl
  have read : Document.ofJson Pets.source = .ok Pets.document := by rfl
  have accepted : Record.parse .axios { Pets.start with source := some Pets.source } =
      .ok Pets.parsed := by rfl
  obtain ⟨compiled, compiles, -, modules⟩ := nodup_boundTypes_iff configured read accepted
  refine ⟨compiled, compiles, fun output listed => ?_⟩
  obtain ⟨module, held, distinct⟩ := modules output listed
  refine ⟨module, held, distinct.mpr ⟨by decide, ?_⟩⟩
  have typings : ∀ entry ∈ Pets.document.schemas,
      sanitizeTypeName entry.1 ∉ helper Pets.config "InferResponse" := by decide
  cases output.kind with
  | request => decide
  | typings => exact typings
  | other tag => exact typings

end Compiler

namespace Twins

/-- A description of two schemas whose keys make one type name. -/
def source : Json :=
  .object [
    ("swagger", .string "2.0"),
    ("definitions", .object [
      ("pet-store", .object [("type", .string "string")]),
      ("petStore", .object [("type", .string "string")])])]

def config : Config :=
  ⟨some (.shorthand "twins.json"), ⟨some "api.ts", some (.flag true)⟩, Shaping.none, none⟩

def start : Record :=
  .new (.uri "twins.json") config
    [.new .request ⟨"api.ts"⟩, (Output.new .typings ⟨"api.type.ts"⟩).withSpecifier "./api.type"]

def document : Document where
  swagger := some "2.0"
  openapi := none
  info := ⟨none, none, none⟩
  host := none
  basePath := none
  schemes := []
  servers := []
  paths := []
  definitions := [("pet-store", Pets.owner), ("petStore", Pets.owner)]
  parameters := []
  components := none

def parsed : Record :=
  { start with
    source := some source
    graph := Graph.assemble document Shaping.none .axios [] }

end Twins

namespace Compiler

/-- Two schemas with different keys are accepted and declared under one name, in the typings file
and, by import, in the request file. -/
theorem not_nodup_twins :
    Record.ofConfig Twins.config = .ok Twins.start ∧
      Record.parse .axios { Twins.start with source := some Twins.source } = .ok Twins.parsed ∧
      Twins.document.schemas.map (·.1) = ["pet-store", "petStore"] ∧
      Twins.parsed.graph.typeNames = ["PetStore", "PetStore"] ∧
      ∃ request typings, standard.compile Twins.parsed = .ok { Twins.parsed with
          outputs := [(Output.new .request ⟨"api.ts"⟩).setSlot (.request request),
            ((Output.new .typings ⟨"api.type.ts"⟩).withSpecifier "./api.type").setSlot
              (.typings typings)] } ∧
        ¬ request.boundTypes.Nodup ∧ ¬ typings.boundTypes.Nodup := by
  have request : (Synthesis.requestModule Twins.parsed).boundTypes =
      ["AxiosRequestConfig", "AxiosResponse", "PetStore", "PetStore"] := by rfl
  have typings : (Synthesis.typingsModule Twins.parsed).boundTypes =
      ["PetStore", "PetStore"] := by rfl
  refine ⟨by rfl, by rfl, by rfl, by rfl, Synthesis.requestModule Twins.parsed,
    Synthesis.typingsModule Twins.parsed, by rfl, ?_, ?_⟩
  · rw [request]
    decide
  · rw [typings]
    decide

end Compiler

end ClientGen
