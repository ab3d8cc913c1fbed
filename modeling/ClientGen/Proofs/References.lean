import ClientGen.Proofs.Operations
import ClientGen.Proofs.SchemaTree

/-!
# The names that generated types refer to

Every type in a generated client is the type of a schema of the document, or is put together from
such types. The names that it refers to are therefore names that references of the document stand
for. Schemas are collected here from all places where a document holds them; the types of a client
are followed back to these places.
-/

namespace ClientGen

open TypeScript (TypeExpr Member)

/-! ## References of types -/

namespace TypeScript.TypeExpr

mutual

/-- The names that a type refers to. -/
def refNames : TypeExpr → List String
  | .keyword _ => []
  | .literal _ => []
  | .array item => refNames item
  | .union types => refNamesOf types
  | .intersection types => refNamesOf types
  | .object members => memberRefNames members
  | .record value => refNames value
  | .ref name => [name]

def refNamesOf : List TypeExpr → List String
  | [] => []
  | type :: rest => refNames type ++ refNamesOf rest

def memberRefNames : List (Member TypeExpr) → List String
  | [] => []
  | ⟨_, type, _⟩ :: rest => refNames type ++ memberRefNames rest

end

theorem mem_refNamesOf_iff {name : String} {types : List TypeExpr} :
    name ∈ refNamesOf types ↔ ∃ type ∈ types, name ∈ type.refNames := by
  induction types with
  | nil => simp [refNamesOf]
  | cons type rest ih => simp [refNamesOf, ih]

theorem mem_memberRefNames_iff {name : String} {members : List (Member TypeExpr)} :
    name ∈ memberRefNames members ↔ ∃ member ∈ members, name ∈ member.type.refNames := by
  induction members with
  | nil => simp [memberRefNames]
  | cons member rest ih => simp [memberRefNames, ih]

theorem refNames_nullable (type : TypeExpr) : type.nullable.refNames = type.refNames := by
  have null : refNamesOf [TypeExpr.null] = [] := rfl
  cases type with
  | union types =>
      rw [nullable, refNames, refNames]
      induction types with
      | nil => exact null
      | cons first rest ih => rw [List.cons_append, refNamesOf, ih, refNamesOf]
  | _ => simp [nullable, refNames, refNamesOf, TypeExpr.null]

end TypeScript.TypeExpr

namespace Schema

/-- A name stands for a reference somewhere inside a schema. -/
def RefersTo (schema : Schema) (name : String) : Prop :=
  ∃ node, Within node schema ∧ ∃ reference, node.keywords.ref = some reference ∧
    name = TypeScript.referencedTypeName reference

theorem takenOver_refNames (Q : String → Prop) :
    TakenOver fun type => ∀ name ∈ type.refNames, Q name where
  keyword _ _ _ member := by cases member
  literal value name member := by
    cases value with
    | bool flag => cases flag <;> cases member
    | _ => cases member
  array _ inItem := inItem
  union _ _ parts name member := by
    obtain ⟨type, part, inside⟩ := TypeExpr.mem_refNamesOf_iff.mp member
    exact parts type part name inside
  intersection _ _ parts name member := by
    obtain ⟨type, part, inside⟩ := TypeExpr.mem_refNamesOf_iff.mp member
    exact parts type part name inside
  object _ parts name member := by
    obtain ⟨entry, part, inside⟩ := TypeExpr.mem_memberRefNames_iff.mp member
    exact parts entry part name inside
  record _ inValue := inValue
  nullable type inType name member := by
    rw [TypeExpr.refNames_nullable] at member
    exact inType name member

/-- The type of a schema refers to nothing but what the references inside the schema stand for. -/
theorem refersTo_of_mem_refNames {schema : Schema} {name : String}
    (member : name ∈ schema.typeOf.refNames) : schema.RefersTo name := by
  refine (takenOver_refNames schema.RefersTo).typeOf schema ?_ name member
  intro node within reference given name standsFor
  have same := List.mem_singleton.mp standsFor
  exact ⟨node, within, reference, given, same⟩

theorem RefersTo.of_child {schema child : Schema} {name : String}
    (member : child ∈ schema.children) (refers : child.RefersTo name) : schema.RefersTo name := by
  obtain ⟨node, within, found⟩ := refers
  exact ⟨node, .inside member within, found⟩

end Schema

/-! ## Schemas of a document -/

namespace Document

/-- The schemas of the parameters that are declared in place. -/
def inlineSchemas (parameters : List (OrRef Parameter)) : List Schema :=
  parameters.filterMap fun
    | .inline parameter => some parameter.valueSchema
    | .ref _ => none

def contentSchemas (content : List (String × MediaType)) : List Schema :=
  content.filterMap (·.2.schema)

def Response.schemas (response : Response) : List Schema :=
  response.schema.toList ++ contentSchemas response.content

def bodySchemas : Option (OrRef RequestBody) → List Schema
  | some (.inline body) => contentSchemas body.content
  | some (.ref _) => []
  | none => []

def Operation.schemas (operation : Operation) : List Schema :=
  inlineSchemas operation.parameters ++ bodySchemas operation.requestBody ++
    operation.responses.flatMap fun entry => entry.2.schemas

def PathItem.schemas (item : PathItem) : List Schema :=
  inlineSchemas item.parameters ++ item.operations.flatMap fun entry => entry.2.schemas

/-- The schemas of the parameters and request bodies that a document shares. -/
def Components.sharedSchemas (components : Components) : List Schema :=
  components.parameters.map (·.2.valueSchema) ++
    components.requestBodies.flatMap fun entry => contentSchemas entry.2.content

/-- The schemas that stand in a document outside of other schemas: of declarations, parameters,
request bodies and responses. -/
def schemaRoots (document : Document) : List Schema :=
  document.schemas.map (·.2) ++ document.parameters.map (·.2.valueSchema) ++
    document.components.toList.flatMap Components.sharedSchemas ++
    document.paths.flatMap fun entry => entry.2.schemas

def lastSegment (reference : String) : String :=
  String.ofList ((Text.split '/' reference.toList).getLastD [])

/-- Every reference in a schema of the document, at any depth, ends in the key of a named
schema. -/
def ReferencesNamed (document : Document) : Prop :=
  ∀ root ∈ document.schemaRoots, ∀ node, Schema.Within node root →
    ∀ reference, node.keywords.ref = some reference →
      lastSegment reference ∈ document.schemas.map (·.1)

theorem mem_values_of_entry {α : Type} {name : String} {entries : List (String × α)} {value : α}
    (found : entry name entries = some value) : ∃ key, (key, value) ∈ entries := by
  obtain ⟨⟨key, held⟩, first, rfl⟩ := Option.map_eq_some_iff.mp found
  exact ⟨key, List.mem_of_find?_eq_some first⟩

theorem mem_schemaRoots_of_named {document : Document} {name : String} {schema : Schema}
    (member : (name, schema) ∈ document.schemas) : schema ∈ document.schemaRoots := by
  simp only [schemaRoots, List.mem_append, List.mem_map]
  exact Or.inl (Or.inl (Or.inl ⟨_, member, rfl⟩))

theorem mem_schemaRoots_of_parameter? {document : Document} {reference : String}
    {parameter : Parameter} (found : document.parameter? reference = some parameter) :
    parameter.valueSchema ∈ document.schemaRoots := by
  unfold parameter? at found
  split at found
  · obtain ⟨key, member⟩ := mem_values_of_entry found
    simp only [schemaRoots, List.mem_append, List.mem_map]
    exact Or.inl (Or.inl (Or.inr ⟨_, member, rfl⟩))
  · split at found
    · rename_i components _ given
      obtain ⟨key, member⟩ := mem_values_of_entry found
      have shared : parameter.valueSchema ∈ components.sharedSchemas :=
        List.mem_append_left _ (List.mem_map.mpr ⟨_, member, rfl⟩)
      simp only [schemaRoots, given, Option.toList_some, List.mem_append, List.mem_flatMap]
      exact Or.inl (Or.inr ⟨components, List.mem_singleton_self _, shared⟩)
    · cases found

theorem mem_schemaRoots_of_requestBody? {document : Document} {reference : String}
    {body : RequestBody} (found : document.requestBody? reference = some body) {schema : Schema}
    (member : schema ∈ contentSchemas body.content) : schema ∈ document.schemaRoots := by
  unfold requestBody? at found
  split at found
  · rename_i components _ given
    obtain ⟨key, listed⟩ := mem_values_of_entry found
    have shared : schema ∈ components.sharedSchemas :=
      List.mem_append_right _ (List.mem_flatMap.mpr ⟨_, listed, member⟩)
    simp only [schemaRoots, given, Option.toList_some, List.mem_append, List.mem_flatMap]
    exact Or.inl (Or.inr ⟨components, List.mem_singleton_self _, shared⟩)
  · cases found

theorem mem_schemaRoots_of_path {document : Document} {path : String} {item : PathItem}
    (member : (path, item) ∈ document.paths) {schema : Schema} (inside : schema ∈ item.schemas) :
    schema ∈ document.schemaRoots :=
  List.mem_append_right _ (List.mem_flatMap.mpr ⟨_, member, inside⟩)

theorem mem_schemaRoots_of_operation {document : Document} {path : String} {item : PathItem}
    (member : (path, item) ∈ document.paths) {method : Method} {operation : Operation}
    (given : (method, operation) ∈ item.operations) {schema : Schema}
    (inside : schema ∈ operation.schemas) : schema ∈ document.schemaRoots :=
  mem_schemaRoots_of_path member
    (List.mem_append_right _ (List.mem_flatMap.mpr ⟨_, given, inside⟩))

end Document

/-! ## Types of a client -/

namespace Operation

open Document (Parameter MediaType Fault)

theorem mem_putParameter {parameter other : Parameter} {merged : List Parameter}
    (member : other ∈ putParameter parameter merged) : other = parameter ∨ other ∈ merged := by
  induction merged with
  | nil => exact Or.inl (List.mem_singleton.mp member)
  | cons first rest ih =>
      rw [putParameter] at member
      split at member
      · rcases List.mem_cons.mp member with same | later
        · exact Or.inl same
        · exact Or.inr (List.mem_cons_of_mem _ later)
      · rcases List.mem_cons.mp member with rfl | later
        · exact Or.inr List.mem_cons_self
        · exact (ih later).imp id (List.mem_cons_of_mem _)

theorem mem_mergeOnto {document : Document} {given : List (OrRef Parameter)}
    {before merged : List Parameter} (found : mergeOnto document before given = .ok merged)
    {parameter : Parameter} (member : parameter ∈ merged) :
    parameter ∈ before ∨ ∃ source ∈ given, resolveParameter document source = .ok parameter := by
  induction given generalizing before with
  | nil =>
      cases found
      exact Or.inl member
  | cons source rest ih =>
      rw [mergeOnto] at found
      cases resolved : resolveParameter document source with
      | error fault =>
          rw [resolved] at found
          cases found
      | ok first =>
          rw [resolved] at found
          rcases ih found with put | ⟨later, listed, resolves⟩
          · rcases mem_putParameter put with rfl | old
            · exact Or.inr ⟨source, List.mem_cons_self, resolved⟩
            · exact Or.inl old
          · exact Or.inr ⟨later, List.mem_cons_of_mem _ listed, resolves⟩

theorem schema_of_resolveParameter {document : Document} {given : List (OrRef Parameter)}
    {source : OrRef Parameter} (listed : source ∈ given) {parameter : Parameter}
    (resolved : resolveParameter document source = .ok parameter) :
    parameter.valueSchema ∈ Document.inlineSchemas given ∨
      parameter.valueSchema ∈ document.schemaRoots := by
  cases source with
  | inline value =>
      cases resolved
      exact Or.inl (List.mem_filterMap.mpr ⟨_, listed, rfl⟩)
  | ref reference =>
      rw [resolveParameter] at resolved
      cases found : document.parameter? reference with
      | none =>
          rw [found] at resolved
          cases resolved
      | some value =>
          rw [found] at resolved
          cases resolved
          exact Or.inr (Document.mem_schemaRoots_of_parameter? found)

theorem mem_sites {document : Document} {site : Site} (member : site ∈ Graph.sites document) :
    (site.path, site.item) ∈ document.paths ∧
      (site.method, site.operation) ∈ site.item.operations := by
  obtain ⟨⟨path, item⟩, listed, inside⟩ := List.mem_flatMap.mp member
  obtain ⟨⟨method, operation⟩, given, rfl⟩ := List.mem_map.mp inside
  exact ⟨listed, given⟩

/-- The schema of every merged parameter stands in the document. -/
theorem mem_schemaRoots_of_merged {document : Document} {site : Site}
    (member : site ∈ Graph.sites document) {parameters : List Parameter}
    (merged : mergedParameters document site.item site.operation = .ok parameters)
    {parameter : Parameter} (given : parameter ∈ parameters) :
    parameter.valueSchema ∈ document.schemaRoots := by
  obtain ⟨path, operation⟩ := mem_sites member
  rcases mem_mergeOnto merged given with none | ⟨source, listed, resolved⟩
  · cases none
  · rcases List.mem_append.mp listed with shared | own
    · rcases schema_of_resolveParameter shared resolved with inline | root
      · exact Document.mem_schemaRoots_of_path path (List.mem_append_left _ inline)
      · exact root
    · rcases schema_of_resolveParameter own resolved with inline | root
      · exact Document.mem_schemaRoots_of_operation path operation
          (List.mem_append_left _ (List.mem_append_left _ inline))
      · exact root

theorem mem_of_preferredMedia {content : List (String × MediaType)} {media : MediaType}
    (found : preferredMedia content = some media) : ∃ type, (type, media) ∈ content := by
  unfold preferredMedia at found
  split at found
  · rename_i preferred
    cases found
    obtain ⟨type, -, listed⟩ := List.exists_of_findSome?_eq_some preferred
    exact Document.mem_values_of_entry listed
  · obtain ⟨⟨type, held⟩, first, rfl⟩ := Option.map_eq_some_iff.mp found
    exact ⟨type, List.mem_of_find?_eq_some first⟩

theorem schema_of_contentType {content : List (String × MediaType)} {type : TypeExpr}
    (found : contentType content = some type) :
    ∃ schema ∈ Document.contentSchemas content, type = schema.typeOf := by
  unfold contentType at found
  split at found
  · rename_i media preferred
    obtain ⟨name, listed⟩ := mem_of_preferredMedia preferred
    obtain ⟨schema, given, rfl⟩ := Option.map_eq_some_iff.mp found
    exact ⟨schema, List.mem_filterMap.mpr ⟨_, listed, given⟩, rfl⟩
  · cases found

theorem type_of_bodyPayload (body : Document.RequestBody) :
    (bodyPayload body).type.refNames = [] ∨
      ∃ schema ∈ Document.contentSchemas body.content, (bodyPayload body).type = schema.typeOf := by
  unfold bodyPayload
  split
  · exact Or.inl rfl
  · cases found : contentType body.content with
    | none => exact Or.inl rfl
    | some type => exact Or.inr (schema_of_contentType found)

/-- The type of a payload refers to nothing, or is the type of a schema in the document. -/
theorem type_of_payload {document : Document} {site : Site}
    (member : site ∈ Graph.sites document) {parameters : List Parameter}
    (merged : mergedParameters document site.item site.operation = .ok parameters)
    {sent : Payload} (found : payload document parameters site.operation = .ok (some sent)) :
    sent.type.refNames = [] ∨ ∃ root ∈ document.schemaRoots, sent.type = root.typeOf := by
  obtain ⟨path, operation⟩ := mem_sites member
  unfold payload at found
  split at found
  · rename_i parameter last
    cases found
    have given : parameter ∈ parameters :=
      (List.mem_filter.mp (List.mem_of_getLast? last)).1
    exact Or.inr ⟨_, mem_schemaRoots_of_merged member merged given, rfl⟩
  · cases found
    exact Or.inl rfl
  · rename_i body _ _ given
    cases resolved : resolveBody document body with
    | error fault =>
        rw [resolved] at found
        cases found
    | ok content =>
        rw [resolved] at found
        cases found
        rcases type_of_bodyPayload content with plain | ⟨schema, listed, typed⟩
        · exact Or.inl plain
        · refine Or.inr ⟨schema, ?_, typed⟩
          cases body with
          | inline value =>
              cases resolved
              refine Document.mem_schemaRoots_of_operation path operation
                (List.mem_append_left _ (List.mem_append_right _ ?_))
              rw [given]
              exact listed
          | ref reference =>
              rw [resolveBody] at resolved
              split at resolved
              · rename_i shared pointed
                cases resolved
                exact Document.mem_schemaRoots_of_requestBody? pointed listed
              · cases resolved
  · cases found

theorem mem_of_successResponse {operation : Document.Operation} {response : Document.Response}
    (found : successResponse operation = some response) :
    ∃ code, (code, response) ∈ operation.responses := by
  simp only [successResponse, Option.or_eq_some_iff] at found
  rcases found with first | ⟨-, second | ⟨-, other | ⟨-, last⟩⟩⟩
  · exact Document.mem_values_of_entry first
  · exact Document.mem_values_of_entry second
  · obtain ⟨⟨code, held⟩, listed, rfl⟩ := Option.map_eq_some_iff.mp other
    exact ⟨code, List.mem_of_find?_eq_some listed⟩
  · exact Document.mem_values_of_entry last

/-- The type of a response refers to nothing, or is the type of a schema in the document. -/
theorem type_of_responseType {document : Document} {site : Site}
    (member : site ∈ Graph.sites document) :
    (responseType site.operation).refNames = [] ∨
      ∃ root ∈ document.schemaRoots, responseType site.operation = root.typeOf := by
  obtain ⟨path, operation⟩ := mem_sites member
  have root {response : Document.Response} {code : String}
      (listed : (code, response) ∈ site.operation.responses) {schema : Schema}
      (inside : schema ∈ response.schemas) : schema ∈ document.schemaRoots :=
    Document.mem_schemaRoots_of_operation path operation
      (List.mem_append_right _ (List.mem_flatMap.mpr ⟨_, listed, inside⟩))
  unfold responseType
  split
  · exact Or.inl rfl
  · rename_i response success
    obtain ⟨code, listed⟩ := mem_of_successResponse success
    split
    · rename_i schema given
      refine Or.inr ⟨schema, root listed (List.mem_append_left _ ?_), rfl⟩
      rw [given]
      exact List.mem_singleton_self schema
    · cases found : contentType response.content with
      | none => exact Or.inl rfl
      | some type =>
          obtain ⟨schema, inside, rfl⟩ := schema_of_contentType found
          exact Or.inr ⟨schema, root listed (List.mem_append_right _ inside), rfl⟩

end Operation

end ClientGen
