import ClientGen.Proofs.Declaration
import ClientGen.Proofs.KeyOrder
import ClientGen.Proofs.NameCapture
import ClientGen.Proofs.References
import Mathlib.Data.List.Basic
import Mathlib.Tactic.Tauto

/-!
# When a description is parsed

A record is parsed exactly when its description declares a version, every reference that has to be
followed leads somewhere, and the functions have names of their own. The graph then has one
function for each operation, in the order of paths and methods, and one declaration for each named
schema.
-/

namespace ClientGen

namespace Document

def PathItem.operation? (item : PathItem) : Method → Option Operation
  | .get => item.get
  | .put => item.put
  | .post => item.post
  | .delete => item.delete
  | .options => item.options
  | .head => item.head
  | .patch => item.patch

/-- A document says which version of the format it follows. -/
def DeclaresVersion (document : Document) : Prop :=
  document.swagger.isSome ∨ document.openapi.isSome

theorem declaresVersion_iff (document : Document) :
    document.DeclaresVersion ↔ (document.swagger.isNone && document.openapi.isNone) = false := by
  unfold DeclaresVersion
  cases document.swagger <;> cases document.openapi <;> simp

theorem ofJson_eq_ok_iff (source : Json) (document : Document) :
    ofJson source = .ok document ↔ decode source = .ok document ∧ document.DeclaresVersion := by
  unfold ofJson
  cases read : decode source with
  | error fault => simp
  | ok found =>
      rw [declaresVersion_iff]
      constructor
      · intro accepted
        dsimp only at accepted
        split at accepted
        · cases accepted
        · rename_i declared
          obtain rfl := Except.ok.inj accepted
          exact ⟨rfl, Bool.eq_false_iff.mpr declared⟩
      · rintro ⟨same, declared⟩
        obtain rfl := Except.ok.inj same
        dsimp only
        rw [declared]
        rfl

end Document

namespace Schema

def Declaration.name : Declaration → String
  | .interface declared => declared.name
  | .typeAlias declared => declared.name

theorem name_declare (schema : Schema) (name : String) :
    (schema.declare name).name = TypeScript.sanitizeTypeName name := by
  cases declared : schema.declare name with
  | interface made => exact (interface_of_declare declared).1
  | typeAlias made => exact (typeAlias_of_declare declared).1

end Schema

/-- The place of a method among the methods of a path. -/
def Method.rank : Method → Nat
  | .get => 0
  | .post => 1
  | .put => 2
  | .patch => 3
  | .delete => 4
  | .head => 5
  | .options => 6

namespace Operation

open Document (Parameter Fault)

namespace Site

/-- A document has the operation under the method of the path. -/
structure In (document : Document) (site : Site) : Prop where
  path : (site.path, site.item) ∈ document.paths
  operation : site.item.operation? site.method = some site.operation

/-- The order of operations: by the bytes of the path, then by the method. -/
def Precedes (a b : Site) : Prop :=
  Text.bytes a.path < Text.bytes b.path ∨ a.path = b.path ∧ a.method.rank < b.method.rank

/-- The references that an operation follows lead somewhere. That of its request body is followed
only if no parameter is the body or part of a form. -/
structure Resolves (document : Document) (site : Site) : Prop where
  parameters : ∀ reference, .ref reference ∈ site.item.parameters ++ site.operation.parameters →
    (document.parameter? reference).isSome
  body : ∀ merged, mergedParameters document site.item site.operation = .ok merged →
    (∀ parameter ∈ merged, parameter.location ≠ "body" ∧ parameter.location ≠ "formData") →
    ∀ reference, site.operation.requestBody = some (.ref reference) →
      (document.requestBody? reference).isSome

end Site

/-! ## All operations, in order -/

theorem mem_operations_iff (item : Document.PathItem) (method : Method)
    (operation : Document.Operation) :
    (method, operation) ∈ item.operations ↔ item.operation? method = some operation := by
  rw [Document.PathItem.operations, List.mem_filterMap]
  constructor
  · rintro ⟨⟨slot, found⟩, listed, given⟩
    obtain ⟨_, rfl, same⟩ := Option.map_eq_some_iff.mp given
    obtain ⟨rfl, rfl⟩ := Prod.mk.inj same
    simp only [List.mem_cons, Prod.mk.injEq, List.not_mem_nil, or_false] at listed
    rcases listed with ⟨rfl, held⟩ | ⟨rfl, held⟩ | ⟨rfl, held⟩ | ⟨rfl, held⟩ | ⟨rfl, held⟩ |
      ⟨rfl, held⟩ | ⟨rfl, held⟩ <;> exact held.symm
  · intro given
    refine ⟨(method, item.operation? method), ?_, ?_⟩
    · cases method <;> simp [Document.PathItem.operation?]
    · simp [given]

/-- The operations of a document are those under some method of some path. -/
theorem mem_sites_iff (document : Document) (site : Site) :
    site ∈ Graph.sites document ↔ site.In document := by
  constructor
  · intro member
    obtain ⟨path, operation⟩ := mem_sites member
    exact ⟨path, (mem_operations_iff _ _ _).mp operation⟩
  · rintro ⟨path, operation⟩
    apply List.mem_flatMap.mpr
    refine ⟨_, path, List.mem_map.mpr ⟨_, (mem_operations_iff _ _ _).mpr operation, ?_⟩⟩
    rfl

theorem pairwise_operations (item : Document.PathItem) :
    item.operations.Pairwise fun a b => a.1.rank < b.1.rank := by
  unfold Document.PathItem.operations
  apply List.Pairwise.filterMap (R := fun a b => a.1.rank < b.1.rank)
  · rintro ⟨method, _⟩ ⟨other, _⟩ less a first b second
    obtain ⟨_, _, rfl⟩ := Option.map_eq_some_iff.mp first
    obtain ⟨_, _, rfl⟩ := Option.map_eq_some_iff.mp second
    exact less
  · simp [Method.rank]

/-- If the paths of a document are sorted, so are its operations. -/
theorem pairwise_sites {document : Document}
    (sorted : (document.paths.map Prod.fst).Pairwise (· < ·)) :
    (Graph.sites document).Pairwise Site.Precedes := by
  apply List.pairwise_flatMap.mpr
  constructor
  · rintro ⟨path, item⟩ _
    apply List.pairwise_map.mpr
    exact (pairwise_operations item).imp fun less => .inr ⟨rfl, less⟩
  · apply (List.pairwise_map.mp sorted).imp
    rintro ⟨path, item⟩ ⟨later, other⟩ less site first next second
    obtain ⟨_, _, rfl⟩ := List.mem_map.mp first
    obtain ⟨_, _, rfl⟩ := List.mem_map.mp second
    exact .inl ((Text.bytes_lt_iff _ _).mpr less)

/-! ## When functions are built -/

theorem mergeOnto_isOk_iff (document : Document) (before : List Parameter)
    (given : List (OrRef Parameter)) :
    (∃ merged, mergeOnto document before given = .ok merged) ↔
      ∀ reference, .ref reference ∈ given → (document.parameter? reference).isSome := by
  induction given generalizing before with
  | nil => simp [mergeOnto]
  | cons first rest ih =>
      rw [mergeOnto]
      cases first with
      | inline parameter => simp [resolveParameter, ih]
      | ref reference =>
          rw [resolveParameter]
          cases found : document.parameter? reference with
          | none => simp [found]
          | some parameter => simp [ih, found]

theorem located_eq_nil_iff (location : String) (parameters : List Parameter) :
    located location parameters = [] ↔ ∀ parameter ∈ parameters, parameter.location ≠ location := by
  simp [located]

theorem payload_isOk_iff (document : Document) (parameters : List Parameter)
    (operation : Document.Operation) :
    (∃ sent, payload document parameters operation = .ok sent) ↔
      ((∀ parameter ∈ parameters,
          parameter.location ≠ "body" ∧ parameter.location ≠ "formData") →
        ∀ reference, operation.requestBody = some (.ref reference) →
          (document.requestBody? reference).isSome) := by
  have none_located : (∀ parameter ∈ parameters,
        parameter.location ≠ "body" ∧ parameter.location ≠ "formData") ↔
      located "body" parameters = [] ∧ located "formData" parameters = [] := by
    rw [located_eq_nil_iff, located_eq_nil_iff, ← forall₂_and]
  rw [none_located, payload]
  cases bodies : (located "body" parameters).getLast? with
  | some parameter =>
      have present : located "body" parameters ≠ [] := by
        intro absent
        simp [absent] at bodies
      simp [present]
  | none =>
      cases forms : located "formData" parameters with
      | cons form forms => simp
      | nil =>
          have absent : located "body" parameters = [] := List.getLast?_eq_none_iff.mp bodies
          cases operation.requestBody with
          | none => simp
          | some body =>
              cases body with
              | inline value => simp [resolveBody, Except.map]
              | ref reference =>
                  cases found : document.requestBody? reference with
                  | none => simp [resolveBody, Except.map, absent, found]
                  | some value => simp [resolveBody, Except.map, found]

/-- A function is built exactly when the references of its operation lead somewhere. -/
theorem function_isOk_iff (document : Document) (settings : Settings) (envelope : Graph.Envelope)
    (site : Site) :
    (∃ built, function document settings envelope site = .ok built) ↔ site.Resolves document := by
  constructor
  · rintro ⟨built, made⟩
    obtain ⟨parameters, sent, merged, found, -⟩ := (function_eq_ok_iff _ _ _ _ _).mp made
    refine ⟨(mergeOnto_isOk_iff document [] _).mp ⟨parameters, merged⟩, ?_⟩
    intro others same
    obtain rfl : parameters = others := Except.ok.inj (merged.symm.trans same)
    exact (payload_isOk_iff document parameters site.operation).mp ⟨sent, found⟩
  · rintro ⟨parameters, body⟩
    obtain ⟨merged, same⟩ := (mergeOnto_isOk_iff document [] _).mpr parameters
    obtain ⟨sent, found⟩ := (payload_isOk_iff document merged site.operation).mpr (body merged same)
    exact ⟨_, (function_eq_ok_iff _ _ _ _ _).mpr ⟨merged, sent, same, found, rfl⟩⟩

theorem name_of_function {document : Document} {settings : Settings} {envelope : Graph.Envelope}
    {site : Site} {built : Graph.Function}
    (made : function document settings envelope site = .ok built) : built.name = site.name := by
  obtain ⟨_, _, -, -, rfl⟩ := (function_eq_ok_iff _ _ _ _ _).mp made
  rfl

end Operation

namespace Graph

open Operation (Settings Site)

/-- Functions are built one after the other exactly when each of them can be built and has a name
that no other has and that is not taken before. -/
theorem functionsOf_isOk_iff (document : Document) (settings : Settings) (envelope : Envelope)
    (taken : List String) (sites : List Site) :
    (∃ functions, functionsOf document settings envelope taken sites = .ok functions) ↔
      (∀ site ∈ sites, site.Resolves document) ∧ (sites.map Site.name).Nodup ∧
        (sites.map Site.name).Disjoint taken := by
  induction sites generalizing taken with
  | nil => simp [functionsOf]
  | cons site rest ih =>
      rw [functionsOf]
      cases made : Operation.function document settings envelope site with
      | error fault =>
          have unresolved : ¬ site.Resolves document := by
            rw [← Operation.function_isOk_iff document settings envelope site, made]
            rintro ⟨built, ⟨⟩⟩
          simp [unresolved]
      | ok built =>
          have resolved : site.Resolves document :=
            (Operation.function_isOk_iff document settings envelope site).mp ⟨built, made⟩
          dsimp only
          rw [Operation.name_of_function made]
          split
          · rename_i repeated
            have used : site.name ∈ taken := List.contains_iff_mem.mp repeated
            simp [used]
          · rename_i new
            have free : site.name ∉ taken := mt List.contains_iff_mem.mpr new
            -- The name of this function is taken for the others, which keeps theirs apart from it.
            have mapped : (∃ functions, (functionsOf document settings envelope
                  (site.name :: taken) rest).map (fun others => built :: others) =
                .ok functions) ↔
                ∃ functions, functionsOf document settings envelope (site.name :: taken) rest =
                  .ok functions := by
              cases functionsOf document settings envelope (site.name :: taken) rest <;>
                simp [Except.map]
            rw [mapped, ih, List.map_cons, List.nodup_cons, List.forall_mem_cons,
              List.disjoint_cons_left, List.disjoint_cons_right]
            tauto

/-! ## Declarations of all schemas -/

/-- A declaration is made for a schema of a document under the name that the schema has there. -/
structure DeclaredFor (entry : String × Schema) (declaration : Schema.Declaration) : Prop where
  made : declaration = entry.2.declare entry.1
  name : declaration.name = TypeScript.sanitizeTypeName entry.1

theorem declarations_forall₂ (document : Document) :
    List.Forall₂ DeclaredFor document.schemas (declarations document) := by
  rw [declarations, List.forall₂_map_right_iff, List.forall₂_same]
  exact fun entry _ => ⟨rfl, Schema.name_declare entry.2 entry.1⟩

/-- Every declaration is either an alias or an interface. -/
theorem length_aliasesIn_add_length_interfacesIn (declarations : List Schema.Declaration) :
    (aliasesIn declarations).length + (interfacesIn declarations).length = declarations.length := by
  induction declarations with
  | nil => rfl
  | cons declaration rest ih =>
      rw [List.length_cons, ← ih]
      cases declaration with
      | interface declared =>
          exact (Nat.add_assoc _ (interfacesIn rest).length 1).symm
      | typeAlias declared =>
          exact Nat.add_right_comm (aliasesIn rest).length 1 _

/-- A graph has one function for each operation of a document, and one declaration for each of its
named schemas. -/
structure Covers (graph : Graph) (document : Document) (settings : Settings) : Prop where
  functions : List.Forall₂ (fun site function =>
      Operation.function document settings (envelopeOf settings) site = .ok function ∧
        function.name = site.name)
    (sites document) graph.functions
  declarations : ∃ declarations, List.Forall₂ DeclaredFor document.schemas declarations ∧
    graph.aliases = aliasesIn declarations ∧ graph.interfaces = interfacesIn declarations ∧
      graph.aliases.length + graph.interfaces.length = document.schemas.length

theorem covers_of_ofDocument {document : Document} {shaping : Shaping} {client : Client}
    {graph : Graph} (built : ofDocument document shaping client = .ok graph) :
    graph.Covers document (settings shaping document client) := by
  obtain ⟨functions, made, rfl⟩ := (ofDocument_eq_ok_iff document shaping client graph).mp built
  constructor
  · apply (functionsOf_forall₂ made).imp
    exact fun site function single => ⟨single, Operation.name_of_function single⟩
  · refine ⟨declarations document, declarations_forall₂ document, rfl, rfl, ?_⟩
    calc (aliasesIn (declarations document)).length + (interfacesIn (declarations document)).length
        = (declarations document).length := length_aliasesIn_add_length_interfacesIn _
      _ = document.schemas.length := List.length_map _

end Graph

namespace Record

open Operation (Site)

/-- Parsing succeeds exactly on a description that declares its version, whose references lead
somewhere and whose operations have names of their own. It then covers the whole description: every
operation has its function, every named schema its declaration, in the order of the description. In
a description that was read from a text the operations come by path, then by method. Nothing but
the graph of the record changes. -/
theorem parse_complete (client : Client) (record : Record) :
    ((∃ parsed, record.parse client = .ok parsed) ↔
      ∃ source document, record.source = some source ∧ Document.decode source = .ok document ∧
        document.DeclaresVersion ∧ (∀ site : Site, site.In document → site.Resolves document) ∧
        ((Graph.sites document).map Site.name).Nodup) ∧
    ∀ parsed, record.parse client = .ok parsed →
      parsed.input = record.input ∧ parsed.config = record.config ∧
      parsed.outputs = record.outputs ∧ parsed.source = record.source ∧
      ∃ source document, record.source = some source ∧ Document.decode source = .ok document ∧
        (∀ site, site ∈ Graph.sites document ↔ site.In document) ∧
        (source.IsCanonical → (Graph.sites document).Pairwise Site.Precedes) ∧
        parsed.graph.Covers document (Graph.settings record.config.shaping document client) := by
  constructor
  · constructor
    · rintro ⟨parsed, accepted⟩
      obtain ⟨source, document, graph, loaded, read, built, -⟩ :=
        (parse_eq_ok_iff client record parsed).mp accepted
      obtain ⟨decoded, version⟩ := (Document.ofJson_eq_ok_iff source document).mp read
      obtain ⟨functions, made, -⟩ := (Graph.ofDocument_eq_ok_iff document _ client graph).mp built
      obtain ⟨resolved, distinct, -⟩ :=
        (Graph.functionsOf_isOk_iff document _ _ [] _).mp ⟨functions, made⟩
      refine ⟨source, document, loaded, decoded, version, fun site given => ?_, distinct⟩
      exact resolved site ((Operation.mem_sites_iff document site).mpr given)
    · rintro ⟨source, document, loaded, decoded, version, resolved, distinct⟩
      have read := (Document.ofJson_eq_ok_iff source document).mpr ⟨decoded, version⟩
      obtain ⟨functions, made⟩ := (Graph.functionsOf_isOk_iff document
          (Graph.settings record.config.shaping document client)
          (Graph.envelopeOf (Graph.settings record.config.shaping document client)) [] _).mpr
        ⟨fun site listed => resolved site ((Operation.mem_sites_iff document site).mp listed),
          distinct, List.disjoint_nil_right _⟩
      have built := (Graph.ofDocument_eq_ok_iff document _ client _).mpr ⟨functions, made, rfl⟩
      exact ⟨_, (parse_eq_ok_iff client record _).mpr
        ⟨source, document, _, loaded, read, built, rfl⟩⟩
  · intro parsed accepted
    obtain ⟨source, document, graph, loaded, read, built, rfl⟩ :=
      (parse_eq_ok_iff client record parsed).mp accepted
    obtain ⟨decoded, -⟩ := (Document.ofJson_eq_ok_iff source document).mp read
    refine ⟨rfl, rfl, rfl, rfl, source, document, loaded, decoded,
      Operation.mem_sites_iff document, fun canonical => ?_, Graph.covers_of_ofDocument built⟩
    exact Operation.pairwise_sites (Document.pairwise_paths_of_decode canonical decoded)

/-- The description of answers is parsed, and covered. -/
theorem parse_complete_answers :
    (Answers.parsed .axios).graph.Covers Answers.document (Answers.settings .axios) ∧
      (Graph.sites Answers.document).Pairwise Site.Precedes ∧
      ((Graph.sites Answers.document).map Site.name).Nodup := by
  have accepted : Answers.start.parse .axios = .ok (Answers.parsed .axios) := by rfl
  have canonical : Answers.source.IsCanonical := ⟨Answers.source, by rfl⟩
  obtain ⟨succeeds, onSuccess⟩ := parse_complete .axios Answers.start
  obtain ⟨source, document, loaded, read, -, -, distinct⟩ := succeeds.mp ⟨_, accepted⟩
  obtain rfl : Answers.source = source := Option.some.inj loaded
  obtain rfl : Answers.document = document := Except.ok.inj read
  obtain ⟨-, -, -, -, _, _, again, decoded, -, sorted, covers⟩ := onSuccess _ accepted
  obtain rfl := Option.some.inj again
  obtain rfl : Answers.document = _ := Except.ok.inj decoded
  exact ⟨covers, sorted canonical, distinct⟩

end Record

end ClientGen
