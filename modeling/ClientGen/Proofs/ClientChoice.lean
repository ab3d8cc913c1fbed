import ClientGen.Proofs.Operations

/-!
# The choice of the client

The HTTP client decides how functions send their requests. It does not decide which functions there
are or how they are called: a description is parsed for one client exactly when it is parsed for
another, for the same faults otherwise, and the two graphs agree on everything that callers see but
the type of the options of a call. Return types agree as well once their wrapper is configured.
-/

namespace ClientGen

/-- Two outcomes are alike: results that are related, or the same fault. -/
inductive Alike {ε α β : Type} (related : α → β → Prop) : Except ε α → Except ε β → Prop where
  | ok {a : α} {b : β} : related a b → Alike related (.ok a) (.ok b)
  | error (fault : ε) : Alike related (.error fault) (.error fault)

namespace Operation

open Document (Parameter)

/-- Settings that agree but for the client, and for the wrapper unless it is configured. -/
structure Settings.SameButClient (wrapped : Prop) (settings other : Settings) : Prop where
  baseUrl : settings.baseUrl = other.baseUrl
  allOptional : settings.allOptional = other.allOptional
  infer : settings.infer = other.infer
  httpModule : settings.httpModule = other.httpModule
  wrapper : wrapped → settings.wrapper = other.wrapper

/-- Functions for two clients that are called alike: they have the same name, documentation and
parameters, except that the options at the end have the type of the client, and they have the same
return type if the wrapper is configured. -/
structure CalledAlike (wrapped : Prop) (client other : Client) (first second : Graph.Function) :
    Prop where
  name : first.name = second.name
  description : first.description = second.description
  parameters : ∃ shared,
    first.parameters = shared ++ [Graph.Field.optional "config" client.configType] ∧
      second.parameters = shared ++ [Graph.Field.optional "config" other.configType]
  returnType : wrapped → first.returnType = second.returnType

variable {wrapped : Prop} {settings other : Settings}

theorem calledAlike_assemble (same : settings.SameButClient wrapped other) (site : Site)
    (parameters : List Parameter) (sent : Option Payload) :
    CalledAlike wrapped settings.client other.client
      (assemble settings (Graph.envelopeOf settings) site parameters sent)
      (assemble other (Graph.envelopeOf other) site parameters sent) where
  name := rfl
  description := rfl
  parameters := by
    refine ⟨_, rfl, ?_⟩
    dsimp only [assemble, parameterList]
    rw [same.allOptional]
  returnType configured := by
    dsimp only [assemble, Graph.envelopeOf]
    rw [same.wrapper configured, same.infer]

/-- The function of an operation is put together from what is found in the document. -/
theorem function_eq_bind (document : Document) (settings : Settings) (envelope : Graph.Envelope)
    (site : Site) :
    function document settings envelope site =
      (mergedParameters document site.item site.operation).bind fun parameters =>
        (payload document parameters site.operation).map fun sent =>
          assemble settings envelope site parameters sent := by
  unfold function
  cases mergedParameters document site.item site.operation with
  | error fault => rfl
  | ok parameters =>
      change (payload document parameters site.operation).bind _ = Except.map _ (payload _ _ _)
      cases payload document parameters site.operation <;> rfl

/-- Whether a function is built does not depend on the settings. -/
theorem alike_function (same : settings.SameButClient wrapped other) (document : Document)
    (site : Site) :
    Alike (CalledAlike wrapped settings.client other.client)
      (function document settings (Graph.envelopeOf settings) site)
      (function document other (Graph.envelopeOf other) site) := by
  rw [function_eq_bind, function_eq_bind]
  cases mergedParameters document site.item site.operation with
  | error fault => exact .error fault
  | ok parameters =>
      dsimp only [Except.bind]
      cases payload document parameters site.operation with
      | error fault => exact .error fault
      | ok sent => exact .ok (calledAlike_assemble same site parameters sent)

end Operation

namespace Graph

open Operation (Settings Site CalledAlike)

/-- The loop over the operations: as long as functions are called alike the same names are taken,
so both loops stop at the same operation for the same fault, or not at all. -/
theorem alike_functionsOf {wrapped : Prop} {settings other : Settings}
    (same : settings.SameButClient wrapped other) (document : Document) (taken : List String)
    (sites : List Site) :
    Alike (List.Forall₂ (CalledAlike wrapped settings.client other.client))
      (functionsOf document settings (envelopeOf settings) taken sites)
      (functionsOf document other (envelopeOf other) taken sites) := by
  induction sites generalizing taken with
  | nil => exact .ok .nil
  | cons site rest ih =>
      have single := Operation.alike_function same document site
      rw [functionsOf, functionsOf]
      generalize Operation.function document settings (envelopeOf settings) site = first,
        Operation.function document other (envelopeOf other) site = second at single ⊢
      cases single with
      | error fault => exact .error fault
      | @ok function counterpart alike =>
          dsimp only
          rw [alike.name]
          split
          · exact .error _
          · have others := ih (counterpart.name :: taken)
            generalize functionsOf document settings _ _ rest = first,
              functionsOf document other _ _ rest = second at others ⊢
            cases others with
            | error fault => exact .error fault
            | ok later => exact .ok (.cons alike later)

def IsWrapped (shaping : Shaping) : Prop :=
  (shaping.responses.bind ResponseShape.wrapper?).isSome

theorem sameButClient_settings (shaping : Shaping) (document : Document) (client other : Client) :
    (settings shaping document client).SameButClient (IsWrapped shaping)
      (settings shaping document other) where
  baseUrl := rfl
  allOptional := rfl
  infer := rfl
  httpModule := rfl
  wrapper configured := by
    obtain ⟨wrapper, given⟩ := Option.isSome_iff_exists.mp configured
    dsimp only [settings]
    rw [given]
    rfl

/-- The graphs for two clients agree on what callers see: functions that are called alike, in the
same order, and the same comments, variables and types. -/
structure SameSurface (shaping : Shaping) (client other : Client) (first second : Graph) :
    Prop where
  comments : first.comments = second.comments
  bindings : first.bindings = second.bindings
  aliases : first.aliases = second.aliases
  interfaces : first.interfaces = second.interfaces
  functions : List.Forall₂ (CalledAlike (IsWrapped shaping) client other) first.functions
    second.functions

/-- A graph is put together from its functions. -/
theorem ofDocument_eq_map (document : Document) (shaping : Shaping) (client : Client) :
    ofDocument document shaping client =
      (functionsOf document (settings shaping document client)
        (envelopeOf (settings shaping document client)) [] (sites document)).map
          (assemble document shaping client) := by
  change (functionsOf document _ _ [] (sites document)).bind _ = _
  cases functionsOf document (settings shaping document client)
    (envelopeOf (settings shaping document client)) [] (sites document) <;> rfl

theorem alike_ofDocument (document : Document) (shaping : Shaping) (client other : Client) :
    Alike (SameSurface shaping client other) (ofDocument document shaping client)
      (ofDocument document shaping other) := by
  have functions := alike_functionsOf (sameButClient_settings shaping document client other)
    document [] (sites document)
  rw [ofDocument_eq_map, ofDocument_eq_map]
  generalize functionsOf document (settings shaping document client) _ _ _ = first,
    functionsOf document (settings shaping document other) _ _ _ = second at functions ⊢
  cases functions with
  | error fault => exact .error fault
  | ok alike => exact .ok ⟨rfl, rfl, rfl, rfl, alike⟩

end Graph

namespace Record

/-- Parsing for one client succeeds exactly when it does for another, and fails with the same fault
otherwise. Only the graphs of the parsed records differ, and they look the same to callers. -/
theorem alike_parse (client other : Client) (record : Record) :
    Alike (fun first second => second = { first with graph := second.graph } ∧
        first.graph.SameSurface record.config.shaping client other second.graph)
      (record.parse client) (record.parse other) := by
  unfold parse
  cases record.source with
  | none => exact .error _
  | some source =>
      dsimp only
      cases Document.ofJson source with
      | error reason => exact .error _
      | ok document =>
          have graphs := Graph.alike_ofDocument document record.config.shaping client other
          dsimp only
          generalize Graph.ofDocument document record.config.shaping client = first,
            Graph.ofDocument document record.config.shaping other = second at graphs ⊢
          cases graphs with
          | error fault => exact .error fault
          | ok same => exact .ok ⟨rfl, same⟩

end Record

end ClientGen
