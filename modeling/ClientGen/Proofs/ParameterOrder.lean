import ClientGen.Proofs.ParameterNames
import ClientGen.Proofs.RecordReading

/-!
# The order of parameters

A call of a generated function has to name the required arguments first. The arguments of an
operation are what fills its path, the query and the payload; the parameters of its function are
these, each once, with the required ones moved to the front and everything else in its order, and
the options of the call at the end.
-/

namespace ClientGen.Operation

open Document (Parameter Fault)
open TypeScript (TypeExpr sanitizeIdentifier)

/-! ## Arguments -/

/-- What a function takes an argument for: a declared parameter of the path, a placeholder that no
parameter declares, all parameters of the query together, or the payload. -/
inductive Argument where
  | declared (parameter : Parameter)
  | placeholder (name : String)
  | query (parameters : List Parameter)
  | payload (sent : Payload)

namespace Argument

/-- Whether a call has to give the argument, as far as its operation says: always for the path, if
any of its parameters is required for the query. -/
def isRequired : Argument → Bool
  | .declared _ => true
  | .placeholder _ => true
  | .query parameters => parameters.any (·.isRequired)
  | .payload sent => sent.isRequired

def name : Argument → String
  | .declared parameter => sanitizeIdentifier parameter.name
  | .placeholder name => sanitizeIdentifier name
  | .query _ => "query"
  | .payload _ => "body"

def type : Argument → String
  | .declared parameter => parameter.valueSchema.typeOf.text
  | .placeholder _ => "string"
  | .query parameters => (TypeExpr.object (parameters.map fun parameter =>
      ⟨parameter.name, parameter.valueSchema.typeOf, !parameter.isRequired⟩)).text
  | .payload sent => sent.type.text

def docs : Argument → List String
  | .declared parameter => Schema.descriptionLines parameter.description
  | _ => []

/-- What the operation says about the argument. -/
def asked (argument : Argument) : Graph.Field where
  name := argument.name
  type := some argument.type
  isRequired := argument.isRequired
  description := argument.docs

def field (settings : Settings) (argument : Argument) : Graph.Field :=
  { argument.asked with isRequired := argument.isRequired && !settings.allOptional }

end Argument

/-- The placeholders of a path that no parameter declares, in the order of the path. -/
def undeclared (path : String) (parameters : List Parameter) : List String :=
  ((placeholders path).filter fun name => !(located "path" parameters).any (·.name == name)).eraseDups

def arguments (site : Site) (parameters : List Parameter) (sent : Option Payload) : List Argument :=
  (located "path" parameters).map .declared ++
    (undeclared site.path parameters).map .placeholder ++
    (if (located "query" parameters).isEmpty then [] else [.query (located "query" parameters)]) ++
    sent.toList.map .payload

theorem addPlaceholders_eq (fields : List (String × Graph.Field)) (names : List String) :
    addPlaceholders fields names =
      fields ++ ((names.filter fun name => !fields.any (·.1 == name)).eraseDups).map fun name =>
        (name, Graph.Field.required (sanitizeIdentifier name) "string") := by
  induction names generalizing fields with
  | nil => simp [addPlaceholders]
  | cons name rest ih =>
      rw [addPlaceholders]
      split
      · rename_i filled
        rw [ih, List.filter_cons_of_neg (by rw [filled]; exact Bool.false_ne_true)]
      · rename_i unfilled
        have others : rest.filter (fun next => !(fields ++
              [(name, Graph.Field.required (sanitizeIdentifier name) "string")]).any (·.1 == next)) =
            (rest.filter fun next => !fields.any (·.1 == next)).filter fun next => !next == name := by
          rw [List.filter_filter]
          apply List.filter_congr
          intro next _
          rw [List.any_append, Bool.not_or, Bool.and_comm, List.any_cons, List.any_nil,
            Bool.or_false, BEq.comm]
        have new : (!fields.any (·.1 == name)) = true := by
          rw [Bool.not_eq_true', Bool.eq_false_iff]
          exact unfilled
        have kept : (name :: rest).filter (fun next => !fields.any (·.1 == next)) =
            name :: rest.filter fun next => !fields.any (·.1 == next) :=
          List.filter_cons_of_pos new
        rw [ih, others, kept, List.eraseDups_cons, List.map_cons, List.append_assoc]
        rfl

/-- The fields of a function are those of its arguments. -/
theorem fieldsOf_eq_map (site : Site) (parameters : List Parameter) (sent : Option Payload) :
    fieldsOf site parameters sent = (arguments site parameters sent).map Argument.asked := by
  have path : (pathFields site.path parameters).map (·.2) =
      ((located "path" parameters).map Argument.declared).map Argument.asked ++
        ((undeclared site.path parameters).map Argument.placeholder).map Argument.asked := by
    rw [pathFields, addPlaceholders_eq, undeclared, List.map_append, List.map_map, List.map_map,
      List.map_map, List.map_map]
    simp only [List.any_map]
    rfl
  have query : queryField (queryMembers parameters) =
      (if (located "query" parameters).isEmpty then []
        else [Argument.query (located "query" parameters)]).map Argument.asked := by
    rw [queryMembers]
    cases located "query" parameters with
    | nil => rfl
    | cons first rest =>
        simp [queryField, Argument.asked, Argument.name, Argument.type, Argument.isRequired,
          Argument.docs, Function.comp_def]
  have payload : payloadField sent = (sent.toList.map Argument.payload).map Argument.asked := by
    cases sent <;> rfl
  rw [fieldsOf, arguments, path, query, payload, List.map_append, List.map_append, List.map_append]

/-! ## Order -/

/-- Two lists together are a stable rearrangement of another: they have its members, and each of
them has its order. -/
structure Splits {α : Type} (first second whole : List α) : Prop where
  perm : (first ++ second).Perm whole
  first : first.Sublist whole
  second : second.Sublist whole

theorem splits_filter {α : Type} (choose : α → Bool) (whole : List α) :
    Splits (whole.filter choose) (whole.filter fun item => !choose item) whole where
  perm := List.filter_append_perm choose whole
  first := List.filter_sublist
  second := List.filter_sublist

/-- The parameters of a function take given arguments in an order in which it can be called: the
required ones, then the others, then the options of the call. -/
structure Takes (settings : Settings) (given : List Argument) (parameters : List Graph.Field) :
    Prop where
  distinct : given.Nodup
  order : ∃ required optional, Splits required optional given ∧
    parameters = required.map (Argument.field settings) ++ optional.map (Argument.field settings) ++
      [Graph.Field.optional "config" settings.client.configType] ∧
    (∀ argument ∈ required, (argument.field settings).isRequired = true) ∧
    (∀ argument ∈ optional, (argument.field settings).isRequired = false) ∧
    (settings.allOptional = true → required = [] ∧ optional = given)

theorem nodup_arguments {site : Site} {parameters : List Parameter} (sent : Option Payload)
    (distinct : (parameters.map slot).Nodup) : (arguments site parameters sent).Nodup := by
  have declared : (located "path" parameters).Nodup := (List.Nodup.of_map slot distinct).filter _
  -- Adding fields for these names to none leaves each name once.
  have placeholders : (undeclared site.path parameters).Nodup := by
    have keys := @nodup_keys_addPlaceholders [] ((placeholders site.path).filter fun name =>
      !(located "path" parameters).any (·.name == name)) List.nodup_nil
    rw [addPlaceholders_eq, List.nil_append, List.map_map] at keys
    simpa [undeclared, Function.comp_def] using keys
  have query : (if (located "query" parameters).isEmpty then []
      else [Argument.query (located "query" parameters)]).Nodup := by
    split <;> simp
  have payload : (sent.toList.map Argument.payload).Nodup := by
    cases sent <;> simp
  rw [arguments, List.nodup_append, List.nodup_append, List.nodup_append]
  refine ⟨⟨⟨declared.map fun _ _ => Argument.declared.inj,
    placeholders.map fun _ _ => Argument.placeholder.inj, ?_⟩, query, ?_⟩, payload, ?_⟩
  -- Arguments of different kinds are never the same.
  all_goals
    rintro argument first _ second rfl
    cases argument <;> simp at first second

theorem takes_parameterList (settings : Settings) {given : List Argument} (distinct : given.Nodup) :
    Takes settings given (parameterList settings (given.map Argument.asked)) := by
  refine ⟨distinct, _, _, splits_filter (fun argument => (argument.field settings).isRequired) given,
    ?_, ?_, ?_, ?_⟩
  · have fields : (if settings.allOptional then
          (given.map Argument.asked).map fun field => { field with isRequired := false }
        else given.map Argument.asked) = given.map (Argument.field settings) := by
      cases partly : settings.allOptional with
      | true =>
          rw [if_pos rfl, List.map_map]
          apply List.map_congr_left
          intro argument _
          simp [Argument.field, partly]
      | false =>
          rw [if_neg Bool.false_ne_true]
          apply List.map_congr_left
          intro argument _
          simp [Argument.field, Argument.asked, partly]
    unfold parameterList
    dsimp only
    rw [fields, requiredFirst, List.filter_map, List.filter_map]
    rfl
  · exact fun argument member => (List.mem_filter.mp member).2
  · intro argument member
    simpa using (List.mem_filter.mp member).2
  · intro all
    have none : ∀ argument : Argument, (argument.field settings).isRequired = false := by
      intro argument
      simp [Argument.field, all]
    simp [none]

/-! ## The payload -/

/-- What an operation sends: its last body parameter; without one, a form, which must be given if
any of its parameters must; without both, its request body, if it has one. -/
inductive SentBy (document : Document) (parameters : List Parameter)
    (operation : Document.Operation) : Option Payload → Prop where
  | body {parameter : Parameter} :
      (located "body" parameters).getLast? = some parameter →
      SentBy document parameters operation
        (some (.json parameter.valueSchema.typeOf parameter.isRequired))
  | form {isRequired : Bool} :
      located "body" parameters = [] → located "formData" parameters ≠ [] →
      (isRequired = true ↔ ∃ part ∈ located "formData" parameters, part.isRequired = true) →
      SentBy document parameters operation (some (.form isRequired))
  | requestBody {source : OrRef Document.RequestBody} {body : Document.RequestBody}
      {sent : Payload} :
      located "body" parameters = [] → located "formData" parameters = [] →
      operation.requestBody = some source → resolveBody document source = .ok body →
      sent = bodyPayload body → sent.isRequired = body.isRequired →
      SentBy document parameters operation (some sent)
  | nothing :
      located "body" parameters = [] → located "formData" parameters = [] →
      operation.requestBody = none → SentBy document parameters operation none

theorem isRequired_bodyPayload (body : Document.RequestBody) :
    (bodyPayload body).isRequired = body.isRequired := by
  unfold bodyPayload
  split <;> rfl

theorem sentBy_of_payload {document : Document} {parameters : List Parameter}
    {operation : Document.Operation} {sent : Option Payload}
    (found : payload document parameters operation = .ok sent) :
    SentBy document parameters operation sent := by
  unfold payload at found
  split at found
  · rename_i parameter last
    cases found
    exact .body last
  · rename_i part parts noLast forms
    cases found
    refine .form (List.getLast?_eq_none_iff.mp noLast) ?_ ?_
    · rw [forms]
      exact List.cons_ne_nil part parts
    · rw [forms]
      exact List.any_eq_true
  · rename_i source noLast noForm given
    obtain ⟨body, resolved, rfl⟩ := except_map_eq_ok_iff.mp found
    exact .requestBody (List.getLast?_eq_none_iff.mp noLast) noForm given resolved rfl
      (isRequired_bodyPayload body)
  · rename_i noLast noForm given
    cases found
    exact .nothing (List.getLast?_eq_none_iff.mp noLast) noForm given

/-- The parameters of a function come in an order in which it can be called: what the path, the
query and the payload of its operation ask for, each once, the required ones first. -/
theorem takes_of_function {document : Document} {settings : Settings} {envelope : Graph.Envelope}
    {site : Site} {built : Graph.Function}
    (made : function document settings envelope site = .ok built) :
    ∃ parameters sent, mergedParameters document site.item site.operation = .ok parameters ∧
      payload document parameters site.operation = .ok sent ∧
      SentBy document parameters site.operation sent ∧
      Takes settings (arguments site parameters sent) built.parameters := by
  obtain ⟨parameters, sent, merged, found, rfl⟩ := (function_eq_ok_iff _ _ _ _ _).mp made
  refine ⟨parameters, sent, merged, found, sentBy_of_payload found, ?_⟩
  rw [assemble, fieldsOf_eq_map]
  exact takes_parameterList settings (nodup_arguments sent (nodup_slots_mergedParameters merged))

end ClientGen.Operation

namespace ClientGen

namespace Uploads

def put : Document.Operation :=
  { Orders.put with
    parameters := [.inline Orders.dry]
    requestBody := some (.inline ⟨true, none, Orders.content⟩) }

def site : Operation.Site :=
  ⟨"/files/\x7bname\x7d", .put, { Orders.item with put := some put }, put⟩

def sent : Operation.Payload := .json (.keyword "string") true

def function : Graph.Function :=
  Operation.assemble (Orders.settings .fetch) (Graph.envelopeOf (Orders.settings .fetch)) site
    [Orders.dry] (some sent)

end Uploads

/-- The payload comes before the query. -/
theorem Operation.takes_upload :
    Takes (Orders.settings .fetch) [.placeholder "name", .query [Orders.dry], .payload Uploads.sent]
        Uploads.function.parameters ∧
      Uploads.function.parameters.map (·.name) = ["name", "body", "query", "config"] := by
  have made : function Orders.document (Orders.settings .fetch)
      (Graph.envelopeOf (Orders.settings .fetch)) Uploads.site = .ok Uploads.function := by rfl
  obtain ⟨parameters, sent, merged, found, -, takes⟩ := takes_of_function made
  obtain rfl : [Orders.dry] = parameters := Except.ok.inj merged
  obtain rfl : some Uploads.sent = sent := Except.ok.inj found
  exact ⟨takes, by decide⟩

end ClientGen
