import ClientGen.Proofs.References

/-!
# Types of payloads

Content offers a payload under several media types, and only some of them need to have a schema. A
payload is typed by the JSON media type that comes first in the order of preference, whether it has
a schema or not; only content without JSON is searched for a schema. The main statement says exactly
when the type is that of a preferred schema.
-/

namespace ClientGen.Operation

open Document (MediaType contentSchemas)
open TypeScript (TypeExpr)

def schemaUnder (content : List (String × MediaType)) (type : String) : Option Schema :=
  (Document.entry type content).bind (·.schema)

/-- The type of a schema that content is preferably typed by: of the first JSON media type that has
a schema, and of any schema if none of them has one. -/
inductive PreferredType (content : List (String × MediaType)) : TypeExpr → Prop where
  | json {schema : Schema} :
      jsonMediaTypes.findSome? (schemaUnder content) = some schema →
      PreferredType content schema.typeOf
  | other {schema : Schema} :
      jsonMediaTypes.findSome? (schemaUnder content) = none → schema ∈ contentSchemas content →
      PreferredType content schema.typeOf

/-- Of the JSON media types that content has, the first one is without a schema. -/
def Shadowed (content : List (String × MediaType)) : Prop :=
  ∃ media, jsonMediaTypes.findSome? (fun type => Document.entry type content) = some media ∧
    media.schema = none

/-! ## Types of schemas -/

/-- No schema has the type `void`. -/
theorem typeOf_ne_void (schema : Schema) : schema.typeOf ≠ .void := by
  have taken : Schema.TakenOver (· ≠ TypeExpr.void) :=
    { keyword := by
        rintro word listed same
        obtain rfl : word = "void" := TypeExpr.keyword.inj same
        exact absurd listed (by decide)
      literal := by
        intro value
        cases value with
        | bool flag => cases flag <;> nofun
        | null => exact fun same => absurd (TypeExpr.keyword.inj same) (by decide)
        | array | object => exact fun same => absurd (TypeExpr.keyword.inj same) (by decide)
        | number | string => nofun
      array := fun _ _ => nofun
      union := fun _ _ _ => nofun
      intersection := fun _ _ _ => nofun
      object := fun _ _ => nofun
      record := fun _ _ => nofun
      nullable := fun type _ => by cases type <;> nofun }
  exact taken.typeOf schema fun _ _ _ _ => nofun

/-! ## Types of content -/

theorem findSome?_bind {α β γ : Type} {find : α → Option β} {get : β → Option γ} {list : List α}
    {found : β} {held : γ} (first : list.findSome? find = some found)
    (given : get found = some held) :
    list.findSome? (fun a => (find a).bind get) = some held := by
  induction list with
  | nil => cases first
  | cons a rest ih =>
      rw [List.findSome?_cons] at first ⊢
      cases here : find a with
      | none =>
          rw [here] at first
          exact ih first
      | some b =>
          rw [here] at first
          cases first
          rw [Option.bind_some, given]

theorem contentType_of_shadowed {content : List (String × MediaType)}
    (shadowed : Shadowed content) : contentType content = none := by
  obtain ⟨media, first, missing⟩ := shadowed
  simp only [contentType, preferredMedia, first, missing, Option.map_none]

theorem exists_contentType_of_noJson {content : List (String × MediaType)}
    (noJson : jsonMediaTypes.findSome? (fun type => Document.entry type content) = none)
    (typed : contentSchemas content ≠ []) : ∃ type, contentType content = some type := by
  have searched : preferredMedia content =
      (content.find? fun entry => entry.2.schema.isSome).map (·.2) := by
    rw [preferredMedia, noJson]
  obtain ⟨schema, listed⟩ := List.exists_mem_of_ne_nil _ typed
  obtain ⟨entry, member, given⟩ := List.mem_filterMap.mp listed
  have hit : (content.find? fun entry => entry.2.schema.isSome).isSome = true := by
    rw [List.find?_isSome]
    exact ⟨entry, member, Option.isSome_iff_exists.mpr ⟨schema, given⟩⟩
  obtain ⟨chosen, found⟩ := Option.isSome_iff_exists.mp hit
  have withSchema := List.find?_some found
  obtain ⟨kept, held⟩ := Option.isSome_iff_exists.mp withSchema
  refine ⟨kept.typeOf, ?_⟩
  simp only [contentType, searched, found, Option.map_some, held]

/-- Content with a schema is typed by a preferred one, unless its first JSON media type is without
one. -/
theorem preferredType_of_not_shadowed {content : List (String × MediaType)}
    (typed : contentSchemas content ≠ []) (clear : ¬ Shadowed content) :
    ∃ type, contentType content = some type ∧ PreferredType content type := by
  cases first : jsonMediaTypes.findSome? fun type => Document.entry type content with
  | some media =>
      cases given : media.schema with
      | none => exact absurd ⟨media, first, given⟩ clear
      | some schema =>
          refine ⟨schema.typeOf, ?_, .json (findSome?_bind first given)⟩
          simp only [contentType, preferredMedia, first, given, Option.map_some]
  | none =>
      have noJson : jsonMediaTypes.findSome? (schemaUnder content) = none := by
        have absent := List.findSome?_eq_none_iff.mp first
        rw [List.findSome?_eq_none_iff]
        intro type listed
        rw [schemaUnder, absent type listed, Option.bind_none]
      obtain ⟨type, found⟩ := exists_contentType_of_noJson first typed
      obtain ⟨schema, listed, rfl⟩ := schema_of_contentType found
      exact ⟨schema.typeOf, found, .other noJson listed⟩

/-- What content is typed by in place of a missing type is no preferred type of a schema, unless a
schema has it as well. -/
theorem preferredType_contentType_iff {content : List (String × MediaType)}
    (typed : contentSchemas content ≠ []) (fallback : TypeExpr) :
    PreferredType content ((contentType content).getD fallback) ↔
      ¬ Shadowed content ∨ PreferredType content fallback := by
  by_cases shadowed : Shadowed content
  · rw [contentType_of_shadowed shadowed]
    simp [shadowed]
  · obtain ⟨type, found, preferred⟩ := preferredType_of_not_shadowed typed shadowed
    rw [found]
    simp [shadowed, preferred]

theorem not_preferredType_void (content : List (String × MediaType)) :
    ¬ PreferredType content .void := by
  generalize same : TypeExpr.void = type
  rintro (⟨-⟩ | ⟨-, -⟩)
  · exact typeOf_ne_void _ same.symm
  · exact typeOf_ne_void _ same.symm

/-! ## Responses and request bodies -/

theorem responseType_eq {operation : Document.Operation} {response : Document.Response}
    (success : successResponse operation = some response) (bare : response.schema = none) :
    responseType operation = (contentType response.content).getD .void := by
  simp only [responseType, success, bare]

theorem bodyPayload_eq {body : Document.RequestBody} (sent : (bodyPayload body).isJson = true) :
    bodyPayload body = .json ((contentType body.content).getD .unknown) body.isRequired := by
  unfold bodyPayload at sent ⊢
  split at sent
  · cases sent
  · rename_i noForm
    rw [if_neg noForm]

/-- A response with a schema under some media type has a type that a schema is preferred for, or it
is `void`, which is exactly when the first JSON media type is without a schema. The same goes for a
request body that is not sent as a form, with `unknown` in the place of `void`; only that this is
the type of some schemas too. -/
theorem preferredType_iff_not_shadowed (operation : Document.Operation)
    (response : Document.Response) (body : Document.RequestBody) :
    (successResponse operation = some response → response.schema = none →
      contentSchemas response.content ≠ [] →
      (PreferredType response.content (responseType operation) ↔ ¬ Shadowed response.content) ∧
        (responseType operation = .void ↔ Shadowed response.content)) ∧
    ((bodyPayload body).isJson = true → contentSchemas body.content ≠ [] →
      (PreferredType body.content (bodyPayload body).type ↔
        ¬ Shadowed body.content ∨ PreferredType body.content .unknown) ∧
        (Shadowed body.content → (bodyPayload body).type = .unknown)) := by
  constructor
  · intro success bare typed
    rw [responseType_eq success bare]
    have preferred := preferredType_contentType_iff typed .void
    rw [or_iff_left (not_preferredType_void _)] at preferred
    refine ⟨preferred, fun isVoid => ?_, fun shadowed => ?_⟩
    · rw [isVoid] at preferred
      exact not_not.mp (mt preferred.mpr (not_preferredType_void _))
    · rw [contentType_of_shadowed shadowed, Option.getD_none]
  · intro sent typed
    rw [bodyPayload_eq sent]
    refine ⟨preferredType_contentType_iff typed .unknown, fun shadowed => ?_⟩
    rw [contentType_of_shadowed shadowed]
    rfl

def textSchema : Schema :=
  .node { Schema.Keywords.none with type := some (.one "string") } none none none none none none

def replied (content : List (String × MediaType)) : Document.Operation where
  operationId := none
  summary := none
  description := none
  isDeprecated := false
  parameters := []
  requestBody := none
  responses := [("201", ⟨none, none, content⟩)]

theorem not_shadowed_of_first {content : List (String × MediaType)} {media : MediaType}
    (first : jsonMediaTypes.findSome? (fun type => Document.entry type content) = some media)
    (given : media.schema ≠ none) : ¬ Shadowed content := by
  rintro ⟨other, found, missing⟩
  rw [first] at found
  cases found
  exact given missing

theorem not_shadowed_of_no_json {content : List (String × MediaType)}
    (noJson : jsonMediaTypes.findSome? (fun type => Document.entry type content) = none) :
    ¬ Shadowed content := by
  rintro ⟨other, found, -⟩
  rw [noJson] at found
  cases found

/-- A response whose `*/*` has a schema while `text/json` has none, and a body whose first media
type has no schema, are typed by a preferred one. -/
theorem preferredType_iff_not_shadowed_text :
    (PreferredType [("*/*", ⟨some textSchema⟩), ("text/json", ⟨none⟩)]
        (responseType (replied [("*/*", ⟨some textSchema⟩), ("text/json", ⟨none⟩)])) ∧
      responseType (replied [("*/*", ⟨some textSchema⟩), ("text/json", ⟨none⟩)]) ≠ .void) ∧
    PreferredType [("application/pdf", ⟨none⟩), ("text/plain", ⟨some textSchema⟩)]
      (bodyPayload ⟨true, none, [("application/pdf", ⟨none⟩),
        ("text/plain", ⟨some textSchema⟩)]⟩).type := by
  obtain ⟨ofResponse, ofBody⟩ := preferredType_iff_not_shadowed
    (replied [("*/*", ⟨some textSchema⟩), ("text/json", ⟨none⟩)])
    ⟨none, none, [("*/*", ⟨some textSchema⟩), ("text/json", ⟨none⟩)]⟩
    ⟨true, none, [("application/pdf", ⟨none⟩), ("text/plain", ⟨some textSchema⟩)]⟩
  have response := ofResponse rfl rfl nofun
  have body := ofBody rfl nofun
  have clear : ¬ Shadowed [("*/*", ⟨some textSchema⟩), ("text/json", ⟨none⟩)] :=
    not_shadowed_of_first rfl nofun
  exact ⟨⟨response.1.mpr clear, mt response.2.mp clear⟩,
    body.1.mpr (.inl (not_shadowed_of_no_json rfl))⟩

/-- With an empty `application/json` beside it, a schema under `text/json` is dropped: the response
is `void`, and a body of the same content is `unknown`. -/
theorem not_preferredType_empty_json :
    (∃ schema, schema ∈ contentSchemas
        [("application/json", ⟨none⟩), ("text/json", ⟨some textSchema⟩)]) ∧
      responseType (replied [("application/json", ⟨none⟩), ("text/json", ⟨some textSchema⟩)]) =
        .void ∧
      (bodyPayload ⟨true, none, [("application/json", ⟨none⟩),
        ("text/json", ⟨some textSchema⟩)]⟩).type = .unknown ∧
      ¬ PreferredType [("application/json", ⟨none⟩), ("text/json", ⟨some textSchema⟩)] .void :=
  ⟨⟨textSchema, .head _⟩, rfl, rfl, not_preferredType_void _⟩

end ClientGen.Operation
