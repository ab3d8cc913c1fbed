import ClientGen.Proofs.ExtendedObjects
import ClientGen.Proofs.Parsing

/-!
# Extensions of API descriptions

An API description is read as the same document, and parsed to the same graph, when a member whose
name begins with `x-` is added to one of its objects. The object of all paths and the object of the
responses of an operation are exceptions: every member of these is an entry, whatever its name.
-/

namespace ClientGen

/-! ## Schemas -/

namespace Schema

open Document (Kind Spot Extends Judges)

theorem readList_eq_list (values : List Json) :
    readList values = Decoder.list decode (.array values) := by
  induction values with
  | nil => rfl
  | cons value rest ih =>
      rw [readList, ih, Decoder.list, Decoder.list, List.mapM_cons]
      cases decode value with
      | error fault => rfl
      | ok schema => cases rest.mapM decode <;> rfl

theorem readProperties_eq_map (members : Members) :
    readProperties members = Decoder.map decode (.object members) := by
  induction members with
  | nil => rfl
  | cons entry rest ih =>
      obtain ⟨name, value⟩ := entry
      simp only [readProperties, ih, Decoder.map, List.mapM_cons]
      cases decode value with
      | error fault => rfl
      | ok schema => cases rest.mapM fun entry => (decode entry.2).map fun v => (entry.1, v) <;> rfl

theorem readMembers_append (draft : Schema) (first second : Members) :
    readMembers draft (first ++ second) =
      (readMembers draft first).bind fun draft => readMembers draft second := by
  induction first generalizing draft with
  | nil => rfl
  | cons entry rest ih =>
      obtain ⟨key, value⟩ := entry
      rw [List.cons_append, readMembers, readMembers]
      cases assign draft key value with
      | error fault => rfl
      | ok next => exact ih next

/-- A member that is no keyword is passed over. -/
theorem assign_of_not_mem {key : String} (unread : key ∉ keywordNames) (draft : Schema)
    (value : Json) : assign draft key value = .ok draft := by
  simp only [keywordNames, List.mem_cons, List.not_mem_nil, or_false, not_or] at unread
  have kept : assignKeyword draft key value = .ok draft := by
    cases draft
    simp [assignKeyword, Keywords.assign, unread, Except.map, withKeywords, keywords]
  cases value <;> simp [assign, unread, kept]

/-- The values at a spot of schemas are read the same. -/
def SameAt : Spot → Json → Json → Prop
  | .one .schema, v, w => decode w = decode v
  | .list .schema, v, w => Decoder.list decode w = Decoder.list decode v
  | .map .schema, v, w => Decoder.map decode w = Decoder.map decode v
  | _, _, _ => True

variable {value v w : Json} {kind : Kind} {spot : Spot} {key : String}

theorem assign_eq_of_sameAt (read : (key, some spot) ∈ Kind.schema.members)
    (extended : Extends value kind spot v w) (same : SameAt spot v w) (draft : Schema) :
    assign draft key w = assign draft key v := by
  have holds : key = "properties" ∧ spot = .map .schema ∨
      (key = "items" ∨ key = "additionalProperties") ∧ spot = .one .schema ∨
      (key = "anyOf" ∨ key = "oneOf" ∨ key = "allOf") ∧ spot = .list .schema := by
    simpa [Kind.members, or_and_right, or_assoc, or_comm, or_left_comm] using read
  rcases holds with ⟨rfl, rfl⟩ | ⟨keys, rfl⟩ | ⟨keys, rfl⟩
  · cases extended with
    | named before after inside =>
        simp only [assign, readProperties_eq_map]
        exact congrArg _ same
  · obtain ⟨first, second, rfl, rfl⟩ := extended.exists_members
    have members : readMembers empty second = readMembers empty first := by
      simpa only [SameAt, decode] using same
    rcases keys with rfl | rfl <;> simp only [assign, members]
  · cases extended with
    | item before after inside =>
        have items : ∀ first second, Decoder.list decode (.array second) =
            Decoder.list decode (.array first) → readList second = readList first := by
          intro first second
          rw [readList_eq_list, readList_eq_list]
          exact id
        rcases keys with rfl | rfl | rfl <;> simp only [assign, items _ _ same]

theorem readMembers_eq_of_assign {before after : Members}
    (same : ∀ draft, assign draft key w = assign draft key v) (draft : Schema) :
    readMembers draft (before ++ (key, w) :: after) =
      readMembers draft (before ++ (key, v) :: after) := by
  simp only [readMembers_append, readMembers, same]

/-- Schemas at any spot are read the same with an extension. -/
theorem sameAt_of_extends (extended : Extends value kind spot v w) : SameAt spot v w := by
  induction extended with
  | @added kind key before after extension =>
      cases kind <;> try exact trivial
      have unread : key ∉ Kind.schema.members.map Prod.fst := fun listed =>
        Kind.not_isExtension_of_mem key listed extension
      simp only [SameAt, decode, readMembers_append, readMembers,
        assign_of_not_mem unread]
  | @passedOver owner key v w before after unmapped unread =>
      cases owner <;> try exact trivial
      have same : ∀ draft, assign draft key w = assign draft key v := by
        intro draft
        rw [assign_of_not_mem unread, assign_of_not_mem unread]
      simp only [SameAt, decode]
      exact readMembers_eq_of_assign same empty
  | @member _ owner spot key v w before after read extended ih =>
      cases owner <;> try exact trivial
      simp only [SameAt, decode]
      exact readMembers_eq_of_assign (assign_eq_of_sameAt read extended ih) empty
  | @entry _ owner _ _ _ _ _ _ held _ _ =>
      cases owner <;> first | exact trivial | cases held
  | @item _ inner _ _ before after _ ih =>
      cases inner <;> try exact trivial
      simp only [SameAt] at ih
      simp only [SameAt, Decoder.list, List.mapM_append, List.mapM_cons, ih]
  | @named _ inner _ _ _ before after _ ih =>
      cases inner <;> try exact trivial
      simp only [SameAt] at ih
      simp only [SameAt, Decoder.map, List.mapM_append, List.mapM_cons, ih]

theorem judges_decode : Judges decode (.one .schema) :=
  ⟨fun extended => .inl (sameAt_of_extends extended)⟩

end Schema

/-! ## The objects of a description -/

namespace Document

open FieldsJudge (map seq plain nested)

theorem Info.judges_decode : Judges Info.decode (.one .info) :=
  .record <| seq (seq (map _ (plain (by decide))) (plain (by decide))) (plain (by decide))

theorem Server.judges_decode : Judges Server.decode (.one .server) :=
  .record (map _ (plain (by decide)))

theorem Parameter.judges_decode : Judges Parameter.decode (.one .parameter) := by
  refine .record <| seq (seq (seq (seq (seq (seq (seq (seq (map _ ?name) ?location) ?isRequired)
    ?description) ?schema) ?type) ?format) ?items) ?enumeration
  case schema | items => exact nested Schema.judges_decode.optional (by decide)
  all_goals exact plain (by decide)

theorem Parameter.judges_list :
    Judges (Decoder.list (OrRef.decode "ParameterOrRef" Parameter.decode)) (.list .parameter) :=
  (Parameter.judges_decode.orRef (by decide) rfl).list

theorem MediaType.judges_decode : Judges MediaType.decode (.one .mediaType) :=
  .record (map _ (nested Schema.judges_decode.optional (by decide)))

theorem RequestBody.judges_decode : Judges RequestBody.decode (.one .requestBody) := by
  refine .record <| seq (seq (map _ ?isRequired) ?description) ?content
  case content => exact nested MediaType.judges_decode.map (by decide)
  all_goals exact plain (by decide)

theorem Response.judges_decode : Judges Response.decode (.one .response) := by
  refine .record <| seq (seq (map _ ?description) ?schema) ?content
  case description => exact plain (by decide)
  case schema => exact nested Schema.judges_decode.optional (by decide)
  case content => exact nested MediaType.judges_decode.map (by decide)

theorem Operation.judges_decode : Judges Operation.decode (.one .operation) := by
  have responses : Judges (Decoder.map Response.decode) (.one .responses) :=
    Response.judges_decode.entries rfl fun _ => Iff.rfl
  refine .record <| seq (seq (seq (seq (seq (seq (map _ ?operationId) ?summary) ?description)
    ?isDeprecated) ?parameters) ?requestBody) ?responses
  case parameters => exact nested Parameter.judges_list (by decide)
  case requestBody =>
    exact nested (RequestBody.judges_decode.orRef (by decide) rfl).optional (by decide)
  case responses => exact nested responses (by decide)
  all_goals exact plain (by decide)

theorem PathItem.judges_decode : Judges PathItem.decode (.one .pathItem) := by
  refine .record <| seq (seq (seq (seq (seq (seq (seq (map _ ?get) ?put) ?post) ?delete) ?options)
    ?head) ?patch) ?parameters
  case parameters => exact nested Parameter.judges_list (by decide)
  all_goals exact nested Operation.judges_decode.optional (by decide)

theorem Components.judges_decode : Judges Components.decode (.one .components) := by
  refine .record <| seq (seq (map _ ?schemas) ?parameters) ?requestBodies
  case schemas => exact nested Schema.judges_decode.map (by decide)
  case parameters => exact nested Parameter.judges_decode.map (by decide)
  case requestBodies => exact nested RequestBody.judges_decode.map (by decide)

theorem judges_decode : Judges decode (.one .root) := by
  have paths : Judges (Decoder.map PathItem.decode) (.one .paths) :=
    PathItem.judges_decode.entries rfl fun _ => Iff.rfl
  refine .record <| seq (seq (seq (seq (seq (seq (seq (seq (seq (seq (map _ ?swagger) ?openapi)
    ?info) ?host) ?basePath) ?schemes) ?servers) ?paths) ?definitions) ?parameters) ?components
  case info => exact nested Info.judges_decode (by decide)
  case servers => exact nested Server.judges_decode.list (by decide)
  case paths => exact nested paths (by decide)
  case definitions => exact nested Schema.judges_decode.map (by decide)
  case parameters => exact nested Parameter.judges_decode.map (by decide)
  case components => exact nested Components.judges_decode.optional (by decide)
  all_goals exact plain (by decide)

/-! ## Extensions that are seen -/

theorem Operation.read_responses {members : Members} {operation : Operation}
    (read : Operation.decode (.object members) = .ok operation) :
    (Fields.defaulted "responses" [] (Decoder.map Response.decode)).Read members
      operation.responses := by
  rw [Operation.decode, Decoder.record_eq_ok_iff, Fields.read_seq_iff] at read
  simp only [Fields.read_seq_iff, Fields.read_map_iff] at read
  obtain ⟨_, _, ⟨_, _, ⟨_, _, ⟨_, _, ⟨_, _, ⟨_, _, ⟨_, -, rfl⟩, -, rfl⟩, -, rfl⟩, -, rfl⟩, -, rfl⟩,
    -, rfl⟩, responses, rfl⟩ := read
  exact responses

theorem Operation.sees_decode : Sees Operation.decode (.one .operation) := by
  have onWay : ∀ entry ∈ Kind.operation.members, ∀ spot, entry.2 = some spot →
      spot.kind.isOnWay = true → entry.1 = "responses" ∧ spot = .one .responses := by decide
  have responses : Sees (Decoder.map Response.decode) (.one .responses) :=
    (Sees.away rfl).entries rfl
  refine .record rfl fun key spot listed mapped => ?_
  obtain ⟨rfl, rfl⟩ := onWay _ listed spot rfl mapped
  exact .intro Operation.responses responses fun members operation read =>
    Operation.read_responses (Decoder.record_eq_ok_iff.mpr read)

theorem PathItem.read_operation {members : Members} {item : PathItem}
    (read : PathItem.decode (.object members) = .ok item) (method : Method) :
    (Fields.optional method.name Operation.decode).Read members (item.operation? method) := by
  rw [PathItem.decode, Decoder.record_eq_ok_iff] at read
  simp only [Fields.read_seq_iff, Fields.read_map_iff] at read
  obtain ⟨_, _, ⟨_, _, ⟨_, _, ⟨_, _, ⟨_, _, ⟨_, _, ⟨_, _, ⟨_, get, rfl⟩, put, rfl⟩, post, rfl⟩,
    delete, rfl⟩, options, rfl⟩, head, rfl⟩, patch, rfl⟩, -, rfl⟩ := read
  cases method
  · exact get
  · exact put
  · exact post
  · exact delete
  · exact options
  · exact head
  · exact patch

theorem PathItem.sees_decode : Sees PathItem.decode (.one .pathItem) := by
  have onWay : ∀ entry ∈ Kind.pathItem.members, ∀ spot, entry.2 = some spot →
      spot.kind.isOnWay = true →
        entry.1 ∈ [Method.get, .put, .post, .delete, .options, .head, .patch].map Method.name ∧
          spot = .one .operation := by decide
  refine .record rfl fun key spot listed mapped => ?_
  obtain ⟨named, rfl⟩ := onWay _ listed spot rfl mapped
  obtain ⟨method, -, rfl⟩ := List.mem_map.mp named
  exact .intro (·.operation? method) Operation.sees_decode.optional fun members item read =>
    PathItem.read_operation (Decoder.record_eq_ok_iff.mpr read) method

theorem read_paths {members : Members} {document : Document}
    (read : decode (.object members) = .ok document) :
    (Fields.optional "swagger" Decoder.text).Read members document.swagger ∧
      (Fields.optional "openapi" Decoder.text).Read members document.openapi ∧
      (Fields.defaulted "paths" [] (Decoder.map PathItem.decode)).Read members document.paths := by
  rw [decode, Decoder.record_eq_ok_iff] at read
  simp only [Fields.read_seq_iff, Fields.read_map_iff] at read
  obtain ⟨_, _, ⟨_, _, ⟨_, _, ⟨_, _, ⟨_, _, ⟨_, _, ⟨_, _, ⟨_, _, ⟨_, _, ⟨_, _, ⟨_, swagger, rfl⟩,
    openapi, rfl⟩, -, rfl⟩, -, rfl⟩, -, rfl⟩, -, rfl⟩, -, rfl⟩, paths, rfl⟩, -, rfl⟩, -, rfl⟩, -,
    rfl⟩ := read
  exact ⟨swagger, openapi, paths⟩

theorem sees_decode : Sees decode (.one .root) := by
  have onWay : ∀ entry ∈ Kind.root.members, ∀ spot, entry.2 = some spot →
      spot.kind.isOnWay = true → entry.1 = "paths" ∧ spot = .one .paths := by decide
  have paths : Sees (Decoder.map PathItem.decode) (.one .paths) := PathItem.sees_decode.entries rfl
  refine .record rfl fun key spot listed mapped => ?_
  obtain ⟨rfl, rfl⟩ := onWay _ listed spot rfl mapped
  exact .intro Document.paths paths fun members document read =>
    (read_paths (Decoder.record_eq_ok_iff.mpr read)).2.2

/-! ## Descriptions with an extension -/

variable {value v w : Json} {kind : Kind}

/-- A field of a description that holds no objects is read the same with an extension. -/
theorem read_unique_of_extends {α : Type} {name : String} {absent short : Option α}
    {decode : Decoder α} {first second : Members} {a b : α}
    (extended : Extends value kind (.one .root) (.object first) (.object second))
    (plain : (name, none) ∈ Kind.root.members)
    (before : (Fields.field [name] absent short decode).Read first a)
    (after : (Fields.field [name] absent short decode).Read second b) : b = a := by
  rcases extended.under plain with same | ⟨_, _, _, _, _, ⟨⟩, _⟩
  rw [Fields.Read, Fields.field_congr same] at after
  exact Except.ok.inj (after.symm.trans before)

theorem declaresVersion_iff_of_extends {first second : Document}
    (extended : Extends value kind (.one .root) v w) (before : decode v = .ok first)
    (after : decode w = .ok second) : second.DeclaresVersion ↔ first.DeclaresVersion := by
  obtain ⟨_, _, rfl, rfl⟩ := extended.exists_members
  obtain ⟨swagger, openapi, -⟩ := read_paths before
  obtain ⟨swagger', openapi', -⟩ := read_paths after
  rw [DeclaresVersion, DeclaresVersion,
    read_unique_of_extends extended (by decide) swagger swagger',
    read_unique_of_extends extended (by decide) openapi openapi']

/-- An extended description is one exactly when it was one before and its new member, if that was
added to a map, is an entry. -/
theorem exists_ofJson_iff_of_extends (extended : Extends value kind (.one .root) v w)
    (mapped : kind.isMap = true) :
    (∃ document, ofJson w = .ok document) ↔
      (∃ document, ofJson v = .ok document) ∧ kind.Takes value := by
  have decoded : (∃ second, decode w = .ok second) ↔
      (∃ first, decode v = .ok first) ∧ kind.Takes value := by
    rcases judges_decode.follows extended with same | ⟨-, holds⟩
    · -- The answers differ if there are any, so there is none.
      have none_read : ∀ document, decode v ≠ .ok document := fun document read =>
        sees_decode.ne_ok extended mapped document read (same.trans read)
      rw [same]
      simp [none_read]
    · exact holds
  simp only [ofJson_eq_ok_iff]
  constructor
  · rintro ⟨second, after, version⟩
    obtain ⟨⟨first, before⟩, takes⟩ := decoded.mp ⟨second, after⟩
    have same := declaresVersion_iff_of_extends extended before after
    exact ⟨⟨first, before, same.mp version⟩, takes⟩
  · rintro ⟨⟨first, before, version⟩, takes⟩
    obtain ⟨second, after⟩ := decoded.mpr ⟨⟨first, before⟩, takes⟩
    have same := declaresVersion_iff_of_extends extended before after
    exact ⟨second, after, same.mpr version⟩

end Document

namespace Record

def withSource (record : Record) (source : Json) : Record :=
  { record with source := some source }

/-- Descriptions that are read the same are parsed the same. -/
theorem parse_withSource_congr {v w : Json} (same : Document.ofJson w = Document.ofJson v)
    (client : Client) (record : Record) :
    (record.withSource w).parse client =
      ((record.withSource v).parse client).map fun parsed => parsed.withSource w := by
  simp only [parse, withSource, same]
  cases Document.ofJson v with
  | error reason => rfl
  | ok document =>
      dsimp only
      cases Graph.ofDocument document record.config.shaping client <;> rfl

end Record

namespace Document

variable {value v w : Json} {kind : Kind}

/-- An extension of an object that is read as a record is passed over, whether a description is
read or refused. One of a map is an entry: it makes a description another one or none at all. -/
theorem ofJson_of_extends (extended : Extends value kind (.one .root) v w) :
    (kind.isMap = false → ofJson w = ofJson v ∧ ∀ (client : Client) (record : Record),
      (record.withSource w).parse client =
        ((record.withSource v).parse client).map fun parsed => parsed.withSource w) ∧
    (kind.isMap = true →
      ((∃ document, ofJson w = .ok document) ↔
        (∃ document, ofJson v = .ok document) ∧ kind.Takes value) ∧
      ∀ document, ofJson v = .ok document → ofJson w ≠ .ok document) := by
  constructor
  · intro unmapped
    have decoded := (judges_decode.follows extended).eq unmapped
    have same : ofJson w = ofJson v := by rw [ofJson, ofJson, decoded]
    exact ⟨same, Record.parse_withSource_congr same⟩
  · intro mapped
    refine ⟨exists_ofJson_iff_of_extends extended mapped, fun document before after => ?_⟩
    obtain ⟨before, -⟩ := (ofJson_eq_ok_iff v document).mp before
    obtain ⟨after, -⟩ := (ofJson_eq_ok_iff w document).mp after
    exact sees_decode.ne_ok extended mapped document before after

def withPaths (paths : Members) : Json :=
  .object [("openapi", .string "3.0.0"), ("paths", .object paths)]

/-- The owner of an operation is passed over. -/
theorem ofJson_extended_operation :
    ofJson (withPaths [("/users", .object [("get", .object [("x-owner", .string "team")])])]) =
      ofJson (withPaths [("/users", .object [("get", .object [])])]) := by
  have added : Extends (.string "team") .operation (.one .operation) (.object [])
      (.object [("x-owner", .string "team")]) := .added [] [] (by decide)
  have item : Extends (.string "team") .operation (.one .pathItem)
      (.object [("get", .object [])])
      (.object [("get", .object [("x-owner", .string "team")])]) :=
    .member [] [] (by decide) added
  have paths : Extends (.string "team") .operation (.one .paths)
      (.object [("/users", .object [("get", .object [])])])
      (.object [("/users", .object [("get", .object [("x-owner", .string "team")])])]) :=
    .entry [] [] rfl item
  have root : Extends (.string "team") .operation (.one .root)
      (withPaths [("/users", .object [("get", .object [])])])
      (withPaths [("/users", .object [("get", .object [("x-owner", .string "team")])])]) :=
    .member [("openapi", .string "3.0.0")] [] (by decide) paths
  exact ((ofJson_of_extends root).1 rfl).1

/-- The owner of all paths is taken for a path. -/
theorem ofJson_extended_paths :
    Extends (.string "team") .paths (.one .root) (withPaths [])
        (withPaths [("x-owner", .string "team")]) ∧
      (∃ document, ofJson (withPaths []) = .ok document) ∧
      ofJson (withPaths [("x-owner", .string "team")]) =
        .error (.malformed (.wrongType (.text "team") (.record "PathItem"))) := by
  have added : Extends (.string "team") .paths (.one .paths) (.object [])
      (.object [("x-owner", .string "team")]) := .added [] [] (by decide)
  exact ⟨.member [("openapi", .string "3.0.0")] [] (by decide) added, ⟨_, rfl⟩, rfl⟩

end Document

end ClientGen
