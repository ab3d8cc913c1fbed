import ClientGen.Document.Decode
import ClientGen.Proofs.RecordReading
import Mathlib.Data.List.Nodup

/-!
# Extended objects

Most objects of an API description may hold members of any kind whose names begin with `x-`. This
module says which objects these are and where they stand, when one value is another one with such a
member added somewhere, and how the readers of records, lists and maps follow an addition to the
one field, item or entry in which it is.
-/

namespace ClientGen.Document

/-- The name of an extension. -/
def IsExtension (key : String) : Prop :=
  "x-".toList <+: key.toList

instance (key : String) : Decidable (IsExtension key) :=
  inferInstanceAs (Decidable (_ <+: _))

/-- The kinds of objects that may have extensions. Whatever stands under a member that no reader
asks for is passed over. -/
inductive Kind where
  | root
  | info
  | server
  | paths
  | pathItem
  | operation
  | parameter
  | requestBody
  | responses
  | response
  | mediaType
  | schema
  | components
  | passedOver
  deriving DecidableEq, Repr

/-- What a member holds: an object, a list of objects, or objects by name. -/
inductive Spot where
  | one (kind : Kind)
  | list (kind : Kind)
  | map (kind : Kind)
  deriving DecidableEq, Repr

namespace Kind

/-- The members that objects of a kind are read from, with the spots of those that hold objects
again. -/
def members : Kind → List (String × Option Spot)
  | root => [("swagger", none), ("openapi", none), ("info", some (.one info)), ("host", none),
      ("basePath", none), ("schemes", none), ("servers", some (.list server)),
      ("paths", some (.one paths)), ("definitions", some (.map schema)),
      ("parameters", some (.map parameter)), ("components", some (.one components))]
  | info => [("title", none), ("description", none), ("version", none)]
  | server => [("url", none)]
  | pathItem => [("get", some (.one operation)), ("put", some (.one operation)),
      ("post", some (.one operation)), ("delete", some (.one operation)),
      ("options", some (.one operation)), ("head", some (.one operation)),
      ("patch", some (.one operation)), ("parameters", some (.list parameter))]
  | operation => [("operationId", none), ("summary", none), ("description", none),
      ("deprecated", none), ("parameters", some (.list parameter)),
      ("requestBody", some (.one requestBody)), ("responses", some (.one responses))]
  | parameter => [("$ref", none), ("name", none), ("in", none), ("required", none),
      ("description", none), ("schema", some (.one schema)), ("type", none), ("format", none),
      ("items", some (.one schema)), ("enum", none)]
  | requestBody => [("$ref", none), ("required", none), ("description", none),
      ("content", some (.map mediaType))]
  | response => [("description", none), ("schema", some (.one schema)),
      ("content", some (.map mediaType))]
  | mediaType => [("schema", some (.one schema))]
  | schema => [("type", none), ("$ref", none), ("properties", some (.map schema)),
      ("required", none), ("items", some (.one schema)), ("enum", none),
      ("anyOf", some (.list schema)), ("oneOf", some (.list schema)),
      ("allOf", some (.list schema)), ("additionalProperties", some (.one schema)),
      ("format", none), ("description", none), ("const", none), ("nullable", none)]
  | components => [("schemas", some (.map schema)), ("parameters", some (.map parameter)),
      ("requestBodies", some (.map requestBody))]
  | paths | responses | passedOver => []

def entries? : Kind → Option Kind
  | paths => some pathItem
  | responses => some response
  | _ => none

def isMap (kind : Kind) : Bool :=
  kind.entries?.isSome

theorem members_eq_nil {kind inner : Kind} (held : kind.entries? = some inner) :
    kind.members = [] := by
  cases kind <;> first | rfl | cases held

theorem nodup_keys (kind : Kind) : (kind.members.map Prod.fst).Nodup := by
  cases kind <;> decide

/-- No member that is read has the name of an extension. -/
theorem not_isExtension_of_mem {kind : Kind} :
    ∀ key ∈ kind.members.map Prod.fst, ¬ IsExtension key := by
  cases kind <;> decide

end Kind

/-- `Extends value kind spot v w` says that `w` is `v` with an extension of the given value added to
an object of the given kind. The object stands inside of what the spot holds; if it stands under a
member that is passed over, anything may change there. -/
inductive Extends (value : Json) : Kind → Spot → Json → Json → Prop where
  | added {kind : Kind} {key : String} (before after : Members) :
      IsExtension key →
      Extends value kind (.one kind) (.object (before ++ after))
        (.object (before ++ (key, value) :: after))
  | passedOver {owner : Kind} {key : String} {v w : Json} (before after : Members) :
      owner.isMap = false → key ∉ owner.members.map Prod.fst →
      Extends value .passedOver (.one owner) (.object (before ++ (key, v) :: after))
        (.object (before ++ (key, w) :: after))
  | member {kind owner : Kind} {spot : Spot} {key : String} {v w : Json}
      (before after : Members) :
      (key, some spot) ∈ owner.members → Extends value kind spot v w →
      Extends value kind (.one owner) (.object (before ++ (key, v) :: after))
        (.object (before ++ (key, w) :: after))
  | entry {kind owner inner : Kind} {key : String} {v w : Json} (before after : Members) :
      owner.entries? = some inner → Extends value kind (.one inner) v w →
      Extends value kind (.one owner) (.object (before ++ (key, v) :: after))
        (.object (before ++ (key, w) :: after))
  | item {kind inner : Kind} {v w : Json} (before after : List Json) :
      Extends value kind (.one inner) v w →
      Extends value kind (.list inner) (.array (before ++ v :: after))
        (.array (before ++ w :: after))
  | named {kind inner : Kind} {key : String} {v w : Json} (before after : Members) :
      Extends value kind (.one inner) v w →
      Extends value kind (.map inner) (.object (before ++ (key, v) :: after))
        (.object (before ++ (key, w) :: after))

/-- The kinds on the way from the root to the objects that are read as maps. -/
def Kind.isOnWay : Kind → Bool
  | root | paths | pathItem | operation | responses => true
  | _ => false

def Spot.kind : Spot → Kind
  | one kind | list kind | map kind => kind

namespace Extends

variable {value v w : Json} {kind owner : Kind} {spot : Spot}

theorem exists_members (extended : Extends value kind (.one owner) v w) :
    ∃ first second, v = .object first ∧ w = .object second := by
  cases extended <;> exact ⟨_, _, rfl, rfl⟩

theorem ne_null (extended : Extends value kind spot v w) : v ≠ .null ∧ w ≠ .null := by
  cases extended <;> exact ⟨Json.noConfusion, Json.noConfusion⟩

/-- An object that is read as a map stands on the way from the root to such objects only. -/
theorem isOnWay (extended : Extends value kind spot v w) (mapped : kind.isMap = true) :
    spot.kind.isOnWay = true := by
  have children : ∀ owner : Kind, ∀ entry ∈ owner.members, ∀ spot, entry.2 = some spot →
      spot.kind.isOnWay = true → owner.isOnWay = true := by
    intro owner
    cases owner <;> decide
  induction extended with
  | @added kind =>
      cases kind <;> first | rfl | cases mapped
  | passedOver => cases mapped
  | member _ _ read _ ih => exact children _ _ read _ rfl (ih mapped)
  | @entry _ owner _ _ _ _ _ _ entries _ _ =>
      cases owner <;> first | rfl | cases entries
  | item _ _ _ ih => exact ih mapped
  | named _ _ _ ih => exact ih mapped

/-- A field of an object sees nothing of an extension, unless that is inside of its own member. -/
theorem under {first second : Members} {name : String} {found : Option Spot}
    (extended : Extends value kind (.one owner) (.object first) (.object second))
    (read : (name, found) ∈ owner.members) :
    Fields.under [name] second = Fields.under [name] first ∨
      ∃ spot before after v w, found = some spot ∧ Extends value kind spot v w ∧
        Fields.under [name] first = before ++ (name, v) :: after ∧
        Fields.under [name] second = before ++ (name, w) :: after := by
  cases extended with
  | @added _ key before after extension =>
      left
      have other : key ≠ name := by
        rintro rfl
        exact Kind.not_isExtension_of_mem _ (List.mem_map.mpr ⟨_, read, rfl⟩) extension
      simp [other]
  | @passedOver _ key _ _ before after _ unread =>
      left
      have other : key ≠ name := by
        rintro rfl
        exact unread (List.mem_map.mpr ⟨_, read, rfl⟩)
      simp [other]
  | @member _ _ spot key v w before after given inner =>
      by_cases same : key = name
      · subst same
        right
        have spots := List.inj_on_of_nodup_map (Kind.nodup_keys owner) read given rfl
        exact ⟨spot, Fields.under [key] before, Fields.under [key] after, v, w,
          congrArg Prod.snd spots, inner,
          Fields.under_around .., Fields.under_around ..⟩
      · left
        simp [same]
  | entry _ _ entries _ =>
      rw [Kind.members_eq_nil entries] at read
      cases read

end Extends

/-! ## What an extension does to an outcome -/

/-- Whether an object of a kind may have a member with a value under any name. Where a map is read,
the value has to be an entry. -/
def Kind.Takes (value : Json) : Kind → Prop
  | paths => ∃ item, PathItem.decode value = .ok item
  | responses => ∃ response, Response.decode value = .ok response
  | _ => True

/-- The outcome of a reading stays as it is, or the extension was added to a map and decides with
its value whether the reading still succeeds. -/
def Follows {ε α : Type} (value : Json) (kind : Kind) (first second : Except ε α) : Prop :=
  second = first ∨ kind.isMap = true ∧
    ((∃ b, second = .ok b) ↔ (∃ a, first = .ok a) ∧ kind.Takes value)

namespace Follows

variable {ε δ α β : Type} {value : Json} {kind : Kind} {first second : Except ε α}

theorem eq (follows : Follows value kind first second) (unmapped : kind.isMap = false) :
    second = first := by
  rcases follows with same | ⟨mapped, -⟩
  · exact same
  · rw [unmapped] at mapped
    cases mapped

/-- A computation that succeeds exactly when one part of it does follows that part. -/
theorem through {whole : Except ε α → Except δ β}
    (succeeds : ∀ part, (∃ b, whole part = .ok b) ↔ ∃ a, part = .ok a)
    (follows : Follows value kind first second) :
    Follows value kind (whole first) (whole second) := by
  rcases follows with rfl | ⟨mapped, holds⟩
  · exact .inl rfl
  · refine .inr ⟨mapped, ?_⟩
    rw [succeeds, succeeds, holds]

theorem map (make : α → β) (follows : Follows value kind first second) :
    Follows value kind (first.map make) (second.map make) :=
  follows.through fun part => by cases part <;> simp [Except.map]

theorem mapError (make : ε → δ) (follows : Follows value kind first second) :
    Follows value kind (first.mapError make) (second.mapError make) :=
  follows.through fun part => by cases part <;> simp [Except.mapError]

theorem mapM {σ : Type} {read : σ → Except ε α} {before after : List σ} {v w : σ}
    (follows : Follows value kind (read v) (read w)) :
    Follows value kind ((before ++ v :: after).mapM read) ((before ++ w :: after).mapM read) := by
  rcases follows with same | ⟨mapped, holds⟩
  · left
    simp only [List.mapM_append, List.mapM_cons, same]
  · refine .inr ⟨mapped, ?_⟩
    rw [exists_mapM_eq_ok_iff, exists_mapM_eq_ok_iff, List.forall_mem_append,
      List.forall_mem_append, List.forall_mem_cons, List.forall_mem_cons, holds]
    tauto

end Follows

/-- The answers of a reader follow an extension of what stands at a spot. -/
structure Judges {α : Type} (decode : Decoder α) (spot : Spot) : Prop where
  follows : ∀ {value kind v w}, Extends value kind spot v w →
    Follows value kind (decode v) (decode w)

/-- The same for the fields of an object of a kind. -/
structure FieldsJudge {α : Type} (fields : Fields α) (owner : Kind) : Prop where
  follows : ∀ {value kind first second},
    Extends value kind (.one owner) (.object first) (.object second) →
      Follows value kind (fields.ofMembers first) (fields.ofMembers second)

namespace FieldsJudge

variable {α β : Type} {owner : Kind} {name : String} {absent short : Option α} {decode : Decoder α}

theorem pure (a : α) : FieldsJudge (Pure.pure a) owner :=
  ⟨fun _ => .inl rfl⟩

theorem seq {f : Fields (α → β)} {x : Fields α} (judge : FieldsJudge f owner)
    (other : FieldsJudge x owner) : FieldsJudge (f <*> x) owner := by
  constructor
  intro value kind first second extended
  -- An extension is in one field only, but this is not needed: the condition repeats itself.
  rcases judge.follows extended, other.follows extended with
    ⟨same | ⟨mapped, holds⟩, again | ⟨mapped, also⟩⟩
  · left
    change (Fields.seq f x).ofMembers second = (Fields.seq f x).ofMembers first
    simp only [Fields.seq, same, again]
  all_goals
    refine .inr ⟨mapped, ?_⟩
    rw [Fields.exists_seq_iff, Fields.exists_seq_iff]
  · rw [same, also]
    tauto
  · rw [again, holds]
    tauto
  · rw [also, holds]
    tauto

theorem map {x : Fields α} (make : α → β) (judge : FieldsJudge x owner) :
    FieldsJudge (make <$> x) owner :=
  (pure make).seq judge

theorem plain (read : (name, none) ∈ owner.members) :
    FieldsJudge (Fields.field [name] absent short decode) owner := by
  constructor
  intro value kind first second extended
  rcases extended.under read with same | ⟨_, _, _, _, _, ⟨⟩, _⟩
  exact .inl (Fields.field_congr same)

theorem nested {spot : Spot} (judge : Judges decode spot)
    (read : (name, some spot) ∈ owner.members) :
    FieldsJudge (Fields.field [name] absent short decode) owner := by
  constructor
  intro value kind first second extended
  rcases extended.under read with same | ⟨_, before, after, v, w, ⟨⟩, inner, here, there⟩
  · exact .inl (Fields.field_congr same)
  · rcases judge.follows inner with same | ⟨mapped, holds⟩
    · left
      simp only [Fields.field, here, there]
      -- Of several members the first is read; that there is a second one is told by its key.
      rcases before with _ | ⟨_, _ | _⟩
      · cases after <;> simp [same]
      · rfl
      · rfl
    · refine .inr ⟨mapped, ?_⟩
      rw [Fields.exists_member_iff here, Fields.exists_member_iff there, holds]
      tauto

end FieldsJudge

namespace Judges

variable {α : Type} {owner inner : Kind} {decode : Decoder α}

theorem objectRecord {name : String} {fields : Fields α} (judge : FieldsJudge fields owner) :
    Judges (Decoder.objectRecord name fields) (.one owner) := by
  constructor
  intro value kind v w extended
  obtain ⟨first, second, rfl, rfl⟩ := extended.exists_members
  exact (judge.follows extended).mapError FieldFault.error

theorem record {name : String} {fields : Fields α} (judge : FieldsJudge fields owner) :
    Judges (Decoder.record name fields) (.one owner) := by
  constructor
  intro value kind v w extended
  obtain ⟨first, second, rfl, rfl⟩ := extended.exists_members
  exact (judge.follows extended).mapError FieldFault.error

theorem optional {spot : Spot} (judge : Judges decode spot) :
    Judges (Decoder.optional decode) spot := by
  constructor
  intro value kind v w extended
  obtain ⟨first, second⟩ := extended.ne_null
  rw [Decoder.optional_of_ne_null first, Decoder.optional_of_ne_null second]
  exact (judge.follows extended).map some

theorem list (judge : Judges decode (.one inner)) :
    Judges (Decoder.list decode) (.list inner) := by
  constructor
  intro value kind v w extended
  cases extended with
  | item before after inside => exact (judge.follows inside).mapM

theorem entry {value v w : Json} {kind : Kind} {key : String}
    (follows : Follows value kind (decode v) (decode w)) (before after : Members) :
    Follows value kind (Decoder.map decode (.object (before ++ (key, v) :: after)))
      (Decoder.map decode (.object (before ++ (key, w) :: after))) := by
  refine Follows.mapM ?_
  exact follows.map fun a => (key, a)

theorem map (judge : Judges decode (.one inner)) : Judges (Decoder.map decode) (.map inner) := by
  constructor
  intro value kind v w extended
  cases extended with
  | named before after inside => exact entry (judge.follows inside) before after

/-- An object that is read as a map takes an extension for one more entry. -/
theorem entries (judge : Judges decode (.one inner)) (held : owner.entries? = some inner)
    (takes : ∀ value, owner.Takes value ↔ ∃ a, decode value = .ok a) :
    Judges (Decoder.map decode) (.one owner) := by
  constructor
  intro value kind v w extended
  have mapped : owner.isMap = true := by rw [Kind.isMap, held]; rfl
  cases extended with
  | added before after extension =>
      refine .inr ⟨mapped, ?_⟩
      simp only [Decoder.map, exists_mapM_eq_ok_iff, List.forall_mem_append, List.forall_mem_cons,
        takes, exists_map_eq_ok_iff]
      tauto
  | passedOver _ _ record => rw [mapped] at record; cases record
  | member _ _ read _ =>
      rw [Kind.members_eq_nil held] at read
      cases read
  | entry before after given inside =>
      obtain rfl : inner = _ := Option.some.inj (held.symm.trans given)
      exact entry (judge.follows inside) before after

/-- Whether something is a reference or stands in place is told by the member `$ref` alone. -/
theorem orRef {type : String} (judge : Judges decode (.one owner))
    (read : ("$ref", none) ∈ owner.members) (away : owner.isOnWay = false) :
    Judges (OrRef.decode type decode) (.one owner) := by
  constructor
  intro value kind v w extended
  have unmapped : kind.isMap = false := by
    by_contra mapped
    have onWay := extended.isOnWay (Bool.of_not_eq_false mapped)
    rw [Spot.kind, away] at onWay
    cases onWay
  have fields : FieldsJudge (OrRef.ref (α := α) <$> Fields.required "$ref" Decoder.text) owner :=
    .map _ (.plain read)
  have reference : Judges (Decoder.objectRecord type _) (.one owner) := objectRecord fields
  left
  simp only [OrRef.decode, Decoder.firstOf, (reference.follows extended).eq unmapped,
    (judge.follows extended).eq unmapped]

end Judges

/-! ## Extensions that are seen -/

/-- A reader never gives the same answer before and after an extension of a map. -/
structure Sees {α : Type} (decode : Decoder α) (spot : Spot) : Prop where
  ne_ok : ∀ {value kind v w}, Extends value kind spot v w → kind.isMap = true →
    ∀ a, decode v = .ok a → decode w ≠ .ok a

/-- The field of a record that is read from a member sees extensions in it, and the record has what
was read there. -/
inductive ShowsField {α : Type} (fields : Fields α) (key : String) (spot : Spot) : Prop where
  | intro {β : Type} {absent short : Option β} {decode : Decoder β} (get : α → β) :
      Sees decode spot →
      (∀ members a, fields.Read members a →
        (Fields.field [key] absent short decode).Read members (get a)) →
      ShowsField fields key spot

namespace Sees

variable {α : Type} {owner inner : Kind} {spot : Spot} {decode : Decoder α}

/-- What is not on the way to a map has no extension of a map inside. -/
theorem away (away : spot.kind.isOnWay = false) : Sees decode spot := by
  constructor
  intro value kind v w extended mapped
  rw [extended.isOnWay mapped] at away
  cases away

theorem optional (sees : Sees decode spot) : Sees (Decoder.optional decode) spot := by
  constructor
  intro value kind v w extended mapped found before after
  obtain ⟨first, second⟩ := extended.ne_null
  rw [Decoder.optional_of_ne_null first, except_map_eq_ok_iff] at before
  rw [Decoder.optional_of_ne_null second, except_map_eq_ok_iff] at after
  obtain ⟨a, read, rfl⟩ := before
  obtain ⟨b, again, same⟩ := after
  obtain rfl := Option.some.inj same
  exact sees.ne_ok extended mapped a read again

/-- Fields other than the one that is extended do not count. -/
theorem record {name : String} {fields : Fields α} (unmapped : owner.isMap = false)
    (shows : ∀ key spot, (key, some spot) ∈ owner.members → spot.kind.isOnWay = true →
      ShowsField fields key spot) :
    Sees (Decoder.record name fields) (.one owner) := by
  constructor
  intro value kind v w extended mapped a before after
  cases extended with
  | added => rw [unmapped] at mapped; cases mapped
  | passedOver => cases mapped
  | entry _ _ held _ =>
      rw [Kind.isMap, held] at unmapped
      cases unmapped
  | @member _ _ spot key v w first last listed inside =>
      obtain ⟨get, sees, field⟩ :=
        shows key spot listed (inside.isOnWay mapped)
      have here := field _ a (Decoder.record_eq_ok_iff.mp before)
      have there := field _ a (Decoder.record_eq_ok_iff.mp after)
      rw [Fields.read_member_iff (Fields.under_around ..)] at here there
      exact sees.ne_ok inside mapped (get a) here.1 there.1

/-- One entry more is seen, and so is a difference in an entry. -/
theorem entries (sees : Sees decode (.one inner)) (held : owner.entries? = some inner) :
    Sees (Decoder.map decode) (.one owner) := by
  constructor
  intro value kind v w extended mapped found before after
  cases extended with
  | added first last extension =>
      simp only [Decoder.map, Decoder.mapM_eq_ok_iff_map] at before after
      have lengths := congrArg List.length (before.trans after.symm)
      simp at lengths
  | passedOver => cases mapped
  | member _ _ read _ =>
      rw [Kind.members_eq_nil held] at read
      cases read
  | @entry _ _ _ key v w first last given inside =>
      obtain rfl : inner = _ := Option.some.inj (held.symm.trans given)
      simp only [Decoder.map, Decoder.mapM_eq_ok_iff_map, List.map_append, List.map_cons]
        at before after
      have same := List.append_cancel_left (before.trans after.symm)
      have entry := (List.cons.inj same).1
      have listed : (decode v).map (fun a => (key, a)) ∈ found.map Except.ok := by
        rw [← before]
        exact List.mem_append_right _ List.mem_cons_self
      obtain ⟨_, -, read⟩ := List.mem_map.mp listed
      obtain ⟨a, decoded, rfl⟩ := except_map_eq_ok_iff.mp read.symm
      obtain ⟨b, again, pair⟩ := except_map_eq_ok_iff.mp (entry.symm.trans read.symm)
      obtain rfl := (Prod.mk.inj pair).2
      exact sees.ne_ok inside mapped a decoded again

end Sees

end ClientGen.Document
