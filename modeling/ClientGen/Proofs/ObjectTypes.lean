import ClientGen.Proofs.TypeSoundness

/-!
# Objects with further members

A schema can declare members and give a schema for all others. The type is then an object type with
the declared members, intersected with a record type. The record type is about every member of an
object, declared or not. The main statement says what that asks of a valid object: that each of its
declared members inhabits the type for the others as well.
-/

namespace ClientGen.Schema

open TypeScript (TypeExpr)

variable (named : String → Json → Prop)

/-- The members of an object are those that are asked for: each declared one as its property says,
each required one there, and each other one as the schema for the others says. -/
structure AllowedMembers (declared : List (String × Schema)) (required : List String)
    (rest : Schema) (entries : Members) : Prop where
  own : ∀ name child, (name, child) ∈ declared → ∀ held,
    Json.lookup name entries = some held → child.Admits named held
  present : ∀ name ∈ required, (Json.lookup name entries).isSome = true
  others : ∀ name held, Json.lookup name entries = some held → name ∉ declared.map (·.1) →
    rest.Admits named held

/-- A schema of objects about which nothing but the members decides. -/
structure ReadsMembers (schema : Schema) : Prop where
  type : schema.keywords.type = some (.one "object")
  ref : schema.keywords.ref = none
  constant : schema.keywords.constant = none
  allOf : schema.allOf = none
  anyOf : schema.anyOf = none
  oneOf : schema.oneOf = none
  enumeration : schema.keywords.enumeration = none

variable {schema rest : Schema} {declared : List (String × Schema)} {entries : Members}

theorem objectType_eq (properties : schema.properties = some declared)
    (additional : schema.additional = some (.schema rest)) :
    schema.objectType =
      .intersection [.object (declared.map (memberOf schema.keywords.required)),
        .record rest.typeOf] := by
  rw [objectType, additionalType, additional, properties]
  rfl

/-! ## The members of inhabitants -/

/-- Every member, declared or not, has to inhabit the type for further members, and a declared one
has to inhabit its own type in addition. -/
theorem inhabits_objectType_members_iff (properties : schema.properties = some declared)
    (additional : schema.additional = some (.schema rest))
    (present : ∀ name ∈ schema.keywords.required, (Json.lookup name entries).isSome = true) :
    schema.objectType.Inhabits named (.object entries) ↔
      ∀ name held, Json.lookup name entries = some held → rest.typeOf.Inhabits named held ∧
        ∀ child, (name, child) ∈ declared → child.typeOf.Inhabits named held := by
  rw [objectType_eq properties additional, inhabits_pair_iff, inhabits_object_iff named present,
    inhabits_record_iff]
  constructor
  · rintro ⟨own, all⟩ name held found
    exact ⟨all name held found, fun child entry => own name child entry held found⟩
  · intro members
    exact ⟨fun name child entry held found => (members name held found).2 child entry,
      fun name held found => (members name held found).1⟩

/-- Of an object with allowed members, only the declared ones may fail the type for further
members. -/
theorem inhabits_objectType_declared_iff (properties : schema.properties = some declared)
    (additional : schema.additional = some (.schema rest))
    (allowed : AllowedMembers named declared schema.keywords.required rest entries)
    (faithful : ∀ child ∈ rest :: declared.map (·.2), ∀ node, Within node child →
      node.Faithful named) :
    schema.objectType.Inhabits named (.object entries) ↔
      ∀ name ∈ declared.map (·.1), ∀ held, Json.lookup name entries = some held →
        rest.typeOf.Inhabits named held := by
  rw [inhabits_objectType_members_iff named properties additional allowed.present]
  constructor
  · intro members name _ held found
    exact (members name held found).1
  · intro inRest name held found
    constructor
    · by_cases listed : name ∈ declared.map (·.1)
      · exact inRest name listed held found
      · exact inhabits_typeOf_of_faithful named rest held (faithful rest List.mem_cons_self)
          (allowed.others name held found listed)
    · intro child entry
      have inside : child ∈ rest :: declared.map (·.2) :=
        List.mem_cons_of_mem rest (List.mem_map.mpr ⟨_, entry, rfl⟩)
      exact inhabits_typeOf_of_faithful named child held (faithful child inside)
        (allowed.own name child entry held found)

/-! ## The type of the schema -/

theorem baseType_of_readsMembers (reads : schema.ReadsMembers) :
    schema.baseType = schema.objectType := by
  simp only [baseType, typeByNames, reads.ref, reads.constant, reads.allOf, reads.anyOf,
    reads.oneOf, reads.enumeration, reads.type]
  rfl

/-- Of objects, the type of the schema holds what its type of objects holds, also with a flag for
`null`. -/
theorem inhabits_typeOf_object_iff (reads : schema.ReadsMembers) :
    schema.typeOf.Inhabits named (.object entries) ↔
      schema.objectType.Inhabits named (.object entries) := by
  rw [typeOf_eq, baseType_of_readsMembers reads]
  split
  · constructor
    · intro inhabits
      rcases TypeExpr.of_inhabits_nullable named inhabits with isNull | inhabited
      · cases isNull
      · exact inhabited
    · exact fun inhabited => TypeExpr.inhabits_nullable named (.inr inhabited)
  · rfl

/-- What such a schema asks of an object is that its members are the ones asked for. -/
theorem admits_object_iff (reads : schema.ReadsMembers)
    (properties : schema.properties = some declared)
    (additional : schema.additional = some (.schema rest)) :
    schema.Admits named (.object entries) ↔
      AllowedMembers named declared schema.keywords.required rest entries := by
  have conditions : (schema.rules named).properties =
      some (declared.map fun entry => (entry.1, Admits named entry.2)) := by
    rw [rules, properties, Option.map_some]
  have more : (schema.rules named).additional = some (.schema (Admits named rest)) := by
    rw [rules, additional]
    rfl
  rw [admits_iff, reads.ref]
  constructor
  · rintro (⟨-, ⟨⟩⟩ | hold)
    refine ⟨fun name child entry held found => admits_of_hold named properties hold entry found,
      hold.required entries rfl, fun name held found undeclared => ?_⟩
    have allows := allowsMore_of_hold named hold found fun others given => by
      rw [properties, Option.some.injEq] at given
      exact given ▸ undeclared
    rw [Rules.AllowsMore, more] at allows
    exact allows
  · intro allowed
    refine Or.inr
      { constant := fun given same => ?_
        enumeration := fun values same => ?_
        allOf := fun conditions same => ?_
        anyOf := fun conditions same => ?_
        oneOf := fun conditions same => ?_
        type := ?_
        items := fun condition list _ same => by cases same
        properties := fun given members same object name condition listed held found => ?_
        required := fun members object => ?_
        additional := fun members object name held found undeclared => ?_ }
    · cases reads.constant.symm.trans same
    · cases reads.enumeration.symm.trans same
    · rw [rules, reads.allOf] at same
      cases same
    · rw [rules, reads.anyOf] at same
      cases same
    · rw [rules, reads.oneOf] at same
      cases same
    · rw [Rules.TypeHolds, show (schema.rules named).keywords.type = some (.one "object")
        from reads.type]
      exact ⟨entries, rfl⟩
    · cases object
      rw [conditions, Option.some.injEq] at same
      subst same
      obtain ⟨⟨_, child⟩, entry, pair⟩ := List.mem_map.mp listed
      cases pair
      exact allowed.own _ child entry held found
    · cases object
      exact allowed.present
    · cases object
      rw [Rules.AllowsMore, more]
      refine allowed.others name held found ?_
      have others := undeclared _ conditions
      rw [List.map_map] at others
      exact others

/-- An object whose members are allowed inhabits the type of objects exactly if every member
inhabits the type for further members and the declared ones their own types too. Where types hold
all valid values of the inner schemas, that leaves the declared members with the type for further
ones. A schema of objects admits such an object, and its own type holds it in the same case. -/
theorem inhabits_objectType_iff (properties : schema.properties = some declared)
    (additional : schema.additional = some (.schema rest))
    (allowed : AllowedMembers named declared schema.keywords.required rest entries) :
    (schema.objectType.Inhabits named (.object entries) ↔
      ∀ name held, Json.lookup name entries = some held → rest.typeOf.Inhabits named held ∧
        ∀ child, (name, child) ∈ declared → child.typeOf.Inhabits named held) ∧
    ((∀ child ∈ rest :: declared.map (·.2), ∀ node, Within node child → node.Faithful named) →
      (schema.objectType.Inhabits named (.object entries) ↔
        ∀ name ∈ declared.map (·.1), ∀ held, Json.lookup name entries = some held →
          rest.typeOf.Inhabits named held)) ∧
    (schema.ReadsMembers → schema.Admits named (.object entries) ∧
      (schema.typeOf.Inhabits named (.object entries) ↔
        schema.objectType.Inhabits named (.object entries))) :=
  ⟨inhabits_objectType_members_iff named properties additional allowed.present,
    inhabits_objectType_declared_iff named properties additional allowed,
    fun reads => ⟨(admits_object_iff named reads properties additional).mpr allowed,
      inhabits_typeOf_object_iff named reads⟩⟩

def typed (names : TypeNames) : Schema :=
  .node { Keywords.none with type := some names } none none none none none none

/-- Objects with an `id` of one schema and further members of another. -/
def identified (required : List String) (id rest : Schema) : Schema :=
  .node { Keywords.none with type := some (.one "object"), required := required }
    (some [("id", id)]) none none none none (some (.schema rest))

def noneNamed (_ : String) (_ : Json) : Prop :=
  False

theorem admits_typed {names : TypeNames} {name : String} {value : Json}
    (listed : name ∈ namesOf (some names)) (ofType : OfNamedType value name) :
    (typed names).Admits named value := by
  have holds : ((typed names).rules named).TypeHolds value := by
    cases names with
    | one only =>
        obtain rfl := List.mem_singleton.mp listed
        exact ofType
    | many list => exact ⟨name, listed, ofType⟩
  exact (admits_iff named _ _).mpr (Or.inr
    { constant := nofun
      enumeration := nofun
      allOf := nofun
      anyOf := nofun
      oneOf := nofun
      type := holds
      items := nofun
      properties := nofun
      required := nofun
      additional := fun _ _ _ _ _ _ => trivial })

theorem faithful_of_within_typed {names : TypeNames} {node : Schema}
    (noFile : "file" ∉ namesOf (some names)) (within : Within node (typed names)) :
    node.Faithful named := by
  obtain rfl := within_of_children_eq_nil rfl within
  exact ⟨nofun, noFile, nofun⟩

theorem readsMembers_identified (required : List String) (id rest : Schema) :
    (identified required id rest).ReadsMembers :=
  ⟨rfl, rfl, rfl, rfl, rfl, rfl, rfl⟩

/-- An `id` that is a text stands beside a note that is `null`, where further members may be texts
or `null`. -/
theorem inhabits_objectType_identified :
    AllowedMembers noneNamed [("id", typed (.one "string"))] ["id"]
        (typed (.many ["string", "null"])) [("id", .string "a"), ("note", .null)] ∧
      (identified ["id"] (typed (.one "string"))
        (typed (.many ["string", "null"]))).typeOf.Inhabits noneNamed
          (.object [("id", .string "a"), ("note", .null)]) := by
  have allowed : AllowedMembers noneNamed [("id", typed (.one "string"))] ["id"]
      (typed (.many ["string", "null"])) [("id", .string "a"), ("note", .null)] := by
    refine ⟨fun name child entry held found => ?_, fun name listed => ?_,
      fun name held found undeclared => ?_⟩
    · cases List.mem_singleton.mp entry
      cases found
      exact admits_typed noneNamed (List.mem_singleton_self "string") ⟨"a", rfl⟩
    · cases List.mem_singleton.mp listed
      rfl
    · simp only [Json.lookup] at found
      split at found
      case isTrue same => exact absurd (same ▸ List.mem_singleton_self "id") undeclared
      case isFalse =>
        split at found
        case isTrue =>
          cases found
          exact admits_typed noneNamed (.tail _ (.head _)) (show OfNamedType .null "null" from rfl)
        case isFalse => cases found
  have faithful : ∀ child ∈ [typed (.many ["string", "null"]), typed (.one "string")], ∀ node,
      Within node child → node.Faithful noneNamed := by
    intro child listed node within
    rcases List.mem_cons.mp listed with rfl | listed
    · exact faithful_of_within_typed noneNamed (by decide) within
    · obtain rfl := List.mem_singleton.mp listed
      exact faithful_of_within_typed noneNamed (by decide) within
  obtain ⟨-, declared, typeOf⟩ := @inhabits_objectType_iff noneNamed
    (identified ["id"] (typed (.one "string")) (typed (.many ["string", "null"]))) _ _ _
    rfl rfl allowed
  have inRest : ∀ name ∈ ["id"], ∀ held,
      Json.lookup name [("id", .string "a"), ("note", .null)] = some held →
      (typed (.many ["string", "null"])).typeOf.Inhabits noneNamed held := by
    intro name listed held found
    cases List.mem_singleton.mp listed
    cases found
    exact (TypeExpr.inhabits_union_iff noneNamed _ _).mpr ⟨_, .head _, "a", rfl⟩
  exact ⟨allowed, (typeOf (readsMembers_identified _ _ _)).2.mpr ((declared faithful).mpr inRest)⟩

/-- An `id` that is a number is admitted beside further members that are texts, and the object is no
inhabitant of the type. -/
theorem not_inhabits_objectType_number :
    AllowedMembers noneNamed [("id", typed (.one "integer"))] [] (typed (.one "string"))
        [("id", .number (.integer 1))] ∧
      ¬ (identified [] (typed (.one "integer")) (typed (.one "string"))).objectType.Inhabits
        noneNamed (.object [("id", .number (.integer 1))]) := by
  have whole : (Number.integer 1).IsWhole := Int.mul_emod_left 1 _
  constructor
  · refine ⟨fun name child entry held found => ?_, nofun, fun name held found undeclared => ?_⟩
    · cases List.mem_singleton.mp entry
      cases found
      exact admits_typed noneNamed (List.mem_singleton_self "integer") ⟨.integer 1, rfl, whole⟩
    · simp only [Json.lookup] at found
      split at found
      case isTrue same => exact absurd (same ▸ List.mem_singleton_self "id") undeclared
      case isFalse => cases found
  · rw [objectType_eq rfl rfl, inhabits_pair_iff, inhabits_record_iff]
    rintro ⟨-, all⟩
    obtain ⟨text, same⟩ := all "id" (.number (.integer 1)) rfl
    cases same

end ClientGen.Schema
