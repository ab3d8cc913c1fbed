import ClientGen.Proofs.Meaning

/-!
# Types hold all valid values

Every value that is valid against a schema inhabits the type of the schema. The type is read off
one keyword while the others are dropped, so each keyword by itself has to leave a type that is
wide enough. The proof goes from the inner schemas to the outer ones, one lemma for each way in
which a type is made. A schema for further members makes a record type, which binds the declared
members too.
-/

namespace ClientGen.Schema

open TypeScript (TypeExpr Member)

/-- All the names that a schema gives as its type. -/
def namesOf : Option TypeNames → List String
  | some (.one name) => [name]
  | some (.many names) => names
  | none => []

/-- What a schema has to leave out for its type to hold all its values: binary text and files,
which are no JSON, and a schema for further members beside declared ones. -/
structure DescribesJson (schema : Schema) : Prop where
  format : schema.keywords.format ≠ some "binary"
  names : "file" ∉ namesOf schema.keywords.type
  members : schema.properties = none ∨ ∀ rest, schema.additional ≠ some (.schema rest)

variable (named : String → Json → Prop)

/-- What a schema has to leave out for its type to hold all its values, where it may give a schema
for further members as long as declared ones hold nothing that the type of the others leaves out. -/
structure Faithful (schema : Schema) : Prop where
  format : schema.keywords.format ≠ some "binary"
  names : "file" ∉ namesOf schema.keywords.type
  agrees : ∀ declared rest, schema.properties = some declared →
    schema.additional = some (.schema rest) → ∀ entry ∈ declared, ∀ value,
      entry.2.Admits named value → rest.typeOf.Inhabits named value

theorem DescribesJson.faithful {schema : Schema} (describes : schema.DescribesJson) :
    schema.Faithful named where
  format := describes.format
  names := describes.names
  agrees := by
    intro declared rest properties additional
    rcases describes.members with none | other
    · rw [properties] at none
      cases none
    · exact absurd additional (other rest)

/-- The value itself inhabits its literal type. -/
theorem inhabits_literalType {value given : Json} (same : value.Same given) :
    (literalType given).Inhabits named value := by
  cases same with
  | null => exact TypeExpr.inhabits_null named
  | bool flag =>
      cases flag with
      | true => exact ⟨.bool true, .true, .bool true⟩
      | false => exact ⟨.bool false, .false, .bool false⟩
  | number units => exact ⟨_, .number _, .number units⟩
  | string text => exact ⟨_, .string text, .string text⟩
  | array length items => exact TypeExpr.inhabits_unknown named _
  | object keys members => exact TypeExpr.inhabits_unknown named _

/-- A value of a named type inhabits what the name stands for, if the type of the items holds the
items of an array and the type of the members holds objects. -/
theorem inhabits_namedType {format : Option String} {item members : TypeExpr} {value : Json}
    {name : String} (ofType : OfNamedType value name) (notBinary : format ≠ some "binary")
    (notFile : name ≠ "file")
    (inItem : ∀ list, value = .array list → ∀ held ∈ list, item.Inhabits named held)
    (inMembers : value.IsObject → members.Inhabits named value) :
    (namedType format item members name).Inhabits named value := by
  unfold namedType
  split
  case h_1 =>
    rw [if_neg (by simpa using notBinary)]
    exact ofType
  case h_2 => exact ofType
  case h_3 =>
    obtain ⟨n, number, -⟩ := ofType
    exact ⟨n, number⟩
  case h_4 => exact ofType
  case h_5 => exact ofType
  case h_6 => exact absurd rfl notFile
  case h_7 =>
    obtain ⟨list, array⟩ := ofType
    exact ⟨list, array, inItem list array⟩
  case h_8 => exact inMembers ofType
  case h_9 => exact TypeExpr.inhabits_unknown named value

/-- A declared member of an object holds what its property asks. -/
theorem admits_of_hold {schema child : Schema} {schemas : List (String × Schema)}
    {entries : Members} (properties : schema.properties = some schemas)
    (hold : (schema.rules named).Hold (.object entries)) {name : String}
    (entry : (name, child) ∈ schemas) {held : Json}
    (found : Json.lookup name entries = some held) : child.Admits named held := by
  have conditions : (schema.rules named).properties =
      some (schemas.map fun entry => (entry.1, Admits named entry.2)) := by
    rw [rules, properties, Option.map_some]
  exact hold.properties _ entries conditions rfl name (Admits named child)
    (List.mem_map.mpr ⟨_, entry, rfl⟩) held found

/-- An object with its required members inhabits the object type of the declared ones if each of
these inhabits its own type. -/
theorem inhabits_object_iff {schemas : List (String × Schema)} {required : List String}
    {entries : Members}
    (present : ∀ name ∈ required, (Json.lookup name entries).isSome = true) :
    (TypeExpr.object (schemas.map (memberOf required))).Inhabits named (.object entries) ↔
      ∀ name child, (name, child) ∈ schemas → ∀ held,
        Json.lookup name entries = some held → child.typeOf.Inhabits named held := by
  constructor
  · rintro ⟨_, ⟨⟩, members⟩ name child entry held found
    have member := (TypeExpr.hasMembers_iff named _ _).mp members _ (List.mem_map_of_mem entry)
    exact member.1 held found
  · intro members
    refine ⟨entries, rfl, (TypeExpr.hasMembers_iff named _ _).mpr fun member given => ?_⟩
    obtain ⟨⟨name, child⟩, entry, rfl⟩ := List.mem_map.mp given
    refine ⟨members name child entry, fun isRequired => ?_⟩
    have listed : name ∈ required := by
      simpa [memberOf] using isRequired
    exact present name listed

theorem inhabits_record_iff (type : TypeExpr) (entries : Members) :
    (TypeExpr.record type).Inhabits named (.object entries) ↔
      ∀ name held, Json.lookup name entries = some held → type.Inhabits named held := by
  constructor
  · rintro ⟨_, ⟨⟩, members⟩
    exact members
  · exact fun members => ⟨entries, rfl, members⟩

/-- Every undeclared member of an object holds what the rule for the others asks. -/
theorem allowsMore_of_hold {schema : Schema} {entries : Members}
    (hold : (schema.rules named).Hold (.object entries)) {name : String} {held : Json}
    (found : Json.lookup name entries = some held)
    (undeclared : ∀ declared, schema.properties = some declared → name ∉ declared.map (·.1)) :
    (schema.rules named).AllowsMore held := by
  refine hold.additional entries rfl name held found fun conditions given => ?_
  obtain ⟨declared, properties, rfl⟩ := Option.map_eq_some_iff.mp given
  rw [List.map_map]
  exact undeclared declared properties

/-- Every member of an object inhabits the type of a schema for further members: an undeclared one
because the schema admits it. -/
theorem inhabits_additional_of_hold {schema rest : Schema} {entries : Members}
    (additional : schema.additional = some (.schema rest))
    (hold : (schema.rules named).Hold (.object entries)) (faithful : schema.Faithful named)
    (inner : ∀ child ∈ schema.children, ∀ value, child.Admits named value →
      child.typeOf.Inhabits named value) :
    (TypeExpr.record rest.typeOf).Inhabits named (.object entries) := by
  rw [inhabits_record_iff]
  intro name held found
  -- The record type binds the declared members too, and these are valid against other schemas.
  by_cases known : ∃ declared child, schema.properties = some declared ∧ (name, child) ∈ declared
  · obtain ⟨declared, child, properties, entry⟩ := known
    have admitted := admits_of_hold named properties hold entry found
    exact faithful.agrees declared rest properties additional _ entry held admitted
  · have allowed := allowsMore_of_hold named hold found fun declared properties listed => by
      obtain ⟨⟨_, child⟩, entry, rfl⟩ := List.mem_map.mp listed
      exact known ⟨declared, child, properties, entry⟩
    rw [Rules.AllowsMore, rules, additional] at allowed
    exact inner rest (mem_children_of_additional additional) held allowed

theorem inhabits_pair_iff (first second : TypeExpr) (value : Json) :
    (TypeExpr.intersection [first, second]).Inhabits named value ↔
      first.Inhabits named value ∧ second.Inhabits named value := by
  simp [TypeExpr.inhabits_intersection_iff]

theorem inhabits_objectType {schema : Schema} {value : Json} (isObject : value.IsObject)
    (hold : (schema.rules named).Hold value) (faithful : schema.Faithful named)
    (inner : ∀ child ∈ schema.children, ∀ value, child.Admits named value →
      child.typeOf.Inhabits named value) :
    schema.objectType.Inhabits named value := by
  obtain ⟨entries, rfl⟩ := isObject
  have any : (TypeExpr.record .unknown).Inhabits named (.object entries) :=
    (inhabits_record_iff named _ _).mpr fun _ held _ => TypeExpr.inhabits_unknown named held
  unfold objectType
  cases properties : schema.properties with
  | some schemas =>
      have declared : (TypeExpr.object (schemas.map (memberOf schema.keywords.required))).Inhabits
          named (.object entries) := by
        refine (inhabits_object_iff named (hold.required entries rfl)).mpr ?_
        intro name child entry held found
        exact inner child (mem_children_of_mem_properties properties entry) held
          (admits_of_hold named properties hold entry found)
      cases additional : schema.additional with
      | none =>
          rw [additionalType, additional]
          exact declared
      | some rule =>
          cases rule with
          | allowed flag =>
              rw [additionalType, additional]
              cases flag with
              | false => exact declared
              | true => exact (inhabits_pair_iff named _ _ _).mpr ⟨declared, any⟩
          | schema rest =>
              rw [additionalType, additional]
              exact (inhabits_pair_iff named _ _ _).mpr
                ⟨declared, inhabits_additional_of_hold named additional hold faithful inner⟩
  | none =>
      cases additional : schema.additional with
      | none =>
          rw [additionalType, additional]
          exact any
      | some rule =>
          cases rule with
          | allowed flag =>
              rw [additionalType, additional]
              cases flag <;> exact any
          | schema rest =>
              rw [additionalType, additional]
              exact inhabits_additional_of_hold named additional hold faithful inner

theorem inhabits_itemType {schema : Schema} {value : Json} {list : List Json}
    (array : value = .array list) (hold : (schema.rules named).Hold value)
    (inner : ∀ child ∈ schema.children, ∀ value, child.Admits named value →
      child.typeOf.Inhabits named value) :
    ∀ held ∈ list, schema.itemType.Inhabits named held := by
  intro held member
  unfold itemType
  cases items : schema.items with
  | none => exact TypeExpr.inhabits_unknown named held
  | some item =>
      have condition : (schema.rules named).items = some (Admits named item) := by
        rw [rules, items, Option.map_some]
      have admitted := hold.items _ list condition array held member
      exact inner item (mem_children_of_items items) held admitted

/-- Type names alone leave a type that is wide enough. -/
theorem inhabits_typeByNames {schema : Schema} {value : Json}
    (hold : (schema.rules named).Hold value) (faithful : schema.Faithful named)
    (inner : ∀ child ∈ schema.children, ∀ value, child.Admits named value →
      child.typeOf.Inhabits named value) :
    (typeByNames schema.keywords (schema.properties.isSome || schema.additional.isSome)
      schema.itemType schema.objectType).Inhabits named value := by
  have byName {name : String} (ofType : OfNamedType value name)
      (listed : name ∈ namesOf schema.keywords.type) :
      (namedType schema.keywords.format schema.itemType schema.objectType name).Inhabits
        named value := by
    have notFile : name ≠ "file" := by
      rintro rfl
      exact faithful.names listed
    exact inhabits_namedType named ofType faithful.format notFile
      (fun list array => inhabits_itemType named array hold inner)
      (fun isObject => inhabits_objectType named isObject hold faithful inner)
  have ofTypes := hold.type
  unfold Rules.TypeHolds at ofTypes
  unfold typeByNames
  cases names : schema.keywords.type with
  | none =>
      rw [show (schema.rules named).keywords.type = none from names] at ofTypes
      dsimp only
      split
      case isTrue members =>
        have asked : (schema.rules named).properties.isSome = true ∨
            (schema.rules named).additional.isSome = true := by
          simpa [rules, isSome_admittedRule?] using members
        exact inhabits_objectType named (ofTypes asked) hold faithful inner
      case isFalse => exact TypeExpr.inhabits_unknown named value
  | some given =>
      rw [show (schema.rules named).keywords.type = some given from names] at ofTypes
      rw [names] at byName
      cases given with
      | one name => exact byName ofTypes (List.mem_singleton_self name)
      | many list =>
          obtain ⟨name, listed, ofType⟩ := ofTypes
          refine TypeExpr.inhabits_collapse_union named ?_
          by_cases isNull : name = "null"
          · subst isNull
            obtain rfl : value = .null := ofType
            have nullable : schema.keywords.isNullable = true := by
              simp [Keywords.isNullable, names, listed]
            exact ⟨.null, by simp [nullable], TypeExpr.inhabits_null named⟩
          · have kept : name ∈ list.filter (· != "null") := by simp [listed, isNull]
            exact ⟨_, List.mem_append_left _ (List.mem_map_of_mem kept), byName ofType listed⟩

/-- Whichever keyword the type is read off, a value that meets them all inhabits it. -/
theorem inhabits_baseType {schema : Schema} {value : Json}
    (noReference : schema.keywords.ref = none) (hold : (schema.rules named).Hold value)
    (faithful : schema.Faithful named)
    (inner : ∀ child ∈ schema.children, ∀ value, child.Admits named value →
      child.typeOf.Inhabits named value) :
    schema.baseType.Inhabits named value := by
  unfold baseType
  split
  case h_1 reference given =>
    rw [noReference] at given
    cases given
  case h_2 given _ constant =>
    exact inhabits_literalType named (hold.constant given constant)
  case h_3 schemas _ _ allOf =>
    have conditions : (schema.rules named).allOf = some (schemas.map (Admits named)) := by
      rw [rules, allOf, Option.map_some]
    refine TypeExpr.inhabits_collapse_intersection named fun type part => ?_
    obtain ⟨child, member, rfl⟩ := List.mem_map.mp part
    have admitted := hold.allOf _ conditions _ (List.mem_map_of_mem member)
    exact inner child (mem_children_of_mem_allOf allOf member) value admitted
  case h_4 schemas _ _ _ anyOf =>
    have conditions : (schema.rules named).anyOf = some (schemas.map (Admits named)) := by
      rw [rules, anyOf, Option.map_some]
    obtain ⟨condition, given, admitted⟩ := hold.anyOf _ conditions
    obtain ⟨child, member, rfl⟩ := List.mem_map.mp given
    exact TypeExpr.inhabits_collapse_union named ⟨_, List.mem_map_of_mem member,
      inner child (mem_children_of_mem_anyOf anyOf member) value admitted⟩
  case h_5 schemas _ _ _ _ oneOf =>
    have conditions : (schema.rules named).oneOf = some (schemas.map (Admits named)) := by
      rw [rules, oneOf, Option.map_some]
    obtain ⟨before, condition, after, split, admitted, -⟩ := hold.oneOf _ conditions
    have given : condition ∈ schemas.map (Admits named) := by
      rw [split]
      exact List.mem_append_right before (List.mem_cons_self ..)
    obtain ⟨child, member, rfl⟩ := List.mem_map.mp given
    exact TypeExpr.inhabits_collapse_union named ⟨_, List.mem_map_of_mem member,
      inner child (mem_children_of_mem_oneOf oneOf member) value admitted⟩
  case h_6 values _ _ _ _ _ enumeration =>
    obtain ⟨given, member, same⟩ := hold.enumeration values enumeration
    exact TypeExpr.inhabits_collapse_union named
      ⟨_, List.mem_map_of_mem member, inhabits_literalType named same⟩
  case h_7 => exact inhabits_typeByNames named hold faithful inner

/-- If every schema inside is faithful, the type holds every value that is valid. -/
theorem inhabits_typeOf_of_faithful (schema : Schema) (value : Json)
    (faithful : ∀ node, Within node schema → node.Faithful named)
    (valid : schema.Admits named value) : schema.typeOf.Inhabits named value := by
  induction schema using induction_on_children generalizing value with
  | step schema ih =>
      have inner : ∀ child ∈ schema.children, ∀ value, child.Admits named value →
          child.typeOf.Inhabits named value := fun child member value admitted =>
        ih child member value (fun node within => faithful node (.inside member within)) admitted
      rw [typeOf_eq]
      have base : value = .null ∧ schema.keywords.nullable = some true ∨
          schema.baseType.Inhabits named value := by
        rcases (admits_iff named schema value).mp valid with ⟨flag, isNull⟩ | rest
        · exact Or.inl ⟨isNull, flag⟩
        · cases reference : schema.keywords.ref with
          | some path =>
              rw [reference] at rest
              right
              rw [baseType, reference]
              exact rest
          | none =>
              rw [reference] at rest
              exact Or.inr (inhabits_baseType named reference rest (faithful schema .self) inner)
      split
      case isTrue =>
        exact TypeExpr.inhabits_nullable named (base.imp And.left id)
      case isFalse notNullable =>
        rcases base with ⟨-, flag⟩ | inhabited
        · simp [flag] at notNullable
        · exact inhabited

/-- The type of a schema holds every value that is valid against it. -/
theorem inhabits_typeOf (schema : Schema) (value : Json)
    (describes : ∀ node, Within node schema → node.DescribesJson)
    (valid : schema.Admits named value) : schema.typeOf.Inhabits named value := by
  have faithful : ∀ node, Within node schema → node.Faithful named := fun node within =>
    (describes node within).faithful named
  exact inhabits_typeOf_of_faithful named schema value faithful valid

/-- An object or `null`, with an owner that must be there. -/
def ownedItem : Schema :=
  .node { Keywords.none with type := some (.many ["object", "null"]), required := ["owner"] }
    (some [("owner", .node { Keywords.none with ref := some "#/definitions/user" } none none none
      none none none)])
    none none none none (some (.allowed true))

/-- A meaning of names under which the name `User` admits texts. -/
def userIsText (name : String) (value : Json) : Prop :=
  name = "User" ∧ ∃ text, value = .string text

def itemOfAnn : Json :=
  .object [("note", .null), ("owner", .string "Ann")]

theorem inhabits_typeOf_ownedItem :
    (∀ node, Within node ownedItem → node.DescribesJson) ∧
      ownedItem.Admits userIsText itemOfAnn ∧
      ownedItem.typeOf.Inhabits userIsText itemOfAnn := by
  have describes : ∀ node, Within node ownedItem → node.DescribesJson := by
    intro node within
    rcases within_iff.mp within with rfl | ⟨child, member, inner⟩
    · exact ⟨by decide, by decide, Or.inr fun rest same => by cases same⟩
    · obtain rfl := List.mem_singleton.mp member
      obtain rfl := within_of_children_eq_nil rfl inner
      exact ⟨by decide, by decide, Or.inl rfl⟩
  have hold : (ownedItem.rules userIsText).Hold itemOfAnn :=
    { constant := fun _ given => by cases given
      enumeration := fun _ given => by cases given
      allOf := fun _ given => by cases given
      anyOf := fun _ given => by cases given
      oneOf := fun _ given => by cases given
      type := ⟨"object", by decide, _, rfl⟩
      items := fun _ _ given => by cases given
      properties := fun conditions members given same name condition member held found => by
        cases given
        cases same
        cases List.mem_singleton.mp member
        cases found
        exact (admits_iff userIsText _ _).mpr (Or.inr ⟨by decide, "Ann", rfl⟩)
      required := fun members same name member => by
        cases same
        obtain rfl := List.mem_singleton.mp member
        rfl
      additional := fun _ _ _ _ _ _ => rfl }
  have valid : ownedItem.Admits userIsText itemOfAnn :=
    (admits_iff userIsText ownedItem itemOfAnn).mpr (Or.inr hold)
  exact ⟨describes, valid, inhabits_typeOf userIsText ownedItem itemOfAnn describes valid⟩

end ClientGen.Schema
