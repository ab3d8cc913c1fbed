import ClientGen.Proofs.SchemaTree
import ClientGen.Proofs.TypeReading
import ClientGen.TypeScript.Print

/-!
# The text of the type of a schema

The text of the type of a schema keeps the type: read by the grammar of types it gives back the
tree of the type, and an annotation made of it is printed as the same text.
-/

namespace ClientGen.TypeScript

/-! ## References in place of keywords -/

namespace TypeExpr

theorem isCompound_identified (type : TypeExpr) : type.identified.isCompound = type.isCompound := by
  cases type <;> rfl

theorem isUnion_identified (type : TypeExpr) : type.identified.isUnion = type.isUnion := by
  cases type <;> rfl

mutual

/-- A keyword and a reference of the same spelling have the same text. -/
theorem text_identified : ∀ type : TypeExpr, type.identified.text = type.text
  | .keyword _ => rfl
  | .literal _ => rfl
  | .array item => by
      change (if item.identified.isCompound then parenthesized item.identified.text
        else item.identified.text) ++ "[]" =
          (if item.isCompound then parenthesized item.text else item.text) ++ "[]"
      rw [isCompound_identified, text_identified item]
  | .union types => congrArg (joined " | ") (texts_identifiedTypes types)
  | .intersection types => congrArg (joined " & ") (factorTexts_identifiedTypes types)
  | .object members => by
      have same := memberTexts_identifiedMembers members
      cases members with
      | nil => rfl
      | cons member rest =>
          exact congrArg (fun texts => "\x7b " ++ Text.join "; " texts ++ " \x7d") same
  | .record value =>
      congrArg (fun text => "Record<string, " ++ text ++ ">") (text_identified value)
  | .ref _ => rfl

theorem texts_identifiedTypes : ∀ types : List TypeExpr,
    texts (identifiedTypes types) = texts types
  | [] => rfl
  | type :: rest => by
      rw [identifiedTypes, texts, texts, text_identified type, texts_identifiedTypes rest]

theorem factorTexts_identifiedTypes : ∀ types : List TypeExpr,
    factorTexts (identifiedTypes types) = factorTexts types
  | [] => rfl
  | type :: rest => by
      rw [identifiedTypes, factorTexts, factorTexts, isUnion_identified, text_identified type,
        factorTexts_identifiedTypes rest]

theorem memberTexts_identifiedMembers : ∀ members : List (Member TypeExpr),
    memberTexts (identifiedMembers members) = memberTexts members
  | [] => rfl
  | ⟨_, type, _⟩ :: rest => by
      rw [identifiedMembers, memberTexts, memberTexts, text_identified type,
        memberTexts_identifiedMembers rest]

end

end TypeExpr

/-! ## The tree of a type -/

/-- A type expression that is the expression of a tree, up to references in place of keywords. -/
def HasTree (type : TypeExpr) : Prop :=
  ∃ tree : TypeTree, tree.expr = type.identified

theorem exists_trees {types : List TypeExpr} (each : ∀ type ∈ types, HasTree type) :
    ∃ trees, TypeTree.exprs trees = TypeExpr.identifiedTypes types := by
  induction types with
  | nil => exact ⟨[], rfl⟩
  | cons type rest ih =>
      obtain ⟨tree, same⟩ := each type List.mem_cons_self
      obtain ⟨trees, behind⟩ := ih fun part member => each part (List.mem_cons_of_mem _ member)
      exact ⟨tree :: trees, by rw [TypeTree.exprs, same, behind, TypeExpr.identifiedTypes]⟩

theorem exists_two_trees {types : List TypeExpr} (several : 2 ≤ types.length)
    (each : ∀ type ∈ types, HasTree type) :
    ∃ first second rest,
      TypeTree.exprs (first :: second :: rest) = TypeExpr.identifiedTypes types := by
  match types, several, each with
  | one :: two :: others, _, each =>
      obtain ⟨ofOne, each⟩ := List.forall_mem_cons.mp each
      obtain ⟨ofTwo, each⟩ := List.forall_mem_cons.mp each
      obtain ⟨first, sameFirst⟩ := ofOne
      obtain ⟨second, sameSecond⟩ := ofTwo
      obtain ⟨rest, sameRest⟩ := exists_trees each
      refine ⟨first, second, rest, ?_⟩
      rw [TypeTree.exprs, TypeTree.exprs, sameFirst, sameSecond, sameRest]
      rfl

theorem exists_memberTrees {members : List (Member TypeExpr)}
    (each : ∀ member ∈ members, HasTree member.type) :
    ∃ trees, TypeTree.memberExprs trees = TypeExpr.identifiedMembers members := by
  induction members with
  | nil => exact ⟨[], rfl⟩
  | cons member rest ih =>
      obtain ⟨tree, same⟩ := each member List.mem_cons_self
      obtain ⟨trees, behind⟩ := ih fun part listed => each part (List.mem_cons_of_mem _ listed)
      refine ⟨⟨member.name, tree, member.isOptional⟩ :: trees, ?_⟩
      rw [TypeTree.memberExprs, same, behind]
      rfl

theorem hasTree_name {text : String} (reference : isTypeReference text = true) :
    HasTree (.ref text) ∧ HasTree (.keyword text) :=
  ⟨⟨.name ⟨text, reference⟩, rfl⟩, ⟨.name ⟨text, reference⟩, rfl⟩⟩

theorem hasTree_keyword {text : String} (word : text ∈ Schema.typeWords) :
    HasTree (.keyword text) := by
  have references : ∀ word ∈ Schema.typeWords, isTypeReference word = true := by decide
  exact (hasTree_name (references text word)).2

/-- What a reference stands for is the name of a type: no literal begins with a capital letter, an
underscore or a dollar sign. -/
theorem isTypeReference_referencedTypeName (reference : String) :
    isTypeReference (referencedTypeName reference) = true := by
  have named : IsTypeName (referencedTypeName reference) := isTypeName_sanitizeTypeName _
  generalize referencedTypeName reference = name at named
  have notTrue : name ≠ "true" := by
    rintro rfl
    exact absurd (named.notLower 't' rfl) (by decide)
  have notFalse : name ≠ "false" := by
    rintro rfl
    exact absurd (named.notLower 'f' rfl) (by decide)
  simp [isTypeReference, named.isIdentifier, notTrue, notFalse]

theorem hasTree_literalType (value : Json) : HasTree (Schema.literalType value) := by
  cases value with
  | null => exact hasTree_keyword (by decide)
  | bool flag =>
      cases flag with
      | true => exact ⟨.flag true, rfl⟩
      | false => exact ⟨.flag false, rfl⟩
  | number n => exact ⟨.number ⟨n.text, Number.isNumeral_text n⟩, rfl⟩
  | string text => exact ⟨.string text, rfl⟩
  | array items => exact hasTree_keyword (by decide)
  | object members => exact hasTree_keyword (by decide)

theorem exprs_append (front behind : List TypeTree) :
    TypeTree.exprs (front ++ behind) = TypeTree.exprs front ++ TypeTree.exprs behind := by
  induction front with
  | nil => rfl
  | cons type rest ih => rw [List.cons_append, TypeTree.exprs, ih, TypeTree.exprs, List.cons_append]

theorem identifiedTypes_append (front behind : List TypeExpr) :
    TypeExpr.identifiedTypes (front ++ behind) =
      TypeExpr.identifiedTypes front ++ TypeExpr.identifiedTypes behind := by
  induction front with
  | nil => rfl
  | cons type rest ih =>
      rw [List.cons_append, TypeExpr.identifiedTypes, ih, TypeExpr.identifiedTypes,
        List.cons_append]

/-- A union takes `null` in as its last part. -/
theorem hasTree_nullable {type : TypeExpr} (given : HasTree type) : HasTree type.nullable := by
  obtain ⟨ofNull, sameNull⟩ : HasTree .null := hasTree_keyword (by decide)
  obtain ⟨tree, same⟩ := given
  cases type with
  | union types =>
      cases tree with
      | union first second rest =>
          refine ⟨.union first second (rest ++ [ofNull]), congrArg TypeExpr.union ?_⟩
          have parts := TypeExpr.union.inj same
          rw [identifiedTypes_append, ← parts, exprs_append, TypeTree.exprs, sameNull]
          rfl
      | _ => cases same
  | _ =>
      refine ⟨.union tree ofNull [], congrArg TypeExpr.union ?_⟩
      rw [same, sameNull]
      rfl

/-- Every form of type has a tree once its parts have one. -/
theorem takenOver_hasTree : Schema.TakenOver HasTree where
  keyword word member := hasTree_keyword member
  literal := hasTree_literalType
  array item given := by
    obtain ⟨tree, same⟩ := given
    exact ⟨.array tree, by rw [TypeTree.expr, same, TypeExpr.identified]⟩
  union types several each := by
    obtain ⟨first, second, rest, same⟩ := exists_two_trees several each
    exact ⟨.union first second rest, congrArg TypeExpr.union same⟩
  intersection types several each := by
    obtain ⟨first, second, rest, same⟩ := exists_two_trees several each
    exact ⟨.intersection first second rest, congrArg TypeExpr.intersection same⟩
  object members each := by
    obtain ⟨trees, same⟩ := exists_memberTrees each
    exact ⟨.object trees, congrArg TypeExpr.object same⟩
  record value given := by
    obtain ⟨tree, same⟩ := given
    exact ⟨.record tree, by rw [TypeTree.expr, same, TypeExpr.identified]⟩
  nullable type given := hasTree_nullable given

/-! ## Blank space around types -/

/-- A text that begins with a character that is not blank. -/
def BeginsSolid (text : String) : Prop :=
  ∃ c rest, text.toList = c :: rest ∧ Text.isBlank c = false

def EndsSolid (text : String) : Prop :=
  ∃ rest c, text.toList = rest ++ [c] ∧ Text.isBlank c = false

/-- A text without blank space at either end. -/
structure IsSolid (text : String) : Prop where
  begins : BeginsSolid text
  ends : EndsSolid text

theorem BeginsSolid.append {text : String} (begins : BeginsSolid text) (behind : String) :
    BeginsSolid (text ++ behind) := by
  obtain ⟨c, rest, same, notBlank⟩ := begins
  refine ⟨c, rest ++ behind.toList, ?_, notBlank⟩
  rw [String.toList_append, same]
  rfl

theorem EndsSolid.append {text : String} (ends : EndsSolid text) (front : String) :
    EndsSolid (front ++ text) := by
  obtain ⟨rest, c, same, notBlank⟩ := ends
  refine ⟨front.toList ++ rest, c, ?_, notBlank⟩
  rw [String.toList_append, same, List.append_assoc]

namespace IsSolid

variable {text : String}

theorem of_all (nonempty : text.toList ≠ [])
    (noBlank : text.toList.all (!Text.isBlank ·) = true) : IsSolid text := by
  have each : ∀ c ∈ text.toList, Text.isBlank c = false := by
    simpa using noBlank
  constructor
  · obtain ⟨c, rest, same⟩ := List.exists_cons_of_ne_nil nonempty
    exact ⟨c, rest, same, each c (by rw [same]; exact List.mem_cons_self)⟩
  · refine ⟨text.toList.dropLast, text.toList.getLast nonempty, ?_, each _ (List.getLast_mem _)⟩
    exact (List.dropLast_append_getLast nonempty).symm

theorem of_isIdentifier (identifier : isIdentifier text.toList = true) : IsSolid text := by
  apply of_all
  · intro empty
    rw [empty] at identifier
    cases identifier
  · rw [List.all_eq_true]
    intro c member
    rw [isBlank_of_isIdentifierPart (parts_of_isIdentifier identifier c member)]
    rfl

theorem of_isNumeral (numeral : isNumeral text.toList = true) : IsSolid text := by
  obtain ⟨⟨c, rest, same, -⟩, parts⟩ := parts_of_isNumeral numeral
  apply of_all
  · rw [same]
    exact List.cons_ne_nil _ _
  · rw [List.all_eq_true]
    intro c member
    have part := parts c member
    simp only [isNumeralPart, Bool.or_eq_true, beq_iff_eq] at part
    rcases part with (((digit | rfl) | rfl) | rfl) | rfl
    · rw [isBlank_of_isIdentifierPart (isIdentifierPart_of_isDigit digit)]
      rfl
    all_goals decide

theorem trim_eq (solid : IsSolid text) : Text.trim text = text := by
  obtain ⟨⟨c, rest, same, notBlank⟩, ⟨init, d, same', notBlank'⟩⟩ := solid
  have front : text.toList.dropWhile Text.isBlank = text.toList := by
    rw [same, List.dropWhile_cons_of_neg (by simp [notBlank])]
  have behind : text.toList.reverse.dropWhile Text.isBlank = text.toList.reverse := by
    rw [same', List.reverse_append, List.reverse_singleton, List.singleton_append,
      List.dropWhile_cons_of_neg (by simp [notBlank'])]
  rw [Text.trim, Text.trimBy, front, behind, List.reverse_reverse, String.ofList_toList]

theorem isEmpty_eq (solid : IsSolid text) : text.isEmpty = false := by
  obtain ⟨c, rest, same, -⟩ := solid.begins
  rw [Bool.eq_false_iff]
  intro empty
  rw [String.isEmpty_iff.mp empty] at same
  cases same

end IsSolid

theorem isSolid_join {separator : String} {texts : List String}
    (each : ∀ text ∈ texts, IsSolid text) (nonempty : texts ≠ []) :
    IsSolid (Text.join separator texts) := by
  induction texts with
  | nil => exact absurd rfl nonempty
  | cons first others ih =>
      obtain ⟨ofFirst, each⟩ := List.forall_mem_cons.mp each
      cases others with
      | nil => exact ofFirst
      | cons second rest =>
          have behind := ih each (List.cons_ne_nil _ _)
          exact ⟨(ofFirst.begins.append separator).append _, behind.ends.append _⟩

/-- Parentheses are not blank, so the text between them does not matter. -/
theorem isSolid_parenthesized (text : String) : IsSolid (TypeExpr.parenthesized text) := by
  have opening : IsSolid "(" := .of_all (by decide) (by decide)
  have closing : IsSolid ")" := .of_all (by decide) (by decide)
  exact ⟨(opening.begins.append text).append ")", closing.ends.append ("(" ++ text)⟩

theorem isSolid_factor {type : TypeExpr} (given : IsSolid type.text) :
    IsSolid (if type.isUnion then TypeExpr.parenthesized type.text else type.text) := by
  split
  · exact isSolid_parenthesized type.text
  · exact given

theorem isSolid_quote (value : String) : IsSolid (quote value) := by
  have mark : IsSolid "'" := .of_all (by decide) (by decide)
  exact ⟨(mark.begins.append _).append "'", mark.ends.append ("'" ++ escapeString value)⟩

namespace TypeTree

mutual

/-- No type is written with blank space around it. -/
theorem isSolid_text : ∀ tree : TypeTree, IsSolid tree.expr.text
  | .name word => .of_isIdentifier word.isIdentifier
  | .number numeral => .of_isNumeral numeral.isNumeral
  | .flag true => .of_isIdentifier (by decide)
  | .flag false => .of_isIdentifier (by decide)
  | .string value => isSolid_quote value
  | .array item => by
      have brackets : IsSolid "[]" := .of_all (by decide) (by decide)
      have front : IsSolid (if item.expr.isCompound then TypeExpr.parenthesized item.expr.text
          else item.expr.text) := by
        split
        · exact isSolid_parenthesized item.expr.text
        · exact isSolid_text item
      exact ⟨front.begins.append "[]", brackets.ends.append _⟩
  | .union first second rest =>
      isSolid_join (List.forall_mem_cons.mpr ⟨isSolid_text first,
        List.forall_mem_cons.mpr ⟨isSolid_text second, isSolid_texts rest⟩⟩)
        (List.cons_ne_nil _ _)
  | .intersection first second rest =>
      isSolid_join (List.forall_mem_cons.mpr ⟨isSolid_factor (isSolid_text first),
        List.forall_mem_cons.mpr ⟨isSolid_factor (isSolid_text second), isSolid_factorTexts rest⟩⟩)
        (List.cons_ne_nil _ _)
  | .object [] => by
      have braces : IsSolid "\x7b\x7d" := .of_all (by decide) (by decide)
      exact braces
  | .object (member :: rest) => by
      have opening : BeginsSolid "\x7b " := ⟨'\x7b', [' '], by decide, by decide⟩
      have closing : EndsSolid " \x7d" := ⟨[' '], '\x7d', by decide, by decide⟩
      exact ⟨(opening.append _).append _, closing.append _⟩
  | .record value => by
      have opening : BeginsSolid "Record<string, " :=
        ⟨'R', "ecord<string, ".toList, by decide, by decide⟩
      have closing : EndsSolid ">" := ⟨[], '>', by decide, by decide⟩
      exact ⟨(opening.append _).append _, closing.append _⟩

theorem isSolid_texts : ∀ trees : List TypeTree,
    ∀ text ∈ TypeExpr.texts (exprs trees), IsSolid text
  | [] => List.forall_mem_nil _
  | tree :: rest => List.forall_mem_cons.mpr ⟨isSolid_text tree, isSolid_texts rest⟩

theorem isSolid_factorTexts : ∀ trees : List TypeTree,
    ∀ text ∈ TypeExpr.factorTexts (exprs trees), IsSolid text
  | [] => List.forall_mem_nil _
  | tree :: rest =>
      List.forall_mem_cons.mpr ⟨isSolid_factor (isSolid_text tree), isSolid_factorTexts rest⟩

end

end TypeTree

theorem Primitive.text_of_ofText? {text : String} {primitive : Primitive}
    (found : Primitive.ofText? text = some primitive) : primitive.text = text := by
  have same := List.find?_some found
  exact beq_iff_eq.mp same

/-- The annotation made of a solid text is printed as that text. -/
theorem TypeSpec.print_ofText {text : String} (solid : IsSolid text) :
    (TypeSpec.ofText (some text)).print = text := by
  rw [TypeSpec.ofText, Option.map_some, solid.trim_eq]
  dsimp only
  rw [if_neg (Bool.eq_false_iff.mp solid.isEmpty_eq)]
  cases found : Primitive.ofText? text with
  | none => rfl
  | some primitive => exact Primitive.text_of_ofText? found

end ClientGen.TypeScript

namespace ClientGen.Schema

open TypeScript

theorem hasTree_typeOf (schema : Schema) : HasTree schema.typeOf :=
  takenOver_hasTree.typeOf schema fun _ _ reference _ =>
    (hasTree_name (isTypeReference_referencedTypeName reference)).1

/-- One tree has the type of a schema as its expression, up to references in place of keywords:
its literals and keys are the values and names that the type writes. The text of the type is read
back as this tree, with unions inside unions and intersections inside intersections merged, and an
annotation made of the text is printed as the same text. -/
theorem parse_text_typeOf (schema : Schema) :
    ∃ tree : TypeTree,
      (∀ other : TypeTree, other.expr = schema.typeOf.identified ↔ other = tree) ∧
      TypeTree.parse schema.typeOf.text = some tree.flat ∧
      (TypeSpec.ofText (some schema.typeOf.text)).print = schema.typeOf.text := by
  obtain ⟨tree, same⟩ := hasTree_typeOf schema
  have text : tree.expr.text = schema.typeOf.text := by
    rw [same, TypeExpr.text_identified]
  refine ⟨tree, ?_, ?_, ?_⟩
  · intro other
    constructor
    · exact fun otherSame => TypeTree.eq_of_expr_eq (otherSame.trans same.symm)
    · rintro rfl
      exact same
  · rw [← text]
    exact tree.parse_text
  · rw [← text]
    exact TypeSpec.print_ofText tree.isSolid_text

end ClientGen.Schema
