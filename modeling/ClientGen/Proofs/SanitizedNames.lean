import ClientGen.Proofs.Identifier
import ClientGen.TypeScript.Module

/-!
# Names of generated code

Functions, parameters and types are called by names that are made from any text. Whatever the text
is, the name is an identifier of ASCII characters and not reserved, and a text that is such a name
already stays as it is. A type name begins with no lower-case letter, so it is never the name of a
type that the language has itself.
-/

namespace ClientGen.TypeScript

/-! ## Identifiers by their characters -/

def IsLowerCase (c : Char) : Prop := 'a' ≤ c ∧ c ≤ 'z'

def IsLetter (c : Char) : Prop := 'A' ≤ c ∧ c ≤ 'Z' ∨ IsLowerCase c

def IsDigit (c : Char) : Prop := '0' ≤ c ∧ c ≤ '9'

/-- An identifier of ASCII characters: letters, digits, underscores and dollar signs, and no digit
in front. -/
structure IsAsciiIdentifier (name : String) : Prop where
  nonempty : name ≠ ""
  characters : ∀ c ∈ name.toList, IsLetter c ∨ IsDigit c ∨ c = '_' ∨ c = '$'
  beginning : ∀ c ∈ name.toList.head?, ¬ IsDigit c

theorem isLower_iff {c : Char} : c.isLower = true ↔ IsLowerCase c := by
  change (decide ('a'.val ≤ c.val) && decide (c.val ≤ 'z'.val)) = true ↔ _
  rw [Bool.and_eq_true, decide_eq_true_eq, decide_eq_true_eq]
  rfl

theorem isDigit_iff {c : Char} : c.isDigit = true ↔ IsDigit c := by
  change (decide ('0'.val ≤ c.val) && decide (c.val ≤ '9'.val)) = true ↔ _
  rw [Bool.and_eq_true, decide_eq_true_eq, decide_eq_true_eq]
  rfl

theorem isIdentifierPart_iff {c : Char} :
    isIdentifierPart c = true ↔ IsLetter c ∨ IsDigit c ∨ c = '_' ∨ c = '$' := by
  have upper : c.isUpper = true ↔ 'A' ≤ c ∧ c ≤ 'Z' := decide_eq_true_iff
  have alphanum : c.isAlphanum = (c.isUpper || c.isLower || c.isDigit) := rfl
  simp only [isIdentifierPart, alphanum, Bool.or_eq_true, beq_iff_eq, upper, isLower_iff,
    isDigit_iff, IsLetter, or_assoc]

theorem isIdentifier_iff (name : String) :
    isIdentifier name.toList = true ↔ IsAsciiIdentifier name := by
  constructor
  · intro identifier
    refine ⟨?_, fun c member => ?_, fun c first digit => ?_⟩
    · rintro rfl
      cases identifier
    · exact isIdentifierPart_iff.mp (parts_of_isIdentifier identifier c member)
    · have noDigit := startsWithDigit_of_isIdentifier identifier
      obtain ⟨rest, same⟩ := List.head?_eq_some_iff.mp first
      rw [same, startsWithDigit, isDigit_iff.mpr digit] at noDigit
      cases noDigit
  · rintro ⟨nonempty, characters, beginning⟩
    apply isIdentifier_of_parts fun c member => isIdentifierPart_iff.mpr (characters c member)
    · exact mt String.toList_eq_nil_iff.mp nonempty
    · cases same : name.toList with
      | nil => rfl
      | cons first rest =>
          rw [same] at beginning
          exact Bool.eq_false_iff.mpr (mt isDigit_iff.mp (beginning first rfl))

/-! ## Makers of names -/

/-- Whatever text it is given, a maker of names answers a name of its kind. The names of this kind,
and no other texts, stay as they are. -/
structure Makes (make : String → String) (kind : String → Prop) : Prop where
  answers : ∀ text, kind (make text)
  keeps : ∀ text, make text = text ↔ kind text

theorem Makes.settled {make : String → String} {kind : String → Prop} (makes : Makes make kind)
    (text : String) : make (make text) = make text :=
  (makes.keeps _).mpr (makes.answers text)

/-- A function or a parameter may have this name. -/
def IsFreeName (name : String) : Prop :=
  IsAsciiIdentifier name ∧ name ∉ reservedWords

/-- A type may have this name. -/
def IsFreeTypeName (name : String) : Prop :=
  IsFreeName name ∧ ∀ first ∈ name.toList.head?, ¬ IsLowerCase first

theorem isReserved_eq_false_iff (name : String) : isReserved name = false ↔ name ∉ reservedWords := by
  rw [isReserved, Bool.eq_false_iff, ne_eq, List.contains_iff_mem]

theorem isFreeName_sanitizeIdentifier (text : String) : IsFreeName (sanitizeIdentifier text) :=
  ⟨(isIdentifier_iff _).mp (isIdentifier_sanitizeIdentifier text),
    (isReserved_eq_false_iff _).mp (isReserved_sanitizeIdentifier text)⟩

theorem makes_sanitizeIdentifier : Makes sanitizeIdentifier IsFreeName where
  answers := isFreeName_sanitizeIdentifier
  keeps text := by
    constructor
    · intro same
      rw [← same]
      exact isFreeName_sanitizeIdentifier text
    · rintro ⟨identifier, free⟩
      exact sanitizeIdentifier_eq_self ((isIdentifier_iff text).mpr identifier)
        ((isReserved_eq_false_iff text).mpr free)

/-! ## Type names -/

/-- The words that begin with a lower-case letter are no type names. -/
theorem IsTypeName.ne {name word : String} (typeName : IsTypeName name)
    (lower : word.toList.head?.any Char.isLower = true) : name ≠ word := by
  rintro rfl
  obtain ⟨first, given, isLower⟩ := (Option.any_eq_true _ _).mp lower
  rw [typeName.notLower first given] at isLower
  cases isLower

theorem IsTypeName.notMem {name : String} (typeName : IsTypeName name) {words : List String}
    (lower : ∀ word ∈ words, word.toList.head?.any Char.isLower = true) : name ∉ words :=
  fun member => typeName.ne (lower name member) rfl

/-- A type name is not one of the words of the language: these are in lower case. -/
theorem IsTypeName.notMem_reservedWords {name : String} (typeName : IsTypeName name) :
    name ∉ reservedWords :=
  typeName.notMem (by decide)

theorem isFreeTypeName_iff (name : String) : IsFreeTypeName name ↔ IsTypeName name := by
  constructor
  · rintro ⟨⟨identifier, -⟩, notLower⟩
    refine ⟨(isIdentifier_iff name).mpr identifier, fun first given => ?_⟩
    exact Bool.eq_false_iff.mpr (mt isLower_iff.mp (notLower first given))
  · intro typeName
    refine ⟨⟨(isIdentifier_iff name).mp typeName.isIdentifier, typeName.notMem_reservedWords⟩, ?_⟩
    intro first given lower
    rw [← isLower_iff, typeName.notLower first given] at lower
    cases lower

theorem toUpper_eq_self {c : Char} (part : isIdentifierPart c = true) (notLower : c.isLower = false) :
    c.toUpper = c := by
  have ascii : ∀ n < 128, (Char.ofNat n).isLower = false →
      (Char.ofNat n).toUpper = Char.ofNat n := by decide
  exact of_isIdentifierPart (P := fun c => c.isLower = false → c.toUpper = c) ascii part notLower

theorem capitalizeFirst_eq_self {name : String} (typeName : IsTypeName name) :
    Text.capitalizeFirst name = name := by
  apply String.toList_inj.mp
  cases same : name.toList with
  | nil =>
      have identifier := typeName.isIdentifier
      rw [same] at identifier
      cases identifier
  | cons first rest =>
      have part : isIdentifierPart first = true :=
        parts_of_isIdentifier typeName.isIdentifier first (by simp [same])
      have notLower := typeName.notLower first (by simp [same])
      rw [toList_capitalizeFirst same part, toUpper_eq_self part notLower]

/-- Nothing is taken off a type name: an underscore in front of it was there from the start. -/
theorem sanitizeTypeName_eq_self {name : String} (typeName : IsTypeName name) :
    sanitizeTypeName name = name := by
  have kept : sanitizeIdentifier name = name :=
    sanitizeIdentifier_eq_self typeName.isIdentifier
      ((isReserved_eq_false_iff name).mpr typeName.notMem_reservedWords)
  unfold sanitizeTypeName
  rw [kept]
  dsimp only
  rw [Bool.not_or_self, if_pos rfl]
  exact capitalizeFirst_eq_self typeName

theorem makes_sanitizeTypeName : Makes sanitizeTypeName IsFreeTypeName where
  answers text := (isFreeTypeName_iff _).mpr (isTypeName_sanitizeTypeName text)
  keeps text := by
    rw [isFreeTypeName_iff]
    constructor
    · intro same
      rw [← same]
      exact isTypeName_sanitizeTypeName text
    · exact sanitizeTypeName_eq_self

/-- No type name is read as a type that the language has itself. -/
theorem ofText?_sanitizeTypeName (text : String) :
    Primitive.ofText? (sanitizeTypeName text) = none := by
  rw [Primitive.ofText?, List.find?_eq_none]
  intro primitive listed same
  have lower : ∀ primitive ∈ Primitive.all, primitive.text.toList.head?.any Char.isLower = true := by
    decide
  exact (isTypeName_sanitizeTypeName text).ne (lower primitive listed) (beq_iff_eq.mp same).symm

/-- The names of functions, parameters and types are identifiers that are not reserved. Exactly such
names stay as they are, so a name that was made is made from itself; and no type is called like one
of the language. -/
theorem makes_sanitized :
    Makes sanitizeIdentifier IsFreeName ∧ Makes sanitizeTypeName IsFreeTypeName ∧
      ∀ text, sanitizeIdentifier (sanitizeIdentifier text) = sanitizeIdentifier text ∧
        sanitizeTypeName (sanitizeTypeName text) = sanitizeTypeName text ∧
        Primitive.ofText? (sanitizeTypeName text) = none :=
  ⟨makes_sanitizeIdentifier, makes_sanitizeTypeName, fun text =>
    ⟨makes_sanitizeIdentifier.settled text, makes_sanitizeTypeName.settled text,
      ofText?_sanitizeTypeName text⟩⟩

end ClientGen.TypeScript
