import ClientGen.Proofs.ParameterMerging
import ClientGen.Proofs.Parsing
import ClientGen.Proofs.PathSteps

/-!
# JSON pointers to entries

A JSON pointer cannot hold every key as it is: `~` is written `~0` and `/` is written `~1`. The
references of a document are taken as they stand and nothing in them is read back, so that a pointer
leads to the entry of its key exactly when there was nothing to write differently. For references to
schemas this shows in the digits: a type name has as many as the name it is made from.
-/

namespace ClientGen

namespace TypeScript

/-! ## Digits of names -/

def digits (cs : List Char) : Nat :=
  cs.countP Char.isDigit

theorem digits_cons (c : Char) (cs : List Char) :
    digits (c :: cs) = digits cs + if c.isDigit then 1 else 0 :=
  List.countP_cons

theorem digits_cons_of_not_isDigit {c : Char} (noDigit : c.isDigit = false) (cs : List Char) :
    digits (c :: cs) = digits cs :=
  List.countP_cons_of_neg (Bool.eq_false_iff.mp noDigit)

/-- Dropped characters are no digits, and a digit has no capital. -/
theorem digits_camelCase (begun capital : Bool) (cs : List Char) :
    digits (camelCase begun capital cs) = digits cs := by
  induction cs generalizing begun capital with
  | nil => rfl
  | cons first rest ih =>
      rw [camelCase]
      split
      case isTrue part =>
        have same : (if (capital && begun) = true then first.toUpper else first).isDigit =
            first.isDigit := by
          split
          · exact (capital_of_isIdentifierPart part).2.2
          · rfl
        rw [digits_cons, digits_cons, same, ih]
      case isFalse dropped =>
        have noDigit : first.isDigit = false :=
          Bool.eq_false_iff.mpr fun digit => dropped (isIdentifierPart_of_isDigit digit)
        rw [digits_cons_of_not_isDigit noDigit, ih]

theorem digits_sanitizeIdentifier (name : String) :
    digits (sanitizeIdentifier name).toList = digits name.toList := by
  have kept := digits_camelCase false false name.toList
  unfold sanitizeIdentifier
  split
  · rename_i nothing
    rw [← kept, nothing]
    rfl
  · have bare : digits (if startsWithDigit (camelCase false false name.toList) then
        '_' :: camelCase false false name.toList else camelCase false false name.toList) =
          digits name.toList := by
      split
      · exact (digits_cons_of_not_isDigit rfl _).trans kept
      · exact kept
    dsimp only
    generalize (if startsWithDigit (camelCase false false name.toList) then
      '_' :: camelCase false false name.toList else camelCase false false name.toList) = chosen
      at bare ⊢
    split
    · rw [String.toList_append, @String.toList_ofList chosen]
      exact (digits_cons_of_not_isDigit rfl _).trans bare
    · rw [String.toList_ofList]
      exact bare

theorem digits_capitalizeFirst {s : String} (parts : ∀ c ∈ s.toList, isIdentifierPart c = true) :
    digits (Text.capitalizeFirst s).toList = digits s.toList := by
  cases same : s.toList with
  | nil =>
      unfold Text.capitalizeFirst
      rw [same]
      rfl
  | cons first rest =>
      rw [same] at parts
      have part := parts first List.mem_cons_self
      rw [toList_capitalizeFirst same part, digits_cons, digits_cons,
        (capital_of_isIdentifierPart part).2.2]

theorem digits_dropWhile_underscore (cs : List Char) :
    digits (cs.dropWhile (· == '_')) = digits cs := by
  induction cs with
  | nil => rfl
  | cons first rest ih =>
      rw [List.dropWhile_cons]
      split
      case isTrue underscore =>
        obtain rfl := eq_of_beq underscore
        rw [ih, digits_cons_of_not_isDigit rfl]
      case isFalse => rfl

/-- A type name has as many digits as the name it is made from. -/
theorem digits_sanitizeTypeName (name : String) :
    digits (sanitizeTypeName name).toList = digits name.toList := by
  have parts := parts_of_isIdentifier (isIdentifier_sanitizeIdentifier name)
  rw [← digits_sanitizeIdentifier name]
  generalize ident_eq : sanitizeIdentifier name = ident at parts ⊢
  unfold sanitizeTypeName
  rw [ident_eq]
  dsimp only
  split
  · exact digits_capitalizeFirst parts
  · have rest : digits (Text.capitalizeFirst
        (String.ofList (ident.toList.dropWhile (· == '_')))).toList = digits ident.toList := by
      rw [digits_capitalizeFirst, String.toList_ofList, digits_dropWhile_underscore]
      rw [String.toList_ofList]
      exact fun c member => parts c ((List.dropWhile_sublist _).subset member)
    split
    · rw [String.toList_append]
      exact (digits_cons_of_not_isDigit rfl _).trans rest
    · exact rest

end TypeScript

namespace Document

open TypeScript (digits referencedTypeName sanitizeTypeName)

/-! ## Keys in pointers -/

/-- How a character of a key is written in a pointer. -/
def pointerChar (c : Char) : List Char :=
  if c = '~' then ['~', '0'] else if c = '/' then ['~', '1'] else [c]

def pointerToken (key : String) : String :=
  String.ofList (key.toList.flatMap pointerChar)

/-- A key that is written in a pointer as it is. -/
def IsPlainKey (key : String) : Prop :=
  '~' ∉ key.toList ∧ '/' ∉ key.toList

/-- How many characters of a text are written differently in a pointer. -/
def specials (cs : List Char) : Nat :=
  cs.countP fun c => c == '~' || c == '/'

theorem specials_eq_zero_iff (key : String) : specials key.toList = 0 ↔ IsPlainKey key := by
  rw [specials, List.countP_eq_zero, IsPlainKey]
  constructor
  · intro ordinary
    exact ⟨fun member => ordinary _ member rfl, fun member => ordinary _ member rfl⟩
  · rintro ⟨noTilde, noSlash⟩ c member special
    rcases (Bool.or_eq_true _ _).mp special with same | same
    · exact noTilde (eq_of_beq same ▸ member)
    · exact noSlash (eq_of_beq same ▸ member)

/-- Each character that is written differently brings one digit. -/
theorem digits_pointerToken (key : String) :
    digits (pointerToken key).toList = digits key.toList + specials key.toList := by
  rw [pointerToken, String.toList_ofList]
  induction key.toList with
  | nil => rfl
  | cons c rest ih =>
      have one : digits (pointerChar c) =
          (if c.isDigit then 1 else 0) + if (c == '~' || c == '/') then 1 else 0 := by
        unfold pointerChar
        split
        case isTrue tilde => rw [tilde]; rfl
        case isFalse noTilde =>
          split
          case isTrue slash => rw [slash]; rfl
          case isFalse noSlash =>
            rw [beq_false_of_ne noTilde, beq_false_of_ne noSlash, TypeScript.digits_cons]
            exact Nat.add_comm _ _
      rw [List.flatMap_cons, digits, List.countP_append, ← digits, ← digits, one, ih,
        TypeScript.digits_cons, specials, specials, List.countP_cons]
      omega

theorem slash_notMem_pointerToken (key : String) : '/' ∉ (pointerToken key).toList := by
  rw [pointerToken, String.toList_ofList, List.mem_flatMap]
  rintro ⟨c, -, member⟩
  unfold pointerChar at member
  split at member
  · exact absurd member (by decide)
  · split at member
    case isTrue => exact absurd member (by decide)
    case isFalse noSlash => exact noSlash (List.mem_singleton.mp member).symm

theorem pointerToken_of_isPlainKey {key : String} (plain : IsPlainKey key) :
    pointerToken key = key := by
  have each : ∀ c ∈ key.toList, pointerChar c = [c] := by
    intro c member
    have noTilde : c ≠ '~' := fun same => plain.1 (same ▸ member)
    have noSlash : c ≠ '/' := fun same => plain.2 (same ▸ member)
    rw [pointerChar, if_neg noTilde, if_neg noSlash]
  rw [pointerToken, List.flatMap_congr each, List.flatMap_singleton', String.ofList_toList]

/-- A text that has the digits of a key has those of the written key only if the key is written as
it is. -/
theorem isPlainKey_of_digits_eq {key : String}
    (same : digits (pointerToken key).toList = digits key.toList) : IsPlainKey key := by
  rw [digits_pointerToken] at same
  exact (specials_eq_zero_iff key).mp (by omega)

theorem pointerToken_eq_self_iff (key : String) : pointerToken key = key ↔ IsPlainKey key :=
  ⟨fun same => isPlainKey_of_digits_eq (by rw [same]), pointerToken_of_isPlainKey⟩

/-! ## References to parameters and request bodies -/

def sharedBodies (document : Document) : List (String × RequestBody) :=
  (document.components.map (·.requestBodies)).getD []

theorem requestBody?_component (document : Document) (token : String) :
    document.requestBody? ("#/components/requestBodies/" ++ token) =
      entry token document.sharedBodies := by
  rw [requestBody?, (Text.stripStart?_eq_some_iff _ _ _).mpr rfl, sharedBodies]
  cases document.components <;> rfl

/-- In every document, the pointer of a key leads to what is kept under the key. -/
def PointerLeads {α : Type} (lookup : Document → String → Option α)
    (kept : Document → List (String × α)) (start key : String) : Prop :=
  ∀ document value, entry key (kept document) = some value →
    lookup document (start ++ pointerToken key) = some value

theorem entry_singleton_eq_some_iff {α : Type} (name key : String) (held value : α) :
    entry name [(key, held)] = some value ↔ key = name ∧ held = value := by
  simp only [entry, List.find?_singleton, beq_iff_eq]
  split <;> simp [*]

/-- Where tokens are looked up as they stand, pointers are followed for the keys that are written as
they are: of another key, the entry is missed where it is the only one. -/
theorem pointerLeads_iff {α : Type} {lookup : Document → String → Option α}
    {kept : Document → List (String × α)} {start key : String}
    (asItStands : ∀ document token, lookup document (start ++ token) = entry token (kept document))
    (alone : ∃ document value, kept document = [(key, value)]) :
    PointerLeads lookup kept start key ↔ IsPlainKey key := by
  rw [← pointerToken_eq_self_iff]
  constructor
  · intro follows
    obtain ⟨document, value, only⟩ := alone
    have held : entry key (kept document) = some value := by
      rw [only, entry_singleton_eq_some_iff]
      exact ⟨rfl, rfl⟩
    have found := follows document value held
    rw [asItStands, only, entry_singleton_eq_some_iff] at found
    exact found.1.symm
  · intro same document value held
    rw [same, asItStands]
    exact held

/-- A document that keeps nothing but parameters and components. -/
def keeping (parameters : List (String × Parameter)) (components : Components) : Document where
  swagger := none
  openapi := some "3.0.0"
  info := ⟨none, none, none⟩
  host := none
  basePath := none
  schemes := []
  servers := []
  paths := []
  definitions := []
  parameters := parameters
  components := some components

def pageParameter : Parameter :=
  ⟨"page", "query", false, none, none, some (.one "integer"), none, none, none⟩

/-! ## References to schemas -/

theorem referencedTypeName_segment (before : String) {token : String}
    (segment : '/' ∉ token.toList) :
    referencedTypeName (before ++ "/" ++ token) = sanitizeTypeName token := by
  have last : Text.split '/' (before ++ "/" ++ token).toList =
      Text.split '/' before.toList ++ [token.toList] := by
    rw [String.toList_append, String.toList_append, List.append_assoc,
      show "/".toList = ['/'] from rfl, List.singleton_append, Text.split_append_separator,
      Text.split_of_notMem segment]
  rw [referencedTypeName, last, List.getLastD_concat, String.ofList_toList]

/-- The pointer of a key names the declaration of the key exactly if the key is written as it is. -/
theorem referencedTypeName_pointerToken_iff (before key : String) (schema : Schema) :
    referencedTypeName (before ++ "/" ++ pointerToken key) = (schema.declare key).name ↔
      IsPlainKey key := by
  rw [referencedTypeName_segment before (slash_notMem_pointerToken key), Schema.name_declare]
  constructor
  · intro same
    -- Different names may well become one type name, but not if one has more digits.
    have sameDigits := congrArg (fun name => digits name.toList) same
    simp only [TypeScript.digits_sanitizeTypeName] at sameDigits
    exact isPlainKey_of_digits_eq sameDigits
  · intro plain
    rw [pointerToken_of_isPlainKey plain]

/-- A reference stands for the entry under what follows its beginning, taken as it stands, and for
the declaration of its last segment. Hence the pointer of a key leads to the entry of the key in
every document, and names its declaration, exactly if the key has neither `~` nor `/`. -/
theorem pointerLeads_iff_isPlainKey (document : Document) (token key : String) (schema : Schema) :
    (document.parameter? ("#/parameters/" ++ token) = entry token document.parameters ∧
      document.parameter? ("#/components/parameters/" ++ token) =
        entry token document.sharedParameters ∧
      document.requestBody? ("#/components/requestBodies/" ++ token) =
        entry token document.sharedBodies) ∧
    ('/' ∉ token.toList →
      referencedTypeName ("#/definitions/" ++ token) = (schema.declare token).name ∧
      referencedTypeName ("#/components/schemas/" ++ token) = (schema.declare token).name) ∧
    (PointerLeads parameter? Document.parameters "#/parameters/" key ↔ IsPlainKey key) ∧
    (PointerLeads parameter? sharedParameters "#/components/parameters/" key ↔ IsPlainKey key) ∧
    (PointerLeads requestBody? sharedBodies "#/components/requestBodies/" key ↔ IsPlainKey key) ∧
    (referencedTypeName ("#/definitions/" ++ pointerToken key) = (schema.declare key).name ↔
      IsPlainKey key) ∧
    (referencedTypeName ("#/components/schemas/" ++ pointerToken key) =
      (schema.declare key).name ↔ IsPlainKey key) := by
  refine ⟨⟨parameter?_shared document token, parameter?_component document token,
    requestBody?_component document token⟩, fun segment => ?_,
    pointerLeads_iff parameter?_shared ?_, pointerLeads_iff parameter?_component ?_,
    pointerLeads_iff requestBody?_component ?_,
    referencedTypeName_pointerToken_iff "#/definitions" key schema,
    referencedTypeName_pointerToken_iff "#/components/schemas" key schema⟩
  · rw [Schema.name_declare]
    exact ⟨referencedTypeName_segment "#/definitions" segment,
      referencedTypeName_segment "#/components/schemas" segment⟩
  · exact ⟨keeping [(key, pageParameter)] ⟨[], [], []⟩, pageParameter, rfl⟩
  · exact ⟨keeping [] ⟨[], [(key, pageParameter)], []⟩, pageParameter, rfl⟩
  · exact ⟨keeping [] ⟨[], [], [(key, ⟨true, none, []⟩)]⟩, ⟨true, none, []⟩, rfl⟩

/-- The pointer of `pet-store.Order` names its declaration, and leads to the parameter under it. -/
theorem pointerLeads_petStore :
    '/' ∉ "pet-store.Order".toList ∧
      referencedTypeName "#/definitions/pet-store.Order" =
        (Schema.empty.declare "pet-store.Order").name ∧
      PointerLeads parameter? Document.parameters "#/parameters/" "pet-store.Order" := by
  obtain ⟨-, names, leads, -⟩ := pointerLeads_iff_isPlainKey (keeping [] ⟨[], [], []⟩)
    "pet-store.Order" "pet-store.Order" .empty
  exact ⟨by decide, (names (by decide)).1, leads.mpr ⟨by decide, by decide⟩⟩

/-- The pointer of `a/b` misses the parameter that is kept under `a/b`, and names the type `A1b`,
where the schema under `a/b` is declared as `AB`. -/
theorem not_pointerLeads_slash :
    pointerToken "a/b" = "a~1b" ∧
      entry "a/b" (keeping [("a/b", pageParameter)] ⟨[], [], []⟩).parameters =
        some pageParameter ∧
      (keeping [("a/b", pageParameter)] ⟨[], [], []⟩).parameter? "#/parameters/a~1b" = none ∧
      referencedTypeName "#/definitions/a~1b" = "A1b" ∧
      (Schema.empty.declare "a/b").name = "AB" :=
  ⟨by decide, rfl, rfl, by decide, by decide⟩

end Document

end ClientGen
