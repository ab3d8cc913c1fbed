import ClientGen.TypeScript.Identifier

/-!
# Sanitized names

A name of any kind becomes an identifier of ASCII characters. As a type name the identifier does
not begin with a lower-case letter, so it is never mistaken for a keyword of the language.
-/

namespace ClientGen.TypeScript

/-! ## Characters -/

theorem isAlphanum_iff {c : Char} :
    c.isAlphanum = true ↔ ((65 ≤ c.toNat ∧ c.toNat ≤ 90) ∨ (97 ≤ c.toNat ∧ c.toNat ≤ 122)) ∨
      (48 ≤ c.toNat ∧ c.toNat ≤ 57) := by
  change ((decide (65 ≤ c.val ∧ c.val ≤ 90) ||
    decide (97 ≤ c.val) && decide (c.val ≤ 122)) ||
      decide (48 ≤ c.val) && decide (c.val ≤ 57)) = true ↔ _
  simp only [Bool.or_eq_true, Bool.and_eq_true, decide_eq_true_eq, UInt32.le_iff_toNat_le]
  rfl

theorem toNat_lt_of_isIdentifierPart {c : Char} (part : isIdentifierPart c = true) :
    c.toNat < 128 := by
  simp only [isIdentifierPart, Bool.or_eq_true, beq_iff_eq, isAlphanum_iff] at part
  rcases part with ((letter | digit) | rfl) | rfl
  · omega
  · omega
  · decide
  · decide

theorem of_isIdentifierPart {P : Char → Prop} (ascii : ∀ n < 128, P (Char.ofNat n)) {c : Char}
    (part : isIdentifierPart c = true) : P c := by
  have held := ascii c.toNat (toNat_lt_of_isIdentifierPart part)
  rwa [Char.ofNat_toNat] at held

theorem isIdentifierPart_of_start {c : Char} (start : isIdentifierStart c = true) :
    isIdentifierPart c = true := by
  simp only [isIdentifierStart, isIdentifierPart, Char.isAlphanum, Bool.or_eq_true] at start ⊢
  rcases start with (letter | underscore) | dollar
  · exact Or.inl (Or.inl (Or.inl letter))
  · exact Or.inl (Or.inr underscore)
  · exact Or.inr dollar

theorem isIdentifierPart_of_isDigit {c : Char} (digit : c.isDigit = true) :
    isIdentifierPart c = true := by
  simp only [isIdentifierPart, Char.isAlphanum, digit, Bool.or_true, Bool.true_or]

theorem isIdentifierStart_of_part {c : Char} (part : isIdentifierPart c = true)
    (noDigit : c.isDigit = false) : isIdentifierStart c = true := by
  simp only [isIdentifierStart, isIdentifierPart, Char.isAlphanum, Bool.or_eq_true] at part ⊢
  rcases part with ((letter | digit) | underscore) | dollar
  · exact Or.inl (Or.inl letter)
  · rw [noDigit] at digit
    cases digit
  · exact Or.inl (Or.inr underscore)
  · exact Or.inr dollar

theorem isDigit_of_start {c : Char} (start : isIdentifierStart c = true) :
    c.isDigit = false := by
  have ascii : ∀ n < 128, isIdentifierStart (Char.ofNat n) = true →
      (Char.ofNat n).isDigit = false := by decide
  exact of_isIdentifierPart (P := fun c => isIdentifierStart c = true → c.isDigit = false) ascii
    (isIdentifierPart_of_start start) start

/-- Capitals are characters of identifiers as well, and they are not lower case. -/
theorem capital_of_isIdentifierPart {c : Char} (part : isIdentifierPart c = true) :
    isIdentifierPart c.toUpper = true ∧ c.toUpper.isLower = false ∧
      c.toUpper.isDigit = c.isDigit := by
  have ascii : ∀ n < 128, isIdentifierPart (Char.ofNat n) = true →
      isIdentifierPart (Char.ofNat n).toUpper = true ∧ (Char.ofNat n).toUpper.isLower = false ∧
        (Char.ofNat n).toUpper.isDigit = (Char.ofNat n).isDigit := by decide
  exact of_isIdentifierPart
    (P := fun c => isIdentifierPart c = true → isIdentifierPart c.toUpper = true ∧
      c.toUpper.isLower = false ∧ c.toUpper.isDigit = c.isDigit) ascii part part

/-! ## Identifiers -/

theorem isIdentifier_cons_iff {c : Char} {rest : List Char} :
    isIdentifier (c :: rest) = true ↔
      isIdentifierStart c = true ∧ ∀ d ∈ rest, isIdentifierPart d = true := by
  simp only [isIdentifier, Bool.and_eq_true, List.all_eq_true]

theorem parts_of_isIdentifier {cs : List Char} (identifier : isIdentifier cs = true) :
    ∀ c ∈ cs, isIdentifierPart c = true := by
  cases cs with
  | nil => cases identifier
  | cons first rest =>
      obtain ⟨start, parts⟩ := isIdentifier_cons_iff.mp identifier
      intro c member
      rcases List.mem_cons.mp member with rfl | member
      · exact isIdentifierPart_of_start start
      · exact parts c member

theorem isIdentifier_of_parts {cs : List Char} (parts : ∀ c ∈ cs, isIdentifierPart c = true)
    (nonempty : cs ≠ []) (noDigit : startsWithDigit cs = false) : isIdentifier cs = true := by
  cases cs with
  | nil => exact absurd rfl nonempty
  | cons first rest =>
      have start := isIdentifierStart_of_part (parts first List.mem_cons_self) noDigit
      exact isIdentifier_cons_iff.mpr ⟨start, fun c member => parts c (List.mem_cons_of_mem _ member)⟩

/-- An underscore in front makes an identifier of any characters that an identifier may hold. -/
theorem isIdentifier_underscore {cs : List Char} (parts : ∀ c ∈ cs, isIdentifierPart c = true) :
    isIdentifier ('_' :: cs) = true :=
  isIdentifier_cons_iff.mpr ⟨by decide, parts⟩

theorem part_of_mem_camelCase {begun capital : Bool} {cs : List Char} :
    ∀ c ∈ camelCase begun capital cs, isIdentifierPart c = true := by
  induction cs generalizing begun capital with
  | nil =>
      intro c member
      cases member
  | cons first rest ih =>
      intro c member
      rw [camelCase] at member
      split at member
      case isTrue part =>
        rcases List.mem_cons.mp member with rfl | member
        · split
          · exact (capital_of_isIdentifierPart part).1
          · exact part
        · exact ih c member
      case isFalse => exact ih c member

theorem isIdentifier_sanitizeIdentifier (name : String) :
    isIdentifier (sanitizeIdentifier name).toList = true := by
  unfold sanitizeIdentifier
  split
  · decide
  · rename_i cs nonempty
    have parts : ∀ c ∈ camelCase false false name.toList, isIdentifierPart c = true :=
      part_of_mem_camelCase
    have bare : isIdentifier (if startsWithDigit (camelCase false false name.toList) then
        '_' :: camelCase false false name.toList else camelCase false false name.toList) = true := by
      split
      case isTrue => exact isIdentifier_underscore parts
      case isFalse noDigit =>
        exact isIdentifier_of_parts parts nonempty (Bool.eq_false_iff.mpr noDigit)
    dsimp only
    generalize (if startsWithDigit (camelCase false false name.toList) then
      '_' :: camelCase false false name.toList else camelCase false false name.toList) = chosen
      at bare ⊢
    split
    · rw [String.toList_append, @String.toList_ofList chosen]
      exact isIdentifier_underscore (parts_of_isIdentifier bare)
    · rw [String.toList_ofList]
      exact bare

/-- No reserved word begins with an underscore. -/
theorem head?_ne_of_isReserved {name : String} (reserved : isReserved name = true) :
    name.toList.head? ≠ some '_' := by
  have all : ∀ word ∈ reservedWords, word.toList.head? ≠ some '_' := by decide
  exact all name (List.contains_iff_mem.mp reserved)

/-- Whatever name an identifier is made from, it is no reserved word. -/
theorem isReserved_sanitizeIdentifier (name : String) :
    isReserved (sanitizeIdentifier name) = false := by
  unfold sanitizeIdentifier
  split
  · decide
  · dsimp only
    generalize String.ofList (if startsWithDigit _ then _ else _) = bare
    split
    · rw [Bool.eq_false_iff]
      intro reserved
      apply head?_ne_of_isReserved reserved
      rw [String.toList_append]
      rfl
    · exact Bool.eq_false_iff.mpr ‹_›

/-! ## Identifiers stay as they are -/

theorem camelCase_eq_self {begun : Bool} {cs : List Char}
    (parts : ∀ c ∈ cs, isIdentifierPart c = true) : camelCase begun false cs = cs := by
  induction cs generalizing begun with
  | nil => rfl
  | cons first rest ih =>
      obtain ⟨part, others⟩ := List.forall_mem_cons.mp parts
      rw [camelCase, if_pos part, ih others, Bool.false_and]
      rfl

theorem startsWithDigit_of_isIdentifier {cs : List Char} (identifier : isIdentifier cs = true) :
    startsWithDigit cs = false := by
  cases cs with
  | nil => rfl
  | cons first rest => exact isDigit_of_start (isIdentifier_cons_iff.mp identifier).1

theorem sanitizeIdentifier_eq_self {name : String} (identifier : isIdentifier name.toList = true)
    (free : isReserved name = false) : sanitizeIdentifier name = name := by
  unfold sanitizeIdentifier
  rw [camelCase_eq_self (parts_of_isIdentifier identifier)]
  cases same : name.toList with
  | nil =>
      rw [same] at identifier
      cases identifier
  | cons first rest =>
      rw [same] at identifier
      dsimp only
      rw [startsWithDigit_of_isIdentifier identifier, ← same, if_neg Bool.false_ne_true,
        String.ofList_toList, if_neg (Bool.eq_false_iff.mp free)]

/-- An identifier that is made from a name is made from itself. -/
theorem sanitizeIdentifier_sanitizeIdentifier (name : String) :
    sanitizeIdentifier (sanitizeIdentifier name) = sanitizeIdentifier name :=
  sanitizeIdentifier_eq_self (isIdentifier_sanitizeIdentifier name)
    (isReserved_sanitizeIdentifier name)

/-! ## Type names -/

/-- Type names are identifiers that do not begin with a lower-case letter. -/
structure IsTypeName (name : String) : Prop where
  isIdentifier : isIdentifier name.toList = true
  notLower : ∀ first ∈ name.toList.head?, first.isLower = false

theorem toList_capitalizeFirst {s : String} {first : Char} {rest : List Char}
    (same : s.toList = first :: rest) (part : isIdentifierPart first = true) :
    (Text.capitalizeFirst s).toList = first.toUpper :: rest := by
  unfold Text.capitalizeFirst
  rw [same]
  dsimp only
  rw [Text.uppercase, if_pos (toNat_lt_of_isIdentifierPart part), String.toList_ofList]
  rfl

theorem parts_capitalizeFirst {s : String} (parts : ∀ c ∈ s.toList, isIdentifierPart c = true) :
    (∀ c ∈ (Text.capitalizeFirst s).toList, isIdentifierPart c = true) ∧
      ∀ first ∈ (Text.capitalizeFirst s).toList.head?, first.isLower = false := by
  cases same : s.toList with
  | nil =>
      have empty : Text.capitalizeFirst s = "" := by
        unfold Text.capitalizeFirst
        rw [same]
      rw [empty]
      exact ⟨by simp, by simp⟩
  | cons first rest =>
      rw [same] at parts
      have part := parts first List.mem_cons_self
      obtain ⟨capital, notLower, -⟩ := capital_of_isIdentifierPart part
      rw [toList_capitalizeFirst same part]
      constructor
      · intro c member
        rcases List.mem_cons.mp member with rfl | member
        · exact capital
        · exact parts c (List.mem_cons_of_mem _ member)
      · rintro c ⟨⟩
        exact notLower

theorem isTypeName_capitalizeFirst {s : String} (identifier : isIdentifier s.toList = true) :
    IsTypeName (Text.capitalizeFirst s) := by
  obtain ⟨parts, notLower⟩ := parts_capitalizeFirst (parts_of_isIdentifier identifier)
  refine ⟨?_, notLower⟩
  cases same : s.toList with
  | nil =>
      rw [same] at identifier
      cases identifier
  | cons first rest =>
      rw [same] at identifier
      have start := (isIdentifier_cons_iff.mp identifier).1
      have part := isIdentifierPart_of_start start
      have sameDigit := (capital_of_isIdentifierPart part).2.2
      rw [toList_capitalizeFirst same part] at parts ⊢
      exact isIdentifier_of_parts parts (List.cons_ne_nil _ _)
        (sameDigit.trans (isDigit_of_start start))

/-- Whatever name a type name is made from, it is one. -/
theorem isTypeName_sanitizeTypeName (name : String) : IsTypeName (sanitizeTypeName name) := by
  have identifier := isIdentifier_sanitizeIdentifier name
  unfold sanitizeTypeName
  dsimp only
  split
  · exact isTypeName_capitalizeFirst identifier
  · have kept : ∀ c ∈ (String.ofList
        ((sanitizeIdentifier name).toList.dropWhile (· == '_'))).toList,
        isIdentifierPart c = true := by
      rw [String.toList_ofList]
      intro c member
      exact parts_of_isIdentifier identifier c ((List.dropWhile_sublist _).subset member)
    obtain ⟨parts, notLower⟩ := parts_capitalizeFirst kept
    generalize Text.capitalizeFirst _ = rest at parts notLower ⊢
    split
    · constructor
      · rw [String.toList_append]
        exact isIdentifier_cons_iff.mpr ⟨by decide, parts⟩
      · rw [String.toList_append]
        rintro c ⟨⟩
        decide
    · rename_i usable
      obtain ⟨nonempty, noDigit⟩ := not_or.mp (mt (Bool.or_eq_true _ _).mpr usable)
      refine ⟨isIdentifier_of_parts parts ?_ (Bool.eq_false_iff.mpr noDigit), notLower⟩
      intro empty
      exact nonempty (String.isEmpty_iff.mpr (String.toList_eq_nil_iff.mp empty))

end ClientGen.TypeScript
