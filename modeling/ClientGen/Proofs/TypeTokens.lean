import ClientGen.Proofs.Identifier
import ClientGen.Proofs.TypeGrammar
import Mathlib.Data.List.Forall2

/-!
# The tokens of types

The text of a type is cut into the tokens that the tree of the type spells. The separators of the
text end every word and every numeral before them, so the parts of a type are cut one by one.
-/

namespace ClientGen.TypeScript

/-! ## Spelling -/

/-- Tokens one after the other, with a mark between neighbours. -/
def joinTokens (mark : Char) : List (List Token) → List Token
  | [] => []
  | [spelled] => spelled
  | spelled :: rest => spelled ++ .mark mark :: joinTokens mark rest

theorem joinTokens_cons_cons (mark : Char) (first second : List Token) (rest : List (List Token)) :
    joinTokens mark (first :: second :: rest) =
      first ++ .mark mark :: joinTokens mark (second :: rest) :=
  rfl

/-- Tokens between parentheses, where these are needed. -/
def enclosed (isNeeded : Bool) (spelled : List Token) : List Token :=
  if isNeeded then .mark '(' :: (spelled ++ [.mark ')']) else spelled

namespace TypeTree

def isUnion : TypeTree → Bool
  | .union _ _ _ => true
  | _ => false

def isIntersection : TypeTree → Bool
  | .intersection _ _ _ => true
  | _ => false

/-- The tokens in front of the type of a member. -/
def keySpelling (key : String) (isOptional : Bool) : List Token :=
  (if needsQuoting key then .string key else .word key) ::
    (if isOptional then [.mark '?', .mark ':'] else [.mark ':'])

mutual

def spelling : TypeTree → List Token
  | .name word => [.word word.text]
  | .number numeral => [.number numeral.text]
  | .flag value => [.word (if value then "true" else "false")]
  | .string value => [.string value]
  | .array item =>
      enclosed (item.isUnion || item.isIntersection) item.spelling ++ [.mark '[', .mark ']']
  | .union first second rest =>
      joinTokens '|' (first.spelling :: second.spelling :: spellings rest)
  | .intersection first second rest =>
      joinTokens '&' (enclosed first.isUnion first.spelling ::
        enclosed second.isUnion second.spelling :: factorSpellings rest)
  | .object members => .mark '\x7b' :: (joinTokens ';' (memberSpellings members) ++ [.mark '\x7d'])
  | .record value =>
      [.word "Record", .mark '<', .word "string", .mark ','] ++ (value.spelling ++ [.mark '>'])

def spellings : List TypeTree → List (List Token)
  | [] => []
  | type :: rest => type.spelling :: spellings rest

def factorSpellings : List TypeTree → List (List Token)
  | [] => []
  | type :: rest => enclosed type.isUnion type.spelling :: factorSpellings rest

def memberSpellings : List (Member TypeTree) → List (List Token)
  | [] => []
  | ⟨key, type, isOptional⟩ :: rest =>
      (keySpelling key isOptional ++ type.spelling) :: memberSpellings rest

end

theorem isUnion_expr (type : TypeTree) : type.expr.isUnion = type.isUnion := by
  cases type <;> rfl

theorem isCompound_expr (type : TypeTree) :
    type.expr.isCompound = (type.isUnion || type.isIntersection) := by
  cases type <;> rfl

end TypeTree

theorem TypeWord.isIdentifier (word : TypeWord) :
    TypeScript.isIdentifier word.text.toList = true := by
  have reference := word.isReference
  simp only [isTypeReference, Bool.and_eq_true] at reference
  exact reference.1.1

/-! ## Cutting texts -/

theorem tokens_nil : tokens [] = some [] := by
  rw [tokens.eq_def]

theorem tokens_of_blank {c : Char} (blank : Text.isBlank c = true) (rest : List Char) :
    tokens (c :: rest) = tokens rest := by
  rw [tokens.eq_def]
  exact if_pos blank

theorem tokens_of_nextToken? {c : Char} {rest behind : List Char} {token : Token}
    (notBlank : Text.isBlank c = false) (next : nextToken? c rest = some (token, behind)) :
    tokens (c :: rest) = (tokens behind).map (token :: ·) := by
  rw [tokens.eq_def]
  dsimp only
  rw [if_neg (Bool.eq_false_iff.mp notBlank)]
  split
  · rename_i none
    rw [next] at none
    cases none
  · rename_i found
    rw [next] at found
    cases found
    rfl

/-- Nothing of a text belongs to a word or a numeral in front of it. -/
def EndsToken (rest : List Char) : Prop :=
  ∀ c ∈ rest.head?, isIdentifierPart c = false ∧ isNumeralPart c = false

/-- A text is cut into tokens, provided that what follows it ends the last one. -/
def CutInto (text : List Char) (spelled : List Token) : Prop :=
  ∀ rest, EndsToken rest → tokens (text ++ rest) = (tokens rest).map (spelled ++ ·)

/-- A text is cut into tokens whatever follows it. -/
def ClosedInto (text : List Char) (spelled : List Token) : Prop :=
  ∀ rest, tokens (text ++ rest) = (tokens rest).map (spelled ++ ·)

/-- A text that is cut into marks, and that ends a word or a numeral in front of it. -/
structure Separates (text : List Char) (spelled : List Token) : Prop where
  ends : ∀ rest, EndsToken (text ++ rest)
  closed : ClosedInto text spelled

theorem map_append_append (first second : List Token) (found : Option (List Token)) :
    (found.map (second ++ ·)).map (first ++ ·) = found.map (first ++ second ++ ·) := by
  cases found with
  | none => rfl
  | some spelled => simp

theorem ClosedInto.cutInto {text : List Char} {spelled : List Token}
    (closed : ClosedInto text spelled) : CutInto text spelled :=
  fun rest _ => closed rest

theorem CutInto.closed {text separator : List Char} {spelled marks : List Token}
    (cut : CutInto text spelled) (separates : Separates separator marks) :
    ClosedInto (text ++ separator) (spelled ++ marks) := by
  intro rest
  rw [List.append_assoc, cut _ (separates.ends rest), separates.closed, map_append_append]

theorem ClosedInto.append {first second : List Char} {front behind : List Token}
    (closed : ClosedInto first front) (cut : CutInto second behind) :
    CutInto (first ++ second) (front ++ behind) := by
  intro rest ends
  rw [List.append_assoc, closed, cut rest ends, map_append_append]

theorem ClosedInto.trans {first second : List Char} {front behind : List Token}
    (closed : ClosedInto first front) (next : ClosedInto second behind) :
    ClosedInto (first ++ second) (front ++ behind) := by
  intro rest
  rw [List.append_assoc, closed, next, map_append_append]

/-! ## Single tokens -/

theorem isBlank_of_isIdentifierPart {c : Char} (part : isIdentifierPart c = true) :
    Text.isBlank c = false := by
  have ascii : ∀ n < 128, isIdentifierPart (Char.ofNat n) = true →
      Text.isBlank (Char.ofNat n) = false := by decide
  exact of_isIdentifierPart (P := fun c => isIdentifierPart c = true → Text.isBlank c = false)
    ascii part part

theorem span_append {p : Char → Bool} {cs rest : List Char} (all : ∀ c ∈ cs, p c = true)
    (ends : ∀ c ∈ rest.head?, p c = false) :
    (cs ++ rest).takeWhile p = cs ∧ (cs ++ rest).dropWhile p = rest := by
  rw [List.takeWhile_append_of_pos all, List.dropWhile_append_of_pos all]
  cases rest with
  | nil => exact ⟨List.append_nil cs, rfl⟩
  | cons c behind =>
      have other : p c = false := ends c rfl
      rw [List.takeWhile_cons_of_neg (by simp [other]), List.dropWhile_cons_of_neg (by simp [other])]
      exact ⟨List.append_nil cs, rfl⟩

theorem cutInto_word {text : String} (identifier : isIdentifier text.toList = true) :
    CutInto text.toList [.word text] := by
  intro rest ends
  cases same : text.toList with
  | nil =>
      rw [same] at identifier
      cases identifier
  | cons c cs =>
      rw [same] at identifier
      obtain ⟨start, parts⟩ := isIdentifier_cons_iff.mp identifier
      obtain ⟨taken, left⟩ := span_append parts fun d member => (ends d member).1
      have next : nextToken? c (cs ++ rest) = some (.word text, rest) := by
        rw [nextToken?, if_pos start, taken, left, ← same, String.ofList_toList]
      exact tokens_of_nextToken?
        (isBlank_of_isIdentifierPart (isIdentifierPart_of_start start)) next

theorem cutInto_number {text : String} (numeral : isNumeral text.toList = true) :
    CutInto text.toList [.number text] := by
  intro rest ends
  obtain ⟨⟨c, cs, same, first⟩, parts⟩ := parts_of_isNumeral numeral
  rw [same] at parts ⊢
  have behind : ∀ d ∈ cs, isNumeralPart d = true :=
    fun d member => parts d (List.mem_cons_of_mem _ member)
  obtain ⟨taken, left⟩ := span_append behind fun d member => (ends d member).2
  have kind : Text.isBlank c = false ∧ isIdentifierStart c = false ∧
      (c.isDigit || c == '-') = true := by
    rcases first with digit | rfl
    · refine ⟨isBlank_of_isIdentifierPart (isIdentifierPart_of_isDigit digit), ?_, by
        rw [digit, Bool.true_or]⟩
      rw [Bool.eq_false_iff]
      intro start
      rw [isDigit_of_start start] at digit
      cases digit
    · decide
  obtain ⟨notBlank, noStart, digit⟩ := kind
  have next : nextToken? c (cs ++ rest) = some (.number text, rest) := by
    rw [nextToken?, if_neg (Bool.eq_false_iff.mp noStart), if_pos digit, taken, left, ← same,
      String.ofList_toList]
  exact tokens_of_nextToken? notBlank next

theorem closedInto_string (value : String) :
    ClosedInto (quote value).toList [.string value] := by
  intro rest
  obtain ⟨inner, written, read⟩ := readString_quote value rest
  have next : nextToken? '\'' inner = some (.string value, rest) := by
    rw [nextToken?, if_neg (by decide), if_neg (by decide), if_pos rfl, read, Option.map_some]
    dsimp only
    rw [String.ofList_toList]
  rw [written]
  exact tokens_of_nextToken? (by decide) next

theorem separates_mark {c : Char} (mark : c ∈ marks) : Separates [c] [.mark c] := by
  have each : marks.all (fun c => !Text.isBlank c && !isIdentifierStart c &&
      !(c.isDigit || c == '-') && c != '\'' && !isIdentifierPart c && !isNumeralPart c) = true := by
    decide
  have kind := List.all_eq_true.mp each c mark
  simp only [Bool.and_eq_true, Bool.not_eq_true', bne_iff_ne] at kind
  obtain ⟨⟨⟨⟨⟨notBlank, noStart⟩, noDigit⟩, noQuote⟩, noPart⟩, noNumeral⟩ := kind
  constructor
  · rintro rest d ⟨⟩
    exact ⟨noPart, noNumeral⟩
  · intro rest
    have next : nextToken? c rest = some (.mark c, rest) := by
      rw [nextToken?, if_neg (Bool.eq_false_iff.mp noStart), if_neg (Bool.eq_false_iff.mp noDigit),
        if_neg noQuote, if_pos mark]
    exact tokens_of_nextToken? notBlank next

theorem separates_space : Separates [' '] [] := by
  constructor
  · rintro rest d ⟨⟩
    decide
  · intro rest
    rw [List.singleton_append, tokens_of_blank (by decide)]
    simp

theorem Separates.trans {first second : List Char} {front behind : List Token}
    (separates : Separates first front) (next : Separates second behind) :
    Separates (first ++ second) (front ++ behind) := by
  constructor
  · intro rest
    rw [List.append_assoc]
    exact separates.ends _
  · exact separates.closed.trans next.closed

/-! ## Types -/

theorem toList_join (separator first second : String) (rest : List String) :
    (Text.join separator (first :: second :: rest)).toList =
      first.toList ++ separator.toList ++ (Text.join separator (second :: rest)).toList := by
  have split : Text.join separator (first :: second :: rest) =
      first ++ separator ++ Text.join separator (second :: rest) := rfl
  rw [split, String.toList_append, String.toList_append]

/-- Parts that are cut one by one are cut together when a separator stands between them. -/
theorem cutInto_join {separator : String} {mark : Char}
    (separates : Separates separator.toList [.mark mark]) {texts : List String}
    {spelled : List (List Token)}
    (each : List.Forall₂ (fun text part => CutInto text.toList part) texts spelled)
    (nonempty : texts ≠ []) :
    CutInto (Text.join separator texts).toList (joinTokens mark spelled) := by
  induction each with
  | nil => exact absurd rfl nonempty
  | cons first others ih =>
      cases others with
      | nil => exact first
      | cons second rest =>
          have behind := ih (List.cons_ne_nil _ _)
          rw [toList_join, joinTokens_cons_cons, List.append_cons]
          exact (first.closed separates).append behind

theorem separates_pipe : Separates " | ".toList [.mark '|'] :=
  separates_space.trans ((separates_mark (by decide)).trans separates_space)

theorem separates_ampersand : Separates " & ".toList [.mark '&'] :=
  separates_space.trans ((separates_mark (by decide)).trans separates_space)

theorem separates_semicolon : Separates "; ".toList [.mark ';'] :=
  (separates_mark (by decide)).trans separates_space

theorem cutInto_enclosed {text : String} {spelled : List Token}
    (cut : CutInto text.toList spelled) (isNeeded : Bool) :
    CutInto (if isNeeded then TypeExpr.parenthesized text else text).toList
      (enclosed isNeeded spelled) := by
  cases isNeeded with
  | false => exact cut
  | true =>
      have opening : Separates "(".toList [.mark '('] := separates_mark (by decide)
      have closing : Separates ")".toList [.mark ')'] := separates_mark (by decide)
      have inside : CutInto ("(".toList ++ text.toList) ([.mark '('] ++ spelled) :=
        opening.closed.append cut
      have whole := (inside.closed closing).cutInto
      rw [← String.toList_append, ← String.toList_append] at whole
      exact whole

theorem closedInto_key (key : String) (isOptional : Bool) :
    ClosedInto (quoteIfNeeded key ++ (if isOptional then "?" else "") ++ ": ").toList
      (TypeTree.keySpelling key isOptional) := by
  have name : CutInto (quoteIfNeeded key).toList
      [if needsQuoting key then .string key else .word key] := by
    unfold quoteIfNeeded
    split
    · exact (closedInto_string key).cutInto
    · rename_i bare
      exact cutInto_word (by simpa [needsQuoting] using bare)
  have colon : Separates ": ".toList [.mark ':'] :=
    (separates_mark (by decide)).trans separates_space
  have question : Separates "?".toList [.mark '?'] := separates_mark (by decide)
  rw [String.append_assoc, String.toList_append, String.toList_append]
  cases isOptional with
  | true => exact name.closed (question.trans colon)
  | false => exact name.closed colon

namespace TypeTree

theorem cutInto_factor {type : TypeTree} (cut : CutInto type.expr.text.toList type.spelling) :
    CutInto (if type.expr.isUnion then TypeExpr.parenthesized type.expr.text
      else type.expr.text).toList (enclosed type.isUnion type.spelling) := by
  rw [isUnion_expr]
  exact cutInto_enclosed cut type.isUnion

mutual

/-- The text of a type is cut into the tokens that its tree spells. -/
theorem cutInto_text : ∀ type : TypeTree, CutInto type.expr.text.toList type.spelling
  | .name word => cutInto_word word.isIdentifier
  | .number numeral => cutInto_number numeral.isNumeral
  | .flag true => cutInto_word (by decide)
  | .flag false => cutInto_word (by decide)
  | .string value => (closedInto_string value).cutInto
  | .array item => by
      have front := cutInto_enclosed (cutInto_text item) (item.isUnion || item.isIntersection)
      have brackets : Separates "[]".toList [.mark '[', .mark ']'] :=
        (separates_mark (by decide)).trans (separates_mark (by decide))
      have text : item.array.expr.text =
          (if item.isUnion || item.isIntersection then TypeExpr.parenthesized item.expr.text
            else item.expr.text) ++ "[]" := by
        rw [← isCompound_expr]
        rfl
      rw [text, String.toList_append]
      exact (front.closed brackets).cutInto
  | .union first second rest =>
      cutInto_join separates_pipe
        (.cons (cutInto_text first) (.cons (cutInto_text second) (cutInto_texts rest)))
        (List.cons_ne_nil _ _)
  | .intersection first second rest =>
      cutInto_join separates_ampersand
        (.cons (cutInto_factor (cutInto_text first))
          (.cons (cutInto_factor (cutInto_text second)) (cutInto_factorTexts rest)))
        (List.cons_ne_nil _ _)
  | .object members => by
      have each := cutInto_memberTexts members
      cases members with
      | nil =>
          have braces : Separates "\x7b\x7d".toList [.mark '\x7b', .mark '\x7d'] :=
            (separates_mark (by decide)).trans (separates_mark (by decide))
          exact braces.closed.cutInto
      | cons member rest =>
          have opening : Separates "\x7b ".toList [.mark '\x7b'] :=
            (separates_mark (by decide)).trans separates_space
          have closing : Separates " \x7d".toList [.mark '\x7d'] :=
            separates_space.trans (separates_mark (by decide))
          have inner := cutInto_join separates_semicolon each (List.cons_ne_nil _ _)
          have whole := ((opening.closed.append inner).closed closing).cutInto
          rw [← String.toList_append, ← String.toList_append] at whole
          exact whole
  | .record value => by
      have opening : Separates "<".toList [.mark '<'] := separates_mark (by decide)
      have comma : Separates ", ".toList [.mark ','] :=
        (separates_mark (by decide)).trans separates_space
      have closing : Separates ">".toList [.mark '>'] := separates_mark (by decide)
      have head : ClosedInto "Record<string, ".toList
          [.word "Record", .mark '<', .word "string", .mark ','] := by
        have name : CutInto "Record".toList [.word "Record"] := cutInto_word (by decide)
        have key : CutInto "string".toList [.word "string"] := cutInto_word (by decide)
        exact (name.closed opening).trans (key.closed comma)
      have whole := ((head.append (cutInto_text value)).closed closing).cutInto
      rw [← String.toList_append, ← String.toList_append] at whole
      exact whole

theorem cutInto_texts : ∀ types : List TypeTree,
    List.Forall₂ (fun text part => CutInto text.toList part) (TypeExpr.texts (exprs types))
      (spellings types)
  | [] => .nil
  | type :: rest => .cons (cutInto_text type) (cutInto_texts rest)

theorem cutInto_factorTexts : ∀ types : List TypeTree,
    List.Forall₂ (fun text part => CutInto text.toList part) (TypeExpr.factorTexts (exprs types))
      (factorSpellings types)
  | [] => .nil
  | type :: rest => .cons (cutInto_factor (cutInto_text type)) (cutInto_factorTexts rest)

theorem cutInto_memberTexts : ∀ members : List (Member TypeTree),
    List.Forall₂ (fun text part => CutInto text.toList part)
      (TypeExpr.memberTexts (memberExprs members)) (memberSpellings members)
  | [] => .nil
  | ⟨key, type, isOptional⟩ :: rest => by
      refine .cons ?_ (cutInto_memberTexts rest)
      have whole := (closedInto_key key isOptional).append (cutInto_text type)
      rw [← String.toList_append] at whole
      exact whole

end

/-- The tokens of the text of a type are those that its tree spells. -/
theorem tokens_text (type : TypeTree) : tokens type.expr.text.toList = some type.spelling := by
  have whole := cutInto_text type [] (by rintro c ⟨⟩)
  rwa [List.append_nil, tokens_nil, Option.map_some, List.append_nil] at whole

end TypeTree

end ClientGen.TypeScript
