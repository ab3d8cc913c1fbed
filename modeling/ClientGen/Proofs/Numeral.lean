import ClientGen.Json.Basic
import ClientGen.Text.Replace

/-!
# Numerals

The numeric literals of the language: a sign, digits without a leading zero, digits after a point,
and an exponent, where all but the first digits may be missing. The text of every number is one.
-/

namespace ClientGen

namespace TypeScript

/-! ## The shape of numerals -/

def areDigits (cs : List Char) : Bool :=
  !cs.isEmpty && cs.all Char.isDigit

/-- The digits of a whole number: zero, or digits that begin with another one. -/
def isWhole : List Char → Bool
  | [] => false
  | c :: rest =>
      if c = '0' then rest.isEmpty else c.isDigit && rest.all Char.isDigit

/-- Digits with digits after a point, if there is one. -/
def isDecimal (cs : List Char) : Bool :=
  match Text.splitOnce? '.' cs with
  | some (whole, fraction) => isWhole whole && areDigits fraction
  | none => isWhole cs

def afterSign (signs : List Char) : List Char → List Char
  | [] => []
  | c :: rest => if c ∈ signs then rest else c :: rest

/-- A decimal with an exponent, if there is one. -/
def isUnsigned (cs : List Char) : Bool :=
  match Text.splitOnce? 'e' cs with
  | some (decimal, exponent) => isDecimal decimal && areDigits (afterSign ['+', '-'] exponent)
  | none => isDecimal cs

def isNumeral (cs : List Char) : Bool :=
  isUnsigned (afterSign ['-'] cs)

def isNumeralPart (c : Char) : Bool :=
  c.isDigit || c == '.' || c == 'e' || c == '+' || c == '-'

end TypeScript

namespace Text

theorem splitOnce?_append {sep : Char} {before : List Char} (without : sep ∉ before)
    (after : List Char) : splitOnce? sep (before ++ sep :: after) = some (before, after) := by
  induction before with
  | nil => simp [splitOnce?]
  | cons c rest ih =>
      have different : c ≠ sep := fun same => without (by simp [same])
      have behind : sep ∉ rest := fun member => without (by simp [member])
      rw [List.cons_append, splitOnce?, if_neg different, ih behind]
      rfl

theorem splitOnce?_eq_none {sep : Char} {cs : List Char} (without : sep ∉ cs) :
    splitOnce? sep cs = none := by
  induction cs with
  | nil => rfl
  | cons c rest ih =>
      have different : c ≠ sep := fun same => without (by simp [same])
      have behind : sep ∉ rest := fun member => without (by simp [member])
      rw [splitOnce?, if_neg different, ih behind]
      rfl

theorem eq_of_splitOnce? {sep : Char} {cs before after : List Char}
    (split : splitOnce? sep cs = some (before, after)) : cs = before ++ sep :: after := by
  induction cs generalizing before with
  | nil => cases split
  | cons c rest ih =>
      rw [splitOnce?] at split
      split at split
      case isTrue same =>
        cases split
        rw [same]
        rfl
      case isFalse =>
        obtain ⟨⟨front, back⟩, found, same⟩ := Option.map_eq_some_iff.mp split
        cases same
        rw [ih found]
        rfl

end Text

namespace TypeScript

theorem areDigits_iff {cs : List Char} :
    areDigits cs = true ↔ cs ≠ [] ∧ ∀ c ∈ cs, c.isDigit = true := by
  simp [areDigits]

theorem isWhole_cons {c : Char} {rest : List Char} (notZero : c ≠ '0') (digit : c.isDigit = true)
    (digits : ∀ d ∈ rest, d.isDigit = true) : isWhole (c :: rest) = true := by
  simp only [isWhole, if_neg notZero, digit, Bool.true_and, List.all_eq_true]
  exact digits

theorem digits_of_isWhole {cs : List Char} (whole : isWhole cs = true) :
    cs ≠ [] ∧ ∀ c ∈ cs, c.isDigit = true := by
  cases cs with
  | nil => cases whole
  | cons first rest =>
      refine ⟨List.cons_ne_nil _ _, ?_⟩
      rw [isWhole] at whole
      split at whole
      case isTrue zero =>
        rw [zero, List.isEmpty_iff.mp whole]
        intro c member
        obtain rfl := List.mem_singleton.mp member
        decide
      case isFalse =>
        simp only [Bool.and_eq_true, List.all_eq_true] at whole
        simpa using whole

theorem point_notMem_of_digits {cs : List Char} (digits : ∀ c ∈ cs, c.isDigit = true) :
    '.' ∉ cs :=
  fun member => absurd (digits '.' member) (by decide)

theorem isDecimal_of_isWhole {cs : List Char} (whole : isWhole cs = true) :
    isDecimal cs = true := by
  rw [isDecimal, Text.splitOnce?_eq_none (point_notMem_of_digits (digits_of_isWhole whole).2)]
  exact whole

theorem isDecimal_of_point {whole fraction : List Char} (before : isWhole whole = true)
    (after : areDigits fraction = true) : isDecimal (whole ++ '.' :: fraction) = true := by
  rw [isDecimal, Text.splitOnce?_append (point_notMem_of_digits (digits_of_isWhole before).2)]
  simp only [before, after, Bool.and_self]

theorem digits_of_isDecimal {cs : List Char} (decimal : isDecimal cs = true) :
    (∃ first rest, cs = first :: rest ∧ first.isDigit = true) ∧
      ∀ c ∈ cs, c.isDigit = true ∨ c = '.' := by
  have split : ∃ whole behind, cs = whole ++ behind ∧ isWhole whole = true ∧
      ∀ c ∈ behind, c.isDigit = true ∨ c = '.' := by
    unfold isDecimal at decimal
    split at decimal
    · rename_i whole fraction found
      obtain ⟨before, after⟩ := Bool.and_eq_true_iff.mp decimal
      refine ⟨whole, '.' :: fraction, Text.eq_of_splitOnce? found, before, ?_⟩
      intro c member
      rcases List.mem_cons.mp member with point | member
      · exact Or.inr point
      · exact Or.inl ((areDigits_iff.mp after).2 c member)
    · exact ⟨cs, [], (List.append_nil cs).symm, decimal, by simp⟩
  obtain ⟨whole, behind, rfl, before, after⟩ := split
  obtain ⟨nonempty, digits⟩ := digits_of_isWhole before
  constructor
  · obtain ⟨first, rest, rfl⟩ := List.exists_cons_of_ne_nil nonempty
    exact ⟨first, rest ++ behind, rfl, digits first List.mem_cons_self⟩
  · intro c member
    rcases List.mem_append.mp member with member | member
    · exact Or.inl (digits c member)
    · exact after c member

theorem afterSign_of_isDecimal {cs : List Char} (decimal : isDecimal cs = true)
    (behind : List Char) (negative : Bool) :
    afterSign ['-'] ((if negative then ['-'] else []) ++ (cs ++ behind)) = cs ++ behind := by
  obtain ⟨⟨first, rest, rfl, digit⟩, -⟩ := digits_of_isDecimal decimal
  cases negative with
  | true => rfl
  | false =>
      have noSign : first ∉ ['-'] := by
        rintro member
        rw [List.mem_singleton.mp member] at digit
        revert digit
        decide
      exact if_neg noSign

theorem exponent_notMem_of_isDecimal {cs : List Char} (decimal : isDecimal cs = true) :
    'e' ∉ cs := by
  intro member
  have impossible := (digits_of_isDecimal decimal).2 'e' member
  revert impossible
  decide

theorem isNumeral_of_isDecimal {cs : List Char} (decimal : isDecimal cs = true) (negative : Bool) :
    isNumeral ((if negative then ['-'] else []) ++ cs) = true := by
  have unsigned := afterSign_of_isDecimal decimal [] negative
  rw [List.append_nil] at unsigned
  rw [isNumeral, unsigned, isUnsigned,
    Text.splitOnce?_eq_none (exponent_notMem_of_isDecimal decimal)]
  exact decimal

theorem isNumeral_of_exponent {cs exponent : List Char} (decimal : isDecimal cs = true)
    (digits : areDigits exponent = true) (negative : Bool) {sign : Char} (signed : sign ∈ ['+', '-']) :
    isNumeral ((if negative then ['-'] else []) ++ (cs ++ 'e' :: sign :: exponent)) = true := by
  rw [isNumeral, afterSign_of_isDecimal decimal _ negative, isUnsigned,
    Text.splitOnce?_append (exponent_notMem_of_isDecimal decimal)]
  simp only [decimal, Bool.true_and, afterSign, if_pos signed, digits]

theorem eq_of_afterSign (signs cs : List Char) :
    afterSign signs cs = cs ∨ ∃ sign ∈ signs, cs = sign :: afterSign signs cs := by
  cases cs with
  | nil => exact Or.inl rfl
  | cons first rest =>
      rw [afterSign]
      split
      case isTrue signed => exact Or.inr ⟨first, signed, rfl⟩
      case isFalse => exact Or.inl rfl

theorem isNumeralPart_of_isDecimal {cs : List Char} (decimal : isDecimal cs = true) :
    ∀ c ∈ cs, isNumeralPart c = true := by
  intro c member
  rcases (digits_of_isDecimal decimal).2 c member with digit | rfl
  · simp only [isNumeralPart, digit, Bool.true_or]
  · decide

theorem isNumeralPart_of_isUnsigned {cs : List Char} (unsigned : isUnsigned cs = true) :
    (∃ first rest, cs = first :: rest ∧ first.isDigit = true) ∧
      ∀ c ∈ cs, isNumeralPart c = true := by
  unfold isUnsigned at unsigned
  split at unsigned
  · rename_i mantissa exponent found
    obtain ⟨decimal, digits⟩ := Bool.and_eq_true_iff.mp unsigned
    obtain ⟨⟨first, rest, rfl, digit⟩, -⟩ := digits_of_isDecimal decimal
    rw [Text.eq_of_splitOnce? found]
    refine ⟨⟨first, _, rfl, digit⟩, ?_⟩
    have signs : ['+', '-'].all isNumeralPart = true := by decide
    have behind : ∀ c ∈ afterSign ['+', '-'] exponent, isNumeralPart c = true := by
      intro c member
      simp only [isNumeralPart, (areDigits_iff.mp digits).2 c member, Bool.true_or]
    intro c member
    rcases List.mem_append.mp member with member | member
    · exact isNumeralPart_of_isDecimal decimal c member
    · rcases List.mem_cons.mp member with rfl | member
      · decide
      · rcases eq_of_afterSign ['+', '-'] exponent with same | ⟨sign, signed, same⟩
        · rw [same] at behind
          exact behind c member
        · rw [same] at member
          rcases List.mem_cons.mp member with rfl | member
          · exact List.all_eq_true.mp signs c signed
          · exact behind c member
  · exact ⟨(digits_of_isDecimal unsigned).1, isNumeralPart_of_isDecimal unsigned⟩

/-- Numerals begin with a digit or the sign, and consist of the characters of numerals. -/
theorem parts_of_isNumeral {cs : List Char} (numeral : isNumeral cs = true) :
    (∃ first rest, cs = first :: rest ∧ (first.isDigit = true ∨ first = '-')) ∧
      ∀ c ∈ cs, isNumeralPart c = true := by
  obtain ⟨⟨first, rest, unsigned, digit⟩, parts⟩ := isNumeralPart_of_isUnsigned numeral
  rcases eq_of_afterSign ['-'] cs with same | ⟨sign, signed, same⟩
  · rw [same] at unsigned parts
    exact ⟨⟨first, rest, unsigned, Or.inl digit⟩, parts⟩
  · obtain rfl := List.mem_singleton.mp signed
    refine ⟨⟨_, _, same, Or.inr rfl⟩, ?_⟩
    intro c member
    rw [same] at member
    rcases List.mem_cons.mp member with rfl | member
    · decide
    · exact parts c member

end TypeScript

/-! ## The texts of numbers -/

open TypeScript

theorem digits_of_toDigits (n : Nat) : ∀ c ∈ Nat.toDigits 10 n, c.isDigit = true :=
  fun _ member => Nat.isDigit_of_mem_toDigits (by decide) (by decide) member

/-- A number other than zero is not written with a zero in front. -/
theorem toDigits_cons {n : Nat} (positive : n ≠ 0) :
    ∃ first rest, Nat.toDigits 10 n = first :: rest ∧ first ≠ '0' := by
  induction n using Nat.strongRecOn with
  | ind n ih =>
      by_cases small : n < 10
      · refine ⟨n.digitChar, [], Nat.toDigits_of_lt_base small, ?_⟩
        rwa [Ne, Nat.digitChar_eq_zero]
      · have smaller : n / 10 < n := by omega
        have nonzero : n / 10 ≠ 0 := by omega
        obtain ⟨first, rest, written, notZero⟩ := ih (n / 10) smaller nonzero
        refine ⟨first, rest ++ [(n % 10).digitChar], ?_, notZero⟩
        rw [Nat.toDigits_of_base_le (by decide) (by omega), written]
        rfl

theorem isWhole_toDigits (n : Nat) : isWhole (Nat.toDigits 10 n) = true := by
  by_cases zero : n = 0
  · rw [zero]
    decide
  · obtain ⟨first, rest, written, notZero⟩ := toDigits_cons zero
    have digits := digits_of_toDigits n
    rw [written] at digits ⊢
    exact isWhole_cons notZero (digits first List.mem_cons_self)
      fun d member => digits d (List.mem_cons_of_mem _ member)

theorem areDigits_toDigits (n : Nat) : areDigits (Nat.toDigits 10 n) = true :=
  areDigits_iff.mpr ⟨Nat.toDigits_ne_nil, digits_of_toDigits n⟩

theorem isNumeral_toString_int (n : Int) : isNumeral (toString n).toList = true := by
  cases n with
  | ofNat n =>
      have written : (toString (Int.ofNat n)).toList = Nat.toDigits 10 n := Nat.toList_repr
      rw [written]
      exact isNumeral_of_isDecimal (isDecimal_of_isWhole (isWhole_toDigits n)) false
  | negSucc n =>
      have written : (toString (Int.negSucc n)).toList = '-' :: Nat.toDigits 10 (n + 1) := by
        have negative : toString (Int.negSucc n) = "-" ++ Nat.repr (n + 1) := rfl
        rw [negative, String.toList_append, Nat.toList_repr]
        rfl
      rw [written]
      exact isNumeral_of_isDecimal (isDecimal_of_isWhole (isWhole_toDigits (n + 1))) true

namespace Double

/-- The digits without zeros at the end, of which the first is kept. -/
theorem stripped_cons {first : Char} (notZero : first ≠ '0') (rest : List Char) :
    ∃ kept, ((first :: rest).reverse.dropWhile (· == '0')).reverse = first :: kept ∧
      ∀ c ∈ kept, c ∈ rest := by
  have single : [first].dropWhile (· == '0') = [first] := by
    simp [notZero]
  rw [List.reverse_cons, List.dropWhile_append, single]
  split
  · exact ⟨[], rfl, by simp⟩
  · refine ⟨(rest.reverse.dropWhile (· == '0')).reverse, by simp, ?_⟩
    intro c member
    rw [List.mem_reverse] at member
    exact List.mem_reverse.mp ((List.dropWhile_sublist _).subset member)

theorem zeroDigits (count : Nat) : ∀ c ∈ List.replicate count '0', c.isDigit = true := by
  intro c member
  rw [List.eq_of_mem_replicate member]
  decide

section Written

variable {first : Char} {kept : List Char}

/-- Digits behind the point and some zeros. -/
theorem isDecimal_behindZeros (firstDigit : first.isDigit = true)
    (digits : ∀ c ∈ kept, c.isDigit = true) (count : Nat) :
    isDecimal (['0'] ++ '.' :: (List.replicate count '0' ++ first :: kept)) = true := by
  refine isDecimal_of_point (by decide) (areDigits_iff.mpr ⟨by simp, ?_⟩)
  intro c member
  rcases List.mem_append.mp member with member | member
  · exact zeroDigits count c member
  · rcases List.mem_cons.mp member with rfl | member
    · exact firstDigit
    · exact digits c member

/-- Digits with the point among them, or behind them and some zeros. -/
theorem isDecimal_aroundPoint (notZero : first ≠ '0') (firstDigit : first.isDigit = true)
    (digits : ∀ c ∈ kept, c.isDigit = true) (places count : Nat) :
    isDecimal (first :: (kept.take places ++ (List.replicate count '0' ++
      '.' :: if (kept.drop places).isEmpty then ['0'] else kept.drop places))) = true := by
  rw [← List.append_assoc, ← List.cons_append]
  apply isDecimal_of_point
  · apply isWhole_cons notZero firstDigit
    intro c member
    rcases List.mem_append.mp member with member | member
    · exact digits c (List.mem_of_mem_take member)
    · exact zeroDigits count c member
  · have fraction : ∀ c ∈ kept.drop places, c.isDigit = true :=
      fun c member => digits c (List.mem_of_mem_drop member)
    generalize kept.drop places = behind at fraction
    cases behind with
    | nil => decide
    | cons c rest => exact areDigits_iff.mpr ⟨List.cons_ne_nil _ _, fraction⟩

/-- One digit before the point, and no point if no digit comes behind it. -/
theorem isDecimal_afterFirst (notZero : first ≠ '0') (firstDigit : first.isDigit = true)
    (digits : ∀ c ∈ kept, c.isDigit = true) :
    isDecimal (first :: if kept.isEmpty then [] else '.' :: kept) = true := by
  have whole : isWhole [first] = true := isWhole_cons notZero firstDigit (by simp)
  cases kept with
  | nil => exact isDecimal_of_isWhole whole
  | cons c rest =>
      exact isDecimal_of_point whole (areDigits_iff.mpr ⟨List.cons_ne_nil _ _, digits⟩)

end Written

theorem isNumeral_write (layout : Layout) (negative : Bool) (s : Shortest) :
    isNumeral (layout.write negative s).toList = true := by
  have sign : (if negative then "-" else "").toList = if negative then ['-'] else [] := by
    cases negative <;> rfl
  unfold Layout.write
  dsimp only
  by_cases zero : s.digits = 0
  · rw [if_pos zero, String.toList_append, sign]
    exact isNumeral_of_isDecimal (by decide) negative
  rw [if_neg zero]
  obtain ⟨first, rest, written, notZero⟩ := toDigits_cons zero
  obtain ⟨kept, stripped, inRest⟩ := stripped_cons notZero rest
  have digits := digits_of_toDigits s.digits
  rw [written] at digits ⊢
  rw [stripped]
  have firstDigit := digits first List.mem_cons_self
  have keptDigits : ∀ c ∈ kept, c.isDigit = true :=
    fun c member => digits c (List.mem_cons_of_mem _ (inRest c member))
  -- Where the first digit stands decides about the layout.
  generalize s.exponent + ((first :: rest).length : Int) - 1 = place
  simp only [List.isEmpty_cons, Bool.false_eq_true, if_false, List.take_succ_cons,
    List.drop_succ_cons, List.take_zero, List.drop_zero]
  split
  · split
    · have text : ((if negative then "-" else "") ++ "0." ++ zeros (-place - 1).toNat ++
          String.ofList (first :: kept)).toList = (if negative then ['-'] else []) ++
            (['0'] ++ '.' :: (List.replicate (-place - 1).toNat '0' ++ first :: kept)) := by
        simp [sign, zeros]
      rw [text]
      exact isNumeral_of_isDecimal (isDecimal_behindZeros firstDigit keptDigits _) negative
    · simp only [String.toList_append, sign, zeros, String.toList_ofList, List.append_assoc,
        apply_ite String.toList]
      exact isNumeral_of_isDecimal
        (isDecimal_aroundPoint notZero firstDigit keptDigits place.toNat _) negative
  · have text : ((if negative then "-" else "") ++ String.ofList [first] ++
        (if kept.isEmpty then "" else "." ++ String.ofList kept) ++ "e" ++
        (if place < 0 then "-" else "+") ++ toString place.natAbs).toList =
          (if negative then ['-'] else []) ++ ((first :: if kept.isEmpty then [] else '.' :: kept) ++
            'e' :: (if place < 0 then '-' else '+') :: Nat.toDigits 10 place.natAbs) := by
      have exponent : (toString place.natAbs).toList = Nat.toDigits 10 place.natAbs :=
        Nat.toList_repr
      rw [String.toList_append, exponent]
      by_cases below : place < 0 <;> cases kept <;> simp [sign, below]
    rw [text]
    apply isNumeral_of_exponent (isDecimal_afterFirst notZero firstDigit keptDigits)
      (areDigits_toDigits _)
    split <;> decide

end Double

theorem Number.isNumeral_text (n : Number) : isNumeral n.text.toList = true := by
  cases n with
  | integer n => exact isNumeral_toString_int n
  | double d => exact Double.isNumeral_write Number.layout d.isNegative d.shortest

end ClientGen
