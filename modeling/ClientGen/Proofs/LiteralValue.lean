import ClientGen.Proofs.Numeral
import ClientGen.Proofs.SanitizedNames
import ClientGen.Proofs.StringLiteral

/-!
# Values of string literals

What a single-quoted literal stands for by all the escape rules of the language, which values its
strings by UTF-16 code units. The literal that is written for a text has that text as its value, and
so has the key that is written for a name, so different names get different keys.
-/

namespace ClientGen.TypeScript

/-! ## Values -/

/-- The UTF-16 code units of a code point. -/
def codeUnits (code : Nat) : List Nat :=
  if code < 0x10000 then [code]
  else [0xD800 + (code - 0x10000) / 0x400, 0xDC00 + (code - 0x10000) % 0x400]

/-- The value of a text: the code units of its characters. -/
def stringValue (cs : List Char) : List Nat :=
  cs.flatMap fun c => codeUnits c.toNat

/-- No character has the code of a surrogate, so the code units in front of a text tell its first
character. -/
theorem codeUnits_append_inj {c d : Char} {after behind : List Nat}
    (same : codeUnits c.toNat ++ after = codeUnits d.toNat ++ behind) : c = d ∧ after = behind := by
  have noSurrogate : ∀ c : Char, c.toNat < 0xD800 ∨ 0xDFFF < c.toNat ∧ c.toNat < 0x110000 :=
    fun c => c.valid
  have first := noSurrogate c
  have second := noSurrogate d
  have codes : c.toNat = d.toNat ∧ after = behind := by
    unfold codeUnits at same
    split at same <;> split at same <;>
      simp only [List.cons_append, List.nil_append, List.cons.injEq] at same
    · exact same
    · omega
    · omega
    · obtain ⟨high, low, rest⟩ := same
      exact ⟨by omega, rest⟩
  exact ⟨Char.toNat_inj.mp codes.1, codes.2⟩

theorem stringValue_injective {cs ds : List Char} (same : stringValue cs = stringValue ds) :
    cs = ds := by
  have nonempty : ∀ (c : Char) (rest : List Char), stringValue (c :: rest) ≠ [] := by
    intro c rest
    unfold stringValue codeUnits
    rw [List.flatMap_cons]
    split <;> exact List.cons_ne_nil _ _
  induction cs generalizing ds with
  | nil =>
      cases ds with
      | nil => rfl
      | cons d others => exact absurd same.symm (nonempty d others)
  | cons c rest ih =>
      cases ds with
      | nil => exact absurd same (nonempty c rest)
      | cons d others =>
          obtain ⟨rfl, behind⟩ := codeUnits_append_inj same
          rw [ih behind]

/-! ## Escapes -/

def hexNumber? (digits : List Char) : Option Nat :=
  (digits.mapM Json.hexValue?).map fun values => values.foldl (fun code value => code * 16 + value) 0

/-- An escape by so many digits. Four digits make a single code unit. -/
def readCode (count : Nat) (cs : List Char) : Option (List Nat × List Char) :=
  if cs.length < count then none
  else (hexNumber? (cs.take count)).map fun code => (codeUnits code, cs.drop count)

/-- An escape by the digits of a code point up to a closing brace. -/
def readCodePoint (cs : List Char) : Option (List Nat × List Char) :=
  match Text.splitOnce? '\x7d' cs with
  | none => none
  | some (digits, behind) =>
      (hexNumber? digits).bind fun code =>
        if digits.isEmpty || 0x10FFFF < code then none else some (codeUnits code, behind)

def controlLetters : List (Char × Char) :=
  [('b', '\x08'), ('t', '\t'), ('n', '\n'), ('v', '\x0b'), ('f', '\x0c'), ('r', '\r')]

/-- What an escape stands for, read after its backslash, and what follows it. A line terminator is
passed over, together with a line feed after a carriage return. The digits of ASCII begin no escape,
but for a zero that no digit follows. Other characters stand for themselves. -/
def readEscape : List Char → Option (List Nat × List Char)
  | [] => none
  | c :: rest =>
      if c = '\r' then some ([], rest.drop (if rest.head? = some '\n' then 1 else 0))
      else if isLineTerminator c then some ([], rest)
      else if c = 'u' then
        match rest with
        | '\x7b' :: digits => readCodePoint digits
        | digits => readCode 4 digits
      else if c = 'x' then readCode 2 rest
      else if c = '0' ∧ startsWithDigit rest = false then some ([0], rest)
      else if c.isDigit then none
      else some (codeUnits ((controlLetters.lookup c).getD c).toNat, rest)

example : readEscape "u\x7b1F600\x7d".toList = some ([0xD83D, 0xDE00], []) := by decide

theorem length_of_readCode {count : Nat} {cs behind : List Char} {units : List Nat}
    (read : readCode count cs = some (units, behind)) : behind.length ≤ cs.length := by
  unfold readCode at read
  split at read
  · cases read
  · obtain ⟨_, -, same⟩ := Option.map_eq_some_iff.mp read
    cases same
    rw [List.length_drop]
    exact Nat.sub_le _ _

theorem length_of_readCodePoint {cs behind : List Char} {units : List Nat}
    (read : readCodePoint cs = some (units, behind)) : behind.length ≤ cs.length := by
  unfold readCodePoint at read
  split at read
  · cases read
  · rename_i digits after cut
    obtain ⟨code, -, same⟩ := Option.bind_eq_some_iff.mp read
    split at same
    · cases same
    · cases same
      rw [Text.eq_of_splitOnce? cut, List.length_append, List.length_cons]
      omega

theorem length_of_readEscape {cs behind : List Char} {units : List Nat}
    (read : readEscape cs = some (units, behind)) : behind.length < cs.length := by
  revert read
  fun_cases readEscape cs with
  | case1 => intro read; cases read
  | case2 rest =>
      intro read
      cases read
      rw [List.length_cons, List.length_drop]
      exact Nat.lt_succ_of_le (Nat.sub_le _ _)
  | case3 c rest =>
      intro read
      cases read
      exact Nat.lt_succ_self _
  | case4 digits =>
      intro read
      exact Nat.lt_succ_of_le (Nat.le_succ_of_le (length_of_readCodePoint read))
  | case5 digits =>
      intro read
      exact Nat.lt_succ_of_le (length_of_readCode read)
  | case6 rest =>
      intro read
      exact Nat.lt_succ_of_le (length_of_readCode read)
  | case7 c rest =>
      intro read
      cases read
      exact Nat.lt_succ_self _
  | case8 => intro read; cases read
  | case9 c rest =>
      intro read
      cases read
      exact Nat.lt_succ_self _

/-! ## Literals -/

/-- Reads a literal after its opening quote: its value up to the closing quote, and what follows
it. No line terminator stands in a literal but behind a backslash. -/
def readLiteral : List Char → Option (List Nat × List Char)
  | [] => none
  | c :: rest =>
      if c = '\'' then some ([], rest)
      else if isLineTerminator c then none
      else if c = '\\' then
        match _escape : readEscape rest with
        | none => none
        | some (units, behind) =>
            (readLiteral behind).map fun (value, after) => (units ++ value, after)
      else (readLiteral rest).map fun (value, after) => (codeUnits c.toNat ++ value, after)
termination_by cs => cs.length
decreasing_by
  · have shorter := length_of_readEscape _escape
    simp only [List.length_cons]
    omega
  · simp

theorem toNat_ofNat {code : Nat} (valid : code.isValidChar) : (Char.ofNat code).toNat = code := by
  have same : Char.ofNat code = Char.ofNatAux code valid := dif_pos valid
  rw [same]
  rfl

theorem hexNumber?_of_codeChar? {digits : List Char} {char : Char}
    (found : codeChar? digits = some char) : hexNumber? digits = some char.toNat := by
  obtain ⟨values, read, valid⟩ := Option.bind_eq_some_iff.mp found
  rw [hexNumber?, read, Option.map_some]
  dsimp only at valid
  split at valid
  · rename_i isValid
    cases valid
    rw [toNat_ofNat isValid]
  · cases valid

theorem readEscape_of_codeChar? {a b d e char : Char} {rest : List Char}
    (found : codeChar? [a, b, d, e] = some char) :
    readEscape ('u' :: a :: b :: d :: e :: rest) = some (codeUnits char.toNat, rest) := by
  have number := hexNumber?_of_codeChar? found
  have noBrace : a ≠ '\x7b' := by
    rintro rfl
    cases number
  have read : readCode 4 (a :: b :: d :: e :: rest) = some (codeUnits char.toNat, rest) := by
    simp [readCode, number]
  rw [← read, readEscape.eq_def]
  simp [isLineTerminator, noBrace]

theorem readEscape_of_escape? {e char : Char} {rest : List Char} (found : escape? e = some char) :
    readEscape (e :: rest) = some (codeUnits char.toNat, rest) := by
  unfold escape? at found
  repeat' split at found
  · subst e
    cases found
    rfl
  · subst e
    cases found
    rfl
  · subst e
    cases found
    rfl
  · cases found
  · rename_i neither
    cases found
    have other : ∀ c : Char, (c.isAlphanum || isLineTerminator c) = true → e ≠ c := by
      rintro c special rfl
      exact neither special
    obtain ⟨noLetter, noBreak⟩ := not_or.mp (mt (Bool.or_eq_true _ _).mpr neither)
    have noDigit : ¬ e.isDigit = true := by
      intro digit
      rw [Char.isAlphanum, digit, Bool.or_true] at noLetter
      exact noLetter rfl
    have itself : controlLetters.lookup e = none := by
      have letters : ∀ entry ∈ controlLetters,
          (entry.1.isAlphanum || isLineTerminator entry.1) = true := by decide
      rw [List.lookup_eq_none_iff]
      intro entry listed
      exact bne_iff_ne.mpr (other entry.1 (letters entry listed))
    rw [readEscape.eq_def]
    dsimp only
    rw [if_neg (other '\r' (by decide)), if_neg noBreak, if_neg (other 'u' (by decide)),
      if_neg (other 'x' (by decide)), if_neg fun zero => other '0' (by decide) zero.1,
      if_neg noDigit, itself]
    rfl

theorem readLiteral_escape {cs behind after : List Char} {units value : List Nat}
    (escape : readEscape cs = some (units, behind))
    (read : readLiteral behind = some (value, after)) :
    readLiteral ('\\' :: cs) = some (units ++ value, after) := by
  rw [readLiteral, if_neg (by decide), if_neg (by decide), if_pos rfl]
  split
  · rename_i refused
    rw [escape] at refused
    cases refused
  · rename_i found
    cases escape.symm.trans found
    rw [read]
    rfl

/-- The reader of string literals goes by these rules. -/
theorem readLiteral_of_readString {input text rest : List Char}
    (read : readString input = some (text, rest)) :
    readLiteral input = some (stringValue text, rest) := by
  fun_induction readString input generalizing text with
  | case1 => cases read
  | case2 after =>
      cases read
      rw [readLiteral]
      rfl
  | case3 => cases read
  | case4 a b d e after closed line ih =>
      obtain ⟨char, found, same⟩ := Option.bind_eq_some_iff.mp read
      obtain ⟨behind, later, rfl⟩ := exists_of_map_inFront same
      exact readLiteral_escape (readEscape_of_codeChar? found) (ih later)
  | case5 e after other closed line ih =>
      obtain ⟨char, found, same⟩ := Option.bind_eq_some_iff.mp read
      obtain ⟨behind, later, rfl⟩ := exists_of_map_inFront same
      exact readLiteral_escape (readEscape_of_escape? found) (ih later)
  | case6 => cases read
  | case7 c after closed line escape ih =>
      obtain ⟨behind, later, rfl⟩ := exists_of_map_inFront read
      rw [readLiteral, if_neg closed, if_neg line, if_neg escape, ih later]
      rfl

/-! ## Single literals -/

/-- The characters that no backslash escapes. -/
def unescaped : List Char → List Char
  | '\\' :: _ :: rest => unescaped rest
  | c :: rest => c :: unescaped rest
  | [] => []

/-- A text is one single-quoted literal with a given value: behind the opening quote, no quote and
no line terminator is unescaped but the quote at the end, and the value is read up to there. -/
def IsLiteralOf (text value : String) : Prop :=
  ∃ inner, text.toList = '\'' :: (inner ++ ['\'']) ∧
    unescaped (inner ++ ['\'']) = unescaped inner ++ ['\''] ∧
    (∀ c ∈ unescaped inner, c ≠ '\'' ∧ isLineTerminator c = false) ∧
    readLiteral (inner ++ ['\'']) = some (stringValue value.toList, [])

/-- A character is escaped as a whole: its backslash escapes nothing behind it. -/
theorem unescaped_escapedChar (c : Char) :
    ∃ kept, (∀ d ∈ kept, d ≠ '\'' ∧ isLineTerminator d = false) ∧
      ∀ tail, unescaped (escapedChar c ++ tail) = kept ++ unescaped tail := by
  by_cases special : c ∈ specialChars
  · have digits : (specialChars.flatMap fun c => (escapedChar c).drop 2).all
        (fun d => d != '\'' && !isLineTerminator d) = true := by decide
    refine ⟨(escapedChar c).drop 2, fun d member => ?_, fun tail => ?_⟩
    · have safe := List.all_eq_true.mp digits d (List.mem_flatMap.mpr ⟨c, special, member⟩)
      simpa using safe
    · simp only [specialChars, List.mem_cons, List.not_mem_nil, or_false] at special
      rcases special with rfl | rfl | rfl | rfl | rfl | rfl <;> rfl
  · obtain ⟨backslash, mark, line⟩ := by simpa only [mem_specialChars_iff, not_or] using special
    refine ⟨[c], ?_, fun tail => ?_⟩
    · exact List.forall_mem_singleton.mpr ⟨mark, Bool.eq_false_iff.mpr line⟩
    · rw [escapedChar_eq_self special, List.singleton_append, unescaped]
      · rfl
      · exact fun _ _ same => absurd same backslash

theorem unescaped_escaped (cs : List Char) :
    ∃ kept, (∀ d ∈ kept, d ≠ '\'' ∧ isLineTerminator d = false) ∧
      ∀ tail, unescaped (cs.flatMap escapedChar ++ tail) = kept ++ unescaped tail := by
  induction cs with
  | nil => exact ⟨[], by simp, fun tail => rfl⟩
  | cons c rest ih =>
      obtain ⟨first, safe, split⟩ := unescaped_escapedChar c
      obtain ⟨others, safeOthers, splitOthers⟩ := ih
      refine ⟨first ++ others, fun d member => ?_, fun tail => ?_⟩
      · exact (List.mem_append.mp member).elim (safe d) (safeOthers d)
      · rw [List.flatMap_cons, List.append_assoc, split, splitOthers, List.append_assoc]

theorem isLiteralOf_quote (s : String) : IsLiteralOf (quote s) s := by
  obtain ⟨kept, safe, split⟩ := unescaped_escaped s.toList
  have inner : unescaped (s.toList.flatMap escapedChar) = kept := by
    have whole := split []
    rwa [List.append_nil, unescaped, List.append_nil] at whole
  refine ⟨s.toList.flatMap escapedChar, toList_quote s, ?_, ?_, ?_⟩
  · rw [split, inner]
    rfl
  · rw [inner]
    exact safe
  · exact readLiteral_of_readString (readString_escaped s.toList [])

/-! ## Keys -/

/-- The value of a key in an object type, which is a literal or an identifier. -/
def keyValue? (key : String) : Option (List Nat) :=
  match key.toList with
  | '\'' :: inner =>
      match readLiteral inner with
      | some (value, []) => some value
      | _ => none
  | cs => if isIdentifier cs then some (stringValue cs) else none

theorem keyValue?_of_isLiteralOf {text value : String} (literal : IsLiteralOf text value) :
    keyValue? text = some (stringValue value.toList) := by
  obtain ⟨inner, written, -, -, read⟩ := literal
  simp only [keyValue?, written, read]

theorem keyValue?_of_isIdentifier {name : String} (identifier : isIdentifier name.toList = true) :
    keyValue? name = some (stringValue name.toList) := by
  unfold keyValue?
  split
  · rename_i inner same
    rw [same] at identifier
    cases identifier
  · rw [if_pos identifier]

theorem quoteIfNeeded_of_isIdentifier {name : String}
    (identifier : isIdentifier name.toList = true) : quoteIfNeeded name = name := by
  rw [quoteIfNeeded, needsQuoting, identifier]
  rfl

theorem quoteIfNeeded_of_not {name : String} (other : ¬ isIdentifier name.toList = true) :
    quoteIfNeeded name = quote name := by
  rw [quoteIfNeeded, needsQuoting, Bool.eq_false_iff.mpr other]
  rfl

theorem keyValue?_quoteIfNeeded (name : String) :
    keyValue? (quoteIfNeeded name) = some (stringValue name.toList) := by
  by_cases identifier : isIdentifier name.toList = true
  · rw [quoteIfNeeded_of_isIdentifier identifier]
    exact keyValue?_of_isIdentifier identifier
  · rw [quoteIfNeeded_of_not identifier]
    exact keyValue?_of_isLiteralOf (isLiteralOf_quote name)

/-- Escaping shortens no text. -/
theorem length_le_escaped (cs : List Char) : cs.length ≤ (cs.flatMap escapedChar).length := by
  have nonempty : ∀ c, 0 < (escapedChar c).length := by
    intro c
    unfold escapedChar
    repeat' split
    all_goals exact Nat.succ_pos _
  induction cs with
  | nil => exact Nat.le_refl _
  | cons c rest ih =>
      have first := nonempty c
      rw [List.flatMap_cons, List.length_append, List.length_cons]
      omega

/-- A name that is its own key is an identifier: a literal is longer than the text in it. -/
theorem quoteIfNeeded_eq_self_iff (name : String) :
    quoteIfNeeded name = name ↔ IsAsciiIdentifier name := by
  rw [← isIdentifier_iff]
  refine ⟨fun same => Decidable.byContradiction fun other => ?_, quoteIfNeeded_of_isIdentifier⟩
  rw [quoteIfNeeded_of_not other] at same
  have length := congrArg List.length (toList_quote name)
  have inside := length_le_escaped name.toList
  rw [same, List.length_cons, List.length_append] at length
  omega

/-- The literal of a text is a single literal whose value is the text. A key is either such a
literal or the name itself, the latter exactly for identifiers, and its value is the name in both
cases; so keys are the same only for one name. -/
theorem quote_and_key_decode (s t : String) :
    IsLiteralOf (quote s) s ∧
      (quoteIfNeeded s = s ∨ IsLiteralOf (quoteIfNeeded s) s) ∧
      (quoteIfNeeded s = s ↔ IsAsciiIdentifier s) ∧
      keyValue? (quoteIfNeeded s) = some (stringValue s.toList) ∧
      (keyValue? (quoteIfNeeded s) = keyValue? (quoteIfNeeded t) ↔ s = t) := by
  refine ⟨isLiteralOf_quote s, ?_, quoteIfNeeded_eq_self_iff s, keyValue?_quoteIfNeeded s, ?_⟩
  · by_cases identifier : isIdentifier s.toList = true
    · exact .inl (quoteIfNeeded_of_isIdentifier identifier)
    · rw [quoteIfNeeded_of_not identifier]
      exact .inr (isLiteralOf_quote s)
  · rw [keyValue?_quoteIfNeeded, keyValue?_quoteIfNeeded, Option.some.injEq]
    exact ⟨fun same => String.toList_inj.mp (stringValue_injective same), fun same => same ▸ rfl⟩

end ClientGen.TypeScript
