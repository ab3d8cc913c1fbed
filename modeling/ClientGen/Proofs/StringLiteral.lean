import ClientGen.Json.Reader
import ClientGen.TypeScript.Literal

/-!
# Reading string literals

Single-quoted literals of the language, read by its escape rules. A literal that is written for a
text is read back as that text, whatever characters the text holds.
-/

namespace ClientGen.TypeScript

def isLineTerminator (c : Char) : Bool :=
  c == '\n' || c == '\r' || c == '\u2028' || c == '\u2029'

/-- The character that a backslash and the given character stand for. Escapes that continue with
digits, and those of rare control characters, are not among them. -/
def escape? (c : Char) : Option Char :=
  if c = 'n' then some '\n'
  else if c = 'r' then some '\r'
  else if c = 't' then some '\t'
  else if c.isAlphanum || isLineTerminator c then none
  else some c

/-- The character with the code of four hexadecimal digits. -/
def codeChar? (digits : List Char) : Option Char := do
  let values ← digits.mapM Json.hexValue?
  let code := values.foldl (fun code value => code * 16 + value) 0
  if code.isValidChar then some (Char.ofNat code) else none

def inFront (c : Char) : List Char × List Char → List Char × List Char
  | (text, rest) => (c :: text, rest)

/-- Reads a literal after its opening quote: the text up to the closing quote, and what follows
it. -/
def readString : List Char → Option (List Char × List Char)
  | [] => none
  | c :: rest =>
      if c = '\'' then some ([], rest)
      else if isLineTerminator c then none
      else if c = '\\' then
        match rest with
        | 'u' :: a :: b :: d :: e :: rest =>
            (codeChar? [a, b, d, e]).bind fun char => (readString rest).map (inFront char)
        | e :: rest => (escape? e).bind fun char => (readString rest).map (inFront char)
        | [] => none
      else (readString rest).map (inFront c)

/-- The characters that do not stand for themselves inside a literal. -/
def specialChars : List Char := ['\\', '\'', '\n', '\r', '\u2028', '\u2029']

theorem mem_specialChars_iff {c : Char} :
    c ∈ specialChars ↔ c = '\\' ∨ c = '\'' ∨ isLineTerminator c = true := by
  simp [specialChars, isLineTerminator, or_assoc]

theorem escapedChar_eq_self {c : Char} (plain : c ∉ specialChars) : escapedChar c = [c] := by
  simp only [specialChars, List.mem_cons, not_or] at plain
  simp [escapedChar, plain]

/-- The characters that stand for one inside a literal are read as that one. -/
theorem readString_escapedChar (c : Char) (tail : List Char) :
    readString (escapedChar c ++ tail) = (readString tail).map (inFront c) := by
  by_cases special : c ∈ specialChars
  · simp only [specialChars, List.mem_cons, List.not_mem_nil, or_false] at special
    rcases special with rfl | rfl | rfl | rfl | rfl | rfl <;> rfl
  · rw [escapedChar_eq_self special, List.singleton_append, readString.eq_def]
    obtain ⟨backslash, mark, line⟩ := by simpa only [mem_specialChars_iff, not_or] using special
    dsimp only
    rw [if_neg mark, if_neg line, if_neg backslash]

theorem exists_of_map_inFront {c : Char} {read : Option (List Char × List Char)}
    {text rest : List Char} (same : read.map (inFront c) = some (text, rest)) :
    ∃ behind, read = some (behind, rest) ∧ text = c :: behind := by
  obtain ⟨⟨behind, left⟩, found, split⟩ := Option.map_eq_some_iff.mp same
  cases split
  exact ⟨behind, found, rfl⟩

theorem length_of_readString {input text rest : List Char}
    (read : readString input = some (text, rest)) : rest.length < input.length := by
  fun_induction readString input generalizing text with
  | case1 => cases read
  | case2 =>
      cases read
      simp
  | case3 => cases read
  | case4 a b d e after closed line ih =>
      obtain ⟨char, -, same⟩ := Option.bind_eq_some_iff.mp read
      obtain ⟨behind, found, -⟩ := exists_of_map_inFront same
      have shorter := ih found
      simp only [List.length_cons]
      omega
  | case5 e after other closed line ih =>
      obtain ⟨char, -, same⟩ := Option.bind_eq_some_iff.mp read
      obtain ⟨behind, found, -⟩ := exists_of_map_inFront same
      have shorter := ih found
      simp only [List.length_cons]
      omega
  | case6 => cases read
  | case7 c after closed line escape ih =>
      obtain ⟨behind, found, -⟩ := exists_of_map_inFront read
      have shorter := ih found
      simp only [List.length_cons]
      omega

theorem readString_escaped (cs rest : List Char) :
    readString (cs.flatMap escapedChar ++ '\'' :: rest) = some (cs, rest) := by
  induction cs with
  | nil =>
      rw [List.flatMap_nil, List.nil_append, readString.eq_def]
      rfl
  | cons c tail ih =>
      rw [List.flatMap_cons, List.append_assoc, readString_escapedChar, ih]
      rfl

theorem toList_quote (s : String) :
    (quote s).toList = '\'' :: (s.toList.flatMap escapedChar ++ ['\'']) := by
  rw [quote, String.toList_append, String.toList_append, escapeString,
    @String.toList_ofList (s.toList.flatMap escapedChar)]
  rfl

/-- A literal is a quote, and then what is read back as the text it was written for. -/
theorem readString_quote (s : String) (rest : List Char) :
    ∃ inner, (quote s).toList ++ rest = '\'' :: inner ∧ readString inner = some (s.toList, rest) := by
  refine ⟨s.toList.flatMap escapedChar ++ '\'' :: rest, ?_, readString_escaped s.toList rest⟩
  rw [toList_quote, List.cons_append, List.append_assoc]
  rfl

/-- Texts with the same literal are the same. -/
theorem quote_injective {s t : String} (same : quote s = quote t) : s = t := by
  obtain ⟨inner, written, read⟩ := readString_quote s []
  obtain ⟨inner', written', read'⟩ := readString_quote t []
  rw [same, written'] at written
  cases written
  rw [read] at read'
  exact String.toList_inj.mp (congrArg Prod.fst (Option.some.inj read'))

end ClientGen.TypeScript
