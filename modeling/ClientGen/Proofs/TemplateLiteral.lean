import ClientGen.Operation.Call
import ClientGen.Operation.Url
import ClientGen.Proofs.LiteralValue
import Mathlib.Data.Nat.Init

/-!
# Template literals

The path of a request is written between backquotes. Its own backquotes are escaped, and nothing
else is. Here template literals are read by the rules of the language: a backslash begins an escape,
a dollar sign with a brace opens a hole, and a carriage return stands for a line feed. The main
statement says exactly which paths are read back as they are, and that escaping a backquote works
exactly behind an even number of backslashes.
-/

namespace ClientGen

theorem Text.replaceFrom_single (mark : Char) (replacement cs : List Char) :
    replaceFrom [mark] replacement 0 cs =
      cs.flatMap fun c => if c = mark then replacement else [c] := by
  induction cs with
  | nil => rfl
  | cons c rest ih =>
      rw [List.flatMap_cons, ← ih, replaceFrom, dropStart?]
      by_cases same : c = mark
      · rw [if_pos same, if_pos same.symm]
        rfl
      · rw [if_neg same, if_neg (Ne.symm same)]
        rfl

namespace TypeScript

/-! ## Reading template literals -/

/-- What ends a stretch of text in a template literal: the backquote that closes the literal, or the
opening of a hole. -/
inductive TextEnd where
  | closing
  | hole

/-- Code units in front of a stretch of text that is read. -/
def behindUnits (units : List Nat) :
    List Nat × TextEnd × List Char → List Nat × TextEnd × List Char
  | (value, ending) => (units ++ value, ending)

/-- Reads a stretch of text in a template literal: its value, what ends it, and what follows. Line
breaks may stand in the text, but a carriage return is a line feed there, also together with a line
feed behind it. -/
def readTemplate : List Char → Option (List Nat × TextEnd × List Char)
  | [] => none
  | c :: rest =>
      if c = '\x60' then some ([], .closing, rest)
      else if c = '\\' then
        match _escape : readEscape rest with
        | none => none
        | some (units, behind) => (readTemplate behind).map (behindUnits units)
      else if c = '$' ∧ rest.head? = some '\x7b' then some ([], .hole, rest.drop 1)
      else if c = '\r' then
        (readTemplate (rest.drop (if rest.head? = some '\n' then 1 else 0))).map
          (behindUnits (codeUnits '\n'.toNat))
      else (readTemplate rest).map (behindUnits (codeUnits c.toNat))
termination_by cs => cs.length
decreasing_by
  · have shorter := length_of_readEscape _escape
    simp only [List.length_cons]
    omega
  · simp only [List.length_cons, List.length_drop]
    omega
  · simp

/-- A text is a template literal without holes, and its value is the given text. -/
def IsTemplateOf (text value : String) : Prop :=
  ∃ inner, text.toList = '\x60' :: inner ∧
    readTemplate inner = some (stringValue value.toList, .closing, [])

/-- A text that is read as it stands in a template literal, but for its backquotes: it holds no
backslash and no carriage return, and opens no hole. -/
structure StandsForItself (cs : List Char) : Prop where
  backslash : '\\' ∉ cs
  carriageReturn : '\r' ∉ cs
  hole : ¬ ['$', '\x7b'] <:+: cs

def backquotesEscaped (cs : List Char) : List Char :=
  cs.flatMap fun c => if c = '\x60' then ['\\', '\x60'] else [c]

theorem backquotesEscaped_append (first second : List Char) :
    backquotesEscaped (first ++ second) = backquotesEscaped first ++ backquotesEscaped second :=
  List.flatMap_append

theorem backquotesEscaped_cons_of_ne {c : Char} (other : c ≠ '\x60') (rest : List Char) :
    backquotesEscaped (c :: rest) = c :: backquotesEscaped rest := by
  rw [backquotesEscaped, List.flatMap_cons, if_neg other]
  rfl

theorem standsForItself_cons_iff {c : Char} {rest : List Char} :
    StandsForItself (c :: rest) ↔
      c ≠ '\\' ∧ c ≠ '\r' ∧ ¬ (c = '$' ∧ rest.head? = some '\x7b') ∧ StandsForItself rest := by
  have opening : ['$', '\x7b'] <+: c :: rest ↔ c = '$' ∧ rest.head? = some '\x7b' := by
    cases rest with
    | nil => simp
    | cons d others => simp [List.cons_prefix_cons, eq_comm]
  constructor
  · rintro ⟨backslash, carriageReturn, hole⟩
    rw [List.infix_cons_iff, opening, not_or] at hole
    rw [List.mem_cons, not_or] at backslash carriageReturn
    exact ⟨Ne.symm backslash.1, Ne.symm carriageReturn.1, hole.1, backslash.2, carriageReturn.2,
      hole.2⟩
  · rintro ⟨noBackslash, noReturn, noOpening, backslash, carriageReturn, hole⟩
    refine ⟨?_, ?_, ?_⟩
    · exact List.not_mem_cons_of_ne_of_not_mem (Ne.symm noBackslash) backslash
    · exact List.not_mem_cons_of_ne_of_not_mem (Ne.symm noReturn) carriageReturn
    · rw [List.infix_cons_iff, opening, not_or]
      exact ⟨noOpening, hole⟩

/-! ## Single steps -/

theorem readTemplate_closing (rest : List Char) :
    readTemplate ('\x60' :: rest) = some ([], .closing, rest) := by
  rw [readTemplate, if_pos rfl]

theorem readTemplate_escape {cs behind : List Char} {units : List Nat}
    (escape : readEscape cs = some (units, behind)) :
    readTemplate ('\\' :: cs) = (readTemplate behind).map (behindUnits units) := by
  rw [readTemplate, if_neg (by decide), if_pos rfl]
  split
  · rename_i refused
    rw [escape] at refused
    cases refused
  · rename_i found
    cases escape.symm.trans found
    rfl

/-- An escaped backquote does not close the literal. -/
theorem readTemplate_backquote (rest : List Char) :
    readTemplate ('\\' :: '\x60' :: rest) =
      (readTemplate rest).map (behindUnits (codeUnits '\x60'.toNat)) :=
  readTemplate_escape rfl

/-- Two backslashes stand for one, which escapes nothing. -/
theorem readTemplate_backslash (rest : List Char) :
    readTemplate ('\\' :: '\\' :: rest) =
      (readTemplate rest).map (behindUnits (codeUnits '\\'.toNat)) :=
  readTemplate_escape rfl

theorem readTemplate_hole (rest : List Char) :
    readTemplate ('$' :: '\x7b' :: rest) = some ([], .hole, rest) := by
  rw [readTemplate, if_neg (by decide), if_neg (by decide), if_pos ⟨rfl, rfl⟩]
  rfl

theorem readTemplate_return (rest : List Char) :
    readTemplate ('\r' :: rest) =
      (readTemplate (rest.drop (if rest.head? = some '\n' then 1 else 0))).map
        (behindUnits (codeUnits '\n'.toNat)) := by
  rw [readTemplate, if_neg (by decide), if_neg (by decide), if_neg (by simp), if_pos rfl]

theorem readTemplate_copy {c : Char} {rest : List Char} (noBackquote : c ≠ '\x60')
    (noBackslash : c ≠ '\\') (noReturn : c ≠ '\r')
    (noOpening : ¬ (c = '$' ∧ rest.head? = some '\x7b')) :
    readTemplate (c :: rest) = (readTemplate rest).map (behindUnits (codeUnits c.toNat)) := by
  rw [readTemplate, if_neg noBackquote, if_neg noBackslash, if_neg noOpening, if_neg noReturn]

theorem behindUnits_append (first second : List Nat) :
    behindUnits first ∘ behindUnits second = behindUnits (first ++ second) := by
  funext ⟨value, ending⟩
  simp only [Function.comp_apply, behindUnits, List.append_assoc]

theorem exists_of_map_behindUnits {read : Option (List Nat × TextEnd × List Char)}
    {first units : List Nat} {ending : TextEnd × List Char}
    (same : read.map (behindUnits first) = some (units, ending)) :
    ∃ value, read = some (value, ending) ∧ units = first ++ value := by
  obtain ⟨⟨value, found⟩, read, same⟩ := Option.map_eq_some_iff.mp same
  cases same
  exact ⟨value, read, rfl⟩

theorem exists_map_behindUnits_iff {read : Option (List Nat × TextEnd × List Char)}
    {first : List Nat} {ending : TextEnd × List Char} :
    (∃ units, read.map (behindUnits first) = some (units, ending)) ↔
      ∃ units, read = some (units, ending) := by
  constructor
  · rintro ⟨units, same⟩
    obtain ⟨value, found, -⟩ := exists_of_map_behindUnits same
    exact ⟨value, found⟩
  · rintro ⟨units, same⟩
    exact ⟨first ++ units, by rw [same]; rfl⟩

theorem head?_backquotesEscaped_append {rest tail : List Char}
    (seam : tail.head? ≠ some '\x7b') (noBrace : rest.head? ≠ some '\x7b') :
    (backquotesEscaped rest ++ tail).head? ≠ some '\x7b' := by
  cases rest with
  | nil => exact seam
  | cons d others =>
      by_cases backquote : d = '\x60'
      · subst backquote
        exact fun brace => by cases brace
      · rw [backquotesEscaped_cons_of_ne backquote]
        exact noBrace

theorem readTemplate_backquotesEscaped_cons {c : Char} {rest tail : List Char}
    (noBackslash : c ≠ '\\') (noReturn : c ≠ '\r')
    (noOpening : ¬ (c = '$' ∧ rest.head? = some '\x7b')) (seam : tail.head? ≠ some '\x7b') :
    readTemplate (backquotesEscaped (c :: rest) ++ tail) =
      (readTemplate (backquotesEscaped rest ++ tail)).map (behindUnits (codeUnits c.toNat)) := by
  by_cases backquote : c = '\x60'
  · subst backquote
    exact readTemplate_backquote _
  · rw [backquotesEscaped_cons_of_ne backquote]
    apply readTemplate_copy backquote noBackslash noReturn
    rintro ⟨dollar, brace⟩
    exact head?_backquotesEscaped_append seam (fun given => noOpening ⟨dollar, given⟩) brace

/-- A text that stands for itself is read in front of what follows it. -/
theorem readTemplate_append {text : List Char} (plain : StandsForItself text) {tail : List Char}
    (seam : tail.head? ≠ some '\x7b') :
    readTemplate (backquotesEscaped text ++ tail) =
      (readTemplate tail).map (behindUnits (stringValue text)) := by
  induction text with
  | nil => exact Option.map_id'.symm
  | cons c rest ih =>
      obtain ⟨noBackslash, noReturn, noOpening, plainRest⟩ := standsForItself_cons_iff.mp plain
      rw [readTemplate_backquotesEscaped_cons noBackslash noReturn noOpening seam, ih plainRest,
        Option.map_map, behindUnits_append]
      rfl

/-! ## What a text costs -/

theorem length_codeUnits (code : Nat) :
    1 ≤ (codeUnits code).length ∧ (codeUnits code).length ≤ 2 := by
  unfold codeUnits
  split <;> simp

theorem stringValue_append (first second : List Char) :
    stringValue (first ++ second) = stringValue first ++ stringValue second :=
  List.flatMap_append

theorem stringValue_cons (c : Char) (rest : List Char) :
    stringValue (c :: rest) = codeUnits c.toNat ++ stringValue rest :=
  List.flatMap_cons

theorem length_le_stringValue (cs : List Char) : cs.length ≤ (stringValue cs).length := by
  induction cs with
  | nil => exact Nat.le_refl _
  | cons c rest ih =>
      have first := (length_codeUnits c.toNat).1
      rw [stringValue_cons, List.length_append, List.length_cons]
      omega

def literalMarks (cs : List Char) : Nat :=
  cs.countP fun c => c == '\x60' || c == '\\'

theorem literalMarks_append (first second : List Char) :
    literalMarks (first ++ second) = literalMarks first + literalMarks second :=
  List.countP_append

theorem literalMarks_cons (c : Char) (rest : List Char) :
    literalMarks (c :: rest) = literalMarks rest + if c = '\x60' ∨ c = '\\' then 1 else 0 := by
  rw [literalMarks, List.countP_cons]
  simp only [Bool.or_eq_true, beq_iff_eq]
  rfl

theorem literalMarks_le_length (cs : List Char) : literalMarks cs ≤ cs.length :=
  List.countP_le_length

theorem cost_of_readCode {count : Nat} {cs behind : List Char} {units : List Nat}
    (read : readCode count cs = some (units, behind)) :
    ∃ digits, cs = digits ++ behind ∧ digits.length = count ∧ units.length ≤ 2 := by
  unfold readCode at read
  split at read
  · cases read
  · rename_i enough
    obtain ⟨code, -, same⟩ := Option.map_eq_some_iff.mp read
    cases same
    refine ⟨cs.take count, (List.take_append_drop count cs).symm, ?_, (length_codeUnits code).2⟩
    rw [List.length_take]
    omega

theorem cost_of_readCodePoint {cs behind : List Char} {units : List Nat}
    (read : readCodePoint cs = some (units, behind)) :
    ∃ digits, cs = digits ++ '\x7d' :: behind ∧ units.length ≤ 2 := by
  unfold readCodePoint at read
  split at read
  · cases read
  · rename_i digits after cut
    obtain ⟨code, -, same⟩ := Option.bind_eq_some_iff.mp read
    split at same
    · cases same
    · cases same
      exact ⟨digits, Text.eq_of_splitOnce? cut, (length_codeUnits code).2⟩

theorem length_codeUnits_control (c : Char) :
    (codeUnits ((controlLetters.lookup c).getD c).toNat).length ≤ (codeUnits c.toNat).length := by
  cases found : controlLetters.lookup c with
  | none => exact Nat.le_refl _
  | some control =>
      have single : ∀ entry ∈ controlLetters, (codeUnits entry.2.toNat).length = 1 := by decide
      obtain ⟨before, after, split, -⟩ := List.lookup_eq_some_iff.mp found
      have listed : (c, control) ∈ controlLetters := by
        rw [split]
        exact List.mem_append_right _ List.mem_cons_self
      rw [Option.getD_some, single _ listed]
      exact (length_codeUnits c.toNat).1

/-- What an escape stands for has no more code units than what is read for it behind the
backslash, and fewer if that is more than a character. -/
theorem cost_of_readEscape {cs behind : List Char} {units : List Nat}
    (read : readEscape cs = some (units, behind)) :
    ∃ consumed, cs = consumed ++ behind ∧
      2 * units.length + consumed.length ≤ 2 * (stringValue consumed).length + 1 := by
  have weight := length_le_stringValue
  -- Enough characters outweigh the two code units that a code has at most.
  have long : ∀ consumed : List Char, 3 ≤ consumed.length → units.length ≤ 2 →
      2 * units.length + consumed.length ≤ 2 * (stringValue consumed).length + 1 := by
    intro consumed _ _
    have := weight consumed
    omega
  revert read
  fun_cases readEscape cs with
  | case1 => intro read; cases read
  | case2 rest =>
      intro read
      cases read
      refine ⟨'\r' :: rest.take (if rest.head? = some '\n' then 1 else 0), ?_, ?_⟩
      · rw [List.cons_append, List.take_append_drop]
      · have := weight ('\r' :: rest.take (if rest.head? = some '\n' then 1 else 0))
        simp only [List.length_nil]
        omega
  | case3 c rest =>
      intro read
      cases read
      refine ⟨[c], rfl, ?_⟩
      have := weight [c]
      simp only [List.length_nil]
      omega
  | case4 digits =>
      intro read
      obtain ⟨digits, rfl, few⟩ := cost_of_readCodePoint read
      refine ⟨'u' :: '\x7b' :: (digits ++ ['\x7d']), by simp, long _ ?_ few⟩
      simp
  | case5 digits =>
      intro read
      obtain ⟨digits, rfl, length, few⟩ := cost_of_readCode read
      refine ⟨'u' :: digits, rfl, long _ ?_ few⟩
      rw [List.length_cons]
      omega
  | case6 rest =>
      intro read
      obtain ⟨digits, rfl, length, few⟩ := cost_of_readCode read
      refine ⟨'x' :: digits, rfl, long _ ?_ few⟩
      rw [List.length_cons]
      omega
  | case7 c rest =>
      intro read
      cases read
      refine ⟨[c], rfl, ?_⟩
      have := weight [c]
      simp only [List.length_singleton] at this ⊢
      omega
  | case8 => intro read; cases read
  | case9 c rest =>
      intro read
      cases read
      refine ⟨[c], rfl, ?_⟩
      have := length_codeUnits_control c
      rw [stringValue, List.flatMap_singleton, List.length_singleton]
      omega

/-- Every backquote inside of a literal takes a backslash in front of it, and both together stand
for one code unit. Other escapes take more characters than they stand for. -/
theorem cost_of_readTemplate {cs after : List Char} {units : List Nat}
    (read : readTemplate cs = some (units, .closing, after)) :
    ∃ consumed, cs = consumed ++ after ∧
      2 * units.length + literalMarks consumed + 1 ≤ 2 * (stringValue consumed).length := by
  fun_induction readTemplate cs generalizing units with
  | case1 => cases read
  | case2 rest =>
      cases read
      exact ⟨['\x60'], rfl, by decide⟩
  | case3 => cases read
  | case4 rest first behind escape noBackquote ih =>
      obtain ⟨value, found, rfl⟩ := exists_of_map_behindUnits read
      obtain ⟨inside, rfl, cost⟩ := ih found
      obtain ⟨escaped, rfl, costEscape⟩ := cost_of_readEscape escape
      have few := literalMarks_le_length escaped
      refine ⟨'\\' :: (escaped ++ inside), by simp, ?_⟩
      rw [literalMarks_cons, literalMarks_append, if_pos (.inr rfl), stringValue_cons,
        stringValue_append]
      have single : (codeUnits '\\'.toNat).length = 1 := rfl
      simp only [List.length_append]
      omega
  | case5 => cases read
  | case6 rest noBackquote noBackslash noOpening ih =>
      obtain ⟨value, found, rfl⟩ := exists_of_map_behindUnits read
      obtain ⟨inside, behind, cost⟩ := ih found
      -- A line feed behind the carriage return is passed over.
      obtain ⟨taken, rest_eq⟩ : ∃ taken, rest = taken ++ (inside ++ after) :=
        ⟨_, by rw [← behind, List.take_append_drop]⟩
      have few := literalMarks_le_length taken
      have weight := length_le_stringValue taken
      refine ⟨'\r' :: (taken ++ inside), by rw [rest_eq]; simp, ?_⟩
      rw [literalMarks_cons, literalMarks_append, if_neg (by decide), stringValue_cons,
        stringValue_append]
      have feed : (codeUnits '\n'.toNat).length = 1 := rfl
      have carriage : (codeUnits '\r'.toNat).length = 1 := rfl
      simp only [List.length_append]
      omega
  | case7 c rest noBackquote noBackslash noOpening noReturn ih =>
      obtain ⟨value, found, rfl⟩ := exists_of_map_behindUnits read
      obtain ⟨inside, rfl, cost⟩ := ih found
      refine ⟨c :: inside, rfl, ?_⟩
      rw [literalMarks_cons, if_neg (not_or.mpr ⟨noBackquote, noBackslash⟩), stringValue_cons]
      simp only [List.length_append]
      omega

/-- Escaping costs one code unit and two marks for every backquote; a backslash costs a mark. -/
theorem cost_backquotesEscaped (cs : List Char) :
    2 * (stringValue (backquotesEscaped cs)).length + cs.count '\\' =
      2 * (stringValue cs).length + literalMarks (backquotesEscaped cs) := by
  induction cs with
  | nil => rfl
  | cons c rest ih =>
      have mark : (codeUnits '\x60'.toNat).length = 1 := rfl
      have escape : (codeUnits '\\'.toNat).length = 1 := rfl
      by_cases backquote : c = '\x60'
      · subst backquote
        have written : backquotesEscaped ('\x60' :: rest) =
            '\\' :: '\x60' :: backquotesEscaped rest := rfl
        rw [written, literalMarks_cons, literalMarks_cons, List.count_cons_of_ne (by decide)]
        simp only [stringValue_cons, List.length_append, true_or, or_true, if_true]
        omega
      · rw [backquotesEscaped_cons_of_ne backquote, literalMarks_cons, List.count_cons]
        simp only [stringValue_cons, List.length_append, backquote, false_or, beq_iff_eq]
        omega

/-- A text that is read back as it is holds no backslash: the backslash would be lost, or the one in
front of a backquote would be. -/
theorem notMem_backslash_of_readTemplate {cs : List Char}
    (read : readTemplate (backquotesEscaped cs ++ ['\x60']) =
      some (stringValue cs, .closing, [])) : '\\' ∉ cs := by
  obtain ⟨consumed, whole, cost⟩ := cost_of_readTemplate read
  rw [List.append_nil] at whole
  rw [← whole, literalMarks_append, stringValue_append, List.length_append] at cost
  have closing : literalMarks ['\x60'] = 1 ∧ (stringValue ['\x60']).length = 1 := ⟨rfl, rfl⟩
  have escaped := cost_backquotesEscaped cs
  apply List.count_eq_zero.mp
  omega

/-- A text that is read back begins with no break and no hole, and the rest of it is read back as
well. -/
theorem readTemplate_rest {c : Char} {rest : List Char} (noBackslash : c ≠ '\\')
    (read : readTemplate (backquotesEscaped (c :: rest) ++ ['\x60']) =
      some (stringValue (c :: rest), .closing, [])) :
    c ≠ '\r' ∧ ¬ (c = '$' ∧ rest.head? = some '\x7b') ∧
      readTemplate (backquotesEscaped rest ++ ['\x60']) =
        some (stringValue rest, .closing, []) := by
  have noReturn : c ≠ '\r' := by
    rintro rfl
    rw [backquotesEscaped_cons_of_ne (by decide), List.cons_append, readTemplate_return] at read
    obtain ⟨value, -, same⟩ := exists_of_map_behindUnits read
    cases same
  have noOpening : ¬ (c = '$' ∧ rest.head? = some '\x7b') := by
    rintro ⟨rfl, brace⟩
    obtain ⟨others, rfl⟩ := List.head?_eq_some_iff.mp brace
    have step := readTemplate_hole (backquotesEscaped others ++ ['\x60'])
    rw [backquotesEscaped_cons_of_ne (by decide), backquotesEscaped_cons_of_ne (by decide)] at read
    cases step.symm.trans read
  refine ⟨noReturn, noOpening, ?_⟩
  rw [readTemplate_backquotesEscaped_cons noBackslash noReturn noOpening (by decide)] at read
  obtain ⟨value, found, same⟩ := exists_of_map_behindUnits read
  rw [stringValue_cons] at same
  rw [List.append_cancel_left same]
  exact found

/-- Exactly the texts that stand for themselves are read back. -/
theorem readTemplate_backquotesEscaped_iff (cs : List Char) :
    readTemplate (backquotesEscaped cs ++ ['\x60']) = some (stringValue cs, .closing, []) ↔
      StandsForItself cs := by
  constructor
  · intro read
    have noBackslash := notMem_backslash_of_readTemplate read
    induction cs with
    | nil => exact ⟨by simp, by simp, by simp⟩
    | cons c rest ih =>
        obtain ⟨first, others⟩ := List.ne_and_not_mem_of_not_mem_cons noBackslash
        obtain ⟨noReturn, noOpening, readRest⟩ := readTemplate_rest (Ne.symm first) read
        exact standsForItself_cons_iff.mpr ⟨Ne.symm first, noReturn, noOpening, ih readRest others⟩
  · intro plain
    rw [readTemplate_append plain (by decide), readTemplate_closing, Option.map_some, behindUnits,
      List.append_nil]

/-! ## Backquotes behind backslashes -/

theorem length_of_readTemplate {cs after : List Char} {units : List Nat}
    (read : readTemplate cs = some (units, .closing, after)) : after.length < cs.length := by
  obtain ⟨consumed, rfl, cost⟩ := cost_of_readTemplate read
  have nonempty : consumed ≠ [] := by
    rintro rfl
    exact absurd cost (Nat.not_succ_le_zero _)
  have := List.length_pos_iff.mpr nonempty
  rw [List.length_append]
  omega

/-- Backslashes pair up. An even number of them leaves the one that escapes the backquote alone; an
odd number takes it, and the backquote closes the literal. -/
theorem closes_behind_backslashes_iff (count : Nat) (tail : List Char) :
    (∃ units, readTemplate (List.replicate count '\\' ++ '\\' :: '\x60' :: tail) =
      some (units, .closing, tail)) ↔ count % 2 = 1 := by
  induction count using Nat.twoStepInduction with
  | zero =>
      refine iff_of_false ?_ (by decide)
      rintro ⟨units, read⟩
      rw [List.replicate_zero, List.nil_append, readTemplate_backquote] at read
      obtain ⟨value, found, -⟩ := exists_of_map_behindUnits read
      exact absurd (length_of_readTemplate found) (Nat.lt_irrefl _)
  | one =>
      refine iff_of_true ⟨codeUnits '\\'.toNat, ?_⟩ (by decide)
      exact (readTemplate_backslash _).trans (by rw [readTemplate_closing]; rfl)
  | more count ih _ =>
      have pair : List.replicate (count + 2) '\\' ++ '\\' :: '\x60' :: tail =
          '\\' :: '\\' :: (List.replicate count '\\' ++ '\\' :: '\x60' :: tail) := rfl
      rw [pair, readTemplate_backslash, exists_map_behindUnits_iff, ih, Nat.add_mod_right]

end TypeScript

namespace Operation

open TypeScript

/-! ## Paths -/

theorem toList_urlTemplate_nil (path : String) :
    (urlTemplate path []).toList = backquotesEscaped path.toList := by
  rw [urlTemplate, List.foldl_nil, Text.replace, String.toList_ofList]
  exact Text.replaceFrom_single '\x60' ['\\', '\x60'] path.toList

theorem toList_templateLiteral (text : String) :
    (Call.templateLiteral text).toList = '\x60' :: (text.toList ++ ['\x60']) := by
  rw [Call.templateLiteral, String.toList_append, String.toList_append]
  rfl

/-- The literal for a path with a backquote ends at this backquote, so that all of the path behind
it is left outside. -/
def EndsBetween (before after : String) : Prop :=
  ∃ inner units, (Call.templateLiteral (urlTemplate (before ++ "\x60" ++ after) [])).toList =
      '\x60' :: inner ∧
    readTemplate inner = some (units, .closing, (urlTemplate after []).toList ++ ['\x60'])

theorem isTemplateOf_urlTemplate_iff (path : String) :
    IsTemplateOf (Call.templateLiteral (urlTemplate path [])) path ↔
      StandsForItself path.toList := by
  rw [← readTemplate_backquotesEscaped_iff, IsTemplateOf, toList_templateLiteral,
    toList_urlTemplate_nil]
  simp only [List.cons.injEq, true_and, exists_eq_left']

theorem backquotesEscaped_replicate (count : Nat) :
    backquotesEscaped (List.replicate count '\\') = List.replicate count '\\' := by
  induction count with
  | zero => rfl
  | succ count ih => rw [List.replicate_succ, backquotesEscaped_cons_of_ne (by decide), ih]

/-- What is read of a path that stands for itself, then some backslashes, and a backquote. -/
theorem readTemplate_behind_backslashes {start : List Char} (plain : StandsForItself start)
    (count : Nat) (after : List Char) :
    readTemplate (backquotesEscaped
        (start ++ List.replicate count '\\' ++ ['\x60'] ++ after) ++ ['\x60']) =
      (readTemplate (List.replicate count '\\' ++
        '\\' :: '\x60' :: (backquotesEscaped after ++ ['\x60']))).map
        (behindUnits (stringValue start)) := by
  have mark : backquotesEscaped ('\x60' :: after) =
      '\\' :: '\x60' :: backquotesEscaped after := rfl
  rw [← readTemplate_append plain]
  · simp only [backquotesEscaped_append, backquotesEscaped_replicate, mark, List.append_assoc,
      List.cons_append, List.nil_append]
  · cases count <;> rintro ⟨⟩

theorem endsBetween_iff {start : String} (plain : StandsForItself start.toList) (count : Nat)
    (after : String) :
    EndsBetween (start ++ String.ofList (List.replicate count '\\')) after ↔ count % 2 = 1 := by
  have written : (Call.templateLiteral (urlTemplate (start ++
        String.ofList (List.replicate count '\\') ++ "\x60" ++ after) [])).toList =
      '\x60' :: (backquotesEscaped (start.toList ++ List.replicate count '\\' ++ ['\x60'] ++
        after.toList) ++ ['\x60']) := by
    rw [toList_templateLiteral, toList_urlTemplate_nil]
    simp only [String.toList_append, String.toList_ofList]
    rfl
  rw [← closes_behind_backslashes_iff count (backquotesEscaped after.toList ++ ['\x60']),
    EndsBetween, written, toList_urlTemplate_nil]
  simp only [List.cons.injEq, true_and, exists_and_left, exists_eq_left',
    readTemplate_behind_backslashes plain, exists_map_behindUnits_iff]

/-- A path between backquotes is a literal without holes whose value is the path, exactly if the
path holds no backslash and no carriage return and opens no hole. The backslash in front of a
backquote of the path keeps the literal open exactly behind an even number of backslashes. -/
theorem isTemplateOf_urlTemplate (path start after : String) (count : Nat) :
    (IsTemplateOf (Call.templateLiteral (urlTemplate path [])) path ↔
      StandsForItself path.toList) ∧
    (StandsForItself start.toList →
      (EndsBetween (start ++ String.ofList (List.replicate count '\\')) after ↔
        count % 2 = 1)) :=
  ⟨isTemplateOf_urlTemplate_iff path, fun plain => endsBetween_iff plain count after⟩

/-- A backquote keeps a dollar sign and a brace apart. Of the backslashes in front of a backquote,
one is too few and two are not. -/
theorem isTemplateOf_urlTemplate_apart :
    IsTemplateOf (Call.templateLiteral (urlTemplate "/$\x60\x7bx" [])) "/$\x60\x7bx" ∧
      StandsForItself "/a".toList ∧ EndsBetween "/a\\" "b" ∧ ¬ EndsBetween "/a\\\\" "b" := by
  have apart : StandsForItself "/$\x60\x7bx".toList := ⟨by decide, by decide, by decide⟩
  have plain : StandsForItself "/a".toList := ⟨by decide, by decide, by decide⟩
  have once := isTemplateOf_urlTemplate "/$\x60\x7bx" "/a" "b" 1
  have twice := isTemplateOf_urlTemplate "/$\x60\x7bx" "/a" "b" 2
  exact ⟨once.1.mpr apart, plain, (once.2 plain).mpr rfl, mt (twice.2 plain).mp (by decide)⟩

/-- Between backquotes, the path with a backslash in front of a backquote ends there. It has no
placeholder, and is not read back. -/
theorem not_isTemplateOf_backslash :
    placeholders "/a\\\x60b" = [] ∧
      ¬ IsTemplateOf (Call.templateLiteral (urlTemplate "/a\\\x60b" [])) "/a\\\x60b" ∧
      EndsBetween "/a\\" "b" := by
  have plain : StandsForItself "/a".toList := ⟨by decide, by decide, by decide⟩
  refine ⟨by decide, fun template => ?_, (endsBetween_iff plain 1 "b").mpr rfl⟩
  exact ((isTemplateOf_urlTemplate_iff _).mp template).backslash (by decide)

end Operation

end ClientGen
