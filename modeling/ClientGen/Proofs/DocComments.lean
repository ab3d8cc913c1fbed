import ClientGen.Proofs.Substitution
import ClientGen.TypeScript.Print
import Mathlib.Data.List.Chain
import Mathlib.Data.List.Induction

/-!
# Documentation inside comments

Documentation is printed as one block comment that ends where its text ends, whatever the lines say
and whatever follows: the mark that ends a comment is broken up in each line, and neither the pieces
put in nor the seams between lines make a new one. A printed statement is the one without
documentation, with such comments put in at the beginnings of lines.
-/

namespace ClientGen.TypeScript

/-! ## Ends of comments -/

def afterComment? : List Char → Option (List Char)
  | [] => none
  | '*' :: '/' :: rest => some rest
  | _ :: rest => afterComment? rest

/-- Characters among which no comment ends. -/
def StaysOpen (cs : List Char) : Prop :=
  cs.IsChain fun first second => ¬ (first = '*' ∧ second = '/')

theorem staysOpen_append_iff (first second : List Char) :
    StaysOpen (first ++ second) ↔ StaysOpen first ∧ StaysOpen second ∧
      ¬ (first.getLast? = some '*' ∧ second.head? = some '/') := by
  unfold StaysOpen
  rw [List.isChain_append]
  refine and_congr_right fun _ => and_congr_right fun _ => ⟨fun seam both => ?_, fun seam => ?_⟩
  · exact seam '*' both.1 '/' both.2 ⟨rfl, rfl⟩
  · rintro c last d head ⟨rfl, rfl⟩
    exact seam ⟨last, head⟩

theorem staysOpen_cons_iff (c : Char) (rest : List Char) :
    StaysOpen (c :: rest) ↔ StaysOpen rest ∧ ¬ (c = '*' ∧ rest.head? = some '/') := by
  have split := staysOpen_append_iff [c] rest
  rw [List.singleton_append, List.getLast?_singleton, Option.some.injEq] at split
  rw [split]
  exact and_iff_right (.singleton c)

theorem staysOpen_of_noSlash {cs : List Char} (without : '/' ∉ cs) : StaysOpen cs := by
  induction cs with
  | nil => exact .nil
  | cons c rest ih =>
      refine (staysOpen_cons_iff c rest).mpr ⟨ih (List.not_mem_of_not_mem_cons without), ?_⟩
      intro both
      exact without (List.mem_cons_of_mem c (List.mem_of_head? both.2))

theorem not_staysOpen_of_mark (before behind : List Char) :
    ¬ StaysOpen (before ++ '*' :: '/' :: behind) := by
  intro stays
  have mark := ((staysOpen_append_iff before _).mp stays).2.1
  exact ((staysOpen_cons_iff _ _).mp mark).2 ⟨rfl, rfl⟩

theorem afterComment?_cons {c : Char} {rest : List Char}
    (other : ¬ (c = '*' ∧ rest.head? = some '/')) :
    afterComment? (c :: rest) = afterComment? rest := by
  apply afterComment?.eq_3
  rintro behind rfl rfl
  exact other ⟨rfl, rfl⟩

/-- An open comment goes on up to the first mark that ends one. -/
theorem afterComment?_of_staysOpen {cs : List Char} (stays : StaysOpen (cs ++ ['*']))
    (rest : List Char) : afterComment? (cs ++ '*' :: '/' :: rest) = some rest := by
  induction cs with
  | nil => rfl
  | cons c more ih =>
      obtain ⟨behind, seam⟩ := (staysOpen_cons_iff c (more ++ ['*'])).mp stays
      have head : (more ++ '*' :: '/' :: rest).head? = (more ++ ['*']).head? := by
        cases more <;> rfl
      rw [List.cons_append, afterComment?_cons (head ▸ seam), ih behind]

/-- A mark behind characters among which no comment ends is the only one. -/
theorem eq_of_only_mark {body before behind : List Char} (stays : StaysOpen (body ++ ['*']))
    (found : body ++ ['*', '/', '\n'] = before ++ '*' :: '/' :: behind) : before = body := by
  rcases List.append_eq_append_iff.mp found with ⟨excess, rfl, marks⟩ | ⟨excess, rfl, marks⟩
  · match excess, marks with
    | [], _ => rw [List.append_nil]
    | [_], marks => simp at marks
    | [_, _], marks => simp at marks
    | _ :: _ :: _ :: _, marks => simp at marks
  · match excess, marks with
    | [], _ => rw [List.append_nil]
    | [_], marks => simp at marks
    | _ :: _ :: more, marks =>
        simp only [List.cons_append, List.cons.injEq] at marks
        obtain ⟨rfl, rfl, -⟩ := marks
        rw [List.append_assoc] at stays
        exact absurd stays (not_staysOpen_of_mark before _)

/-! ## Lines of documentation -/

def broken (cs : List Char) : List Char :=
  Text.replaceFrom ['*', '/'] ['*', '\\', '/'] 0 cs

theorem broken_mark (rest : List Char) :
    broken ('*' :: '/' :: rest) = '*' :: '\\' :: '/' :: broken rest := rfl

theorem broken_cons {c : Char} {rest : List Char} (other : ¬ (c = '*' ∧ rest.head? = some '/')) :
    broken (c :: rest) = c :: broken rest := by
  unfold broken
  rw [Text.replaceFrom, if_neg]
  rw [Text.isSome_dropStart?, List.isPrefixOf_iff_prefix]
  rintro ⟨behind, begins⟩
  cases begins
  exact other ⟨rfl, rfl⟩

/-- Breaking up the marks makes no new one, and leaves the first character as it is. -/
theorem staysOpen_broken (cs : List Char) :
    StaysOpen (broken cs) ∧ (broken cs).head? = cs.head? := by
  induction cs using List.twoStepInduction with
  | nil => exact ⟨.nil, rfl⟩
  | singleton c =>
      rw [broken_cons (by simp)]
      exact ⟨.singleton c, rfl⟩
  | cons_cons c d rest ih ihs =>
      by_cases mark : c = '*' ∧ d = '/'
      · obtain ⟨rfl, rfl⟩ := mark
        rw [broken_mark]
        refine ⟨?_, rfl⟩
        simp only [staysOpen_cons_iff]
        exact ⟨⟨⟨ih.1, by simp⟩, by simp⟩, by simp⟩
      · have other : ¬ (c = '*' ∧ (d :: rest).head? = some '/') := by simpa using mark
        rw [broken_cons other]
        refine ⟨(staysOpen_cons_iff _ _).mpr ⟨(ihs d).1, ?_⟩, rfl⟩
        rw [(ihs d).2]
        exact other

theorem toList_docText (line : String) : (docText line).toList = broken line.toList := by
  unfold docText Text.replace
  rw [String.toList_ofList]
  rfl

/-- Characters among which no comment ends, nor with a slash put behind them. -/
structure Sealed (cs : List Char) : Prop where
  stays : StaysOpen cs
  last : cs.getLast? ≠ some '*'

namespace Sealed

theorem nil : Sealed [] := ⟨.nil, nofun⟩

theorem append {first second : List Char} (before : Sealed first) (behind : Sealed second) :
    Sealed (first ++ second) := by
  refine ⟨(staysOpen_append_iff _ _).mpr ⟨before.stays, behind.stays, fun both => ?_⟩, ?_⟩
  · exact before.last both.1
  · rw [List.getLast?_append]
    cases last : second.getLast? with
    | none => exact before.last
    | some c =>
        intro star
        exact behind.last (last.trans star)

/-- A line feed keeps everything before it from ending a comment. -/
theorem lineFeed {cs : List Char} (stays : StaysOpen cs) : Sealed (cs ++ ['\n']) := by
  refine ⟨(staysOpen_append_iff _ _).mpr ⟨stays, .singleton _, by simp⟩, ?_⟩
  rw [List.getLast?_concat]
  decide

theorem flatMap {α : Type} {f : α → List Char} {items : List α}
    (each : ∀ item ∈ items, Sealed (f item)) : Sealed (items.flatMap f) := by
  induction items with
  | nil => exact nil
  | cons item rest ih =>
      rw [List.flatMap_cons]
      exact (each item List.mem_cons_self).append
        (ih fun other later => each other (List.mem_cons_of_mem item later))

theorem blank {cs : List Char} (blank : ∀ c ∈ cs, Text.isBlank c = true) : Sealed cs := by
  have noMark : ∀ c, Text.isBlank c = true → c ≠ '/' ∧ c ≠ '*' := by
    rintro c isBlank
    exact ⟨by rintro rfl; revert isBlank; decide, by rintro rfl; revert isBlank; decide⟩
  refine ⟨staysOpen_of_noSlash fun slash => (noMark _ (blank _ slash)).1 rfl, fun star => ?_⟩
  exact (noMark _ (blank _ (List.mem_of_getLast? star))).2 rfl

end Sealed

/-! ## The comment -/

def commentBody (indent : String) (docs : List String) : List Char :=
  ['*', '\n'] ++ docs.flatMap (fun line => (docLine indent line).toList) ++ indent.toList ++ [' ']

theorem toList_printDocs (indent : String) {docs : List String} (nonempty : docs ≠ []) :
    (printDocs indent docs).toList =
      indent.toList ++ ['/', '*'] ++ commentBody indent docs ++ ['*', '/', '\n'] := by
  obtain ⟨line, rest, rfl⟩ := List.exists_cons_of_ne_nil nonempty
  simp only [printDocs, commentBody, String.toList_append, String.toList_join, List.flatMap_map,
    List.append_assoc]
  rfl

theorem sealed_docLine {indent : String} (blank : ∀ c ∈ indent.toList, Text.isBlank c = true)
    (line : String) : Sealed (docLine indent line).toList := by
  unfold docLine
  dsimp only
  split
  · have text : (indent ++ " *\n").toList = indent.toList ++ ([' ', '*'] ++ ['\n']) := by
      rw [String.toList_append]
      rfl
    rw [text]
    exact (Sealed.blank blank).append (.lineFeed (staysOpen_of_noSlash (by decide)))
  · have text : (indent ++ " * " ++ docText line ++ "\n").toList =
        indent.toList ++ ([' ', '*', ' '] ++ broken line.toList ++ ['\n']) := by
      rw [String.toList_append, String.toList_append, String.toList_append, toList_docText]
      simp
    rw [text]
    refine (Sealed.blank blank).append (.lineFeed ?_)
    refine (staysOpen_append_iff _ _).mpr ⟨staysOpen_of_noSlash (by decide), ?_, by simp⟩
    exact (staysOpen_broken line.toList).1

/-- Neither the lines nor their seams end the comment, nor the star of the mark that does. -/
theorem sealed_commentBody {indent : String} (blank : ∀ c ∈ indent.toList, Text.isBlank c = true)
    (docs : List String) : Sealed (commentBody indent docs) := by
  have opening : Sealed ['*', '\n'] := .lineFeed (.singleton '*')
  have lines : Sealed (docs.flatMap fun line => (docLine indent line).toList) :=
    .flatMap fun line _ => sealed_docLine blank line
  have space : Sealed [' '] := .blank (List.all_eq_true.mp (by decide))
  exact ((opening.append lines).append (.blank blank)).append space

theorem Sealed.star {cs : List Char} (isSealed : Sealed cs) : StaysOpen (cs ++ ['*']) :=
  (staysOpen_append_iff _ _).mpr ⟨isSealed.stays, .singleton '*', by simp⟩

/-- One block comment with blank space before it and a line feed after it: the only mark in it that
ends a comment is the one at its end, and a scanner that has passed the opening mark goes on up to
there, whatever comes after. -/
def IsBlockComment (text : List Char) : Prop :=
  ∃ blank body, (∀ c ∈ blank, Text.isBlank c = true) ∧
    text = blank ++ ['/', '*'] ++ body ++ ['*', '/', '\n'] ∧
    (∀ before behind, text = before ++ '*' :: '/' :: behind → behind = ['\n']) ∧
    ∀ rest, afterComment? (body ++ '*' :: '/' :: rest) = some rest

theorem isBlockComment_printDocs {indent : String}
    (blank : ∀ c ∈ indent.toList, Text.isBlank c = true) {docs : List String}
    (nonempty : docs ≠ []) : IsBlockComment (printDocs indent docs).toList := by
  have body := sealed_commentBody blank docs
  refine ⟨indent.toList, commentBody indent docs, blank, toList_printDocs indent nonempty, ?_,
    afterComment?_of_staysOpen body.star⟩
  intro before behind found
  rw [toList_printDocs indent nonempty] at found
  have stays : StaysOpen (indent.toList ++ ['/', '*'] ++ commentBody indent docs ++ ['*']) := by
    rw [List.append_assoc, List.append_assoc]
    have opened : StaysOpen (['/', '*'] ++ (commentBody indent docs ++ ['*'])) := by
      refine (staysOpen_append_iff _ _).mpr ⟨?_, body.star, ?_⟩
      · exact (staysOpen_cons_iff _ _).mpr ⟨.singleton '*', by simp⟩
      · simp [commentBody]
    refine (staysOpen_append_iff _ _).mpr ⟨(Sealed.blank blank).stays, opened, fun both => ?_⟩
    exact (Sealed.blank blank).last both.1
  obtain rfl := eq_of_only_mark stays found
  simpa using (List.append_cancel_left found).symm

/-! ## Documented statements -/

/-- A text is a code with block comments put in at beginnings of its lines. -/
inductive Commented : List Char → List Char → Prop
  | code (code : List Char) : Commented code code
  | comment {comment text code : List Char} :
      IsBlockComment comment → Commented text code → Commented (comment ++ text) code
  | line (line : List Char) {text code : List Char} :
      Commented text code → Commented (line ++ '\n' :: text) (line ++ '\n' :: code)

def Property.undocumented (property : Property) : Property :=
  { property with docs := [] }

def Definition.undocumented : Definition → Definition
  | .interface properties => .interface (properties.map Property.undocumented)
  | .typeAlias type => .typeAlias type

def TypeDefinition.undocumented (type : TypeDefinition) : TypeDefinition :=
  { type with docs := [], definition := type.definition.undocumented }

def Function.undocumented (function : Function) : Function :=
  { function with docs := [] }

theorem printDocs_nil (indent : String) : printDocs indent [] = "" := rfl

theorem Function.print_eq (function : Function) :
    function.print = printDocs "" function.docs ++ function.undocumented.print := by
  simp only [Function.print, Function.undocumented, printDocs_nil, String.empty_append,
    String.append_assoc]
  rfl

namespace Commented

theorem printDocs {indent : String} (blank : ∀ c ∈ indent.toList, Text.isBlank c = true)
    (docs : List String) {text code : List Char} (rest : Commented text code) :
    Commented ((TypeScript.printDocs indent docs).toList ++ text) code := by
  by_cases none : docs = []
  · rw [none]
    exact rest
  · exact .comment (isBlockComment_printDocs blank none) rest

/-- A member of an interface before the commented text of what follows it. -/
theorem printLines (property : Property) {text code : List Char} (rest : Commented text code) :
    Commented (property.printLines.toList ++ text)
      (property.undocumented.printLines.toList ++ code) := by
  have blank : ∀ c ∈ "  ".toList, Text.isBlank c = true :=
    List.all_eq_true.mp (by decide)
  have documented := printDocs blank property.docs
    (rest.line ("  " ++ property.print ++ ";").toList)
  simpa [Property.printLines, Property.undocumented, Property.print, printDocs_nil] using documented

theorem members (properties : List Property) {text code : List Char}
    (rest : Commented text code) :
    Commented ((properties.map Property.printLines).flatMap String.toList ++ text)
      (((properties.map Property.undocumented).map Property.printLines).flatMap String.toList ++
        code) := by
  induction properties with
  | nil => exact rest
  | cons property more ih => simpa using printLines property ih

theorem typeDefinition (type : TypeDefinition) :
    Commented type.print.toList type.undocumented.print.toList := by
  obtain ⟨name, definition, docs, isExported⟩ := type
  have blank : ∀ c ∈ "".toList, Text.isBlank c = true :=
    List.all_eq_true.mp (by decide)
  cases definition with
  | typeAlias value =>
      have documented := printDocs blank docs
        (.code (exportWord isExported ++ ("type " ++ name ++ " = " ++ value.print ++ ";\n")).toList)
      simpa [TypeDefinition.print, TypeDefinition.undocumented, Definition.undocumented,
        printDocs_nil] using documented
  | interface properties =>
      have documented := printDocs blank docs ((members properties (.code "\x7d\n".toList)).line
        (exportWord isExported ++ ("interface " ++ name ++ " \x7b")).toList)
      simpa [TypeDefinition.print, TypeDefinition.undocumented, Definition.undocumented,
        printDocs_nil, String.toList_join] using documented

theorem function (function : Function) :
    Commented function.print.toList function.undocumented.print.toList := by
  have blank : ∀ c ∈ "".toList, Text.isBlank c = true :=
    List.all_eq_true.mp (by decide)
  rw [function.print_eq, String.toList_append]
  exact printDocs blank function.docs (.code _)

end Commented

/-- Documentation cannot leave its comment. Whatever the lines are, no lines are printed as nothing
and others as one block comment that ends where its text ends; and a member, the definition of a
type or a function is printed as without documentation, but for block comments at beginnings of
lines. -/
theorem documentation_stays_in_comments :
    (∀ indent : String, (∀ c ∈ indent.toList, Text.isBlank c = true) → ∀ docs : List String,
      (docs = [] → printDocs indent docs = "") ∧
      (docs ≠ [] → IsBlockComment (printDocs indent docs).toList)) ∧
    (∀ property : Property,
      Commented property.printLines.toList property.undocumented.printLines.toList) ∧
    (∀ type : TypeDefinition, Commented type.print.toList type.undocumented.print.toList) ∧
    ∀ function : Function, Commented function.print.toList function.undocumented.print.toList := by
  refine ⟨fun indent blank docs => ⟨?_, isBlockComment_printDocs blank⟩, fun property => ?_,
    Commented.typeDefinition, Commented.function⟩
  · rintro rfl
    rfl
  · simpa using Commented.printLines property (.code [])

/-- Marks that end a comment, whole or split between lines, do not end the comment of a member. -/
theorem documentation_stays_in_comments_marks :
    (∀ c ∈ "  ".toList, Text.isBlank c = true) ∧ ["a */ b", "*", "/", "x\n*/ y"] ≠ [] ∧
      IsBlockComment (printDocs "  " ["a */ b", "*", "/", "x\n*/ y"]).toList := by
  have blank : ∀ c ∈ "  ".toList, Text.isBlank c = true :=
    List.all_eq_true.mp (by decide)
  exact ⟨blank, List.cons_ne_nil _ _,
    ((documentation_stays_in_comments.1 "  " blank _).2 (List.cons_ne_nil _ _))⟩

end ClientGen.TypeScript
