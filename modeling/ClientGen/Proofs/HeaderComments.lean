import ClientGen.Proofs.Compilation
import ClientGen.Proofs.Operations
import ClientGen.Proofs.StringLiteral
import Mathlib.Data.List.DropRight

/-!
# The header as comments

What a document says about itself is printed in the lines of a header, each line of the header
behind the mark of a comment. Such a comment ends where the language sees the end of a line, which a
line of the header may hold. A header stays a comment exactly as far as the title, the version and
each line of the description do; nothing after the header depends on any of them.
-/

namespace ClientGen

namespace TypeScript

/-! ## Physical lines -/

/-- The lines of a text, each up to a character that ends one; such a character at the very end
opens no further line. -/
def physicalLines : List Char → List (List Char)
  | [] => []
  | c :: rest =>
      let lines := physicalLines rest
      if isLineTerminator c then [] :: lines else (c :: lines.headD []) :: lines.tail

theorem plain_of_any {cs : List Char} (none : cs.any isLineTerminator = false) :
    ∀ c ∈ cs, isLineTerminator c = false := by
  simpa using none

theorem physicalLines_terminator {c : Char} (ends : isLineTerminator c = true) (rest : List Char) :
    physicalLines (c :: rest) = [] :: physicalLines rest := by
  rw [physicalLines, if_pos ends]

theorem physicalLines_inside {c : Char} (inside : isLineTerminator c = false) (rest : List Char) :
    physicalLines (c :: rest) =
      (c :: (physicalLines rest).headD []) :: (physicalLines rest).tail := by
  rw [physicalLines, if_neg (by simp [inside])]

theorem physicalLines_ne_nil {cs : List Char} (nonempty : cs ≠ []) : physicalLines cs ≠ [] := by
  obtain ⟨c, rest, rfl⟩ := List.exists_cons_of_ne_nil nonempty
  rw [physicalLines]
  split <;> exact List.cons_ne_nil _ _

theorem physicalLines_append_terminator (first : List Char) {c : Char}
    (ends : isLineTerminator c = true) (rest : List Char) :
    physicalLines (first ++ c :: rest) = physicalLines (first ++ [c]) ++ physicalLines rest := by
  induction first with
  | nil => simp [physicalLines_terminator ends, physicalLines]
  | cons d more ih =>
      obtain ⟨line, others, lines⟩ :=
        List.exists_cons_of_ne_nil (physicalLines_ne_nil (List.concat_ne_nil c more))
      cases inside : isLineTerminator d with
      | true => simp [physicalLines_terminator inside, ih]
      | false => simp [physicalLines_inside inside, ih, lines]

/-- A line feed at the end of a text ends its last line or adds an empty one. -/
theorem physicalLines_lineFeed (cs : List Char) :
    physicalLines (cs ++ ['\n']) = physicalLines cs ∨
      physicalLines (cs ++ ['\n']) = physicalLines cs ++ [[]] := by
  induction cs with
  | nil => exact .inr rfl
  | cons c rest ih =>
      rw [List.cons_append]
      cases inside : isLineTerminator c with
      | true =>
          simp only [physicalLines_terminator inside, List.cons_append, List.cons.injEq, true_and]
          exact ih
      | false =>
          simp only [physicalLines_inside inside]
          rcases ih with same | added
          · exact .inl (by rw [same])
          · rw [added]
            cases physicalLines rest with
            | nil => exact .inl rfl
            | cons line more => exact .inr rfl

/-- Text without ends of lines before another is put in front of its first line. -/
theorem physicalLines_append {c : Char} {front : List Char}
    (plain : ∀ d ∈ c :: front, isLineTerminator d = false) (rest : List Char) :
    physicalLines (c :: front ++ rest) =
      (c :: front ++ (physicalLines rest).headD []) :: (physicalLines rest).tail := by
  induction front generalizing c with
  | nil => exact physicalLines_inside (plain c List.mem_cons_self) rest
  | cons d more ih =>
      rw [List.cons_append, physicalLines_inside (plain c List.mem_cons_self),
        ih fun e later => plain e (List.mem_cons_of_mem c later)]
      rfl

theorem tail_physicalLines_append {front : List Char}
    (plain : ∀ c ∈ front, isLineTerminator c = false) (rest : List Char) :
    (physicalLines (front ++ rest)).tail = (physicalLines rest).tail := by
  cases front with
  | nil => rfl
  | cons c more => rw [physicalLines_append plain, List.tail_cons]

/-! ## Comments -/

/-- A physical line that is a comment from its beginning. -/
def IsComment (line : List Char) : Prop := ['/', '/'] <+: line

/-- A physical line with nothing outside comments. -/
def HoldsComment (line : List Char) : Prop := line = [] ∨ IsComment line

/-- A text that keeps the comment it stands in: its physical lines after the first are empty or
comments of their own. -/
def KeepsComment (text : String) : Prop :=
  ∀ line ∈ (physicalLines text.toList).tail, HoldsComment line

def IsOneLine (text : String) : Prop := ∀ c ∈ text.toList, isLineTerminator c = false

theorem keepsComment_append_iff {front : String} (plain : IsOneLine front) (text : String) :
    KeepsComment (front ++ text) ↔ KeepsComment text := by
  rw [KeepsComment, String.toList_append, tail_physicalLines_append plain, KeepsComment]

theorem toList_headerLine (line : String) :
    ∃ front, IsComment front ∧ (∀ c ∈ front, isLineTerminator c = false) ∧
      (headerLine line).toList = front ++ (line.toList ++ ['\n']) := by
  unfold headerLine
  split
  case isTrue empty =>
    rw [String.isEmpty_iff] at empty
    subst empty
    exact ⟨['/', '/'], List.prefix_rfl, plain_of_any (by decide), rfl⟩
  case isFalse =>
    refine ⟨['/', '/', ' '], ⟨[' '], rfl⟩, plain_of_any (by decide), ?_⟩
    rw [String.toList_append, String.toList_append, List.append_assoc]
    rfl

/-- The first physical line of a line of the header is a comment, and the others are those of its
text. -/
theorem physicalLines_headerLine (line : String) :
    ∃ first, IsComment first ∧
      physicalLines (headerLine line).toList =
        first :: (physicalLines (line.toList ++ ['\n'])).tail := by
  obtain ⟨front, marks, plain, text⟩ := toList_headerLine line
  obtain ⟨behind, rfl⟩ := marks
  have lines := physicalLines_append plain (line.toList ++ ['\n'])
  refine ⟨_, ?_, text ▸ lines⟩
  exact ⟨behind ++ (physicalLines (line.toList ++ ['\n'])).headD [], (List.append_assoc ..).symm⟩

theorem holdsComment_headerLine_iff (line : String) :
    (∀ part ∈ physicalLines (headerLine line).toList, HoldsComment part) ↔ KeepsComment line := by
  obtain ⟨first, comment, lines⟩ := physicalLines_headerLine line
  rw [lines, List.forall_mem_cons, KeepsComment]
  refine (and_iff_right (Or.inr comment)).trans ?_
  rcases physicalLines_lineFeed line.toList with same | added
  · rw [same]
  · rw [added]
    cases physicalLines line.toList with
    | nil => simp
    | cons first more => simp [or_imp, forall_and, HoldsComment]

theorem isComment_headerLine {line : String} (plain : IsOneLine line) :
    ∀ part ∈ physicalLines (headerLine line).toList, IsComment part := by
  obtain ⟨first, comment, lines⟩ := physicalLines_headerLine line
  rw [lines, tail_physicalLines_append plain]
  exact List.forall_mem_singleton.mpr comment

def headerChars (header : List String) : List Char :=
  header.flatMap fun line => (headerLine line).toList

theorem physicalLines_headerChars (header : List String) :
    physicalLines (headerChars header) =
      header.flatMap fun line => physicalLines (headerLine line).toList := by
  induction header with
  | nil => rfl
  | cons line rest ih =>
      obtain ⟨front, -, -, text⟩ := toList_headerLine line
      rw [List.flatMap_cons, ← ih, headerChars, List.flatMap_cons, text, ← List.append_assoc,
        List.append_assoc _ ['\n'], List.singleton_append]
      exact physicalLines_append_terminator _ (by decide) _

theorem holdsComment_headerChars_iff (header : List String) :
    (∀ part ∈ physicalLines (headerChars header), HoldsComment part) ↔
      ∀ line ∈ header, KeepsComment line := by
  simp only [physicalLines_headerChars, List.mem_flatMap, forall_exists_index, and_imp,
    ← holdsComment_headerLine_iff]
  exact ⟨fun all line listed part => all part line listed,
    fun all part line listed => all line listed part⟩

theorem mem_physicalLines_trimEnd (cs : List Char) (line : List Char) :
    (line ∈ physicalLines (Text.trimEndBy (· == '\n') cs) → line ∈ physicalLines cs) ∧
      (line ∈ physicalLines cs →
        line = [] ∨ line ∈ physicalLines (Text.trimEndBy (· == '\n') cs)) := by
  change (line ∈ physicalLines (cs.rdropWhile _) → _) ∧
    (_ → _ ∨ line ∈ physicalLines (cs.rdropWhile _))
  induction cs using List.reverseRecOn with
  | nil => exact ⟨id, .inr⟩
  | append_singleton front c ih =>
      -- From the right end, as that is where the text is trimmed.
      by_cases feed : c = '\n'
      · subst feed
        rw [List.rdropWhile_concat_pos _ _ _ (by decide)]
        rcases physicalLines_lineFeed front with same | added
        · rwa [same]
        · rw [added, List.mem_append, List.mem_singleton]
          exact ⟨fun kept => .inl (ih.1 kept), fun either => either.elim ih.2 .inl⟩
      · rw [List.rdropWhile_concat_neg _ _ _ (by simpa using feed)]
        exact ⟨id, .inr⟩

/-! ## The header in the text of a module -/

theorem trimEndBy_append {p : Char → Bool} (first second : List Char) :
    Text.trimEndBy p (first ++ second) =
      if Text.trimEndBy p second = [] then Text.trimEndBy p first
      else first ++ Text.trimEndBy p second := by
  simp only [Text.trimEndBy, List.reverse_append, List.dropWhile_append, List.isEmpty_iff,
    List.reverse_eq_nil_iff]
  split
  · rfl
  · rw [List.reverse_append, List.reverse_reverse]

def Module.headless (module : Module) : Module := { module with header := [] }

theorem toList_block_headerLine (header : List String) :
    ∃ gap ∈ [[], ['\n']], (block headerLine header).toList = headerChars header ++ gap := by
  cases header with
  | nil => exact ⟨[], by decide, rfl⟩
  | cons line rest =>
      refine ⟨['\n'], by decide, ?_⟩
      rw [block, String.toList_append, String.toList_join, List.flatMap_map, headerChars]
      · rfl
      · exact nofun

theorem Module.toList_printParts (module : Module) :
    ∃ gap ∈ [[], ['\n']], module.printParts.toList =
      headerChars module.header ++ gap ++ module.headless.printParts.toList := by
  obtain ⟨gap, either, text⟩ := toList_block_headerLine module.header
  refine ⟨gap, either, ?_⟩
  rw [← text, ← String.toList_append]
  simp only [Module.printParts, Module.headless, block, String.empty_append, String.append_assoc]

theorem Module.toList_print (module : Module) :
    module.print.toList = Text.trimEndBy (· == '\n') module.printParts.toList ++ ['\n'] := by
  rw [Module.print, String.toList_append, Text.trimEnd, String.toList_ofList]
  rfl

/-- The text of a module is nothing but its last line feed. -/
theorem Module.print_eq_lineFeed_iff (module : Module) :
    module.print = "\n" ↔ Text.trimEndBy (· == '\n') module.printParts.toList = [] := by
  rw [← String.toList_inj, module.toList_print]
  exact List.append_left_eq_self

/-- The header as it stands in the text of a module: its lines, up to the line feeds at their end
when no statement follows. -/
def headerText (header : List String) (statements : Module) : List Char :=
  if statements.print = "\n" then Text.trimEndBy (· == '\n') (headerChars header)
  else headerChars header

/-- The text of a module is that of its header and, at most one empty line later, that of the
statements. -/
theorem Module.print_eq (module : Module) :
    ∃ gap ∈ [[], ['\n']], module.print.toList =
      headerText module.header module.headless ++ gap ++ module.headless.print.toList := by
  obtain ⟨gap, either, parts⟩ := module.toList_printParts
  rw [module.toList_print, parts, trimEndBy_append, trimEndBy_append, headerText,
    module.headless.toList_print]
  by_cases none : Text.trimEndBy (· == '\n') module.headless.printParts.toList = []
  · have blank : Text.trimEndBy (· == '\n') gap = [] := by
      rcases List.mem_pair.mp either with rfl | rfl <;> rfl
    rw [if_pos none, if_pos blank, if_pos (module.headless.print_eq_lineFeed_iff.mpr none), none]
    exact ⟨[], by decide, by rw [List.append_nil, List.nil_append]⟩
  · rw [if_neg none, if_neg (mt module.headless.print_eq_lineFeed_iff.mp none)]
    exact ⟨gap, either, by rw [List.append_assoc]⟩

theorem holdsComment_headerText_iff (header : List String) (statements : Module) :
    (∀ part ∈ physicalLines (headerText header statements), HoldsComment part) ↔
      ∀ line ∈ header, KeepsComment line := by
  rw [← holdsComment_headerChars_iff, headerText]
  split
  · have trimmed := mem_physicalLines_trimEnd (headerChars header)
    refine ⟨fun all part listed => ?_, fun all part listed => all part ((trimmed part).1 listed)⟩
    exact ((trimmed part).2 listed).elim .inl (all part)
  · rfl

theorem isComment_headerText {header : List String} (plain : ∀ line ∈ header, IsOneLine line)
    (statements : Module) :
    ∀ part ∈ physicalLines (headerText header statements), IsComment part := by
  intro part listed
  have inLines : part ∈ physicalLines (headerChars header) := by
    rw [headerText] at listed
    split at listed
    · exact (mem_physicalLines_trimEnd _ part).1 listed
    · exact listed
  rw [physicalLines_headerChars] at inLines
  obtain ⟨line, member, among⟩ := List.mem_flatMap.mp inLines
  exact isComment_headerLine (plain line member) part among

end TypeScript

/-! ## What a document says about itself -/

namespace Text

open TypeScript (isLineTerminator)

/-- Characters among which lines end at line feeds and carriage returns before them only. -/
def BreaksAtFeeds : List Char → Prop
  | [] => True
  | c :: rest =>
      (isLineTerminator c = true → c = '\n' ∨ (c = '\r' ∧ rest.head? = some '\n')) ∧
        BreaksAtFeeds rest

/-- What was read of a line holds no end of a line, but for a carriage return before its line
feed. -/
theorem plain_of_mem_linesFrom {line rest : List Char} (breaks : BreaksAtFeeds rest)
    (read : (∀ c ∈ line, isLineTerminator c = false) ∨
      ∃ more, line = '\r' :: more ∧ (∀ c ∈ more, isLineTerminator c = false) ∧
        rest.head? = some '\n') :
    ∀ found ∈ linesFrom line rest, ∀ c ∈ found, isLineTerminator c = false := by
  induction rest generalizing line with
  | nil =>
      obtain plain : ∀ c ∈ line, isLineTerminator c = false := by
        rcases read with plain | ⟨-, -, -, next⟩
        · exact plain
        · cases next
      rw [linesFrom]
      split
      · exact nofun
      · rw [List.forall_mem_singleton]
        exact fun c listed => plain c (List.mem_reverse.mp listed)
  | cons d rest ih =>
      rw [linesFrom]
      split
      case isTrue feed =>
        refine List.forall_mem_cons.mpr ⟨?_, ih breaks.2 (.inl (List.forall_mem_nil _))⟩
        rcases read with plain | ⟨more, rfl, plain, -⟩
        · intro c listed
          have kept : c ∈ line := by
            unfold closeLine at listed
            split at listed
            · exact List.mem_cons_of_mem _ (List.mem_reverse.mp listed)
            · exact List.mem_reverse.mp listed
          exact plain c kept
        · exact fun c listed => plain c (List.mem_reverse.mp listed)
      case isFalse other =>
        obtain plain : ∀ c ∈ line, isLineTerminator c = false := by
          rcases read with plain | ⟨-, -, -, next⟩
          · exact plain
          · exact absurd (Option.some.inj next) other
        refine ih breaks.2 ?_
        cases ends : isLineTerminator d with
        | false => exact .inl (List.forall_mem_cons.mpr ⟨ends, plain⟩)
        | true =>
            obtain ⟨rfl, next⟩ := (breaks.1 ends).resolve_left other
            exact .inr ⟨line, rfl, plain, next⟩

theorem isOneLine_of_mem_lines {text : String} (breaks : BreaksAtFeeds text.toList) :
    ∀ line ∈ lines text, TypeScript.IsOneLine line := by
  intro line listed
  obtain ⟨cs, found, rfl⟩ := List.mem_map.mp listed
  rw [TypeScript.IsOneLine, String.toList_ofList]
  exact plain_of_mem_linesFrom breaks (.inl (List.forall_mem_nil _)) cs found

end Text

namespace Document

open TypeScript (KeepsComment IsOneLine)

def withInfo (document : Document) (info : Info) : Document := { document with info := info }

/-- A title and a version of one line each, and a description with line feeds, or carriage returns
and line feeds, between its lines. -/
structure Info.IsPlain (info : Info) : Prop where
  title : ∀ title ∈ info.title, IsOneLine title
  version : ∀ version ∈ info.version, IsOneLine version
  description : ∀ text ∈ info.description, Text.BreaksAtFeeds text.toList

/-- The title, the version and each line of the description keep the comments that they stand in. -/
def Info.KeepsComments (info : Info) : Prop :=
  (∀ title ∈ info.title, KeepsComment title) ∧ (∀ version ∈ info.version, KeepsComment version) ∧
    ∀ line ∈ Schema.descriptionLines info.description, KeepsComment line

end Document

namespace Graph

theorem forall_mem_headerLines_iff (info : Document.Info) (P : String → Prop) :
    (∀ line ∈ headerLines info, P line) ↔
      (∀ title ∈ info.title, P ("@title " ++ title)) ∧
        (∀ version ∈ info.version, P ("@version " ++ version)) ∧
          ∀ line ∈ Schema.descriptionLines info.description, P line := by
  simp only [headerLines, List.forall_mem_append, and_assoc, Option.mem_toList, Option.mem_def,
    Option.map_eq_some_iff, forall_exists_index, and_imp, forall_apply_eq_imp_iff₂]

open TypeScript (KeepsComment IsOneLine keepsComment_append_iff plain_of_any)

theorem keepsComment_headerLines_iff (info : Document.Info) :
    (∀ line ∈ headerLines info, KeepsComment line) ↔ info.KeepsComments := by
  have title : IsOneLine "@title " := plain_of_any (by decide)
  have version : IsOneLine "@version " := plain_of_any (by decide)
  simp only [forall_mem_headerLines_iff, keepsComment_append_iff title,
    keepsComment_append_iff version, Document.Info.KeepsComments]

theorem isOneLine_headerLines {info : Document.Info} (plain : info.IsPlain) :
    ∀ line ∈ headerLines info, IsOneLine line := by
  have title : IsOneLine "@title " := plain_of_any (by decide)
  have version : IsOneLine "@version " := plain_of_any (by decide)
  have append {first second : String} (one : IsOneLine first) (other : IsOneLine second) :
      IsOneLine (first ++ second) := by
    rw [IsOneLine, String.toList_append, List.forall_mem_append]
    exact ⟨one, other⟩
  refine (forall_mem_headerLines_iff info _).mpr ⟨fun text given => ?_, fun text given => ?_, ?_⟩
  · exact append title (plain.title text given)
  · exact append version (plain.version text given)
  · cases described : info.description with
    | none => exact nofun
    | some text => exact Text.isOneLine_of_mem_lines (plain.description text described)

end Graph

/-! ## Other documents with the same statements -/

namespace Operation

theorem mergeOnto_withInfo (document : Document) (info : Document.Info)
    (merged : List Document.Parameter) (parameters : List (OrRef Document.Parameter)) :
    mergeOnto (document.withInfo info) merged parameters =
      mergeOnto document merged parameters := by
  induction parameters generalizing merged with
  | nil => rfl
  | cons parameter rest ih =>
      have same : resolveParameter (document.withInfo info) parameter =
          resolveParameter document parameter := by cases parameter <;> rfl
      simp only [mergeOnto, same, ih]

theorem function_withInfo (document : Document) (info : Document.Info) (settings : Settings)
    (envelope : Graph.Envelope) (site : Site) :
    function (document.withInfo info) settings envelope site =
      function document settings envelope site := by
  simp only [function, mergedParameters, mergeOnto_withInfo]
  rfl

end Operation

namespace Graph

theorem functionsOf_withInfo (document : Document) (info : Document.Info)
    (settings : Operation.Settings) (envelope : Envelope) (taken : List String)
    (sites : List Operation.Site) :
    functionsOf (document.withInfo info) settings envelope taken sites =
      functionsOf document settings envelope taken sites := by
  induction sites generalizing taken with
  | nil => rfl
  | cons site rest ih => simp only [functionsOf, Operation.function_withInfo, ih]

/-- Only the header of a graph tells what the document says about itself. -/
theorem ofDocument_withInfo {document : Document} {shaping : Shaping} {client : Client}
    {graph : Graph} (built : ofDocument document shaping client = .ok graph)
    (info : Document.Info) :
    ofDocument (document.withInfo info) shaping client =
      .ok { graph with comments := headerLines info } := by
  obtain ⟨functions, each, rfl⟩ := (ofDocument_eq_ok_iff document shaping client graph).mp built
  refine (ofDocument_eq_ok_iff _ shaping client _).mpr ⟨functions, ?_, rfl⟩
  rw [functionsOf_withInfo]
  exact each

end Graph

namespace Synthesis

def moduleFor (record : Record) : OutputKind → Option TypeScript.Module
  | .request => some (requestModule record)
  | .typings => some (typingsModule record)
  | .other _ => none

theorem slotFor_standard (record : Record) (output : Output) :
    ∃ slot, Compiler.standard.slotFor record output = .ok slot ∧
      slot.module? = moduleFor record output.kind := by
  unfold Compiler.slotFor
  cases output.kind <;> exact ⟨_, rfl, rfl⟩

theorem exists_compile_standard (record : Record) :
    ∃ compiled, Compiler.standard.compile record = .ok compiled ∧
      compiled.outputs.map (·.kind) = record.outputs.map (·.kind) ∧
      ∀ output ∈ compiled.outputs, output.slot.module? = moduleFor record output.kind := by
  choose slot compiles held using slotFor_standard record
  let outputs := record.outputs.map fun output => output.setSlot (slot output)
  refine ⟨{ record with outputs := outputs }, ?_, ?_, ?_⟩
  · rw [Compiler.compile_eq Compiler.standard_ignoresSlots, Compiler.compileTogether_eq_ok_iff]
    refine ⟨record.outputs.map slot, ?_, ?_⟩
    · rw [Compiler.gather_eq_ok_iff, List.map_map]
      exact List.map_congr_left fun output _ => compiles output
    · rw [List.zipWith_map_right, List.zipWith_self]
  · exact List.map_map
  · intro output listed
    obtain ⟨before, -, rfl⟩ := List.mem_map.mp listed
    exact held before

/-- The header is all of a module that tells what the document says about itself. -/
theorem moduleFor_withInfo (record : Record) (graph : Graph) (source : Option Json)
    (comments : List String) (kind : OutputKind) :
    moduleFor { record with source := source, graph := { graph with comments := comments } } kind =
      (moduleFor { record with graph := graph } kind).map fun module =>
        { module with header := comments } := by
  cases kind <;> rfl

end Synthesis

namespace Record

open TypeScript (Module physicalLines headerText IsComment HoldsComment)

theorem kind_render (print : Module → String) (output : Output) :
    (output.render print).kind = output.kind := by
  unfold Output.render
  split <;> rfl

theorem code_of_mem_render {compiled : Record} {output : Output}
    (listed : output ∈ compiled.render.outputs) {module : Module}
    (held : ∀ before ∈ compiled.outputs, before.kind = output.kind →
      before.slot.module? = some module) : output.code = some module.print := by
  obtain ⟨before, member, rfl⟩ := List.mem_map.mp listed
  have tree := held before member (kind_render Module.print before).symm
  unfold Output.render
  rw [tree]

/-- The request file and the typings file of a description are a header above statements that tell
nothing of what the description says about itself, whatever that is. Each physical line of the
header begins with the mark of a comment if the title and the version are lines and nothing but
line feeds, with or without carriage returns, ends the lines of the description; and the header
holds nothing outside comments exactly if the title, the version and each line of the description
keep the comments that they stand in. -/
theorem header_comments_iff {record : Record} {client : Client} {document : Document}
    {graph : Graph}
    (built : Graph.ofDocument document record.config.shaping client = .ok graph) :
    ∃ statements : OutputKind → Module, ∀ (source : Json) (info : Document.Info),
      Document.ofJson source = .ok (document.withInfo info) →
      ∃ parsed compiled, Record.parse client { record with source := some source } = .ok parsed ∧
        Compiler.standard.compile parsed = .ok compiled ∧
        compiled.render.outputs.map (·.kind) = record.outputs.map (·.kind) ∧
        ∀ output ∈ compiled.render.outputs, output.kind = .request ∨ output.kind = .typings →
          let header := headerText (Graph.headerLines info) (statements output.kind)
          (∃ code, output.code = some code ∧ ∃ gap ∈ [[], ['\n']],
            code.toList = header ++ gap ++ (statements output.kind).print.toList) ∧
          (info.IsPlain → ∀ line ∈ physicalLines header, IsComment line) ∧
          ((∀ line ∈ physicalLines header, HoldsComment line) ↔ info.KeepsComments) := by
  -- The statements are built from the graph of one description; another one changes its header only.
  let moduleOf (kind : OutputKind) : Module :=
    (Synthesis.moduleFor { record with graph := graph } kind).getD .empty
  refine ⟨fun kind => (moduleOf kind).headless, fun source info read => ?_⟩
  let parsed : Record :=
    { record with
      source := some source
      graph := { graph with comments := Graph.headerLines info } }
  have accepted : Record.parse client { record with source := some source } = .ok parsed :=
    (Record.parse_eq_ok_iff client _ parsed).mpr
      ⟨source, document.withInfo info, _, rfl, read, Graph.ofDocument_withInfo built info, rfl⟩
  obtain ⟨compiled, compiles, kinds, held⟩ := Synthesis.exists_compile_standard parsed
  refine ⟨parsed, compiled, accepted, compiles, ?_, fun output listed handled => ?_⟩
  · rw [Record.render, List.map_map]
    exact (List.map_congr_left fun output _ => kind_render Module.print output).trans kinds
  have tree : Synthesis.moduleFor parsed output.kind =
      some { moduleOf output.kind with header := Graph.headerLines info } := by
    rw [Synthesis.moduleFor_withInfo]
    rcases handled with kind | kind <;> rw [kind] <;> rfl
  have code := code_of_mem_render listed fun before member kind => by
    rw [held before member, kind, tree]
  refine ⟨⟨_, code, Module.print_eq _⟩, fun plain => ?_, ?_⟩
  · exact TypeScript.isComment_headerText (Graph.isOneLine_headerLines plain) _
  · rw [TypeScript.holdsComment_headerText_iff, Graph.keepsComment_headerLines_iff]

end Record

namespace Titled

def source (title description : String) : Json :=
  .object [
    ("info", .object [("description", .string description), ("title", .string title)]),
    ("openapi", .string "3.0.0")]

def document (title description : String) : Document where
  swagger := none
  openapi := some "3.0.0"
  info := ⟨some title, some description, none⟩
  host := none
  basePath := none
  schemes := []
  servers := []
  paths := []
  definitions := []
  parameters := []
  components := none

def config : Config :=
  ⟨some (.shorthand "titled.json"), ⟨some "api.ts", some (.flag true)⟩, Shaping.none, none⟩

def start : Record :=
  .new (.uri "titled.json") config
    [.new .request ⟨"api.ts"⟩, (Output.new .typings ⟨"api.type.ts"⟩).withSpecifier "./api.type"]

def graph (title description : String) : Graph :=
  Graph.assemble (document title description) Shaping.none .fetch []

def parsed (title description : String) : Record :=
  { start with source := some (source title description), graph := graph title description }

end Titled

namespace Record

open TypeScript (physicalLines IsComment)

/-- A title of one line and a description whose lines end with carriage returns and line feeds
make a header of comments. -/
theorem header_comments_feeds :
    Graph.ofDocument (Titled.document "Cats" "a\r\nb") Shaping.none .fetch =
        .ok (Titled.graph "Cats" "a\r\nb") ∧
      Document.ofJson (Titled.source "Cats" "a\r\nb") = .ok (Titled.document "Cats" "a\r\nb") ∧
      ∃ compiled, Compiler.standard.compile (Titled.parsed "Cats" "a\r\nb") = .ok compiled ∧
        compiled.render.outputs.map (·.kind) = [.request, .typings] ∧
        ∀ output ∈ compiled.render.outputs, ∃ code header behind, output.code = some code ∧
          code.toList = header ++ behind ∧ ∀ line ∈ physicalLines header, IsComment line := by
  have built : Graph.ofDocument (Titled.document "Cats" "a\r\nb") Titled.start.config.shaping
      .fetch = .ok (Titled.graph "Cats" "a\r\nb") := by rfl
  have read : Document.ofJson (Titled.source "Cats" "a\r\nb") =
      .ok (Titled.document "Cats" "a\r\nb") := by rfl
  obtain ⟨statements, headed⟩ := header_comments_iff built
  obtain ⟨parsed, compiled, accepted, compiles, kinds, headers⟩ :=
    headed _ (Titled.document "Cats" "a\r\nb").info read
  have same : Record.parse .fetch
      { Titled.start with source := some (Titled.source "Cats" "a\r\nb") } =
        .ok (Titled.parsed "Cats" "a\r\nb") := by rfl
  obtain rfl := Except.ok.inj (same.symm.trans accepted)
  have plain : (Titled.document "Cats" "a\r\nb").info.IsPlain := by
    refine ⟨?_, nofun, ?_⟩
    · rintro title ⟨rfl⟩
      exact TypeScript.plain_of_any (by decide)
    · rintro text ⟨rfl⟩
      simp [Text.BreaksAtFeeds, TypeScript.isLineTerminator]
  have handled : ∀ output ∈ compiled.render.outputs,
      output.kind = .request ∨ output.kind = .typings := by
    intro output listed
    have among : output.kind ∈ compiled.render.outputs.map (·.kind) := List.mem_map_of_mem listed
    rw [kinds] at among
    exact List.mem_pair.mp among
  refine ⟨built, read, compiled, compiles, kinds, fun output listed => ?_⟩
  obtain ⟨⟨code, held, gap, -, text⟩, comments, -⟩ := headers output listed (handled output listed)
  exact ⟨code, _, _, held, text.trans (List.append_assoc ..), comments plain⟩

/-- A title with a line feed in it and a description with a carriage return of its own put what
comes after them outside the comments of both files. -/
theorem not_header_comments_title :
    Record.parse .fetch
        { Titled.start with source := some (Titled.source "A\nalert(1)" "b\rcall()") } =
        .ok (Titled.parsed "A\nalert(1)" "b\rcall()") ∧
      ∃ request typings, Compiler.standard.compile (Titled.parsed "A\nalert(1)" "b\rcall()") =
          .ok { Titled.parsed "A\nalert(1)" "b\rcall()" with
            outputs := [(Output.new .request ⟨"api.ts"⟩).setSlot (.request request),
              ((Output.new .typings ⟨"api.type.ts"⟩).withSpecifier "./api.type").setSlot
                (.typings typings)] } ∧
        "// @title A\nalert(1)\n// b\rcall()\n".toList <+: request.print.toList ∧
        typings.print = "// @title A\nalert(1)\n// b\rcall()\n" ∧
        (physicalLines typings.print.toList).map String.ofList =
          ["// @title A", "alert(1)", "// b", "call()"] ∧
        ¬ IsComment "alert(1)".toList ∧ ¬ IsComment "call()".toList := by
  refine ⟨by rfl, Synthesis.requestModule (Titled.parsed "A\nalert(1)" "b\rcall()"),
    Synthesis.typingsModule (Titled.parsed "A\nalert(1)" "b\rcall()"), by rfl, by decide +kernel,
    by decide, by decide, ?_⟩
  unfold IsComment
  decide

end Record

end ClientGen
