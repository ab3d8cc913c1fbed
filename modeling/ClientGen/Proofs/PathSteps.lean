import ClientGen.Path.Specifier
import ClientGen.Proofs.UrlTemplate
import Mathlib.Data.List.DropRight

/-!
# Steps of paths

What moves in a path: the root if it starts there, and one step for each piece between slashes that
counts. The steps of joined paths stand one behind the other, and the parent of a path has its steps
but for the last one.
-/

namespace ClientGen

namespace Text

theorem split_append_separator (sep : Char) (before after : List Char) :
    split sep (before ++ sep :: after) = split sep before ++ split sep after := by
  rw [split_eq_splitOn, split_eq_splitOn, split_eq_splitOn, List.splitOn_append_cons_self]

theorem split_of_notMem {sep : Char} {cs : List Char} (without : sep ∉ cs) :
    split sep cs = [cs] := by
  rw [split_eq_splitOn, List.splitOn_eq_singleton without]

theorem notMem_of_mem_split {sep : Char} {cs piece : List Char} (cut : piece ∈ split sep cs) :
    sep ∉ piece := by
  induction cs generalizing piece with
  | nil =>
      rw [List.mem_singleton.mp cut]
      exact List.not_mem_nil
  | cons c rest ih =>
      obtain ⟨first, others, split_rest⟩ : ∃ first others, split sep rest = first :: others :=
        List.exists_cons_of_ne_nil (split_eq_splitOn sep rest ▸ List.splitOn_ne_nil sep rest)
      rw [split, split_rest] at cut
      rw [split_rest] at ih
      split at cut
      · rcases List.mem_cons.mp cut with rfl | later
        · exact List.not_mem_nil
        · exact ih later
      · rename_i other
        rcases List.mem_cons.mp cut with rfl | later
        · exact List.not_mem_cons_of_ne_of_not_mem (Ne.symm other) (ih List.mem_cons_self)
        · exact ih (List.mem_cons_of_mem first later)

theorem toList_join_eq (sep : Char) (texts : List String) :
    (join (String.singleton sep) texts).toList = [sep].intercalate (texts.map String.toList) := by
  induction texts with
  | nil => rfl
  | cons text rest ih =>
      cases rest with
      | nil => simp [join]
      | cons second others =>
          have split_join : join (String.singleton sep) (text :: second :: others) =
              text ++ String.singleton sep ++ join (String.singleton sep) (second :: others) := rfl
          rw [split_join, String.toList_append, String.toList_append, ih, String.toList_singleton]
          exact List.intercalate_cons_cons.symm

end Text

namespace Path

/-! ## Steps -/

/-- The steps that pieces between slashes stand for. -/
def steps (pieces : List (List Char)) : List Component :=
  pieces.filterMap component?

theorem steps_append (pieces others : List (List Char)) :
    steps (pieces ++ others) = steps pieces ++ steps others :=
  List.filterMap_append

/-- A component that some piece between slashes stands for. -/
def IsStep (component : Component) : Prop :=
  component? component.text.toList = some component ∧ '/' ∉ component.text.toList

theorem toList_text_of_component? {piece : List Char} {component : Component}
    (found : component? piece = some component) : component.text.toList = piece := by
  unfold component? at found
  split at found
  · cases found
  · split at found
    · rename_i dots
      cases found
      exact (beq_iff_eq.mp dots).symm
    · cases found
      exact String.toList_ofList

theorem isStep_of_mem_steps {pieces : List (List Char)} {component : Component}
    (cut : ∀ piece ∈ pieces, '/' ∉ piece) (given : component ∈ steps pieces) :
    IsStep component := by
  obtain ⟨piece, listed, found⟩ := List.mem_filterMap.mp given
  have same := toList_text_of_component? found
  exact ⟨same ▸ found, same ▸ cut piece listed⟩

theorem IsStep.ne_root {component : Component} (step : IsStep component) :
    component ≠ .root := by
  rintro rfl
  exact step.2 (by decide)

theorem IsStep.ne_current {component : Component} (step : IsStep component) :
    component ≠ .current := by
  rintro rfl
  exact absurd step.1 (by decide)

def start (path : Path) : List Component :=
  if path.isAbsolute then [.root] else []

/-- What moves in a path: the root if it starts there, and a step for each piece that counts. -/
theorem moves_eq (path : Path) :
    path.moves = path.start ++ steps (Text.split '/' path.chars) := by
  have all : (steps (Text.split '/' path.chars)).filter (· != .current) =
      steps (Text.split '/' path.chars) := by
    apply List.filter_eq_self.mpr
    intro component given
    have step := isStep_of_mem_steps (fun _ => Text.notMem_of_mem_split) given
    exact bne_iff_ne.mpr step.ne_current
  unfold moves components start
  dsimp only
  split
  · rw [List.filter_cons_of_pos (by decide)]
    exact congrArg _ all
  · split
    · rw [List.filter_cons_of_neg (by decide)]
      exact all
    · exact all

theorem mem_moves_cases {path : Path} {component : Component} (given : component ∈ path.moves) :
    component = .root ∨ IsStep component := by
  rw [moves_eq, List.mem_append] at given
  rcases given with first | later
  · unfold start at first
    split at first
    · exact .inl (List.mem_singleton.mp first)
    · exact absurd first List.not_mem_nil
  · exact .inr (isStep_of_mem_steps (fun _ => Text.notMem_of_mem_split) later)

theorem dot_head (rest : List Char) : ('.' :: rest).head? ≠ some '/' := by
  rw [List.head?_cons]
  decide

/-- In a text that begins with no slash, all that moves are its steps. -/
theorem moves_ofList {cs : List Char} (relative : cs.head? ≠ some '/') :
    (Path.mk (String.ofList cs)).isAbsolute = false ∧
      (Path.mk (String.ofList cs)).moves = steps (Text.split '/' cs) := by
  have chars_eq : (Path.mk (String.ofList cs)).chars = cs := String.toList_ofList
  have notAbsolute : (Path.mk (String.ofList cs)).isAbsolute = false := by
    unfold isAbsolute
    rw [chars_eq]
    exact beq_eq_false_iff_ne.mpr relative
  refine ⟨notAbsolute, ?_⟩
  rw [moves_eq, start, notAbsolute, chars_eq]
  rfl

/-- Text behind a path does not change where it starts. -/
theorem moves_append {base : Path} (nonempty : base.chars ≠ []) (more : String) :
    (Path.mk (base.text ++ more)).moves =
      base.start ++ steps (Text.split '/' (base.chars ++ more.toList)) := by
  have chars_eq : (Path.mk (base.text ++ more)).chars = base.chars ++ more.toList :=
    String.toList_append
  have start_eq : (Path.mk (base.text ++ more)).start = base.start := by
    obtain ⟨c, rest, begins⟩ := List.exists_cons_of_ne_nil nonempty
    unfold start isAbsolute
    rw [chars_eq, begins]
    rfl
  rw [moves_eq, start_eq, chars_eq]

/-- A path that is joined to another one goes on where that one leads. -/
theorem moves_join (base other : Path) (relative : other.isAbsolute = false) :
    (base.join other).moves = base.moves ++ other.moves := by
  have start_other : other.start = [] := if_neg (Bool.eq_false_iff.mp relative)
  rw [moves_eq other, start_other, List.nil_append]
  unfold join
  rw [relative, Bool.false_or]
  split
  case isTrue empty =>
    have none : base.moves = [] := by
      rw [moves_eq]
      unfold start isAbsolute chars
      rw [String.isEmpty_iff.mp empty]
      rfl
    rw [none, List.nil_append, moves_eq, start_other, List.nil_append]
  case isFalse filled =>
    have nonempty : base.chars ≠ [] := by
      intro none
      exact filled (String.isEmpty_iff.mpr (String.toList_eq_nil_iff.mp none))
    split
    case isTrue slash =>
      -- The slash at the end of the first path opens an empty piece, which is no step.
      obtain ⟨front, ends⟩ := List.getLast?_eq_some_iff.mp (beq_iff_eq.mp slash)
      have joined : base.chars ++ other.text.toList = front ++ '/' :: other.chars := by
        rw [ends, List.append_assoc, List.singleton_append]
        rfl
      rw [moves_append nonempty, joined, moves_eq base, ends, Text.split_append_separator,
        Text.split_append_separator, steps_append, steps_append, List.append_assoc,
        List.append_assoc]
      rfl
    case isFalse =>
      have joined : base.chars ++ ("/" ++ other.text).toList =
          base.chars ++ '/' :: other.chars := by
        rw [String.toList_append]
        rfl
      rw [String.append_assoc, moves_append nonempty, joined, Text.split_append_separator,
        moves_eq base, steps_append, List.append_assoc]

/-! ## Parents -/

theorem trimPieces_eq (pieces : List (List Char)) :
    trimPieces pieces = pieces.rdropWhile fun piece => (component? piece).isNone :=
  rfl

theorem steps_trimPieces (pieces : List (List Char)) :
    steps (trimPieces pieces) = steps pieces := by
  have none : steps (pieces.rtakeWhile fun piece => (component? piece).isNone) = [] :=
    List.filterMap_eq_nil_iff.mpr fun piece given => Option.isNone_iff_eq_none.mp
      (List.mem_rtakeWhile_imp (p := fun piece => (component? piece).isNone) given)
  have whole := congrArg steps
    (List.rdropWhile_append_rtakeWhile (p := fun piece => (component? piece).isNone) (l := pieces))
  rwa [steps_append, none, List.append_nil, ← trimPieces_eq] at whole

/-- Pieces of which the last one counts, or none. -/
def Counting (pieces : List (List Char)) : Prop :=
  pieces = [] ∨ ∃ front last component, pieces = front ++ [last] ∧ component? last = some component

theorem not_counting_empty : ¬ Counting [[]] := by
  rintro (none | ⟨front, last, component, whole, found⟩)
  · cases none
  · cases front with
    | nil =>
        cases whole
        cases found
    | cons first more => simp at whole

theorem counting_trimPieces (pieces : List (List Char)) : Counting (trimPieces pieces) := by
  by_cases none : trimPieces pieces = []
  · exact .inl none
  · have counts := List.rdropWhile_last_not (fun piece => (component? piece).isNone) pieces none
    obtain ⟨component, found⟩ :=
      Option.ne_none_iff_exists'.mp (mt Option.isNone_iff_eq_none.mpr counts)
    exact .inr ⟨_, _, component, (List.dropLast_concat_getLast none).symm, found⟩

theorem joinPieces_eq (pieces : List (List Char)) :
    joinPieces pieces = ['/'].intercalate pieces := by
  fun_induction joinPieces pieces with
  | case1 => rfl
  | case2 piece => exact List.intercalate_singleton.symm
  | case3 piece rest nonempty ih =>
      rw [List.intercalate_cons_of_ne_nil nonempty, ih, List.append_assoc]
      rfl

theorem steps_joinPieces {pieces : List (List Char)} (cut : ∀ piece ∈ pieces, '/' ∉ piece) :
    steps (Text.split '/' (joinPieces pieces)) = steps pieces := by
  cases pieces with
  | nil => rfl
  | cons first rest =>
      rw [joinPieces_eq, Text.split_eq_splitOn,
        List.splitOn_intercalate '/' cut (List.cons_ne_nil _ _)]

theorem joinPieces_split (cs : List Char) : joinPieces (Text.split '/' cs) = cs := by
  rw [joinPieces_eq, Text.split_eq_splitOn, List.intercalate_splitOn]

theorem joinPieces_prefix {pieces whole : List (List Char)} (first : pieces <+: whole) :
    joinPieces pieces <+: joinPieces whole := by
  induction pieces generalizing whole with
  | nil => exact List.nil_prefix
  | cons piece rest ih =>
      obtain ⟨more, rfl⟩ := first
      cases rest with
      | nil =>
          cases more with
          | nil => exact List.prefix_rfl
          | cons second others => exact List.prefix_append piece _
      | cons second others =>
          obtain ⟨behind, same⟩ := ih (List.prefix_append (second :: others) more)
          refine ⟨behind, ?_⟩
          have unfolded : ∀ l : List (List Char), joinPieces (piece :: second :: l) =
              piece ++ '/' :: joinPieces (second :: l) := fun _ => rfl
          rw [List.cons_append, List.cons_append, unfolded, unfolded, ← List.cons_append, ← same,
            List.append_assoc, List.cons_append]

theorem eq_of_head?_split {cs piece : List Char} (head : (Text.split '/' cs).head? = some piece) :
    cs = piece ∨ ∃ rest, cs = piece ++ '/' :: rest := by
  induction cs generalizing piece with
  | nil =>
      cases head
      exact .inl rfl
  | cons c rest ih =>
      rw [Text.split] at head
      split at head
      · rename_i slash
        cases head
        exact .inr ⟨rest, by rw [slash, List.nil_append]⟩
      · split at head
        · rename_i none
          exact absurd none (Text.split_eq_splitOn '/' rest ▸ List.splitOn_ne_nil '/' rest)
        · rename_i first others cut
          cases head
          rcases ih (congrArg List.head? cut) with same | ⟨behind, same⟩
          · exact .inl (congrArg _ same)
          · exact .inr ⟨behind, congrArg _ same⟩

/-- Behind a beginning of a path that is no step, the pieces of the rest stand for its steps, and so
do the first of them for a path of their own. -/
structure StartsWith (path : Path) (beginning body : List Char) : Prop where
  moves : path.moves = path.start ++ steps (Text.split '/' body)
  front : ∀ pieces, pieces <+: Text.split '/' body → Counting pieces →
    (Path.mk (String.ofList (beginning ++ joinPieces pieces))).moves = path.start ++ steps pieces

theorem steps_joinPieces_of_prefix {body : List Char} {pieces : List (List Char)}
    (cut : pieces <+: Text.split '/' body) :
    steps (Text.split '/' (joinPieces pieces)) = steps pieces :=
  steps_joinPieces fun _ given => Text.notMem_of_mem_split (cut.subset given)

theorem startsWith_slash {path : Path} {body : List Char} (absolute : path.isAbsolute = true)
    (chars_eq : path.chars = '/' :: body) : path.StartsWith ['/'] body where
  moves := by
    rw [moves_eq, chars_eq, Text.split, if_pos rfl]
    rfl
  front pieces cut _ := by
    have given : (Path.mk (String.ofList (['/'] ++ joinPieces pieces))).chars =
        '/' :: joinPieces pieces := String.toList_ofList
    have isRoot : (Path.mk (String.ofList (['/'] ++ joinPieces pieces))).isAbsolute = true := by
      unfold isAbsolute
      rw [given]
      rfl
    rw [moves_eq, start, start, absolute, isRoot, given, Text.split, if_pos rfl,
      ← steps_joinPieces_of_prefix cut]
    rfl

theorem startsWith_dot {path : Path} {body : List Char} (relative : path.start = [])
    (chars_eq : path.chars = '.' :: body) (ends : body = [] ∨ ∃ rest, body = '/' :: rest) :
    path.StartsWith ['.'] body := by
  -- What follows the dot begins with an empty piece.
  obtain ⟨others, split_body, split_dot⟩ : ∃ others, Text.split '/' body = [] :: others ∧
      Text.split '/' ('.' :: body) = ['.'] :: others := by
    rcases ends with rfl | ⟨rest, rfl⟩
    · exact ⟨[], rfl, rfl⟩
    · exact ⟨Text.split '/' rest, rfl, rfl⟩
  constructor
  case moves =>
    rw [moves_eq, chars_eq, split_body, split_dot]
    rfl
  case front =>
    intro pieces cut counting
    rw [relative, List.nil_append]
    have within : ∀ piece ∈ pieces, '/' ∉ piece :=
      fun _ given => Text.notMem_of_mem_split (cut.subset given)
    rw [split_body] at cut
    cases pieces with
    | nil => rfl
    | cons first rest =>
        rw [(List.cons_prefix_cons.mp cut).1] at counting ⊢
        cases rest with
        | nil => exact absurd counting not_counting_empty
        | cons second more =>
            have text : ['.'] ++ joinPieces ([] :: second :: more) =
                ['.'] ++ '/' :: joinPieces (second :: more) := rfl
            have moving := (moves_ofList (dot_head ('/' :: joinPieces (second :: more)))).2
            rw [text, List.singleton_append, moving, ← List.singleton_append,
              Text.split_append_separator, steps_append,
              steps_joinPieces fun piece given => within piece (List.mem_cons_of_mem first given)]
            rfl

theorem startsWith_nil {path : Path} (relative : path.isAbsolute = false) :
    path.StartsWith [] path.chars where
  moves := moves_eq path
  front pieces cut _ := by
    have noSlash : (joinPieces pieces).head? ≠ some '/' := by
      intro slash
      apply Bool.eq_false_iff.mp relative
      obtain ⟨rest, begins⟩ := List.head?_eq_some_iff.mp slash
      obtain ⟨behind, whole⟩ := joinPieces_prefix cut
      have chars_eq : path.chars = '/' :: (rest ++ behind) := by
        rw [← joinPieces_split path.chars, ← whole, begins, List.cons_append]
      unfold isAbsolute
      rw [chars_eq]
      rfl
    rw [List.nil_append, (moves_ofList noSlash).2, steps_joinPieces_of_prefix cut, start, relative]
    rfl

theorem exists_splitStart (path : Path) :
    ∃ beginning body, path.splitStart = (beginning, body) ∧ path.StartsWith beginning body := by
  unfold splitStart
  split
  case isTrue absolute =>
    obtain ⟨body, chars_eq⟩ : ∃ body, path.chars = '/' :: body :=
      List.head?_eq_some_iff.mp (beq_iff_eq.mp absolute)
    exact ⟨['/'], body, by rw [chars_eq]; rfl, startsWith_slash absolute chars_eq⟩
  case isFalse relative =>
    split
    case isTrue dot =>
      obtain ⟨body, chars_eq, ends⟩ : ∃ body, path.chars = '.' :: body ∧
          (body = [] ∨ ∃ rest, body = '/' :: rest) := by
        rcases eq_of_head?_split (beq_iff_eq.mp dot) with same | ⟨rest, same⟩
        · exact ⟨[], same, .inl rfl⟩
        · exact ⟨'/' :: rest, same, .inr ⟨rest, rfl⟩⟩
      exact ⟨['.'], body, by rw [chars_eq]; rfl, startsWith_dot (if_neg relative) chars_eq ends⟩
    case isFalse =>
      exact ⟨[], path.chars, rfl, startsWith_nil (Bool.eq_false_iff.mpr relative)⟩

/-- The parent of a path has its steps but for the last one. -/
theorem moves_parent {path : Path} (moving : steps (Text.split '/' path.chars) ≠ []) :
    path.parent.moves = path.moves.dropLast := by
  obtain ⟨beginning, body, split_start, moves_body, front_moves⟩ := exists_splitStart path
  have steps_body : steps (Text.split '/' body) = steps (Text.split '/' path.chars) :=
    List.append_cancel_left (moves_body.symm.trans (moves_eq path))
  obtain none | ⟨front, last, component, trimmed, counts⟩ :=
    counting_trimPieces (Text.split '/' body)
  · rw [← steps_body, ← steps_trimPieces, none] at moving
    exact absurd rfl moving
  · have front_prefix : trimPieces front <+: Text.split '/' body := by
      have first : front <+: trimPieces (Text.split '/' body) := trimmed ▸ List.prefix_append _ _
      exact ((List.rdropWhile_prefix _ front).trans first).trans (List.rdropWhile_prefix _ _)
    have parent_eq : path.parent =
        ⟨String.ofList (beginning ++ joinPieces (trimPieces front))⟩ := by
      unfold parent parent?
      rw [split_start]
      dsimp only
      rw [trimmed]
      split
      · rename_i none
        exact absurd none (List.append_ne_nil_of_right_ne_nil _ (List.cons_ne_nil _ _))
      · rw [List.dropLast_concat]
        rfl
    have steps_last : steps (front ++ [last]) = steps front ++ [component] := by
      rw [steps_append]
      simp [steps, counts]
    rw [parent_eq, front_moves _ front_prefix (counting_trimPieces front), steps_trimPieces,
      moves_body, ← steps_trimPieces (Text.split '/' body), trimmed, steps_last,
      ← List.append_assoc, List.dropLast_concat]

/-- Nothing is left of a path without steps, not even the root. -/
theorem moves_parent_of_steps_eq_nil {path : Path}
    (still : steps (Text.split '/' path.chars) = []) : path.parent.moves = [] := by
  obtain ⟨beginning, body, split_start, moves_body, -⟩ := exists_splitStart path
  have steps_body : steps (Text.split '/' body) = [] :=
    (List.append_cancel_left (moves_body.symm.trans (moves_eq path))).trans still
  have none : trimPieces (Text.split '/' body) = [] := by
    obtain none | ⟨front, last, component, trimmed, counts⟩ :=
      counting_trimPieces (Text.split '/' body)
    · exact none
    · rw [← steps_trimPieces, trimmed, steps_append] at steps_body
      simp [steps, counts] at steps_body
  have parent_eq : path.parent = ⟨""⟩ := by
    unfold parent parent?
    rw [split_start]
    dsimp only
    rw [none]
    dsimp only
    split <;> rfl
  rw [parent_eq]
  rfl

theorem moves_parent_prefix (path : Path) : path.parent.moves <+: path.moves := by
  by_cases still : steps (Text.split '/' path.chars) = []
  · rw [moves_parent_of_steps_eq_nil still]
    exact List.nil_prefix
  · rw [moves_parent still]
    exact List.dropLast_prefix _

end Path

end ClientGen
