import ClientGen.Proofs.NormalForm
import ClientGen.Proofs.ParameterMerging
import ClientGen.Proofs.Substitution

/-!
# Where relative specifiers lead

A specifier undoes the steps of a directory that its target does not share, and goes on along the
others of the target. It leads to the target exactly if the steps that it undoes are all names, and
it looks like a relative path exactly if it neither is a single step to the parent nor begins with a
name that begins with two dots itself.
-/

namespace ClientGen

namespace Text

theorem stripEnd?_eq_some_iff (ending s rest : String) :
    stripEnd? ending s = some rest ↔ s = rest ++ ending := by
  unfold stripEnd? dropEnd?
  rw [Option.map_map, Option.map_eq_some_iff]
  constructor
  · rintro ⟨after, found, rfl⟩
    have reversed := congrArg List.reverse (eq_of_dropStart? found)
    rw [List.reverse_reverse, List.reverse_append, List.reverse_reverse] at reversed
    apply String.toList_inj.mp
    rw [reversed, String.toList_append, Function.comp_apply, String.toList_ofList]
  · rintro rfl
    refine ⟨rest.toList.reverse, ?_, ?_⟩
    · rw [String.toList_append, List.reverse_append, dropStart?_append]
    · rw [Function.comp_apply, List.reverse_reverse, String.ofList_toList]

theorem stripEnd?_append {sep : Char} {ending : String} (without : sep ∉ ending.toList)
    (before behind : String) :
    stripEnd? ending (before ++ String.singleton sep ++ behind) =
      (stripEnd? ending behind).map (before ++ String.singleton sep ++ ·) := by
  apply Option.ext
  intro rest
  rw [stripEnd?_eq_some_iff, Option.map_eq_some_iff]
  constructor
  · intro same
    have chars := congrArg String.toList same
    simp only [String.toList_append, String.toList_singleton, List.append_assoc,
      List.singleton_append] at chars
    rcases List.append_eq_append_iff.mp chars with ⟨excess, rest_eq, ends⟩ | ⟨excess, -, ends⟩
    · cases excess with
      | nil =>
          rw [List.nil_append] at ends
          exact absurd (ends ▸ List.mem_cons_self) without
      | cons c kept =>
          rw [List.cons_append, List.cons.injEq] at ends
          refine ⟨String.ofList kept, ?_, ?_⟩
          · rw [stripEnd?_eq_some_iff]
            apply String.toList_inj.mp
            rw [ends.2, String.toList_append, String.toList_ofList]
          · apply String.toList_inj.mp
            rw [rest_eq, ← ends.1]
            simp
    · exact absurd (ends ▸ List.mem_append_right excess List.mem_cons_self) without
  · rintro ⟨kept, found, rfl⟩
    rw [(stripEnd?_eq_some_iff _ _ _).mp found, ← String.append_assoc]

end Text

namespace Path

/-! ## Shared steps -/

/-- What two lists share is cut off both, and as much of it as possible. -/
theorem exists_shared {a b up down : List Component} (cut : dropShared a b = (up, down)) :
    ∃ shared, a = shared ++ up ∧ b = shared ++ down ∧ (down <+: up → down = []) := by
  fun_induction dropShared a b with
  | case1 as x bs ih =>
      obtain ⟨shared, first, second, apart⟩ := ih cut
      exact ⟨x :: shared, congrArg _ first, congrArg _ second, apart⟩
  | case2 x as y bs other =>
      cases cut
      refine ⟨[], rfl, rfl, fun shared => ?_⟩
      exact absurd (List.cons_prefix_cons.mp shared).1.symm other
  | case3 as bs ends =>
      cases cut
      refine ⟨[], rfl, rfl, fun shared => ?_⟩
      cases down with
      | nil => rfl
      | cons y bs =>
          obtain ⟨more, rfl⟩ := shared
          exact (ends y (bs ++ more) y bs rfl rfl).elim

/-- The steps of a directory that a target does not share. -/
def undone (directory target : Path) : List Component :=
  (dropShared directory.moves target.moves).1

/-- The steps of a target that a directory does not share. -/
def onward (directory target : Path) : List Component :=
  (dropShared directory.moves target.moves).2

/-- The steps from a directory to a target. -/
def specifierSteps (directory target : Path) : List Component :=
  List.replicate (undone directory target).length .parent ++ onward directory target

theorem exists_moves_eq (directory target : Path) :
    ∃ shared, directory.moves = shared ++ undone directory target ∧
      target.moves = shared ++ onward directory target := by
  obtain ⟨shared, first, second, -⟩ := exists_shared
    (rfl : _ = (undone directory target, onward directory target))
  exact ⟨shared, first, second⟩

/-- A specifier goes on unless its target lies on the way to the directory. -/
theorem onward_eq_nil_iff (directory target : Path) :
    onward directory target = [] ↔ target.moves <+: directory.moves := by
  obtain ⟨shared, first, second, apart⟩ := exists_shared
    (rfl : _ = (undone directory target, onward directory target))
  rw [first, second]
  constructor
  · intro none
    rw [none, List.append_nil]
    exact List.prefix_append _ _
  · intro onWay
    exact apart ((List.prefix_append_right_inj shared).mp onWay)

section Together

variable {directory target : Path} (together : directory.isAbsolute = target.isAbsolute)
include together

theorem dropShared_moves :
    dropShared directory.moves target.moves =
      dropShared (steps (Text.split '/' directory.chars))
        (steps (Text.split '/' target.chars)) := by
  rw [moves_eq, moves_eq, start, start, together]
  split
  · rw [List.singleton_append, List.singleton_append, dropShared, if_pos rfl]
  · rfl

theorem isStep_of_mem_unshared {component : Component}
    (given : component ∈ undone directory target ∨ component ∈ onward directory target) :
    IsStep component := by
  have cut : dropShared (steps (Text.split '/' directory.chars))
      (steps (Text.split '/' target.chars)) = (undone directory target, onward directory target) :=
    (dropShared_moves together).symm
  obtain ⟨shared, first, second, -⟩ := exists_shared cut
  rcases given with up | down
  · apply isStep_of_mem_steps (fun _ => Text.notMem_of_mem_split)
    rw [first]
    exact List.mem_append_right shared up
  · apply isStep_of_mem_steps (fun _ => Text.notMem_of_mem_split)
    rw [second]
    exact List.mem_append_right shared down

theorem isStep_of_mem_specifierSteps {component : Component}
    (given : component ∈ specifierSteps directory target) : IsStep component := by
  rcases List.mem_append.mp given with up | down
  · rw [List.eq_of_mem_replicate up]
    exact ⟨by decide, by decide⟩
  · exact isStep_of_mem_unshared together (.inr down)

theorem names_undone_iff :
    (∀ c ∈ undone directory target, ∃ name, c = .name name) ↔
      .parent ∉ undone directory target := by
  constructor
  · intro names up
    obtain ⟨name, same⟩ := names _ up
    cases same
  · intro noParent c given
    have step := isStep_of_mem_unshared together (.inl given)
    cases c with
    | name name => exact ⟨name, rfl⟩
    | root => exact absurd rfl step.ne_root
    | current => exact absurd rfl step.ne_current
    | parent => exact absurd given noParent

end Together

/-! ## The text of a specifier -/

def stepsText (components : List Component) : List Char :=
  ['/'].intercalate (components.map fun component => component.text.toList)

theorem stepsText_cons_cons (first second : Component) (rest : List Component) :
    stepsText (first :: second :: rest) =
      first.text.toList ++ '/' :: stepsText (second :: rest) := by
  unfold stepsText
  rw [List.map_cons, List.map_cons, List.intercalate_cons_cons, List.append_assoc]
  rfl

theorem stepsText_concat (components : List Component) (nonempty : components ≠ [])
    (last : Component) :
    stepsText (components ++ [last]) = stepsText components ++ '/' :: last.text.toList := by
  induction components with
  | nil => exact absurd rfl nonempty
  | cons first rest ih =>
      cases rest with
      | nil => simp [stepsText]
      | cons second others =>
          rw [List.cons_append, List.cons_append, stepsText_cons_cons, ← List.cons_append,
            ih (List.cons_ne_nil _ _), stepsText_cons_cons, List.append_assoc, List.cons_append]

theorem steps_map_text {components : List Component} (each : ∀ c ∈ components, IsStep c) :
    steps (components.map fun c => c.text.toList) = components := by
  induction components with
  | nil => rfl
  | cons first rest ih =>
      unfold steps at ih ⊢
      rw [List.map_cons, List.filterMap_cons_some (each first List.mem_cons_self).1,
        ih fun c later => each c (List.mem_cons_of_mem first later)]

/-- Steps are read back from their text. -/
theorem steps_stepsText {components : List Component} (each : ∀ c ∈ components, IsStep c) :
    steps (Text.split '/' (stepsText components)) = components := by
  cases components with
  | nil => rfl
  | cons first rest =>
      have cut : Text.split '/' (stepsText (first :: rest)) =
          (first :: rest).map fun c => c.text.toList := by
        rw [Text.split_eq_splitOn, stepsText, List.splitOn_intercalate]
        · intro piece listed
          obtain ⟨c, given, rfl⟩ := List.mem_map.mp listed
          exact (each c given).2
        · exact List.cons_ne_nil _ _
      rw [cut, steps_map_text each]

theorem toList_relativeSpecifier (directory target : Path) :
    (relativeSpecifier directory target).toList =
      if ['.', '.'] <+: stepsText (specifierSteps directory target) then
        stepsText (specifierSteps directory target)
      else '.' :: '/' :: stepsText (specifierSteps directory target) := by
  have joined : (Text.join "/" ((undone directory target).map (fun _ => "..") ++
      (onward directory target).map Component.text)).toList =
        stepsText (specifierSteps directory target) := by
    have both : (undone directory target).map (fun _ => "..") ++
        (onward directory target).map Component.text =
          (specifierSteps directory target).map Component.text := by
      unfold specifierSteps
      rw [List.map_append, List.map_replicate, List.map_const']
      rfl
    rw [both, show "/" = String.singleton '/' from rfl, Text.toList_join_eq, List.map_map]
    rfl
  have unfolded : relativeSpecifier directory target =
      let specifier := Text.join "/" ((undone directory target).map (fun _ => "..") ++
        (onward directory target).map Component.text)
      if (Text.dropStart? ['.', '.'] specifier.toList).isSome then specifier
      else "./" ++ specifier := rfl
  rw [unfolded]
  dsimp only
  rw [joined, Text.isSome_dropStart?]
  by_cases dots : ['.', '.'] <+: stepsText (specifierSteps directory target)
  · rw [if_pos dots, if_pos (List.isPrefixOf_iff_prefix.mpr dots), joined]
  · rw [if_neg dots, if_neg (mt List.isPrefixOf_iff_prefix.mp dots), String.toList_append, joined]
    rfl

theorem steps_split_append (front rest : List Char) (without : '/' ∉ rest) :
    steps (Text.split '/' (front ++ '/' :: rest)) =
      steps (Text.split '/' front) ++ (component? rest).toList := by
  rw [Text.split_append_separator, steps_append, Text.split_of_notMem without]
  cases found : component? rest <;> simp [steps, found]

theorem dots_head {cs : List Char} (dots : ['.', '.'] <+: cs) : cs.head? ≠ some '/' := by
  obtain ⟨rest, rfl⟩ := dots
  exact dot_head _

theorem moves_dot_slash (cs : List Char) :
    (Path.mk (String.ofList ('.' :: '/' :: cs))).isAbsolute = false ∧
      (Path.mk (String.ofList ('.' :: '/' :: cs))).moves = steps (Text.split '/' cs) := by
  have relative : ('.' :: '/' :: cs).head? ≠ some '/' := dot_head _
  refine ⟨(moves_ofList relative).1, (moves_ofList relative).2.trans ?_⟩
  rw [← List.singleton_append, Text.split_append_separator, steps_append]
  rfl

/-- Behind its last slash, the text of steps has the last of them. Another text put there leads on
from where the steps before it lead. -/
theorem exists_stepsText_concat (before : List Component) (last : Component) :
    ∃ front, stepsText (before ++ [last]) = front ++ last.text.toList ∧
      (front = [] ∨ ∃ more, front = more ++ ['/']) ∧
      ((∀ c ∈ before, IsStep c) → ∀ rest, '/' ∉ rest →
        steps (Text.split '/' (front ++ rest)) = before ++ (component? rest).toList) := by
  by_cases single : before = []
  · subst single
    refine ⟨[], by simp [stepsText], .inl rfl, fun _ rest without => ?_⟩
    rw [List.nil_append, List.nil_append, Text.split_of_notMem without]
    cases found : component? rest <;> simp [steps, found]
  · refine ⟨stepsText before ++ ['/'], ?_, .inr ⟨_, rfl⟩, fun each rest without => ?_⟩
    · rw [stepsText_concat before single, List.append_assoc, List.singleton_append]
    · rw [List.append_assoc, List.singleton_append, steps_split_append _ _ without,
        steps_stepsText each]

/-- The same of a specifier. -/
theorem exists_beginning {directory target : Path} {before : List Component} {last : Component}
    (cut : specifierSteps directory target = before ++ [last]) :
    ∃ beginning, (relativeSpecifier directory target).toList = beginning ++ last.text.toList ∧
      (beginning = [] ∨ ∃ front, beginning = front ++ ['/']) ∧
      ((∀ c ∈ before, IsStep c) → ∀ rest, '/' ∉ rest →
        (Path.mk (String.ofList (beginning ++ rest))).isAbsolute = false ∧
          (Path.mk (String.ofList (beginning ++ rest))).moves =
            before ++ (component? rest).toList) := by
  obtain ⟨front, text, ends, leads⟩ := exists_stepsText_concat before last
  have whole := toList_relativeSpecifier directory target
  rw [cut, text] at whole
  split at whole
  case isTrue dots =>
    refine ⟨front, whole, ends, fun each rest without => ?_⟩
    have relative : (front ++ rest).head? ≠ some '/' := by
      by_cases none : front = []
      · rw [none]
        exact fun head => without (List.mem_of_head? head)
      · have head := dots_head dots
        rwa [List.head?_append_of_ne_nil _ none] at head ⊢
    exact ⟨(moves_ofList relative).1, (moves_ofList relative).2.trans (leads each rest without)⟩
  case isFalse =>
    refine ⟨'.' :: '/' :: front, whole, .inr ?_, fun each rest without => ?_⟩
    · rcases ends with rfl | ⟨more, rfl⟩
      · exact ⟨['.'], rfl⟩
      · exact ⟨'.' :: '/' :: more, rfl⟩
    · obtain ⟨relative, moving⟩ := moves_dot_slash (front ++ rest)
      exact ⟨relative, moving.trans (leads each rest without)⟩

section Together

variable {directory target : Path} (together : directory.isAbsolute = target.isAbsolute)
include together

/-- The steps of a specifier are read back from it. -/
theorem moves_relativeSpecifier :
    (Path.mk (relativeSpecifier directory target)).isAbsolute = false ∧
      (Path.mk (relativeSpecifier directory target)).moves = specifierSteps directory target := by
  have each : ∀ component ∈ specifierSteps directory target, IsStep component :=
    fun _ => isStep_of_mem_specifierSteps together
  rw [← String.ofList_toList (s := relativeSpecifier directory target),
    toList_relativeSpecifier directory target]
  split
  case isTrue dots =>
    obtain ⟨relative, moving⟩ := moves_ofList (dots_head dots)
    exact ⟨relative, moving.trans (steps_stepsText each)⟩
  case isFalse =>
    obtain ⟨relative, moving⟩ := moves_dot_slash (stepsText (specifierSteps directory target))
    exact ⟨relative, moving.trans (steps_stepsText each)⟩

end Together

/-! ## Extensions -/

def dropExtension (text : String) : String :=
  (importExtensions.findSome? fun ending => Text.stripEnd? ending text).getD text

theorem importSpecifier_eq (directory target : Path) :
    importSpecifier directory target = dropExtension (relativeSpecifier directory target) :=
  rfl

theorem findSome?_stripEnd?_append {endings : List String}
    (without : ∀ ending ∈ endings, '/' ∉ ending.toList) (before name : String) :
    (endings.findSome? fun ending => Text.stripEnd? ending (before ++ "/" ++ name)) =
      (endings.findSome? fun ending => Text.stripEnd? ending name).map (before ++ "/" ++ ·) := by
  induction endings with
  | nil => rfl
  | cons ending rest ih =>
      have first : Text.stripEnd? ending (before ++ "/" ++ name) =
          (Text.stripEnd? ending name).map (before ++ "/" ++ ·) :=
        Text.stripEnd?_append (without ending List.mem_cons_self) before name
      rw [List.findSome?_cons, List.findSome?_cons, first]
      cases Text.stripEnd? ending name with
      | some kept => rfl
      | none => exact ih fun other later => without other (List.mem_cons_of_mem ending later)

theorem dropExtension_append (before name : String) :
    dropExtension (before ++ "/" ++ name) = before ++ "/" ++ dropExtension name := by
  unfold dropExtension
  rw [findSome?_stripEnd?_append (by decide)]
  cases importExtensions.findSome? fun ending => Text.stripEnd? ending name <;> rfl

theorem exists_dropExtension_append (text : String) :
    ∃ ending ∈ "" :: importExtensions, dropExtension text ++ ending = text := by
  unfold dropExtension
  cases found : importExtensions.findSome? fun ending => Text.stripEnd? ending text with
  | none => exact ⟨"", List.mem_cons_self, String.append_empty⟩
  | some rest =>
      obtain ⟨ending, listed, ends⟩ := List.exists_of_findSome?_eq_some found
      have whole := (Text.stripEnd?_eq_some_iff _ _ _).mp ends
      exact ⟨ending, List.mem_cons_of_mem _ listed, whole.symm⟩

/-- What moves in a path whose last name has lost its extension. -/
def bareMoves (path : Path) : List Component :=
  match path.moves.getLast? with
  | some (.name name) =>
      path.moves.dropLast ++ (component? (dropExtension name).toList).toList
  | _ => path.moves

theorem dropExtension_eq_self {text : String} {front : List Char}
    (dot : text.toList = front ++ ['.']) : dropExtension text = text := by
  obtain ⟨ending, listed, whole⟩ := exists_dropExtension_append text
  have lasts : ∀ ending ∈ importExtensions,
      ending.toList.getLast? ≠ some '.' ∧ ending.toList ≠ [] := by
    decide
  rcases List.mem_cons.mp listed with rfl | listed
  · rw [String.append_empty] at whole
    exact whole
  · obtain ⟨notDot, nonempty⟩ := lasts ending listed
    have chars := congrArg (fun s => s.toList.getLast?) whole
    simp only [String.toList_append, dot, List.getLast?_append, List.getLast?_singleton,
      Option.some_or] at chars
    cases last : ending.toList.getLast? with
    | none => exact absurd (List.getLast?_eq_none_iff.mp last) nonempty
    | some c =>
        rw [last, Option.some_or] at chars
        exact absurd (last.trans chars) notDot

/-- The last name in an import specifier is the one of the target without its extension. -/
theorem moves_importSpecifier {directory target : Path}
    (together : directory.isAbsolute = target.isAbsolute) {before : List Component} {name : String}
    (cut : specifierSteps directory target = before ++ [.name name]) :
    (Path.mk (importSpecifier directory target)).isAbsolute = false ∧
      (Path.mk (importSpecifier directory target)).moves =
        before ++ (component? (dropExtension name).toList).toList := by
  obtain ⟨beginning, text, ends, leads⟩ := exists_beginning cut
  have each : ∀ c ∈ before ++ [.name name], IsStep c :=
    fun c given => isStep_of_mem_specifierSteps together (cut ▸ given)
  have step : IsStep (.name name) := each _ (List.mem_append_right _ List.mem_cons_self)
  have without : '/' ∉ (dropExtension name).toList := by
    obtain ⟨ending, -, whole⟩ := exists_dropExtension_append name
    intro slash
    apply step.2
    rw [Component.text, ← whole, String.toList_append]
    exact List.mem_append_left _ slash
  have specifier : importSpecifier directory target =
      String.ofList (beginning ++ (dropExtension name).toList) := by
    rw [importSpecifier_eq, ← String.ofList_toList (s := relativeSpecifier directory target), text]
    rcases ends with rfl | ⟨front, rfl⟩
    · rw [List.nil_append, List.nil_append, String.ofList_toList, Component.text,
        String.ofList_toList]
    · have joined : ∀ rest : String, String.ofList (front ++ ['/'] ++ rest.toList) =
          String.ofList front ++ "/" ++ rest := by
        intro rest
        rw [String.ofList_append, String.ofList_append, String.ofList_toList]
      rw [joined, joined, Component.text, dropExtension_append]
  rw [specifier]
  exact leads (fun c given => each c (List.mem_append_left _ given)) _ without

/-- Without their extensions, targets and specifiers have the same steps behind what is shared. -/
theorem moves_importSpecifier_bareMoves {directory target : Path}
    (together : directory.isAbsolute = target.isAbsolute)
    (below : ¬ target.moves <+: directory.moves) {shared : List Component}
    (whole : target.moves = shared ++ onward directory target) :
    (Path.mk (importSpecifier directory target)).isAbsolute = false ∧
      ∃ bare, target.bareMoves = shared ++ bare ∧
        (Path.mk (importSpecifier directory target)).moves =
          List.replicate (undone directory target).length .parent ++ bare := by
  have nonempty : onward directory target ≠ [] := mt (onward_eq_nil_iff directory target).mp below
  obtain ⟨front, last, onward_eq⟩ := (List.eq_nil_or_concat' _).resolve_left nonempty
  have cut : specifierSteps directory target =
      List.replicate (undone directory target).length .parent ++ front ++ [last] := by
    rw [specifierSteps, onward_eq, List.append_assoc]
  have moves_eq_concat : target.moves = shared ++ front ++ [last] := by
    rw [whole, onward_eq, List.append_assoc]
  have step : IsStep last :=
    isStep_of_mem_unshared together (.inr (onward_eq ▸ by simp))
  cases last with
  | root => exact absurd rfl step.ne_root
  | current => exact absurd rfl step.ne_current
  | name name =>
      refine ⟨(moves_importSpecifier together cut).1,
        front ++ (component? (dropExtension name).toList).toList, ?_, ?_⟩
      · unfold bareMoves
        rw [moves_eq_concat, List.getLast?_concat]
        dsimp only
        rw [List.dropLast_concat, List.append_assoc]
      · rw [(moves_importSpecifier together cut).2, List.append_assoc]
  | parent =>
      -- The text ends with a dot, so no extension is taken off.
      obtain ⟨beginning, text, -⟩ := exists_beginning cut
      have kept : importSpecifier directory target = relativeSpecifier directory target := by
        rw [importSpecifier_eq]
        have dot : (relativeSpecifier directory target).toList = (beginning ++ ['.']) ++ ['.'] := by
          rw [text, List.append_assoc]
          rfl
        exact dropExtension_eq_self dot
      rw [kept]
      refine ⟨(moves_relativeSpecifier together).1, onward directory target, ?_, ?_⟩
      · unfold bareMoves
        rw [moves_eq_concat, List.getLast?_concat, onward_eq, List.append_assoc]
      · exact (moves_relativeSpecifier together).2

/-! ## Relative paths -/

/-- A specifier that is looked up from the importing file and not among packages. -/
def IsRelative (specifier : String) : Prop :=
  ['.', '/'] <+: specifier.toList ∨ ['.', '.', '/'] <+: specifier.toList

theorem dots_prefix_append_iff {name : List Char} {component : Component}
    (found : component? name = some component) {behind : List Char}
    (ends : behind = [] ∨ ['/'] <+: behind) :
    ['.', '.'] <+: name ++ behind ↔ ['.', '.'] <+: name := by
  match name, found with
  | [c], _ =>
      rcases ends with rfl | ⟨rest, rfl⟩
      · rw [List.append_nil]
      · simp
  | a :: b :: more, _ => simp [List.cons_prefix_cons]

theorem not_relative_of_dots {name : String} (step : IsStep (.name name))
    (dots : ['.', '.'] <+: name.toList) (behind : List Char) :
    ¬ (['.', '/'] <+: name.toList ++ behind ∨ ['.', '.', '/'] <+: name.toList ++ behind) := by
  obtain ⟨more, begins⟩ := dots
  obtain ⟨found, without⟩ := step
  simp only [Component.text, ← begins] at found without ⊢
  cases more with
  | nil => cases found
  | cons c rest =>
      have other : '/' ≠ c := by
        rintro rfl
        exact without (by simp)
      simp [other]

theorem isRelative_relativeSpecifier_iff {directory target : Path}
    (together : directory.isAbsolute = target.isAbsolute) :
    IsRelative (relativeSpecifier directory target) ↔
      specifierSteps directory target ≠ [.parent] ∧
        ∀ name, (specifierSteps directory target).head? = some (.name name) →
          ¬ ['.', '.'] <+: name.toList := by
  have each : ∀ c ∈ specifierSteps directory target, IsStep c :=
    fun c given => isStep_of_mem_specifierSteps together given
  have text := toList_relativeSpecifier directory target
  unfold IsRelative
  rw [text]
  generalize specifierSteps directory target = components at each
  cases components with
  | nil => simp [stepsText]
  | cons first rest =>
      have step := each first List.mem_cons_self
      -- A first step is followed by nothing or by a slash.
      obtain ⟨behind, stepsText_eq, ends⟩ : ∃ behind,
          stepsText (first :: rest) = first.text.toList ++ behind ∧
            (rest = [] ∧ behind = [] ∨ rest ≠ [] ∧ ['/'] <+: behind) := by
        cases rest with
        | nil => exact ⟨[], by simp [stepsText], .inl ⟨rfl, rfl⟩⟩
        | cons second others =>
            exact ⟨_, stepsText_cons_cons first second others,
              .inr ⟨List.cons_ne_nil _ _, List.prefix_append ['/'] _⟩⟩
      rw [stepsText_eq]
      cases first with
      | root => exact absurd rfl step.ne_root
      | current => exact absurd rfl step.ne_current
      | parent =>
          have dots : ['.', '.'] <+: Component.parent.text.toList ++ behind :=
            List.prefix_append ['.', '.'] behind
          rw [if_pos dots]
          rcases ends with ⟨rfl, rfl⟩ | ⟨more, slash⟩
          · simp [Component.text]
          · refine iff_of_true (.inr ?_) ⟨by simpa using more, by simp⟩
            exact (List.prefix_append_right_inj ['.', '.']).mpr slash
      | name name =>
          have dots_iff := dots_prefix_append_iff step.1 (ends.imp And.right And.right)
          by_cases dots : ['.', '.'] <+: name.toList
          · rw [if_pos (dots_iff.mpr dots)]
            refine iff_of_false (not_relative_of_dots step dots behind) fun apart => ?_
            exact apart.2 name rfl dots
          · rw [if_neg (mt dots_iff.mp dots)]
            refine iff_of_true (.inl (List.prefix_append ['.', '/'] _)) ⟨by simp, ?_⟩
            intro other head
            cases head
            exact dots

/-! ## Where specifiers lead -/

/-- From a directory, a specifier leads to its target exactly if all the steps that it undoes are
names, and so does, to the target without its extension, the specifier for an import. The specifier
begins with a dot and a slash or two dots and a slash, but where it is one step to the parent or its
first step is a name that begins with two dots. -/
theorem relativeSpecifier_leads_iff (directory target : Path)
    (together : directory.isAbsolute = target.isAbsolute) :
    (IsRelative (relativeSpecifier directory target) ↔
      specifierSteps directory target ≠ [.parent] ∧
        ∀ name, (specifierSteps directory target).head? = some (.name name) →
          ¬ ['.', '.'] <+: name.toList) ∧
    ((directory.join ⟨relativeSpecifier directory target⟩).normalized = target.normalized ↔
      .parent ∉ undone directory target) ∧
    (¬ target.moves <+: directory.moves →
      ((directory.join ⟨importSpecifier directory target⟩).normalized =
          normalForm target.bareMoves ↔
        .parent ∉ undone directory target)) := by
  obtain ⟨shared, first, second⟩ := exists_moves_eq directory target
  refine ⟨isRelative_relativeSpecifier_iff together, ?_, fun below => ?_⟩
  · obtain ⟨relative, leads⟩ := moves_relativeSpecifier together
    rw [normalized_eq, normalized_eq, moves_join directory _ relative, leads, first, second,
      specifierSteps, normalForm_undo_iff, names_undone_iff together]
  · obtain ⟨relative, bare, bare_eq, leads⟩ := moves_importSpecifier_bareMoves together below second
    rw [normalized_eq, moves_join directory _ relative, leads, first, bare_eq,
      normalForm_undo_iff, names_undone_iff together]

theorem relativeSpecifier_leads_types :
    (Path.mk "src/api").isAbsolute = (Path.mk "src/./types/api.d.ts").isAbsolute ∧
      relativeSpecifier ⟨"src/api"⟩ ⟨"src/./types/api.d.ts"⟩ = "../types/api.d.ts" ∧
      ((Path.mk "src/api").join
          ⟨relativeSpecifier ⟨"src/api"⟩ ⟨"src/./types/api.d.ts"⟩⟩).normalized =
        (Path.mk "src/./types/api.d.ts").normalized ∧
      ((Path.mk "src/api").join ⟨importSpecifier ⟨"src/api"⟩ ⟨"src/./types/api.d.ts"⟩⟩).normalized =
        [.name "src", .name "types", .name "api"] := by
  have leads := relativeSpecifier_leads_iff ⟨"src/api"⟩ ⟨"src/./types/api.d.ts"⟩ (by decide)
  exact ⟨by decide, by decide, leads.2.1.mpr (by decide), (leads.2.2 (by decide)).mpr (by decide)⟩

/-- A file whose name begins with two dots is looked up among packages, and steps up from a
directory that is written with a step to the parent lead too far. -/
theorem not_leads_dotted :
    ¬ IsRelative (relativeSpecifier ⟨""⟩ ⟨"..api.ts"⟩) ∧
      ((Path.mk "a/../b").join ⟨relativeSpecifier ⟨"a/../b"⟩ ⟨"c/x.ts"⟩⟩).normalized ≠
        (Path.mk "c/x.ts").normalized := by
  unfold IsRelative
  decide

end Path

end ClientGen
