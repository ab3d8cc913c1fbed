import ClientGen.Proofs.RelativeSpecifier
import ClientGen.Record

/-!
# How the request file imports its types

The specifier for the types, with one of the endings that imports leave out, is the relative path of
their file, and with none of them that of the request file. It is refused exactly if both files lose
their endings to one specifier and the types are no declaration file that could be told apart by
keeping its `.d`.
-/

namespace ClientGen

namespace Path

/-! ## File names -/

theorem components_eq (path : Path) :
    path.components = path.moves ∨ path.components = .current :: path.moves := by
  have plain := moves_eq path
  unfold start at plain
  unfold components
  dsimp only
  split
  · rename_i absolute
    rw [if_pos absolute] at plain
    exact .inl plain.symm
  · rename_i relative
    rw [if_neg relative] at plain
    split
    · exact .inr (congrArg _ plain.symm)
    · exact .inl plain.symm

theorem fileName?_eq_some_iff (path : Path) (name : String) :
    path.fileName? = some name ↔ path.moves.getLast? = some (.name name) := by
  have last : path.components.getLast? = some (.name name) ↔
      path.moves.getLast? = some (.name name) := by
    rcases components_eq path with same | same
    · rw [same]
    · rw [same, List.getLast?_cons]
      cases path.moves.getLast? <;> simp
  rw [← last]
  unfold fileName?
  split
  · rename_i found
    rw [found, Option.some.injEq, Option.some.injEq, Component.name.injEq]
  · rename_i other
    exact iff_of_false (fun none => nomatch none) fun found => other name found

/-- A file of declarations, by its name. -/
def IsDeclaration (path : Path) : Prop :=
  ∃ name, path.fileName? = some name ∧ ".d.ts".toList <:+ name.toList

theorem suffix_append_slash_iff {ending : List Char} (without : '/' ∉ ending)
    (front behind : List Char) :
    ending <:+ front ++ '/' :: behind ↔ ending <:+ behind := by
  constructor
  · intro ends
    rcases List.suffix_or_suffix_of_suffix ends (List.suffix_append front ('/' :: behind)) with
      within | longer
    · rcases List.suffix_cons_iff.mp within with rfl | within
      · exact absurd List.mem_cons_self without
      · exact within
    · exact absurd (longer.subset List.mem_cons_self) without
  · intro ends
    exact (ends.trans (List.suffix_cons '/' behind)).trans (List.suffix_append front _)

theorem eq_of_declaration_suffix {front : List Char} {c : Char}
    (ends : ".d.ts".toList <:+ front ++ [c]) : c = 's' := by
  obtain ⟨before, same⟩ := ends
  have last := congrArg List.getLast? same
  rw [List.getLast?_concat, show ".d.ts".toList = ".d.t".toList ++ ['s'] from rfl,
    ← List.append_assoc, List.getLast?_concat] at last
  exact (Option.some.inj last).symm

/-- A specifier that only leads up ends with dots, or with its first slash. -/
theorem not_declaration_suffix_of_onward_eq_nil {directory target : Path}
    (none : onward directory target = []) :
    ¬ ".d.ts".toList <:+ (relativeSpecifier directory target).toList := by
  intro ends
  have up : specifierSteps directory target =
      List.replicate (undone directory target).length .parent := by
    rw [specifierSteps, none, List.append_nil]
  cases count : (undone directory target).length with
  | zero =>
      have text := toList_relativeSpecifier directory target
      rw [up, count, List.replicate_zero] at text
      rw [text] at ends
      exact absurd ends (by decide)
  | succ n =>
      rw [count, List.replicate_succ'] at up
      obtain ⟨beginning, text, -⟩ := exists_beginning up
      rw [text] at ends
      have dots : ".d.ts".toList <:+ beginning ++ ['.'] ++ ['.'] := by
        simpa [Component.text] using ends
      exact absurd (eq_of_declaration_suffix dots) (by decide)

/-- A specifier ends as one of a declaration file exactly if its target is such a file and no
directory on the way to where it is looked up. -/
theorem declaration_suffix_iff (directory target : Path) :
    ".d.ts".toList <:+ (relativeSpecifier directory target).toList ↔
      target.IsDeclaration ∧ ¬ target.moves <+: directory.moves := by
  obtain ⟨shared, -, whole⟩ := exists_moves_eq directory target
  rw [← onward_eq_nil_iff]
  rcases List.eq_nil_or_concat' (onward directory target) with none | ⟨front, last, concat⟩
  · exact iff_of_false (not_declaration_suffix_of_onward_eq_nil none) fun both => both.2 none
  · have cut : specifierSteps directory target =
        List.replicate (undone directory target).length .parent ++ front ++ [last] := by
      rw [specifierSteps, concat, List.append_assoc]
    have getLast : target.moves.getLast? = some last := by
      rw [whole, concat, ← List.append_assoc, List.getLast?_concat]
    obtain ⟨beginning, text, ends, -⟩ := exists_beginning cut
    have suffix_iff : ".d.ts".toList <:+ (relativeSpecifier directory target).toList ↔
        ".d.ts".toList <:+ last.text.toList := by
      rw [text]
      rcases ends with rfl | ⟨before, rfl⟩
      · rw [List.nil_append]
      · rw [List.append_assoc]
        exact suffix_append_slash_iff (by decide) before _
    have nonempty : onward directory target ≠ [] := by simp [concat]
    unfold IsDeclaration
    simp only [suffix_iff, fileName?_eq_some_iff, getLast, Option.some.injEq]
    cases last with
    | name name => simp [Component.text, nonempty]
    | root => exact iff_of_false (by decide) (by simp)
    | current => exact iff_of_false (by decide) (by simp)
    | parent => exact iff_of_false (by decide) (by simp)

/-! ## One text for one file -/

theorem relativeSpecifier_congr (directory : Path) {target other : Path}
    (same : target.moves = other.moves) :
    relativeSpecifier directory target = relativeSpecifier directory other := by
  unfold relativeSpecifier
  rw [same]

theorem dropShared_append (shared more : List Component) :
    dropShared shared (shared ++ more) = ([], more) := by
  induction shared with
  | nil => cases more <;> rfl
  | cons component rest ih => rw [List.cons_append, dropShared, if_pos rfl, ih]

/-- A target with a name that is seen from its own directory is one step away. -/
theorem specifierSteps_parent {path : Path} {name : String}
    (last : path.moves.getLast? = some (.name name)) :
    path.moves = path.parent.moves ++ [.name name] ∧
      specifierSteps path.parent path = [.name name] := by
  obtain ⟨front, concat⟩ := List.getLast?_eq_some_iff.mp last
  have moving : steps (Text.split '/' path.chars) ≠ [] := by
    intro still
    have whole := moves_eq path
    rw [still, List.append_nil, concat, start] at whole
    split at whole <;> simp [List.append_eq_singleton_iff] at whole
  have moves_eq_concat : path.moves = path.parent.moves ++ [.name name] := by
    rw [moves_parent moving, concat, List.dropLast_concat]
  refine ⟨moves_eq_concat, ?_⟩
  unfold specifierSteps undone onward
  rw [moves_eq_concat, dropShared_append]
  rfl

/-- A text in which a slash stands at most behind a single dot at its beginning is the specifier of
one file only. -/
theorem specifierSteps_eq_of_relativeSpecifier_eq {directory target other : Path}
    {before : List Component} {name last : String} (proper : '/' ∉ name.toList)
    (one : specifierSteps directory target = [.name name])
    (ends : specifierSteps directory other = before ++ [.name last])
    (same : relativeSpecifier directory other = relativeSpecifier directory target) :
    specifierSteps directory other = [.name name] := by
  have chars := congrArg String.toList same
  rw [toList_relativeSpecifier, toList_relativeSpecifier, one,
    show stepsText [.name name] = name.toList by simp [stepsText, Component.text]] at chars
  have texts : stepsText (specifierSteps directory other) = name.toList := by
    split at chars <;> split at chars
    · exact chars
    · rename_i dots _
      obtain ⟨rest, begins⟩ := dots
      rw [← begins] at chars
      cases chars
    · exact absurd (chars ▸ List.mem_cons_of_mem _ List.mem_cons_self) proper
    · exact List.cons.inj (List.cons.inj chars).2 |>.2
  rw [ends] at texts ⊢
  by_cases single : before = []
  · subst single
    have names : last.toList = name.toList := by simpa [stepsText, Component.text] using texts
    rw [String.toList_inj.mp names]
    rfl
  · rw [stepsText_concat before single] at texts
    exact absurd (texts ▸ List.mem_append_right _ List.mem_cons_self) proper

/-- A declaration file has the specifier of another file, as seen from the directory of that one,
only if it is the same file. -/
theorem moves_eq_of_relativeSpecifier_eq {path other : Path}
    (declares : ".d.ts".toList <:+ (relativeSpecifier path.parent other).toList)
    (same : relativeSpecifier path.parent other = relativeSpecifier path.parent path) :
    other.moves = path.moves := by
  obtain ⟨⟨last, found_last, -⟩, below⟩ := (declaration_suffix_iff _ _).mp declares
  obtain ⟨⟨name, found_name, -⟩, -⟩ := (declaration_suffix_iff _ _).mp (same ▸ declares)
  rw [fileName?_eq_some_iff] at found_last found_name
  obtain ⟨whole, one⟩ := specifierSteps_parent found_name
  have proper : '/' ∉ name.toList := by
    rcases mem_moves_cases (List.mem_of_getLast? found_name) with root | step
    · cases root
    · exact step.2
  obtain ⟨shared, first, second⟩ := exists_moves_eq path.parent other
  -- The specifier of the other file ends with the last name of that file.
  obtain ⟨front, concat⟩ : ∃ front, onward path.parent other = front ++ [.name last] := by
    have nonempty := mt (onward_eq_nil_iff path.parent other).mp below
    rw [second, List.getLast?_append_of_ne_nil _ nonempty] at found_last
    exact List.getLast?_eq_some_iff.mp found_last
  have ends : specifierSteps path.parent other =
      List.replicate (undone path.parent other).length .parent ++ front ++ [.name last] := by
    rw [specifierSteps, concat, List.append_assoc]
  have single := specifierSteps_eq_of_relativeSpecifier_eq proper one ends same
  unfold specifierSteps at single
  cases up : undone path.parent other with
  | nil =>
      rw [up, List.length_nil, List.replicate_zero, List.nil_append] at single
      rw [up, List.append_nil] at first
      rw [second, single, ← first, whole]
  | cons component rest =>
      rw [up, List.length_cons, List.replicate_succ] at single
      cases single

/-- A file on the way to another one that does not lie above the directory of that one is the
same file. -/
theorem moves_eq_of_prefix {path other : Path} (onWay : other.moves <+: path.moves)
    (declares : other.IsDeclaration) (below : ¬ other.moves <+: path.parent.moves) :
    other.moves = path.moves := by
  by_cases still : steps (Text.split '/' path.chars) = []
  · -- Without steps there is no file on the way.
    obtain ⟨name, found, -⟩ := declares
    have given := List.mem_of_getLast? ((fileName?_eq_some_iff _ _).mp found)
    have within := onWay.subset given
    rw [moves_eq, still, List.append_nil, start] at within
    split at within
    · cases List.mem_singleton.mp within
    · cases within
  · have nonempty : path.moves ≠ [] := by
      rw [moves_eq]
      exact List.append_ne_nil_of_right_ne_nil _ still
    rw [moves_parent still] at below
    rw [← List.dropLast_concat_getLast nonempty] at onWay ⊢
    rcases List.prefix_concat_iff.mp onWay with same | above
    · exact same
    · exact absurd above below

/-- An ending that is left out is taken off again, unless it makes the name of a declaration
file. -/
theorem dropExtension_of_ending {text stem ending : String} (listed : ending ∈ importExtensions)
    (whole : stem ++ ending = text) (plain : ¬ ".d.ts".toList <:+ text.toList) :
    dropExtension text = stem := by
  have chars : stem.toList ++ ending.toList = text.toList := by
    rw [← whole, String.toList_append]
  -- Of two endings of one text one ends the other, and no ending but `.d.ts` does so.
  have clash : ∀ other : String, ¬ other.toList <:+ ending.toList →
      ¬ ending.toList <:+ other.toList → Text.stripEnd? other text = none := by
    intro other notShort notLong
    rw [Option.eq_none_iff_forall_ne_some]
    intro rest found
    have ends : other.toList <:+ text.toList := by
      rw [(Text.stripEnd?_eq_some_iff _ _ _).mp found, String.toList_append]
      exact List.suffix_append _ _
    rcases List.suffix_or_suffix_of_suffix ends (chars ▸ List.suffix_append _ _) with short | long
    · exact notShort short
    · exact notLong long
  have found : Text.stripEnd? ending text = some stem :=
    (Text.stripEnd?_eq_some_iff _ _ _).mpr whole.symm
  have noDeclaration : Text.stripEnd? ".d.ts" text = none := by
    rw [Option.eq_none_iff_forall_ne_some]
    intro rest taken
    rw [(Text.stripEnd?_eq_some_iff _ _ _).mp taken, String.toList_append] at plain
    exact plain (List.suffix_append _ _)
  unfold dropExtension importExtensions
  simp only [importExtensions, List.mem_cons, List.not_mem_nil, or_false] at listed
  simp only [List.findSome?_cons, noDeclaration]
  rcases listed with rfl | rfl | rfl | rfl
  · rw [noDeclaration] at found
    cases found
  · rw [found]
    rfl
  · rw [clash ".ts" (by decide) (by decide), found]
    rfl
  · rw [clash ".ts" (by decide) (by decide), clash ".tsx" (by decide) (by decide), found]
    rfl

end Path

namespace Record

open ClientGen.Path (importSpecifier relativeSpecifier importExtensions dropExtension)

/-- The specifier for the types is that of any import, or it keeps the `.d` of a declaration
file. -/
theorem specifier_of_typingsSpecifier {main typings : Path} {specifier : String}
    (found : typingsSpecifier main typings = .ok specifier) :
    (importSpecifier main.parent typings ≠ importSpecifier main.parent main ∧
        specifier = importSpecifier main.parent typings) ∨
      (importSpecifier main.parent typings = importSpecifier main.parent main ∧
        ∃ stem, relativeSpecifier main.parent typings = stem ++ ".d.ts" ∧
          specifier = stem ++ ".d") := by
  unfold typingsSpecifier at found
  dsimp only at found
  split at found
  · rename_i differ
    exact .inl ⟨bne_iff_ne.mp differ, (Except.ok.inj found).symm⟩
  · rename_i same
    split at found
    · rename_i stem declares
      have whole := (Text.stripEnd?_eq_some_iff _ _ _).mp declares
      split at found
      · exact .inr ⟨by simpa using same, stem, whole, (Except.ok.inj found).symm⟩
      · exact absurd found (by simp)
    · exact absurd found (by simp)

theorem fault_of_typingsSpecifier {main typings : Path} {fault : ConfigFault}
    (refused : typingsSpecifier main typings = .error fault) :
    fault = .typingsHidden typings main := by
  unfold typingsSpecifier at refused
  dsimp only at refused
  split at refused
  · exact absurd refused (by simp)
  · split at refused
    · split at refused
      · exact absurd refused (by simp)
      · exact (Except.error.inj refused).symm
    · exact (Except.error.inj refused).symm

/-- The types are refused exactly if both files lose their endings to one specifier and keeping the
`.d` of a declaration file would not help. -/
theorem typingsSpecifier_eq_error_iff (main typings : Path) :
    typingsSpecifier main typings = .error (.typingsHidden typings main) ↔
      importSpecifier main.parent typings = importSpecifier main.parent main ∧
        (".d.ts".toList <:+ (relativeSpecifier main.parent typings).toList →
          relativeSpecifier main.parent typings = relativeSpecifier main.parent main) := by
  have declares_iff : ".d.ts".toList <:+ (relativeSpecifier main.parent typings).toList ↔
      ∃ stem, Text.stripEnd? ".d.ts" (relativeSpecifier main.parent typings) = some stem := by
    constructor
    · rintro ⟨stem, whole⟩
      refine ⟨String.ofList stem, (Text.stripEnd?_eq_some_iff _ _ _).mpr ?_⟩
      apply String.toList_inj.mp
      rw [String.toList_append, String.toList_ofList, whole]
    · rintro ⟨stem, found⟩
      rw [(Text.stripEnd?_eq_some_iff _ _ _).mp found, String.toList_append]
      exact List.suffix_append _ _
  unfold typingsSpecifier
  dsimp only
  split
  · rename_i differ
    exact iff_of_false (fun none => nomatch none) fun both => bne_iff_ne.mp differ both.1
  · rename_i same
    have together : importSpecifier main.parent typings = importSpecifier main.parent main := by
      simpa using same
    split
    · rename_i stem found
      have declares := declares_iff.mpr ⟨stem, found⟩
      split
      · rename_i differ
        exact iff_of_false (fun none => nomatch none) fun both =>
          bne_iff_ne.mp differ (both.2 declares).symm
      · rename_i one
        exact iff_of_true rfl ⟨together, fun _ => (by simpa using one : _ = _).symm⟩
    · rename_i none
      refine iff_of_true rfl ⟨together, fun declares => ?_⟩
      obtain ⟨stem, found⟩ := declares_iff.mp declares
      rw [none] at found
      cases found

theorem exists_ending_of_typingsSpecifier {main typings : Path} {specifier : String}
    (found : typingsSpecifier main typings = .ok specifier) :
    ∃ ending ∈ "" :: importExtensions,
      specifier ++ ending = relativeSpecifier main.parent typings := by
  rcases specifier_of_typingsSpecifier found with ⟨-, bare⟩ | ⟨-, stem, whole, kept⟩
  · rw [bare, Path.importSpecifier_eq]
    exact Path.exists_dropExtension_append (relativeSpecifier main.parent typings)
  · refine ⟨".ts", by decide, ?_⟩
    rw [kept, whole, String.append_assoc]
    rfl

theorem ne_request_of_typingsSpecifier {main typings : Path} {specifier ending : String}
    (found : typingsSpecifier main typings = .ok specifier) (plain : ¬ main.IsDeclaration)
    (listed : ending ∈ importExtensions) :
    specifier ++ ending ≠ relativeSpecifier main.parent main := by
  intro taken
  have stripped : importSpecifier main.parent main = specifier := by
    rw [Path.importSpecifier_eq]
    exact Path.dropExtension_of_ending listed taken fun declares =>
      plain ((Path.declaration_suffix_iff _ _).mp declares).1
  rcases specifier_of_typingsSpecifier found with ⟨differ, bare⟩ | ⟨same, stem, whole, kept⟩
  · exact differ (bare.symm.trans stripped.symm)
  · -- The types lose `.d.ts` to a specifier that is shorter than the one of the request file.
    have bare : importSpecifier main.parent typings = stem := by
      have first := (Text.stripEnd?_eq_some_iff ".d.ts" _ _).mpr whole
      rw [Path.importSpecifier_eq, dropExtension, importExtensions, List.findSome?_cons, first,
        Option.getD_some]
    have lengths := congrArg String.length (bare.symm.trans (same.trans stripped))
    rw [kept, String.length_append] at lengths
    exact absurd lengths (by simp)

/-- Keeping the `.d` does not tell the types from the request file exactly if they, when they are a
declaration file, are the request file or lie on the way to it. -/
theorem relativeSpecifier_eq_iff (main typings : Path) :
    (".d.ts".toList <:+ (relativeSpecifier main.parent typings).toList →
        relativeSpecifier main.parent typings = relativeSpecifier main.parent main) ↔
      (typings.IsDeclaration → typings.moves <+: main.moves) := by
  constructor
  · intro one declares
    by_cases above : typings.moves <+: main.parent.moves
    · exact above.trans (Path.moves_parent_prefix main)
    · have seen := (Path.declaration_suffix_iff main.parent typings).mpr ⟨declares, above⟩
      have same := Path.moves_eq_of_relativeSpecifier_eq seen (one seen)
      exact same ▸ List.prefix_rfl
  · intro onWay seen
    obtain ⟨declares, below⟩ := (Path.declaration_suffix_iff main.parent typings).mp seen
    exact Path.relativeSpecifier_congr _ (Path.moves_eq_of_prefix (onWay declares) declares below)

/-- The specifier that the request file imports its types by, with one of the endings that imports
leave out or without any, is the relative path of the file of the types. With none of these endings
it is that of the request file, unless the request file is a declaration file itself. There is no
such specifier exactly if both files lose their endings to one specifier and the file of the types
is no declaration file other than the request file and the directories that it lies in. -/
theorem typingsSpecifier_reaches (main typings : Path) :
    (∀ specifier, typingsSpecifier main typings = .ok specifier →
      (∃ ending ∈ "" :: importExtensions,
        specifier ++ ending = relativeSpecifier main.parent typings) ∧
      (¬ main.IsDeclaration → ∀ ending ∈ importExtensions,
        specifier ++ ending ≠ relativeSpecifier main.parent main)) ∧
    ((∃ fault, typingsSpecifier main typings = .error fault) ↔
      importSpecifier main.parent typings = importSpecifier main.parent main ∧
        (typings.IsDeclaration → typings.moves <+: main.moves)) := by
  refine ⟨fun specifier found => ⟨exists_ending_of_typingsSpecifier found, ?_⟩, ?_⟩
  · exact fun plain ending listed => ne_request_of_typingsSpecifier found plain listed
  · rw [← relativeSpecifier_eq_iff, ← typingsSpecifier_eq_error_iff]
    refine ⟨fun ⟨fault, refused⟩ => ?_, fun refused => ⟨_, refused⟩⟩
    rw [refused, fault_of_typingsSpecifier refused]

theorem typingsSpecifier_reaches_beside :
    ¬ (Path.mk "src/api/index.ts").IsDeclaration ∧
      typingsSpecifier ⟨"src/api/index.ts"⟩ ⟨"src/api/index.d.ts"⟩ = .ok "./index.d" ∧
      (∃ ending ∈ "" :: importExtensions, "./index.d" ++ ending =
        relativeSpecifier (Path.mk "src/api/index.ts").parent ⟨"src/api/index.d.ts"⟩) ∧
      ∀ ending ∈ importExtensions, "./index.d" ++ ending ≠
        relativeSpecifier (Path.mk "src/api/index.ts").parent ⟨"src/api/index.ts"⟩ := by
  have found : typingsSpecifier ⟨"src/api/index.ts"⟩ ⟨"src/api/index.d.ts"⟩ = .ok "./index.d" := by
    decide +kernel
  have plain : ¬ (Path.mk "src/api/index.ts").IsDeclaration := by
    rintro ⟨name, named, declares⟩
    have same : some "index.ts" = some name := Eq.trans (by decide) named
    cases same
    revert declares
    decide
  have reaches := (typingsSpecifier_reaches ⟨"src/api/index.ts"⟩ ⟨"src/api/index.d.ts"⟩).1 _ found
  exact ⟨plain, found, reaches.1, reaches.2 plain⟩

/-- A directory on the way to the request file may be named like a declaration file. A request file
that is named by an ending alone is then imported as this directory is. -/
theorem not_reaches_directory :
    ¬ (Path.mk "a.d.ts/.ts").IsDeclaration ∧ (Path.mk "a.d.ts").IsDeclaration ∧
      (Path.mk "a.d.ts").moves ≠ (Path.mk "a.d.ts/.ts").moves ∧
      typingsSpecifier ⟨"a.d.ts/.ts"⟩ ⟨"a.d.ts"⟩ =
        .error (.typingsHidden ⟨"a.d.ts"⟩ ⟨"a.d.ts/.ts"⟩) := by
  refine ⟨?_, ⟨"a.d.ts", by decide, by decide⟩, by decide, by decide⟩
  rintro ⟨name, named, declares⟩
  have same : some ".ts" = some name := Eq.trans (by decide) named
  cases same
  revert declares
  decide

end Record

end ClientGen
