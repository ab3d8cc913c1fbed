import ClientGen.Script
import ClientGen.Proofs.FileTree
import ClientGen.Proofs.PathSteps

/-!
# The working directory

The working directory is told as an absolute path. Whatever a script does, that path leads back to
the directory, wherever it is followed from: each command goes to a location whose names can stand
between slashes, and such a location is what its path leads to.
-/

namespace ClientGen

namespace Path

theorem names_eq (path : Path) :
    path.names = (steps (Text.split '/' path.chars)).filterMap Component.name? := by
  unfold names components
  dsimp only
  split
  · exact List.filterMap_cons_none rfl
  · split
    · exact List.filterMap_cons_none rfl
    · rfl

theorem mem_components_of_mem_steps {path : Path} {component : Component}
    (given : component ∈ steps (Text.split '/' path.chars)) : component ∈ path.components := by
  unfold components
  dsimp only
  split
  · exact List.mem_cons_of_mem _ given
  · split
    · exact List.mem_cons_of_mem _ given
    · exact given

end Path

namespace FileTree

open ClientGen.Path (Component IsStep steps component?)

/-! ## Names on the way -/

theorem foldl_step_of_descends (location : Location) {pieces : List (List Char)}
    (descends : Component.parent ∉ steps pieces) :
    pieces.foldl step location = location ++ (steps pieces).filterMap Component.name? := by
  induction pieces generalizing location with
  | nil => exact (List.append_nil location).symm
  | cons piece rest ih =>
      rw [List.foldl_cons]
      cases found : component? piece with
      | none =>
          have skipped : steps (piece :: rest) = steps rest := List.filterMap_cons_none found
          rw [step_of_other (by simp [found]) (by simp [found]), skipped]
          exact ih location (skipped ▸ descends)
      | some component =>
          have taken : steps (piece :: rest) = component :: steps rest :=
            List.filterMap_cons_some found
          rw [taken, List.mem_cons, not_or] at descends
          rw [taken]
          cases component with
          | name name =>
              rw [step_of_name found, ih _ descends.2, List.append_assoc]
              rfl
          | parent => exact absurd rfl descends.1
          | root | current =>
              rw [step_of_other (by simp [found]) (by simp [found])]
              exact ih location descends.2

/-- A path that never goes up leads to its names below where it starts. -/
theorem locationFrom_of_descends (directory : Location) {path : Path}
    (descends : Component.parent ∉ path.components) :
    locationFrom directory path = (if path.isAbsolute then [] else directory) ++ path.names := by
  rw [Path.names_eq]
  exact foldl_step_of_descends _ (mt Path.mem_components_of_mem_steps descends)

/-! ## Locations that have a path -/

/-- Every name of the location is one that a piece between slashes stands for. -/
def Named (location : Location) : Prop :=
  ∀ name ∈ location, IsStep (.name name)

theorem components_pathOf {location : Location} (named : Named location) :
    (pathOf location).components = .root :: location.map .name := by
  have chars_eq : (pathOf location).chars =
      [] ++ '/' :: ['/'].intercalate (location.map String.toList) := by
    rw [← Text.toList_join_eq]
    exact String.toList_append
  have absolute : (pathOf location).isAbsolute = true := by
    unfold Path.isAbsolute
    rw [chars_eq]
    rfl
  have cut : ∀ piece ∈ location.map String.toList, '/' ∉ piece :=
    List.forall_mem_map.mpr fun name given => (named name given).2
  have steps_eq : steps (Text.split '/' (['/'].intercalate (location.map String.toList))) =
      location.map .name := by
    rw [← Path.joinPieces_eq, Path.steps_joinPieces cut, steps, List.filterMap_map,
      ← List.filterMap_eq_map]
    exact List.filterMap_congr fun name given => (named name given).1
  unfold Path.components
  dsimp only
  rw [if_pos absolute, chars_eq, Text.split_append_separator, List.filterMap_append]
  exact congrArg _ steps_eq

/-- The absolute path of a location leads to it, wherever one stands. -/
theorem locationFrom_pathOf (directory : Location) {location : Location}
    (named : Named location) : locationFrom directory (pathOf location) = location := by
  have components_eq := components_pathOf named
  have descends : Component.parent ∉ (pathOf location).components := by
    simp [components_eq]
  have absolute : (pathOf location).isAbsolute = true := by
    unfold Path.isAbsolute Path.chars pathOf
    rw [String.toList_append]
    rfl
  have names_eq : (pathOf location).names = location := by
    rw [Path.names, components_eq, List.filterMap_cons_none rfl, List.filterMap_map]
    exact List.filterMap_some
  rw [locationFrom_of_descends directory descends, if_pos absolute, names_eq, List.nil_append]

theorem named_step {location : Location} {piece : List Char} (named : Named location)
    (cut : '/' ∉ piece) : Named (step location piece) := by
  unfold step
  split
  · rename_i name found
    have isStep : IsStep (.name name) := by
      have same := Path.toList_text_of_component? found
      exact ⟨same ▸ found, same ▸ cut⟩
    intro other given
    rcases List.mem_append.mp given with before | last
    · exact named other before
    · exact List.mem_singleton.mp last ▸ isStep
  · exact fun name given => named name (List.dropLast_subset location given)
  · exact named

theorem named_foldl_step {location : Location} {pieces : List (List Char)}
    (named : Named location) (cut : ∀ piece ∈ pieces, '/' ∉ piece) :
    Named (pieces.foldl step location) := by
  induction pieces generalizing location with
  | nil => exact named
  | cons piece rest ih =>
      obtain ⟨here, later⟩ := List.forall_mem_cons.mp cut
      exact ih (named_step named here) later

/-- Paths lead from one location that has a path to another one. -/
theorem named_locationFrom {directory : Location} (named : Named directory) (path : Path) :
    Named (locationFrom directory path) := by
  apply named_foldl_step _ fun piece => Text.notMem_of_mem_split
  split
  · exact fun name given => absurd given List.not_mem_nil
  · exact named

theorem workingDirectory_of_changeDirectory {before after : FileTree} {path : Path}
    (changed : before.changeDirectory path = .ok after) :
    after.workingDirectory = locationFrom before.workingDirectory path := by
  unfold changeDirectory at changed
  split at changed
  · cases changed
  · rename_i target resolved
    split at changed
    · cases changed
    · cases changed
    · cases changed
      exact location_of_resolve resolved

end FileTree

/-! ## What scripts keep -/

open FileTree (Named locationFrom)

theorem World.named_perform {world : World} (named : Named world.files.workingDirectory)
    (command : Command) : Named (world.perform command).2.files.workingDirectory := by
  cases command with
  | readText => exact named
  | isFile => exact named
  | isDirectory => exact named
  | makeDirectories path =>
      have made := FileTree.directed_of_makeDirectories world.files path
      exact made.workingDirectory ▸ named
  | writeText path text =>
      simp only [World.perform]
      split
      · rename_i written
        exact (FileTree.wrote_of_writeText written).grows.workingDirectory ▸ named
      · exact named
  | changeDirectory path =>
      simp only [World.perform]
      split
      · rename_i changed
        exact FileTree.workingDirectory_of_changeDirectory changed ▸
          FileTree.named_locationFrom named path
      · exact named
  | workingDirectory => exact named
  | download => exact named
  | note => exact named

theorem Script.named_run {α : Type} (script : Script α) {world : World}
    (named : Named world.files.workingDirectory) :
    Named (script.run world).2.files.workingDirectory := by
  induction script generalizing world with
  | done => exact named
  | call command next ih => exact ih _ (World.named_perform named command)

/-- The path that is told after a script leads to the working directory that it left, from
everywhere. -/
theorem Script.locationFrom_workingDirectory {α : Type} (script : Script α) {world : World}
    (named : Named world.files.workingDirectory) (directory : Location) :
    locationFrom directory (Script.workingDirectory.run (script.run world).2).1 =
      (script.run world).2.files.workingDirectory :=
  FileTree.locationFrom_pathOf directory (script.named_run named)

end ClientGen
