import ClientGen.Proofs.FileTree
import ClientGen.Script
import Mathlib.Data.List.Forall2
import Mathlib.Tactic.Tauto

/-!
# Scripts side by side

Scripts that run at the same time share one world: each goes on command by command, in any order
between them. What a script writes whatever it is answered is a property of the script alone. For
scripts that stay in the working directory, the files at the end follow from what each of them has
written: every path that was written holds the last text written to its location.
-/

namespace ClientGen

/-! ## Steps in any order -/

/-- How a world answers a command. A download may be answered with anything. -/
inductive World.Answers (world : World) : (command : Command) → command.Reply → World → Prop where
  | performed (command : Command) :
      World.Answers world command (world.perform command).1 (world.perform command).2
  | downloaded (url : String) (reply : Except String String) :
      World.Answers world (.download url) reply world

/-- Several scripts run side by side in a world until all of them have ended: at any time one of
them goes on by a command. -/
inductive Interleaved {α : Type} : List (Script α) → World → List α → World → Prop where
  | finished (outcomes : List α) (world : World) :
      Interleaved (outcomes.map .done) world outcomes world
  | step {before after : List (Script α)} {command : Command}
      {next : command.Reply → Script α} {reply : command.Reply} {world between final : World}
      {outcomes : List α} (answers : world.Answers command reply between)
      (rest : Interleaved (before ++ next reply :: after) between outcomes final) :
      Interleaved (before ++ .call command next :: after) world outcomes final

namespace Interleaved

variable {α β : Type}

theorem run {before after : List (Script α)} {script : Script α} {world final : World}
    {outcomes : List α}
    (rest : Interleaved (before ++ .done (script.run world).1 :: after) (script.run world).2
      outcomes final) :
    Interleaved (before ++ script :: after) world outcomes final := by
  induction script generalizing world with
  | done a => exact rest
  | call command next ih => exact .step (.performed command) (ih _ rest)

/-- Running the scripts one after the other is one of the orders. -/
theorem mapM (f : β → Script α) (given : List β) (ended : List α) (world : World) :
    Interleaved (ended.map .done ++ given.map f) world
      (ended ++ ((given.mapM f).run world).1) ((given.mapM f).run world).2 := by
  induction given generalizing ended world with
  | nil =>
      rw [List.map_nil, List.append_nil]
      change Interleaved _ world (ended ++ []) world
      rw [List.append_nil]
      exact .finished ended world
  | cons first rest ih =>
      rw [List.mapM_cons, List.map_cons]
      apply Interleaved.run
      change Interleaved _ _ (ended ++ (((f first).bind fun a =>
        ((rest.mapM f).bind fun others => .done (a :: others))).run world).1)
        (((f first).bind fun a => ((rest.mapM f).bind fun others =>
          .done (a :: others))).run world).2
      rw [Script.run_bind, Script.run_bind]
      have later := ih (ended ++ [((f first).run world).1]) ((f first).run world).2
      rw [List.map_append, List.append_assoc, List.append_assoc] at later
      exact later

end Interleaved

/-! ## What a script writes -/

namespace Command

/-- The text that a command has written if it is answered so, with its path. -/
def written : (command : Command) → command.Reply → List (Path × String)
  | .writeText path text, .ok _ => [(path, text)]
  | _, _ => []

/-- A command that keeps the working directory. -/
def Stays : Command → Prop
  | .changeDirectory _ => False
  | _ => True

end Command

namespace Script

variable {α β : Type}

/-- Whatever it is answered, a script stays in the working directory, and ends with a value and
texts written in all for which a property holds. -/
def Ensures (post : α → List (Path × String) → Prop) : List (Path × String) → Script α → Prop
  | written, .done a => post a written
  | written, .call command next =>
      command.Stays ∧ ∀ reply, Ensures post (written ++ command.written reply) (next reply)

namespace Ensures

variable {post : β → List (Path × String) → Prop} {mid : α → List (Path × String) → Prop}
  {written : List (Path × String)}

theorem bind {script : Script α} {f : α → Script β} (first : script.Ensures mid written)
    (second : ∀ a later, mid a later → (f a).Ensures post later) :
    (script.bind f).Ensures post written := by
  induction script generalizing written with
  | done a => exact second a written first
  | call command next ih => exact ⟨first.1, fun reply => ih reply (first.2 reply)⟩

end Ensures

end Script

namespace Task

variable {α β : Type}

/-- Whatever it is answered, a task stays in the working directory, and if it succeeds, a property
holds of its value and the texts written in all. -/
structure Ensures (post : α → List (Path × String) → Prop) (written : List (Path × String))
    (task : Task α) : Prop where
  run : task.run.Ensures (fun outcome later => ∀ a, outcome = .ok a → post a later) written

namespace Ensures

variable {post : β → List (Path × String) → Prop} {mid : α → List (Path × String) → Prop}
  {written : List (Path × String)}

theorem pure {a : α} (holds : mid a written) : Task.Ensures mid written (Pure.pure a) := by
  constructor
  rintro _ ⟨⟩
  exact holds

theorem fail {failure : Failure} : Task.Ensures mid written (Task.fail failure) := by
  constructor
  rintro _ ⟨⟩

theorem ofExcept {outcome : Except Failure α} (holds : ∀ a, outcome = .ok a → mid a written) :
    Task.Ensures mid written (Task.ofExcept outcome) := by
  cases outcome with
  | ok a => exact pure (holds a rfl)
  | error failure => exact fail

theorem bind {task : Task α} {f : α → Task β} (first : Task.Ensures mid written task)
    (second : ∀ a later, mid a later → Task.Ensures post later (f a)) :
    Task.Ensures post written (task >>= f) := by
  constructor
  apply Script.Ensures.bind first.run
  intro outcome later holds
  cases outcome with
  | ok a => exact (second a later (holds a rfl)).run
  | error failure => exact fail.run

theorem within {stage : Stage} {task : Task α} (given : Task.Ensures mid written task) :
    Task.Ensures mid written (Task.within stage task) := by
  constructor
  apply Script.Ensures.bind given.run
  intro outcome later holds
  cases outcome with
  | ok a => exact holds
  | error failure => rintro _ ⟨⟩

theorem ask (command : Command) (stays : command.Stays) :
    Task.Ensures (fun reply later => later = written ++ command.written reply) written
      (Task.ask command) := by
  constructor
  refine ⟨stays, fun reply => ?_⟩
  rintro _ ⟨⟩
  rfl

end Ensures

end Task

/-! ## What is left at the end -/

open FileTree (locationFrom)

/-- In a world with a working directory, every path that was written holds a text that was written
to its location. -/
structure Landed (directory : Location) (written : List (Path × String)) (world : World) :
    Prop where
  workingDirectory : world.files.workingDirectory = directory
  kept : ∀ entry ∈ written, ∃ last ∈ written,
    locationFrom directory last.1 = locationFrom directory entry.1 ∧
      world.files.readText entry.1 = .ok last.2

namespace Landed

variable {directory : Location} {written : List (Path × String)} {world : World}

theorem of_mem_iff {other : List (Path × String)} (landed : Landed directory written world)
    (same : ∀ entry, entry ∈ other ↔ entry ∈ written) : Landed directory other world := by
  refine ⟨landed.workingDirectory, fun entry member => ?_⟩
  obtain ⟨last, listed, rest⟩ := landed.kept entry ((same entry).mp member)
  exact ⟨last, (same last).mpr listed, rest⟩

theorem of_extends {after : World} (landed : Landed directory written world)
    (larger : FileTree.Extends world.files after.files) : Landed directory written after := by
  refine ⟨larger.workingDirectory.trans landed.workingDirectory, fun entry member => ?_⟩
  obtain ⟨last, listed, same, read⟩ := landed.kept entry member
  exact ⟨last, listed, same, larger.readText read⟩

/-- A file that is written replaces what was at its location, and nothing else. -/
theorem of_wrote {after : World} {path : Path} {text : String}
    (landed : Landed directory written world)
    (wrote : FileTree.Wrote world.files path text after.files) :
    Landed directory (written ++ [(path, text)]) after := by
  obtain ⟨rfl, kept⟩ := landed
  refine ⟨wrote.grows.workingDirectory, fun entry member => ?_⟩
  rcases List.mem_append.mp member with old | new
  · obtain ⟨last, listed, same, read⟩ := kept entry old
    by_cases here : locationFrom world.files.workingDirectory entry.1 =
        locationFrom world.files.workingDirectory path
    · exact ⟨(path, text), List.mem_append_right _ List.mem_cons_self, here.symm,
        wrote.readText_of_eq read here⟩
    · exact ⟨last, List.mem_append_left _ listed, same, wrote.readText_of_ne read here⟩
  · obtain rfl := List.mem_singleton.mp new
    exact ⟨(path, text), member, rfl, wrote.readText⟩

theorem step {after : World} {command : Command} {reply : command.Reply}
    (landed : Landed directory written world) (stays : command.Stays)
    (answers : world.Answers command reply after) :
    Landed directory (written ++ command.written reply) after := by
  have unchanged : Landed directory (written ++ []) world := by
    rw [List.append_nil]
    exact landed
  cases answers with
  | downloaded url reply => exact unchanged
  | performed command =>
      cases command with
      | changeDirectory path => cases stays
      | makeDirectories path =>
          exact unchanged.of_extends
            (FileTree.directed_of_makeDirectories world.files path).toExtends
      | writeText path text =>
          simp only [World.perform]
          split
          · rename_i files wrote
            exact landed.of_wrote (FileTree.wrote_of_writeText wrote)
          · exact unchanged
      | note mark => exact unchanged.of_extends (.refl world.files)
      | readText path => exact unchanged
      | isFile path => exact unchanged
      | isDirectory path => exact unchanged
      | workingDirectory => exact unchanged
      | download url => exact unchanged

end Landed

namespace Interleaved

variable {α : Type} {post : α → List (Path × String) → Prop} {directory : Location}

/-- A list that goes with scripts one by one is cut where the scripts are cut. -/
theorem exists_cut {γ δ : Type} {R : γ → δ → Prop} {left : List γ} {before after : List δ}
    {middle : δ} (pairs : List.Forall₂ R left (before ++ middle :: after)) :
    ∃ first own last, left = first ++ own :: last ∧ List.Forall₂ R first before ∧
      R own middle ∧ List.Forall₂ R last after := by
  induction before generalizing left with
  | nil =>
      cases pairs with
      | cons own rest => exact ⟨[], _, _, rfl, .nil, own, rest⟩
  | cons head before ih =>
      cases pairs with
      | cons first rest =>
          obtain ⟨firsts, own, last, rfl, earlier, middle, later⟩ := ih rest
          exact ⟨_ :: firsts, own, last, rfl, .cons first earlier, middle, later⟩

/-- Scripts that ensure what they write leave, in whichever order they ran, every path that any of
them has written with a text that was written to its location. -/
theorem landed {scripts : List (Script α)} {world final : World} {outcomes : List α}
    (runs : Interleaved scripts world outcomes final) {written : List (List (Path × String))}
    (ensured : List.Forall₂ (fun own script => Script.Ensures post own script) written scripts)
    (landed : Landed directory written.flatten world) :
    ∃ written, List.Forall₂ (fun own outcome => post outcome own) written outcomes ∧
      Landed directory written.flatten final := by
  induction runs generalizing written with
  | finished outcomes world =>
      exact ⟨written, List.forall₂_map_right_iff.mp ensured, landed⟩
  | @step before after command next reply world between final outcomes answers rest ih =>
      -- The texts written so far go with the scripts one by one; a step adds to those of one.
      obtain ⟨first, own, last, rfl, earlier, call, later⟩ := exists_cut ensured
      obtain ⟨stays, goesOn⟩ := call
      have others : List.Forall₂ (fun own script => Script.Ensures post own script)
          (first ++ (own ++ command.written reply) :: last) (before ++ next reply :: after) :=
        List.rel_append earlier (.cons (goesOn reply) later)
      apply ih others
      apply (landed.step stays answers).of_mem_iff
      intro entry
      simp only [List.flatten_append, List.flatten_cons, List.mem_append]
      tauto

end Interleaved

end ClientGen
