import ClientGen.Compile
import ClientGen.Proofs.Conversation
import ClientGen.Proofs.FileTree
import ClientGen.Publish
import Mathlib.Data.List.Forall2

/-!
# What compiling, printing and writing leave

A record with any outputs is compiled, printed and written. Every output keeps its place and gets
the tree for its kind and the text of this tree, whatever it held before; an output of another kind
gets neither. In the end a file holds the text of the last output with its location, and the other
files are as they were.
-/

namespace ClientGen

/-! ## Compiling and printing -/

/-- What an output of a record becomes when it is compiled and printed. The synthesizer for its
kind sees the record with outputs that may be compiled already. -/
structure Output.Filled (compiler : Compiler) (record : Record) (given output : Output) : Prop where
  kind : output.kind = given.kind
  root : output.root = given.root
  path : output.path = given.path
  specifier : output.specifier = given.specifier
  request : given.kind = .request → ∃ outputs module,
    compiler.request { record with outputs := outputs } given = .ok module ∧
    output.slot = .request module ∧ output.code = some module.print
  typings : given.kind = .typings → ∃ outputs module,
    compiler.typings { record with outputs := outputs } given = .ok module ∧
    output.slot = .typings module ∧ output.code = some module.print
  other : ∀ tag, given.kind = .other tag → output.slot = .unhandled ∧ output.code = none

namespace Compiler

variable {compiler : Compiler} {record compiled : Record}

theorem exists_of_map {α β : Type} {outcome : Except Failure α} {f : α → β} {b : β}
    (mapped : outcome.map f = .ok b) : ∃ a, outcome = .ok a ∧ b = f a := by
  cases outcome with
  | error failure => cases mapped
  | ok a => exact ⟨a, rfl, (Except.ok.inj mapped).symm⟩

theorem filled_of_slotFor {given : Output} {outputs : List Output} {slot : Slot}
    (built : compiler.slotFor { record with outputs := outputs } given = .ok slot) :
    given.Filled compiler record ((given.setSlot slot).render TypeScript.Module.print) := by
  unfold slotFor at built
  cases kind : given.kind with
  | request =>
      rw [kind] at built
      obtain ⟨module, tree, rfl⟩ := exists_of_map built
      exact ⟨rfl, rfl, rfl, rfl, fun _ => ⟨outputs, module, tree, rfl, rfl⟩, by simp [kind],
        by simp [kind]⟩
  | typings =>
      rw [kind] at built
      obtain ⟨module, tree, rfl⟩ := exists_of_map built
      exact ⟨rfl, rfl, rfl, rfl, by simp [kind], fun _ => ⟨outputs, module, tree, rfl, rfl⟩,
        by simp [kind]⟩
  | other tag =>
      rw [kind] at built
      cases built
      exact ⟨rfl, rfl, rfl, rfl, by simp [kind], by simp [kind], fun _ _ => ⟨rfl, rfl⟩⟩

/-- The loop over the outputs: those that are ready stay as they are. -/
theorem filled_of_compileFrom {ready rest : List Output}
    (compiles : compiler.compileFrom record ready rest = .ok compiled) :
    ∃ outputs, compiled = { record with outputs := ready ++ outputs } ∧
      List.Forall₂ (fun given output =>
        given.Filled compiler record (output.render TypeScript.Module.print)) rest outputs := by
  induction rest generalizing ready with
  | nil =>
      cases compiles
      exact ⟨[], by rw [List.append_nil], .nil⟩
  | cons given rest ih =>
      rw [compileFrom] at compiles
      split at compiles
      · cases compiles
      · rename_i slot built
        obtain ⟨outputs, rfl, filled⟩ := ih compiles
        exact ⟨given.setSlot slot :: outputs, by rw [List.append_assoc]; rfl,
          .cons (filled_of_slotFor built) filled⟩

/-- Compiling and printing fill every output in its place, and change nothing else. -/
theorem filled_of_compile (compiles : compiler.compile record = .ok compiled) :
    compiled.render = { record with outputs := compiled.render.outputs } ∧
      List.Forall₂ (Output.Filled compiler record) record.outputs compiled.render.outputs := by
  obtain ⟨outputs, rfl, filled⟩ := filled_of_compileFrom compiles
  exact ⟨rfl, List.forall₂_map_right_iff.mpr filled⟩

end Compiler

/-! ## Writing -/

theorem Task.exists_of_runIn_bind {α β : Type} {task : Task α} {f : α → Task β}
    {world after : World} {b : β} (ended : (task >>= f).runIn world = (.ok b, after)) :
    ∃ a between, task.runIn world = (.ok a, between) ∧ (f a).runIn between = (.ok b, after) := by
  rw [Task.runIn_bind] at ended
  generalize task.runIn world = outcome at ended ⊢
  obtain ⟨result, between⟩ := outcome
  cases result with
  | error failure => cases ended
  | ok a => exact ⟨a, between, rfl, ended⟩

theorem Task.directed_of_makeDirectories {path : Path} {world after : World}
    (made : (Task.makeDirectories path).runIn world = (.ok (), after)) :
    FileTree.Directed world.files after.files := by
  obtain ⟨reply, between, asked, replied⟩ := Task.exists_of_runIn_bind made
  cases asked
  split at replied
  · cases replied
    exact FileTree.directed_of_makeDirectories world.files path
  · cases replied

theorem Task.wrote_of_writeText {path : Path} {text : String} {world after : World}
    (written : (Task.writeText path text).runIn world = (.ok (), after)) :
    FileTree.Wrote world.files path text after.files := by
  obtain ⟨reply, between, asked, replied⟩ := Task.exists_of_runIn_bind written
  have performed : world.perform (.writeText path text) = (reply, between) := by
    injection asked with same left
    exact Prod.ext (Except.ok.inj same) left
  split at replied
  · cases replied
    simp only [World.perform] at performed
    split at performed
    · rename_i files succeeded
      cases performed
      exact FileTree.wrote_of_writeText succeeded
    · cases performed
  · cases replied

namespace FileTree

/-- What writing the texts of outputs does to a tree: for each output that has a text, directories
are made, and the text is written. -/
inductive Puts : List Output → FileTree → FileTree → Prop where
  | nothing (tree : FileTree) : Puts [] tree tree
  | skips {output : Output} {rest : List Output} {before after : FileTree}
      (silent : output.code = none) (others : Puts rest before after) :
      Puts (output :: rest) before after
  | writes {output : Output} {rest : List Output} {before between next after : FileTree}
      {text : String} (given : output.code = some text) (made : Directed before between)
      (wrote : Wrote between output.path text next) (others : Puts rest next after) :
      Puts (output :: rest) before after

theorem exists_of_publish {output : Output} {text : String} (given : output.code = some text)
    {world after : World} (published : output.publish.runIn world = (.ok (), after)) :
    ∃ between, Directed world.files between ∧ Wrote between output.path text after.files := by
  unfold Output.publish at published
  rw [given] at published
  dsimp only at published
  split at published
  · exact ⟨_, .refl _, Task.wrote_of_writeText published⟩
  · split at published
    · obtain ⟨⟨⟩, between, made, written⟩ := Task.exists_of_runIn_bind published
      exact ⟨_, Task.directed_of_makeDirectories made, Task.wrote_of_writeText written⟩
    · exact ⟨_, .refl _, Task.wrote_of_writeText published⟩

theorem puts_of_publish {outputs : List Output} {world after : World}
    (published : (outputs.forM Output.publish).runIn world = (.ok (), after)) :
    Puts outputs world.files after.files := by
  induction outputs generalizing world with
  | nil =>
      cases published
      exact .nothing _
  | cons output rest ih =>
      obtain ⟨⟨⟩, next, first, others⟩ := Task.exists_of_runIn_bind published
      cases given : output.code with
      | none =>
          unfold Output.publish at first
          rw [given] at first
          cases first
          exact .skips given (ih others)
      | some text =>
          obtain ⟨between, made, wrote⟩ := exists_of_publish given first
          exact .writes given made wrote (ih others)

end FileTree

/-! ## What the files hold -/

def Output.Fills (directory location : Location) (output : Output) : Prop :=
  output.code.isSome ∧ FileTree.locationFrom directory output.path = location

/-- The last of several outputs that has a text for a location. -/
def Output.LastAt (directory location : Location) (outputs : List Output) (last : Output) : Prop :=
  ∃ before later, outputs = before ++ last :: later ∧ last.Fills directory location ∧
    ∀ other ∈ later, ¬ other.Fills directory location

theorem Output.LastAt.cons {directory location : Location} {outputs : List Output} {last : Output}
    (lastAt : LastAt directory location outputs last) (first : Output) :
    LastAt directory location (first :: outputs) last := by
  obtain ⟨before, later, rfl, fills, others⟩ := lastAt
  exact ⟨first :: before, later, rfl, fills, others⟩

namespace FileTree.Puts

variable {outputs : List Output} {before after : FileTree}

theorem workingDirectory (puts : Puts outputs before after) :
    after.workingDirectory = before.workingDirectory := by
  induction puts with
  | nothing tree => rfl
  | skips silent others ih => exact ih
  | writes given made wrote others ih =>
      exact ih.trans (wrote.grows.workingDirectory.trans made.workingDirectory)

theorem exists_readText (puts : Puts outputs before after) {path : Path} {text : String}
    (read : before.readText path = .ok text) : ∃ now, after.readText path = .ok now := by
  induction puts generalizing text with
  | nothing tree => exact ⟨text, read⟩
  | skips silent others ih => exact ih read
  | @writes output rest before between next after written given made wrote others ih =>
      have kept := made.toExtends.readText read
      by_cases same : locationFrom between.workingDirectory path =
          locationFrom between.workingDirectory output.path
      · exact ih (wrote.readText_of_eq kept same)
      · exact ih (wrote.readText_of_ne kept same)

/-- The file of every output with a text can be read. -/
theorem readable (puts : Puts outputs before after) {output : Output} (listed : output ∈ outputs)
    {code : String} (given : output.code = some code) :
    ∃ text, after.readText output.path = .ok text := by
  induction puts with
  | nothing tree => cases listed
  | skips silent others ih =>
      rcases List.mem_cons.mp listed with rfl | later
      · rw [given] at silent
        cases silent
      · exact ih later
  | writes written made wrote others ih =>
      rcases List.mem_cons.mp listed with rfl | later
      · exact others.exists_readText wrote.readText
      · exact ih later

/-- A location holds the text of the last output for it. If there is none, no file there was made,
changed or removed. -/
theorem entry (puts : Puts outputs before after) (location : Location) :
    (∃ last text, Output.LastAt before.workingDirectory location outputs last ∧
      last.code = some text ∧ after.entry? location = some (.file text.toUTF8)) ∨
    (∀ output ∈ outputs, ¬ output.Fills before.workingDirectory location) ∧
      ∀ content, after.entry? location = some (.file content) ↔
        before.entry? location = some (.file content) := by
  induction puts with
  | nothing tree => exact .inr ⟨nofun, fun _ => Iff.rfl⟩
  | @skips output rest before after silent others ih =>
      rcases ih with ⟨last, text, lastAt, given, holds⟩ | ⟨unfilled, same⟩
      · exact .inl ⟨last, text, lastAt.cons output, given, holds⟩
      · refine .inr ⟨List.forall_mem_cons.mpr ⟨?_, unfilled⟩, same⟩
        rintro ⟨written, -⟩
        rw [silent] at written
        cases written
  | @writes output rest before between next after text given made wrote others ih =>
      rw [wrote.grows.workingDirectory, made.workingDirectory] at ih
      rcases ih with ⟨last, text, lastAt, given, holds⟩ | ⟨unfilled, same⟩
      · exact .inl ⟨last, text, lastAt.cons output, given, holds⟩
      · by_cases here : locationFrom before.workingDirectory output.path = location
        · refine .inl ⟨output, text, ⟨[], rest, rfl, ⟨?_, here⟩, unfilled⟩, given, ?_⟩
          · rw [given]
            rfl
          · rw [same, ← here, ← made.workingDirectory]
            exact wrote.written
        · refine .inr ⟨List.forall_mem_cons.mpr ⟨fun fills => here fills.2, unfilled⟩,
            fun content => ?_⟩
          rw [same, wrote.other]
          · exact ⟨made.file location content, made.entry location _⟩
          · rw [made.workingDirectory]
            exact Ne.symm here

/-- Every path of an output with a text leads to the text of the last output for its location. -/
theorem readText (puts : Puts outputs before after) {output : Output} (listed : output ∈ outputs)
    {code : String} (given : output.code = some code) :
    ∃ last text, Output.LastAt before.workingDirectory
        (locationFrom before.workingDirectory output.path) outputs last ∧
      last.code = some text ∧ after.readText output.path = .ok text := by
  obtain ⟨found, read⟩ := puts.readable listed given
  rcases puts.entry (locationFrom before.workingDirectory output.path) with
    ⟨last, text, lastAt, written, holds⟩ | ⟨unfilled, -⟩
  · obtain ⟨target, content, resolved, here, decoded⟩ := (readText_eq_ok_iff _ _ _).mp read
    rw [location_of_resolve resolved, puts.workingDirectory, holds] at here
    cases here
    rw [Text.fromUTF8?_toUTF8] at decoded
    rw [← Option.some.inj decoded] at read
    exact ⟨last, text, lastAt, written, read⟩
  · refine absurd ⟨?_, rfl⟩ (unfilled output listed)
    rw [given]
    rfl

end FileTree.Puts

/-- What is left of a record when it has been compiled, printed and written: every output is filled
in its place, and nothing else of the record has changed; every path of an output with a text leads
to the text of the last output for its location, and no other file has changed. -/
structure Record.Stored (compiler : Compiler) (record final : Record) (before after : FileTree) :
    Prop where
  filled : List.Forall₂ (Output.Filled compiler record) record.outputs final.outputs
  unchanged : final = { record with outputs := final.outputs }
  written : ∀ output ∈ final.outputs, ∀ code, output.code = some code → ∃ last text,
    Output.LastAt before.workingDirectory
      (FileTree.locationFrom before.workingDirectory output.path) final.outputs last ∧
    last.code = some text ∧ after.readText output.path = .ok text
  others : ∀ location, (∀ output ∈ final.outputs, ¬ output.Fills before.workingDirectory location) →
    ∀ content, after.entry? location = some (.file content) ↔
      before.entry? location = some (.file content)

namespace Compiler

/-- Whatever a record with any outputs held before, if it is compiled and all that was printed is
written, every output is filled and stored. -/
theorem stored_of_publish {compiler : Compiler} {record compiled : Record} {world after : World}
    (compiles : compiler.compile record = .ok compiled)
    (published : compiled.render.publish.runIn world = (.ok (), after)) :
    record.Stored compiler compiled.render world.files after.files := by
  obtain ⟨unchanged, filled⟩ := filled_of_compile compiles
  have puts := FileTree.puts_of_publish published
  refine ⟨filled, unchanged, fun output listed code given => puts.readText listed given,
    fun location unfilled => ?_⟩
  rcases puts.entry location with ⟨last, text, ⟨earlier, later, split, fills, -⟩, -⟩ | ⟨-, same⟩
  · refine absurd fills (unfilled last ?_)
    rw [split]
    exact List.mem_append_right _ List.mem_cons_self
  · exact same

end Compiler

/-! Outputs with stale texts, two of which have one location. -/

namespace Leftovers

def comment (text : String) : TypeScript.Module :=
  { TypeScript.Module.empty with header := [text] }

def compiler : Compiler where
  request _ _ := .ok (comment "functions")
  typings _ _ := .ok (comment "types")

def record : Record :=
  .new (.uri "spec.json") .empty [
    { Output.new .request ⟨"a.ts"⟩ with code := some "stale" },
    { Output.new (.other "notes") ⟨"notes.md"⟩ with
      slot := .typings (comment "stale"), code := some "stale" },
    Output.new .typings ⟨"b/../a.ts"⟩]

def compiled : Record :=
  match compiler.compile record with
  | .ok compiled => compiled
  | .error _ => record

def world : World :=
  match FileTree.empty.writeText ⟨"notes.md"⟩ "kept" with
  | .ok files => ⟨files, []⟩
  | .error _ => ⟨.empty, []⟩

def after : World :=
  (compiled.render.publish.runIn world).2

def text? (path : String) : Option String :=
  (after.files.readText ⟨path⟩).toOption

end Leftovers

open Leftovers in
/-- The types are written over the functions, by another path, and notes are left alone. -/
theorem Compiler.stored_leftovers :
    compiler.compile record = .ok compiled ∧
      compiled.render.publish.runIn world = (.ok (), after) ∧
      compiled.render.outputs.map Output.code =
        [some (comment "functions").print, none, some (comment "types").print] ∧
      record.Stored compiler compiled.render world.files after.files ∧
      (text? "a.ts", text? "b/../a.ts", text? "notes.md") =
        (some (comment "types").print, some (comment "types").print, some "kept") := by
  have compiles : compiler.compile record = .ok compiled := by rfl
  have published : compiled.render.publish.runIn world = (.ok (), after) := by rfl
  exact ⟨compiles, published, by rfl, Compiler.stored_of_publish compiles published,
    by decide +kernel⟩

end ClientGen
