import ClientGen.Pipeline.Standard
import ClientGen.Proofs.Resolving
import ClientGen.Run
import Mathlib.Data.List.Nodup

/-!
# What the runs of a plan leave

The runs of a plan share the file tree, and go on side by side. Each of them ends by writing the
texts of its outputs. The main statement says when all of these texts are still there after every
run has succeeded: exactly if no two outputs with different texts have the same location.
-/

namespace ClientGen

/-! ## What a standard run writes -/

/-- The text of an output, with its path. -/
def Output.written (output : Output) : List (Path × String) :=
  (output.code.map fun code => (output.path, code)).toList

def Record.written (record : Record) : List (Path × String) :=
  record.outputs.flatMap Output.written

theorem Record.mem_written_iff (record : Record) (path : Path) (text : String) :
    (path, text) ∈ record.written ↔
      ∃ output ∈ record.outputs, output.path = path ∧ output.code = some text := by
  simp only [written, Output.written, List.mem_flatMap, Option.mem_toList, Option.map_eq_some_iff,
    Prod.mk.injEq]
  constructor
  · rintro ⟨output, listed, code, same, rfl, rfl⟩
    exact ⟨output, listed, rfl, same⟩
  · rintro ⟨output, listed, rfl, same⟩
    exact ⟨output, listed, text, same, rfl, rfl⟩

namespace Task.Ensures

variable {written : List (Path × String)}

/-- A task that writes nothing. -/
abbrev Quiet {α : Type} (written : List (Path × String)) (task : Task α) : Prop :=
  Task.Ensures (fun _ later => later = written) written task

theorem quiet_ask (command : Command) (stays : command.Stays)
    (nothing : ∀ reply, command.written reply = []) : Quiet written (Task.ask command) := by
  constructor
  refine ⟨stays, fun reply => ?_⟩
  rintro _ ⟨⟩
  rw [nothing, List.append_nil]

theorem quiet_pure {α : Type} (a : α) : Quiet written (Pure.pure a : Task α) :=
  pure rfl

theorem quiet_readText (path : Path) : Quiet written (Task.readText path) := by
  apply bind (quiet_ask (.readText path) trivial fun _ => rfl)
  rintro reply _ rfl
  cases reply with
  | ok text => exact pure rfl
  | error fault => exact fail

theorem quiet_makeDirectories (path : Path) : Quiet written (Task.makeDirectories path) := by
  apply bind (quiet_ask (.makeDirectories path) trivial fun _ => rfl)
  rintro reply _ rfl
  cases reply with
  | ok _ => exact pure rfl
  | error fault => exact fail

theorem writeText (path : Path) (text : String) :
    Task.Ensures (fun _ later => later = written ++ [(path, text)]) written
      (Task.writeText path text) := by
  apply bind (ask (.writeText path text) trivial)
  rintro reply _ rfl
  cases reply with
  | ok _ => exact pure rfl
  | error fault => exact fail

theorem quiet_ofExcept {α : Type} (outcome : Except Failure α) :
    Quiet written (Task.ofExcept outcome) :=
  ofExcept fun _ _ => rfl

theorem quiet_loadFile (path : Path) : Quiet written (Document.loadFile path) := by
  apply bind (quiet_readText path)
  rintro text _ rfl
  exact quiet_ofExcept _

theorem quiet_download (url : String) : Quiet written (Document.download url) := by
  apply bind (quiet_ask (.download url) trivial fun _ => rfl)
  rintro reply _ rfl
  cases reply with
  | ok text => exact quiet_ofExcept _
  | error reason => exact fail

theorem quiet_load (record : Record) : Quiet written record.load := by
  have input : Quiet written record.input.load := by
    unfold Input.load
    split
    · split
      · exact quiet_download _
      · exact quiet_loadFile _
    · exact quiet_loadFile _
    · exact pure rfl
  apply bind input
  rintro source _ rfl
  exact pure rfl

theorem publish_output (output : Output) :
    Task.Ensures (fun _ later => later = written ++ output.written) written output.publish := by
  unfold Output.publish Output.written
  cases output.code with
  | none => exact pure (List.append_nil written).symm
  | some code =>
      dsimp only
      split
      · exact writeText output.path code
      · split
        · apply bind (quiet_makeDirectories _)
          rintro _ _ rfl
          exact writeText output.path code
        · exact writeText output.path code

theorem publish_outputs (outputs : List Output) :
    Task.Ensures (fun _ later => later = written ++ outputs.flatMap Output.written) written
      (outputs.forM Output.publish) := by
  induction outputs generalizing written with
  | nil => exact pure (List.append_nil written).symm
  | cons output rest ih =>
      change Task.Ensures _ written (output.publish >>= fun _ => rest.forM Output.publish)
      apply bind (publish_output output)
      rintro _ _ rfl
      rw [List.flatMap_cons, ← List.append_assoc]
      exact ih

end Task.Ensures

namespace Pipeline

def standard (client : Client) (name : String) : Pipeline where
  name := name
  readConfig config := Task.ofExcept ((Record.ofConfig config).mapError Failure.config)
  source := Record.load
  parser record := Task.ofExcept ((record.parse client).mapError Failure.description)
  compiler record := Task.ofExcept (Compiler.standard.compile record)
  generate record := pure record.render
  dest := Record.publish

/-- A run of a standard pipeline that succeeds has written the texts of its outputs. -/
theorem ensures_run_standard (client : Client) (name : String) (config : Config) :
    Task.Ensures (fun record written => written = record.written) []
      ((standard client name).run config) := by
  open Task.Ensures in
  apply bind (within (quiet_ofExcept _))
  rintro read _ rfl
  apply bind (within (quiet_load read))
  rintro loaded _ rfl
  apply bind (within (quiet_ofExcept _))
  rintro parsed _ rfl
  apply bind (within (quiet_ofExcept _))
  rintro compiled _ rfl
  apply bind (within (quiet_pure compiled.render))
  rintro rendered _ rfl
  apply bind (within (publish_outputs rendered.outputs))
  rintro _ _ rfl
  exact pure rfl

/-- Every name of the table is that of a pipeline that the standard registry has published. -/
theorem pipeline?_standardRegistry {registry : Registry} (loaded : standardRegistry = .ok registry)
    {name : String} (listed : name ∈ standardTable.map Prod.fst) :
    Text.isBlankText name = false ∧
      ∃ client, registry.pipeline? (packageName name) = some (standard client name) := by
  obtain rfl := Except.ok.inj loaded
  rcases List.mem_cons.mp listed with rfl | later
  · exact ⟨by decide, .axios, by rfl⟩
  · obtain rfl := List.mem_singleton.mp later
    exact ⟨by decide, .fetch, rfl⟩

end Pipeline

/-! ## The runs of a plan -/

/-- What is kept for an identifier is the pipeline that a registry has published for it. -/
def Cache.Faithful (cache : Cache) (registry : Registry) : Prop :=
  ∀ identifier pipeline, cache.find? identifier = some pipeline →
    registry.pipeline? (packageName identifier) = some pipeline

namespace Resolver

theorem require_eq_pure {resolver : Resolver} {cache : Cache} {identifier : String}
    {pipeline : Pipeline} (faithful : cache.Faithful resolver.registry)
    (named : Text.isBlankText identifier = false)
    (published : resolver.registry.pipeline? (packageName identifier) = some pipeline) :
    ∃ after : Cache, after.Faithful resolver.registry ∧
      resolver.require cache identifier = pure (.ok pipeline, after) := by
  cases kept : cache.find? identifier with
  | some found =>
      have same := faithful identifier found kept
      rw [published] at same
      obtain rfl := Option.some.inj same
      refine ⟨cache, faithful, ?_⟩
      simp only [require, resolve, kept]
      rfl
  | none =>
      have loaded : (resolver.load identifier).run = pure (.ok (some pipeline)) := by
        rw [load_of_published named published]
        rfl
      refine ⟨(cache.keep identifier pipeline).2, Cache.forall_of_keep faithful published, ?_⟩
      simp only [require, resolve, kept, loaded]
      rw [pure_bind]
      simp only [Cache.keep, kept]
      rfl

end Resolver

namespace RunPlan

/-- The run of one configuration: its pipeline is found, and takes it through every stage. -/
def branch (resolver : Resolver) (config : Config) : Script (Except Failure Record) := do
  let (pipeline, _) ← resolver.require [] config.pipelineId
  runOne (pipeline, config)

variable {resolver : Resolver}

/-- Every run of a plan has a standard pipeline. -/
def Standard (plan : RunPlan) : Prop :=
  ∀ config ∈ plan.configs, config.pipelineId ∈ Pipeline.standardTable.map Prod.fst

theorem branch_eq_runOne {config : Config} {pipeline : Pipeline}
    (named : Text.isBlankText config.pipelineId = false)
    (published : resolver.registry.pipeline? (packageName config.pipelineId) = some pipeline) :
    branch resolver config = runOne (.ok pipeline, config) := by
  have empty : Cache.Faithful [] resolver.registry := fun _ _ found => nomatch found
  obtain ⟨after, -, found⟩ := Resolver.require_eq_pure empty named published
  rw [branch, found, pure_bind]

theorem ensures_branch (loaded : Pipeline.standardRegistry = .ok resolver.registry)
    {config : Config} (listed : config.pipelineId ∈ Pipeline.standardTable.map Prod.fst) :
    (branch resolver config).Ensures
      (fun outcome written => ∀ record, outcome = .ok record → written = record.written) [] := by
  obtain ⟨named, client, published⟩ := Pipeline.pipeline?_standardRegistry loaded listed
  rw [branch_eq_runOne named published]
  exact (Pipeline.ensures_run_standard client config.pipelineId config).run

theorem requireAll_eq_pure (loaded : Pipeline.standardRegistry = .ok resolver.registry)
    {configs : List Config}
    (listed : ∀ config ∈ configs, config.pipelineId ∈ Pipeline.standardTable.map Prod.fst)
    {cache : Cache} (faithful : cache.Faithful resolver.registry) :
    ∃ found after, requireAll resolver cache configs = pure (found, after) ∧
      found.map runOne = configs.map (branch resolver) := by
  induction configs generalizing cache with
  | nil => exact ⟨[], cache, rfl, rfl⟩
  | cons config rest ih =>
      obtain ⟨first, others⟩ := List.forall_mem_cons.mp listed
      obtain ⟨named, client, published⟩ := Pipeline.pipeline?_standardRegistry loaded first
      obtain ⟨between, kept, required⟩ := Resolver.require_eq_pure faithful named published
      obtain ⟨found, after, all, same⟩ := ih others kept
      refine ⟨(.ok (Pipeline.standard client config.pipelineId), config) :: found, after, ?_, ?_⟩
      · rw [requireAll, required, pure_bind]
        dsimp only
        rw [all, pure_bind]
      · rw [List.map_cons, List.map_cons, same, branch_eq_runOne named published]

/-- Running a plan is one of the orders in which its runs can go on. -/
theorem interleaved_run (loaded : Pipeline.standardRegistry = .ok resolver.registry)
    {plan : RunPlan} (standard : plan.Standard) (world : World) :
    Interleaved (plan.configs.map (branch resolver)) world
      ((plan.run resolver []).run world).1.1 ((plan.run resolver []).run world).2 := by
  have empty : Cache.Faithful [] resolver.registry := fun _ _ found => nomatch found
  obtain ⟨found, after, all, same⟩ := requireAll_eq_pure loaded standard empty
  have runs := Interleaved.mapM runOne found [] world
  rw [List.map_nil, List.nil_append, List.nil_append, same] at runs
  have joined : plan.run resolver [] =
      (found.mapM runOne).bind fun outcomes => .done (outcomes, after) := by
    rw [run, all, pure_bind]
    rfl
  rw [joined, Script.run_bind]
  exact runs

/-- Every output of the records is a file with its text. -/
def Kept (files : FileTree) (records : List Record) : Prop :=
  ∀ record ∈ records, ∀ output ∈ record.outputs, ∀ code, output.code = some code →
    files.readText output.path = .ok code

/-- No two outputs of the records with different texts have the same location. -/
def Apart (directory : Location) (records : List Record) : Prop :=
  ∀ a ∈ records.flatMap (·.outputs), ∀ b ∈ records.flatMap (·.outputs),
    FileTree.locationFrom directory a.path = FileTree.locationFrom directory b.path →
    ∀ code other, a.code = some code → b.code = some other → code = other

/-- One file cannot hold two texts. -/
theorem apart_of_kept {files : FileTree} {records : List Record} (kept : Kept files records) :
    Apart files.workingDirectory records := by
  intro a listed b otherListed same code other given otherGiven
  obtain ⟨record, listed, own⟩ := List.mem_flatMap.mp listed
  obtain ⟨otherRecord, otherListed, otherOwn⟩ := List.mem_flatMap.mp otherListed
  exact FileTree.eq_of_readText (kept record listed a own code given)
    (kept otherRecord otherListed b otherOwn other otherGiven) same

theorem not_apart_of_outputs {directory : Location} {records : List Record} {a b : Output}
    (outputs : records.flatMap (·.outputs) = [a, b])
    (same : FileTree.locationFrom directory a.path = FileTree.locationFrom directory b.path)
    (written : a.code.isSome) (otherWritten : b.code.isSome) (different : a.code ≠ b.code) :
    ¬ Apart directory records := by
  intro apart
  obtain ⟨code, given⟩ := Option.isSome_iff_exists.mp written
  obtain ⟨other, otherGiven⟩ := Option.isSome_iff_exists.mp otherWritten
  rw [Apart, outputs] at apart
  have equal := apart a List.mem_cons_self b (List.mem_cons_of_mem _ List.mem_cons_self) same code
    other given otherGiven
  exact different (by rw [given, otherGiven, equal])

/-- Outputs with locations of their own are apart. -/
theorem apart_of_nodup {directory : Location} {records : List Record}
    (distinct : ((records.flatMap (·.outputs)).map fun output =>
      FileTree.locationFrom directory output.path).Nodup) : Apart directory records := by
  intro a listed b otherListed same code other given otherGiven
  obtain rfl := List.inj_on_of_nodup_map distinct listed otherListed same
  exact Option.some.inj (given.symm.trans otherGiven)

/-- When all runs of a plan have succeeded, in whichever order they went on, every file of an output
holds the text of an output with the same location. -/
theorem landed_of_interleaved (loaded : Pipeline.standardRegistry = .ok resolver.registry)
    {plan : RunPlan} (standard : plan.Standard) {world final : World} {records : List Record}
    (runs : Interleaved (plan.configs.map (branch resolver)) world (records.map .ok) final) :
    Landed world.files.workingDirectory (records.flatMap Record.written) final := by
  have ensured : List.Forall₂ (fun own script => Script.Ensures
      (fun outcome written => ∀ record, outcome = .ok record → written = record.written) own script)
      (plan.configs.map fun _ => []) (plan.configs.map (branch resolver)) := by
    rw [List.forall₂_map_left_iff, List.forall₂_map_right_iff, List.forall₂_same]
    exact fun config listed => ensures_branch loaded (standard config listed)
  have start : Landed world.files.workingDirectory
      (plan.configs.map fun _ => ([] : List (Path × String))).flatten world := by
    refine ⟨rfl, fun entry member => ?_⟩
    simp at member
  obtain ⟨written, own, landed⟩ := runs.landed ensured start
  have same : written = records.map Record.written := by
    rw [← List.forall₂_eq_eq_eq, List.forall₂_map_right_iff]
    exact (List.forall₂_map_right_iff.mp own).imp fun _ record holds => holds record rfl
  rw [List.flatMap_def, ← same]
  exact landed

theorem mem_flatMap_written_iff (records : List Record) (path : Path) (text : String) :
    (path, text) ∈ records.flatMap Record.written ↔
      ∃ output ∈ records.flatMap (·.outputs), output.path = path ∧ output.code = some text := by
  simp only [List.mem_flatMap, Record.mem_written_iff]
  constructor
  · rintro ⟨record, listed, output, own, rest⟩
    exact ⟨output, ⟨record, listed, own⟩, rest⟩
  · rintro ⟨output, ⟨record, listed, own⟩, rest⟩
    exact ⟨record, listed, output, own, rest⟩

/-- When all runs of a plan have succeeded, in whichever order they went on, the file of every
output holds the text of an output with the same location. All texts are kept exactly if no two
outputs with different texts have the same location. -/
theorem kept_iff_apart (loaded : Pipeline.standardRegistry = .ok resolver.registry)
    {plan : RunPlan} (standard : plan.Standard) {world final : World} {records : List Record}
    (runs : Interleaved (plan.configs.map (branch resolver)) world (records.map .ok) final) :
    (Kept final.files records ↔ Apart world.files.workingDirectory records) ∧
      ∀ output ∈ records.flatMap (·.outputs), ∀ code, output.code = some code →
        ∃ last ∈ records.flatMap (·.outputs), ∃ text, last.code = some text ∧
          FileTree.locationFrom world.files.workingDirectory last.path =
            FileTree.locationFrom world.files.workingDirectory output.path ∧
          final.files.readText output.path = .ok text := by
  have landed := landed_of_interleaved loaded standard runs
  have held : ∀ output ∈ records.flatMap (·.outputs), ∀ code, output.code = some code →
      ∃ last ∈ records.flatMap (·.outputs), ∃ text, last.code = some text ∧
        FileTree.locationFrom world.files.workingDirectory last.path =
          FileTree.locationFrom world.files.workingDirectory output.path ∧
        final.files.readText output.path = .ok text := by
    intro output listed code given
    obtain ⟨⟨path, text⟩, member, same, read⟩ := landed.kept (output.path, code)
      ((mem_flatMap_written_iff records _ _).mpr ⟨output, listed, rfl, given⟩)
    obtain ⟨last, lastListed, rfl, lastGiven⟩ := (mem_flatMap_written_iff records _ _).mp member
    exact ⟨last, lastListed, text, lastGiven, same, read⟩
  refine ⟨⟨fun kept => ?_, ?_⟩, held⟩
  · rw [← landed.workingDirectory]
    exact apart_of_kept kept
  · intro apart record listed output own code given
    have outputListed := List.mem_flatMap.mpr ⟨record, listed, own⟩
    obtain ⟨last, lastListed, text, lastGiven, same, read⟩ := held output outputListed code given
    rw [← apart last lastListed output outputListed same text code lastGiven given]
    exact read

end RunPlan

namespace Neighbours

def server (title : String) (output : OutputPaths) : Config where
  input := some (.described (.inline
    [("info", .object [("title", .string title)]), ("openapi", .string "3.0.0")]))
  output := output
  shaping := Shaping.none
  pipeline := none

/-- Two servers, each with a file of its own. -/
def placed : List Config :=
  [server "Cats" ⟨some "cats.ts", some (.flag false)⟩,
    server "Dogs" ⟨some "dogs.ts", some (.flag false)⟩]

/-- Two servers that leave the file to the default. -/
def unplaced : List Config :=
  [server "Cats" ⟨none, some (.flag false)⟩, server "Dogs" ⟨none, some (.flag false)⟩]

/-- A server whose typings have the location of its functions, by a path of their own. -/
def detour : List Config :=
  [server "Cats" ⟨some "src/api.ts", some (.value "src/x/../api.ts")⟩]

def plan (servers : List Config) : RunPlan :=
  .servers ⟨Shaping.none, some "swag-fetch-ts", servers⟩

def registry : Registry :=
  match Pipeline.standardRegistry with
  | .ok registry => registry
  | .error _ => .empty

def resolver : Resolver := ⟨registry, ⟨""⟩⟩

def world : World := ⟨FileTree.empty, []⟩

def finish (servers : List Config) : List (Except Failure Record) × World :=
  let (outcomes, world) := ((plan servers).run resolver []).run world
  (outcomes.1, world)

def records (servers : List Config) : List Record :=
  (finish servers).1.filterMap Except.toOption

def output (servers : List Config) (index : Nat) : Output :=
  ((records servers).flatMap (·.outputs)).getD index (Output.new .request ⟨""⟩)

theorem loaded : Pipeline.standardRegistry = .ok resolver.registry := by rfl

theorem standard {servers : List Config} (unset : ∀ server ∈ servers, server.pipeline = none) :
    (plan servers).Standard := by
  intro config listed
  obtain ⟨server, given, rfl⟩ := List.mem_map.mp listed
  rw [Config.pipelineId, unset server given]
  exact List.mem_cons_of_mem _ List.mem_cons_self

/-- Servers that all succeed one after the other are among the runs of their plan. -/
theorem interleaved {servers : List Config} (unset : ∀ server ∈ servers, server.pipeline = none)
    (succeeded : (finish servers).1 = (records servers).map .ok) :
    Interleaved ((plan servers).configs.map (RunPlan.branch resolver)) world
      ((records servers).map .ok) (finish servers).2 := by
  rw [← succeeded]
  exact RunPlan.interleaved_run loaded (standard unset) world

/-- If the only two outputs of the servers have one location and different texts, one is lost. -/
theorem not_kept {servers : List Config} (unset : ∀ server ∈ servers, server.pipeline = none)
    (succeeded : (finish servers).1 = (records servers).map .ok)
    (outputs : (records servers).flatMap (·.outputs) = [output servers 0, output servers 1])
    (same : FileTree.locationFrom world.files.workingDirectory (output servers 0).path =
      FileTree.locationFrom world.files.workingDirectory (output servers 1).path)
    (written : (output servers 0).code.isSome) (otherWritten : (output servers 1).code.isSome)
    (different : (output servers 0).code ≠ (output servers 1).code) :
    ¬ RunPlan.Kept (finish servers).2.files (records servers) := by
  intro kept
  have landed := RunPlan.landed_of_interleaved loaded (standard unset)
    (interleaved unset succeeded)
  have apart := RunPlan.apart_of_kept kept
  rw [landed.workingDirectory] at apart
  exact RunPlan.not_apart_of_outputs outputs same written otherWritten different apart

end Neighbours

namespace RunPlan

open Neighbours

/-- Two servers with files of their own both keep their texts. -/
theorem kept_placed :
    Interleaved ((plan placed).configs.map (branch resolver)) world
        ((records placed).map .ok) (finish placed).2 ∧
      Kept (finish placed).2.files (records placed) := by
  have unset : ∀ server ∈ placed, server.pipeline = none := by simp [placed, server]
  have runs := interleaved unset (by rfl)
  refine ⟨runs, (kept_iff_apart loaded (standard unset) runs).1.mpr (apart_of_nodup ?_)⟩
  have locations : ((records placed).flatMap (·.outputs)).map (fun output =>
      FileTree.locationFrom world.files.workingDirectory output.path) =
      [["cats.ts"], ["dogs.ts"]] := by rfl
  rw [locations]
  decide

/-- Two servers that leave the file to the default both succeed, and one of them loses its text. So
does a server whose typings take a detour to the file of its functions. -/
theorem not_kept_unplaced :
    (Interleaved ((plan unplaced).configs.map (branch resolver)) world
        ((records unplaced).map .ok) (finish unplaced).2 ∧
      ¬ Kept (finish unplaced).2.files (records unplaced)) ∧
    Interleaved ((plan detour).configs.map (branch resolver)) world
        ((records detour).map .ok) (finish detour).2 ∧
      ¬ Kept (finish detour).2.files (records detour) := by
  have unset : ∀ server ∈ unplaced, server.pipeline = none := by simp [unplaced, server]
  have detourUnset : ∀ server ∈ detour, server.pipeline = none := by simp [detour, server]
  refine ⟨⟨interleaved unset (by rfl), ?_⟩, interleaved detourUnset (by rfl), ?_⟩
  · exact not_kept unset (by rfl) (by rfl) (by rfl) (by rfl) (by rfl) (by decide +kernel)
  · exact not_kept detourUnset (by rfl) (by rfl) (by rfl) (by rfl) (by rfl) (by decide +kernel)

end RunPlan

end ClientGen
