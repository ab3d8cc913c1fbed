import ClientGen.Proofs.Course
import ClientGen.Proofs.Resolving
import ClientGen.Run

/-!
# Independent runs

The runs of a plan go on side by side, and all they share is the world and the cache. As long as
the manifests stay as they are, and the stages of every run depend only on what they are given and
on what no run changes, each run ends as it does alone. The cache carries this: what it keeps is
always what a fresh look would find.
-/

namespace ClientGen

/-! ## Settled scripts -/

variable {calm : World → Prop}

namespace Script

variable {α β : Type} {script : Script α}

/-- There is one value that a script may end with, as long as there is a world to run it in. -/
theorem Yields.unique {a b : α} (first : script.Yields calm (· = a))
    (second : script.Yields calm (· = b)) {world : World} (quiet : calm world) : a = b :=
  (first.run quiet).1.symm.trans (second.run quiet).1

theorem answered_of_reads {command : Command} (reads : command.Reads) {files : FileTree}
    {world after : World} {reply : command.Reply} (same : world.files = files)
    (answers : world.Answers command reply after) :
    reply = ((⟨files, []⟩ : World).perform command).1 := by
  subst same
  cases answers with
  | downloaded url reply => cases reads
  | performed command =>
      cases command with
      | readText path => rfl
      | isFile path => rfl
      | isDirectory path => rfl
      | _ => cases reads

/-- A script that only reads ends with the same value as long as the files stay as they are. -/
theorem Reads.settled (reads : script.Reads) (files : FileTree) :
    script.Settled fun world => world.files = files := by
  induction script with
  | done a => exact ⟨a, rfl⟩
  | call command next ih =>
      obtain ⟨a, yields⟩ := ih _ (reads.2 ((⟨files, []⟩ : World).perform command).1)
      refine ⟨a, fun world reply after same answers => ?_⟩
      obtain rfl := reads.1.unchanged answers
      obtain rfl := answered_of_reads reads.1 same answers
      exact ⟨same, yields⟩

end Script

namespace Task

variable {α β : Type} {task : Task α} {f : α → Task β}

theorem yields_within {own : Except Failure α} (stage : Stage)
    (yields : task.run.Yields calm (· = own)) :
    (within stage task).run.Yields calm (· = own.mapError (Failure.within stage)) := by
  rw [run_within]
  apply Script.Yields.bind yields
  rintro _ rfl
  rfl

theorem settled_bind_of_error {failure : Failure}
    (first : task.run.Yields calm (· = .error failure)) : (task >>= f).run.Settled calm := by
  refine ⟨.error failure, Script.Yields.bind first ?_⟩
  rintro _ rfl
  rfl

theorem settled_bind_of_ok {a : α} (first : task.run.Yields calm (· = .ok a))
    (second : (f a).run.Settled calm) : (task >>= f).run.Settled calm := by
  obtain ⟨b, yields⟩ := second
  refine ⟨b, Script.Yields.bind first ?_⟩
  rintro _ rfl
  exact yields

end Task

/-! ## The stages of a run -/

namespace Pipeline

/-- The starts that a run of a pipeline comes to in calm worlds. -/
inductive Reaches (calm : World → Prop) (pipeline : Pipeline) (config : Config) : Start → Prop where
  | first : Reaches calm pipeline config (.readConfig config)
  | next {start next : Start} {record : Record} (reached : Reaches calm pipeline config start)
      (returns : (pipeline.serve start).run.Yields calm (· = .ok record))
      (follows : start.next? record = some next) : Reaches calm pipeline config next

variable {pipeline : Pipeline} {config : Config}

/-- A run whose stages are settled is settled. The induction is on the stages that are left. -/
theorem settled_runFrom
    (stages : ∀ start, pipeline.Reaches calm config start →
      (pipeline.serve start).run.Settled calm)
    {start : Start} (reached : pipeline.Reaches calm config start) :
    (pipeline.runFrom start).run.Settled calm := by
  induction left : 6 - start.stage.position generalizing start with
  | zero =>
      have := start.position_lt
      omega
  | succ count ih =>
      rw [runFrom_eq]
      obtain ⟨own, served⟩ := stages start reached
      cases own with
      | error failure => exact Task.settled_bind_of_error (Task.yields_within start.stage served)
      | ok record =>
          apply Task.settled_bind_of_ok (Task.yields_within start.stage served)
          cases follows : start.next? record with
          | none => exact ⟨.ok record, rfl⟩
          | some next =>
              apply ih (reached.next served follows)
              rw [Start.position_next follows]
              omega

theorem settled_run
    (stages : ∀ start, pipeline.Reaches calm config start →
      (pipeline.serve start).run.Settled calm) : (pipeline.run config).run.Settled calm := by
  rw [run_eq_runFrom]
  exact settled_runFrom stages .first

end Pipeline

/-! ## What identifiers name -/

namespace Resolver

/-- What resolving an identifier with a cache answers in calm worlds. -/
def Names (calm : World → Prop) (resolver : Resolver) (cache : Cache) (identifier : String)
    (outcome : Except Failure (Option Pipeline)) : Prop :=
  match cache.find? identifier with
  | some kept => outcome = .ok (some kept)
  | none => (resolver.load identifier).run.Yields calm (· = outcome)

/-- Everything that is kept later is what its identifier names. -/
def Keeps (calm : World → Prop) (resolver : Resolver) (cache later : Cache) : Prop :=
  ∀ identifier kept, later.find? identifier = some kept →
    resolver.Names calm cache identifier (.ok (some kept))

variable {resolver : Resolver} {cache : Cache} {identifier : String}

theorem Names.unique {outcome other : Except Failure (Option Pipeline)}
    (first : resolver.Names calm cache identifier outcome)
    (second : resolver.Names calm cache identifier other) {world : World} (quiet : calm world) :
    outcome = other := by
  cases found : cache.find? identifier with
  | some kept =>
      rw [Names, found] at first second
      exact first.trans second.symm
  | none =>
      rw [Names, found] at first second
      exact first.unique second quiet

theorem Keeps.refl (calm : World → Prop) (resolver : Resolver) (cache : Cache) :
    resolver.Keeps calm cache cache := by
  intro identifier kept found
  rw [Names, found]

theorem Keeps.keep {later : Cache} {pipeline : Pipeline} (keeps : resolver.Keeps calm cache later)
    (names : resolver.Names calm cache identifier (.ok (some pipeline))) :
    resolver.Keeps calm cache (later.keep identifier pipeline).2 :=
  Cache.forall_of_keep keeps names

/-- Among others, a call answers what its identifier names. -/
theorem ensures_named {outcome : Except Failure (Option Pipeline)} {world : World}
    (quiet : calm world) (names : resolver.Names calm cache identifier outcome) :
    (resolver.resolving identifier).Ensures calm (resolver.Keeps calm cache)
      (fun _ answer => answer = outcome) cache := by
  intro later within keeps
  cases found : later.find? identifier with
  | some kept => exact (keeps identifier kept found).unique names quiet
  | none =>
      have free : cache.find? identifier = none := by
        cases old : cache.find? identifier with
        | none => rfl
        | some kept => exact absurd (within identifier kept old) (by rw [found]; nofun)
      have loads : (resolver.load identifier).run.Yields calm (· = outcome) := by
        rwa [Names, free] at names
      apply Thread.Ensures.bind (.of_yields loads)
      rintro now (failure | _ | pipeline) rfl
      · rfl
      · rfl
      · intro last within keeps
        have keepsAfter := keeps.keep names
        have kept := keepsAfter identifier _ (last.find?_keep identifier pipeline)
        exact ⟨keepsAfter, kept.unique names quiet⟩

/-- That an identifier names nothing is a failure. -/
def required (identifier : String) :
    Except Failure (Option Pipeline) → Except Failure Pipeline
  | .error failure => .error failure
  | .ok none => .error (.pipelineNotFound identifier)
  | .ok (some pipeline) => .ok pipeline

/-- A call that requires an identifier to name something, step by step. -/
def requiring (resolver : Resolver) (identifier : String) : Thread (Except Failure Pipeline) :=
  (resolver.resolving identifier).bind fun outcome => .done (required identifier outcome)

/-- By itself, such a call does what requiring does. -/
theorem alone_requiring (resolver : Resolver) (cache : Cache) (identifier : String) :
    (resolver.requiring identifier).alone cache = resolver.require cache identifier := by
  rw [requiring, Thread.alone_bind, alone_resolving]
  change _ = (resolver.resolve cache identifier).bind _
  congr 1
  funext ⟨outcome, after⟩
  match outcome with
  | .error failure => rfl
  | .ok none => rfl
  | .ok (some pipeline) => rfl

end Resolver

/-! ## The runs of a plan, step by step -/

namespace RunPlan

/-- The run of one configuration, step by step: its pipeline is required, and takes it through every
stage. -/
def branching (resolver : Resolver) (config : Config) : Thread (Except Failure Record) :=
  (resolver.requiring config.pipelineId).bind fun found => (runOne (found, config)).thread

def begin (resolver : Resolver) (plan : RunPlan) (scene : Scene) : Moment (Except Failure Record) :=
  ⟨plan.configs.map (branching resolver), scene⟩

theorem finishEach_requiring (resolver : Resolver) (configs : List Config) (scene : Scene) :
    Thread.finishEach (fun config : Config => resolver.requiring config.pipelineId) configs scene =
      (((requireAll resolver scene.cache configs).run scene.world).1.1.map Prod.swap,
        ⟨((requireAll resolver scene.cache configs).run scene.world).1.2,
          ((requireAll resolver scene.cache configs).run scene.world).2⟩) := by
  induction configs generalizing scene with
  | nil => rfl
  | cons config rest ih =>
      have opened : requireAll resolver scene.cache (config :: rest) =
          (resolver.require scene.cache config.pipelineId).bind fun required =>
            (requireAll resolver required.2 rest).bind fun others =>
              .done ((required.1, config) :: others.1, others.2) := rfl
      rw [Thread.finishEach_cons, ih, opened, Script.run_bind, Script.run_bind,
        ← Resolver.alone_requiring]
      rfl

theorem finishEach_thread {γ α : Type} (script : γ → Script α) (given : List γ) (scene : Scene) :
    (Thread.finishEach (fun one => (script one).thread) given scene).1.map Prod.snd =
        ((given.mapM script).run scene.world).1 ∧
      (Thread.finishEach (fun one => (script one).thread) given scene).2 =
        { scene with world := ((given.mapM script).run scene.world).2 } := by
  induction given generalizing scene with
  | nil => exact ⟨rfl, rfl⟩
  | cons first rest ih =>
      have opened : (first :: rest).mapM script =
          (script first).bind fun a => (rest.mapM script).bind fun others =>
            .done (a :: others) := List.mapM_cons
      obtain ⟨values, left⟩ := ih ((script first).thread.finish scene).2
      rw [Thread.finishEach_cons, List.map_cons, values, left, opened, Script.run_bind,
        Script.run_bind, Thread.finish_thread]
      exact ⟨rfl, rfl⟩

/-- Requiring all pipelines and then running one configuration after the other is one of the ways
in which the runs of a plan can go on. -/
theorem runs_run (calm : World → Prop) (resolver : Resolver) (plan : RunPlan) (scene : Scene) :
    ∃ log, Runs calm (begin resolver plan scene) log
      ⟨((plan.run resolver scene.cache).run scene.world).1.1.map .done,
        ⟨((plan.run resolver scene.cache).run scene.world).1.2,
          ((plan.run resolver scene.cache).run scene.world).2⟩⟩ := by
  have joined : plan.run resolver scene.cache =
      (requireAll resolver scene.cache plan.configs).bind fun required =>
        (required.1.mapM runOne).bind fun outcomes => .done (outcomes, required.2) := rfl
  have begun : Runs calm (begin resolver plan scene) [] ⟨[] ++ plan.configs.map fun config =>
      (resolver.requiring config.pipelineId).bind fun found => (runOne (found, config)).thread,
      scene⟩ := .start
  obtain ⟨log, required⟩ := begun.finishEach
  rw [finishEach_requiring, List.map_map] at required
  rw [joined, Script.run_bind]
  generalize (requireAll resolver scene.cache plan.configs).run scene.world = after at required ⊢
  obtain ⟨⟨found, cache⟩, world⟩ := after
  have onward : Runs calm (begin resolver plan scene) log
      ⟨[] ++ found.map fun given => (runOne given).thread.bind .done, ⟨cache, world⟩⟩ := by
    simp only [Thread.bind_done]
    exact required
  obtain ⟨log, ended⟩ := onward.finishEach
  obtain ⟨outcomes, left⟩ := finishEach_thread runOne found ⟨cache, world⟩
  refine ⟨log, ?_⟩
  dsimp only
  rw [Script.run_bind]
  change Runs calm _ log ⟨((found.mapM runOne).run world).1.map .done,
    ⟨cache, ((found.mapM runOne).run world).2⟩⟩
  rw [← outcomes, List.map_map]
  rw [left] at ended
  exact ended

/-! ## Independence -/

/-- A run whose manifest stays as it is, and whose stages depend only on what they are given and on
what all calm worlds have in common. -/
structure Steady (calm : World → Prop) (resolver : Resolver) (cache : Cache) (config : Config) :
    Prop where
  manifest : ∃ outcome, resolver.Names calm cache config.pipelineId outcome
  stages : ∀ pipeline, resolver.Names calm cache config.pipelineId (.ok (some pipeline)) →
    ∀ start, pipeline.Reaches calm config start → (pipeline.serve start).run.Settled calm

variable {resolver : Resolver} {cache : Cache} {config : Config}

theorem Steady.settled {found : Except Failure (Option Pipeline)}
    (steady : Steady calm resolver cache config)
    (names : resolver.Names calm cache config.pipelineId found) :
    (runOne (Resolver.required config.pipelineId found, config)).Settled calm := by
  match found with
  | .error failure => exact ⟨.error failure, rfl⟩
  | .ok none => exact ⟨.error (.pipelineNotFound config.pipelineId), rfl⟩
  | .ok (some pipeline) => exact Pipeline.settled_run (steady.stages pipeline names)

/-- Among others, a steady run has a single outcome. -/
theorem Steady.ensures (steady : Steady calm resolver cache config) {world : World}
    (quiet : calm world) : ∃ outcome, (branching resolver config).Ensures calm
      (resolver.Keeps calm cache) (fun _ ended => ended = outcome) cache := by
  obtain ⟨found, names⟩ := steady.manifest
  obtain ⟨outcome, yields⟩ := steady.settled names
  have requires : (resolver.requiring config.pipelineId).Ensures calm (resolver.Keeps calm cache)
      (fun _ required => required = Resolver.required config.pipelineId found) cache := by
    apply (Resolver.ensures_named quiet names).bind
    rintro later _ rfl
    rfl
  refine ⟨outcome, requires.bind ?_⟩
  rintro later _ rfl
  exact .of_yields yields

/-- In whichever plan they are, and in whichever order they go on, steady runs have the same
outcomes. -/
theorem exists_outcomes (resolver : Resolver) (cache : Cache) {first : World}
    (quiet : calm first) : ∃ outcomes : Config → Except Failure Record,
      ∀ (plan : RunPlan) world log now, calm world →
        (∀ config ∈ plan.configs, Steady calm resolver cache config) →
        Runs calm (begin resolver plan ⟨cache, world⟩) log now →
        ∀ number config outcome, plan.configs[number]? = some config →
          now.Ended number outcome → outcome = outcomes config := by
  have each : ∀ config, ∃ outcome, Steady calm resolver cache config →
      (branching resolver config).Ensures calm (resolver.Keeps calm cache)
        (fun _ ended => ended = outcome) cache := by
    intro config
    by_cases steady : Steady calm resolver cache config
    · obtain ⟨outcome, ensures⟩ := steady.ensures quiet
      exact ⟨outcome, fun _ => ensures⟩
    · exact ⟨.error (.pipelineNotFound config.pipelineId), fun same => absurd same steady⟩
  obtain ⟨outcomes, ensures⟩ := Classical.skolem.mp each
  refine ⟨outcomes, fun plan world log now quiet steady runs => ?_⟩
  exact (runs.ensures_ended (fun _ _ _ _ _ same => same) quiet (.refl calm resolver cache)
    fun config listed => ensures config (steady config listed)).1

/-- A steady run that has ended has done so as it does alone, whatever others did meanwhile. -/
theorem alone_of_ended {plan : RunPlan} {world : World} {log : List Change}
    {now : Moment (Except Failure Record)} (quiet : calm world)
    (steady : ∀ config ∈ plan.configs, Steady calm resolver cache config)
    (runs : Runs calm (begin resolver plan ⟨cache, world⟩) log now) {number : Nat}
    {outcome : Except Failure Record} (listed : plan.configs[number]? = some config)
    (ended : now.Ended number outcome) {other : World} (otherQuiet : calm other) :
    (((single config).run resolver cache).run other).1.1 = [outcome] := by
  obtain ⟨outcomes, same⟩ := exists_outcomes resolver cache quiet
  obtain ⟨_, alone⟩ := runs_run calm resolver (single config) ⟨cache, other⟩
  have length := alone.length_threads
  rw [List.length_map] at length
  obtain ⟨own, values⟩ := List.length_eq_one_iff.mp length
  rw [values] at alone ⊢
  have steadyAlone : ∀ one ∈ (single config).configs, Steady calm resolver cache one := by
    intro one member
    obtain rfl := List.mem_singleton.mp member
    exact steady one (List.mem_of_getElem? listed)
  rw [same plan world _ _ quiet steady runs number config outcome listed ended,
    same (single config) other _ _ otherQuiet steadyAlone alone 0 config own rfl rfl]

/-- The runs of a plan are independent: running the plan is one of the ways in which they can go on,
they can always come to their ends, and in whichever order they have gone on, each of them has ended
as it does alone. -/
theorem independent {plan : RunPlan} {world : World} (quiet : calm world)
    (steady : ∀ config ∈ plan.configs, Steady calm resolver cache config) :
    (∃ log, Runs calm (begin resolver plan ⟨cache, world⟩) log
      ⟨((plan.run resolver cache).run world).1.1.map .done,
        ⟨((plan.run resolver cache).run world).1.2, ((plan.run resolver cache).run world).2⟩⟩) ∧
    ∀ log now, Runs calm (begin resolver plan ⟨cache, world⟩) log now →
      (∃ log outcomes scene, Runs calm now log ⟨List.map .done outcomes, scene⟩) ∧
      ∀ outcomes, now.threads = outcomes.map .done →
        List.Forall₂ (fun config outcome => ∀ other, calm other →
          (((single config).run resolver cache).run other).1.1 = [outcome])
          plan.configs outcomes := by
  refine ⟨runs_run calm resolver plan ⟨cache, world⟩, fun log now runs =>
    ⟨Runs.start.exists_ended, fun outcomes ended => ?_⟩⟩
  have length : plan.configs.length = outcomes.length := by
    have same := runs.length_threads
    rw [ended, begin, List.length_map, List.length_map] at same
    exact same.symm
  rw [List.forall₂_iff_get]
  refine ⟨length, fun number inside otherInside other otherQuiet => ?_⟩
  apply alone_of_ended quiet steady runs (List.getElem?_eq_getElem inside) _ otherQuiet
  rw [Moment.Ended, ended, List.getElem?_map, List.getElem?_eq_getElem otherInside]
  rfl

end RunPlan

/-! Five runs, of which two find what they need. -/

namespace FanOut

/-- A pipeline that keeps the text of the file it is given as the description. -/
def echo : Pipeline where
  name := "echo"
  readConfig config :=
    match config.input? with
    | some input => pure (.new input config [])
    | none => Task.fail (.config .missingInput)
  parser record :=
    match record.input with
    | .uri address => do
        let text ← Task.readText ⟨address⟩
        return { record with source := some (.string text) }
    | _ => Task.fail (.config .missingInput)
  compiler := pure
  generate := pure
  dest record := Task.ask (.note record.config.pipelineId)

def resolver : Resolver :=
  ⟨Registry.empty.addPipeline echo, ⟨""⟩⟩

def files : FileTree :=
  [("a.json", "first"), ("c.json", "last"), ("bad.toml", "name")].foldl (fun files (path, text) =>
    match files.writeText ⟨path⟩ text with
    | .ok files => files
    | .error _ => files) .empty

def server (address : String) (pipeline : Option String) : Config :=
  { Config.empty with input := some (.shorthand address), pipeline := pipeline }

def plan : RunPlan :=
  .servers ⟨.none, some "echo", [server "a.json" none, server "a.json" (some "nowhere"),
    server "a.json" (some "bad.toml"), server "gone.json" none, server "c.json" none]⟩

def world : World := ⟨files, []⟩

def Untouched (world : World) : Prop :=
  world.files = files

theorem reads_readText (path : Path) : (Task.readText path).run.Reads := by
  have asked : (Task.ask (.readText path)).run.Reads := Task.reads_ask trivial
  apply Task.reads_bind asked
  intro reply
  split <;> trivial

/-- What the stages do depends only on what they are given and on the files. -/
theorem settled_serve (start : Pipeline.Start) :
    (echo.serve start).run.Settled Untouched := by
  cases start with
  | readConfig config =>
      apply Script.Reads.settled
      simp only [Pipeline.serve, echo]
      split <;> trivial
  | source record => exact ⟨.ok record, rfl⟩
  | parser record =>
      apply Script.Reads.settled
      simp only [Pipeline.serve, echo]
      split
      · exact Task.reads_bind (reads_readText _) fun _ => trivial
      · trivial
  | compiler record => exact ⟨.ok record, rfl⟩
  | generate record => exact ⟨.ok record, rfl⟩
  | dest record =>
      refine ⟨.ok record, fun world reply after untouched answers => ⟨?_, rfl⟩⟩
      cases answers
      exact untouched

def loaded (identifier : String) : Except Failure (Option Pipeline) :=
  ((resolver.load identifier).runIn world).1

theorem names_loaded (identifier : String) :
    resolver.Names Untouched [] identifier (loaded identifier) := by
  obtain ⟨outcome, yields⟩ := Script.Reads.settled (resolver.reads_load identifier) files
  have same : loaded identifier = outcome := (yields.run (rfl : Untouched world)).1
  rw [same]
  exact yields

theorem loaded_echo : loaded "echo" = .ok (some echo) := by
  rw [loaded, Resolver.load_of_published (by decide) rfl]
  rfl

theorem eq_echo_of_loaded {config : Config} (listed : config ∈ plan.configs) {pipeline : Pipeline}
    (loads : loaded config.pipelineId = .ok (some pipeline)) : pipeline = echo := by
  have identifiers : plan.configs.map Config.pipelineId =
      ["echo", "nowhere", "bad.toml", "echo", "echo"] := rfl
  have identified : config.pipelineId ∈ plan.configs.map Config.pipelineId :=
    List.mem_map_of_mem listed
  have unnamed (identifier : String)
      (absent : ((loaded identifier).toOption.bind id).isSome = false) :
      loaded identifier ≠ .ok (some pipeline) := by
    intro same
    rw [same] at absent
    cases absent
  rw [identifiers] at identified
  simp only [List.mem_cons, List.not_mem_nil, or_false] at identified
  rcases identified with same | same | same | same | same
  all_goals rw [same] at loads
  · exact Option.some.inj (Except.ok.inj (loads.symm.trans loaded_echo))
  · exact absurd loads (unnamed "nowhere" (by decide +kernel))
  · exact absurd loads (unnamed "bad.toml" (by decide +kernel))
  · exact Option.some.inj (Except.ok.inj (loads.symm.trans loaded_echo))
  · exact Option.some.inj (Except.ok.inj (loads.symm.trans loaded_echo))

theorem steady : ∀ config ∈ plan.configs, RunPlan.Steady Untouched resolver [] config := by
  intro config listed
  refine ⟨⟨_, names_loaded config.pipelineId⟩, fun pipeline names start _ => ?_⟩
  obtain rfl := eq_echo_of_loaded listed
    ((names_loaded config.pipelineId).unique names (rfl : Untouched world))
  exact settled_serve start

end FanOut

open FanOut in
/-- Two of five runs succeed, and all of them end as they do alone. -/
theorem RunPlan.independent_fanOut : ∃ log outcomes scene,
    Runs Untouched (begin resolver plan ⟨[], world⟩) log ⟨List.map .done outcomes, scene⟩ ∧
      outcomes.map (fun outcome => outcome.toOption.isSome) = [true, false, false, false, true] ∧
      List.Forall₂ (fun config outcome => ∀ other, Untouched other →
        (((single config).run resolver []).run other).1.1 = [outcome]) plan.configs outcomes := by
  obtain ⟨⟨log, runs⟩, alone⟩ := independent (rfl : Untouched world) steady
  obtain ⟨-, same⟩ := alone log _ runs
  exact ⟨log, _, _, runs, by decide +kernel, same _ rfl⟩

end ClientGen
