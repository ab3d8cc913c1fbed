import ClientGen.Proofs.SharedCache

/-!
# Resolving side by side

A call that resolves an identifier looks it up, loads what it names if nothing is kept for it, and
keeps what it has loaded unless something is kept by then. Any number of calls may do so at a time,
while files change as they like. The main statement is that they never disagree.
-/

namespace ClientGen

/-! ## Commands that only read -/

/-- A command that changes nothing. -/
def Command.Reads : Command → Prop
  | .readText _ => True
  | .isFile _ => True
  | .isDirectory _ => True
  | _ => False

theorem Command.Reads.unchanged {command : Command} (reads : command.Reads)
    {reply : command.Reply} {world after : World} (answers : world.Answers command reply after) :
    after = world := by
  cases answers with
  | downloaded url reply => rfl
  | performed command =>
      cases command with
      | readText path => rfl
      | isFile path => rfl
      | isDirectory path => rfl
      | _ => cases reads

/-- A script of commands that change nothing. -/
def Script.Reads {α : Type} : Script α → Prop
  | .done _ => True
  | .call command next => command.Reads ∧ ∀ reply, (next reply).Reads

theorem Script.Reads.bind {α β : Type} {script : Script α} {f : α → Script β}
    (first : script.Reads) (second : ∀ a, (f a).Reads) : (script.bind f).Reads := by
  induction script with
  | done a => exact second a
  | call command next ih => exact ⟨first.1, fun reply => ih reply (first.2 reply)⟩

theorem Script.Reads.run {α : Type} {script : Script α} (reads : script.Reads) (world : World) :
    (script.run world).2 = world := by
  induction script with
  | done a => rfl
  | call command next ih =>
      have unchanged : (world.perform command).2 = world := reads.1.unchanged (.performed command)
      change ((next (world.perform command).1).run (world.perform command).2).2 = world
      rw [unchanged]
      exact ih _ (reads.2 _)

theorem Task.reads_bind {α β : Type} {task : Task α} {f : α → Task β} (first : task.run.Reads)
    (second : ∀ a, (f a).run.Reads) : (task >>= f).run.Reads := by
  apply Script.Reads.bind first
  rintro (failure | a)
  · trivial
  · exact second a

theorem Task.reads_ask {command : Command} (reads : command.Reads) :
    (Task.ask command).run.Reads :=
  ⟨reads, fun _ => trivial⟩

theorem Script.reads_firstFile (paths : List Path) : (Script.firstFile paths).Reads := by
  induction paths with
  | nil => trivial
  | cons path rest ih =>
      refine ⟨trivial, fun found => ?_⟩
      cases found with
      | true => trivial
      | false => exact ih

theorem Manifest.reads_locate (path : Path) : (Manifest.locate path).Reads := by
  refine ⟨trivial, fun directory => ?_⟩
  cases directory with
  | true => exact Script.reads_firstFile _
  | false =>
      refine ⟨trivial, fun file => ?_⟩
      cases file <;> trivial

theorem Manifest.reads_load (registry : Registry) (path : Path) :
    (Manifest.load registry path).run.Reads := by
  have asked : (Task.ask (.readText path)).run.Reads := Task.reads_ask trivial
  apply Task.reads_bind asked
  intro reply
  split
  · trivial
  · trivial
  · dsimp only
    split <;> trivial

namespace Resolver

variable (resolver : Resolver)

theorem reads_loadAt (candidate : Candidate) : (resolver.loadAt candidate).run.Reads := by
  cases candidate with
  | package name => trivial
  | manifest path =>
      apply Task.reads_bind
      · exact Script.Reads.bind (Manifest.reads_locate path) fun _ => trivial
      · intro place
        cases place with
        | none => trivial
        | some file => exact Manifest.reads_load _ _

theorem reads_loadFirst (candidates : List Candidate) :
    (resolver.loadFirst candidates).run.Reads := by
  induction candidates with
  | nil => trivial
  | cons candidate rest ih =>
      apply Task.reads_bind (resolver.reads_loadAt candidate)
      intro found
      cases found with
      | none => exact ih
      | some pipeline => trivial

/-- Loading changes nothing. -/
theorem reads_load (identifier : String) : (resolver.load identifier).run.Reads :=
  resolver.reads_loadFirst _

/-! ## What is loaded -/

variable {resolver} {identifier : String}

theorem load_of_blank (blank : Text.isBlankText identifier = true) :
    resolver.load identifier = pure none := by
  rw [load, candidates, if_pos blank, loadFirst]

theorem load_of_published {pipeline : Pipeline} (named : Text.isBlankText identifier = false)
    (published : resolver.registry.pipeline? (packageName identifier) = some pipeline) :
    resolver.load identifier = pure (some pipeline) := by
  rw [load, candidates, if_neg (ne_true_of_eq_false named), loadFirst, loadAt, published]
  rfl

/-- What is loaded for a blank identifier, and for one whose package is published. -/
theorem yields_load (resolver : Resolver) (identifier : String) :
    (resolver.load identifier).run.Yields (fun _ => True) fun outcome =>
      (Text.isBlankText identifier = true → outcome = .ok none) ∧
      ∀ pipeline, Text.isBlankText identifier = false →
        resolver.registry.pipeline? (packageName identifier) = some pipeline →
        outcome = .ok (some pipeline) := by
  cases named : Text.isBlankText identifier with
  | true =>
      rw [load_of_blank named]
      exact ⟨fun _ => rfl, nofun⟩
  | false =>
      cases published : resolver.registry.pipeline? (packageName identifier) with
      | none => exact (Script.yields_trivial _).imp fun _ _ => ⟨nofun, nofun⟩
      | some pipeline =>
          rw [load_of_published named published]
          refine ⟨nofun, ?_⟩
          rintro _ _ ⟨⟩
          rfl

/-! ## Calls -/

def settling (identifier : String) :
    Except Failure (Option Pipeline) → Thread (Except Failure (Option Pipeline))
  | .error failure => .done (.error failure)
  | .ok none => .done (.ok none)
  | .ok (some pipeline) => .keep identifier pipeline fun kept => .done (.ok (some kept))

/-- A call that resolves an identifier, step by step. -/
def resolving (resolver : Resolver) (identifier : String) :
    Thread (Except Failure (Option Pipeline)) :=
  .lookUp identifier fun
    | some kept => .done (.ok (some kept))
    | none => (resolver.load identifier).run.thread.bind (settling identifier)

/-- By itself, a call does what resolving does. -/
theorem alone_resolving (resolver : Resolver) (cache : Cache) (identifier : String) :
    (resolver.resolving identifier).alone cache = resolver.resolve cache identifier := by
  simp only [resolving, resolve, Thread.alone]
  cases cache.find? identifier with
  | some kept => rfl
  | none =>
      dsimp only
      rw [Thread.alone_bind, Thread.alone_thread, Script.bind_assoc]
      change _ = (resolver.load identifier).run.bind _
      congr 1
      funext outcome
      rcases outcome with failure | none | pipeline <;> rfl

end Resolver

/-! ## Calls that change nothing -/

/-- Only reads, but for a last step that may keep something, and then answers what is kept. -/
def Thread.Careful : Thread (Except Failure (Option Pipeline)) → Prop
  | .done _ => True
  | .call command next => command.Reads ∧ ∀ reply, (next reply).Careful
  | .lookUp _ next => ∀ found, (next found).Careful
  | .keep _ _ next => ∀ kept, ∃ found, next kept = .done (.ok (some found))

namespace Thread

theorem careful_of_reads {α : Type} {script : Script α}
    {f : α → Thread (Except Failure (Option Pipeline))} (reads : script.Reads)
    (careful : ∀ a, (f a).Careful) : (script.thread.bind f).Careful := by
  induction script with
  | done a => exact careful a
  | call command next ih => exact ⟨reads.1, fun reply => ih reply (reads.2 reply)⟩

/-- A step changes nothing unless it is the last one and answers a pipeline. -/
theorem Careful.step {thread next : Thread (Except Failure (Option Pipeline))}
    {scene after : Scene} (careful : thread.Careful) (step : thread.Step scene next after) :
    next.Careful ∧ (after = scene ∨ ∃ pipeline, next = .done (.ok (some pipeline))) := by
  cases step with
  | @call command next reply scene world answers =>
      obtain rfl := careful.1.unchanged answers
      exact ⟨careful.2 reply, .inl rfl⟩
  | lookUp => exact ⟨careful _, .inl rfl⟩
  | @keep identifier pipeline next scene =>
      obtain ⟨found, last⟩ := careful (scene.cache.keep identifier pipeline).1
      rw [last]
      exact ⟨trivial, .inr ⟨found, rfl⟩⟩

end Thread

theorem Resolver.careful_resolving (resolver : Resolver) (identifier : String) :
    (resolver.resolving identifier).Careful := by
  intro found
  cases found with
  | some kept => trivial
  | none =>
      apply Thread.careful_of_reads (resolver.reads_load identifier)
      rintro (failure | _ | pipeline)
      · trivial
      · trivial
      · exact fun kept => ⟨kept, rfl⟩

/-- A call that has not answered a pipeline has changed nothing in any of its steps. -/
theorem Runs.unchanged {outside : World → Prop}
    {start now : Moment (Except Failure (Option Pipeline))} {log : List Change}
    (runs : Runs outside start log now) (careful : ∀ thread ∈ start.threads, thread.Careful) :
    ∀ number thread, now.threads[number]? = some thread → thread.Careful ∧
      ((∃ pipeline, thread = .done (.ok (some pipeline))) ∨
        ∀ change ∈ log, change.thread = some number → change.after = change.before) := by
  induction runs with
  | start =>
      exact fun number thread listed =>
        ⟨careful thread (List.mem_of_getElem? listed), .inr fun change none => nomatch none⟩
  | @step log now own before next scene earlier going step ih =>
      intro number thread listed
      obtain ⟨carefulBefore, unchanged⟩ := ih own before going
      by_cases same : number = own
      · subst same
        rw [getElem?_set_of_getElem? going] at listed
        cases listed
        obtain ⟨carefulAfter, last⟩ := carefulBefore.step step
        refine ⟨carefulAfter, last.symm.imp_right fun still => ?_⟩
        -- A thread that goes on has not ended, so its earlier steps changed nothing.
        rcases unchanged with ⟨pipeline, rfl⟩ | unchanged
        · cases step
        · exact List.forall_mem_append.mpr
            ⟨unchanged, List.forall_mem_singleton.mpr fun _ => still⟩
      · rw [List.getElem?_set_ne (Ne.symm same)] at listed
        obtain ⟨carefulThread, unchanged⟩ := ih number thread listed
        refine ⟨carefulThread, unchanged.imp_right fun unchanged => ?_⟩
        exact List.forall_mem_append.mpr ⟨unchanged, List.forall_mem_singleton.mpr fun mine =>
          absurd (Option.some.inj mine).symm same⟩
  | outside earlier allowed ih =>
      intro number thread listed
      obtain ⟨carefulThread, unchanged⟩ := ih number thread listed
      refine ⟨carefulThread, unchanged.imp_right fun unchanged => ?_⟩
      exact List.forall_mem_append.mpr ⟨unchanged, List.forall_mem_singleton.mpr nofun⟩

/-! ## Agreement -/

namespace Resolver

/-- What a cache keeps has a name, and is what is published under it if anything is. -/
def Sound (resolver : Resolver) (cache : Cache) : Prop :=
  ∀ identifier kept, cache.find? identifier = some kept →
    Text.isBlankText identifier = false ∧
    ∀ pipeline, resolver.registry.pipeline? (packageName identifier) = some pipeline →
      kept = pipeline

/-- What a call may answer, given what is kept by then. -/
structure Answers (resolver : Resolver) (identifier : String) (cache : Cache)
    (outcome : Except Failure (Option Pipeline)) : Prop where
  kept : ∀ pipeline, outcome = .ok (some pipeline) → cache.find? identifier = some pipeline
  published : ∀ pipeline, Text.isBlankText identifier = false →
    resolver.registry.pipeline? (packageName identifier) = some pipeline →
    outcome = .ok (some pipeline)
  blank : Text.isBlankText identifier = true → outcome = .ok none

variable {resolver : Resolver} {identifier : String}

theorem stable_answers : Thread.Stable (resolver.Answers identifier) :=
  fun _ _ _ within answers =>
    { answers with kept := fun pipeline found => within _ _ (answers.kept pipeline found) }

theorem Sound.answers {cache : Cache} {kept : Pipeline} (sound : resolver.Sound cache)
    (found : cache.find? identifier = some kept) :
    resolver.Answers identifier cache (.ok (some kept)) where
  kept := by
    rintro _ ⟨⟩
    exact found
  published := by
    intro pipeline _ published
    rw [(sound identifier kept found).2 pipeline published]
  blank := by
    intro blank
    rw [(sound identifier kept found).1] at blank
    cases blank

theorem Sound.keep {cache : Cache} {pipeline : Pipeline} (sound : resolver.Sound cache)
    (named : Text.isBlankText identifier = false)
    (published : ∀ other, resolver.registry.pipeline? (packageName identifier) = some other →
      pipeline = other) : resolver.Sound (cache.keep identifier pipeline).2 :=
  Cache.forall_of_keep sound ⟨named, published⟩

/-- A call keeps the cache sound and ends with an answer, whatever others do. -/
theorem ensures_resolving (resolver : Resolver) (identifier : String) (cache : Cache) :
    (resolver.resolving identifier).Ensures (fun _ => True) resolver.Sound
      (resolver.Answers identifier) cache := by
  intro later within sound
  cases found : later.find? identifier with
  | some kept => exact sound.answers found
  | none =>
      apply Thread.Ensures.bind (.of_yields (resolver.yields_load identifier))
      rintro now (failure | _ | pipeline) ⟨blank, published⟩
      · exact ⟨nofun, fun pipeline named listed => published pipeline named listed,
          fun none => blank none⟩
      · exact ⟨nofun, fun pipeline named listed => published pipeline named listed, fun _ => rfl⟩
      · intro last within sound
        have named : Text.isBlankText identifier = false :=
          Bool.eq_false_iff.mpr fun none => nomatch blank none
        have soundAfter := sound.keep named fun other listed =>
          Option.some.inj (Except.ok.inj (published other named listed))
        exact ⟨soundAfter, soundAfter.answers (last.find?_keep identifier pipeline)⟩

/-- What holds when any number of calls have gone on for a while: what is kept is sound and stays,
every call that has ended has answered what it may, two calls that were answered pipelines for one
identifier were answered the same one, and a call that was not has changed nothing. -/
structure Agrees (resolver : Resolver) (identifiers : List String) (log : List Change)
    (now : Moment (Except Failure (Option Pipeline))) : Prop where
  calls : now.threads.length = identifiers.length
  sound : resolver.Sound now.scene.cache
  lasting : ∀ log later, Runs (fun _ => True) now log later →
    now.scene.cache.Within later.scene.cache
  answers : ∀ number identifier outcome, identifiers[number]? = some identifier →
    now.Ended number outcome → resolver.Answers identifier now.scene.cache outcome
  agree : ∀ number other identifier pipeline otherPipeline,
    identifiers[number]? = some identifier → identifiers[other]? = some identifier →
    now.Ended number (.ok (some pipeline)) → now.Ended other (.ok (some otherPipeline)) →
    pipeline = otherPipeline
  unchanged : ∀ number outcome, now.Ended number outcome →
    (∀ pipeline, outcome ≠ .ok (some pipeline)) →
    ∀ change ∈ log, change.thread = some number → change.after = change.before

theorem agrees_of_runs {resolver : Resolver} {identifiers : List String} {world : World}
    {log : List Change} {now : Moment (Except Failure (Option Pipeline))}
    (runs : Runs (fun _ => True) ⟨identifiers.map resolver.resolving, ⟨[], world⟩⟩ log now) :
    resolver.Agrees identifiers log now := by
  have empty : resolver.Sound [] := fun _ _ found => nomatch found
  obtain ⟨answers, -, sound⟩ := runs.ensures_ended (fun _ => stable_answers) trivial empty
    fun identifier _ => resolver.ensures_resolving identifier []
  exact {
    calls := runs.length_threads.trans (List.length_map resolver.resolving)
    sound := sound
    lasting := fun _ _ more => more.within
    answers := answers
    agree := by
      intro number other identifier pipeline otherPipeline listed otherListed ended otherEnded
      have kept := (answers number identifier _ listed ended).kept pipeline rfl
      have otherKept := (answers other identifier _ otherListed otherEnded).kept otherPipeline rfl
      exact Option.some.inj (kept.symm.trans otherKept)
    unchanged := by
      intro number outcome ended unanswered
      have careful : ∀ thread ∈ identifiers.map resolver.resolving, thread.Careful := by
        intro thread listed
        obtain ⟨identifier, -, rfl⟩ := List.mem_map.mp listed
        exact resolver.careful_resolving identifier
      obtain ⟨-, ⟨pipeline, same⟩ | unchanged⟩ := runs.unchanged careful number _ ended
      · cases same
        exact absurd rfl (unanswered pipeline)
      · exact unchanged }

/-- A call does what resolving does. However any number of calls go on side by side while files
change at will, they agree with each other and with the cache, and can come to their ends. -/
theorem resolving_agrees (resolver : Resolver) (identifiers : List String) (world : World) :
    (∀ cache identifier, (resolver.resolving identifier).alone cache =
      resolver.resolve cache identifier) ∧
    ∀ log now, Runs (fun _ => True) ⟨identifiers.map resolver.resolving, ⟨[], world⟩⟩ log now →
      resolver.Agrees identifiers log now ∧
      ∃ log outcomes scene, Runs (fun _ => True) now log ⟨List.map .done outcomes, scene⟩ :=
  ⟨resolver.alone_resolving, fun _ _ runs => ⟨agrees_of_runs runs, Runs.start.exists_ended⟩⟩

end Resolver

/-! Two calls load one manifest while it changes. -/

namespace Race

/-- A resolver with a single handler and nothing published. -/
def resolver : Resolver where
  registry := ⟨[], [((.readConfig, "read"),
    .readConfig fun config => pure (.new (.uri "spec.json") config []))]⟩
  directory := ⟨""⟩

/-- A world whose only file is a manifest with a name. -/
def world (name : String) : World :=
  match FileTree.empty.writeText ⟨"api.toml"⟩
      ("name = \"" ++ name ++ "\"\nreadConfig = \"read\"\n") with
  | .ok files => ⟨files, []⟩
  | .error _ => ⟨.empty, []⟩

def loadedName? (world : World) : Option String :=
  (((resolver.load "api.toml").runIn world).1.toOption.bind id).map Pipeline.name

theorem exists_loaded {world : World} {name : String} (same : loadedName? world = some name) :
    ∃ pipeline, ((resolver.load "api.toml").runIn world).1 = .ok (some pipeline) ∧
      pipeline.name = name := by
  unfold loadedName? at same
  match outcome : ((resolver.load "api.toml").runIn world).1 with
  | .ok (some pipeline) =>
      rw [outcome] at same
      exact ⟨pipeline, rfl, Option.some.inj same⟩
  | .ok none =>
      rw [outcome] at same
      cases same
  | .error failure =>
      rw [outcome] at same
      cases same

def start : Moment (Except Failure (Option Pipeline)) :=
  ⟨["api.toml", "api.toml"].map resolver.resolving, ⟨[], world "one"⟩⟩

def keeping (pipeline : Pipeline) : Thread (Except Failure (Option Pipeline)) :=
  .keep "api.toml" pipeline fun kept => .done (.ok (some kept))

/-- A call that finds nothing kept can go on until it has loaded a pipeline. -/
theorem exists_keeping {log : List Change} {name : String} (number : Nat)
    {threads : List (Thread (Except Failure (Option Pipeline)))}
    (runs : Runs (fun _ => True) start log ⟨threads, ⟨[], world name⟩⟩)
    (going : threads[number]? = some (resolver.resolving "api.toml"))
    (named : loadedName? (world name) = some name) :
    ∃ log pipeline, pipeline.name = name ∧ Runs (fun _ => True) start log
      ⟨threads.set number (keeping pipeline), ⟨[], world name⟩⟩ := by
  obtain ⟨pipeline, loads, same⟩ := exists_loaded named
  have missed : (threads.set number ((resolver.load "api.toml").run.thread.bind
      (Resolver.settling "api.toml")))[number]? = _ := Runs.getElem?_set_of_getElem? going _
  obtain ⟨log, later⟩ := (runs.step going .lookUp).finish missed
  rw [Thread.finish_thread, (resolver.reads_load "api.toml").run, List.set_set] at later
  change Runs _ start log ⟨threads.set number (Resolver.settling "api.toml"
    ((resolver.load "api.toml").runIn (world name)).1), _⟩ at later
  rw [loads] at later
  exact ⟨log, pipeline, same, later⟩

end Race

/-- One of two calls loads a manifest, which then changes. The other one loads it as well, and
keeps the pipeline first; both answer this one. -/
theorem Resolver.agrees_race : ∃ log now pipeline,
    Runs (fun _ => True) Race.start log now ∧ pipeline.name = "two" ∧
      now.Ended 0 (.ok (some pipeline)) ∧ now.Ended 1 (.ok (some pipeline)) ∧
      Race.resolver.Agrees ["api.toml", "api.toml"] log now := by
  obtain ⟨log, one, -, first⟩ := Race.exists_keeping 0 .start rfl (by decide +kernel)
  have changed : Runs _ Race.start _ ⟨_, ⟨[], Race.world "two"⟩⟩ := first.outside trivial
  obtain ⟨log, two, named, second⟩ := Race.exists_keeping 1 changed rfl (by decide +kernel)
  have kept : Runs _ Race.start (log ++ [⟨some 1, _, _⟩]) _ := second.step rfl .keep
  have last : Runs _ Race.start (_ ++ [⟨some 0, _, _⟩]) _ := kept.step rfl .keep
  obtain ⟨-, agrees⟩ := Resolver.resolving_agrees Race.resolver _ _
  exact ⟨_, _, two, last, named, rfl, rfl, (agrees _ _ last).1⟩

end ClientGen
