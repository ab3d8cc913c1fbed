import ClientGen.Pipeline.Resolver
import ClientGen.Proofs.Interleaving

/-!
# A shared cache

Threads run side by side and share a cache of pipelines. Looking something up and keeping something
is one step each; between two steps of a thread the others go on, and the world may change from
outside. A cache only ever grows, so what a thread knows of it stays true: this is all that a thread
can rely on, and what is proved of a single thread here holds of it among any others.
-/

namespace ClientGen

/-! ## What a cache keeps -/

namespace Cache

/-- Everything that is kept in a cache is kept in another one. -/
def Within (cache later : Cache) : Prop :=
  ∀ identifier pipeline, cache.find? identifier = some pipeline →
    later.find? identifier = some pipeline

theorem Within.refl (cache : Cache) : cache.Within cache :=
  fun _ _ kept => kept

theorem Within.trans {first second third : Cache} (early : first.Within second)
    (late : second.Within third) : first.Within third :=
  fun identifier pipeline kept => late identifier pipeline (early identifier pipeline kept)

theorem find?_cons (cache : Cache) (identifier other : String) (pipeline : Pipeline) :
    find? ((identifier, pipeline) :: cache) other =
      if identifier = other then some pipeline else cache.find? other := by
  by_cases same : identifier = other
  · simp [find?, same]
  · have apart : (identifier == other) = false := beq_false_of_ne same
    simp [find?, apart, same]

/-- What is answered is what is kept from now on. -/
theorem find?_keep (cache : Cache) (identifier : String) (pipeline : Pipeline) :
    (cache.keep identifier pipeline).2.find? identifier =
      some (cache.keep identifier pipeline).1 := by
  unfold keep
  split
  · assumption
  · simp [find?_cons]

theorem within_keep (cache : Cache) (identifier : String) (pipeline : Pipeline) :
    cache.Within (cache.keep identifier pipeline).2 := by
  intro other found kept
  unfold keep
  split
  · exact kept
  · rename_i free
    rw [find?_cons, if_neg]
    · exact kept
    · rintro rfl
      rw [free] at kept
      cases kept

theorem forall_of_keep {cache : Cache} {identifier : String} {pipeline : Pipeline}
    {property : String → Pipeline → Prop}
    (all : ∀ other kept, cache.find? other = some kept → property other kept)
    (given : property identifier pipeline) :
    ∀ other kept, (cache.keep identifier pipeline).2.find? other = some kept →
      property other kept := by
  intro other kept found
  unfold keep at found
  split at found
  · exact all other kept found
  · rw [find?_cons] at found
    split at found
    · rename_i same
      subst same
      cases found
      exact given
    · exact all other kept found

end Cache

/-! ## Threads -/

/-- A program that shares a cache with others. -/
inductive Thread (α : Type) where
  | done (a : α)
  | call (command : Command) (next : command.Reply → Thread α)
  | lookUp (identifier : String) (next : Option Pipeline → Thread α)
  | keep (identifier : String) (pipeline : Pipeline) (next : Pipeline → Thread α)

/-- A script as a thread, which leaves the cache alone. -/
def Script.thread {α : Type} : Script α → Thread α
  | .done a => .done a
  | .call command next => .call command fun reply => (next reply).thread

namespace Thread

variable {α β : Type}

def bind : Thread α → (α → Thread β) → Thread β
  | .done a, f => f a
  | .call command next, f => .call command fun reply => (next reply).bind f
  | .lookUp identifier next, f => .lookUp identifier fun found => (next found).bind f
  | .keep identifier pipeline next, f =>
      .keep identifier pipeline fun kept => (next kept).bind f

theorem bind_done (thread : Thread α) : thread.bind .done = thread := by
  induction thread with
  | done a => rfl
  | call command next ih => simp only [bind, ih]
  | lookUp identifier next ih => simp only [bind, ih]
  | keep identifier pipeline next ih => simp only [bind, ih]

/-- A thread that has a cache to itself, as a script. -/
def alone : Thread α → Cache → Script (α × Cache)
  | .done a, cache => .done (a, cache)
  | .call command next, cache => .call command fun reply => (next reply).alone cache
  | .lookUp identifier next, cache => (next (cache.find? identifier)).alone cache
  | .keep identifier pipeline next, cache =>
      (next (cache.keep identifier pipeline).1).alone (cache.keep identifier pipeline).2

theorem alone_bind (thread : Thread α) (f : α → Thread β) (cache : Cache) :
    (thread.bind f).alone cache =
      (thread.alone cache).bind fun (a, cache) => (f a).alone cache := by
  induction thread generalizing cache with
  | done a => rfl
  | call command next ih => simp only [bind, alone, ih, Script.call_bind]
  | lookUp identifier next ih => simp only [bind, alone, ih]
  | keep identifier pipeline next ih => simp only [bind, alone, ih]

theorem alone_thread (script : Script α) (cache : Cache) :
    script.thread.alone cache = script.bind fun a => .done (a, cache) := by
  induction script with
  | done a => rfl
  | call command next ih => simp only [Script.thread, alone, ih, Script.call_bind]

end Thread

/-! ## Steps -/

structure Scene where
  cache : Cache
  world : World

/-- A thread goes one step further. -/
inductive Thread.Step {α : Type} : Thread α → Scene → Thread α → Scene → Prop where
  | call {command : Command} {next : command.Reply → Thread α} {reply : command.Reply}
      {scene : Scene} {world : World} (answers : scene.world.Answers command reply world) :
      Step (.call command next) scene (next reply) { scene with world := world }
  | lookUp {identifier : String} {next : Option Pipeline → Thread α} {scene : Scene} :
      Step (.lookUp identifier next) scene (next (scene.cache.find? identifier)) scene
  | keep {identifier : String} {pipeline : Pipeline} {next : Pipeline → Thread α} {scene : Scene} :
      Step (.keep identifier pipeline next) scene (next (scene.cache.keep identifier pipeline).1)
        { scene with cache := (scene.cache.keep identifier pipeline).2 }

theorem Thread.Step.within {α : Type} {thread next : Thread α} {scene later : Scene}
    (step : thread.Step scene next later) : scene.cache.Within later.cache := by
  cases step with
  | call answers => exact .refl _
  | lookUp => exact .refl _
  | keep => exact Cache.within_keep _ _ _

/-- The value of a thread that goes on from a scene by itself, and what it leaves. -/
def Thread.finish {α : Type} (thread : Thread α) (scene : Scene) : α × Scene :=
  let ((a, cache), world) := (thread.alone scene.cache).run scene.world
  (a, ⟨cache, world⟩)

theorem Thread.finish_thread {α : Type} (script : Script α) (scene : Scene) :
    script.thread.finish scene =
      ((script.run scene.world).1, { scene with world := (script.run scene.world).2 }) := by
  rw [finish, alone_thread, Script.run_bind]
  rfl

/-- The values of several threads that go on from a scene one after the other, and what they
leave. -/
def Thread.finishEach {α γ : Type} (thread : γ → Thread α) : List γ → Scene → List (γ × α) × Scene
  | [], scene => ([], scene)
  | given :: rest, scene =>
      let (a, scene) := (thread given).finish scene
      let (others, scene) := finishEach thread rest scene
      ((given, a) :: others, scene)

theorem Thread.finishEach_cons {α γ : Type} (thread : γ → Thread α) (first : γ) (rest : List γ)
    (scene : Scene) : finishEach thread (first :: rest) scene =
      ((first, ((thread first).finish scene).1) ::
          (finishEach thread rest ((thread first).finish scene).2).1,
        (finishEach thread rest ((thread first).finish scene).2).2) :=
  rfl

/-- Where all threads are, and what they share. -/
structure Moment (α : Type) where
  threads : List (Thread α)
  scene : Scene

def Moment.Ended {α : Type} (now : Moment α) (number : Nat) (a : α) : Prop :=
  now.threads[number]? = some (.done a)

/-- What one step found and left, and the number of the thread whose step it was; none if the world
changed from outside. -/
structure Change where
  thread : Option Nat
  before : Scene
  after : Scene

/-- From a moment on, threads go on side by side until another moment; the log lists every step.
From outside the world may change to any world that is allowed. -/
inductive Runs {α : Type} (outside : World → Prop) (start : Moment α) :
    List Change → Moment α → Prop where
  | start : Runs outside start [] start
  | step {log : List Change} {now : Moment α} {number : Nat} {thread next : Thread α}
      {scene : Scene} (earlier : Runs outside start log now)
      (going : now.threads[number]? = some thread) (step : thread.Step now.scene next scene) :
      Runs outside start (log ++ [⟨some number, now.scene, scene⟩])
        ⟨now.threads.set number next, scene⟩
  | outside {log : List Change} {now : Moment α} {world : World}
      (earlier : Runs outside start log now) (allowed : outside world) :
      Runs outside start (log ++ [⟨none, now.scene, { now.scene with world := world }⟩])
        { now with scene := { now.scene with world := world } }

namespace Runs

variable {α β : Type} {outside : World → Prop} {start now : Moment α} {log : List Change}

theorem within (runs : Runs outside start log now) :
    start.scene.cache.Within now.scene.cache := by
  induction runs with
  | start => exact .refl _
  | step earlier going step ih => exact ih.trans step.within
  | outside earlier allowed ih => exact ih

theorem length_threads (runs : Runs outside start log now) :
    now.threads.length = start.threads.length := by
  induction runs with
  | start => rfl
  | step earlier going step ih => rw [List.length_set, ih]
  | outside earlier allowed ih => exact ih

theorem getElem?_set_of_getElem? {threads : List (Thread α)} {number : Nat} {thread : Thread α}
    (going : threads[number]? = some thread) (next : Thread α) :
    (threads.set number next)[number]? = some next := by
  obtain ⟨inside, -⟩ := List.getElem?_eq_some_iff.mp going
  exact List.getElem?_set_self inside

/-- One of the threads may go on by itself until a part of it has ended. -/
theorem finish {thread : Thread β} {f : β → Thread α} {number : Nat}
    (runs : Runs outside start log now) (going : now.threads[number]? = some (thread.bind f)) :
    ∃ log, Runs outside start log
      ⟨now.threads.set number (f (thread.finish now.scene).1), (thread.finish now.scene).2⟩ := by
  induction thread generalizing now log with
  | done b =>
      obtain ⟨inside, same⟩ := List.getElem?_eq_some_iff.mp going
      change now.threads[number] = f b at same
      refine ⟨log, ?_⟩
      change Runs outside start log ⟨now.threads.set number (f b), now.scene⟩
      rw [← same, List.set_getElem_self]
      exact runs
  | call command next ih =>
      obtain ⟨log, later⟩ := ih _ (runs.step going (.call (.performed command)))
        (getElem?_set_of_getElem? going _)
      rw [List.set_set] at later
      exact ⟨log, later⟩
  | lookUp identifier next ih =>
      obtain ⟨log, later⟩ := ih _ (runs.step going .lookUp) (getElem?_set_of_getElem? going _)
      rw [List.set_set] at later
      exact ⟨log, later⟩
  | keep identifier pipeline next ih =>
      obtain ⟨log, later⟩ := ih _ (runs.step going .keep) (getElem?_set_of_getElem? going _)
      rw [List.set_set] at later
      exact ⟨log, later⟩

/-- All threads from some number on may go on one after the other. -/
theorem finishEach {γ : Type} {thread : γ → Thread β} {f : γ → β → Thread α} {given : List γ}
    {before : List (Thread α)} {scene : Scene}
    (runs : Runs outside start log
      ⟨before ++ given.map fun one => (thread one).bind (f one), scene⟩) :
    ∃ log, Runs outside start log
      ⟨before ++ (Thread.finishEach thread given scene).1.map fun (one, b) => f one b,
        (Thread.finishEach thread given scene).2⟩ := by
  induction given generalizing before scene log with
  | nil => exact ⟨log, runs⟩
  | cons first rest ih =>
      have going : (before ++ (first :: rest).map fun one => (thread one).bind (f one))[
          before.length]? = some ((thread first).bind (f first)) := by simp
      obtain ⟨log, later⟩ := runs.finish going
      have onward : Runs outside start log
          ⟨(before ++ [f first ((thread first).finish scene).1]) ++
            rest.map fun one => (thread one).bind (f one), ((thread first).finish scene).2⟩ := by
        simpa using later
      obtain ⟨log, ended⟩ := ih onward
      rw [List.append_assoc] at ended
      exact ⟨log, ended⟩

/-- Whatever happened so far, all threads can come to their ends. -/
theorem exists_ended (runs : Runs outside start log now) :
    ∃ (log : List Change) (outcomes : List α) (scene : Scene),
      Runs outside start log ⟨outcomes.map .done, scene⟩ := by
  have all : now = ⟨[] ++ now.threads.map fun thread => thread.bind .done, now.scene⟩ := by
    simp [Thread.bind_done]
  rw [all] at runs
  obtain ⟨log, ended⟩ := runs.finishEach
  refine ⟨log, (Thread.finishEach (fun thread => thread) now.threads now.scene).1.map Prod.snd,
    (Thread.finishEach (fun thread => thread) now.threads now.scene).2, ?_⟩
  rw [List.map_map]
  exact ended

end Runs

/-! ## What a script does in calm worlds -/

namespace Script

variable {α β : Type} {calm : World → Prop}

/-- In worlds of some kind, which may change between its commands, a script keeps the world of that
kind and ends with a value for which a property holds. -/
def Yields (calm : World → Prop) (post : α → Prop) : Script α → Prop
  | .done a => post a
  | .call command next => ∀ world reply after, calm world → world.Answers command reply after →
      calm after ∧ Yields calm post (next reply)

/-- In worlds of some kind, a script ends with the same value whenever it runs. -/
def Settled (calm : World → Prop) (script : Script α) : Prop :=
  ∃ a, script.Yields calm (· = a)

theorem Yields.imp {post other : α → Prop} {script : Script α} (yields : script.Yields calm post)
    (weaker : ∀ a, post a → other a) : script.Yields calm other := by
  induction script with
  | done a => exact weaker a yields
  | call command next ih =>
      intro world reply after quiet answers
      obtain ⟨still, rest⟩ := yields world reply after quiet answers
      exact ⟨still, ih reply rest⟩

theorem Yields.bind {mid : α → Prop} {post : β → Prop} {script : Script α} {f : α → Script β}
    (first : script.Yields calm mid) (second : ∀ a, mid a → (f a).Yields calm post) :
    (script.bind f).Yields calm post := by
  induction script with
  | done a => exact second a first
  | call command next ih =>
      intro world reply after quiet answers
      obtain ⟨still, rest⟩ := first world reply after quiet answers
      exact ⟨still, ih reply rest⟩

theorem Yields.run {post : α → Prop} {script : Script α} (yields : script.Yields calm post)
    {world : World} (quiet : calm world) :
    post (script.run world).1 ∧ calm (script.run world).2 := by
  induction script generalizing world with
  | done a => exact ⟨yields, quiet⟩
  | call command next ih =>
      obtain ⟨still, rest⟩ := yields world _ _ quiet (.performed command)
      exact ih _ rest still

/-- Nothing is claimed of worlds without a rule. -/
theorem yields_trivial (script : Script α) : script.Yields (fun _ => True) fun _ => True := by
  induction script with
  | done a => trivial
  | call command next ih => exact fun _ reply _ _ _ => ⟨trivial, ih reply⟩

end Script

/-! ## What a thread does among others -/

namespace Thread

variable {α β : Type} {calm : World → Prop} {sound : Cache → Prop}

/-- While the others only add to the cache, keep it sound and the world calm, so does a thread; and
it ends with a value and a cache for which a property holds. -/
def Ensures (calm : World → Prop) (sound : Cache → Prop) (post : Cache → α → Prop) :
    Cache → Thread α → Prop
  | cache, .done a => post cache a
  | cache, .call command next => ∀ world reply after, calm world →
      world.Answers command reply after → calm after ∧ Ensures calm sound post cache (next reply)
  | cache, .lookUp identifier next => ∀ later, cache.Within later → sound later →
      Ensures calm sound post later (next (later.find? identifier))
  | cache, .keep identifier pipeline next => ∀ later, cache.Within later → sound later →
      sound (later.keep identifier pipeline).2 ∧
        Ensures calm sound post (later.keep identifier pipeline).2
          (next (later.keep identifier pipeline).1)

/-- A property that is not lost when the cache grows. -/
def Stable (post : Cache → α → Prop) : Prop :=
  ∀ cache later a, cache.Within later → post cache a → post later a

namespace Ensures

variable {post : Cache → α → Prop} {cache later : Cache} {thread : Thread α}

theorem mono (ensures : thread.Ensures calm sound post cache) (stable : Stable post)
    (within : cache.Within later) : thread.Ensures calm sound post later := by
  induction thread generalizing cache later with
  | done a => exact stable cache later a within ensures
  | call command next ih =>
      intro world reply after quiet answers
      obtain ⟨still, rest⟩ := ensures world reply after quiet answers
      exact ⟨still, ih reply rest within⟩
  | lookUp identifier next ih =>
      exact fun last more kept => ensures last (within.trans more) kept
  | keep identifier pipeline next ih =>
      exact fun last more kept => ensures last (within.trans more) kept

theorem bind {post : Cache → β → Prop} {mid : Cache → α → Prop} {f : α → Thread β}
    (first : thread.Ensures calm sound mid cache)
    (second : ∀ later a, mid later a → (f a).Ensures calm sound post later) :
    (thread.bind f).Ensures calm sound post cache := by
  induction thread generalizing cache with
  | done a => exact second cache a first
  | call command next ih =>
      intro world reply after quiet answers
      obtain ⟨still, rest⟩ := first world reply after quiet answers
      exact ⟨still, ih reply rest⟩
  | lookUp identifier next ih =>
      exact fun later within kept => ih _ (first later within kept)
  | keep identifier pipeline next ih =>
      intro later within kept
      obtain ⟨still, rest⟩ := first later within kept
      exact ⟨still, ih _ rest⟩

theorem imp {post other : Cache → α → Prop} (ensures : thread.Ensures calm sound post cache)
    (weaker : ∀ later a, post later a → other later a) :
    thread.Ensures calm sound other cache := by
  rw [← thread.bind_done]
  exact ensures.bind weaker

/-- A script among threads does what it does in calm worlds. -/
theorem of_yields {script : Script α} {post : α → Prop} (yields : script.Yields calm post) :
    script.thread.Ensures calm sound (fun _ a => post a) cache := by
  induction script with
  | done a => exact yields
  | call command next ih =>
      intro world reply after quiet answers
      obtain ⟨still, rest⟩ := yields world reply after quiet answers
      exact ⟨still, ih reply rest⟩

theorem step {next : Thread α} {scene after : Scene}
    (ensures : thread.Ensures calm sound post scene.cache) (quiet : calm scene.world)
    (kept : sound scene.cache) (step : thread.Step scene next after) :
    next.Ensures calm sound post after.cache ∧ calm after.world ∧ sound after.cache := by
  cases step with
  | call answers =>
      obtain ⟨still, rest⟩ := ensures _ _ _ quiet answers
      exact ⟨rest, still, kept⟩
  | lookUp => exact ⟨ensures _ (.refl _) kept, quiet, kept⟩
  | keep =>
      obtain ⟨still, rest⟩ := ensures _ (.refl _) kept
      exact ⟨rest, quiet, still⟩

end Ensures

end Thread

namespace Runs

variable {α : Type} {calm : World → Prop} {sound : Cache → Prop} {start now : Moment α}
  {log : List Change}

/-- What each thread ensures by itself holds among all of them, as long as the world is calm. -/
theorem ensures {post : Nat → Cache → α → Prop} (stable : ∀ number, Thread.Stable (post number))
    (runs : Runs calm start log now) (quiet : calm start.scene.world)
    (kept : sound start.scene.cache)
    (each : ∀ number (thread : Thread α), start.threads[number]? = some thread →
      thread.Ensures calm sound (post number) start.scene.cache) :
    (∀ number (thread : Thread α), now.threads[number]? = some thread →
      thread.Ensures calm sound (post number) now.scene.cache) ∧
    calm now.scene.world ∧ sound now.scene.cache := by
  induction runs with
  | start => exact ⟨each, quiet, kept⟩
  | @step log now own thread next scene earlier going step ih =>
      obtain ⟨others, still, intact⟩ := ih
      obtain ⟨onward, quietAfter, soundAfter⟩ := (others own thread going).step still intact step
      refine ⟨?_, quietAfter, soundAfter⟩
      intro number other listed
      rw [List.getElem?_set] at listed
      split at listed
      · rename_i same
        subst same
        split at listed
        · cases listed
          exact onward
        · cases listed
      · exact (others number other listed).mono (stable number) step.within
  | outside earlier allowed ih =>
      obtain ⟨others, -, intact⟩ := ih
      exact ⟨others, allowed, intact⟩

/-- What threads with something given ensure holds of those that have ended. -/
theorem ensures_ended {γ : Type} {thread : γ → Thread α} {given : List γ} {scene : Scene}
    {post : γ → Cache → α → Prop} (stable : ∀ one, Thread.Stable (post one))
    (runs : Runs calm ⟨given.map thread, scene⟩ log now) (quiet : calm scene.world)
    (kept : sound scene.cache)
    (each : ∀ one ∈ given, (thread one).Ensures calm sound (post one) scene.cache) :
    (∀ number one a, given[number]? = some one → now.Ended number a →
      post one now.scene.cache a) ∧
    calm now.scene.world ∧ sound now.scene.cache := by
  have numbered : ∀ number : Nat, Thread.Stable fun cache a =>
      ∀ one, given[number]? = some one → post one cache a :=
    fun number cache later a within holds one listed =>
      stable one cache later a within (holds one listed)
  have ensured := runs.ensures numbered quiet kept (by
    intro number own listed
    rw [List.getElem?_map, Option.map_eq_some_iff] at listed
    obtain ⟨one, member, rfl⟩ := listed
    refine (each one (List.mem_of_getElem? member)).imp fun later a holds other same => ?_
    rw [member] at same
    cases same
    exact holds)
  exact ⟨fun number one a listed ended => ensured.1 number _ ended one listed, ensured.2⟩

end Runs

end ClientGen
