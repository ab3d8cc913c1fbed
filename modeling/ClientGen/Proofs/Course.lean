import ClientGen.Pipeline.Assembly
import ClientGen.Proofs.Conversation
import Mathlib.Data.List.Chain

/-!
# The course of a run

A run visits stages: each is started with something it is given, has a conversation of its own, and
ends with a record or a failure. The main statement says which visits make up the conversation and
the outcome of a run, for every pipeline and however its stages behave.
-/

namespace ClientGen

/-! ## Starts -/

def Stage.position (stage : Stage) : Nat :=
  Stage.all.idxOf stage

namespace Stage

theorem mem_all (stage : Stage) : stage ∈ all := by
  cases stage <;> decide

theorem position_injective {stage other : Stage} (same : stage.position = other.position) :
    stage = other :=
  (List.idxOf_inj stage.mem_all).mp same

theorem position_le_dest (stage : Stage) : stage.position ≤ Stage.dest.position := by
  cases stage <;> decide

theorem drop_position (stage : Stage) :
    all.drop stage.position = stage :: all.drop (stage.position + 1) := by
  cases stage <;> rfl

end Stage

namespace Pipeline

/-- A stage that is started, with what it is given. -/
inductive Start where
  | readConfig (config : Config)
  | source (record : Record)
  | parser (record : Record)
  | compiler (record : Record)
  | generate (record : Record)
  | dest (record : Record)

namespace Start

def stage : Start → Stage
  | .readConfig _ => .readConfig
  | .source _ => .source
  | .parser _ => .parser
  | .compiler _ => .compiler
  | .generate _ => .generate
  | .dest _ => .dest

/-- What is started next, given the record that a stage has returned. Nothing comes after the last
stage. -/
def next? : Start → Record → Option Start
  | .readConfig _, record => some (.source record)
  | .source _, record => some (.parser record)
  | .parser _, record => some (.compiler record)
  | .compiler _, record => some (.generate record)
  | .generate _, record => some (.dest record)
  | .dest _, _ => none

theorem position_next {start next : Start} {record : Record}
    (follows : start.next? record = some next) :
    next.stage.position = start.stage.position + 1 := by
  cases start <;> cases follows <;> rfl

theorem position_lt (start : Start) : start.stage.position < 6 :=
  Nat.lt_succ_of_le start.stage.position_le_dest

/-- What is put away is what was printed. -/
theorem generate_of_next {start next : Start} {record : Record}
    (follows : start.next? record = some next) (last : next.stage = .dest) :
    (∃ given, start = .generate given) ∧ next = .dest record := by
  cases start <;> cases follows
  case generate given => exact ⟨⟨given, rfl⟩, rfl⟩
  all_goals cases last

theorem next?_eq_none_iff (start : Start) (record : Record) :
    start.next? record = none ↔ start.stage = .dest := by
  cases start <;> simp [next?, stage]

end Start

/-- What a pipeline does when a stage is started. The record that is put away is handed on as it
is. -/
def serve (pipeline : Pipeline) : Start → Task Record
  | .readConfig config => pipeline.readConfig config
  | .source record => pipeline.source record
  | .parser record => pipeline.parser record
  | .compiler record => pipeline.compiler record
  | .generate record => pipeline.generate record
  | .dest record => do
      pipeline.dest record
      return record

def runFrom (pipeline : Pipeline) (start : Start) : Task Record := do
  let record ← Task.within start.stage (pipeline.serve start)
  match _follows : start.next? record with
  | none => return record
  | some next => pipeline.runFrom next
termination_by 6 - start.stage.position
decreasing_by
  have := Start.position_next _follows
  have := start.position_lt
  omega

/-- A stage that was started: what it was given, what it asked, and what came of it. -/
structure Visit where
  start : Start
  talk : Conversation
  outcome : Except Failure Record

/-- The visits that a pipeline makes from a start on, and the outcome of the whole. A stage that
succeeds hands its record on to the next one; one that fails is the last. -/
inductive Course (pipeline : Pipeline) : Start → List Visit → Except Failure Record → Prop where
  | failed {start : Start} {talk : Conversation} {cause : Failure}
      (served : (pipeline.serve start).run.Ends talk (.error cause)) :
      Course pipeline start [⟨start, talk, .error cause⟩] (.error (cause.within start.stage))
  | finished {start : Start} {talk : Conversation} {record : Record}
      (served : (pipeline.serve start).run.Ends talk (.ok record))
      (last : start.next? record = none) :
      Course pipeline start [⟨start, talk, .ok record⟩] (.ok record)
  | onward {start next : Start} {talk : Conversation} {record : Record} {visits : List Visit}
      {outcome : Except Failure Record}
      (served : (pipeline.serve start).run.Ends talk (.ok record))
      (follows : start.next? record = some next) (rest : Course pipeline next visits outcome) :
      Course pipeline start (⟨start, talk, .ok record⟩ :: visits) outcome

theorem ends_serve_dest {pipeline : Pipeline} {record returned : Record} {talk : Conversation}
    (served : (pipeline.serve (.dest record)).run.Ends talk (.ok returned)) :
    returned = record := by
  rcases (Task.ends_bind_iff _ _ _ _).mp served with ⟨_, -, ⟨⟩⟩ | ⟨_, _, _, -, -, returns⟩
  obtain ⟨-, ⟨⟩⟩ := (Task.ends_pure_iff _ _ _).mp returns
  rfl

theorem runFrom_eq (pipeline : Pipeline) (start : Start) :
    pipeline.runFrom start = Task.within start.stage (pipeline.serve start) >>= fun record =>
      match start.next? record with
      | none => pure record
      | some next => pipeline.runFrom next := by
  rw [runFrom]
  congr 1
  funext record
  split <;> rename_i follows <;> rw [follows]

/-- The rest of a run is a course of visits. The induction is on the stages that are left. -/
theorem ends_runFrom_iff (pipeline : Pipeline) (start : Start) (talk : Conversation)
    (outcome : Except Failure Record) :
    (pipeline.runFrom start).run.Ends talk outcome ↔
      ∃ visits, pipeline.Course start visits outcome ∧ talk = visits.flatMap Visit.talk := by
  induction left : 6 - start.stage.position generalizing start talk with
  | zero =>
      have := start.position_lt
      omega
  | succ count ih =>
      have others {next : Start} {record : Record} (follows : start.next? record = some next)
          (rest : Conversation) : (pipeline.runFrom next).run.Ends rest outcome ↔
            ∃ visits, pipeline.Course next visits outcome ∧ rest = visits.flatMap Visit.talk := by
        apply ih
        rw [Start.position_next follows]
        omega
      rw [runFrom_eq, Task.ends_bind_iff]
      constructor
      · rintro (⟨failure, early, rfl⟩ | ⟨first, record, rest, rfl, early, late⟩)
        · obtain ⟨own, served, same⟩ := (Task.ends_within_iff _ _ _ _).mp early
          cases own with
          | ok record => cases same
          | error cause =>
              cases same
              exact ⟨_, .failed served, (List.append_nil talk).symm⟩
        · obtain ⟨own, served, same⟩ := (Task.ends_within_iff _ _ _ _).mp early
          cases own with
          | error cause => cases same
          | ok returned =>
              cases same
              cases follows : start.next? record with
              | none =>
                  rw [follows] at late
                  obtain ⟨rfl, rfl⟩ := (Task.ends_pure_iff _ _ _).mp late
                  exact ⟨_, .finished served follows, rfl⟩
              | some next =>
                  rw [follows] at late
                  obtain ⟨visits, course, rfl⟩ := (others follows rest).mp late
                  exact ⟨_, .onward served follows course, rfl⟩
      · rintro ⟨visits, course, rfl⟩
        cases course with
        | failed served =>
            rw [List.flatMap_singleton]
            exact .inl ⟨_, (Task.ends_within_iff _ _ _ _).mpr ⟨_, served, rfl⟩, rfl⟩
        | @finished _ talk record served last =>
            refine .inr ⟨talk, record, [], rfl,
              (Task.ends_within_iff _ _ _ _).mpr ⟨_, served, rfl⟩, ?_⟩
            rw [last]
            exact (Task.ends_pure_iff _ _ _).mpr ⟨rfl, rfl⟩
        | @onward _ next talk record visits _ served follows rest =>
            refine .inr ⟨talk, record, visits.flatMap Visit.talk, rfl,
              (Task.ends_within_iff _ _ _ _).mpr ⟨_, served, rfl⟩, ?_⟩
            rw [follows]
            exact (others follows _).mpr ⟨visits, rest, rfl⟩

theorem run_eq_runFrom (pipeline : Pipeline) (config : Config) :
    pipeline.run config = pipeline.runFrom (.readConfig config) := by
  rw [runFrom_eq]
  refine bind_congr fun read => ?_
  change _ = pipeline.runFrom (.source read)
  rw [runFrom_eq]
  refine bind_congr fun loaded => ?_
  change _ = pipeline.runFrom (.parser loaded)
  rw [runFrom_eq]
  refine bind_congr fun parsed => ?_
  change _ = pipeline.runFrom (.compiler parsed)
  rw [runFrom_eq]
  refine bind_congr fun compiled => ?_
  change _ = pipeline.runFrom (.generate compiled)
  rw [runFrom_eq]
  refine bind_congr fun printed => ?_
  change _ = pipeline.runFrom (.dest printed)
  rw [runFrom_eq]
  change _ = Task.within .dest (pipeline.dest printed >>= fun _ => pure printed) >>= pure
  rw [bind_pure, Task.within_bind_pure]

end Pipeline

/-! ## What holds of every course -/

theorem Failure.within_eq (failure : Failure) (stage : Stage) :
    failure.within stage = if failure.stage?.isSome then failure else .inStage stage failure := by
  cases failure <;> rfl

/-- Saying further stages changes nothing. -/
theorem Failure.foldl_within (failure : Failure) (stage : Stage) (more : List Stage) :
    more.foldl (fun said next => said.within next) (failure.within stage) =
      failure.within stage := by
  induction more with
  | nil => rfl
  | cons next rest ih => rw [List.foldl_cons, Failure.within_within, ih]

namespace Pipeline

namespace Course

variable {pipeline : Pipeline} {start : Start} {visits : List Visit}
  {outcome : Except Failure Record}

theorem exists_eq_cons (course : pipeline.Course start visits outcome) :
    ∃ visit rest, visits = visit :: rest ∧ visit.start = start := by
  cases course with
  | failed served => exact ⟨_, _, rfl, rfl⟩
  | finished served last => exact ⟨_, _, rfl, rfl⟩
  | onward served follows rest => exact ⟨_, _, rfl, rfl⟩

theorem served (course : pipeline.Course start visits outcome) :
    ∀ visit ∈ visits, (pipeline.serve visit.start).run.Ends visit.talk visit.outcome := by
  induction course with
  | failed served =>
      intro visit listed
      obtain rfl := List.mem_singleton.mp listed
      exact served
  | finished served last =>
      intro visit listed
      obtain rfl := List.mem_singleton.mp listed
      exact served
  | onward served follows rest ih =>
      intro visit listed
      rcases List.mem_cons.mp listed with rfl | later
      · exact served
      · exact ih visit later

theorem handedOn (course : pipeline.Course start visits outcome) :
    visits.IsChain fun earlier later => ∃ record,
      earlier.outcome = .ok record ∧ earlier.start.next? record = some later.start := by
  induction course with
  | failed served => exact .singleton _
  | finished served last => exact .singleton _
  | @onward start next talk record visits outcome served follows rest ih =>
      obtain ⟨visit, others, rfl, rfl⟩ := rest.exists_eq_cons
      exact .cons_cons ⟨record, rfl, follows⟩ ih

theorem stages_prefix (course : pipeline.Course start visits outcome) :
    visits.map (·.start.stage) <+: Stage.all.drop start.stage.position := by
  induction course with
  | failed served =>
      rw [Stage.drop_position]
      exact List.prefix_append _ _
  | finished served last =>
      rw [Stage.drop_position]
      exact List.prefix_append _ _
  | onward served follows rest ih =>
      rw [Start.position_next follows] at ih
      rw [Stage.drop_position]
      exact (List.prefix_cons_inj _).mpr ih

/-- A run succeeds exactly if it starts every stage and all of them succeed. -/
theorem succeeds_iff (course : pipeline.Course start visits outcome) :
    (∃ record, outcome = .ok record) ↔
      visits.map (·.start.stage) = Stage.all.drop start.stage.position ∧
        ∀ visit ∈ visits, ∃ record, visit.outcome = .ok record := by
  induction course with
  | failed served => simp
  | @finished start talk record served last =>
      have final := (start.next?_eq_none_iff record).mp last
      simp [final]
      rfl
  | @onward start next talk record visits outcome served follows rest ih =>
      rw [ih, Start.position_next follows, Stage.drop_position start.stage]
      simp

/-- A run that succeeds returns the record that was printed and put away. -/
theorem returned {record : Record} (course : pipeline.Course start visits (.ok record))
    (early : start.stage ≠ .dest) :
    ∃ before given talk last, visits =
      before ++ [⟨.generate given, talk, .ok record⟩, ⟨.dest record, last, .ok record⟩] := by
  generalize same : Except.ok record = outcome at course
  induction course with
  | failed served => cases same
  | finished served last => exact absurd ((Start.next?_eq_none_iff _ _).mp last) early
  | @onward start next talk handed visits outcome served follows rest ih =>
      by_cases final : next.stage = .dest
      · obtain ⟨⟨given, rfl⟩, rfl⟩ := Start.generate_of_next follows final
        subst same
        cases rest with
        | @finished _ last _ put done =>
            obtain rfl := ends_serve_dest put
            exact ⟨[], given, talk, last, rfl⟩
        | onward served more rest => cases more
      · obtain ⟨before, given, printing, last, rfl⟩ := ih final same
        exact ⟨_ :: before, given, printing, last, rfl⟩

/-- A run that fails ends with the one stage that fails. -/
theorem failing {failure : Failure} (course : pipeline.Course start visits (.error failure)) :
    ∃ before last cause, visits = before ++ [last] ∧ last.outcome = .error cause ∧
      (∀ visit ∈ before, ∃ record, visit.outcome = .ok record) ∧
      failure = cause.within last.start.stage := by
  generalize same : Except.error failure = outcome at course
  induction course with
  | failed served =>
      cases same
      exact ⟨[], _, _, rfl, rfl, by simp, rfl⟩
  | finished served last => cases same
  | @onward start next talk record visits outcome served follows rest ih =>
      obtain ⟨before, last, cause, rfl, failed, succeeded, whole⟩ := ih same
      refine ⟨_ :: before, last, cause, rfl, failed, ?_, whole⟩
      intro visit listed
      rcases List.mem_cons.mp listed with rfl | later
      · exact ⟨record, rfl⟩
      · exact succeeded visit later

end Course

/-- What holds of the visits of a run and of its outcome: the order of the stages and what they are
given, when the run succeeds and with which record, and how it fails. -/
structure InOrder (pipeline : Pipeline) (config : Config) (visits : List Visit)
    (outcome : Except Failure Record) : Prop where
  stages : visits.map (·.start.stage) <+: Stage.all
  first : visits.head?.map Visit.start = some (.readConfig config)
  handedOn : visits.IsChain fun earlier later => ∃ record,
    earlier.outcome = .ok record ∧ earlier.start.next? record = some later.start
  served : ∀ visit ∈ visits, (pipeline.serve visit.start).run.Ends visit.talk visit.outcome
  succeeds_iff : (∃ record, outcome = .ok record) ↔
    visits.map (·.start.stage) = Stage.all ∧
      ∀ visit ∈ visits, ∃ record, visit.outcome = .ok record
  returned : ∀ record, outcome = .ok record → ∃ before given talk last, visits =
    before ++ [⟨.generate given, talk, .ok record⟩, ⟨.dest record, last, .ok record⟩]
  failing : ∀ failure, outcome = .error failure →
    ∃ before last cause, visits = before ++ [last] ∧ last.outcome = .error cause ∧
      (∀ visit ∈ before, ∃ record, visit.outcome = .ok record) ∧
      failure = if cause.stage?.isSome then cause else .inStage last.start.stage cause

theorem Course.inOrder {pipeline : Pipeline} {config : Config} {visits : List Visit}
    {outcome : Except Failure Record}
    (course : pipeline.Course (.readConfig config) visits outcome) :
    pipeline.InOrder config visits outcome where
  stages := course.stages_prefix
  first := by
    obtain ⟨visit, rest, rfl, start⟩ := course.exists_eq_cons
    rw [← start]
    rfl
  handedOn := course.handedOn
  served := course.served
  succeeds_iff := course.succeeds_iff
  returned := by
    rintro record rfl
    exact course.returned nofun
  failing := by
    rintro failure rfl
    obtain ⟨before, last, cause, split, failed, succeeded, whole⟩ := course.failing
    exact ⟨before, last, cause, split, failed, succeeded,
      whole.trans (cause.within_eq last.start.stage)⟩

/-! ## Announcements -/

def announcement (note : String) : Conversation :=
  [⟨.note note, ()⟩]

/-- The pipeline that leaves a note whenever one of its stages is started. -/
def announcing (pipeline : Pipeline) (note : Start → String) : Pipeline where
  name := pipeline.name
  readConfig config := do
    Task.ask (.note (note (.readConfig config)))
    pipeline.readConfig config
  source record := do
    Task.ask (.note (note (.source record)))
    pipeline.source record
  parser record := do
    Task.ask (.note (note (.parser record)))
    pipeline.parser record
  compiler record := do
    Task.ask (.note (note (.compiler record)))
    pipeline.compiler record
  generate record := do
    Task.ask (.note (note (.generate record)))
    pipeline.generate record
  dest record := do
    Task.ask (.note (note (.dest record)))
    pipeline.dest record

def Visit.announced (note : Start → String) (visit : Visit) : Visit :=
  { visit with talk := announcement (note visit.start) ++ visit.talk }

variable {pipeline : Pipeline} {note : Start → String}

theorem serve_announcing (start : Start) :
    (pipeline.announcing note).serve start =
      Task.ask (.note (note start)) >>= fun _ => pipeline.serve start := by
  cases start with
  | dest record => exact bind_assoc _ _ _
  | _ => rfl

theorem ends_serve_announcing_iff (start : Start) (talk : Conversation)
    (outcome : Except Failure Record) :
    ((pipeline.announcing note).serve start).run.Ends talk outcome ↔
      ∃ own, (pipeline.serve start).run.Ends own outcome ∧
        talk = announcement (note start) ++ own := by
  rw [serve_announcing, Task.ends_bind_iff]
  constructor
  · rintro (⟨failure, asked, -⟩ | ⟨first, _, rest, rfl, asked, served⟩)
    · obtain ⟨reply, -, ⟨⟩⟩ := (Task.ends_ask_iff _ _ _).mp asked
    · obtain ⟨reply, rfl, -⟩ := (Task.ends_ask_iff _ _ _).mp asked
      exact ⟨rest, served, rfl⟩
  · rintro ⟨own, served, rfl⟩
    exact .inr ⟨_, (), own, rfl, (Task.ends_ask_iff _ _ _).mpr ⟨(), rfl, rfl⟩, served⟩

/-- Leaving notes changes neither which stages are started nor what comes of them. -/
theorem course_announcing_iff (start : Start) (visits : List Visit)
    (outcome : Except Failure Record) :
    (pipeline.announcing note).Course start visits outcome ↔
      ∃ own, pipeline.Course start own outcome ∧ visits = own.map (Visit.announced note) := by
  constructor
  · intro course
    induction course with
    | failed served =>
        obtain ⟨own, answered, rfl⟩ := (ends_serve_announcing_iff _ _ _).mp served
        exact ⟨_, .failed answered, rfl⟩
    | finished served last =>
        obtain ⟨own, answered, rfl⟩ := (ends_serve_announcing_iff _ _ _).mp served
        exact ⟨_, .finished answered last, rfl⟩
    | onward served follows rest ih =>
        obtain ⟨own, answered, rfl⟩ := (ends_serve_announcing_iff _ _ _).mp served
        obtain ⟨visits, course, rfl⟩ := ih
        exact ⟨_, .onward answered follows course, rfl⟩
  · rintro ⟨own, course, rfl⟩
    induction course with
    | failed served => exact .failed ((ends_serve_announcing_iff _ _ _).mpr ⟨_, served, rfl⟩)
    | finished served last =>
        exact .finished ((ends_serve_announcing_iff _ _ _).mpr ⟨_, served, rfl⟩) last
    | onward served follows rest ih =>
        exact .onward ((ends_serve_announcing_iff _ _ _).mpr ⟨_, served, rfl⟩) follows ih

end Pipeline

/-! ## Stages without a handler -/

/-- The stages that may be left out. -/
def Stage.IsOptional (stage : Stage) : Prop :=
  stage = .source ∨ stage = .dest

namespace Assembly

open Pipeline (Start Visit Course)

variable {assembly : Assembly} {visits : List Visit} {outcome : Except Failure Record}

/-- A stage that has to be there fails where it is missing. -/
theorem serve_required {start : Start} (missing : assembly.provides start.stage = false)
    (required : ¬ start.stage.IsOptional) :
    assembly.pipeline.serve start = Task.fail (.stageMissing assembly.name start.stage) := by
  cases start with
  | source record => exact absurd (.inl rfl) required
  | dest record => exact absurd (.inr rfl) required
  | _ =>
      have absent := Option.not_isSome_iff_eq_none.mp (ne_true_of_eq_false missing)
      simp only [pipeline, Pipeline.serve, absent]
      rfl

/-- A stage that may be missing hands on what it is given. -/
theorem serve_optional {start : Start} (missing : assembly.provides start.stage = false)
    (optional : start.stage.IsOptional) :
    ∃ record, (start = .source record ∨ start = .dest record) ∧
      assembly.pipeline.serve start = pure record := by
  cases start with
  | source record =>
      have absent := Option.not_isSome_iff_eq_none.mp (ne_true_of_eq_false missing)
      refine ⟨record, .inl rfl, ?_⟩
      simp only [pipeline, Pipeline.serve, absent]
      rfl
  | dest record =>
      have absent := Option.not_isSome_iff_eq_none.mp (ne_true_of_eq_false missing)
      refine ⟨record, .inr rfl, ?_⟩
      simp only [pipeline, Pipeline.serve, absent]
      rfl
  | _ => rcases optional with ⟨⟨⟩⟩ | ⟨⟨⟩⟩

theorem position_lt_of_served {start : Start} {stage : Stage} {talk : Conversation}
    {record : Record} (served : (assembly.pipeline.serve start).run.Ends talk (.ok record))
    (missing : assembly.provides stage = false) (required : ¬ stage.IsOptional)
    (ahead : start.stage.position ≤ stage.position) :
    start.stage.position < stage.position := by
  apply Nat.lt_of_le_of_ne ahead
  intro same
  obtain rfl := Stage.position_injective same
  rw [serve_required missing required] at served
  obtain ⟨-, ⟨⟩⟩ := (Task.ends_fail_iff _ _ _).mp served

/-- A missing stage that has to be there ends a run whose earlier stages succeed. -/
theorem outcome_of_required {start : Start} {stage : Stage}
    (course : assembly.pipeline.Course start visits outcome)
    (missing : assembly.provides stage = false) (required : ¬ stage.IsOptional)
    (ahead : start.stage.position ≤ stage.position)
    (earlier : ∀ visit ∈ visits, visit.start.stage.position < stage.position →
      ∃ record, visit.outcome = .ok record) :
    outcome = .error (.stageMissing assembly.name stage) := by
  induction course with
  | @failed start talk cause served =>
      rcases Nat.lt_or_eq_of_le ahead with before | here
      · obtain ⟨record, ⟨⟩⟩ := earlier _ List.mem_cons_self before
      · obtain rfl := Stage.position_injective here
        rw [serve_required missing required] at served
        obtain ⟨-, ⟨⟩⟩ := (Task.ends_fail_iff _ _ _).mp served
        rfl
  | @finished start talk record served last =>
      have before := position_lt_of_served served missing required ahead
      rw [(start.next?_eq_none_iff record).mp last] at before
      exact absurd before (Nat.not_lt.mpr stage.position_le_dest)
  | onward served follows rest ih =>
      have before := position_lt_of_served served missing required ahead
      apply ih
      · rw [Start.position_next follows]
        exact before
      · exact fun visit listed => earlier visit (List.mem_cons_of_mem _ listed)

/-- A missing stage that need not be there succeeds wherever it is started. -/
theorem visit_of_optional {start : Start} {stage : Stage}
    (course : assembly.pipeline.Course start visits outcome)
    (missing : assembly.provides stage = false) (optional : stage.IsOptional)
    {visit : Visit} (listed : visit ∈ visits) (here : visit.start.stage = stage) :
    ∃ record, (visit.start = .source record ∨ visit.start = .dest record) ∧
      visit.talk = [] ∧ visit.outcome = .ok record := by
  subst here
  obtain ⟨record, given, handed⟩ := serve_optional missing optional
  have served := course.served visit listed
  rw [handed] at served
  obtain ⟨silent, same⟩ := (Task.ends_pure_iff _ _ _).mp served
  exact ⟨record, given, silent, same⟩

end Assembly

namespace Pipeline

/-- For every pipeline and configuration, the conversation and the outcome of a run are those of
visits to the stages in order; if every stage leaves a note when it is started, the notes are those
of the same visits. A pipeline that was put together fails at a missing stage, unless the stage may
be left out. A failure that says where it happened says so ever after. -/
theorem ends_run_iff (pipeline : Pipeline) (config : Config) :
    (∀ talk outcome, (pipeline.run config).run.Ends talk outcome ↔
      ∃ visits, pipeline.Course (.readConfig config) visits outcome ∧
        talk = visits.flatMap Visit.talk) ∧
    (∀ (note : Start → String) talk outcome,
      ((pipeline.announcing note).run config).run.Ends talk outcome ↔
        ∃ visits, pipeline.Course (.readConfig config) visits outcome ∧
          talk = visits.flatMap fun visit => announcement (note visit.start) ++ visit.talk) ∧
    (∀ visits outcome, pipeline.Course (.readConfig config) visits outcome →
      pipeline.InOrder config visits outcome) ∧
    (∀ world, ∃ talk, (pipeline.run config).run.Ends talk ((pipeline.run config).runIn world).1) ∧
    (∀ (assembly : Assembly) visits outcome,
      assembly.pipeline.Course (.readConfig config) visits outcome →
      ∀ stage, assembly.provides stage = false →
        (stage.IsOptional → ∀ visit ∈ visits, visit.start.stage = stage →
          ∃ record, (visit.start = .source record ∨ visit.start = .dest record) ∧
            visit.talk = [] ∧ visit.outcome = .ok record) ∧
        (¬ stage.IsOptional →
          (∀ visit ∈ visits, visit.start.stage.position < stage.position →
            ∃ record, visit.outcome = .ok record) →
          outcome = .error (.stageMissing assembly.name stage))) ∧
    ∀ (failure : Failure) (stage : Stage) (more : List Stage),
      more.foldl (fun said next => said.within next) (failure.within stage) =
        failure.within stage := by
  refine ⟨fun talk outcome => ?_, fun note talk outcome => ?_, fun visits outcome => Course.inOrder,
    fun world => Script.exists_ends_run _ world, ?_, Failure.foldl_within⟩
  · rw [run_eq_runFrom, ends_runFrom_iff]
  · rw [run_eq_runFrom, ends_runFrom_iff]
    constructor
    · rintro ⟨_, announced, rfl⟩
      obtain ⟨visits, course, rfl⟩ := (course_announcing_iff _ _ _).mp announced
      exact ⟨visits, course, List.flatMap_map _ _ _⟩
    · rintro ⟨visits, course, rfl⟩
      refine ⟨visits.map (Visit.announced note),
        (course_announcing_iff _ _ _).mpr ⟨visits, course, rfl⟩, ?_⟩
      rw [List.flatMap_map]
      rfl
  · intro assembly visits outcome course stage missing
    constructor
    · intro optional visit listed here
      exact Assembly.visit_of_optional course missing optional listed here
    · intro required earlier
      exact Assembly.outcome_of_required course missing required (Nat.zero_le _) earlier

def readingOnly : Assembly :=
  { Assembly.new "half" with
    readConfig := some fun config => pure (.new (.uri "spec.json") config []) }

def emptyRecord : Record :=
  .new (.uri "spec.json") .empty []

def visitsToParser : List Visit :=
  [⟨.readConfig .empty, [], .ok emptyRecord⟩, ⟨.source emptyRecord, [], .ok emptyRecord⟩,
    ⟨.parser emptyRecord, [], .error (.stageMissing "half" .parser)⟩]

/-- A run without a parser visits the stages up to it and fails there. -/
theorem ends_run_readingOnly :
    readingOnly.pipeline.Course (.readConfig .empty) visitsToParser
        (.error (.stageMissing "half" .parser)) ∧
      readingOnly.provides .parser = false ∧
      readingOnly.pipeline.InOrder .empty visitsToParser (.error (.stageMissing "half" .parser)) ∧
      (readingOnly.pipeline.run .empty).run.Ends [] (.error (.stageMissing "half" .parser)) := by
  obtain ⟨runs, -, orders, -, gaps, -⟩ := ends_run_iff readingOnly.pipeline .empty
  have reached : readingOnly.pipeline.Course (.readConfig .empty) visitsToParser
      (.error (Failure.within .parser (.stageMissing "half" .parser))) :=
    .onward (.done _) rfl (.onward (.done _) rfl (.failed (.done _)))
  obtain ⟨-, required⟩ := gaps readingOnly visitsToParser _ reached .parser rfl
  have outcome := required (by rintro (⟨⟨⟩⟩ | ⟨⟨⟩⟩)) (by
    intro visit listed before
    simp only [visitsToParser, List.mem_cons, List.not_mem_nil, or_false] at listed
    rcases listed with rfl | rfl | rfl
    · exact ⟨emptyRecord, rfl⟩
    · exact ⟨emptyRecord, rfl⟩
    · exact absurd before (Nat.lt_irrefl _))
  rw [outcome] at reached
  exact ⟨reached, rfl, orders _ _ reached, (runs [] _).mpr ⟨visitsToParser, reached, rfl⟩⟩

end Pipeline

end ClientGen
