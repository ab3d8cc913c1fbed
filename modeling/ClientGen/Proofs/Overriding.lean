import ClientGen.CommandLine.Overrides
import Mathlib.Data.List.Forall2

/-!
# Overriding and fanning out

What the command line says is put into a plan before the plan is fanned out into one configuration
for each run. It might as well be put into the configurations afterwards: a pipeline into each of
them, an input and a request file into the only one there is. What a server takes over from the
shared settings is decided setting by setting, and once for all.
-/

namespace ClientGen

/-- What a setting comes to: the first value if there is one, or else the second. -/
structure Prefers {α : Type} (first second result : Option α) : Prop where
  of_some : ∀ value, first = some value → result = some value
  of_none : first = none → result = second

theorem prefers_or {α : Type} (first second : Option α) :
    Prefers first second (first.or second) := by
  cases first with
  | none => exact ⟨nofun, fun _ => rfl⟩
  | some value => exact ⟨fun _ same => same, nofun⟩

theorem option_or_or_self {α : Type} (own shared : Option α) :
    (own.or shared).or shared = own.or shared := by
  rw [Option.or_assoc, Option.or_self]

/-! ## Fanning out -/

/-- What a server of a list is configured as: each setting that it leaves unset is the shared one,
and where things come from and go to is its own. -/
structure Config.Inherits (list : ServerList) (server config : Config) : Prop where
  input : config.input = server.input
  output : config.output = server.output
  baseUrl : Prefers server.shaping.baseUrl list.shaping.baseUrl config.shaping.baseUrl
  imports : Prefers server.shaping.imports list.shaping.imports config.shaping.imports
  responses : Prefers server.shaping.responses list.shaping.responses config.shaping.responses
  allOptional :
    Prefers server.shaping.allOptional list.shaping.allOptional config.shaping.allOptional
  pipeline : Prefers server.pipeline list.pipeline config.pipeline

theorem Shaping.or_or_self (own shared : Shaping) : (own.or shared).or shared = own.or shared := by
  simp only [Shaping.or, option_or_or_self]

namespace RunPlan

/-- Each server has one configuration, in the order of the list. -/
theorem forall₂_inherits (list : ServerList) :
    List.Forall₂ (Config.Inherits list) list.servers (RunPlan.servers list).configs := by
  rw [configs, List.forall₂_map_right_iff, List.forall₂_same]
  intro server _
  exact {
    input := rfl
    output := rfl
    baseUrl := prefers_or _ _
    imports := prefers_or _ _
    responses := prefers_or _ _
    allOptional := prefers_or _ _
    pipeline := prefers_or _ _ }

/-- Servers that have taken over what is shared have nothing more to take over. -/
theorem configs_configs (list : ServerList) :
    (RunPlan.servers { list with servers := (RunPlan.servers list).configs }).configs =
      (RunPlan.servers list).configs := by
  rw [configs, configs, List.map_map]
  apply List.map_congr_left
  intro server _
  simp only [Function.comp_apply, Shaping.or_or_self, option_or_or_self]

end RunPlan

/-! ## Overriding -/

namespace Config

def withInput (given : Option String) (config : Config) : Config :=
  match given with
  | some address => { config with input := some (.shorthand address) }
  | none => config

def withMain (given : Option String) (config : Config) : Config :=
  match given with
  | some path => { config with output := { config.output with main := some path } }
  | none => config

def withPipeline (given : Option String) (config : Config) : Config :=
  match given with
  | some pipeline => { config with pipeline := some pipeline }
  | none => config

end Config

namespace RunPlan

/-- What the arguments make of each configuration of a plan. -/
def replacing (arguments : CommandLine.Arguments) : RunPlan → Config → Config
  | .single _, config =>
      ((config.withInput arguments.input).withMain arguments.output).withPipeline
        arguments.pipeline
  | .servers _, config => config.withPipeline arguments.pipeline

variable {arguments : CommandLine.Arguments}

theorem override_single (arguments : CommandLine.Arguments) (config : Config) :
    (RunPlan.single config).override arguments =
      .ok (.single ((RunPlan.single config).replacing arguments config)) := by
  obtain ⟨_, pipeline, input, output, _⟩ := arguments
  cases pipeline <;> cases input <;> cases output <;> rfl

theorem override_servers_of_given (list : ServerList)
    (given : arguments.input.isSome ∨ arguments.output.isSome) :
    (RunPlan.servers list).override arguments = .error .overrideOfServers := by
  rw [override, if_pos]
  simpa using given

/-- A pipeline for the list and for each of its servers is one for each configuration. -/
theorem exists_override_servers (list : ServerList)
    (notGiven : ¬ (arguments.input.isSome ∨ arguments.output.isSome)) :
    ∃ overridden, (RunPlan.servers list).override arguments = .ok overridden ∧
      overridden.configs =
        (RunPlan.servers list).configs.map ((RunPlan.servers list).replacing arguments) := by
  rw [override, if_neg (by simpa using notGiven)]
  refine ⟨_, rfl, ?_⟩
  rw [configs, configs, List.map_map, List.map_map]
  apply List.map_congr_left
  intro server _
  cases given : arguments.pipeline with
  | none => simp only [Function.comp_apply, replacing, given, Config.withPipeline, Option.none_or]
  | some pipeline =>
      simp only [Function.comp_apply, replacing, given, Config.withPipeline, Option.some_or]

/-- Overriding is refused exactly for several servers and an input or a request file. Otherwise it
makes no difference whether a plan is overridden before it is fanned out or its configurations are
afterwards. What fanning out gives each server is its own where it has something of its own, and
giving it once more changes nothing. -/
theorem override_commutes (plan : RunPlan) (arguments : CommandLine.Arguments) :
    (∀ fault, plan.override arguments = .error fault ↔ fault = .overrideOfServers ∧
      (∃ list, plan = .servers list) ∧ (arguments.input.isSome ∨ arguments.output.isSome)) ∧
    (¬ ((∃ list, plan = .servers list) ∧ (arguments.input.isSome ∨ arguments.output.isSome)) →
      ∃ overridden, plan.override arguments = .ok overridden ∧
        overridden.configs = plan.configs.map (plan.replacing arguments)) ∧
    (∀ list : ServerList,
      List.Forall₂ (Config.Inherits list) list.servers (RunPlan.servers list).configs ∧
      (RunPlan.servers { list with servers := (RunPlan.servers list).configs }).configs =
        (RunPlan.servers list).configs) := by
  refine ⟨fun fault => ?_, fun accepted => ?_,
    fun list => ⟨forall₂_inherits list, configs_configs list⟩⟩
  · cases plan with
    | single config => simp [override_single]
    | servers list =>
        by_cases given : arguments.input.isSome ∨ arguments.output.isSome
        · rw [override_servers_of_given list given]
          constructor
          · rintro ⟨⟩
            exact ⟨rfl, ⟨list, rfl⟩, given⟩
          · rintro ⟨rfl, -, -⟩
            rfl
        · obtain ⟨overridden, succeeded, -⟩ := exists_override_servers list given
          simp [succeeded, given]
  · cases plan with
    | single config => exact ⟨_, override_single arguments config, rfl⟩
    | servers list =>
        exact exists_override_servers list fun given => accepted ⟨⟨list, rfl⟩, given⟩

end RunPlan

end ClientGen
