import ClientGen.Pipeline.Resolver

/-!
# Running a plan

Every configuration of a plan has a run of its own. The pipelines of all runs are found first; a
run that fails, or whose pipeline is not found, does not keep the others from running.
-/

namespace ClientGen.RunPlan

def requireAll (resolver : Resolver) :
    Cache → List Config → Script (List (Except Failure Pipeline × Config) × Cache)
  | cache, [] => pure ([], cache)
  | cache, config :: rest => do
      let (pipeline, cache) ← resolver.require cache config.pipelineId
      let (found, cache) ← requireAll resolver cache rest
      return ((pipeline, config) :: found, cache)

def runOne : Except Failure Pipeline × Config → Script (Except Failure Record)
  | (.ok pipeline, config) => (pipeline.run config).run
  | (.error failure, _) => pure (.error failure)

/-- Runs every configuration of a plan. Answers the outcomes in order, and the cache afterwards. -/
def run (resolver : Resolver) (cache : Cache) (plan : RunPlan) :
    Script (List (Except Failure Record) × Cache) := do
  let (found, cache) ← requireAll resolver cache plan.configs
  let outcomes ← found.mapM runOne
  return (outcomes, cache)

end ClientGen.RunPlan
