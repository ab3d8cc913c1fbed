import ClientGen.Proofs.LastAmong
import ClientGen.Proofs.Publishing

/-!
# What a registry holds

A registry starts without entries and is changed by calls: a handler is added for a stage, a
pipeline is published, or everything that is standard is added at once. The main statement is about
every sequence of calls: each handler in the catalogue fits its stage, and what is found under a
name is what was registered under it last. Two things say which handlers a stage takes, one where
they are registered and one where they are plugged in; they agree, so a handler from the catalogue
is never refused when a pipeline is put together.
-/

namespace ClientGen

/-! ## The last entry under a key -/

namespace Registry

section Entries

variable {κ α : Type}

/-- A value is the last that goes under a key. -/
def IsLast (key : κ) (value : α) (registered : List (κ × α)) : Prop :=
  ∃ before, LastAmong (fun entry => entry.1 ≠ key) (key, value) before registered

variable {key other : κ} {value given : α} {registered entries added : List (κ × α)}

theorem isLast_append_iff :
    IsLast key value (registered ++ [(other, given)]) ↔
      other = key ∧ given = value ∨ other ≠ key ∧ IsLast key value registered := by
  simp only [IsLast, lastAmong_append_iff, Prod.mk.injEq]
  constructor
  · rintro ⟨before, ⟨same, -⟩ | ⟨apart, last⟩⟩
    · exact .inl same
    · exact .inr ⟨apart, before, last⟩
  · rintro (same | ⟨apart, before, last⟩)
    · exact ⟨registered, .inl ⟨same, rfl⟩⟩
    · exact ⟨before, .inr ⟨apart, last⟩⟩

theorem isLast_of_mem (nodup : (registered.map Prod.fst).Nodup)
    (listed : (key, value) ∈ registered) : IsLast key value registered := by
  obtain ⟨before, later, rfl⟩ := List.append_of_mem listed
  refine ⟨before, later, rfl, fun entry member same => ?_⟩
  rw [List.map_append, List.map_cons] at nodup
  obtain ⟨fresh, -⟩ := List.nodup_cons.mp nodup.of_append_right
  exact fresh (List.mem_map.mpr ⟨entry, member, same⟩)

variable [BEq κ]

def at? (key : κ) (entries : List (κ × α)) : Option α :=
  (entries.find? fun (other, _) => other == key).map (·.2)

/-- Puts in several values, one after the other. -/
def putAll (added entries : List (κ × α)) : List (κ × α) :=
  added.foldl (fun entries (key, value) => put key value entries) entries

/-- Under each key the entries have the value that was registered under it last. -/
def Records (registered entries : List (κ × α)) : Prop :=
  ∀ key value, at? key entries = some value ↔ IsLast key value registered

theorem eq_or_mem_of_mem_put {entry : κ × α} (listed : entry ∈ put key value entries) :
    entry = (key, value) ∨ entry ∈ entries := by
  rcases List.mem_append.mp listed with kept | new
  · exact .inr (List.mem_filter.mp kept).1
  · exact .inl (List.mem_singleton.mp new)

theorem mem_or_mem_of_mem_putAll {entry : κ × α} (listed : entry ∈ putAll added entries) :
    entry ∈ added ∨ entry ∈ entries := by
  induction added using List.reverseRecOn with
  | nil => exact .inr listed
  | append_singleton rest last ih =>
      rw [putAll, List.foldl_append] at listed
      rcases eq_or_mem_of_mem_put listed with rfl | earlier
      · exact .inl (List.mem_append_right _ (List.mem_singleton_self _))
      · exact (ih earlier).imp_left (List.mem_append_left _)

theorem Records.nil : Records ([] : List (κ × α)) [] := by
  intro key value
  constructor
  · nofun
  · rintro ⟨before, last⟩
    exact absurd last not_lastAmong_nil

variable [LawfulBEq κ]

theorem at?_put (key other : κ) (given : α) (entries : List (κ × α)) :
    at? key (put other given entries) = if other == key then some given else at? key entries := by
  unfold at? put
  rw [List.find?_append]
  by_cases same : other = key
  · subst same
    have gone : (entries.filter fun (k, _) => k != other).find? (fun (k, _) => k == other) =
        none := by
      apply List.find?_eq_none.mpr
      intro entry listed
      simpa using (List.mem_filter.mp listed).2
    rw [gone]
    simp
  · have kept : (entries.filter fun (k, _) => k != other).find? (fun (k, _) => k == key) =
        entries.find? fun (k, _) => k == key := by
      rw [List.find?_filter]
      congr 1
      funext entry
      by_cases here : entry.1 = key <;> simp [here, Ne.symm same]
    rw [kept]
    simp [same]

theorem at?_putAll_of_isLast (last : IsLast key value added) :
    at? key (putAll added entries) = some value := by
  induction added using List.reverseRecOn with
  | nil =>
      obtain ⟨before, last⟩ := last
      exact absurd last not_lastAmong_nil
  | append_singleton rest entry ih =>
      rw [putAll, List.foldl_append]
      change at? key (put entry.1 entry.2 (putAll rest entries)) = some value
      rw [at?_put]
      rcases isLast_append_iff.mp last with ⟨same, rfl⟩ | ⟨apart, last⟩
      · simp [same]
      · simp [apart, ih last]

namespace Records

theorem put (known : Records registered entries) (key : κ) (value : α) :
    Records (registered ++ [(key, value)]) (Registry.put key value entries) := by
  intro other given
  rw [at?_put, isLast_append_iff, ← known other given]
  by_cases same : key = other <;> simp [same]

theorem putAll (known : Records registered entries) (added : List (κ × α)) :
    Records (registered ++ added) (Registry.putAll added entries) := by
  induction added generalizing registered entries with
  | nil =>
      rw [List.append_nil]
      exact known
  | cons entry rest ih =>
      have onward := ih (known.put entry.1 entry.2)
      rw [List.append_assoc] at onward
      exact onward

end Records

end Entries

theorem handler?_eq_at? (registry : Registry) (stage : Stage) (name : String) :
    registry.handler? stage name = at? (stage, name) registry.handlers := rfl

theorem pipeline?_eq_at? (registry : Registry) (package : String) :
    registry.pipeline? package = at? package registry.pipelines := rfl

end Registry

/-! ## What is standard -/

namespace Pipeline

def standardEntries : List ((Stage × String) × Handler) :=
  standardHandlers.map fun (stage, name, handler) => ((stage, name), handler)

def standardPackages : List (String × Pipeline) :=
  [standard .axios "swag-axios-ts", standard .fetch "swag-fetch-ts"].map fun pipeline =>
    (packageName pipeline.name, pipeline)

variable {registry : Registry}

theorem fits_of_mem_standardHandlers {stage : Stage} {name : String} {handler : Handler}
    (listed : (stage, name, handler) ∈ standardHandlers) : handler.fits stage = true := by
  have all : ∀ entry ∈ standardHandlers, entry.2.2.fits entry.1 = true := by
    simp only [standardHandlers, List.forall_mem_cons]
    exact ⟨rfl, rfl, rfl, rfl, rfl, rfl, rfl, rfl, nofun⟩
  exact all _ listed

theorem nodup_standardEntries : (standardEntries.map Prod.fst).Nodup := by
  have keys : standardEntries.map Prod.fst = [(.readConfig, "default"), (.source, "source"),
      (.parser, "swagger-axios"), (.parser, "swagger-fetch"), (.compiler, "typescript"),
      (.compiler, "typescript-parallel"), (.generate, "typescript"), (.dest, "fs")] := rfl
  rw [keys]
  decide

theorem addHandlers_eq_ok {given : List (Stage × String × Handler)} (registry : Registry)
    (fits : ∀ entry ∈ given, entry.2.2.fits entry.1 = true) :
    addHandlers given registry = .ok { registry with
      handlers := Registry.putAll
        (given.map fun (stage, name, handler) => ((stage, name), handler)) registry.handlers } := by
  induction given generalizing registry with
  | nil => rfl
  | cons entry rest ih =>
      obtain ⟨own, others⟩ := List.forall_mem_cons.mp fits
      rw [addHandlers, Registry.addHandler, if_pos own]
      exact ih _ others

theorem assemble_cons_of_found {stage : Stage} {name : String} {handler : Handler}
    {rest : List (Stage × String)} {assembly next : Assembly}
    (found : registry.handler? stage name = some handler)
    (taken : assembly.withStage stage handler = .ok next) :
    assemble registry ((stage, name) :: rest) assembly = assemble registry rest next := by
  simp only [assemble, found, taken]
  rfl

def parserName : Client → String
  | .axios => "swagger-axios"
  | .fetch => "swagger-fetch"

/-- Where the standard handlers are in the catalogue, they make the standard pipelines. -/
theorem exists_assemble_standard
    (found : ∀ stage name handler, (stage, name, handler) ∈ standardHandlers →
      registry.handler? stage name = some handler) (client : Client) (name : String) :
    ∃ assembly, assemble registry [(.readConfig, "default"), (.source, "source"),
        (.parser, parserName client), (.compiler, "typescript"), (.generate, "typescript"),
        (.dest, "fs")] (Assembly.new name) = .ok assembly ∧
      assembly.pipeline = standard client name := by
  have readConfig := found .readConfig "default" _ (.head _)
  have source := found .source "source" _ (.tail _ (.head _))
  have parser : registry.handler? .parser (parserName client) = some (.flow fun record =>
      Task.ofExcept ((record.parse client).mapError Failure.description)) := by
    cases client with
    | axios => exact found .parser "swagger-axios" _ (.tail _ (.tail _ (.head _)))
    | fetch => exact found .parser "swagger-fetch" _ (.tail _ (.tail _ (.tail _ (.head _))))
  have compiler := found .compiler "typescript" _
    (.tail _ (.tail _ (.tail _ (.tail _ (.head _)))))
  have generate := found .generate "typescript" _
    (.tail _ (.tail _ (.tail _ (.tail _ (.tail _ (.tail _ (.head _)))))))
  have dest := found .dest "fs" _
    (.tail _ (.tail _ (.tail _ (.tail _ (.tail _ (.tail _ (.tail _ (.head _))))))))
  rw [assemble_cons_of_found readConfig rfl, assemble_cons_of_found source rfl,
    assemble_cons_of_found parser rfl, assemble_cons_of_found compiler rfl,
    assemble_cons_of_found generate rfl, assemble_cons_of_found dest rfl]
  exact ⟨_, rfl, rfl⟩

theorem addTable_cons_of_assembled {name : String} {handlers : List String}
    {rest : List (String × List String)} {assembly : Assembly}
    (made : assemble registry (Stage.all.zip handlers) (Assembly.new name) = .ok assembly) :
    addTable ((name, handlers) :: rest) registry =
      addTable rest (registry.addPipeline assembly.pipeline) := by
  simp only [addTable, made]

theorem addTable_standard
    (found : ∀ stage name handler, (stage, name, handler) ∈ standardHandlers →
      registry.handler? stage name = some handler) :
    addTable standardTable registry = .ok { registry with
      pipelines := Registry.putAll standardPackages registry.pipelines } := by
  obtain ⟨axios, made, same⟩ := exists_assemble_standard found .axios "swag-axios-ts"
  -- Publishing the first pipeline leaves the catalogue as it is.
  have still : ∀ stage name handler, (stage, name, handler) ∈ standardHandlers →
      (registry.addPipeline axios.pipeline).handler? stage name = some handler := found
  obtain ⟨fetch, madeNext, sameNext⟩ := exists_assemble_standard still .fetch "swag-fetch-ts"
  rw [standardTable, addTable_cons_of_assembled made, addTable_cons_of_assembled madeNext, same,
    sameNext]
  rfl

/-- Adding what is standard never fails, whatever a registry holds. -/
theorem addStandard_eq_ok (registry : Registry) :
    addStandard registry = .ok ⟨Registry.putAll standardPackages registry.pipelines,
      Registry.putAll standardEntries registry.handlers⟩ := by
  have found : ∀ stage name handler, (stage, name, handler) ∈ standardHandlers →
      Registry.at? (stage, name) (Registry.putAll standardEntries registry.handlers) =
        some handler := by
    intro stage name handler listed
    apply Registry.at?_putAll_of_isLast
    exact Registry.isLast_of_mem nodup_standardEntries (List.mem_map.mpr ⟨_, listed, rfl⟩)
  rw [addStandard, addHandlers_eq_ok registry fun _ => fits_of_mem_standardHandlers]
  dsimp only [Except.bind]
  rw [addTable_standard]
  · rfl
  · intro stage name handler listed
    rw [Registry.handler?_eq_at?]
    exact found stage name handler listed

end Pipeline

/-! ## Calls -/

/-- A call that changes a registry. -/
inductive Registration where
  | handler (stage : Stage) (name : String) (handler : Handler)
  | pipeline (pipeline : Pipeline)
  | standard

namespace Registration

/-- How a call ends: with the registry as it is afterwards, or it fails. -/
def outcome (registry : Registry) : Registration → Except ConfigFault Registry
  | .handler stage name own => registry.addHandler stage name own
  | .pipeline published => .ok (registry.addPipeline published)
  | .standard => Pipeline.addStandard registry

/-- The handlers that a call registers. One that does not fit its stage is not registered. -/
def handlers : Registration → List ((Stage × String) × Handler)
  | .handler stage name own => if own.fits stage then [((stage, name), own)] else []
  | .pipeline _ => []
  | .standard => Pipeline.standardEntries

def pipelines : Registration → List (String × Pipeline)
  | .handler _ _ _ => []
  | .pipeline published => [(packageName published.name, published)]
  | .standard => Pipeline.standardPackages

/-- A call fails exactly if it adds a handler to a stage that it does not fit. -/
theorem exists_outcome_error_iff (registry : Registry) (call : Registration) :
    (∃ fault, call.outcome registry = .error fault) ↔
      ∃ stage name own, call = .handler stage name own ∧ own.fits stage = false := by
  cases call with
  | handler stage name own =>
      by_cases fits : own.fits stage = true <;> simp [outcome, Registry.addHandler, fits]
  | pipeline published => simp [outcome]
  | standard => simp [outcome, Pipeline.addStandard_eq_ok]

theorem fits_of_mem_handlers {call : Registration} {stage : Stage} {name : String} {own : Handler}
    (listed : ((stage, name), own) ∈ call.handlers) : own.fits stage = true := by
  cases call with
  | handler givenStage givenName given =>
      rw [handlers] at listed
      split at listed
      · rename_i fits
        obtain ⟨⟨⟩⟩ := List.mem_singleton.mp listed
        exact fits
      · cases listed
  | pipeline published => cases listed
  | standard =>
      obtain ⟨⟨_, _, _⟩, standard, ⟨⟩⟩ := List.mem_map.mp listed
      exact Pipeline.fits_of_mem_standardHandlers standard

end Registration

namespace Registry

/-- The registry after a call. One that fails leaves it as it was. -/
def called (registry : Registry) (call : Registration) : Registry :=
  match call.outcome registry with
  | .ok after => after
  | .error _ => registry

/-- The registry after several calls, one after the other, from the one without entries. -/
def built (calls : List Registration) : Registry :=
  calls.foldl called empty

theorem built_append_singleton (calls : List Registration) (call : Registration) :
    built (calls ++ [call]) = (built calls).called call := by
  rw [built, List.foldl_append]
  rfl

theorem called_eq (registry : Registry) (call : Registration) :
    registry.called call =
      ⟨putAll call.pipelines registry.pipelines, putAll call.handlers registry.handlers⟩ := by
  cases call with
  | handler stage name handler =>
      by_cases fits : handler.fits stage = true <;>
        simp [called, Registration.outcome, addHandler, Registration.handlers,
          Registration.pipelines, fits, putAll]
  | pipeline pipeline => rfl
  | standard =>
      rw [called, Registration.outcome, Pipeline.addStandard_eq_ok]
      rfl

/-- Every handler in the catalogue fits its stage. -/
def Fitting (registry : Registry) : Prop :=
  ∀ stage name handler, ((stage, name), handler) ∈ registry.handlers → handler.fits stage = true

theorem Fitting.called {registry : Registry} (fitting : registry.Fitting) (call : Registration) :
    (registry.called call).Fitting := by
  intro stage name handler listed
  rw [called_eq] at listed
  rcases mem_or_mem_of_mem_putAll listed with registered | kept
  · exact Registration.fits_of_mem_handlers registered
  · exact fitting stage name handler kept

theorem fitting_built (calls : List Registration) : (built calls).Fitting := by
  induction calls using List.reverseRecOn with
  | nil => nofun
  | append_singleton calls call ih =>
      rw [built_append_singleton]
      exact ih.called call

theorem records_built (calls : List Registration) :
    Records (calls.flatMap Registration.handlers) (built calls).handlers ∧
      Records (calls.flatMap Registration.pipelines) (built calls).pipelines := by
  induction calls using List.reverseRecOn with
  | nil => exact ⟨Records.nil, Records.nil⟩
  | append_singleton calls call ih =>
      rw [built_append_singleton, called_eq, List.flatMap_append, List.flatMap_append,
        List.flatMap_singleton, List.flatMap_singleton]
      exact ⟨ih.1.putAll _, ih.2.putAll _⟩

end Registry

/-! ## Plugging in -/

/-- A handler can be plugged in for a stage exactly if it fits it. -/
theorem Handler.fits_iff_exists_withStage (handler : Handler) (stage : Stage)
    (assembly : Assembly) :
    handler.fits stage = true ↔ ∃ next, assembly.withStage stage handler = .ok next := by
  cases handler <;> cases stage <;>
    simp [Handler.fits, Handler.shape, Stage.shape, Assembly.withStage]

namespace Registry.Fitting

variable {registry : Registry}

theorem exists_withStage (fitting : registry.Fitting) {stage : Stage} {name : String}
    {handler : Handler} (found : registry.handler? stage name = some handler)
    (assembly : Assembly) : ∃ next, assembly.withStage stage handler = .ok next := by
  obtain ⟨⟨key, own⟩, first, rfl⟩ := Option.map_eq_some_iff.mp found
  have same := List.find?_some first
  obtain rfl : key = (stage, name) := eq_of_beq same
  exact (Handler.fits_iff_exists_withStage own stage assembly).mp
    (fitting stage name own (List.mem_of_find?_eq_some first))

/-- A manifest is refused by a fitting registry for a name that its catalogue does not have, never
for a handler that it does have. -/
theorem unknown_of_assembleFrom_eq_error (fitting : registry.Fitting) {manifest : Manifest}
    {stages : List Stage} {assembly : Assembly} {fault : ManifestFault}
    (refused : manifest.assembleFrom registry stages assembly = .error fault) :
    ∃ stage name, fault = .unknownStage stage name (registry.handlerNames stage) ∧
      registry.handler? stage name = none := by
  induction stages generalizing assembly with
  | nil => cases refused
  | cons stage rest ih =>
      rw [Manifest.assembleFrom] at refused
      split at refused
      · exact ih refused
      · rename_i name selected
        split at refused
        · rename_i unknown
          cases refused
          exact ⟨stage, name, rfl, unknown⟩
        · rename_i handler found
          obtain ⟨next, taken⟩ := fitting.exists_withStage found assembly
          rw [taken] at refused
          exact ih refused

theorem fault_of_assemble_eq_error (fitting : registry.Fitting) {manifest : Manifest} {path : Path}
    {fault : ManifestFault} (refused : manifest.assemble registry path = .error fault) :
    fault = .noStages ∨
      ∃ stage name, fault = .unknownStage stage name (registry.handlerNames stage) ∧
        registry.handler? stage name = none := by
  rw [Manifest.assemble] at refused
  split at refused
  · cases refused
    exact .inl rfl
  · exact .inr (fitting.unknown_of_assembleFrom_eq_error refused)

theorem missing_of_assemble_eq_error (fitting : registry.Fitting) {given : List (Stage × String)}
    {assembly : Assembly} {fault : ConfigFault}
    (refused : Pipeline.assemble registry given assembly = .error fault) :
    ∃ stage name, fault = .notInCatalogue stage name ∧ registry.handler? stage name = none := by
  induction given generalizing assembly with
  | nil => cases refused
  | cons entry rest ih =>
      obtain ⟨stage, name⟩ := entry
      cases found : registry.handler? stage name with
      | none =>
          simp only [Pipeline.assemble, found] at refused
          cases refused
          exact ⟨stage, name, rfl, found⟩
      | some handler =>
          obtain ⟨next, taken⟩ := fitting.exists_withStage found assembly
          rw [Pipeline.assemble_cons_of_found found taken] at refused
          exact ih refused

/-- A table of pipelines is refused for a handler that is in no catalogue. The pipelines that are
published before leave the catalogue as it is. -/
theorem missing_of_addTable_eq_error (fitting : registry.Fitting)
    {table : List (String × List String)} {fault : ConfigFault}
    (refused : Pipeline.addTable table registry = .error fault) :
    ∃ stage name, fault = .notInCatalogue stage name ∧ registry.handler? stage name = none := by
  induction table generalizing registry with
  | nil => cases refused
  | cons entry rest ih =>
      obtain ⟨name, handlers⟩ := entry
      cases made : Pipeline.assemble registry (Stage.all.zip handlers) (Assembly.new name) with
      | error reason =>
          simp only [Pipeline.addTable, made] at refused
          cases refused
          exact fitting.missing_of_assemble_eq_error made
      | ok assembly =>
          rw [Pipeline.addTable_cons_of_assembled made] at refused
          have still : (registry.addPipeline assembly.pipeline).Fitting := fitting
          have unknown := ih still refused
          exact unknown

end Registry.Fitting

/-! ## After any calls -/

namespace Registry

/-- How a registry stands after calls. -/
structure Keeps (calls : List Registration) (registry : Registry) : Prop where
  /-- Every handler in the catalogue fits its stage. -/
  fitting : registry.Fitting
  /-- A call fails exactly if it adds a handler to a stage that it does not fit. -/
  refuses (call : Registration) : (∃ fault, call.outcome registry = .error fault) ↔
    ∃ stage name handler, call = .handler stage name handler ∧ handler.fits stage = false
  /-- A call that fails changes nothing. -/
  unchanged (call : Registration) (fault : ConfigFault) :
    call.outcome registry = .error fault → built (calls ++ [call]) = registry
  /-- The handler found for a stage under a name is the last that was registered there. -/
  handler (stage : Stage) (name : String) (handler : Handler) :
    registry.handler? stage name = some handler ↔
      IsLast (stage, name) handler (calls.flatMap Registration.handlers)
  /-- The pipeline found as a package is the last that was registered as it. -/
  pipeline (package : String) (pipeline : Pipeline) :
    registry.pipeline? package = some pipeline ↔
      IsLast package pipeline (calls.flatMap Registration.pipelines)
  /-- A handler that is found can be plugged into every pipeline in the making. -/
  plugs (stage : Stage) (name : String) (handler : Handler) (assembly : Assembly) :
    registry.handler? stage name = some handler →
      ∃ next, assembly.withStage stage handler = .ok next
  /-- A manifest is refused only if it names no handlers, or one that is not found. -/
  manifest (manifest : Manifest) (path : Path) (fault : ManifestFault) :
    manifest.assemble registry path = .error fault → fault = .noStages ∨
      ∃ stage name, fault = .unknownStage stage name (registry.handlerNames stage) ∧
        registry.handler? stage name = none
  /-- A table of pipelines is refused only if it names a handler that is not found. -/
  table (table : List (String × List String)) (fault : ConfigFault) :
    Pipeline.addTable table registry = .error fault →
      ∃ stage name, fault = .notInCatalogue stage name ∧ registry.handler? stage name = none

/-- What holds of every registry that calls make, whichever handlers and pipelines they register
and in whatever order. -/
theorem keeps_built (calls : List Registration) : Keeps calls (built calls) where
  fitting := fitting_built calls
  refuses := Registration.exists_outcome_error_iff (built calls)
  unchanged call fault failed := by
    rw [built_append_singleton, called, failed]
  handler stage name handler := by
    rw [handler?_eq_at?]
    exact (records_built calls).1 (stage, name) handler
  pipeline package pipeline := by
    rw [pipeline?_eq_at?]
    exact (records_built calls).2 package pipeline
  plugs _ _ _ assembly found := (fitting_built calls).exists_withStage found assembly
  manifest _ _ _ refused := (fitting_built calls).fault_of_assemble_eq_error refused
  table _ _ refused := (fitting_built calls).missing_of_addTable_eq_error refused

end Registry

end ClientGen
