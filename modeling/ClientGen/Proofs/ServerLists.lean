import ClientGen.Proofs.RecordReading

/-!
# Lists of servers

A configuration that lists servers should be read as these servers, entry by entry, or be refused.
It is, unless its list is no list of configurations while the object is a configuration of its own:
then the list is passed over like any member that is not known.
-/

namespace ClientGen

/-- An object gives a list of configurations under `servers`. -/
def ServerList.Given (members : Members) (servers : List Config) : Prop :=
  ∃ items, Fields.under ["servers"] members = [("servers", .array items)] ∧
    List.Forall₂ (fun item server => Config.decode item = .ok server) items servers

/-- What an object describes is the servers that it lists, one for each entry. -/
def RunPlan.KeepsServers (members : Members) : Prop :=
  ∀ plan, RunPlan.decode (.object members) = .ok plan →
    ∃ list, plan = .servers list ∧ ServerList.Given members list.servers

/-! ## What is read -/

theorem Config.decode_eq_ok_iff {members : Members} {config : Config} :
    Config.decode (.object members) = .ok config ↔
      (Fields.omissible "input" InputOption.decode).Read members config.input ∧
        (Fields.defaulted "output" ⟨none, none⟩ OutputPaths.decode).Read members config.output ∧
        (Fields.omissible "pipeline" Decoder.text).Read members config.pipeline ∧
        (Shaping.fields Decoder.countedRecord).Read members config.shaping := by
  rw [Config.decode, Decoder.shaped_eq_ok_iff]
  simp only [Fields.read_seq_iff, Fields.read_map_iff]
  constructor
  · rintro ⟨_, shaping, ⟨_, pipeline, ⟨_, output, ⟨input, first, rfl⟩, second, rfl⟩, third, rfl⟩,
      settings, rfl⟩
    exact ⟨first, second, third, settings⟩
  · rintro ⟨first, second, third, settings⟩
    exact ⟨_, _, ⟨_, _, ⟨_, _, ⟨_, first, rfl⟩, second, rfl⟩, third, rfl⟩, settings, rfl⟩

theorem ServerList.decode_eq_ok_iff {members : Members} {list : ServerList} :
    ServerList.decode (.object members) = .ok list ↔
      (Fields.omissible "pipeline" Decoder.text).Read members list.pipeline ∧
        (Shaping.fields Decoder.countedRecord).Read members list.shaping ∧
        Given members list.servers := by
  rw [ServerList.decode, Decoder.shaped_eq_ok_iff]
  simp only [Fields.read_seq_iff, Fields.read_map_iff, Fields.read_required_iff,
    Decoder.list_eq_ok_iff]
  constructor
  · rintro ⟨_, shaping, ⟨_, servers, ⟨pipeline, first, rfl⟩, ⟨value, found, items, rfl, each⟩, rfl⟩,
      settings, rfl⟩
    exact ⟨first, settings, items, found, each⟩
  · rintro ⟨first, settings, items, found, each⟩
    exact ⟨_, _, ⟨_, _, ⟨_, first, rfl⟩, ⟨_, found, items, rfl, each⟩, rfl⟩, settings, rfl⟩

/-- Servers and a single configuration share their settings, so where there is a single
configuration the servers can only be missed because of their list. -/
theorem ServerList.exists_decode_iff {members : Members} {config : Config}
    (single : Config.decode (.object members) = .ok config) :
    (∃ list, ServerList.decode (.object members) = .ok list) ↔
      ∃ servers, Given members servers := by
  obtain ⟨-, -, pipeline, settings⟩ := Config.decode_eq_ok_iff.mp single
  constructor
  · rintro ⟨list, read⟩
    exact ⟨list.servers, (ServerList.decode_eq_ok_iff.mp read).2.2⟩
  · rintro ⟨servers, given⟩
    exact ⟨⟨config.shaping, config.pipeline, servers⟩,
      ServerList.decode_eq_ok_iff.mpr ⟨pipeline, settings, given⟩⟩

theorem RunPlan.decode_eq_ok_iff {value : Json} {plan : RunPlan} :
    RunPlan.decode value = .ok plan ↔
      (∃ list, ServerList.decode value = .ok list ∧ plan = .servers list) ∨
        (∀ list, ServerList.decode value ≠ .ok list) ∧
          ∃ config, Config.decode value = .ok config ∧ plan = .single config := by
  rw [RunPlan.decode, Decoder.firstOf_two_eq_ok_iff, except_map_eq_ok_iff, except_map_eq_ok_iff]
  cases ServerList.decode value <;> simp [Except.map]

/-! ## Servers or a single configuration -/

/-- A configuration that lists servers is read as these servers or refused exactly when the list is
one of configurations, or the object is no configuration of its own. -/
theorem RunPlan.keepsServers_iff (members : Members) :
    KeepsServers members ↔ (∃ servers, ServerList.Given members servers) ∨
      ∀ config, Config.decode (.object members) ≠ .ok config := by
  constructor
  · intro kept
    by_contra neither
    obtain ⟨notGiven, notRefused⟩ := not_or.mp neither
    obtain ⟨config, single⟩ : ∃ config, Config.decode (.object members) = .ok config := by
      simpa using notRefused
    have missed : ∀ list, ServerList.decode (.object members) ≠ .ok list := by
      intro list read
      exact notGiven ((ServerList.exists_decode_iff single).mp ⟨list, read⟩)
    obtain ⟨list, same, -⟩ :=
      kept (.single config) (decode_eq_ok_iff.mpr (.inr ⟨missed, config, single, rfl⟩))
    cases same
  · intro either plan read
    rcases decode_eq_ok_iff.mp read with ⟨list, found, rfl⟩ | ⟨missed, config, single, rfl⟩
    · exact ⟨list, rfl, (ServerList.decode_eq_ok_iff.mp found).2.2⟩
    · exfalso
      rcases either with given | refused
      · obtain ⟨list, read⟩ := (ServerList.exists_decode_iff single).mpr given
        exact missed list read
      · exact refused config single

namespace Misspelled

def members : Members := [
  ("servers", .array [.object [
    ("input", .string "a.json"),
    ("output", .object [("typings", .string "api.type.ts")])]])]

end Misspelled

/-- Because of the misspelled member nothing is left of the servers, and nothing is refused. -/
theorem RunPlan.not_keepsServers_misspelled :
    (∃ items, ("servers", Json.array items) ∈ Misspelled.members) ∧
      RunPlan.decode (.object Misspelled.members) = .ok (.single Config.empty) ∧
      ¬ KeepsServers Misspelled.members := by
  have single : RunPlan.decode (.object Misspelled.members) = .ok (.single Config.empty) := by rfl
  refine ⟨⟨_, List.mem_singleton.mpr rfl⟩, single, fun kept => ?_⟩
  obtain ⟨list, same, -⟩ := kept _ single
  cases same

end ClientGen
