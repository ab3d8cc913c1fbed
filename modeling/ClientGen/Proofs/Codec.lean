import ClientGen.Config.Codec
import ClientGen.Graph.Codec

/-!
# Reading what was written

Configurations, inputs and graphs are written as JSON values and read from them. A record is read
field by field, and each field finds among the written members exactly those that it was written
as. From this every reader gives back what its writer was given: what a record leaves out comes
back as absent or empty, and of several forms the one that was written is read.
-/

namespace ClientGen

/-- A reader gives back whatever its writer was given, and takes what is written for no absent
value. -/
structure Decoder.Restores {α : Type} (decode : Decoder α) (encode : α → Json) : Prop where
  read : ∀ a, decode (encode a) = .ok a
  present : ∀ a, encode a ≠ .null

/-- The fields of a record are read from the members of an object as a value. -/
def Fields.Read {α : Type} (fields : Fields α) (members : Members) (a : α) : Prop :=
  fields.ofMembers members = .ok a

def Fields.Refuses {α : Type} (fields : Fields α) (members : Members) : Prop :=
  ∃ fault, fields.ofMembers members = .error fault

/-! ## Members -/

theorem Json.key_of_mem_optionalMember {α : Type} {key : String} {encode : α → Json}
    {value : Option α} {entry : String × Json} (member : entry ∈ optionalMember key encode value) :
    entry.1 = key := by
  cases value with
  | none => cases member
  | some a =>
      obtain rfl := List.mem_singleton.mp member
      rfl

namespace Fields

@[simp]
theorem under_nil (names : List String) : under names [] = [] := rfl

@[simp]
theorem under_cons (names : List String) (key : String) (value : Json) (rest : Members) :
    under names ((key, value) :: rest) =
      if names.contains key then (key, value) :: under names rest else under names rest := by
  simp only [under, List.filter_cons]

@[simp]
theorem under_append (names : List String) (first second : Members) :
    under names (first ++ second) = under names first ++ under names second :=
  List.filter_append _ _

@[simp]
theorem under_optionalMember {α : Type} (names : List String) (key : String) (encode : α → Json)
    (value : Option α) :
    under names (Json.optionalMember key encode value) =
      if names.contains key then Json.optionalMember key encode value else [] := by
  cases value with
  | none => simp [Json.optionalMember]
  | some a => simp [Json.optionalMember]

@[simp]
theorem under_textMember (names : List String) (key : String) (value : Option String) :
    under names (Json.textMember key value) =
      if names.contains key then Json.textMember key value else [] := by
  cases value with
  | none => simp [Json.textMember]
  | some text => simp [Json.textMember]

@[simp]
theorem under_textsMember (names : List String) (key : String) (values : List String) :
    under names (Json.textsMember key values) =
      if names.contains key then Json.textsMember key values else [] := by
  cases values with
  | nil => simp [Json.textsMember]
  | cons first rest => simp [Json.textsMember]

end Fields

/-! ## Fields -/

namespace Fields.Read

variable {α β : Type} {members : Members}

theorem map {x : Fields α} {a : α} (make : α → β) (read : x.Read members a) :
    (make <$> x).Read members (make a) := by
  change (Fields.seq (Fields.pure make) x).ofMembers members = .ok (make a)
  rw [Fields.seq, Fields.pure]
  dsimp only
  rw [read]

theorem seq {f : Fields (α → β)} {x : Fields α} {make : α → β} {a : α}
    (first : f.Read members make) (second : x.Read members a) :
    (f <*> x).Read members (make a) := by
  change (Fields.seq f x).ofMembers members = .ok (make a)
  rw [Fields.seq]
  dsimp only
  rw [first, second]

variable {name : String} {decode : Decoder α} {encode : α → Json}

theorem field {absent short : Option α} {value : Json} {a : α}
    (found : under [name] members = [(name, value)]) (read : decode value = .ok a) :
    (Fields.field [name] absent short decode).Read members a := by
  rw [Read, Fields.field]
  dsimp only
  rw [found]
  dsimp only
  rw [read]

theorem required {a : α} (law : decode.Restores encode)
    (found : under [name] members = [(name, encode a)]) :
    (Fields.required name decode).Read members a :=
  field found (law.read a)

theorem defaulted {default a : α} (law : decode.Restores encode)
    (found : under [name] members = [(name, encode a)]) :
    (Fields.defaulted name default decode).Read members a :=
  field found (law.read a)

/-- What is left out comes back as its default. -/
theorem leftOut {absent : α} {short : Option α} (missing : under [name] members = []) :
    (Fields.field [name] (some absent) short decode).Read members absent := by
  rw [Read, Fields.field]
  dsimp only
  rw [missing]

theorem omissible {value : Option α} (law : decode.Restores encode)
    (found : under [name] members = Json.optionalMember name encode value) :
    (Fields.omissible name decode).Read members value := by
  cases value with
  | none => exact leftOut found
  | some a =>
      apply field found
      have present : encode a ≠ .null := law.present a
      unfold Decoder.optional
      split
      · rename_i null
        exact absurd null present
      · rw [law.read]
        rfl

theorem closed {fields : Fields α} {known : List String} {a : α} (read : fields.Read members a)
    (keys : ∀ entry ∈ members, fields.keys.contains entry.1 = true) :
    (fields.closed known).Read members a := by
  rw [Read, Fields.closed]
  dsimp only
  rw [List.filterMap_eq_nil_iff.mpr, read]
  -- No member is unknown.
  intro entry member
  rw [keys entry member]
  rfl

end Fields.Read

namespace Fields.Refuses

variable {α β : Type} {members : Members}

theorem seq {f : Fields (α → β)} {x : Fields α} (second : x.Refuses members) :
    (f <*> x).Refuses members := by
  obtain ⟨fault, refused⟩ := second
  change ∃ fault, (Fields.seq f x).ofMembers members = .error fault
  rw [Fields.seq]
  dsimp only
  rw [refused]
  cases f.ofMembers members <;> exact ⟨_, rfl⟩

theorem required {name : String} {decode : Decoder α} (missing : under [name] members = []) :
    (Fields.required name decode).Refuses members := by
  refine ⟨.missing name, ?_⟩
  rw [Fields.required, Fields.field]
  dsimp only
  rw [missing]
  rfl

end Fields.Refuses

/-! ## Values -/

namespace Decoder

variable {α : Type} {type : String} {decode : Decoder α} {rest : List (Decoder α)} {value : Json}
  {a : α}

theorem firstOf_cons_of_ok (read : decode value = .ok a) :
    firstOf type (decode :: rest) value = .ok a := by
  rw [firstOf, read]

theorem firstOf_cons_of_error (refused : ∃ fault, decode value = .error fault)
    (read : firstOf type rest value = .ok a) : firstOf type (decode :: rest) value = .ok a := by
  obtain ⟨fault, refused⟩ := refused
  rw [firstOf, refused]
  exact read

theorem shaped_eq_error {name : String} {own : Fields (Shaping → α)} {members : Members}
    (refused : own.Refuses members) : ∃ fault, shaped name own (.object members) = .error fault := by
  obtain ⟨fault, refused⟩ := refused
  rw [shaped, refused]
  exact ⟨_, rfl⟩

end Decoder

namespace Decoder.Restores

theorem text : Restores text .string :=
  ⟨fun _ => rfl, fun _ => Json.noConfusion⟩

theorem flag : Restores flag .bool :=
  ⟨fun _ => rfl, fun _ => Json.noConfusion⟩

variable {α β : Type} {decode : Decoder α} {encode : α → Json}

theorem list (law : Restores decode encode) :
    Restores (list decode) fun values => .array (values.map encode) := by
  refine ⟨fun values => ?_, fun _ => Json.noConfusion⟩
  change (values.map encode).mapM decode = .ok values
  induction values with
  | nil => rfl
  | cons first rest ih =>
      rw [List.map_cons, List.mapM_cons, law.read, ih]
      rfl

theorem texts : Restores (Decoder.list Decoder.text) Json.texts :=
  text.list

/-- A record comes back if its fields do. -/
theorem record {name : String} {fields : Fields α} {members : α → Members}
    (read : ∀ a, fields.Read (members a) a) :
    Restores (record name fields) fun a => .object (members a) := by
  refine ⟨fun a => ?_, fun _ => Json.noConfusion⟩
  rw [Decoder.record, Decoder.objectRecord, read a]
  · rfl
  · exact fun _ => Json.noConfusion

theorem countedRecord {name : String} {fields : Fields α}
    (law : Restores (Decoder.record name fields) encode) :
    Restores (Decoder.countedRecord name fields) encode := by
  refine ⟨fun a => ?_, law.present⟩
  rw [Decoder.countedRecord, law.read]

/-- A record with settings beside its own fields comes back if both parts do. -/
theorem shaped {name : String} {own : Fields (Shaping → α)} {members : α → Members}
    (build : α → Shaping → α) (shaping : α → Shaping) (built : ∀ a, build a (shaping a) = a)
    (first : ∀ a, own.Read (members a) (build a))
    (second : ∀ a, (Shaping.fields Decoder.countedRecord).Read (members a) (shaping a)) :
    Restores (shaped name own) fun a => .object (members a) := by
  refine ⟨fun a => ?_, fun _ => Json.noConfusion⟩
  rw [Decoder.shaped, first a, second a]
  exact congrArg Except.ok (built a)

end Decoder.Restores

theorem Fields.Read.texts {name : String} {members : Members} {values : List String}
    (found : Fields.under [name] members = Json.textsMember name values) :
    (Fields.defaulted name [] (Decoder.list Decoder.text)).Read members values := by
  cases values with
  | nil => exact leftOut found
  | cons first rest => exact defaulted .texts found

theorem Fields.Read.text {name : String} {members : Members} {value : Option String}
    (found : Fields.under [name] members = Json.textMember name value) :
    (Fields.omissible name Decoder.text).Read members value := by
  apply omissible Decoder.Restores.text
  rw [found]
  cases value <;> rfl

/-! ## Configurations -/

open Decoder (Restores)

theorem Input.restores : Restores Input.decode Input.encode := by
  constructor
  · intro input
    cases input <;> rfl
  · intro input
    cases input <;> exact Json.noConfusion

theorem InputOption.restores : Restores InputOption.decode InputOption.encode := by
  constructor
  · intro input
    cases input with
    | shorthand uri => rfl
    | described input => cases input <;> rfl
  · intro input
    cases input with
    | shorthand uri => exact Json.noConfusion
    | described input => exact Input.restores.present input

theorem Switch.restores : Restores Switch.decode Switch.encode := by
  constructor
  · intro switch
    cases switch <;> rfl
  · intro switch
    cases switch <;> exact Json.noConfusion

theorem OutputPaths.restores : Restores OutputPaths.decode OutputPaths.encode := by
  apply Restores.record
  intro output
  apply Fields.Read.closed
  · refine .seq (.map _ (.omissible .text ?_)) (.omissible Switch.restores ?_)
    · simp
    · simp
  · intro entry member
    have key : entry.1 = "main" ∨ entry.1 = "type" := by
      rcases List.mem_append.mp member with main | typings
      · exact .inl (Json.key_of_mem_optionalMember main)
      · exact .inr (Json.key_of_mem_optionalMember typings)
    rcases key with main | typings
    · rw [main]
      decide
    · rw [typings]
      decide

theorem ImportModules.restores :
    Restores (Decoder.countedRecord "ImportOverrides" ImportModules.fields)
      ImportModules.encode := by
  apply Restores.countedRecord
  apply Restores.record
  intro imports
  refine .seq (.map _ (.omissible .text ?_)) (.omissible .text ?_)
  · simp
  · simp

theorem ResponseShape.restores : Restores ResponseShape.decode ResponseShape.encode := by
  constructor
  · intro shape
    cases shape with
    | inferred infer => rfl
    | detailed wrapper infer =>
        have detailed : (ResponseShape.detailed <$> Fields.omissible "generic" Decoder.text <*>
            Fields.omissible "infer" Decoder.text).Read
              (Json.optionalMember "generic" .string wrapper ++
                Json.optionalMember "infer" .string infer) (.detailed wrapper infer) := by
          refine .seq (.map _ (.omissible .text ?_)) (.omissible .text ?_)
          · simp
          · simp
        apply Decoder.firstOf_cons_of_error
        · exact ⟨_, rfl⟩
        · apply Decoder.firstOf_cons_of_ok
          rw [encode, Decoder.objectRecord, detailed]
          rfl
  · intro shape
    cases shape <;> exact Json.noConfusion

/-- Settings are read from wherever their members are. -/
theorem Shaping.read {shaping : Shaping} {members : Members}
    (same : ∀ key ∈ ["baseURL", "import", "responseType", "paramsPartial"],
      Fields.under [key] members = Fields.under [key] shaping.members) :
    (Shaping.fields Decoder.countedRecord).Read members shaping := by
  simp only [Shaping.members, List.forall_mem_cons] at same
  obtain ⟨baseUrl, imports, responses, allOptional, -⟩ := same
  refine .seq (.seq (.seq (.map _ (.omissible Switch.restores ?_))
    (.omissible ImportModules.restores ?_)) (.omissible ResponseShape.restores ?_))
    (.omissible .flag ?_)
  · simp [baseUrl]
  · simp [imports]
  · simp [responses]
  · simp [allOptional]

theorem Config.restores : Restores Config.decode Config.encode := by
  apply Restores.shaped (fun config shaping => { config with shaping := shaping }) Config.shaping
    fun _ => rfl
  · intro config
    refine .seq (.seq (.map _ (.omissible InputOption.restores ?_))
      (.defaulted OutputPaths.restores ?_)) (.omissible .text ?_)
    · simp [Shaping.members]
    · simp [Shaping.members]
    · simp [Shaping.members]
  · intro config
    apply Shaping.read
    simp [Shaping.members]

theorem ServerList.restores : Restores ServerList.decode ServerList.encode := by
  apply Restores.shaped (fun list shaping => { list with shaping := shaping }) ServerList.shaping
    fun _ => rfl
  · intro list
    refine .seq (.map _ (.omissible .text ?_)) (.required Config.restores.list ?_)
    · simp [Shaping.members]
    · simp [Shaping.members]
  · intro list
    apply Shaping.read
    simp [Shaping.members]

/-- A single configuration has no list of servers, so it is not read as several. -/
theorem ServerList.decode_encode_config (config : Config) :
    ∃ fault, ServerList.decode config.encode = .error fault := by
  apply Decoder.shaped_eq_error
  apply Fields.Refuses.seq
  apply Fields.Refuses.required
  simp [Shaping.members]

theorem RunPlan.restores : Restores RunPlan.decode RunPlan.encode := by
  constructor
  · intro plan
    cases plan with
    | servers list =>
        apply Decoder.firstOf_cons_of_ok
        rw [encode, ServerList.restores.read]
        rfl
    | single config =>
        apply Decoder.firstOf_cons_of_error
        · obtain ⟨fault, refused⟩ := ServerList.decode_encode_config config
          rw [encode, refused]
          exact ⟨fault, rfl⟩
        · apply Decoder.firstOf_cons_of_ok
          rw [encode, Config.restores.read]
          rfl
  · intro plan
    cases plan with
    | servers list => exact ServerList.restores.present list
    | single config => exact Config.restores.present config

/-! ## Graphs -/

namespace Graph

theorem Field.restores : Restores Field.decode Field.encode := by
  apply Restores.record
  intro field
  refine .seq (.seq (.seq (.map _ (.required .text ?_)) (.text ?_)) (.defaulted .flag ?_)) (.texts ?_)
  all_goals simp

theorem Function.restores : Restores Function.decode Function.encode := by
  apply Restores.record
  intro function
  refine .seq (.seq (.seq (.seq (.seq (.map _ (.required .text ?_)) (.texts ?_))
    (.defaulted Field.restores.list ?_)) (.text ?_)) (.defaulted .texts ?_)) (.defaulted .flag ?_)
  all_goals simp

theorem Import.restores : Restores Import.decode Import.encode := by
  apply Restores.record
  intro imported
  refine .seq (.seq (.seq (.seq (.map _ (.text ?_)) (.required .text ?_)) (.texts ?_))
    (.defaulted .flag ?_)) (.defaulted .flag ?_)
  all_goals simp

theorem VariableKind.restores :
    Restores VariableKind.decode fun kind => .string kind.word := by
  constructor
  · intro kind
    cases kind <;> rfl
  · exact fun _ => Json.noConfusion

theorem Variable.restores : Restores Variable.decode Variable.encode := by
  apply Restores.record
  intro declared
  refine .seq (.seq (.seq (.map _ (.defaulted VariableKind.restores ?_)) (.required .text ?_))
    (.text ?_)) (.defaulted .flag ?_)
  all_goals simp

theorem Alias.restores : Restores Alias.decode Alias.encode := by
  apply Restores.record
  intro declared
  refine .seq (.seq (.seq (.map _ (.required .text ?_)) (.required .text ?_))
    (.defaulted .flag ?_)) (.texts ?_)
  all_goals simp

theorem Interface.restores : Restores Interface.decode Interface.encode := by
  apply Restores.record
  intro declared
  refine .seq (.seq (.seq (.map _ (.required .text ?_)) (.defaulted Field.restores.list ?_))
    (.defaulted .flag ?_)) (.texts ?_)
  all_goals simp

theorem Envelope.restores : Restores Envelope.decode Envelope.encode := by
  apply Restores.record
  intro envelope
  refine .seq (.seq (.map _ (.required .text ?_)) (.text ?_)) (.text ?_)
  all_goals simp

theorem restores : Restores decode encode := by
  apply Restores.record
  intro graph
  refine .seq (.seq (.seq (.seq (.seq (.seq (.map _ (.required .texts ?_))
    (.required Function.restores.list ?_)) (.required Import.restores.list ?_))
    (.required Variable.restores.list ?_)) (.required Alias.restores.list ?_))
    (.required Interface.restores.list ?_)) (.required Envelope.restores ?_)
  all_goals simp

end Graph

/-- Reading a written run plan, configuration, input or graph gives it back. -/
theorem decode_encode :
    (∀ plan : RunPlan, RunPlan.decode plan.encode = .ok plan) ∧
      (∀ config : Config, Config.decode config.encode = .ok config) ∧
      (∀ input : Input, Input.decode input.encode = .ok input) ∧
      ∀ graph : Graph, Graph.decode graph.encode = .ok graph :=
  ⟨RunPlan.restores.read, Config.restores.read, Input.restores.read, Graph.restores.read⟩

end ClientGen
