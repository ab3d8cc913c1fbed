import ClientGen.Proofs.Course
import ClientGen.Proofs.RecordReading
import ClientGen.Proofs.Registration
import ClientGen.Proofs.Resolving

/-!
# Loading a manifest

The value that the text of a manifest stands for, and the registry, decide what is loaded. The main
statement goes through all values: which of them give a pipeline, which pipeline that is, and what
is said about every other.
-/

namespace ClientGen

/-! ## Tasks -/

namespace Task

variable {α β : Type} {task : Task α} {f : α → Task β} {world after : World}

theorem runIn_bind_of_ok {a : α} (ended : task.runIn world = (.ok a, after)) :
    (task >>= f).runIn world = (f a).runIn after := by
  rw [runIn_bind, ended]
  rfl

theorem runIn_bind_of_error {failure : Failure}
    (ended : task.runIn world = (.error failure, after)) :
    (task >>= f).runIn world = (.error failure, after) := by
  rw [runIn_bind, ended]
  rfl

theorem runIn_lift {script : Script α} {a : α} (ended : script.run world = (a, after)) :
    runIn (ExceptT.lift script) world = (.ok a, after) := by
  have opened : runIn (ExceptT.lift script) world =
      (Script.done (.ok (script.run world).1)).run (script.run world).2 := Script.run_bind _ _ _
  rw [opened, ended]
  rfl

end Task

/-! ## What a manifest says -/

namespace Manifest

/-- The members that a value says something with: those of the object under `default` if there is
one, else its own without `default`. -/
inductive IsBody : Json → Members → Prop where
  | inner {members body : Members} (inside : Json.lookup "default" members = some (.object body)) :
      IsBody (.object members) body
  | outer {members : Members}
      (plain : ∀ body, Json.lookup "default" members ≠ some (.object body)) :
      IsBody (.object members) (Json.erase "default" members)

/-- The keys under which the handler for a stage is named. -/
def keys : Stage → List String
  | .readConfig => ["read_config", "readConfig"]
  | stage => [stage.name]

/-- Members that a manifest can have: each is a text or `null` under a known key, no key is there
twice, and the first stage has one of its keys only. -/
structure WellFormed (body : Members) : Prop where
  known : ∀ entry ∈ body, entry.1 ∈ memberNames
  texts : ∀ entry ∈ body, entry.2 = .null ∨ ∃ text, entry.2 = .string text
  distinct : (body.map Prod.fst).Nodup
  oneSpelling : ∀ snake camel, ("read_config", snake) ∈ body → ("readConfig", camel) ∉ body

/-- A handler is named for a stage. -/
def Selects (body : Members) (stage : Stage) (name : String) : Prop :=
  ∃ key ∈ keys stage, (key, .string name) ∈ body

end Manifest

/-! ## Reading choices -/

namespace Fields

variable {α : Type} {fields : Fields α} {known names : List String} {members : Members} {a : α}

theorem read_closed_iff :
    (fields.closed known).Read members a ↔
      fields.Read members a ∧ ∀ entry ∈ members, entry.1 ∈ fields.keys := by
  constructor
  · intro read
    rw [Read, closed] at read
    dsimp only at read
    split at read
    · rename_i given none
      cases read
      refine ⟨given, fun entry listed => ?_⟩
      have known := List.filterMap_eq_nil_iff.mp none entry listed
      by_contra unknown
      simp [unknown] at known
    · cases read
    · cases read
  · rintro ⟨read, known⟩
    exact read.closed fun entry listed => List.contains_iff_mem.mpr (known entry listed)

theorem mem_under_iff {entry : String × Json} :
    entry ∈ under names members ↔ entry ∈ members ∧ entry.1 ∈ names := by
  rw [under, List.mem_filter, List.contains_iff_mem]

theorem eq_of_length_le_one {entries : List α} {first second : α} (short : entries.length ≤ 1)
    (atFirst : first ∈ entries) (atSecond : second ∈ entries) : first = second := by
  match entries, short with
  | [], _ => cases atFirst
  | [_], _ => exact (List.mem_singleton.mp atFirst).trans (List.mem_singleton.mp atSecond).symm

theorem count_key_le {name : String} (named : name ∈ names) :
    (members.map Prod.fst).count name ≤ (under names members).length :=
  calc (members.map Prod.fst).count name
      = members.countP fun entry => entry.1 == name := List.countP_map
    _ ≤ members.countP fun entry => names.contains entry.1 := by
        apply List.countP_mono_left
        intro entry _ same
        rw [eq_of_beq same]
        exact List.contains_iff_mem.mpr named
    _ = (under names members).length := List.countP_eq_length_filter

theorem length_under_le_one (distinct : (members.map Prod.fst).Nodup)
    (same : ∀ first ∈ under names members, ∀ second ∈ under names members,
      first.1 = second.1) : (under names members).length ≤ 1 := by
  have nodup : ((under names members).map Prod.fst).Nodup :=
    distinct.sublist (List.filter_sublist.map _)
  match found : under names members with
  | [] => exact Nat.zero_le 1
  | [_] => exact Nat.le_refl 1
  | first :: second :: rest =>
      rw [found] at same nodup
      have equal := same first (.head _) second (.tail _ (.head _))
      rw [List.map_cons, List.map_cons, equal] at nodup
      exact absurd List.mem_cons_self (List.nodup_cons.mp nodup).1

end Fields

namespace Manifest

/-- A text that can be left out or be `null`, under one of some names. -/
def choice (names : List String) : Fields (Option String) :=
  Fields.field names (some none) (some none) (Decoder.optional Decoder.text)

variable {names : List String} {members body : Members} {chosen : Option String}

theorem optional_text_eq_ok_iff {value : Json} :
    Decoder.optional Decoder.text value = .ok chosen ↔ value = chosen.elim .null .string := by
  cases value <;> cases chosen <;>
    simp [Decoder.optional, Decoder.text, Decoder.reject, Except.map]

theorem read_choice_iff :
    (choice names).Read members chosen ↔
      Fields.under names members = [] ∧ chosen = none ∨
        ∃ key, Fields.under names members = [(key, chosen.elim .null .string)] := by
  rw [Fields.Read, choice, Fields.field]
  dsimp only
  rcases Fields.under names members with _ | ⟨⟨key, value⟩, _ | ⟨⟨_, _⟩, _⟩⟩
  · simp [eq_comm]
  · have decoded : Decoder.optional Decoder.text value = .ok chosen ↔
        value = chosen.elim .null .string := optional_text_eq_ok_iff
    cases outcome : Decoder.optional Decoder.text value <;> simp_all
  · cases outcome : Decoder.optional Decoder.text value <;> simp [outcome]

/-- What is chosen is the text under one of the names. -/
theorem choice_eq_some_iff (read : (choice names).Read members chosen) {text : String} :
    chosen = some text ↔ ∃ key ∈ names, (key, .string text) ∈ members := by
  have found : (∃ key ∈ names, (key, Json.string text) ∈ members) ↔
      ∃ key, (key, Json.string text) ∈ Fields.under names members := by
    simp only [Fields.mem_under_iff, and_comm]
  rw [found]
  rcases read_choice_iff.mp read with ⟨nothing, rfl⟩ | ⟨key, one⟩
  · simp [nothing]
  · rw [one]
    cases chosen <;> simp [eq_comm]

/-- A choice can be read from at most one member, which is a text or `null`. -/
theorem exists_read_choice_iff :
    (∃ chosen, (choice names).Read members chosen) ↔
      (∀ entry ∈ Fields.under names members,
        entry.2 = .null ∨ ∃ text, entry.2 = .string text) ∧
      (Fields.under names members).length ≤ 1 := by
  constructor
  · rintro ⟨chosen, read⟩
    rcases read_choice_iff.mp read with ⟨nothing, -⟩ | ⟨key, one⟩
    · simp [nothing]
    · rw [one]
      cases chosen <;> simp
  · rintro ⟨texts, single⟩
    match found : Fields.under names members with
    | [] => exact ⟨none, read_choice_iff.mpr (.inl ⟨found, rfl⟩)⟩
    | [(key, value)] =>
        rw [found] at texts
        rcases texts _ (.head _) with rfl | ⟨text, rfl⟩
        · exact ⟨none, read_choice_iff.mpr (.inr ⟨key, found⟩)⟩
        · exact ⟨some text, read_choice_iff.mpr (.inr ⟨key, found⟩)⟩
    | _ :: _ :: _ =>
        rw [found] at single
        simp at single

/-! ## Reading a manifest -/

theorem read_fields_iff {manifest : Manifest} :
    fields.Read members manifest ↔ (choice ["name"]).Read members manifest.name ∧
      ∀ stage, (choice (keys stage)).Read members (manifest.selection stage) := by
  have all : fields = Manifest.mk <$> choice ["name"] <*> choice (keys .readConfig) <*>
      choice (keys .source) <*> choice (keys .parser) <*> choice (keys .compiler) <*>
      choice (keys .generate) <*> choice (keys .dest) := rfl
  rw [all]
  simp only [Fields.read_seq_iff, Fields.read_map_iff]
  constructor
  · rintro ⟨_, dest, ⟨_, generate, ⟨_, compiler, ⟨_, parser, ⟨_, source, ⟨_, readConfig,
      ⟨name, named, rfl⟩, atReadConfig, rfl⟩, atSource, rfl⟩, atParser, rfl⟩, atCompiler, rfl⟩,
      atGenerate, rfl⟩, atDest, rfl⟩
    refine ⟨named, fun stage => ?_⟩
    cases stage <;> assumption
  · rintro ⟨named, stages⟩
    exact ⟨_, _, ⟨_, _, ⟨_, _, ⟨_, _, ⟨_, _, ⟨_, _, ⟨_, named, rfl⟩, stages .readConfig, rfl⟩,
      stages .source, rfl⟩, stages .parser, rfl⟩, stages .compiler, rfl⟩, stages .generate, rfl⟩,
      stages .dest, rfl⟩

theorem mem_memberNames_iff {key : String} :
    key ∈ memberNames ↔ key = "name" ∨ ∃ stage, key ∈ keys stage := by
  constructor
  · have covered : ∀ key ∈ memberNames, key = "name" ∨ ∃ stage ∈ Stage.all, key ∈ keys stage := by
      decide
    intro listed
    exact (covered key listed).imp_right fun ⟨stage, _, names⟩ => ⟨stage, names⟩
  · rintro (rfl | ⟨stage, names⟩)
    · decide
    · have all : ∀ key ∈ keys stage, key ∈ memberNames := by
        cases stage <;> decide
      exact all key names

theorem decode_eq_ok_iff {manifest : Manifest} :
    decode (.object body) = .ok manifest ↔
      (∀ entry ∈ body, entry.1 ∈ memberNames) ∧
      (choice ["name"]).Read body manifest.name ∧
      ∀ stage, (choice (keys stage)).Read body (manifest.selection stage) := by
  have same (key : String) : key ∈ fields.keys ↔ key ∈ memberNames := by
    have all : fields.keys = ["name", "read_config", "readConfig", "original", "parser",
        "compiler", "generate", "dest"] := rfl
    simp only [all, memberNames, List.mem_cons]
    tauto
  rw [decode, Decoder.record_eq_ok_iff, Fields.read_closed_iff, read_fields_iff, and_comm]
  simp only [same]

/-- Members that are read are well-formed: each is under the names of a choice, and a choice is read
from one member at most. -/
theorem wellFormed_of_decode {manifest : Manifest}
    (read : decode (.object body) = .ok manifest) : WellFormed body := by
  obtain ⟨known, named, stages⟩ := decode_eq_ok_iff.mp read
  have choices : ∀ names, names = ["name"] ∨ (∃ stage, names = keys stage) →
      (∀ entry ∈ Fields.under names body,
        entry.2 = .null ∨ ∃ text, entry.2 = .string text) ∧
      (Fields.under names body).length ≤ 1 := by
    rintro names (rfl | ⟨stage, rfl⟩)
    · exact exists_read_choice_iff.mp ⟨_, named⟩
    · exact exists_read_choice_iff.mp ⟨_, stages stage⟩
  -- Every member is under one of those names, since its key is known.
  have grouped : ∀ entry ∈ body, ∃ names,
      (names = ["name"] ∨ ∃ stage, names = keys stage) ∧ entry.1 ∈ names := by
    intro entry listed
    rcases mem_memberNames_iff.mp (known entry listed) with same | ⟨stage, under⟩
    · exact ⟨_, .inl rfl, List.mem_singleton.mpr same⟩
    · exact ⟨_, .inr ⟨stage, rfl⟩, under⟩
  constructor
  · exact known
  · intro entry listed
    obtain ⟨names, group, under⟩ := grouped entry listed
    exact (choices names group).1 entry (Fields.mem_under_iff.mpr ⟨listed, under⟩)
  · rw [List.nodup_iff_count_le_one]
    intro key
    by_cases used : key ∈ body.map Prod.fst
    · obtain ⟨entry, listed, rfl⟩ := List.mem_map.mp used
      obtain ⟨names, group, under⟩ := grouped entry listed
      exact (Fields.count_key_le under).trans (choices names group).2
    · rw [List.count_eq_zero_of_not_mem used]
      exact Nat.zero_le 1
  · intro snake camel first second
    have single := (choices _ (.inr ⟨.readConfig, rfl⟩)).2
    have atFirst : ("read_config", snake) ∈ Fields.under (keys .readConfig) body :=
      Fields.mem_under_iff.mpr ⟨first, .head _⟩
    have atSecond : ("readConfig", camel) ∈ Fields.under (keys .readConfig) body :=
      Fields.mem_under_iff.mpr ⟨second, .tail _ (.head _)⟩
    have same := Fields.eq_of_length_le_one single atFirst atSecond
    simp at same

theorem exists_decode_iff :
    (∃ manifest, decode (.object body) = .ok manifest) ↔ WellFormed body := by
  constructor
  · rintro ⟨manifest, read⟩
    exact wellFormed_of_decode read
  · intro wellFormed
    have readable (names : List String)
        (same : ∀ first ∈ Fields.under names body, ∀ second ∈ Fields.under names body,
          first.1 = second.1) : ∃ chosen, (choice names).Read body chosen :=
      exists_read_choice_iff.mpr
        ⟨fun entry listed => wellFormed.texts entry (Fields.mem_under_iff.mp listed).1,
          Fields.length_under_le_one wellFormed.distinct same⟩
    have single (name : String) : ∃ chosen, (choice [name]).Read body chosen := by
      apply readable
      intro first underFirst second underSecond
      rw [Fields.key_of_mem_under underFirst, Fields.key_of_mem_under underSecond]
    have twice : ∃ chosen, (choice (keys .readConfig)).Read body chosen := by
      apply readable
      rintro ⟨first, snake⟩ underFirst ⟨second, camel⟩ underSecond
      obtain ⟨atFirst, isFirst⟩ := Fields.mem_under_iff.mp underFirst
      obtain ⟨atSecond, isSecond⟩ := Fields.mem_under_iff.mp underSecond
      simp only [keys, List.mem_cons, List.not_mem_nil, or_false] at isFirst isSecond
      rcases isFirst with rfl | rfl <;> rcases isSecond with rfl | rfl
      · rfl
      · exact absurd atSecond (wellFormed.oneSpelling _ _ atFirst)
      · exact absurd atFirst (wellFormed.oneSpelling _ _ atSecond)
      · rfl
    obtain ⟨name, named⟩ := single "name"
    obtain ⟨readConfig, atReadConfig⟩ := twice
    obtain ⟨source, atSource⟩ := single Stage.source.name
    obtain ⟨parser, atParser⟩ := single Stage.parser.name
    obtain ⟨compiler, atCompiler⟩ := single Stage.compiler.name
    obtain ⟨generate, atGenerate⟩ := single Stage.generate.name
    obtain ⟨dest, atDest⟩ := single Stage.dest.name
    refine ⟨⟨name, readConfig, source, parser, compiler, generate, dest⟩,
      decode_eq_ok_iff.mpr ⟨wellFormed.known, named, fun stage => ?_⟩⟩
    cases stage <;> assumption

/-- A manifest that is read names the handlers that its members select. -/
theorem selection_eq_some_iff {manifest : Manifest}
    (read : decode (.object body) = .ok manifest) {stage : Stage} {name : String} :
    manifest.selection stage = some name ↔ Selects body stage name :=
  choice_eq_some_iff ((decode_eq_ok_iff.mp read).2.2 stage)

theorem name_eq_some_iff {manifest : Manifest}
    (read : decode (.object body) = .ok manifest) {name : String} :
    manifest.name = some name ↔ ("name", .string name) ∈ body := by
  rw [choice_eq_some_iff (decode_eq_ok_iff.mp read).2.1]
  simp

/-! ## The body of a value -/

theorem ofJson_of_isBody {value : Json} (inside : IsBody value body) :
    ofJson value = (decode (.object body)).mapError .malformed := by
  cases inside with
  | inner inside => simp only [ofJson, inside]
  | outer plain =>
      rw [ofJson]
      split
      · rename_i body inside
        exact absurd inside (plain body)
      · rfl

theorem isBody_or_ofJson_eq_error (value : Json) :
    (∃ body, IsBody value body) ∨
      (∀ body, ¬ IsBody value body) ∧ ofJson value = .error .notTable := by
  cases value with
  | object members =>
      left
      by_cases inside : ∃ body, Json.lookup "default" members = some (.object body)
      · obtain ⟨body, inside⟩ := inside
        exact ⟨body, .inner inside⟩
      · exact ⟨_, .outer fun body found => inside ⟨body, found⟩⟩
  | _ => exact .inr ⟨nofun, rfl⟩

theorem IsBody.unique {value : Json} {other : Members} (first : IsBody value body)
    (second : IsBody value other) : body = other := by
  cases first with
  | inner inside =>
      cases second with
      | inner same => exact Json.object.inj (Option.some.inj (inside.symm.trans same))
      | outer plain => exact absurd inside (plain body)
  | outer plain =>
      cases second with
      | inner inside => exact absurd inside (plain other)
      | outer _ => rfl

end Manifest

/-! ## Assembling -/

namespace Assembly

/-- The handler that a pipeline in the making has for a stage. -/
def handler? (assembly : Assembly) : Stage → Option Handler
  | .readConfig => assembly.readConfig.map .readConfig
  | .source => assembly.source.map .flow
  | .parser => assembly.parser.map .flow
  | .compiler => assembly.compiler.map .flow
  | .generate => assembly.generate.map .flow
  | .dest => assembly.dest.map .dest

@[simp]
theorem handler?_new (name : String) (stage : Stage) : (new name).handler? stage = none := by
  cases stage <;> rfl

theorem provides_eq_isSome (assembly : Assembly) (stage : Stage) :
    assembly.provides stage = (assembly.handler? stage).isSome := by
  cases stage <;> simp [provides, handler?]

variable {assembly next : Assembly} {stage : Stage} {handler : Handler}

/-- A handler that is plugged in serves its stage, and everything else stays. -/
theorem handler?_of_withStage (taken : assembly.withStage stage handler = .ok next)
    (other : Stage) :
    next.handler? other = if stage = other then some handler else assembly.handler? other := by
  cases stage <;> cases handler <;> cases taken <;> cases other <;> rfl

theorem name_of_withStage (taken : assembly.withStage stage handler = .ok next) :
    next.name = assembly.name := by
  cases stage <;> cases handler <;> cases taken <;> rfl

theorem mem_provided_iff (assembly : Assembly) (stage : Stage) :
    stage ∈ assembly.provided ↔ ∃ handler, assembly.handler? stage = some handler := by
  rw [provided, List.mem_filter, provides_eq_isSome, Option.isSome_iff_exists]
  exact and_iff_right stage.mem_all

end Assembly

namespace Manifest

/-- The handler of a catalogue that a manifest names for a stage. -/
def handler? (manifest : Manifest) (registry : Registry) (stage : Stage) : Option Handler :=
  (manifest.selection stage).bind (registry.handler? stage)

/-- Every handler that a manifest names for some stages is in a catalogue. -/
def Known (manifest : Manifest) (registry : Registry) (stages : List Stage) : Prop :=
  ∀ stage ∈ stages, ∀ name, manifest.selection stage = some name →
    ∃ handler, registry.handler? stage name = some handler

section Assembling

variable {registry : Registry} {manifest : Manifest} {stage : Stage} {rest : List Stage}

/-- One stage for which nothing is named, or something that is known: it is plugged in, and the
other stages stay as they are. -/
theorem assembleFrom_cons_of_known (fitting : registry.Fitting)
    (known : manifest.Known registry [stage]) (rest : List Stage) (assembly : Assembly) :
    ∃ next, manifest.assembleFrom registry (stage :: rest) assembly =
        manifest.assembleFrom registry rest next ∧ next.name = assembly.name ∧
      ∀ other, next.handler? other =
        (if stage = other then manifest.handler? registry stage else none).or
          (assembly.handler? other) := by
  cases selected : manifest.selection stage with
  | none =>
      refine ⟨assembly, ?_, rfl, fun other => ?_⟩
      · rw [assembleFrom, selected]
      · simp [handler?, selected]
  | some name =>
      obtain ⟨handler, found⟩ := known stage (.head _) name selected
      obtain ⟨next, taken⟩ := fitting.exists_withStage found assembly
      refine ⟨next, ?_, Assembly.name_of_withStage taken, fun other => ?_⟩
      · simp only [assembleFrom, selected, found, taken]
      · rw [Assembly.handler?_of_withStage taken, handler?, selected, Option.bind_some, found]
        split <;> rfl

theorem assembleFrom_cons_of_unknown {name : String}
    (selected : manifest.selection stage = some name)
    (unknown : registry.handler? stage name = none) (assembly : Assembly) :
    manifest.assembleFrom registry (stage :: rest) assembly =
      .error (.unknownStage stage name (registry.handlerNames stage)) := by
  simp only [assembleFrom, selected, unknown]

theorem known_cons_iff : manifest.Known registry (stage :: rest) ↔
    manifest.Known registry [stage] ∧ manifest.Known registry rest := by
  simp only [Known, List.forall_mem_cons, List.not_mem_nil, false_imp_iff, implies_true, and_true]

theorem known_or_exists_unknown (manifest : Manifest) (registry : Registry) (stage : Stage) :
    manifest.Known registry [stage] ∨
      ∃ name, manifest.selection stage = some name ∧ registry.handler? stage name = none := by
  by_cases unknown :
      ∃ name, manifest.selection stage = some name ∧ registry.handler? stage name = none
  · exact .inr unknown
  · refine .inl fun other listed name selected => ?_
    obtain rfl := List.mem_singleton.mp listed
    exact Option.ne_none_iff_exists'.mp fun missing => unknown ⟨name, selected, missing⟩

/-- Assembling goes through the stages in order: it plugs in what is named for each, up to the
first stage for which something unknown is named. -/
theorem assembleFrom_cases (fitting : registry.Fitting) (manifest : Manifest)
    (stages : List Stage) (assembly : Assembly) :
    (manifest.Known registry stages ∧
      ∃ made, manifest.assembleFrom registry stages assembly = .ok made ∧
        made.name = assembly.name ∧ ∀ stage, made.handler? stage =
          (if stage ∈ stages then manifest.handler? registry stage else none).or
            (assembly.handler? stage)) ∨
    ∃ before stage after name, stages = before ++ stage :: after ∧
      manifest.Known registry before ∧ manifest.selection stage = some name ∧
      registry.handler? stage name = none ∧
      manifest.assembleFrom registry stages assembly =
        .error (.unknownStage stage name (registry.handlerNames stage)) := by
  induction stages generalizing assembly with
  | nil => exact .inl ⟨nofun, assembly, rfl, rfl, fun _ => rfl⟩
  | cons stage rest ih =>
      rcases known_or_exists_unknown manifest registry stage with known | ⟨name, selected, unknown⟩
      · obtain ⟨next, step, sameName, plugged⟩ :=
          assembleFrom_cons_of_known fitting known rest assembly
        rcases ih next with ⟨all, made, run, named, served⟩ |
          ⟨before, other, after, name, rfl, all, selected, unknown, refused⟩
        · refine .inl ⟨known_cons_iff.mpr ⟨known, all⟩, made, step.trans run,
            named.trans sameName, fun other => ?_⟩
          rw [served, plugged]
          by_cases same : stage = other
          · subst same
            by_cases again : stage ∈ rest <;> simp [again, ← Option.or_assoc]
          · simp [same, Ne.symm same]
        · exact .inr ⟨stage :: before, other, after, name, rfl, known_cons_iff.mpr ⟨known, all⟩,
            selected, unknown, step.trans refused⟩
      · exact .inr ⟨[], stage, rest, name, rfl, nofun, selected, unknown,
          assembleFrom_cons_of_unknown selected unknown assembly⟩

end Assembling

/-! ## What is decided -/

/-- A value and a registry give a pipeline: the body is well-formed, and all that it selects, which
is something, is in the catalogue. -/
structure Loadable (registry : Registry) (body : Members) : Prop where
  wellFormed : WellFormed body
  selects : ∃ stage name, Selects body stage name
  known : ∀ stage name, Selects body stage name →
    ∃ handler, registry.handler? stage name = some handler

/-- A pipeline is the one that a body describes. -/
structure Describes (registry : Registry) (path : Path) (body : Members) (made : Assembly) :
    Prop where
  ownName : ∀ name, ("name", .string name) ∈ body → made.name = name
  fileName : (∀ name, ("name", .string name) ∉ body) → path.stem? = some made.name
  handler : ∀ stage handler, made.handler? stage = some handler ↔
    ∃ name, Selects body stage name ∧ registry.handler? stage name = some handler
  provided : ∀ stage, stage ∈ made.provided ↔ ∃ name, Selects body stage name
  inOrder : made.provided.Sublist Stage.all

/-- What is selected for a stage is unknown, and for no stage before it. -/
structure FirstUnknown (registry : Registry) (body : Members) (stage : Stage) (name : String) :
    Prop where
  selects : Selects body stage name
  unknown : registry.handler? stage name = none
  first : ∀ earlier other, Selects body earlier other → earlier.position < stage.position →
    ∃ handler, registry.handler? earlier other = some handler

/-- What comes of a value: the pipeline that its body describes, or what is wrong with it. -/
inductive Verdict (registry : Registry) (path : Path) (value : Json) :
    Except ManifestFault Assembly → Prop where
  | loaded {body : Members} {made : Assembly} (inside : IsBody value body)
      (loadable : Loadable registry body) (describes : Describes registry path body made) :
      Verdict registry path value (.ok made)
  | notTable (outside : ∀ body, ¬ IsBody value body) :
      Verdict registry path value (.error .notTable)
  | malformed {body : Members} {reason : DecodeError} (inside : IsBody value body)
      (bad : ¬ WellFormed body) : Verdict registry path value (.error (.malformed reason))
  | noStages {body : Members} (inside : IsBody value body) (wellFormed : WellFormed body)
      (nothing : ∀ stage name, ¬ Selects body stage name) :
      Verdict registry path value (.error .noStages)
  | unknownStage {body : Members} {stage : Stage} {name : String} (inside : IsBody value body)
      (wellFormed : WellFormed body) (first : FirstUnknown registry body stage name) :
      Verdict registry path value
        (.error (.unknownStage stage name (registry.handlerNames stage)))

variable {registry : Registry} {path : Path} {value : Json}

theorem exists_stem {format : Format} (ofFormat : Format.ofPath? path = some format) :
    ∃ stem, path.stem? = some stem := by
  cases file : path.fileName? with
  | some name => exact ⟨_, congrArg (Option.map _) file⟩
  | none =>
      have plain : path.format = "" := by
        rw [Path.format, Path.extension?, file]
        rfl
      rw [Format.ofPath?, plain] at ofFormat
      cases ofFormat

/-- A pipeline comes exactly of the values that are objects with a loadable body. -/
theorem Verdict.exists_ok_iff {made : Except ManifestFault Assembly}
    (verdict : Verdict registry path value made) :
    (∃ assembly, made = .ok assembly) ↔ ∃ body, IsBody value body ∧ Loadable registry body := by
  cases verdict with
  | loaded inside loadable _ => exact ⟨fun _ => ⟨_, inside, loadable⟩, fun _ => ⟨_, rfl⟩⟩
  | notTable outside =>
      refine ⟨nofun, ?_⟩
      rintro ⟨body, inside, -⟩
      exact absurd inside (outside body)
  | malformed inside bad =>
      refine ⟨nofun, ?_⟩
      rintro ⟨body, same, loadable⟩
      exact absurd (inside.unique same ▸ loadable.wellFormed) bad
  | noStages inside _ nothing =>
      refine ⟨nofun, ?_⟩
      rintro ⟨body, same, loadable⟩
      obtain rfl := inside.unique same
      obtain ⟨stage, name, selected⟩ := loadable.selects
      exact absurd selected (nothing stage name)
  | unknownStage inside _ first =>
      refine ⟨nofun, ?_⟩
      rintro ⟨body, same, loadable⟩
      obtain rfl := inside.unique same
      obtain ⟨handler, found⟩ := loadable.known _ _ first.selects
      rw [first.unknown] at found
      cases found

theorem mem_before_of_position_lt {before after : List Stage} {stage earlier : Stage}
    (split : Stage.all = before ++ stage :: after) (place : earlier.position < stage.position) :
    earlier ∈ before := by
  have sorted : Stage.all.Pairwise fun a b => a.position < b.position := by decide
  rw [split, List.pairwise_append, List.pairwise_cons] at sorted
  have listed := earlier.mem_all
  rw [split] at listed
  rcases List.mem_append.mp listed with before | same | ⟨_, later⟩
  · exact before
  · exact absurd place (Nat.lt_irrefl _)
  · exact absurd place (Nat.lt_asymm (sorted.2.1.1 _ later))

theorem all_isNone_iff {manifest : Manifest} (read : decode (.object body) = .ok manifest) :
    (Stage.all.all fun stage => (manifest.selection stage).isNone) = true ↔
      ∀ stage name, ¬ Selects body stage name := by
  rw [List.all_eq_true]
  constructor
  · intro none stage name selected
    have missing := none stage stage.mem_all
    rw [(selection_eq_some_iff read).mpr selected] at missing
    cases missing
  · intro nothing stage _
    cases selected : manifest.selection stage with
    | none => rfl
    | some name => exact absurd ((selection_eq_some_iff read).mp selected) (nothing stage name)

theorem describes_of_served {manifest : Manifest} {made : Assembly} {format : Format}
    (ofFormat : Format.ofPath? path = some format) (read : decode (.object body) = .ok manifest)
    (known : manifest.Known registry Stage.all)
    (named : made.name = manifest.name.getD (path.stem?.getD "pipeline"))
    (served : ∀ stage, made.handler? stage = manifest.handler? registry stage) :
    Describes registry path body made := by
  have handler (stage : Stage) (handler : Handler) : made.handler? stage = some handler ↔
      ∃ name, Selects body stage name ∧ registry.handler? stage name = some handler := by
    rw [served, Manifest.handler?, Option.bind_eq_some_iff]
    simp only [selection_eq_some_iff read]
  constructor
  · intro name listed
    rw [named, (name_eq_some_iff read).mpr listed, Option.getD_some]
  · intro unnamed
    have none : manifest.name = none :=
      Option.eq_none_iff_forall_not_mem.mpr fun name own =>
        unnamed name ((name_eq_some_iff read).mp own)
    obtain ⟨stem, found⟩ := exists_stem ofFormat
    rw [named, none, found]
    rfl
  · exact handler
  · intro stage
    simp only [Assembly.mem_provided_iff, handler]
    constructor
    · rintro ⟨_, name, selected, _⟩
      exact ⟨name, selected⟩
    · rintro ⟨name, selected⟩
      obtain ⟨handler, found⟩ :=
        known stage stage.mem_all name ((selection_eq_some_iff read).mpr selected)
      exact ⟨handler, name, selected, found⟩
  · exact List.filter_sublist

theorem verdict_assemble {manifest : Manifest} {format : Format} (fitting : registry.Fitting)
    (ofFormat : Format.ofPath? path = some format) (inside : IsBody value body)
    (read : decode (.object body) = .ok manifest) :
    Verdict registry path value (manifest.assemble registry path) := by
  have wellFormed := wellFormed_of_decode read
  by_cases nothing : (Stage.all.all fun stage => (manifest.selection stage).isNone) = true
  · rw [assemble, if_pos nothing]
    exact .noStages inside wellFormed ((all_isNone_iff read).mp nothing)
  · have selects : ∃ stage name, Selects body stage name := by
      simpa only [all_isNone_iff read, not_forall, not_not] using nothing
    rw [assemble, if_neg nothing]
    rcases assembleFrom_cases fitting manifest Stage.all
        (Assembly.new (manifest.name.getD (path.stem?.getD "pipeline"))) with
      ⟨all, made, run, named, served⟩ |
        ⟨before, stage, after, name, split, all, selected, unknown, refused⟩
    · rw [run]
      refine .loaded inside ⟨wellFormed, selects, ?_⟩
        (describes_of_served ofFormat read all named ?_)
      · intro stage name selected
        exact all stage stage.mem_all name ((selection_eq_some_iff read).mpr selected)
      · intro stage
        rw [served, if_pos stage.mem_all, Assembly.handler?_new, Option.or_none]
    · rw [refused]
      refine .unknownStage inside wellFormed ⟨(selection_eq_some_iff read).mp selected, unknown, ?_⟩
      intro earlier other chosen place
      exact all earlier (mem_before_of_position_lt split place) other
        ((selection_eq_some_iff read).mpr chosen)

theorem verdict_ofJson {format : Format} (fitting : registry.Fitting)
    (ofFormat : Format.ofPath? path = some format) (value : Json) :
    Verdict registry path value
      ((ofJson value).bind fun manifest => manifest.assemble registry path) := by
  rcases isBody_or_ofJson_eq_error value with ⟨body, inside⟩ | ⟨outside, refused⟩
  · rw [ofJson_of_isBody inside]
    cases read : decode (.object body) with
    | ok manifest => exact verdict_assemble fitting ofFormat inside read
    | error reason =>
        refine .malformed inside fun wellFormed => ?_
        obtain ⟨manifest, same⟩ := exists_decode_iff.mpr wellFormed
        cases read.symm.trans same
  · rw [refused]
    exact .notTable outside

/-! ## Loading -/

def outcome (path : Path) : Except ManifestFault Assembly → Except Failure (Option Pipeline)
  | .ok made => .ok (some made.pipeline)
  | .error fault => .error (.malformedPipeline path fault)

theorem ofText_of_readValue {text : String} {format : Format}
    (ofFormat : Format.ofPath? path = some format) (read : readValue text format = .ok value) :
    ofText path text = ofJson value := by
  unfold ofText
  simp only [ofFormat, read]

theorem runIn_load {world : World} {text : String} (registry : Registry)
    (stored : world.files.readText path = .ok text) :
    (load registry path).runIn world =
      (outcome path ((ofText path text).bind fun manifest => manifest.assemble registry path),
        world) := by
  have asked : (Task.ask (.readText path)).runIn world = (.ok (.ok text), world) := by
    rw [← stored]
    rfl
  unfold load
  rw [Task.runIn_bind_of_ok asked]
  dsimp only
  cases (ofText path text).bind fun manifest => manifest.assemble registry path <;> rfl

end Manifest

/-! ## Resolving -/

def Cache.withLoaded (cache : Cache) (identifier : String) :
    Except ManifestFault Assembly → Cache
  | .ok made => (identifier, made.pipeline) :: cache
  | .error _ => cache

namespace Resolver

/-- An identifier leads to a manifest: nothing is kept for it or published as its package, and the
manifest is at its path. -/
structure LeadsTo (resolver : Resolver) (cache : Cache) (identifier : String) (world : World)
    (path : Path) : Prop where
  named : Text.isBlankText identifier = false
  unkept : cache.find? identifier = none
  unpublished : resolver.registry.pipeline? (packageName identifier) = none
  located : ((Manifest.locate (resolver.directory.join ⟨identifier⟩)).run world).1 = some path

variable {resolver : Resolver} {cache : Cache} {identifier : String} {world : World} {path : Path}

theorem runIn_load_of_leadsTo (leads : resolver.LeadsTo cache identifier world path)
    {ended : Except Failure (Option Pipeline)}
    (loaded : (Manifest.load resolver.registry path).runIn world = (ended, world)) :
    (resolver.load identifier).runIn world = (ended, world) := by
  have located : (Manifest.locate (resolver.directory.join ⟨identifier⟩)).run world =
      (some path, world) :=
    Prod.ext leads.located ((Manifest.reads_locate _).run world)
  have atPackage : (resolver.loadAt (.package (packageName identifier))).runIn world =
      (.ok none, world) := by
    rw [loadAt, leads.unpublished]
    rfl
  have atManifest :
      (resolver.loadAt (.manifest (resolver.directory.join ⟨identifier⟩))).runIn world =
        (ended, world) := by
    unfold loadAt
    rw [Task.runIn_bind_of_ok (Task.runIn_lift located)]
    exact loaded
  rw [load, candidates, if_neg (ne_true_of_eq_false leads.named)]
  unfold loadFirst
  rw [Task.runIn_bind_of_ok atPackage]
  unfold loadFirst
  rcases ended with failure | _ | pipeline
  · exact Task.runIn_bind_of_error atManifest
  · exact Task.runIn_bind_of_ok atManifest
  · exact Task.runIn_bind_of_ok atManifest

/-- Resolving ends as loading the manifest does, and keeps what it has loaded. -/
theorem run_resolve_of_leadsTo (leads : resolver.LeadsTo cache identifier world path)
    {made : Except ManifestFault Assembly}
    (loaded : (Manifest.load resolver.registry path).runIn world =
      (Manifest.outcome path made, world)) :
    (resolver.resolve cache identifier).run world =
      ((Manifest.outcome path made, cache.withLoaded identifier made), world) := by
  have ended := runIn_load_of_leadsTo leads loaded
  have opened (next : Except Failure (Option Pipeline) →
      Script (Except Failure (Option Pipeline) × Cache)) :
      ((resolver.load identifier).run >>= next).run world =
        (next ((resolver.load identifier).runIn world).1).run
          ((resolver.load identifier).runIn world).2 :=
    Script.run_bind _ next world
  unfold resolve
  rw [leads.unkept]
  dsimp only
  rw [opened, ended]
  cases made with
  | error fault => rfl
  | ok made =>
      have fresh : cache.keep identifier made.pipeline =
          (made.pipeline, (identifier, made.pipeline) :: cache) := by
        rw [Cache.keep, leads.unkept]
      simp only [Manifest.outcome, fresh]
      rfl

end Resolver

namespace Manifest

/-- The value in the text of a manifest and the registry, whatever calls have made it, decide how
loading ends. Resolving ends in the same way, and keeps nothing unless a pipeline is loaded. -/
theorem load_verdict (calls : List Registration) {world : World} {path : Path} {text : String}
    {format : Format} {value : Json} (stored : world.files.readText path = .ok text)
    (ofFormat : Format.ofPath? path = some format) (read : readValue text format = .ok value) :
    ∃ made, Verdict (Registry.built calls) path value made ∧
      ((∃ assembly, made = .ok assembly) ↔
        ∃ body, IsBody value body ∧ Loadable (Registry.built calls) body) ∧
      (load (Registry.built calls) path).runIn world = (outcome path made, world) ∧
      ∀ directory cache identifier,
        Resolver.LeadsTo ⟨Registry.built calls, directory⟩ cache identifier world path →
        (Resolver.resolve ⟨Registry.built calls, directory⟩ cache identifier).run world =
          ((outcome path made, cache.withLoaded identifier made), world) := by
  have verdict := verdict_ofJson (Registry.fitting_built calls) ofFormat value
  have loaded := runIn_load (Registry.built calls) stored
  rw [ofText_of_readValue ofFormat read] at loaded
  exact ⟨_, verdict, verdict.exists_ok_iff, loaded, fun _ _ _ leads =>
    Resolver.run_resolve_of_leadsTo leads loaded⟩

/-! A manifest that is read from a file. -/

namespace Plain

def calls : List Registration := [.handler .parser "plain" (.flow pure)]

def body : Members := [("parser", .string "plain")]

def value : Json := .object [("default", .object body), ("extra", .number (.integer 1))]

def text : String := "extra = 1\n\n[default]\nparser = \"plain\"\n"

def world : World :=
  match FileTree.empty.writeText ⟨"api.toml"⟩ text with
  | .ok files => ⟨files, []⟩
  | .error _ => ⟨.empty, []⟩

def isValue : Json → Bool
  | .object [("default", .object [("parser", .string "plain")]),
      ("extra", .number (.integer 1))] => true
  | _ => false

theorem eq_value_of_isValue {outcome : Except Text.ReadError Json}
    (recognised : outcome.toOption.any isValue = true) : outcome = .ok value := by
  cases outcome with
  | error reason => cases recognised
  | ok found =>
      change isValue found = true at recognised
      unfold isValue at recognised
      split at recognised
      · rfl
      · cases recognised

theorem readValue_text : readValue text .toml = .ok value :=
  eq_value_of_isValue (by decide +kernel)

theorem stored : world.files.readText ⟨"api.toml"⟩ = .ok text := by
  decide +kernel

theorem ofFormat : Format.ofPath? ⟨"api.toml"⟩ = some .toml := by
  decide +kernel

theorem selects_iff {stage : Stage} {name : String} :
    Selects body stage name ↔ stage = .parser ∧ name = "plain" := by
  constructor
  · rintro ⟨key, named, listed⟩
    simp only [body, List.mem_singleton, Prod.mk.injEq, Json.string.injEq] at listed
    obtain ⟨rfl, rfl⟩ := listed
    cases stage with
    | parser => exact ⟨rfl, rfl⟩
    | _ => exact absurd named (by decide)
  · rintro ⟨rfl, rfl⟩
    exact ⟨"parser", .head _, .head _⟩

theorem loadable : Loadable (Registry.built calls) body where
  wellFormed := {
    known := by decide
    texts := by
      intro entry listed
      obtain rfl := List.mem_singleton.mp listed
      exact .inr ⟨_, rfl⟩
    distinct := by decide
    oneSpelling := by
      intro snake _ listed
      simp [body] at listed }
  selects := ⟨.parser, "plain", selects_iff.mpr ⟨rfl, rfl⟩⟩
  known := by
    intro stage name selected
    obtain ⟨rfl, rfl⟩ := selects_iff.mp selected
    exact ⟨.flow pure, rfl⟩

theorem leads :
    Resolver.LeadsTo ⟨Registry.built calls, ⟨""⟩⟩ [] "api.toml" world ⟨"api.toml"⟩ where
  named := by decide +kernel
  unkept := rfl
  unpublished := rfl
  located := by decide +kernel

end Plain

/-- The manifest gives a pipeline called as its file is, with the one handler that it names. -/
theorem load_verdict_plain :
    Plain.world.files.readText ⟨"api.toml"⟩ = .ok Plain.text ∧
    Format.ofPath? ⟨"api.toml"⟩ = some .toml ∧
    readValue Plain.text .toml = .ok Plain.value ∧
    ∃ made : Assembly, made.name = "api" ∧ made.handler? .parser = some (.flow pure) ∧
      (∀ stage, stage ∈ made.provided ↔ stage = .parser) ∧
      (load (Registry.built Plain.calls) ⟨"api.toml"⟩).runIn Plain.world =
        (.ok (some made.pipeline), Plain.world) ∧
      (Resolver.resolve ⟨Registry.built Plain.calls, ⟨""⟩⟩ [] "api.toml").run Plain.world =
        ((.ok (some made.pipeline), [("api.toml", made.pipeline)]), Plain.world) := by
  refine ⟨Plain.stored, Plain.ofFormat, Plain.readValue_text, ?_⟩
  obtain ⟨_, verdict, loads, run, resolves⟩ :=
    load_verdict Plain.calls Plain.stored Plain.ofFormat Plain.readValue_text
  obtain ⟨made, rfl⟩ := loads.mpr ⟨_, .inner rfl, Plain.loadable⟩
  cases verdict with
  | loaded inside _ describes =>
      obtain rfl := inside.unique (.inner rfl : IsBody Plain.value Plain.body)
      refine ⟨made, ?_, ?_, fun stage => ?_, run, resolves ⟨""⟩ [] "api.toml" Plain.leads⟩
      · have stem : Path.stem? ⟨"api.toml"⟩ = some "api" := by
          decide +kernel
        have named := describes.fileName fun name listed => by simp [Plain.body] at listed
        exact Option.some.inj (named.symm.trans stem)
      · exact (describes.handler _ _).mpr ⟨"plain", Plain.selects_iff.mpr ⟨rfl, rfl⟩, rfl⟩
      · rw [describes.provided]
        simp [Plain.selects_iff]

end Manifest

end ClientGen
