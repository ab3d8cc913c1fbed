import ClientGen.Compile

/-!
# Compiling in order and together

Compiling the outputs one after the other lets every synthesizer see the trees before its own.
Synthesizers that look at no tree cannot tell, so the outcome is the one of compiling all outputs
from the record as it was. The two ways differ only in the failure that is reported when there are
several.
-/

namespace ClientGen

def Output.uncompiled (output : Output) : Output :=
  output.setSlot .pending

def Record.uncompiled (record : Record) : Record :=
  { record with outputs := record.outputs.map Output.uncompiled }

/-- A synthesizer does not look at what compilation and printing leave in the outputs of its
record. -/
def Synthesizer.IgnoresSlots (synthesizer : Synthesizer) : Prop :=
  ∀ record other output, record.uncompiled = other.uncompiled →
    synthesizer record output = synthesizer other output

theorem Output.uncompiled_setSlot (output : Output) (slot : Slot) :
    (output.setSlot slot).uncompiled = output.uncompiled := rfl

namespace Compiler

structure IgnoresSlots (compiler : Compiler) : Prop where
  request : compiler.request.IgnoresSlots
  typings : compiler.typings.IgnoresSlots

/-- What brings outcomes together answers all values in order, or else one of the failures. -/
structure Collects (collect : List (Except Failure Slot) → Except Failure (List Slot)) : Prop where
  eq_ok_iff : ∀ outcomes slots, collect outcomes = .ok slots ↔ outcomes = slots.map .ok
  mem_of_eq_error : ∀ outcomes failure, collect outcomes = .error failure →
    .error failure ∈ outcomes

/-! ## Bringing outcomes together -/

theorem gather_eq_ok_iff {α : Type} (outcomes : List (Except Failure α)) (values : List α) :
    gather outcomes = .ok values ↔ outcomes = values.map .ok := by
  induction outcomes generalizing values with
  | nil => cases values <;> simp [gather]
  | cons outcome rest ih =>
      cases outcome with
      | error failure => cases values <;> simp [gather]
      | ok first =>
          have continues : gather (.ok first :: rest) = .ok values ↔
              ∃ others, gather rest = .ok others ∧ first :: others = values := by
            cases gathered : gather rest <;> simp [gather, gathered, Except.map]
          rw [continues]
          cases values with
          | nil => simp
          | cons value others =>
              constructor
              · rintro ⟨found, gathered, same⟩
                obtain ⟨rfl, rfl⟩ := List.cons.inj same
                rw [(ih found).mp gathered, List.map_cons]
              · intro same
                obtain ⟨head, tail⟩ := List.cons.inj same
                exact ⟨others, (ih others).mpr tail, by rw [Except.ok.inj head]⟩

/-- The failure that is reported is the first one. -/
theorem gather_eq_error_iff {α : Type} (outcomes : List (Except Failure α)) (failure : Failure) :
    gather outcomes = .error failure ↔
      ∃ (before : List α) (after : List (Except Failure α)),
        outcomes = before.map .ok ++ .error failure :: after := by
  induction outcomes with
  | nil => simp [gather]
  | cons outcome rest ih =>
      cases outcome with
      | error other =>
          constructor
          · rintro ⟨⟩
            exact ⟨[], rest, rfl⟩
          · rintro ⟨before, after, same⟩
            cases before with
            | nil =>
                cases same
                rfl
            | cons first before => cases same
      | ok first =>
          have stops : gather (.ok first :: rest) = .error failure ↔
              gather rest = .error failure := by
            cases gathered : gather rest <;> simp [gather, gathered, Except.map]
          rw [stops, ih]
          constructor
          · rintro ⟨before, after, rfl⟩
            exact ⟨first :: before, after, rfl⟩
          · rintro ⟨before, after, same⟩
            cases before with
            | nil => cases same
            | cons other before =>
                cases same
                exact ⟨before, after, rfl⟩

theorem collects_gather : Collects gather where
  eq_ok_iff := gather_eq_ok_iff
  mem_of_eq_error outcomes failure gathered := by
    obtain ⟨before, after, rfl⟩ := (gather_eq_error_iff outcomes failure).mp gathered
    simp

/-! ## Compiling one after the other -/

variable {compiler : Compiler}

/-- Compiled outputs look the same as before to synthesizers that ignore slots. -/
theorem IgnoresSlots.slotFor_eq (ignores : compiler.IgnoresSlots) {record other : Record}
    (same : record.uncompiled = other.uncompiled) (output : Output) :
    compiler.slotFor record output = compiler.slotFor other output := by
  unfold slotFor
  cases output.kind with
  | request => rw [ignores.request record other output same]
  | typings => rw [ignores.typings record other output same]
  | other tag => rfl

/-- The loop over the outputs: those that are ready differ from those of the record in their slots
only, so each of the others compiles as it would from the record itself. -/
theorem compileFrom_eq (ignores : compiler.IgnoresSlots) (record : Record)
    (ready rest : List Output)
    (same : (ready ++ rest).map Output.uncompiled = record.outputs.map Output.uncompiled) :
    compiler.compileFrom record ready rest =
      (gather (rest.map (compiler.slotFor record))).map fun slots =>
        { record with outputs := ready ++ List.zipWith Output.setSlot rest slots } := by
  induction rest generalizing ready with
  | nil => simp [compileFrom, gather, Except.map]
  | cons output rest ih =>
      have unchanged : compiler.slotFor { record with outputs := ready ++ output :: rest } output =
          compiler.slotFor record output :=
        ignores.slotFor_eq (by rw [Record.uncompiled, same]; rfl) output
      rw [compileFrom, unchanged, List.map_cons]
      cases compiled : compiler.slotFor record output with
      | error failure => rfl
      | ok slot =>
          have step := ih (ready ++ [output.setSlot slot]) (by
            rw [← same]
            simp [Output.uncompiled_setSlot])
          dsimp only
          rw [step, gather]
          cases gather (rest.map (compiler.slotFor record)) <;> simp [Except.map]

/-- Compiling in order gives the slots that the outputs have from the record as it was. -/
theorem compile_eq (ignores : compiler.IgnoresSlots) (record : Record) :
    compiler.compile record = compiler.compileTogether gather record := by
  rw [compile, compileFrom_eq ignores record [] record.outputs rfl, compileTogether]
  cases gather (record.outputs.map (compiler.slotFor record)) <;> rfl

/-! ## Compiling together -/

theorem compileTogether_eq_ok_iff
    (collect : List (Except Failure Slot) → Except Failure (List Slot)) (record compiled : Record) :
    compiler.compileTogether collect record = .ok compiled ↔
      ∃ slots, collect (record.outputs.map (compiler.slotFor record)) = .ok slots ∧
        { record with outputs := List.zipWith Output.setSlot record.outputs slots } = compiled := by
  unfold compileTogether
  cases collect (record.outputs.map (compiler.slotFor record)) <;> simp

theorem compileTogether_eq_error_iff
    (collect : List (Except Failure Slot) → Except Failure (List Slot)) (record : Record)
    (failure : Failure) :
    compiler.compileTogether collect record = .error failure ↔
      collect (record.outputs.map (compiler.slotFor record)) = .error failure := by
  unfold compileTogether
  cases collect (record.outputs.map (compiler.slotFor record)) <;> simp

variable {collect : List (Except Failure Slot) → Except Failure (List Slot)}

/-- Whatever brings the outcomes together, all values give the same record. -/
theorem Collects.compileTogether_eq_ok_iff (collects : Collects collect)
    (record compiled : Record) :
    compiler.compileTogether collect record = .ok compiled ↔
      compiler.compileTogether gather record = .ok compiled := by
  simp only [Compiler.compileTogether_eq_ok_iff, collects.eq_ok_iff, gather_eq_ok_iff]

/-- A reported failure is the failure of an output. -/
theorem Collects.exists_of_compileTogether (collects : Collects collect) {record : Record}
    {failure : Failure} (failed : compiler.compileTogether collect record = .error failure) :
    ∃ output ∈ record.outputs, compiler.slotFor record output = .error failure :=
  List.mem_map.mp
    (collects.mem_of_eq_error _ _ ((compileTogether_eq_error_iff collect record failure).mp failed))

def FailsFirst (compiler : Compiler) (record : Record) (failure : Failure) : Prop :=
  ∃ before output after, record.outputs = before ++ output :: after ∧
    (∀ earlier ∈ before, ∃ slot, compiler.slotFor record earlier = .ok slot) ∧
    compiler.slotFor record output = .error failure

theorem compileTogether_gather_eq_error_iff (record : Record) (failure : Failure) :
    compiler.compileTogether gather record = .error failure ↔
      compiler.FailsFirst record failure := by
  rw [compileTogether_eq_error_iff, gather_eq_error_iff]
  constructor
  · rintro ⟨slots, after, outcomes⟩
    obtain ⟨before, rest, split, compiled, failing⟩ := List.map_eq_append_iff.mp outcomes
    obtain ⟨output, later, rfl, failed, -⟩ := List.map_eq_cons_iff.mp failing
    refine ⟨before, output, later, split, ?_, failed⟩
    intro earlier member
    have listed : compiler.slotFor record earlier ∈ slots.map Except.ok := by
      rw [← compiled]
      exact List.mem_map_of_mem member
    obtain ⟨slot, -, same⟩ := List.mem_map.mp listed
    exact ⟨slot, same.symm⟩
  · rintro ⟨before, output, after, split, compiled, failed⟩
    have slots : ∃ slots : List Slot, before.map (compiler.slotFor record) = slots.map .ok := by
      clear split
      induction before with
      | nil => exact ⟨[], rfl⟩
      | cons first rest ih =>
          obtain ⟨slot, same⟩ := compiled first List.mem_cons_self
          obtain ⟨others, rests⟩ := ih fun earlier member =>
            compiled earlier (List.mem_cons_of_mem _ member)
          exact ⟨slot :: others, by simp [same, rests]⟩
    obtain ⟨slots, same⟩ := slots
    refine ⟨slots, after.map (compiler.slotFor record), ?_⟩
    rw [split, List.map_append, List.map_cons, same, failed]

def Fails (compiler : Compiler) (record : Record) (output : Output) : Prop :=
  ∃ failure, compiler.slotFor record output = .error failure

/-- Where at most one output fails, its failure is the first one. -/
theorem failsFirst_of_alone {record : Record} {failure : Failure} {output : Output}
    (alone : record.outputs.Pairwise fun first second =>
      ¬(compiler.Fails record first ∧ compiler.Fails record second))
    (member : output ∈ record.outputs) (failed : compiler.slotFor record output = .error failure) :
    compiler.FailsFirst record failure := by
  obtain ⟨before, after, split⟩ := List.append_of_mem member
  refine ⟨before, output, after, split, ?_, failed⟩
  intro earlier listed
  rw [split] at alone
  have apart := (List.pairwise_append.mp alone).2.2 earlier listed output List.mem_cons_self
  cases compiled : compiler.slotFor record earlier with
  | ok slot => exact ⟨slot, rfl⟩
  | error other => exact absurd ⟨⟨other, compiled⟩, ⟨failure, failed⟩⟩ apart

/-! ## The standard synthesizers -/

theorem output?_uncompiled (record : Record) (kind : OutputKind) :
    record.uncompiled.output? kind = (record.output? kind).map Output.uncompiled := by
  simp only [Record.output?, Record.uncompiled, List.find?_map]
  rfl

theorem requestModule_uncompiled (record : Record) :
    Synthesis.requestModule record.uncompiled = Synthesis.requestModule record := by
  simp only [Synthesis.requestModule, output?_uncompiled]
  cases record.output? .typings <;> rfl

/-- The standard synthesizers read the graph, the configuration and how the types are imported. -/
theorem standard_ignoresSlots : standard.IgnoresSlots where
  request record other output same := by
    dsimp only [standard]
    rw [← requestModule_uncompiled record, same, requestModule_uncompiled]
  typings record other output same := by
    have graph : record.uncompiled.graph = other.uncompiled.graph := by rw [same]
    dsimp only [Record.uncompiled] at graph
    dsimp only [standard, Synthesis.typingsModule]
    rw [graph]

/-! ## Both ways agree -/

/-- Compiling in order and compiling together succeed on the same records, with the same result.
In order the first failure is reported, together some failure; one failure alone is reported
either way. All this holds of the standard synthesizers. -/
theorem compile_iff_together (ignores : compiler.IgnoresSlots) (collects : Collects collect)
    (record : Record) :
    (∀ compiled, compiler.compile record = .ok compiled ↔
      compiler.compileTogether collect record = .ok compiled) ∧
    (∀ failure, compiler.compile record = .error failure ↔
      compiler.FailsFirst record failure) ∧
    (∀ failure, compiler.compileTogether collect record = .error failure →
      ∃ output ∈ record.outputs, compiler.slotFor record output = .error failure) ∧
    ((record.outputs.Pairwise fun first second =>
        ¬(compiler.Fails record first ∧ compiler.Fails record second)) →
      compiler.compile record = compiler.compileTogether collect record) ∧
    standard.IgnoresSlots := by
  rw [compile_eq ignores record]
  refine ⟨fun compiled => (collects.compileTogether_eq_ok_iff record compiled).symm,
    compileTogether_gather_eq_error_iff record, fun failure => collects.exists_of_compileTogether,
    ?_, standard_ignoresSlots⟩
  intro alone
  cases together : compiler.compileTogether collect record with
  | ok compiled => exact (collects.compileTogether_eq_ok_iff record compiled).mp together
  | error failure =>
      obtain ⟨output, member, failed⟩ := collects.exists_of_compileTogether together
      exact (compileTogether_gather_eq_error_iff record failure).mpr
        (failsFirst_of_alone alone member failed)

def refusing : Compiler where
  request := standard.request
  typings _ _ := .error (.serialization "no types")

def compiledBefore : Record :=
  .new (.uri "pets.json") .empty
    [(Output.new .request ⟨"api.ts"⟩).setSlot (.request .empty),
      Output.new (.other "operations") ⟨"api.graphql"⟩, Output.new .typings ⟨"api.type.ts"⟩]

/-- Both ways refuse the types of a record and say so in the same way. -/
theorem compile_iff_together_refusing :
    refusing.IgnoresSlots ∧ Collects gather ∧
      refusing.compile compiledBefore = .error (.serialization "no types") ∧
      refusing.compileTogether gather compiledBefore = .error (.serialization "no types") := by
  have ignores : refusing.IgnoresSlots := ⟨standard_ignoresSlots.request, fun _ _ _ _ => rfl⟩
  obtain ⟨-, inOrder, -, same, -⟩ := compile_iff_together ignores collects_gather compiledBefore
  have first : refusing.compile compiledBefore = .error (.serialization "no types") := by
    refine (inOrder _).mpr ⟨[_, _], Output.new .typings ⟨"api.type.ts"⟩, [], rfl, ?_, rfl⟩
    intro earlier member
    rcases List.mem_cons.mp member with rfl | rest
    · exact ⟨_, rfl⟩
    · obtain rfl := List.mem_singleton.mp rest
      exact ⟨_, rfl⟩
  refine ⟨ignores, collects_gather, first, ?_⟩
  rw [← same ?_, first]
  simp [compiledBefore, Record.new, Fails, slotFor, refusing, standard, Output.new, Output.setSlot,
    Except.map]

end Compiler

end ClientGen
