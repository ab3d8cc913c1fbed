import ClientGen.Script

/-!
# Conversations

What a script asks and what it is answered, in order. Nothing is assumed about who answers, so a
fact about all conversations of a script is one about every machine and every moment.
-/

namespace ClientGen

/-- What was asked and answered, in order. -/
abbrev Conversation := List ((command : Command) × command.Reply)

namespace Script

variable {α β : Type}

/-- Answered as in a conversation, a script ends with a value when the conversation does. -/
inductive Ends : Script α → Conversation → α → Prop where
  | done (a : α) : Ends (.done a) [] a
  | call {command : Command} {next : command.Reply → Script α} {reply : command.Reply}
      {talk : Conversation} {a : α} (rest : Ends (next reply) talk a) :
      Ends (.call command next) (⟨command, reply⟩ :: talk) a

theorem ends_done_iff (a b : α) (talk : Conversation) :
    (Script.done a).Ends talk b ↔ talk = [] ∧ b = a := by
  constructor
  · rintro ⟨⟩
    exact ⟨rfl, rfl⟩
  · rintro ⟨rfl, rfl⟩
    exact .done _

/-- A conversation with two scripts in a row is cut where the first one ends. -/
theorem ends_bind_iff (script : Script α) (f : α → Script β) (talk : Conversation) (b : β) :
    (script.bind f).Ends talk b ↔
      ∃ first a rest, talk = first ++ rest ∧ script.Ends first a ∧ (f a).Ends rest b := by
  induction script generalizing talk with
  | done a =>
      constructor
      · intro ends
        exact ⟨[], a, talk, rfl, .done a, ends⟩
      · rintro ⟨first, _, rest, rfl, ⟨⟩, ends⟩
        exact ends
  | call command next ih =>
      constructor
      · intro ends
        cases ends with
        | @call _ _ reply talk _ later =>
            obtain ⟨first, a, rest, rfl, early, late⟩ := (ih reply talk).mp later
            exact ⟨⟨command, reply⟩ :: first, a, rest, rfl, .call early, late⟩
      · rintro ⟨first, a, rest, rfl, early, late⟩
        cases early with
        | @call _ _ reply first _ early =>
            exact .call ((ih reply (first ++ rest)).mpr ⟨first, a, rest, rfl, early, late⟩)

/-- A run in a world is a conversation with the world. -/
theorem exists_ends_run (script : Script α) (world : World) :
    ∃ talk, script.Ends talk (script.run world).1 := by
  induction script generalizing world with
  | done a => exact ⟨[], .done a⟩
  | call command next ih =>
      obtain ⟨talk, ends⟩ := ih (world.perform command).1 (world.perform command).2
      exact ⟨_, .call ends⟩

end Script

namespace Task

variable {α β : Type}

theorem ends_pure_iff (a : α) (talk : Conversation) (outcome : Except Failure α) :
    (pure a : Task α).run.Ends talk outcome ↔ talk = [] ∧ outcome = .ok a :=
  Script.ends_done_iff _ _ _

theorem ends_fail_iff (failure : Failure) (talk : Conversation) (outcome : Except Failure α) :
    (Task.fail failure : Task α).run.Ends talk outcome ↔ talk = [] ∧ outcome = .error failure :=
  Script.ends_done_iff _ _ _

theorem ends_ask_iff (command : Command) (talk : Conversation)
    (outcome : Except Failure command.Reply) :
    (Task.ask command).run.Ends talk outcome ↔
      ∃ reply, talk = [⟨command, reply⟩] ∧ outcome = .ok reply := by
  have opened : (Task.ask command).run = .call command fun reply => .done (.ok reply) := rfl
  rw [opened]
  constructor
  · intro ends
    cases ends with
    | @call _ _ reply talk _ rest =>
        obtain ⟨rfl, rfl⟩ := (Script.ends_done_iff _ _ _).mp rest
        exact ⟨reply, rfl, rfl⟩
  · rintro ⟨reply, rfl, rfl⟩
    exact .call (.done _)

theorem runIn_bind (task : Task α) (f : α → Task β) (world : World) :
    (task >>= f).runIn world =
      (ExceptT.bindCont f (task.runIn world).1).run (task.runIn world).2 :=
  Script.run_bind _ _ _

/-- The second of two tasks is not started if the first one fails. -/
theorem ends_bind_iff (task : Task α) (f : α → Task β) (talk : Conversation)
    (outcome : Except Failure β) :
    (task >>= f).run.Ends talk outcome ↔
      (∃ failure, task.run.Ends talk (.error failure) ∧ outcome = .error failure) ∨
      ∃ first a rest, talk = first ++ rest ∧ task.run.Ends first (.ok a) ∧
        (f a).run.Ends rest outcome := by
  have opened : (task >>= f).run = task.run.bind (ExceptT.bindCont f) := rfl
  rw [opened, Script.ends_bind_iff]
  constructor
  · rintro ⟨first, result, rest, rfl, early, late⟩
    cases result with
    | ok a => exact .inr ⟨first, a, rest, rfl, early, late⟩
    | error failure =>
        obtain ⟨rfl, rfl⟩ := (Script.ends_done_iff _ _ _).mp late
        exact .inl ⟨failure, by rwa [List.append_nil], rfl⟩
  · rintro (⟨failure, early, rfl⟩ | ⟨first, a, rest, rfl, early, late⟩)
    · exact ⟨talk, _, [], (List.append_nil talk).symm, early, .done _⟩
    · exact ⟨first, _, rest, rfl, early, late⟩

theorem run_within (stage : Stage) (task : Task α) :
    (Task.within stage task).run = task.run.bind fun own =>
      .done (own.mapError (Failure.within stage)) := by
  unfold Task.within
  change task.run.bind _ = _
  congr 1
  funext own
  cases own <;> rfl

/-- What goes on after a task that cannot fail may be done inside the stage as well. -/
theorem within_bind_pure (stage : Stage) (task : Task α) (f : α → β) :
    Task.within stage (task >>= fun a => pure (f a)) =
      Task.within stage task >>= fun a => pure (f a) := by
  apply ExceptT.ext
  change _ = (Task.within stage task).run.bind (ExceptT.bindCont fun a => pure (f a))
  rw [run_within, run_within, Script.bind_assoc]
  change (task.run.bind _).bind _ = _
  rw [Script.bind_assoc]
  congr 1
  funext own
  cases own <;> rfl

/-- A task says in which stage it fails, and changes nothing else. -/
theorem ends_within_iff (stage : Stage) (task : Task α) (talk : Conversation)
    (outcome : Except Failure α) :
    (Task.within stage task).run.Ends talk outcome ↔
      ∃ own, task.run.Ends talk own ∧ outcome = own.mapError (Failure.within stage) := by
  rw [run_within, Script.ends_bind_iff]
  constructor
  · rintro ⟨first, own, rest, rfl, early, late⟩
    obtain ⟨rfl, rfl⟩ := (Script.ends_done_iff _ _ _).mp late
    exact ⟨own, by rwa [List.append_nil], rfl⟩
  · rintro ⟨own, early, rfl⟩
    exact ⟨talk, own, [], (List.append_nil talk).symm, early, .done _⟩

end Task

end ClientGen
