import CooperativeTasks.Proofs.Reporting

set_option autoImplicit false

/-! Tasks that print.

The body of such a task is a list of literals to print. Its counter says how many it has printed,
and each of its steps prints the next. -/

namespace CooperativeTasks

def Stmt.printing (value : Value) : Stmt := .print (.lit value)

/-- An asynchronous call that prints given values: of a function or, with a receiver, of a
method. -/
structure Printer where
  /-- What is called, apart from its body. -/
  function : FunctionDecl
  args : List Value
  receiver : Option Receiver
  lines : List Value

namespace Printer

variable (printer : Printer)

def callee : FunctionDecl := { printer.function with body := printer.lines.map Stmt.printing }

def task : Task :=
  match printer.receiver with
  | none => .ofFunction printer.callee printer.args
  | some receiver =>
      (Task.ofFunction printer.callee printer.args).withReceiver receiver.value receiver.site

theorem fresh : printer.task.Fresh := by
  unfold task
  split
  · exact .ofFunction _ _
  · exact .withReceiver (.ofFunction _ _) _ _

end Printer

/-- A task that has these values left to print, out of so many. -/
structure Task.Printing (lines : List Value) (total : Nat) (task : Task) : Prop where
  unhindered : task.Unhindered
  unfinished : task.isFinished = false
  slot : task.future = .pending
  length : task.statements.length = total
  rest : task.statements.drop task.counter = lines.map Stmt.printing
  reached : task.counter + lines.length = total
  steps : task.steps = task.counter

/-- A task that has printed so many values, and then has come to its end. -/
structure Task.Printed (total : Nat) (task : Task) : Prop where
  isFinished : task.isFinished = true
  future : task.future = .ready .void
  steps : task.steps = total

theorem Printer.task_printing (printer : Printer) (id : TaskId) (autoYield : Bool) :
    { printer.task with id, autoYield }.Printing printer.lines printer.lines.length := by
  have body : printer.task.body = some printer.callee := by
    unfold Printer.task
    split <;> rfl
  have statements : printer.task.statements = printer.lines.map Stmt.printing := by
    unfold Task.statements
    rw [body]
    rfl
  have blank : printer.task.waitingFor = none ∧ printer.task.wakeAt = none ∧
      printer.task.deadline = none ∧ printer.task.future = .pending ∧ printer.task.counter = 0 ∧
      printer.task.steps = 0 := by
    unfold Printer.task
    split <;> exact ⟨rfl, rfl, rfl, rfl, rfl, rfl⟩
  obtain ⟨waitingFor, wakeAt, deadline, future, counter, steps⟩ := blank
  refine ⟨⟨?_, waitingFor, wakeAt, deadline⟩, printer.fresh.unfinished, future, ?_, ?_, ?_, ?_⟩
  · exact body ▸ rfl
  · exact (congrArg List.length statements).trans (List.length_map _)
  · change printer.task.statements.drop printer.task.counter = _
    rw [statements, counter]
    rfl
  · change printer.task.counter + _ = _
    rw [counter, Nat.zero_add]
  · exact steps.trans counter.symm

namespace Task.Printing

variable {lines : List Value} {total : Nat} {task : Task} (printing : task.Printing lines total)

include printing

theorem started : (Interpreter.woken task).start.Printing lines total := by
  obtain ⟨⟨body, waitingFor, _, deadline⟩, unfinished, slot, length, rest, reached, steps⟩ :=
    printing
  unfold Task.start
  split <;>
    exact ⟨⟨body, waitingFor, rfl, deadline⟩, unfinished, slot, length, rest, reached, steps⟩

theorem reported {later : Task} (reported : task.ReportedAs later) :
    later.Printing lines total := by
  obtain ⟨⟨body, waitingFor, wakeAt, deadline⟩, unfinished, slot, length, rest, reached, steps⟩ :=
    printing
  obtain ⟨_, scope, receiver, isPublished, rfl⟩ := reported
  exact ⟨⟨body, waitingFor, wakeAt, deadline⟩, unfinished, slot, length, rest, reached, steps⟩

theorem completes (final : lines = []) : (task.complete .void).Printed total := by
  refine ⟨rfl, ?_, ?_⟩
  · change task.future.resolve _ = _
    rw [printing.slot]
    rfl
  · have reached := printing.reached
    rw [final] at reached
    exact printing.steps.trans reached

theorem advances {line : Value} {more : List Value} (lines : lines = line :: more) (scope : Scope)
    (positions : Positions) :
    { Interpreter.stepCounted task with
      scope := some scope
      positions
      counter := task.counter + 1 }.Printing more total := by
  obtain ⟨⟨body, waitingFor, wakeAt, deadline⟩, unfinished, slot, length, rest, reached, steps⟩ :=
    printing
  subst lines
  refine ⟨⟨body, waitingFor, wakeAt, deadline⟩, unfinished, slot, length, ?_, ?_, ?_⟩
  · change task.statements.drop (task.counter + 1) = _
    rw [← List.drop_drop, rest]
    rfl
  · rw [List.length_cons] at reached
    change task.counter + 1 + more.length = total
    omega
  · exact congrArg (· + 1) steps

end Task.Printing

theorem Task.Printed.reported {total : Nat} {task later : Task} (printed : task.Printed total)
    (reported : task.ReportedAs later) : later.Printed total := by
  obtain ⟨_, scope, receiver, isPublished, rfl⟩ := reported
  exact ⟨printed.isFinished, printed.future, printed.steps⟩

def Session.printing (line : String) (session : Session) : Session :=
  { session with executor := { session.executor with output := session.executor.output.push line } }

theorem exec_printing (depth : Nat) (path : Path) (value : Value) {session : Session}
    (unlimited : session.budget = none) :
    (interpreter (depth + 2)).exec path (.printing value) session =
      .done () (session.printing value.text) := by
  change (Act.moment >>= _ : Act Unit) session = _
  rw [Act.bind_apply, Act.moment_unlimited unlimited]
  dsimp only
  rw [Act.attempt_bind]
  change (Act.moment >>= _ : Act Unit) (session.printing value.text) = _
  rw [Act.bind_apply, @Act.moment_unlimited (session.printing value.text) unlimited]
  rfl

/-! ### Steps -/

/-- What the step of a task leaves if it changes nothing but the task, the executor and the
records. -/
structure Session.Stepped (id : TaskId) (change : Task → Task) (before after : Session) : Prop where
  tasks : after.scheduler.tasks = before.scheduler.tasks.modify id.index change
  queue : after.scheduler.queue = before.scheduler.queue
  active : after.scheduler.active = before.scheduler.active
  budget : after.budget = before.budget

/-- As `Stepped`. The settings are the same, and the clock has not been set back. -/
structure Session.SteppedOn (id : TaskId) (change : Task → Task) (before after : Session) : Prop
    extends before.Stepped id change after where
  settings : after.scheduler.settings = before.scheduler.settings
  now : before.clock.now ≤ after.clock.now

namespace Session.Stepped

variable {id : TaskId} {change first : Task → Task} {before between after : Session}

theorem onTask (id : TaskId) (change : Task → Task) (session : Session) :
    session.Stepped id change (session.onTask id change) :=
  ⟨rfl, rfl, rfl, rfl⟩

theorem trans (earlier : before.Stepped id first between)
    (later : between.Stepped id change after) : before.Stepped id (change ∘ first) after where
  tasks := by
    rw [later.tasks, earlier.tasks]
    exact List.modify_modify_eq ..
  queue := later.queue.trans earlier.queue
  active := later.active.trans earlier.active
  budget := later.budget.trans earlier.budget

theorem task?_eq (stepped : before.Stepped id change after) (other : TaskId) :
    after.scheduler.task? other = (before.scheduler.modifyTask id change).task? other := by
  unfold Scheduler.task?
  rw [stepped.tasks]
  rfl

theorem task?_self (stepped : before.Stepped id change after) {task : Task}
    (known : before.scheduler.task? id = some task) :
    after.scheduler.task? id = some (change task) := by
  rw [stepped.task?_eq, Scheduler.task?_modifyTask_self, known]
  rfl

theorem task?_of_ne (stepped : before.Stepped id change after) {other : TaskId}
    (different : other ≠ id) : after.scheduler.task? other = before.scheduler.task? other := by
  rw [stepped.task?_eq, Scheduler.task?_modifyTask_of_ne different]

end Session.Stepped

/-- What a step comes to when nothing keeps its task from going on. -/
def Interpreter.going (interpreter : Interpreter) (id : TaskId) (task : Task) (reading : Nat) :
    Act StepStatus :=
  match task.statements[task.counter]? with
  | none => do
      Act.completeTask id .void
      return .done
  | some statement => interpreter.executing id task statement reading

theorem executing_printing (id : TaskId) (task : Task) (value : Value) (reading : Nat)
    {session : Session} (unlimited : session.budget = none) :
    ∃ change resting,
      (∀ depth, (interpreter (depth + 2)).executing id task (.printing value) reading session =
        if task.statements.length ≤ task.counter + 1 then
          .done .done (resting.onTask id (Task.complete .void))
        else .done .pending resting) ∧
      session.SteppedOn id change resting ∧
      resting.executor.output = session.executor.output.push value.text ∧
      ∀ current : Task, ∃ scope positions, change current =
        { Interpreter.stepCounted current with
          scope := some scope
          positions
          counter := current.counter + 1 } := by
  let noted := (Interpreter.announcing id session).recorded (.stepped id task.counter reading)
  let left := (noted.enteringTask id task).printing value.text
  let advance (current : Task) : Task :=
    { current with
      scope := some ((StepFrame.enter id task noted.executor).1.scopeIn left.executor)
      positions := left.executor.positions
      counter := current.counter + 1 }
  let resting := (left.leavingTask id task noted.executor).onTask id advance
  have announced : (Interpreter.announcing id session).budget = none := unlimited
  have entered : (noted.enteringTask id task).budget = none := unlimited
  have tasks : resting.scheduler.tasks =
      session.scheduler.tasks.modify id.index (advance ∘ Interpreter.stepCounted) := by
    change (session.scheduler.tasks.modify id.index Interpreter.stepCounted).modify id.index
      advance = _
    exact List.modify_modify_eq ..
  have ran (depth : Nat) :
      (interpreter (depth + 2)).executing id task (.printing value) reading session =
        Interpreter.stepEnding id task noted.executor (.done () left) := by
    rw [Interpreter.executing_apply, Act.bind_apply, Act.note_unlimited announced]
    change Interpreter.stepEnding id task noted.executor _ = _
    rw [exec_printing depth _ value entered]
  refine ⟨advance ∘ Interpreter.stepCounted, resting, ran, ⟨⟨tasks, rfl, rfl, rfl⟩, rfl, ?_⟩, rfl,
    fun current => ⟨_, _, rfl⟩⟩
  exact Nat.le_refl _

theorem going_printing (depth : Nat) {id : TaskId} {task : Task} {lines : List Value} {total : Nat}
    (printing : task.Printing lines total) (reading : Nat) {session : Session}
    (unlimited : session.budget = none) :
    ∃ status change after,
      (interpreter (depth + 2)).going id task reading session = .done status after ∧
      session.Stepped id change after ∧
      after.executor.output.toList =
        session.executor.output.toList ++ lines.head?.toList.map Value.text ∧
      (status = .done ∧ lines.tail = [] ∧ (change task).Printed total ∨
        status = .pending ∧ lines.tail ≠ [] ∧ (change task).Printing lines.tail total) := by
  have next := printing.rest
  unfold Interpreter.going
  cases lines with
  | nil =>
      have past : task.statements[task.counter]? = none := by
        rw [← List.head?_drop, next]
        rfl
      rw [past]
      exact ⟨.done, Task.complete .void, _, rfl, .onTask id _ session, (List.append_nil _).symm,
        .inl ⟨rfl, rfl, printing.completes rfl⟩⟩
  | cons line more =>
      have present : task.statements[task.counter]? = some (.printing line) := by
        rw [← List.head?_drop, next]
        rfl
      obtain ⟨move, resting, printed, stepped, output, moved⟩ :=
        @executing_printing id task line reading session unlimited
      have shown : resting.executor.output.toList =
          session.executor.output.toList ++ [line.text] := by
        rw [output]
        exact Array.toList_push
      have advanced : (move task).Printing more total := by
        obtain ⟨scope, positions, same⟩ := moved task
        rw [same]
        exact printing.advances rfl scope positions
      have length := printing.length
      have reached := printing.reached
      rw [present]
      cases more with
      | nil =>
          have last : task.statements.length ≤ task.counter + 1 := by
            rw [length, ← reached]
            exact Nat.le_refl _
          exact ⟨.done, Task.complete .void ∘ move, _, (printed depth).trans (if_pos last),
            stepped.trans (.onTask id _ resting), shown,
            .inl ⟨rfl, rfl, advanced.completes rfl⟩⟩
      | cons another more =>
          have goesOn : ¬ task.statements.length ≤ task.counter + 1 := by
            rw [List.length_cons, List.length_cons] at reached
            omega
          exact ⟨.pending, move, resting, (printed depth).trans (if_neg goesOn), stepped.toStepped,
            shown, .inr ⟨rfl, List.cons_ne_nil _ _, advanced⟩⟩

theorem step_printing (depth : Nat) {id : TaskId} {task : Task} {lines : List Value} {total : Nat}
    {session : Session} (found : session.scheduler.task? id = some task)
    (printing : task.Printing lines total) (unlimited : session.budget = none) :
    ∃ status change after,
      (interpreter (depth + 2)).step id session = .done status after ∧
      session.Stepped id change after ∧
      after.executor.output.toList =
        session.executor.output.toList ++ lines.head?.toList.map Value.text ∧
      (status = .done ∧ lines.tail = [] ∧ (change task).Printed total ∨
        status = .pending ∧ lines.tail ≠ [] ∧ (change task).Printing lines.tail total) := by
  let ready := (session.ticked.onTask id Interpreter.woken).onTask id Task.start
  have readies : session.Stepped id (Task.start ∘ Interpreter.woken) ready :=
    ⟨List.modify_modify_eq .., rfl, rfl, rfl⟩
  have known : ready.scheduler.task? id = some (Interpreter.woken task).start :=
    readies.task?_self found
  obtain ⟨status, change, after, goes, stepped, output, ending⟩ :=
    @going_printing depth id _ lines total printing.started session.clock.now ready unlimited
  refine ⟨status, _, after, ?_, readies.trans stepped, output, ending⟩
  rw [Interpreter.step_unhindered found printing.unhindered printing.unfinished,
    Interpreter.runStatement_eq, Act.modifyTask_bind, Act.scheduler_bind, known]
  exact goes

end CooperativeTasks
