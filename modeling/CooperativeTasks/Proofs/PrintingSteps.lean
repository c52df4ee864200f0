import CooperativeTasks.Proofs.DueSteps
import CooperativeTasks.Proofs.Printing

set_option autoImplicit false

/-! Steps of tasks that only print, or have no body.

Such a task can be marked as waiting, it can be asleep, and it can have a deadline. A step of it
blocks and leaves it alone but for a mark that is out of date, or prints a line of it, or ends it.
No step fails, and what it comes to does not depend on how deep the interpreter can go. -/

namespace CooperativeTasks

/-- The body of the task, if it has one, does nothing but print literals. -/
def Task.OnlyPrints (task : Task) : Prop :=
  ∀ statement ∈ task.statements, ∃ value, statement = .printing value

def Task.freed (task : Task) : Task := { task with waitingFor := none }

/-- What a step makes of a task that only prints when nothing keeps the task from going on, and when
its deadline has passed. -/
inductive Task.GoesOn (task : Task) : StepStatus → Task → Prop where
  | printed {later : Task} (unfinished : later.isFinished = false)
      (statements : later.statements = task.statements)
      (marked : later.waitingFor = task.waitingFor ∨ later.waitingFor = none)
      (counter : later.counter = task.counter + 1)
      (within : later.counter < later.statements.length) : GoesOn task .pending later
  | ended {later : Task} (finished : later.isFinished = true) : GoesOn task .done later

/-- What a step makes of a task that only prints, given what the clock shows. -/
inductive Task.Resumes (scheduler : Scheduler) (reading : Nat) (task : Task) :
    StepStatus → Task → Prop where
  | waiting {awaited : TaskId} (marked : task.waitingFor = some awaited)
      (unfinished : scheduler.isFinished awaited = false) :
      Resumes scheduler reading task .blocked task
  | asleep {wakeAt : Nat} (set : task.wakeAt = some wakeAt) (early : reading < wakeAt)
      {later : Task} (same : later = task ∨ later = task.freed) :
      Resumes scheduler reading task .blocked later
  | goesOn {status : StepStatus} {later : Task} (onward : task.GoesOn status later) :
      Resumes scheduler reading task status later

theorem Task.GoesOn.ofSame {task other later : Task} {status : StepStatus}
    (onward : other.GoesOn status later) (statements : other.statements = task.statements)
    (counter : other.counter = task.counter)
    (marked : other.waitingFor = task.waitingFor ∨ other.waitingFor = none) :
    task.GoesOn status later := by
  cases onward with
  | ended finished => exact .ended finished
  | printed unfinished same mark next within =>
      apply Task.GoesOn.printed unfinished
      case statements => exact same.trans statements
      case counter => rw [next, counter]
      case within => exact within
      case marked =>
        rcases mark with kept | free
        · rw [kept]
          exact marked
        · exact .inr free

theorem Task.Resumes.freed {scheduler scheduler' : Scheduler} {reading : Nat} {task later : Task}
    {status : StepStatus}
    (resumes : task.freed.Resumes scheduler' reading status later) :
    task.Resumes scheduler reading status later := by
  cases resumes with
  | waiting marked _ => cases marked
  | asleep set early same =>
      have wakes : task.wakeAt = some _ := set
      rcases same with rfl | rfl
      · exact .asleep wakes early (.inr rfl)
      · exact .asleep wakes early (.inr rfl)
  | goesOn onward => exact .goesOn (onward.ofSame rfl rfl (.inr rfl))

theorem Task.Resumes.keeps {scheduler : Scheduler} {reading : Nat} {task later : Task}
    {status : StepStatus} (resumes : task.Resumes scheduler reading status later)
    (unfinished : later.isFinished = false) :
    later.statements = task.statements ∧
      (later.waitingFor = task.waitingFor ∨ later.waitingFor = none) := by
  cases resumes with
  | waiting _ _ => exact ⟨rfl, .inl rfl⟩
  | asleep _ _ same =>
      rcases same with rfl | rfl
      · exact ⟨rfl, .inl rfl⟩
      · exact ⟨rfl, .inr rfl⟩
  | goesOn onward =>
      cases onward with
      | printed _ statements marked _ _ => exact ⟨statements, marked⟩
      | ended finished =>
          rw [finished] at unfinished
          cases unfinished

namespace Session.SteppedOn

variable {id : TaskId} {change first : Task → Task} {before between after : Session}

theorem ofSame (scheduler : after.scheduler.tasks = before.scheduler.tasks)
    (queue : after.scheduler.queue = before.scheduler.queue)
    (active : after.scheduler.active = before.scheduler.active)
    (budget : after.budget = before.budget)
    (settings : after.scheduler.settings = before.scheduler.settings)
    (now : before.clock.now ≤ after.clock.now) : before.SteppedOn id (fun task => task) after where
  tasks := scheduler.trans (List.modify_id id.index before.scheduler.tasks).symm
  queue := queue
  active := active
  budget := budget
  settings := settings
  now := now

theorem onTask (id : TaskId) (change : Task → Task) (session : Session) :
    session.SteppedOn id change (session.onTask id change) where
  toStepped := .onTask id change session
  settings := rfl
  now := Nat.le_refl _

theorem trans (earlier : before.SteppedOn id first between)
    (later : between.SteppedOn id change after) :
    before.SteppedOn id (change ∘ first) after where
  toStepped := earlier.toStepped.trans later.toStepped
  settings := later.settings.trans earlier.settings
  now := Nat.le_trans earlier.now later.now

end Session.SteppedOn

section Steps

variable {id : TaskId} {session : Session} {task : Task}

theorem runStatement_prints (known : session.scheduler.task? id = some task)
    (unfinished : task.isFinished = false) (prints : task.OnlyPrints)
    (unlimited : session.budget = none) (reading : Nat) :
    ∃ status change after,
      (∀ depth, (interpreter (depth + 2)).runStatement id reading session = .done status after) ∧
      session.SteppedOn id change after ∧
      task.GoesOn status (change task) := by
  have keeps := Task.KeepsTime.start task
  let ready := session.onTask id Task.start
  have found : ready.scheduler.task? id = some task.start := Session.task?_onTask known Task.start
  have begins : session.SteppedOn id Task.start ready := .onTask id Task.start session
  cases present : task.statements[task.counter]? with
  | none =>
      refine ⟨.done, Task.complete .void ∘ Task.start, ready.onTask id (Task.complete .void),
        fun depth => ?_, begins.trans (.onTask id _ ready), .ended rfl⟩
      exact Interpreter.runStatement_absent known present _ reading
  | some statement =>
      obtain ⟨value, rfl⟩ := prints statement (List.mem_of_getElem? present)
      obtain ⟨move, resting, printed, stepped, _, moved⟩ :=
        @executing_printing id task.start value reading ready unlimited
      have ran (depth : Nat) : (interpreter (depth + 2)).runStatement id reading session =
          (interpreter (depth + 2)).executing id task.start (.printing value) reading ready := by
        apply Interpreter.runStatement_executing found
        rw [Task.statements_start, keeps.counter, present]
      obtain ⟨scope, positions, same⟩ := moved task.start
      by_cases last : task.start.statements.length ≤ task.start.counter + 1
      · refine ⟨.done, Task.complete .void ∘ move ∘ Task.start,
          resting.onTask id (Task.complete .void), fun depth => ?_,
          (begins.trans stepped).trans (.onTask id _ resting), .ended rfl⟩
        rw [ran, printed, if_pos last]
      · refine ⟨.pending, move ∘ Task.start, resting, fun depth => ?_, begins.trans stepped, ?_⟩
        · rw [ran, printed, if_neg last]
        · rw [Function.comp_apply, same]
          apply Task.GoesOn.printed
          case unfinished => exact keeps.isFinished.trans unfinished
          case statements => exact Task.statements_start task
          case marked => exact keeps.waits
          case counter => exact congrArg (· + 1) keeps.counter
          case within => exact Nat.lt_of_not_le last

theorem stepReady_prints (known : session.scheduler.task? id = some task)
    (unfinished : task.isFinished = false) (prints : task.OnlyPrints)
    (unlimited : session.budget = none) :
    ∃ status change after,
      (∀ depth, (interpreter (depth + 2)).stepReady id session = .done status after) ∧
      session.SteppedOn id change after ∧
      task.Resumes session.scheduler session.clock.now status (change task) := by
  have known' : session.ticked.scheduler.task? id = some task := known
  have ticks : session.SteppedOn id (fun task => task) session.ticked :=
    .ofSame rfl rfl rfl rfl rfl (Nat.le_add_right ..)
  -- In the order of the checks: the deadline, the wake time, whether there is a body.
  cases late : task.deadline.any (· ≤ session.clock.now) with
  | true =>
      let expired := Interpreter.expiring id session.ticked
      have expires : session.ticked.SteppedOn id (Task.complete (timeoutError id))
          (expired.recorded (.timedOut id)) := ⟨⟨rfl, rfl, rfl, rfl⟩, rfl, Nat.le_refl _⟩
      refine ⟨.done, _, _, fun depth => ?_, ticks.trans expires, .goesOn (.ended rfl)⟩
      rw [Interpreter.stepReady_overdue known late]
      exact Act.bind_of_done (@Act.note_unlimited expired unlimited _)
  | false =>
      cases early : task.wakeAt.any (session.clock.now < ·) with
      | true =>
          obtain ⟨wakeAt, set, later⟩ := (Option.any_eq_true _ _).mp early
          have blocks : session.ticked.SteppedOn id (fun task => task)
              (Interpreter.blocking session.ticked) := .ofSame rfl rfl rfl rfl rfl (Nat.le_refl _)
          refine ⟨.blocked, _, Interpreter.blocking session.ticked, fun depth => ?_,
            ticks.trans blocks, .asleep set (of_decide_eq_true later) (.inl rfl)⟩
          exact Interpreter.stepReady_asleep known late early
      | false =>
          let awake := session.ticked.onTask id Interpreter.woken
          have found : awake.scheduler.task? id = some (Interpreter.woken task) :=
            Session.task?_onTask known' Interpreter.woken
          have wakes : session.SteppedOn id Interpreter.woken awake :=
            ticks.trans (.onTask id Interpreter.woken session.ticked)
          cases body : task.body with
          | some function =>
              obtain ⟨status, change, after, ran, stepped, onward⟩ :=
                runStatement_prints found unfinished prints unlimited session.clock.now
              refine ⟨status, _, after, fun depth => ?_, wakes.trans stepped,
                .goesOn (onward.ofSame rfl rfl (.inl rfl))⟩
              rw [Interpreter.stepReady_embodied known late early body]
              exact ran depth
          | none =>
              let ended := awake.onTask id (Task.complete .void)
              cases asleep : task.wakeAt.isSome with
              | false =>
                  refine ⟨.done, _, ended, fun depth => ?_,
                    wakes.trans (.onTask id (Task.complete .void) awake), .goesOn (.ended rfl)⟩
                  rw [Interpreter.stepReady_bodyless known late early body, asleep]
                  rfl
              | true =>
                  have fires : awake.SteppedOn id (Task.complete .void)
                      (ended.recorded (.timerFired id)) :=
                    ⟨⟨rfl, rfl, rfl, rfl⟩, rfl, Nat.le_refl _⟩
                  refine ⟨.done, _, _, fun depth => ?_, wakes.trans fires, .goesOn (.ended rfl)⟩
                  rw [Interpreter.stepReady_bodyless known late early body, if_pos asleep]
                  exact Act.bind_of_done (@Act.note_unlimited ended unlimited _)

theorem step_prints (known : session.scheduler.task? id = some task)
    (unfinished : task.isFinished = false) (prints : task.OnlyPrints)
    (unlimited : session.budget = none) :
    ∃ status change after,
      (∀ depth, (interpreter (depth + 2)).step id session = .done status after) ∧
      session.SteppedOn id change after ∧
      task.Resumes session.scheduler session.clock.now status (change task) := by
  cases marked : task.waitingFor with
  | none =>
      obtain ⟨status, change, after, ran, stepped, resumes⟩ :=
        stepReady_prints known unfinished prints unlimited
      refine ⟨status, change, after, fun depth => ?_, stepped, resumes⟩
      rw [Interpreter.step_free known unfinished marked]
      exact ran depth
  | some awaited =>
      cases ended : session.scheduler.isFinished awaited with
      | true =>
          let free := session.onTask id Task.freed
          have found : free.scheduler.task? id = some task.freed :=
            Session.task?_onTask known Task.freed
          obtain ⟨status, change, after, ran, stepped, resumes⟩ :=
            stepReady_prints found unfinished prints unlimited
          refine ⟨status, _, after, fun depth => ?_,
            (Session.SteppedOn.onTask id _ session).trans stepped, resumes.freed⟩
          rw [Interpreter.step_freed known unfinished marked ended]
          exact ran depth
      | false =>
          let blocked := Interpreter.blocking session
          have blocks : session.SteppedOn id (fun task => task)
              (blocked.recorded (.stillWaiting id awaited)) :=
            .ofSame rfl rfl rfl rfl rfl (Nat.le_refl _)
          refine ⟨.blocked, _, _, fun depth => ?_, blocks, .waiting marked ended⟩
          rw [Interpreter.step_waiting known unfinished marked ended]
          exact Act.bind_of_done (@Act.note_unlimited blocked unlimited _)

end Steps

end CooperativeTasks
