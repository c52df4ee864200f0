import CooperativeTasks.Proofs.QueueInvariant
import CooperativeTasks.Proofs.Seclusion

set_option autoImplicit false

/-! Tasks that have nothing to do with each other.

Every one of them goes through the same turns in a crowd as it does alone, since a turn changes
nothing that the turns of the others look at. So many turns as they take alone, taken together,
bring all of them to the same ends. -/

namespace CooperativeTasks

/-! ### A task alone and in a crowd -/

/-- The same task in two schedulers. It is plain, nobody hinders it, and it has nobody to report
to. -/
structure Task.Twins (task task' : Task) : Prop where
  body : ∃ function, task.body = some function ∧ task'.body = some function ∧
    arePlain function.body = true
  args : task'.args = task.args
  arguments : ∀ value ∈ task.args, value.isFutureless = true
  receiver : task.receiver = none ∧ task'.receiver = none
  waitingFor : task.waitingFor = none ∧ task'.waitingFor = none
  wakeAt : task.wakeAt = none ∧ task'.wakeAt = none
  deadline : task.deadline = none ∧ task'.deadline = none
  futureSite : task.futureSite = none ∧ task'.futureSite = none
  counter : task'.counter = task.counter
  positions : task'.positions = task.positions
  isStarted : task'.isStarted = task.isStarted
  isFinished : task'.isFinished = task.isFinished
  isPublished : task'.isPublished = task.isPublished
  autoYield : task'.autoYield = task.autoYield
  result : task'.result = task.result
  steps : task'.steps = task.steps
  scope : task'.scope.map Scope.bindings = task.scope.map Scope.bindings
  futureless : ∀ scope, task.scope = some scope → Value.areFutureless scope.bindings = true

namespace Task.Twins

variable {task task' : Task} (twins : task.Twins task')

include twins

theorem unhindered : task.Unhindered ∧ task'.Unhindered := by
  obtain ⟨function, here, there, _⟩ := twins.body
  constructor
  · exact ⟨by rw [here]; rfl, twins.waitingFor.1, twins.wakeAt.1, twins.deadline.1⟩
  · exact ⟨by rw [there]; rfl, twins.waitingFor.2, twins.wakeAt.2, twins.deadline.2⟩

theorem start : task.start.Twins task'.start := by
  unfold Task.start
  rw [twins.isStarted]
  split
  · exact twins
  · obtain ⟨function, here, there, _⟩ := twins.body
    have initial : task.initialScope = callScope function task.args none := by
      unfold Task.initialScope
      rw [here, twins.receiver.1]
      rfl
    have initial' : task'.initialScope = callScope function task.args none := by
      unfold Task.initialScope
      rw [there, twins.receiver.2, twins.args]
      rfl
    refine { twins with isStarted := rfl, scope := ?_, futureless := ?_ }
    · rw [initial, initial']
    · intro scope same
      cases same
      rw [initial]
      exact areFutureless_callScope twins.arguments

theorem woken : (Interpreter.woken task).Twins (Interpreter.woken task') :=
  { twins with wakeAt := ⟨rfl, rfl⟩ }

theorem stepCounted : (Interpreter.stepCounted task).Twins (Interpreter.stepCounted task') :=
  { twins with positions := rfl, steps := congrArg (· + 1) twins.steps }

theorem complete (payload : Value) : (task.complete payload).Twins (task'.complete payload) :=
  { twins with isFinished := rfl, waitingFor := ⟨rfl, rfl⟩, wakeAt := ⟨rfl, rfl⟩, result := rfl }

theorem holding {scope scope' : Scope} (same : scope'.bindings = scope.bindings)
    (plain : Value.areFutureless scope.bindings = true) :
    { task with scope := some scope }.Twins { task' with scope := some scope' } := by
  refine { twins with scope := congrArg some same, futureless := ?_ }
  intro held here
  cases here
  exact plain

theorem resting {scope scope' : Scope} (same : scope'.bindings = scope.bindings)
    (plain : Value.areFutureless scope.bindings = true) {positions positions' : Positions}
    (marks : positions' = positions) (next : Nat → Nat) :
    { task with scope := some scope, positions, counter := next task.counter }.Twins
      { task' with scope := some scope', positions := positions', counter := next task'.counter } :=
  { twins.holding same plain with positions := marks, counter := congrArg next twins.counter }

theorem published : { task with isPublished := true, receiver := none }.Twins
    { task' with isPublished := true, receiver := none } :=
  { twins with isPublished := rfl, receiver := ⟨rfl, rfl⟩ }

end Task.Twins

/-- A session with a single task, and one in which the same task is one of many. The queues are as
given, and nothing is running. -/
structure Session.Sharing (structs : List (String × StructDecl)) (id : TaskId)
    (others : TaskId → Option Task) (own queue : List TaskId) (alone crowd : Session) : Prop where
  tasks : ∃ task task', alone.scheduler.tasks = [task] ∧ crowd.scheduler.task? id = some task' ∧
    task.Twins task'
  others : ∀ other, other ≠ id → crowd.scheduler.task? other = others other
  queues : alone.scheduler.queue.ids = own ∧ crowd.scheduler.queue.ids = queue
  active : alone.scheduler.active = [] ∧ crowd.scheduler.active = []
  scopes : alone.executor.scopes.contents = [[]] ∧ crowd.executor.scopes.contents = [[]]
  structs : alone.executor.structs = structs ∧ crowd.executor.structs = structs
  unlimited : alone.budget = none ∧ crowd.budget = none

namespace Session.Sharing

variable {structs : List (String × StructDecl)} {id : TaskId} {others : TaskId → Option Task}
  {own queue : List TaskId} {alone crowd : Session}

theorem onTask (sharing : Sharing structs id others own queue alone crowd)
    {change change' : Task → Task}
    (keeps : ∀ task task' : Task, task.Twins task' → (change task).Twins (change' task')) :
    Sharing structs id others own queue (alone.onTask onlyTask change) (crowd.onTask id change') := by
  obtain ⟨task, task', tasks, found, twins⟩ := sharing.tasks
  refine { sharing with tasks := ⟨change task, change' task', ?_, ?_, keeps task task' twins⟩, others := ?_ }
  · change alone.scheduler.tasks.modify 0 change = _
    rw [tasks]
    rfl
  · change (crowd.scheduler.modifyTask id change').task? id = _
    rw [Scheduler.task?_modifyTask_self, found]
    rfl
  · intro other different
    change (crowd.scheduler.modifyTask id change').task? other = _
    rw [Scheduler.task?_modifyTask_of_ne different]
    exact sharing.others other different

theorem modifyTask {change change' : Task → Task}
    (keeps : ∀ task task' : Task, task.Twins task' → (change task).Twins (change' task')) :
    Act.MirrorsAll (Sharing structs id others own queue) (Act.modifyTask onlyTask change)
      (Act.modifyTask id change') :=
  .update fun _ _ sharing => sharing.onTask keeps

theorem note (event event' : Event) :
    Act.MirrorsAll (Sharing structs id others own queue) (Act.note event) (Act.note event') :=
  .note (fun _ _ sharing => sharing.unlimited) (fun _ _ sharing _ _ => { sharing with }) event event'

end Session.Sharing

/-! ### Steps -/

namespace ScopeStack

theorem contents_push (scope : Scope) (stack : ScopeStack) :
    (stack.push scope).contents = scope.bindings :: stack.contents := by
  unfold push
  split <;> rfl

theorem depth_eq (stack : ScopeStack) : stack.depth = stack.contents.length := by
  simp [depth, contents, frames]

theorem inner_above {stack : ScopeStack} {bindings globals : List (String × Value)}
    (above : stack.contents = [bindings, globals]) :
    ∃ scope, stack.inner = [scope] ∧ scope.bindings = bindings ∧
      stack.global.bindings = globals := by
  unfold contents frames at above
  cases inner : stack.inner with
  | nil => simp [inner] at above
  | cons scope rest =>
      cases rest with
      | nil =>
          simp only [inner, List.cons_append, List.nil_append, List.map_cons, List.map_nil,
            List.cons.injEq, and_true] at above
          exact ⟨scope, rfl, above⟩
      | cons another rest => simp [inner] at above

theorem truncate_above {stack : ScopeStack} {bindings globals : List (String × Value)}
    (above : stack.contents = [bindings, globals]) :
    (stack.truncate 1).contents = [globals] ∧
      ∃ scope, stack.at? 1 = some scope ∧ scope.bindings = bindings := by
  obtain ⟨scope, inner, own, below⟩ := inner_above above
  exact ⟨by simp [contents, frames, truncate, inner, below],
    scope, by simp [at?, frames, inner], own⟩

end ScopeStack

namespace Session.Sharing

variable {structs : List (String × StructDecl)} {id : TaskId} {others : TaskId → Option Task}
  {own queue : List TaskId} {alone crowd : Session} {task task' : Task}

theorem enteringTask (sharing : Sharing structs id others own queue alone crowd)
    (twins : task.Twins task') :
    Agreeing structs (alone.enteringTask onlyTask task).scheduler
      (crowd.enteringTask id task').scheduler (alone.enteringTask onlyTask task)
      (crowd.enteringTask id task') where
  bound := by
    have same : (task'.scope.getD {}).bindings = (task.scope.getD {}).bindings := by
      have bound := congrArg (fun bindings => Option.getD bindings []) twins.scope
      cases here : task.scope <;> cases there : task'.scope <;> simp_all
    have plain : Value.areFutureless (task.scope.getD {}).bindings = true := by
      cases held : task.scope with
      | none => rfl
      | some scope => exact twins.futureless scope held
    refine ⟨(task.scope.getD {}).bindings, plain, ?_, ?_⟩
    · change (alone.executor.scopes.push (task.scope.getD {})).contents = _
      rw [ScopeStack.contents_push, sharing.scopes.1]
    · change (crowd.executor.scopes.push (task'.scope.getD {})).contents = _
      rw [ScopeStack.contents_push, sharing.scopes.2, same]
  structs := sharing.structs
  positions := twins.positions
  autoYield := twins.autoYield
  running := ⟨rfl, rfl⟩
  unlimited := sharing.unlimited
  schedulers := ⟨rfl, rfl⟩

theorem leavingTask (sharing : Sharing structs id others own queue alone crowd) {left left' : Session}
    (agreeing : Agreeing structs (alone.enteringTask onlyTask task).scheduler
      (crowd.enteringTask id task').scheduler left left') :
    Sharing structs id others own queue (left.leavingTask onlyTask task alone.executor)
        (left'.leavingTask id task' crowd.executor) ∧
      ((StepFrame.enter id task' crowd.executor).1.scopeIn left'.executor).bindings =
        ((StepFrame.enter onlyTask task alone.executor).1.scopeIn left.executor).bindings ∧
      Value.areFutureless
        ((StepFrame.enter onlyTask task alone.executor).1.scopeIn left.executor).bindings = true := by
  obtain ⟨bindings, plain, here, there⟩ := agreeing.bound
  have depth : alone.executor.scopes.depth = 1 := by
    rw [ScopeStack.depth_eq, sharing.scopes.1]
    rfl
  have depth' : crowd.executor.scopes.depth = 1 := by
    rw [ScopeStack.depth_eq, sharing.scopes.2]
    rfl
  have schedulers : (left.leavingTask onlyTask task alone.executor).scheduler = alone.scheduler := by
    unfold Session.leavingTask
    rw [agreeing.schedulers.1]
    rfl
  have schedulers' : (left'.leavingTask id task' crowd.executor).scheduler = crowd.scheduler := by
    unfold Session.leavingTask
    rw [agreeing.schedulers.2]
    rfl
  obtain ⟨below, scope, held, bound⟩ := ScopeStack.truncate_above here
  obtain ⟨below', scope', held', bound'⟩ := ScopeStack.truncate_above there
  have inside : (StepFrame.enter onlyTask task alone.executor).1.scopeIn left.executor = scope := by
    change (left.executor.scopes.at? alone.executor.scopes.depth).getD {} = scope
    rw [depth, held]
    rfl
  have inside' : (StepFrame.enter id task' crowd.executor).1.scopeIn left'.executor = scope' := by
    change (left'.executor.scopes.at? crowd.executor.scopes.depth).getD {} = scope'
    rw [depth', held']
    rfl
  rw [inside, inside', bound, bound']
  refine ⟨⟨?_, ?_, ?_, ?_, ⟨?_, ?_⟩, agreeing.structs, agreeing.unlimited⟩, rfl, plain⟩
  · rw [schedulers, schedulers']
    exact sharing.tasks
  · rw [schedulers']
    exact sharing.others
  · rw [schedulers, schedulers']
    exact sharing.queues
  · rw [schedulers, schedulers']
    exact sharing.active
  · change (left.executor.scopes.truncate alone.executor.scopes.depth).contents = _
    rw [depth]
    exact below
  · change (left'.executor.scopes.truncate crowd.executor.scopes.depth).contents = _
    rw [depth']
    exact below'

theorem stepping (depth : Nat) (twins : task.Twins task') {statement : Stmt}
    (plain : statement.isPlain = true) :
    Act.Mirrors (Sharing structs id others own queue) (fun status => status ≠ .blocked)
      ((interpreter depth).stepping onlyTask task statement)
      ((interpreter depth).stepping id task' statement) := by
  intro first second sharing
  obtain ⟨function, here, there, _⟩ := twins.body
  have statements : task'.statements = task.statements := by
    unfold Task.statements
    rw [here, there]
  have ran := plain_mirrors depth [.item task.counter] plain _ _ (sharing.enteringTask twins)
  unfold Interpreter.stepping
  rw [twins.counter]
  generalize (interpreter depth).exec [.item task.counter] statement
    (first.enteringTask onlyTask task) = outcome at ran
  generalize (interpreter depth).exec [.item task.counter] statement
    (second.enteringTask id task') = outcome' at ran
  cases ran with
  | halted => exact .halted
  | done _ agreeing =>
      obtain ⟨left, same, futureless⟩ := sharing.leavingTask agreeing
      have rests (current current' : Task) (pair : current.Twins current') :=
        pair.resting same futureless agreeing.positions (· + 1)
      unfold Interpreter.stepEnding
      dsimp only
      rw [statements, twins.counter]
      split
      · exact .done (by decide) ((left.onTask rests).onTask fun _ _ pair => pair.complete .void)
      · exact .done (by decide) (left.onTask rests)
  | @raised signal _ _ agreeing =>
      obtain ⟨left, same, futureless⟩ := sharing.leavingTask agreeing
      cases signal with
      | suspend fromLoop =>
          refine .done (by decide) (left.onTask fun current current' pair => ?_)
          exact pair.resting same futureless agreeing.positions fun counter =>
            if fromLoop then counter else counter + 1
      | returning value =>
          refine .done (by decide) (.onTask (left.onTask ?_) fun _ _ pair => pair.complete value)
          intro current current' pair
          exact pair.holding same futureless
      | breakLoop => exact .raised left
      | continueLoop => exact .raised left
      | fault cause => exact .raised left

theorem runStatement (depth : Nat) (reading reading' : Nat) :
    Act.Mirrors (Sharing structs id others own queue) (fun status => status ≠ .blocked)
      ((interpreter depth).runStatement onlyTask reading)
      ((interpreter depth).runStatement id reading') := by
  rw [Interpreter.runStatement_eq, Interpreter.runStatement_eq]
  refine .bind (modifyTask fun _ _ twins => twins.start) fun _ _ => ?_
  refine .scheduler fun first second sharing => ?_
  obtain ⟨task, task', tasks, found, twins⟩ := sharing.tasks
  have known : first.scheduler.task? onlyTask = some task := by
    unfold Scheduler.task?
    rw [tasks]
    rfl
  obtain ⟨function, here, there, plain⟩ := twins.body
  have statements : task'.statements = task.statements := by
    unfold Task.statements
    rw [here, there]
  rw [known, found]
  dsimp only
  rw [statements, twins.counter]
  cases present : task.statements[task.counter]? with
  | none =>
      refine .bind (modifyTask fun _ _ pair => pair.complete .void) fun _ _ => .pure (by decide)
  | some statement =>
      have member : statement ∈ function.body := by
        have listed : task.statements = function.body := by
          unfold Task.statements
          rw [here]
        rw [listed] at present
        exact List.mem_of_getElem? present
      refine .bind (.update fun _ _ pair => ?_) fun _ _ => .bind (note _ _) fun _ _ =>
        stepping depth twins ((arePlain_iff function.body).mp plain statement member)
      exact { pair.onTask fun _ _ current => current.stepCounted with }

theorem step (depth : Nat) :
    Act.Mirrors (Sharing structs id others own queue) (fun status => status ≠ .blocked)
      ((interpreter depth).step onlyTask) ((interpreter depth).step id) := by
  intro first second sharing
  obtain ⟨task, task', tasks, found, twins⟩ := sharing.tasks
  have known : first.scheduler.task? onlyTask = some task := by
    unfold Scheduler.task?
    rw [tasks]
    rfl
  cases finished : task.isFinished with
  | true =>
      have finished' : task'.isFinished = true := twins.isFinished.trans finished
      rw [Interpreter.step_finished known finished, Interpreter.step_finished found finished']
      exact .done (by decide) sharing
  | false =>
      rw [Interpreter.step_unhindered known twins.unhindered.1 finished,
        Interpreter.step_unhindered found twins.unhindered.2 (twins.isFinished.trans finished)]
      have ticked : Sharing structs id others own queue first.ticked second.ticked := { sharing with }
      exact runStatement depth _ _ _ _ (ticked.onTask fun _ _ pair => pair.woken)

theorem finalize :
    Act.MirrorsAll (Sharing structs id others own queue) (Act.finalize onlyTask) (Act.finalize id) := by
  refine .scheduler fun first second sharing => ?_
  obtain ⟨task, task', tasks, found, twins⟩ := sharing.tasks
  have known : first.scheduler.task? onlyTask = some task := by
    unfold Scheduler.task?
    rw [tasks]
    rfl
  rw [known, found]
  dsimp only
  rw [twins.isFinished, twins.isPublished]
  split
  · rw [twins.receiver.1, twins.receiver.2, twins.futureSite.1, twins.futureSite.2]
    refine .bind (modifyTask fun _ _ pair => pair.published) fun _ _ => ?_
    refine .bind (.update fun _ _ pair => ?_) fun _ _ => note _ _
    exact { pair with }
  · exact .pure trivial

end Session.Sharing

/-! ### Turns -/

namespace Session.Sharing

variable {structs : List (String × StructDecl)} {id : TaskId} {others : TaskId → Option Task}
  {rest : List TaskId} {alone crowd : Session}

theorem turn {depth : Nat} (sharing : Sharing structs id others [onlyTask] (id :: rest) alone crowd)
    {more : Option (List TaskId)} {after : Session}
    (turned : (interpreter depth).turn [] alone = .done more after) :
    more = some [] ∧ ∃ after', (interpreter depth).turn [] crowd = .done (some []) after' ∧
      (Sharing structs id others [onlyTask] (rest ++ [id]) after after' ∨
        Sharing structs id others [] rest after after') := by
  have popped : Sharing structs id others [] rest (Interpreter.popping onlyTask [] alone)
      (Interpreter.popping id rest crowd) := { sharing with queues := ⟨rfl, rfl⟩ }
  have stepped := step depth _ _ popped
  rw [Interpreter.turn_front sharing.queues.1 sharing.active.1 sharing.unlimited.1] at turned
  rw [Interpreter.turn_front sharing.queues.2 sharing.active.2 sharing.unlimited.2]
  generalize (interpreter depth).step onlyTask (Interpreter.popping onlyTask [] alone) = outcome
    at stepped turned
  generalize (interpreter depth).step id (Interpreter.popping id rest crowd) = outcome' at stepped
  cases stepped with
  | halted => cases turned
  | raised _ => cases turned
  | @done status left left' unblocked pair =>
      cases status with
      | blocked => exact absurd rfl unblocked
      | pending =>
          have requeued := Interpreter.concluding_pending pair.unlimited.1 onlyTask
          have requeued' := Interpreter.concluding_pending pair.unlimited.2 id
          have ended := requeued.symm.trans turned
          cases ended
          refine ⟨rfl, _, requeued', .inl ?_⟩
          refine { pair with queues := ⟨?_, ?_⟩ }
          · change left.scheduler.queue.ids ++ [onlyTask] = _
            rw [pair.queues.1]
            rfl
          · change left'.scheduler.queue.ids ++ [id] = _
            rw [pair.queues.2]
      | done =>
          -- What comes after publishing gives an empty run of blocked tasks.
          have leaves : Act.Mirrors (Sharing structs id others [] rest)
              (fun more : Option (List TaskId) => more = some [])
              (Pure.pure (some [])) (Pure.pure (some [])) := .pure rfl
          have concluded : Outcome.Mirrored (Sharing structs id others [] rest)
              (fun more => more = some []) (Interpreter.concluding onlyTask .done left)
              (Interpreter.concluding id .done left') :=
            Act.Mirrors.bind finalize (fun _ _ => leaves) _ _ pair
          have ended : Interpreter.concluding onlyTask .done left = .done more after := turned
          rw [ended] at concluded
          change more = some [] ∧ ∃ after', Interpreter.concluding id .done left' = _ ∧ _
          generalize Interpreter.concluding id .done left' = outcome at concluded ⊢
          cases concluded with
          | done empty finished =>
              rw [empty]
              exact ⟨rfl, _, rfl, .inr finished⟩

end Session.Sharing

/-- So many turns bring the only task to its end. -/
inductive Interpreter.Brings (interpreter : Interpreter) (ending : Task) : Nat → Session → Prop where
  | ended {session : Session} (tasks : session.scheduler.tasks = [ending])
      (queue : session.scheduler.queue.ids = []) : Brings interpreter ending 0 session
  | turn {turns : Nat} {session after : Session}
      (turned : interpreter.turn [] session = .done (some []) after)
      (later : Brings interpreter ending turns after) :
      Brings interpreter ending (turns + 1) session

/-- A drive of the only task that has come to its end did so turn by turn. -/
theorem brings_of_iterate {depth turns : Nat} {structs : List (String × StructDecl)}
    {others : TaskId → Option Task} {session after : Session}
    (sharing : Session.Sharing structs onlyTask others [onlyTask] [onlyTask] session session)
    (ran : Act.iterate turns (interpreter depth).turn [] session = .done () after) :
    ∃ ending taken, after.scheduler.tasks = [ending] ∧ after.scheduler.queue.ids = [] ∧
      after.budget = none ∧ (interpreter depth).Brings ending taken session := by
  induction turns generalizing session with
  | zero => cases ran
  | succ turns ih =>
      rw [Act.iterate_succ] at ran
      obtain ⟨more, next, turned, rest⟩ := Act.bind_done ran
      obtain ⟨rfl, next', again, goesOn | finished⟩ := sharing.turn turned
      · rw [turned] at again
        cases again
        obtain ⟨ending, taken, tasks, drained, unlimited, brings⟩ := ih goesOn rest
        exact ⟨ending, taken + 1, tasks, drained, unlimited, .turn turned brings⟩
      · rw [turned] at again
        cases again
        obtain ⟨ending, _, tasks, _⟩ := finished.tasks
        cases turns with
        | zero => cases rest
        | succ turns =>
            dsimp only at rest
            rw [Act.iterate, Interpreter.turn_empty finished.queues.1] at rest
            cases rest
            exact ⟨ending, 1, tasks, finished.queues.1, finished.unlimited.1,
              .turn turned (.ended tasks finished.queues.1)⟩

/-! ### Crowds -/

/-- What a list of tasks takes, one after the other. -/
inductive Backlog (takes : TaskId → Nat → Prop) : List TaskId → Nat → Prop where
  | nil : Backlog takes [] 0
  | cons {id : TaskId} {rest : List TaskId} {turns more : Nat} (first : takes id turns)
      (later : Backlog takes rest more) : Backlog takes (id :: rest) (turns + more)

namespace Backlog

variable {takes : TaskId → Nat → Prop} {queue : List TaskId}

theorem concat {id : TaskId} {turns more : Nat} (backlog : Backlog takes queue more)
    (last : takes id turns) : Backlog takes (queue ++ [id]) (more + turns) := by
  induction backlog with
  | nil =>
      rw [Nat.zero_add]
      exact .cons last .nil
  | cons first _ ih =>
      rw [Nat.add_assoc]
      exact .cons first ih

theorem mono {takes' : TaskId → Nat → Prop} {turns : Nat} (backlog : Backlog takes queue turns)
    (weaker : ∀ id ∈ queue, ∀ turns, takes id turns → takes' id turns) :
    Backlog takes' queue turns := by
  induction backlog with
  | nil => exact .nil
  | cons first _ ih =>
      refine .cons (weaker _ List.mem_cons_self _ first) (ih ?_)
      intro id member
      exact weaker id (List.mem_cons_of_mem _ member)

theorem of_all (all : ∀ id ∈ queue, ∃ turns, takes id turns) : ∃ turns, Backlog takes queue turns := by
  induction queue with
  | nil => exact ⟨0, .nil⟩
  | cons id rest ih =>
      obtain ⟨turns, first⟩ := all id List.mem_cons_self
      obtain ⟨more, later⟩ := ih fun other member => all other (List.mem_cons_of_mem id member)
      exact ⟨turns + more, .cons first later⟩

end Backlog

/-- A queued task of a crowd takes so many turns more: alone it does, and comes to the given end. -/
def Takes (depth : Nat) (structs : List (String × StructDecl)) (endings : TaskId → Option Task)
    (crowd : Session) (id : TaskId) (turns : Nat) : Prop :=
  ∃ alone ending, endings id = some ending ∧ (interpreter depth).Brings ending turns alone ∧
    alone.Sharing structs id (fun other => crowd.scheduler.task? other) [onlyTask]
      crowd.scheduler.queue.ids crowd

/-- A crowd in which every task is on its way to the end that it comes to alone, or has come to it.
Those that are queued are to take so many turns. -/
structure Gathered (depth : Nat) (structs : List (String × StructDecl))
    (endings : TaskId → Option Task) (crowd : Session) (turns : Nat) : Prop where
  distinct : crowd.scheduler.queue.ids.Nodup
  backlog : Backlog (Takes depth structs endings crowd) crowd.scheduler.queue.ids turns
  ended : ∀ id ending, endings id = some ending → id ∉ crowd.scheduler.queue.ids →
    ∃ task, crowd.scheduler.task? id = some task ∧ ending.Twins task
  unlimited : crowd.budget = none

section Gathered

variable {depth turns : Nat} {structs : List (String × StructDecl)}
  {endings : TaskId → Option Task} {crowd : Session}

theorem Takes.after {id other : TaskId} {next after : Session} {own queue : List TaskId}
    (takes : Takes depth structs endings crowd other turns)
    (turned : next.Sharing structs id (fun other => crowd.scheduler.task? other) own queue after)
    (different : other ≠ id) : Takes depth structs endings after other turns := by
  obtain ⟨alone, ending, ends, brings, waits⟩ := takes
  obtain ⟨task, task', tasks, found, twins⟩ := waits.tasks
  exact ⟨alone, ending, ends, brings,
    ⟨task, task', tasks, (turned.others other different).trans found, twins⟩, fun _ _ => rfl,
    ⟨waits.queues.1, rfl⟩, ⟨waits.active.1, turned.active.2⟩, ⟨waits.scopes.1, turned.scopes.2⟩,
    ⟨waits.structs.1, turned.structs.2⟩, ⟨waits.unlimited.1, turned.unlimited.2⟩⟩

theorem Gathered.turn (gathered : Gathered depth structs endings crowd turns) {id : TaskId}
    {rest : List TaskId} (queue : crowd.scheduler.queue.ids = id :: rest) :
    ∃ fewer after, turns = fewer + 1 ∧
      (interpreter depth).turn [] crowd = .done (some []) after ∧
      Gathered depth structs endings after fewer := by
  have distinct := gathered.distinct
  have backlog := gathered.backlog
  have ended := gathered.ended
  rw [queue] at distinct backlog ended
  obtain ⟨absent, apart⟩ := List.nodup_cons.mp distinct
  -- A turn concerns the task that has it alone: neither those behind it nor those that have ended.
  have others {next after : Session} {own queue' : List TaskId}
      (turned : next.Sharing structs id (fun other => crowd.scheduler.task? other) own queue' after)
      {more : Nat} (later : Backlog (Takes depth structs endings crowd) rest more) :
      Backlog (Takes depth structs endings after) rest more :=
    later.mono fun other member _ takes => takes.after turned fun same => absent (same ▸ member)
  have settled {next after : Session} {own queue' : List TaskId}
      (turned : next.Sharing structs id (fun other => crowd.scheduler.task? other) own queue' after)
      {other : TaskId} {ending : Task} (ends : endings other = some ending) (different : other ≠ id)
      (gone : other ∉ rest) :
      ∃ task, after.scheduler.task? other = some task ∧ ending.Twins task := by
    rw [turned.others other different]
    exact ended other ending ends fun member => (List.mem_cons.mp member).elim different gone
  cases backlog with
  | @cons _ _ taken more first later =>
      obtain ⟨alone, ending, ends, brings, sharing⟩ := first
      rw [queue] at sharing
      cases brings with
      | ended _ empty =>
          rw [sharing.queues.1] at empty
          cases empty
      | @turn taken _ next turned brings =>
          obtain ⟨-, after, turned', goesOn | finished⟩ := sharing.turn turned
          · refine ⟨more + taken, after, by omega, turned', ?_, ?_, ?_, goesOn.unlimited.2⟩
            · rw [goesOn.queues.2]
              refine List.nodup_append.mpr ⟨apart, List.nodup_cons.mpr ⟨List.not_mem_nil, List.nodup_nil⟩, ?_⟩
              intro other member last own same
              rw [same, List.mem_singleton.mp own] at member
              exact absent member
            · rw [goesOn.queues.2]
              refine (others goesOn later).concat ⟨next, ending, ends, brings, ?_⟩
              rw [goesOn.queues.2]
              exact { goesOn with others := fun _ _ => rfl }
            · intro other ending' ends' gone
              rw [goesOn.queues.2, List.mem_append, List.mem_singleton, not_or] at gone
              exact settled goesOn ends' gone.2 gone.1
          · cases brings with
            | turn again _ =>
                -- Alone the task has left an empty queue, after which there is no turn.
                rw [Interpreter.turn_empty finished.queues.1] at again
                cases again
            | ended tasks _ =>
                refine ⟨more, after, by omega, turned', ?_, ?_, ?_, finished.unlimited.2⟩
                · rw [finished.queues.2]
                  exact apart
                · rw [finished.queues.2]
                  exact others finished later
                · intro other ending' ends' gone
                  rw [finished.queues.2] at gone
                  by_cases same : other = id
                  · obtain ⟨task, task', held, found, twins⟩ := finished.tasks
                    rw [same, ends] at ends'
                    cases ends'
                    rw [tasks] at held
                    cases held
                    rw [same]
                    exact ⟨task', found, twins⟩
                  · exact settled finished ends' same gone

/-- All turns together bring every task to the end that it comes to alone. -/
theorem Gathered.iterate (gathered : Gathered depth structs endings crowd turns) :
    ∃ after, Act.iterate (turns + 1) (interpreter depth).turn [] crowd = .done () after ∧
      after.budget = none ∧
      ∀ id ending, endings id = some ending →
        ∃ task, after.scheduler.task? id = some task ∧ ending.Twins task := by
  induction turns generalizing crowd with
  | zero =>
      cases queue : crowd.scheduler.queue.ids with
      | nil =>
          refine ⟨crowd, ?_, gathered.unlimited, fun id ending ends => ?_⟩
          · rw [Act.iterate, Interpreter.turn_empty queue]
          · exact gathered.ended id ending ends (by rw [queue]; exact List.not_mem_nil)
      | cons id rest =>
          obtain ⟨fewer, _, impossible, _⟩ := gathered.turn queue
          cases impossible
  | succ turns ih =>
      cases queue : crowd.scheduler.queue.ids with
      | nil =>
          have backlog := gathered.backlog
          rw [queue] at backlog
          cases backlog
      | cons id rest =>
          obtain ⟨fewer, next, same, turned, later⟩ := gathered.turn queue
          cases same
          obtain ⟨after, ran, rest⟩ := ih later
          refine ⟨after, ?_, rest⟩
          rw [Act.iterate, turned]
          exact ran

end Gathered

/-! ### Whole runs -/

abbrev AsyncCall := FunctionDecl × List Value

namespace Act

def spawnAll : List AsyncCall → Act Unit
  | [] => return
  | call :: rest => do
      let _ ← spawn call.1 call.2
      spawnAll rest

end Act

def Interpreter.runCrowd (interpreter : Interpreter) (calls : List AsyncCall) : Act Unit := do
  Act.spawnAll calls
  interpreter.run

def spawnedTask (id : TaskId) (call : AsyncCall) : Task :=
  { Task.ofFunction call.1 call.2 with id, autoYield := !call.1.hasYield }

theorem spawnedTask_twins {call : AsyncCall} (plain : arePlain call.1.body = true)
    (arguments : ∀ value ∈ call.2, value.isFutureless = true) (id id' : TaskId) :
    (spawnedTask id call).Twins (spawnedTask id' call) := by
  refine ⟨⟨call.1, rfl, rfl, plain⟩, rfl, arguments, ⟨rfl, rfl⟩, ⟨rfl, rfl⟩, ⟨rfl, rfl⟩, ⟨rfl, rfl⟩,
    ⟨rfl, rfl⟩, rfl, rfl, rfl, rfl, rfl, rfl, rfl, rfl, rfl, ?_⟩
  intro scope impossible
  cases impossible

def Session.spawning (call : AsyncCall) (session : Session) : Session :=
  let id := session.scheduler.ids.next
  let registered := (session.scheduler.register (.ofFunction call.1 call.2)).2
  { session with scheduler := registered }.recorded
    (.registered id call.1.qualifiedName ((registered.task? id).any Task.autoYield))

theorem Act.spawnAll_eq (calls : List AsyncCall) {session : Session}
    (unlimited : session.budget = none) :
    spawnAll calls session =
      .done () (calls.foldl (fun earlier call => earlier.spawning call) session) := by
  induction calls generalizing session with
  | nil => rfl
  | cons call rest ih =>
      have spawned : spawn call.1 call.2 session =
          .done session.scheduler.ids.next (session.spawning call) :=
        register_unlimited unlimited _
      rw [spawnAll, bind_apply, spawned]
      exact ih unlimited

/-- After spawning, the tasks of the calls are registered and queued in order, and nothing else has
changed. -/
structure Session.Spawned (calls : List AsyncCall) (before after : Session) : Prop where
  executor : after.executor = before.executor
  budget : after.budget = before.budget
  active : after.scheduler.active = before.scheduler.active
  count : after.scheduler.tasks.length = before.scheduler.tasks.length + calls.length
  known : ∀ id : TaskId, id.index < before.scheduler.tasks.length →
    after.scheduler.task? id = before.scheduler.task? id
  tasks : ∀ index call, calls[index]? = some call →
    after.scheduler.task? ⟨before.scheduler.tasks.length + index⟩ =
      some (spawnedTask ⟨before.scheduler.tasks.length + index⟩ call)
  queue : after.scheduler.queue.ids = before.scheduler.queue.ids ++
    (List.range' before.scheduler.tasks.length calls.length).map TaskId.mk

theorem Session.spawned_foldl (calls : List AsyncCall) {session : Session}
    (numbered : session.scheduler.ids.next = ⟨session.scheduler.tasks.length⟩) :
    session.Spawned calls (calls.foldl (fun earlier call => earlier.spawning call) session) := by
  induction calls generalizing session with
  | nil =>
      exact ⟨rfl, rfl, rfl, rfl, fun _ _ => rfl, fun _ _ impossible => (nomatch impossible),
        by simp⟩
  | cons call rest ih =>
      have tasks (id : TaskId) : (session.spawning call).scheduler.task? id =
          if id.index = session.scheduler.tasks.length then
            some (spawnedTask ⟨session.scheduler.tasks.length⟩ call)
          else session.scheduler.task? id := by
        rw [← numbered]
        exact Scheduler.task?_register ..
      have count : (session.spawning call).scheduler.tasks.length =
          session.scheduler.tasks.length + 1 :=
        Scheduler.length_register _ session.scheduler
      have queue : (session.spawning call).scheduler.queue.ids = session.scheduler.queue.ids ++
          [⟨session.scheduler.tasks.length⟩] := by
        rw [← numbered]
        rfl
      have next : (session.spawning call).scheduler.ids.next =
          ⟨(session.spawning call).scheduler.tasks.length⟩ := by
        rw [count]
        change TaskId.mk (session.scheduler.ids.next.index + 1) = _
        rw [numbered]
      have later := ih next
      refine ⟨later.executor, later.budget, later.active, ?_, ?_, ?_, ?_⟩
      · rw [List.foldl_cons, later.count, count, List.length_cons]
        omega
      · intro id within
        rw [List.foldl_cons, later.known id (by omega), tasks, if_neg (Nat.ne_of_lt within)]
      · intro index other present
        cases index with
        | zero =>
            cases present
            rw [List.foldl_cons, later.known _ (by rw [count]; exact Nat.lt_succ_self _), tasks]
            exact if_pos rfl
        | succ index =>
            have found := later.tasks index other present
            rw [count, Nat.add_assoc, Nat.add_comm 1 index] at found
            exact found
      · rw [List.foldl_cons, later.queue, queue, count, List.length_cons, List.range'_succ]
        simp

/-! ### Whole runs together and alone -/

def Session.gathering (calls : List AsyncCall) (session : Session) : Session :=
  let spawned := calls.foldl (fun earlier call => earlier.spawning call) session
  spawned.recorded (.driving spawned.scheduler.queue.size)

theorem Interpreter.runCrowd_eq (interpreter : Interpreter) (calls : List AsyncCall)
    (settings : SchedulerSettings) (session : Session) :
    interpreter.runCrowd calls (session.unoccupied settings) =
      Act.bind (Act.iterate interpreter.turns interpreter.turn []) (fun _ => Act.note .drained)
        ((session.unoccupied settings).gathering calls) := by
  have spawned := @Session.spawned_foldl calls (session.unoccupied settings) rfl
  have unlimited : (calls.foldl (fun earlier call => earlier.spawning call)
      (session.unoccupied settings)).budget = none := spawned.budget
  rw [runCrowd, Act.bind_apply, Act.spawnAll_eq calls rfl]
  change interpreter.run _ = _
  rw [run, Act.scheduler_bind, Act.bind_apply, Act.note_unlimited unlimited]
  rfl

theorem Interpreter.DeepensTo.runSpawned {shallow deep : Interpreter}
    (deepens : shallow.DeepensTo deep) (function : FunctionDecl) (args : List Value) :
    Deepens .expression (shallow.runSpawned function args) (deep.runSpawned function args) :=
  .bind (.register (.ofFunction function args)) fun _ => deepens.related.run

theorem Interpreter.DeepensTo.runCrowd {shallow deep : Interpreter}
    (deepens : shallow.DeepensTo deep) (calls : List AsyncCall) :
    Deepens .expression (shallow.runCrowd calls) (deep.runCrowd calls) := by
  have spawns : Deepens .expression (Act.spawnAll calls) (Act.spawnAll calls) := by
    induction calls with
    | nil => exact .pure ()
    | cons call rest ih => exact .bind (.register (.ofFunction call.1 call.2)) fun _ => ih
  exact .bind spawns fun _ => deepens.related.run

theorem Deepens.done {α : Type} {layer : Layer} {short long : Act α}
    (deepens : Deepens layer short long) {session after : Session} {value : α}
    (ran : short session = .done value after) : long session = .done value after := by
  have longer := deepens.extends.outcome (some 0) session
  rw [Session.granted_zero, ran] at longer
  rw [longer.ofDone, Session.granted_zero]

theorem runSpawned_deeper {depth deeper : Nat} (within : depth ≤ deeper) {call : AsyncCall}
    {session lone : Session}
    (ran : (interpreter depth).runSpawned call.1 call.2 session = .done () lone) :
    (interpreter deeper).runSpawned call.1 call.2 session = .done () lone :=
  ((interpreter_deepens within).runSpawned call.1 call.2).done ran

section

variable {session : Session} (noScopes : session.executor.scopes.inner = [])
  (noGlobals : session.executor.scopes.global.bindings = []) (settings : SchedulerSettings)
  {calls : List AsyncCall}

include noScopes noGlobals

theorem Session.sharing_gathering {index : Nat} {call : AsyncCall}
    (present : calls[index]? = some call) (plain : arePlain call.1.body = true)
    (arguments : ∀ value ∈ call.2, value.isFutureless = true) :
    Sharing session.executor.structs ⟨index⟩
      (fun other => ((session.unoccupied settings).gathering calls).scheduler.task? other)
      [onlyTask] ((List.range' 0 calls.length).map TaskId.mk)
      (Interpreter.spawned call.1 call.2 (session.unoccupied settings))
      ((session.unoccupied settings).gathering calls) := by
  have spawned := @Session.spawned_foldl calls (session.unoccupied settings) rfl
  have found : ((session.unoccupied settings).gathering calls).scheduler.task? ⟨index⟩ =
      some (spawnedTask ⟨index⟩ call) := by
    have known := spawned.tasks index call present
    have place : (session.unoccupied settings).scheduler.tasks.length + index = index :=
      Nat.zero_add index
    rw [place] at known
    exact known
  have executor : ((session.unoccupied settings).gathering calls).executor = session.executor :=
    spawned.executor
  have nothing : session.executor.scopes.contents = [[]] := by
    unfold ScopeStack.contents ScopeStack.frames
    rw [noScopes, List.nil_append, List.map_singleton, noGlobals]
  refine ⟨⟨_, _, rfl, found, spawnedTask_twins plain arguments onlyTask ⟨index⟩⟩, fun _ _ => rfl,
    ⟨rfl, ?_⟩, ⟨rfl, ?_⟩, ⟨nothing, ?_⟩, ⟨rfl, ?_⟩, ⟨rfl, ?_⟩⟩
  · exact spawned.queue
  · exact spawned.active
  · rw [executor]
    exact nothing
  · rw [executor]
  · exact spawned.budget

theorem Interpreter.brings_of_runSpawned {depth : Nat} {call : AsyncCall}
    (plain : arePlain call.1.body = true)
    (arguments : ∀ value ∈ call.2, value.isFutureless = true) {lone : Session}
    (ran : (interpreter depth).runSpawned call.1 call.2 (session.unoccupied settings) =
      .done () lone) :
    ∃ ending taken, lone.scheduler.tasks = [ending] ∧ ending.isFinished = true ∧
      (interpreter depth).Brings ending taken
        (spawned call.1 call.2 (session.unoccupied settings)) := by
  have keeps := (RunningTasks.accounts_upholds True).keeps
    ((interpreter_deepens (Nat.le_refl depth)).runSpawned call.1 call.2) .nothing
  have fresh : RunningTasks.nothing.Rest True none (session.unoccupied settings).scheduler :=
    ⟨Scheduler.accounted_fresh True settings, rfl, fun _ impossible => (nomatch impossible)⟩
  have rests := (keeps.done fresh ran).ok
  have sharing := Session.sharing_gathering noScopes noGlobals settings
    (List.getElem?_cons_zero : [call][0]? = some call) plain arguments
  rw [runSpawned_eq] at ran
  obtain ⟨_, drained, driven, ends⟩ := Act.bind_done ran
  obtain ⟨ending, taken, tasks, empty, unlimited, brings⟩ := brings_of_iterate sharing driven
  rw [Act.note_unlimited unlimited] at ends
  cases ends
  refine ⟨ending, taken, tasks, ?_, brings⟩
  cases finished : ending.isFinished with
  | true => rfl
  | false =>
      have found : drained.scheduler.task? onlyTask = some ending := by
        unfold Scheduler.task?
        rw [tasks]
        rfl
      rcases rests.accounted.covered onlyTask ⟨ending, found, finished⟩ with
        queued | runs | impossible
      · change onlyTask ∈ drained.scheduler.queue.ids at queued
        rw [empty] at queued
        cases queued
      · rw [rests.active] at runs
        cases runs
      · cases impossible

end

theorem runSpawned_together {calls : List AsyncCall} {session : Session}
    (alone : ∀ call ∈ calls, ∃ depth lone,
      (interpreter depth).runSpawned call.1 call.2 session = .done () lone) :
    ∃ depth, ∀ call ∈ calls, ∃ lone,
      (interpreter depth).runSpawned call.1 call.2 session = .done () lone := by
  induction calls with
  | nil => exact ⟨0, fun _ impossible => (nomatch impossible)⟩
  | cons call rest ih =>
      obtain ⟨here, lone, first⟩ := alone call List.mem_cons_self
      obtain ⟨there, later⟩ := ih fun other member => alone other (List.mem_cons_of_mem call member)
      refine ⟨max here there, fun other member => ?_⟩
      rcases List.mem_cons.mp member with rfl | member
      · exact ⟨lone, runSpawned_deeper (Nat.le_max_left ..) first⟩
      · obtain ⟨lone', ran⟩ := later other member
        exact ⟨lone', runSpawned_deeper (Nat.le_max_right ..) ran⟩

theorem runSpawned_unique {depth depth' : Nat} {call : AsyncCall} {session lone lone' : Session}
    (ran : (interpreter depth).runSpawned call.1 call.2 session = .done () lone)
    (ran' : (interpreter depth').runSpawned call.1 call.2 session = .done () lone') :
    lone' = lone := by
  have same := (runSpawned_deeper (Nat.le_max_right depth depth') ran').symm.trans
    (runSpawned_deeper (Nat.le_max_left depth depth') ran)
  cases same
  rfl

/-- The task of a call as the run of it alone leaves it. -/
def Interpreter.endingAlone (interpreter : Interpreter) (session : Session) (call : AsyncCall) :
    Option Task :=
  match interpreter.runSpawned call.1 call.2 session with
  | .done _ lone => lone.scheduler.task? onlyTask
  | _ => none

theorem Interpreter.endingAlone_eq {interpreter : Interpreter} {session lone : Session}
    {call : AsyncCall} {ending : Task}
    (ran : interpreter.runSpawned call.1 call.2 session = .done () lone)
    (tasks : lone.scheduler.tasks = [ending]) :
    interpreter.endingAlone session call = some ending := by
  unfold endingAlone
  rw [ran]
  dsimp only
  unfold Scheduler.task?
  rw [tasks]
  rfl

/-- A task that has been finished in two schedulers, and has come to the same in both. -/
structure Task.EndsAlike (task task' : Task) : Prop where
  isFinished : task.isFinished = true ∧ task'.isFinished = true
  result : task'.result = task.result
  bindings : task'.scope.map Scope.bindings = task.scope.map Scope.bindings
  counter : task'.counter = task.counter
  steps : task'.steps = task.steps

theorem Task.Twins.endsAlike {task task' : Task} (twins : task.Twins task')
    (finished : task.isFinished = true) : task.EndsAlike task' :=
  ⟨⟨finished, twins.isFinished.trans finished⟩, twins.result, twins.scope, twins.counter, twins.steps⟩

section

variable {session : Session} {settings : SchedulerSettings} {calls : List AsyncCall} {depth : Nat}
  (noScopes : session.executor.scopes.inner = [])
  (noGlobals : session.executor.scopes.global.bindings = [])
  (plain : ∀ call ∈ calls, arePlain call.1.body = true)
  (arguments : ∀ call ∈ calls, ∀ value ∈ call.2, value.isFutureless = true)
  (alone : ∀ call ∈ calls, ∃ lone,
    (interpreter depth).runSpawned call.1 call.2 (session.unoccupied settings) = .done () lone)

include noScopes noGlobals plain arguments alone

theorem gathered_gathering :
    ∃ turns, Gathered depth session.executor.structs
      (fun id => calls[id.index]?.bind
        ((interpreter depth).endingAlone (session.unoccupied settings)))
      ((session.unoccupied settings).gathering calls) turns := by
  have spawned := @Session.spawned_foldl calls (session.unoccupied settings) rfl
  have queue : ((session.unoccupied settings).gathering calls).scheduler.queue.ids =
      (List.range' 0 calls.length).map TaskId.mk := spawned.queue
  have queued (id : TaskId) :
      id ∈ (List.range' 0 calls.length).map TaskId.mk ↔ id.index < calls.length := by
    simp only [List.mem_map, List.mem_range'_1]
    constructor
    · rintro ⟨index, within, rfl⟩
      change index < calls.length
      omega
    · intro within
      exact ⟨id.index, by omega, rfl⟩
  -- Before the first turn every task stands as it does alone.
  have takes (id : TaskId) (member : id ∈ (List.range' 0 calls.length).map TaskId.mk) :
      ∃ turns, Takes depth session.executor.structs
        (fun id => calls[id.index]?.bind
          ((interpreter depth).endingAlone (session.unoccupied settings)))
        ((session.unoccupied settings).gathering calls) id turns := by
    obtain ⟨call, present⟩ : ∃ call, calls[id.index]? = some call :=
      ⟨_, List.getElem?_eq_getElem ((queued id).mp member)⟩
    have listed := List.mem_of_getElem? present
    obtain ⟨lone, ran⟩ := alone call listed
    obtain ⟨ending, taken, tasks, _, brings⟩ := Interpreter.brings_of_runSpawned noScopes noGlobals
      settings (plain call listed) (arguments call listed) ran
    refine ⟨taken, _, ending, ?_, brings, ?_⟩
    · dsimp only
      rw [present]
      exact Interpreter.endingAlone_eq ran tasks
    · rw [queue]
      exact Session.sharing_gathering noScopes noGlobals settings present (plain call listed)
        (arguments call listed)
  obtain ⟨turns, backlog⟩ := Backlog.of_all takes
  refine ⟨turns, ?_, ?_, ?_, spawned.budget⟩
  · rw [queue]
    refine List.pairwise_map.mpr (List.Pairwise.imp ?_ List.nodup_range')
    intro index other different same
    cases same
    exact different rfl
  · rw [queue]
    exact backlog
  · intro id ending ends gone
    obtain ⟨call, present, _⟩ := Option.bind_eq_some_iff.mp ends
    rw [queue, queued] at gone
    exact absurd (List.getElem?_eq_some_iff.mp present).1 gone

/-- So many turns as the tasks take alone bring all of them to their ends. -/
theorem runCrowd_ends :
    ∃ turns after,
      Interpreter.runCrowd { interpreter depth with turns } calls (session.unoccupied settings) =
          .done () after ∧
        ∀ index call, calls[index]? = some call → ∀ lone,
          (interpreter depth).runSpawned call.1 call.2 (session.unoccupied settings) =
            .done () lone →
          ∃ task task', lone.scheduler.tasks = [task] ∧
            after.scheduler.task? ⟨index⟩ = some task' ∧ task.EndsAlike task' := by
  -- The turns are those that the tasks take alone, and the driver makes one more to find the queue
  -- empty.
  obtain ⟨turns, gathered⟩ := gathered_gathering noScopes noGlobals plain arguments alone
  obtain ⟨after, driven, unlimited, ended⟩ := gathered.iterate
  refine ⟨turns + 1, after.recorded .drained, ?_, ?_⟩
  · have same : Act.iterate (turns + 1)
        (Interpreter.turn { interpreter depth with turns := turns + 1 }) []
        ((session.unoccupied settings).gathering calls) = .done () after := driven
    rw [Interpreter.runCrowd_eq]
    unfold Act.bind
    dsimp only
    rw [same]
    exact Act.note_unlimited unlimited .drained
  · intro index call present lone ran
    have listed := List.mem_of_getElem? present
    obtain ⟨ending, _, tasks, finished, _⟩ := Interpreter.brings_of_runSpawned noScopes noGlobals
      settings (plain _ listed) (arguments _ listed) ran
    have ends : calls[index]?.bind
        ((interpreter depth).endingAlone (session.unoccupied settings)) = some ending := by
      rw [present]
      exact Interpreter.endingAlone_eq ran tasks
    obtain ⟨task, found, twins⟩ := ended ⟨index⟩ ending ends
    exact ⟨ending, task, tasks, found, twins.endsAlike finished⟩

end

/-- Plain tasks that come to their ends alone come to the same ends together, in whichever order
they are spawned. Since every task ends after as many steps as alone, none of them is skipped,
repeated or led elsewhere by the turns of the others. -/
theorem independent_tasks_end_alike (calls : List AsyncCall) (settings : SchedulerSettings)
    (session : Session) (noScopes : session.executor.scopes.inner = [])
    (noGlobals : session.executor.scopes.global.bindings = [])
    (plain : ∀ call ∈ calls, arePlain call.1.body = true)
    (arguments : ∀ call ∈ calls, ∀ value ∈ call.2, value.isFutureless = true)
    (alone : ∀ call ∈ calls, ∃ depth lone,
      (interpreter depth).runSpawned call.1 call.2 (session.unoccupied settings) =
        .done () lone) :
    ∃ enough, ∀ deeper, enough ≤ deeper → ∃ after,
      (interpreter deeper).runCrowd calls (session.unoccupied settings) = .done () after ∧
        ∀ index call, calls[index]? = some call → ∀ depth lone,
          (interpreter depth).runSpawned call.1 call.2 (session.unoccupied settings) =
            .done () lone →
          ∃ task task', lone.scheduler.tasks = [task] ∧
            after.scheduler.task? ⟨index⟩ = some task' ∧ task.EndsAlike task' := by
  obtain ⟨common, together⟩ := runSpawned_together alone
  obtain ⟨turns, after, ran, ends⟩ := runCrowd_ends noScopes noGlobals plain arguments together
  refine ⟨max common (turns + 1), fun deeper enough => ⟨after, ?_, ?_⟩⟩
  · have lower := interpreter_deepens (Nat.le_trans (Nat.le_max_left ..) enough)
    have reaches : turns ≤ (interpreter deeper).turns := by
      have more : turns + 1 ≤ deeper := Nat.le_trans (Nat.le_max_right ..) enough
      obtain ⟨deep, rfl⟩ : ∃ deep, deeper = deep + 1 := ⟨deeper - 1, by omega⟩
      exact Nat.le_of_succ_le_succ more
    have deepens : Interpreter.DeepensTo { interpreter common with turns } (interpreter deeper) :=
      ⟨⟨deeper, rfl⟩, lower.eval, lower.exec, reaches⟩
    exact (deepens.runCrowd calls).done ran
  · intro index call present depth lone ran'
    obtain ⟨lone', ran''⟩ := together call (List.mem_of_getElem? present)
    rw [runSpawned_unique ran'' ran']
    exact ends index call present lone' ran''

/-- A body that keeps what it was given over a turn of another task. -/
def givingWay : FunctionDecl where
  name := "givingWay"
  params := ["given"]
  body := [.letVar "kept" (.var "given"), .yield, .returning (some (.var "kept"))]
  isAsync := true
  owner := none

/-- Two tasks that use the same names, of which each ends with what it was given. -/
theorem independent_tasks_end_alike_givingWay :
    ∃ enough, ∀ deeper, enough ≤ deeper → ∃ after first second,
      (interpreter deeper).runCrowd [(givingWay, [.int 7]), (givingWay, [.int 8])]
          (Session.unoccupied {} {}) = .done () after ∧
        after.scheduler.task? ⟨0⟩ = some first ∧ first.result = some (.int 7) ∧ first.steps = 3 ∧
        after.scheduler.task? ⟨1⟩ = some second ∧ second.result = some (.int 8) := by
  have alone (given : Int64) : ∃ lone task,
      (interpreter 5).runSpawned givingWay [.int given] (Session.unoccupied {} {}) =
        .done () lone ∧ lone.scheduler.tasks = [task] ∧ task.result = some (.int given) ∧
        task.steps = 3 := ⟨_, _, rfl, rfl, rfl, rfl⟩
  obtain ⟨lone, task, ran, tasks, result, steps⟩ := alone 7
  obtain ⟨lone', task', ran', tasks', result', -⟩ := alone 8
  obtain ⟨enough, together⟩ := independent_tasks_end_alike
    [(givingWay, [.int 7]), (givingWay, [.int 8])] {} {} rfl rfl (by decide)
    (by simp [Value.isFutureless]) (by
      intro call member
      rcases List.mem_cons.mp member with rfl | member
      · exact ⟨5, lone, ran⟩
      · rw [List.mem_singleton.mp member]
        exact ⟨5, lone', ran'⟩)
  refine ⟨enough, fun deeper within => ?_⟩
  obtain ⟨after, crowd, ends⟩ := together deeper within
  obtain ⟨_, first, here, found, same⟩ := ends 0 _ rfl 5 lone ran
  obtain ⟨_, second, there, found', same'⟩ := ends 1 _ rfl 5 lone' ran'
  cases tasks.symm.trans here
  cases tasks'.symm.trans there
  exact ⟨after, first, second, crowd, found, same.result.trans result, same.steps.trans steps,
    found', same'.result.trans result'⟩

end CooperativeTasks
