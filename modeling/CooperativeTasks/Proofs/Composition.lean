import CooperativeTasks.Interpreter.Run

set_option autoImplicit false

/-! What the actions of the interpreter are made of.

Every action is put together from a few pieces: changes that a program makes on its own, the
three brackets in which other bodies run (a call, an await, a turn of the queue), and the
ways of joining actions. A relation of actions that has the pieces and is kept by the joins has
everything that interpreters do. The way through the interpreter is taken here once, for all such
relations; a property of actions is a relation of each action to itself. -/

namespace CooperativeTasks

variable {α β σ : Type}

def Outcome.of (after : Session) : Except Signal α → Outcome α
  | .ok value => .done value after
  | .error signal => .raised signal after

theorem Outcome.of_inj {first second : Session} {result result' : Except Signal α}
    (same : Outcome.of first result = .of second result') : first = second ∧ result = result' := by
  cases result <;> cases result' <;> cases same <;> exact ⟨rfl, rfl⟩

theorem Outcome.done_of {value : α} {first second : Session} {result : Except Signal α}
    (same : Outcome.done value first = .of second result) : first = second ∧ .ok value = result :=
  of_inj same

theorem Outcome.raised_of {signal : Signal} {first second : Session} {result : Except Signal α}
    (same : Outcome.raised signal first = .of second result) :
    first = second ∧ .error signal = result :=
  of_inj same

theorem Outcome.halted_of {moment after : Session} {result : Except Signal α}
    (same : Outcome.halted moment = .of after result) : False := by
  cases result <;> cases same

theorem Outcome.of_or_halted (outcome : Outcome α) :
    (∃ result after, outcome = .of after result) ∨ ∃ moment, outcome = .halted moment := by
  cases outcome with
  | done value after => exact .inl ⟨.ok value, after, rfl⟩
  | raised signal after => exact .inl ⟨.error signal, after, rfl⟩
  | halted moment => exact .inr ⟨moment, rfl⟩

def Outcome.isDone : Outcome α → Bool
  | .done _ _ => true
  | _ => false

def Outcome.isRaised : Outcome α → Bool
  | .raised _ _ => true
  | _ => false

theorem Outcome.eq_done {outcome : Outcome α} (ended : outcome.isDone = true) :
    ∃ value, outcome = .done value outcome.session := by
  cases outcome with
  | done value after => exact ⟨value, rfl⟩
  | raised signal after => cases ended
  | halted moment => cases ended

theorem Outcome.eq_raised {outcome : Outcome α} (ended : outcome.isRaised = true) :
    ∃ signal, outcome = .raised signal outcome.session := by
  cases outcome with
  | done value after => cases ended
  | raised signal after => exact ⟨signal, rfl⟩
  | halted moment => cases ended

/-! ### Actions as chains -/

namespace Act

theorem bind_apply (first : Act α) (next : α → Act β) (session : Session) :
    (first >>= next) session =
      match first session with
      | .done value after => next value after
      | .raised signal after => .raised signal after
      | .halted moment => .halted moment :=
  rfl

theorem bind_of_done {first : Act α} {next : α → Act β} {session after : Session} {value : α}
    (ran : first session = .done value after) : (first >>= next) session = next value after := by
  rw [bind_apply, ran]

theorem bind_of_raised {first : Act α} {next : α → Act β} {session after : Session}
    {signal : Signal} (ran : first session = .raised signal after) :
    (first >>= next) session = .raised signal after := by
  rw [bind_apply, ran]

theorem bind_of_halted {first : Act α} {next : α → Act β} {session moment : Session}
    (ran : first session = .halted moment) : (first >>= next) session = .halted moment := by
  rw [bind_apply, ran]

theorem bind_assoc {γ : Type} (first : Act α) (next : α → Act β) (last : β → Act γ) :
    (first >>= next) >>= last = first >>= fun value => next value >>= last := by
  funext session
  simp only [bind_apply]
  cases first session <;> rfl

theorem scheduler_bind (next : Scheduler → Act β) (session : Session) :
    (scheduler >>= next) session = next session.scheduler session :=
  rfl

theorem attempt_bind (action : Act α) (next : Except Signal α → Act β) (session : Session) :
    (attempt action >>= next) session =
      match action session with
      | .done value after => next (.ok value) after
      | .raised signal after => next (.error signal) after
      | .halted moment => .halted moment := by
  rw [bind_apply]
  unfold attempt
  cases action session <;> rfl

theorem attempt_of {action : Act α} {session after : Session} {result : Except Signal α}
    (ended : action session = .of after result) : attempt action session = .done result after := by
  unfold attempt
  rw [ended]
  cases result <;> rfl

theorem attempt_bind_of {action : Act α} {session after : Session} {result : Except Signal α}
    (ended : action session = .of after result) (next : Except Signal α → Act β) :
    (attempt action >>= next) session = next result after := by
  rw [bind_apply, attempt_of ended]

theorem bind_eq_attempt (first : Act α) (next : α → Act β) :
    (first >>= next) =
      (do
        match ← attempt first with
        | .ok value => next value
        | .error signal => raise signal) := by
  funext session
  rw [attempt_bind, bind_apply]
  cases first session <;> rfl

theorem note_eq (event : Event) :
    note event =
      (do
        update fun session => { session with journal := event :: session.journal }
        moment) :=
  rfl

theorem readClock_eq :
    readClock =
      (do
        let now ← read fun session => session.clock.now
        update fun session =>
          { session with
            clock := { session.clock with now := session.clock.now + session.clock.tick } }
        return now) :=
  rfl

theorem faulting_eq (action : Act α) :
    faulting action =
      (do
        match ← attempt action with
        | .ok value => return value
        | .error signal => fail signal.toFault) := by
  funext session
  simp only [faulting, bind_apply, attempt]
  cases action session <;> rfl

theorem iterate_succ (turns : Nat) (action : σ → Act (Option σ)) (state : σ) :
    iterate (turns + 1) action state =
      (do
        match ← action state with
        | none => return ()
        | some next => iterate turns action next : Act Unit) := by
  funext session
  simp only [iterate, bind_apply]
  cases action state session with
  | done next after => cases next <;> rfl
  | raised signal after => rfl
  | halted moment => rfl

/-- What holds of a halt and of an end, and is kept when a turn is put in front, holds of turns in
any number. -/
theorem iterate_closed {holds : Act Unit → Prop} {action : σ → Act (Option σ)}
    (halted : holds halt) (ended : holds (Pure.pure ()))
    (turn : ∀ state (next : Option σ → Act Unit), (∀ more, holds (next more)) →
      holds (action state >>= next))
    (turns : Nat) (state : σ) : holds (iterate turns action state) := by
  -- A loop that runs out of turns is halted.
  induction turns generalizing state with
  | zero => exact halted
  | succ turns ih =>
      rw [iterate_succ]
      refine turn state _ fun more => ?_
      cases more with
      | none => exact ended
      | some next => exact ih next

theorem register_eq (task : Task) :
    register task =
      (do
        let id ← read fun session => session.scheduler.ids.next
        update fun session =>
          { session with scheduler := (session.scheduler.register task).2 }
        let registered ← scheduler
        note (.registered id task.name ((registered.task? id).any Task.autoYield))
        return id) :=
  rfl

theorem writePlace_eq (name : String) (value : Value) :
    writePlace name value =
      (do
        let outcome ← read fun session => (session.executor.scopes.writePlace name value).2
        updateScopes fun scopes => (scopes.writePlace name value).1
        ofExcept outcome) :=
  rfl

/-- A synchronous call of a body, as far as it is the same for all bodies: it takes a level of
the call depth, gives the body a scope and a context of its own, and puts everything back. Gives
the returned value and the executor as the body left it. -/
def calling (name : String) (scope : Scope) (body : Act Unit) : Act (Value × Executor) := do
  let before ← executor
  let limit := before.settings.maxCallDepth
  if limit ≤ before.callDepth then
    fail (.callDepthExceeded limit)
  else
    note (.called name before.callDepth)
    updateExecutor (Executor.enterCall scope)
    let outcome ← attempt body
    let left ← executor
    updateExecutor (Executor.leaveCall before)
    match outcome with
    | .ok () => return (.void, left)
    | .error (.returning value) => return (value, left)
    | .error signal => fail signal.toFault

/-- An action whose end is a moment, whichever way it ends. -/
def concluded (action : Act Unit) : Act Unit := do
  let outcome ← attempt action
  moment
  ofAttempt outcome

/-- An await, whatever is done to get the task finished. -/
def awaiting (id : TaskId) (drive : Act Unit) : Act Unit := do
  let current := (← executor).currentTask
  note (.awaiting id current)
  match current with
  | none => pure ()
  | some waiter => updateScheduler (Scheduler.waitOn waiter id)
  let outcome ← attempt drive
  match current with
  | none => pure ()
  | some waiter => updateScheduler (Scheduler.clearWait waiter)
  note (.awaitEnded id current)
  ofAttempt outcome

end Act

namespace Interpreter

theorem callSync_eq (interpreter : Interpreter) (function : FunctionDecl) (args : List Value)
    (receiver : Option Value) :
    interpreter.callSync function args receiver =
      (do
        let (value, left) ← Act.calling function.qualifiedName (callScope function args receiver)
          (interpreter.execBlock [] function.body)
        return (value, receiver.map fun _ => left.scopes.current.instanceValue)) := by
  funext session
  simp only [callSync, Act.calling, Act.bind_apply, Act.executor, Act.read]
  by_cases deep : session.executor.settings.maxCallDepth ≤ session.executor.callDepth
  · simp only [if_pos deep, Act.fail, Act.raise]
  · simp only [if_neg deep, Act.bind_apply]
    cases Act.note (.called function.qualifiedName session.executor.callDepth) session with
    | done value after =>
        simp only [Act.updateExecutor, Act.update]
        cases Act.attempt (interpreter.execBlock [] function.body)
          { after with
            executor := after.executor.enterCall (callScope function args receiver) } with
        | done outcome left =>
            cases outcome with
            | ok value => rfl
            | error signal => cases signal <;> rfl
        | raised signal left => rfl
        | halted moment => rfl
    | raised signal after => rfl
    | halted moment => rfl

def runLoaded (interpreter : Interpreter) (program : Program) : Act Unit := do
  Act.note (.mainStarted program.main.length)
  interpreter.runMain 0 program.main
  interpreter.run
  Act.note (.programFinished (← Act.scheduler).tasks.length)

theorem runProgram_eq (interpreter : Interpreter) (program : Program) :
    interpreter.runProgram program =
      (do
        Act.load program
        interpreter.runLoaded program) :=
  rfl

theorem awaitTask_eq (interpreter : Interpreter) (id : TaskId) :
    interpreter.awaitTask id = Act.awaiting id (interpreter.runUntilComplete id) :=
  rfl

/-- An await of a task that is known and has something left to do. -/
def awaitUnfinished (interpreter : Interpreter) (id : TaskId) : Act Unit := do
  match (← Act.scheduler).task? id with
  | none => pure ()
  | some task => if !task.isFinished then interpreter.awaitTask id

theorem awaitUnfinished_known (interpreter : Interpreter) {id : TaskId} {task : Task}
    {session : Session} (known : session.scheduler.task? id = some task) :
    interpreter.awaitUnfinished id session =
      if task.isFinished then .done () session else interpreter.awaitTask id session := by
  rw [awaitUnfinished, Act.scheduler_bind, known]
  dsimp only
  cases task.isFinished <;> rfl

theorem awaitUnfinished_cases (interpreter : Interpreter) (id : TaskId) (session : Session) :
    interpreter.awaitUnfinished id session = .done () session ∨
      (∃ task, session.scheduler.task? id = some task ∧ task.isFinished = false) ∧
        interpreter.awaitUnfinished id session = interpreter.awaitTask id session := by
  cases known : session.scheduler.task? id with
  | none =>
      refine .inl ?_
      rw [awaitUnfinished, Act.scheduler_bind, known]
      rfl
  | some task =>
      rw [awaitUnfinished_known interpreter known]
      cases finished : task.isFinished with
      | true => exact .inl rfl
      | false => exact .inr ⟨⟨task, rfl, finished⟩, rfl⟩

theorem awaitFuture_named (interpreter : Interpreter) {future : Value} {id : TaskId}
    (names : Future.taskOf? future = some id) :
    interpreter.awaitFuture future =
      (do
        match (← Act.scheduler).task? id with
        | none => Act.fail (.unknownTask id)
        | some _ => do
            interpreter.awaitUnfinished id
            slotOf id) := by
  funext session
  unfold awaitFuture
  rw [names]
  dsimp only
  rw [Act.scheduler_bind, Act.scheduler_bind]
  cases known : session.scheduler.task? id with
  | none => rfl
  | some task =>
      dsimp only
      rw [Act.bind_apply (interpreter.awaitUnfinished id), awaitUnfinished_known interpreter known]
      cases task.isFinished <;> rfl

/-- Leaves a loop that has ended, and its variable with it. A loop that was suspended has not
ended. -/
def leaveLoop (key : ListKey) (init : Option Stmt) : Except Signal Unit → Act Unit
  | .error (.suspend fromLoop) => Act.raise (.suspend fromLoop)
  | outcome => do
      Act.updatePositions (Positions.exitLoop key)
      match loopVariable? init with
      | none => pure ()
      | some name => Act.updateScopes (ScopeStack.modifyCurrent (Scope.remove name))
      Act.ofAttempt outcome

theorem execFor_eq (interpreter : Interpreter) (path : Path) (init : Option Stmt)
    (condition : Option Expr) (update : Option Stmt) (body : List Stmt) :
    interpreter.execFor path init condition update body =
      (do
        let loop := do
          let outcome ← Act.attempt (interpreter.execLoop path condition update body)
          leaveLoop (.of (.body :: path) body) init outcome
        if (← Act.executor).positions.loopEntered (.of (.body :: path) body) then
          loop
        else
          interpreter.execPart (.init :: path) init
          Act.updatePositions (Positions.enterLoop (.of (.body :: path) body))
          loop) := by
  funext session
  have loop (start : Session) :
      (do
        match ← Act.attempt (interpreter.execLoop path condition update body) with
        | .error (.suspend fromLoop) => Act.raise (.suspend fromLoop)
        | outcome => do
            Act.updatePositions (Positions.exitLoop (.of (.body :: path) body))
            match loopVariable? init with
            | none => pure ()
            | some name => Act.updateScopes (ScopeStack.modifyCurrent (Scope.remove name))
            Act.ofAttempt outcome : Act Unit) start =
        (do
          let outcome ← Act.attempt (interpreter.execLoop path condition update body)
          leaveLoop (.of (.body :: path) body) init outcome : Act Unit) start := by
    rw [Act.bind_apply, Act.bind_apply]
    cases Act.attempt (interpreter.execLoop path condition update body) start with
    | done outcome after =>
        match outcome with
        | .ok () => rfl
        | .error signal => cases signal <;> rfl
    | raised signal after => rfl
    | halted moment => rfl
  unfold execFor
  rw [Act.bind_apply, Act.bind_apply]
  simp only [Act.executor, Act.read]
  cases session.executor.positions.loopEntered (.of (.body :: path) body) with
  | true => exact loop session
  | false =>
      simp only [Bool.not_false, if_true, Bool.false_eq_true, if_false]
      rw [Act.bind_apply, Act.bind_apply]
      cases interpreter.execPart (.init :: path) init session with
      | done value after => exact loop _
      | raised signal after => rfl
      | halted moment => rfl

def storeLocal (name : String) (value : Value) : Act Unit := do
  bindFutureTo (Executor.localSite? name) value
  Act.updateScopes (ScopeStack.define name value)

def storeAt (target : String) (value : Value) : Act Unit := do
  bindFutureTo (Executor.site? target) value
  Act.writePlace target value

end Interpreter

/-- The statement gives the value of an expression to a variable. Which one that is, it settles
before it writes to the scopes. -/
inductive Stmt.Stores : Stmt → Expr → (Executor → Option BindingSite) →
    (Value → ScopeStack → ScopeStack) → Prop where
  | letVar (name : String) (expr : Expr) :
      Stores (.letVar name expr) expr (Executor.localSite? name) (ScopeStack.define name)
  | assign (target : String) (expr : Expr) :
      Stores (.assign target expr) expr (Executor.site? target) fun value scopes =>
        (scopes.writePlace target value).1

/-! ### Faults on their way out -/

/-- A fault is raised again, or the run is halted before it comes to that. -/
def Act.Relays (action : Act α) : Prop :=
  ∀ session,
    (∃ cause after,
      action session = .raised (.fault cause) after ∧
        (session.budget = none → after.budget = none)) ∨
    session.budget ≠ none ∧ ∃ moment, action session = .halted moment

theorem Act.Relays.update {change : Session → Session} {next : Unit → Act α}
    (keeps : ∀ session, (change session).budget = session.budget) (relays : (next ()).Relays) :
    (Act.update change >>= next).Relays := by
  intro session
  have ending := relays (change session)
  rw [keeps session] at ending
  exact ending

/-- The two sessions have the same tasks, in the same places, and the same has happened in them. -/
structure Session.Abreast (before after : Session) : Prop where
  scheduler : after.scheduler = before.scheduler
  journal : after.journal = before.journal

/-- The fault is raised again as it is, and until then nothing is done to tasks and nothing is
recorded. -/
def Act.Rethrows (cause : Fault) (action : Act α) : Prop :=
  ∀ session,
    (∃ after, action session = .raised (.fault cause) after ∧ session.Abreast after ∧
      (session.budget = none → after.budget = none)) ∨
    session.budget ≠ none ∧ ∃ moment, action session = .halted moment ∧ session.Abreast moment

namespace Act.Rethrows

theorem relays {cause : Fault} {action : Act α} (rethrows : action.Rethrows cause) :
    action.Relays := by
  intro session
  rcases rethrows session with ⟨after, ended, _, still⟩ | ⟨limited, moment, ended, _⟩
  · exact .inl ⟨cause, after, ended, still⟩
  · exact .inr ⟨limited, moment, ended⟩

theorem fail (cause : Fault) : (Act.fail cause : Act α).Rethrows cause :=
  fun session => .inl ⟨session, rfl, ⟨rfl, rfl⟩, fun unlimited => unlimited⟩

theorem updateExecutor {cause : Fault} {change : Executor → Executor} {next : Unit → Act α}
    (rethrows : (next ()).Rethrows cause) :
    (Act.updateExecutor change >>= next).Rethrows cause := by
  intro session
  rcases rethrows { session with executor := change session.executor } with
    ⟨after, ended, abreast, still⟩ | ⟨limited, moment, ended, abreast⟩
  · exact .inl ⟨after, ended, ⟨abreast.scheduler, abreast.journal⟩, still⟩
  · exact .inr ⟨limited, moment, ended, abreast.scheduler, abreast.journal⟩

theorem moment {cause : Fault} {next : Unit → Act α} (rethrows : (next ()).Rethrows cause) :
    (Act.moment >>= next).Rethrows cause := by
  intro session
  rw [bind_apply]
  cases left : session.budget with
  | none =>
      have passes : Act.moment session = .done () session := by
        simp only [Act.moment, left]
      have ending := rethrows session
      rw [left] at ending
      rw [passes]
      exact ending
  | some budget =>
      simp only [Act.moment, left]
      cases budget with
      | zero => exact .inr ⟨Option.some_ne_none 0, session, rfl, rfl, rfl⟩
      | succ budget =>
          rcases rethrows { session with budget := some budget } with
            ⟨after, ended, abreast, _⟩ | ⟨_, moment, ended, abreast⟩
          · exact .inl ⟨after, ended, ⟨abreast.scheduler, abreast.journal⟩,
              fun impossible => nomatch impossible⟩
          · exact .inr ⟨Option.some_ne_none _, moment, ended, abreast.scheduler, abreast.journal⟩

theorem leaveLoop (key : ListKey) (init : Option Stmt) (cause : Fault) :
    (Interpreter.leaveLoop key init (.error (.fault cause))).Rethrows cause := by
  refine updateExecutor ?_
  dsimp only
  split
  · exact fail cause
  · exact updateExecutor (fail cause)

end Act.Rethrows

/-! ### The pieces -/

inductive Task.Fresh : Task → Prop where
  | ofFunction (function : FunctionDecl) (args : List Value) : Fresh (.ofFunction function args)
  | timer : Fresh .timer
  | withReceiver {task : Task} (fresh : Fresh task) (value : Value) (site : Option BindingSite) :
      Fresh (task.withReceiver value site)

theorem Task.Fresh.unfinished {task : Task} (fresh : task.Fresh) : task.isFinished = false := by
  induction fresh with
  | ofFunction function args => rfl
  | timer => rfl
  | withReceiver _ value site ih => exact ih

/-- What statements write to the scopes on the stack. -/
inductive ScopeWrite : (ScopeStack → ScopeStack) → Prop where
  | define (name : String) (value : Value) : ScopeWrite (ScopeStack.define name value)
  | remove (name : String) : ScopeWrite (ScopeStack.modifyCurrent (Scope.remove name))
  | place (name : String) (value : Value) :
      ScopeWrite fun scopes => (scopes.writePlace name value).1
  | members (base : String) (members : List (String × Value)) :
      ScopeWrite fun scopes =>
        members.foldl
          (fun written (name, value) => written.assignExisting (memberName base name) value) scopes

/-- The event tells of a task that has gone into the queue or out of it, or has been done with. -/
def Event.isOfQueue : Event → Bool
  | .registered _ _ _ => true
  | .dequeued _ => true
  | .requeued _ => true
  | .finalized _ => true
  | _ => false

/-- The event is recorded in passing and tells of no task's fate. -/
def Event.isRemark : Event → Bool
  | .mainStarted _ => true
  | .programFinished _ => true
  | .driving _ => true
  | .drained => true
  | .unfinished _ => true
  | .futureSiteGone _ _ => true
  | .receiverSiteGone _ _ => true
  | .finalized _ => true
  | .loopSuspended _ => true
  | _ => false

/-! ### Relations that are kept by joining actions -/

/-- The relation has what is done without the interpreter, and is kept where actions are joined. -/
structure Act.Joins (rel : (α : Type) → Act α → Act α → Prop) : Prop where
  pure {α : Type} (value : α) : rel α (Pure.pure value) (Pure.pure value)
  fail {α : Type} (cause : Fault) : rel α (Act.fail cause) (Act.fail cause)
  read {α : Type} {view : Session → α}
    (blind : ∀ session budget, view { session with budget } = view session) :
    rel α (Act.read view) (Act.read view)
  note (event : Event) (remark : event.isRemark = true) (aside : event.isOfQueue = false) :
    rel Unit (Act.note event) (Act.note event)
  bind {α β : Type} {first first' : Act α} {next next' : α → Act β} (head : rel α first first')
    (tail : ∀ value, rel β (next value) (next' value)) : rel β (first >>= next) (first' >>= next')
  attempt {α β : Type} {action action' : Act α} {next next' : Except Signal α → Act β}
    (inner : rel α action action') (tail : ∀ outcome, rel β (next outcome) (next' outcome))
    (rethrows : ∀ cause, (next' (.error (.fault cause))).Rethrows cause) :
    rel β (Act.attempt action >>= next) (Act.attempt action' >>= next')
  iterate {σ : Type} {turns turns' : Nat} (fewer : turns ≤ turns')
    {action action' : σ → Act (Option σ)}
    (inner : ∀ state, rel (Option σ) (action state) (action' state)) (state : σ) :
    rel Unit (Act.iterate turns action state) (Act.iterate turns' action' state)

namespace Act.Joins

variable {rel : (α : Type) → Act α → Act α → Prop} (joins : Act.Joins rel)

include joins

theorem executor : rel Executor Act.executor Act.executor :=
  joins.read fun _ _ => rfl

theorem scheduler : rel Scheduler Act.scheduler Act.scheduler :=
  joins.read fun _ _ => rfl

theorem ofExcept (outcome : Except Fault α) :
    rel α (Act.ofExcept outcome) (Act.ofExcept outcome) := by
  cases outcome with
  | ok value => exact joins.pure value
  | error cause => exact joins.fail cause

theorem faulting {action action' : Act α} (inner : rel α action action') :
    rel α (Act.faulting action) (Act.faulting action') := by
  rw [Act.faulting_eq, Act.faulting_eq]
  refine joins.attempt inner (fun outcome => ?_) fun cause => .fail cause
  cases outcome with
  | ok value => exact joins.pure value
  | error signal => exact joins.fail _

theorem concluded (moment : rel Unit Act.moment Act.moment)
    (raise : ∀ signal, rel Unit (Act.raise signal) (Act.raise signal)) {action action' : Act Unit}
    (inner : rel Unit action action') : rel Unit action.concluded action'.concluded := by
  refine joins.attempt inner (fun outcome => joins.bind moment fun _ => ?_) fun cause =>
    .moment (.fail cause)
  cases outcome with
  | ok value => exact joins.pure value
  | error signal => exact raise signal

theorem futureValue (id : TaskId) : rel Value (Act.futureValue id) (Act.futureValue id) := by
  refine joins.bind joins.scheduler fun scheduler => ?_
  split
  · exact joins.pure _
  · exact joins.fail _

theorem slotOf (id : TaskId) : rel Value (Interpreter.slotOf id) (Interpreter.slotOf id) := by
  refine joins.bind joins.scheduler fun scheduler => ?_
  split
  · exact joins.fail _
  · split
    · exact joins.pure _
    · exact joins.fail _

theorem functionNamed (name : String) :
    rel FunctionDecl (Interpreter.functionNamed name) (Interpreter.functionNamed name) := by
  refine joins.bind joins.executor fun executor => ?_
  split
  · exact joins.pure _
  · exact joins.fail _

theorem readPlace (name : String) : rel Value (Act.readPlace name) (Act.readPlace name) :=
  joins.bind joins.executor fun _ => joins.ofExcept _

theorem writePlace
    (write : ∀ {change}, ScopeWrite change → rel Unit (updateScopes change) (updateScopes change))
    (name : String) (value : Value) :
    rel Unit (Act.writePlace name value) (Act.writePlace name value) := by
  rw [Act.writePlace_eq]
  refine joins.bind (joins.read fun _ _ => rfl) fun outcome => ?_
  exact joins.bind (write (.place name value)) fun _ => joins.ofExcept outcome

theorem bindFutureTo
    (bindFuture : ∀ id site, rel Unit (updateScheduler (Scheduler.bindFuture id site))
      (updateScheduler (Scheduler.bindFuture id site)))
    (site : Executor → Option BindingSite) (value : Value) :
    rel Unit (Interpreter.bindFutureTo site value) (Interpreter.bindFutureTo site value) := by
  unfold Interpreter.bindFutureTo
  split
  · exact joins.pure ()
  · refine joins.bind joins.scheduler fun scheduler => ?_
    split
    · exact joins.pure ()
    · refine joins.bind joins.executor fun executor => ?_
      split
      · exact joins.pure ()
      · exact bindFuture _ _

end Act.Joins

/-- Three relations, of actions that drive the scheduler, that evaluate expressions and that execute
statements, have the pieces that each of them is made of. Executing a statement comprises the other
two. -/
structure Interpreter.Pieces (drives evaluates executes : (α : Type) → Act α → Act α → Prop) :
    Prop where
  driving : Act.Joins drives
  evaluating : Act.Joins evaluates
  executing : Act.Joins executes
  drive {α : Type} {action action' : Act α} : drives α action action' → executes α action action'
  evaluate {α : Type} {action action' : Act α} :
    evaluates α action action' → executes α action action'
  cycle {shallow : Interpreter} {depth : Nat}
    (exec : ∀ path statement,
      executes Unit (shallow.exec path statement) ((interpreter depth).exec path statement)) :
    drives _ shallow.cycle (interpreter depth).cycle
  idle (swept : List TaskId) : drives Unit (Interpreter.idle swept) (Interpreter.idle swept)
  finalize (id : TaskId) : drives Unit (Act.finalize id) (Act.finalize id)
  register {task : Task} (fresh : task.Fresh) :
    evaluates TaskId (Act.register task) (Act.register task)
  sleepTask (id : TaskId) (millis : Nat) :
    evaluates Unit (Act.sleepTask id millis) (Act.sleepTask id millis)
  setTimeout (id : TaskId) (millis : Nat) :
    evaluates Unit (Act.setTimeout id millis) (Act.setTimeout id millis)
  write {change : ScopeStack → ScopeStack} (writes : ScopeWrite change) :
    evaluates Unit (Act.updateScopes change) (Act.updateScopes change)
  calling (name : String) {scope : Scope} (new : scope.id = none) {body body' : Act Unit}
    (inner : executes Unit body body') :
    evaluates _ (Act.calling name scope body) (Act.calling name scope body')
  awaiting {shallow : Interpreter} {depth : Nat} (id : TaskId)
    (inner : drives Unit (shallow.runUntilComplete id)
      ((interpreter depth).runUntilComplete id)) :
    evaluates Unit (shallow.awaitUnfinished id) ((interpreter depth).awaitUnfinished id)
  raise {α : Type} (signal : Signal) : executes α (Act.raise signal) (Act.raise signal)
  moment : executes Unit Act.moment Act.moment
  positions (change : Positions → Positions) :
    executes Unit (Act.updatePositions change) (Act.updatePositions change)
  print (line : String) : executes Unit (Interpreter.printLine line) (Interpreter.printLine line)
  stores {shallow : Interpreter} {depth : Nat} (path : Path) {statement : Stmt} {expr : Expr}
    {pinned : Executor → Option BindingSite} {write : Value → ScopeStack → ScopeStack}
    (stores : statement.Stores expr pinned write)
    (eval : evaluates Value (shallow.eval expr) ((interpreter depth).eval expr)) :
    executes Unit (shallow.execStmt path statement) ((interpreter depth).execStmt path statement)

/-- Whatever the first interpreter evaluates and executes is related to what the second does. -/
structure Interpreter.Related (drives evaluates executes : (α : Type) → Act α → Act α → Prop)
    (shallow deep : Interpreter) : Prop where
  pieces : Interpreter.Pieces drives evaluates executes
  depth : ∃ depth, deep = interpreter depth
  eval : ∀ expr, evaluates Value (shallow.eval expr) (deep.eval expr)
  exec : ∀ path statement, executes Unit (shallow.exec path statement) (deep.exec path statement)
  turns : shallow.turns ≤ deep.turns

namespace Interpreter.Related

variable {drives evaluates executes : (α : Type) → Act α → Act α → Prop}
  {shallow deep : Interpreter} (related : Related drives evaluates executes shallow deep)

include related

/-! ### Driving the scheduler -/

theorem cycle : drives _ shallow.cycle deep.cycle := by
  obtain ⟨depth, rfl⟩ := related.depth
  exact related.pieces.cycle related.exec

theorem runOneCycle : drives Unit shallow.runOneCycle deep.runOneCycle :=
  related.pieces.driving.bind related.cycle fun _ => related.pieces.driving.pure ()

theorem afterTurn (swept : List TaskId) (id : TaskId) (status : StepStatus) :
    drives _ (Interpreter.afterTurn swept id status) (Interpreter.afterTurn swept id status) := by
  have joins := related.pieces.driving
  cases status with
  | pending => exact joins.pure []
  | done => exact joins.pure []
  | blocked =>
      refine joins.bind joins.scheduler fun scheduler => ?_
      split
      · exact joins.bind (related.pieces.idle _) fun _ => joins.pure []
      · exact joins.pure _

theorem turn (swept : List TaskId) : drives _ (shallow.turn swept) (deep.turn swept) := by
  have joins := related.pieces.driving
  refine joins.bind related.cycle fun outcome => ?_
  match outcome with
  | none => exact joins.pure none
  | some (id, status) =>
      exact joins.bind (related.afterTurn swept id status) fun _ => joins.pure _

theorem run : drives Unit shallow.run deep.run := by
  have joins := related.pieces.driving
  refine joins.bind joins.scheduler fun scheduler => ?_
  refine joins.bind (joins.note _ rfl rfl) fun _ => ?_
  exact joins.bind (joins.iterate related.turns related.turn []) fun _ => joins.note _ rfl rfl

theorem turnUntil (id : TaskId) (swept : List TaskId) :
    drives _ (shallow.turnUntil id swept) (deep.turnUntil id swept) := by
  have joins := related.pieces.driving
  refine joins.bind joins.scheduler fun scheduler => ?_
  split
  · exact joins.pure none
  · exact related.turn swept

theorem runUntilComplete (id : TaskId) :
    drives Unit (shallow.runUntilComplete id) (deep.runUntilComplete id) := by
  have joins := related.pieces.driving
  refine joins.bind (joins.iterate related.turns (related.turnUntil id) []) fun _ => ?_
  refine joins.bind joins.scheduler fun scheduler => ?_
  split
  · exact related.pieces.finalize id
  · exact joins.note _ rfl rfl

/-! ### Evaluating expressions -/

theorem writeInstance (receiver : String) (updated : Value) :
    evaluates Unit (Act.writeInstance receiver updated) (Act.writeInstance receiver updated) :=
  related.pieces.evaluating.bind (related.pieces.write (.members receiver _)) fun _ =>
    related.pieces.evaluating.writePlace related.pieces.write receiver updated

theorem execFrom (key : ListKey) (path : Path) (index : Nat) (statements : List Stmt) :
    executes Unit (shallow.execFrom key path index statements)
      (deep.execFrom key path index statements) := by
  have joins := related.pieces.executing
  induction statements generalizing index with
  | nil => exact related.pieces.positions _
  | cons statement rest ih =>
      refine joins.attempt (related.exec _ statement) (fun outcome => ?_)
        fun cause => .updateExecutor (.fail cause)
      match outcome with
      | .ok () => exact ih (index + 1)
      | .error (.suspend fromLoop) =>
          exact joins.bind (related.pieces.positions _) fun _ => related.pieces.raise _
      | .error (.returning value) =>
          exact joins.bind (related.pieces.positions _) fun _ => related.pieces.raise _
      | .error .breakLoop =>
          exact joins.bind (related.pieces.positions _) fun _ => related.pieces.raise _
      | .error .continueLoop =>
          exact joins.bind (related.pieces.positions _) fun _ => related.pieces.raise _
      | .error (.fault cause) =>
          exact joins.bind (related.pieces.positions _) fun _ => related.pieces.raise _

theorem execBlock (path : Path) (statements : List Stmt) :
    executes Unit (shallow.execBlock path statements) (deep.execBlock path statements) :=
  related.pieces.executing.bind related.pieces.executing.executor fun _ => related.execFrom _ _ _ _

theorem callSync (function : FunctionDecl) (args : List Value) (receiver : Option Value) :
    evaluates _ (shallow.callSync function args receiver)
      (deep.callSync function args receiver) := by
  rw [callSync_eq, callSync_eq]
  exact related.pieces.evaluating.bind
    (related.pieces.calling _ rfl (related.execBlock [] function.body))
    fun _ => related.pieces.evaluating.pure _

theorem evalAll (exprs : List Expr) :
    evaluates (List Value) (shallow.evalAll exprs) (deep.evalAll exprs) := by
  have joins := related.pieces.evaluating
  induction exprs with
  | nil => exact joins.pure []
  | cons expr rest ih =>
      exact joins.bind (related.eval expr) fun _ => joins.bind ih fun _ => joins.pure _

theorem evalFields (fields : List (String × Expr)) :
    evaluates _ (shallow.evalFields fields) (deep.evalFields fields) := by
  have joins := related.pieces.evaluating
  induction fields with
  | nil => exact joins.pure []
  | cons field rest ih =>
      exact joins.bind (related.eval field.2) fun _ => joins.bind ih fun _ => joins.pure _

theorem evalMillis (expr : Expr) :
    evaluates Nat (shallow.evalMillis expr) (deep.evalMillis expr) :=
  related.pieces.evaluating.bind (related.eval expr) fun _ => related.pieces.evaluating.ofExcept _

theorem evalBinary (operator : BinaryOperator) (left right : Expr) :
    evaluates Value (shallow.evalBinary operator left right)
      (deep.evalBinary operator left right) := by
  have joins := related.pieces.evaluating
  have strict (leftValue : Value) :
      evaluates Value
        (do Act.ofExcept (operator.apply leftValue (← shallow.eval right)))
        (do Act.ofExcept (operator.apply leftValue (← deep.eval right))) :=
    joins.bind (related.eval right) fun _ => joins.ofExcept _
  have second : evaluates Value
      (do return Value.bool (← Act.ofExcept (← shallow.eval right).truth))
      (do return Value.bool (← Act.ofExcept (← deep.eval right).truth)) :=
    joins.bind (related.eval right) fun _ => joins.bind (joins.ofExcept _) fun _ => joins.pure _
  refine joins.bind (related.eval left) fun leftValue => ?_
  cases operator with
  | and =>
      refine joins.bind (joins.ofExcept _) fun truth => ?_
      cases truth with
      | true => exact second
      | false => exact joins.pure _
  | or =>
      refine joins.bind (joins.ofExcept _) fun truth => ?_
      cases truth with
      | true => exact joins.pure _
      | false => exact second
  | _ => exact strict leftValue

theorem callFunction (name : String) (args : List Expr) :
    evaluates Value (shallow.callFunction name args) (deep.callFunction name args) := by
  have joins := related.pieces.evaluating
  refine joins.bind (joins.functionNamed name) fun function => ?_
  refine joins.bind (related.evalAll args) fun values => ?_
  refine joins.bind (joins.ofExcept _) fun _ => ?_
  split
  · exact joins.bind (related.pieces.register (.ofFunction function values)) fun id =>
      joins.futureValue id
  · exact joins.bind (related.callSync function values none) fun _ => joins.pure _

theorem callMethod (receiver method : String) (args : List Expr) :
    evaluates Value (shallow.callMethod receiver method args)
      (deep.callMethod receiver method args) := by
  have joins := related.pieces.evaluating
  refine joins.bind (joins.readPlace receiver) fun target => ?_
  match target with
  | .struct typeName fields =>
      refine joins.bind (joins.functionNamed _) fun function => ?_
      refine joins.bind (related.evalAll args) fun values => ?_
      refine joins.bind (joins.ofExcept _) fun _ => ?_
      split
      · refine joins.bind joins.executor fun executor => ?_
        exact joins.bind
          (related.pieces.register (.withReceiver (.ofFunction function values) _ _))
          fun id => joins.futureValue id
      · refine joins.bind (related.callSync function values _) fun returned => ?_
        match returned with
        | (value, none) => exact joins.pure _
        | (value, some instanceValue) =>
            exact joins.bind (related.writeInstance receiver instanceValue) fun _ => joins.pure _
  | .void => exact joins.fail _
  | .bool truth => exact joins.fail _
  | .int number => exact joins.fail _
  | .float number => exact joins.fail _
  | .str text => exact joins.fail _

theorem awaitUnfinished (id : TaskId) :
    evaluates Unit (shallow.awaitUnfinished id) (deep.awaitUnfinished id) := by
  have drive := related.runUntilComplete id
  obtain ⟨depth, rfl⟩ := related.depth
  exact related.pieces.awaiting id drive

theorem awaitFuture (future : Value) :
    evaluates Value (shallow.awaitFuture future) (deep.awaitFuture future) := by
  have joins := related.pieces.evaluating
  cases names : Future.taskOf? future with
  | none =>
      unfold Interpreter.awaitFuture
      rw [names]
      dsimp only
      split
      · exact joins.pure _
      · exact joins.fail _
  | some id =>
      rw [awaitFuture_named shallow names, awaitFuture_named deep names]
      refine joins.bind joins.scheduler fun scheduler => ?_
      split
      · exact joins.fail _
      · exact joins.bind (related.awaitUnfinished id) fun _ => joins.slotOf id

theorem evalTimeout (future millis : Expr) :
    evaluates Value (shallow.evalTimeout future millis) (deep.evalTimeout future millis) := by
  have joins := related.pieces.evaluating
  refine joins.bind (related.eval future) fun target => ?_
  split
  · exact joins.fail _
  · refine joins.bind joins.scheduler fun scheduler => ?_
    split
    · exact joins.fail _
    · refine joins.bind (related.evalMillis millis) fun duration => ?_
      exact joins.bind (related.pieces.setTimeout _ duration) fun _ => joins.pure target

theorem spawnTimer (millis : Nat) :
    evaluates TaskId (Act.spawnTimer millis) (Act.spawnTimer millis) := by
  have joins := related.pieces.evaluating
  refine joins.bind (related.pieces.register .timer) fun id => ?_
  exact joins.bind (related.pieces.sleepTask id millis) fun _ => joins.pure id

theorem evalExpr (expr : Expr) :
    evaluates Value (shallow.evalExpr expr) (deep.evalExpr expr) := by
  have joins := related.pieces.evaluating
  cases expr with
  | lit value => exact joins.pure value
  | var name => exact joins.readPlace name
  | field base name => exact joins.bind (related.eval base) fun _ => joins.ofExcept _
  | binary operator left right => exact related.evalBinary operator left right
  | unary operator operand => exact joins.bind (related.eval operand) fun _ => joins.ofExcept _
  | structLit typeName fields =>
      exact joins.bind (related.evalFields fields) fun _ =>
        joins.bind joins.executor fun _ => joins.ofExcept _
  | call name args => exact related.callFunction name args
  | methodCall receiver method args => exact related.callMethod receiver method args
  | await future => exact joins.bind (related.eval future) fun _ => related.awaitFuture _
  | sleep millis =>
      refine joins.bind (related.evalMillis millis) fun duration => ?_
      exact joins.bind (related.spawnTimer duration) fun id => joins.futureValue id
  | timeout future millis => exact related.evalTimeout future millis

/-! ### Executing statements -/

theorem evalCondition (condition : Expr) :
    evaluates Bool (shallow.evalCondition condition) (deep.evalCondition condition) := by
  have joins := related.pieces.evaluating
  refine joins.bind (related.eval condition) fun value => ?_
  split
  · exact joins.pure _
  · exact joins.fail _

theorem ofAttempt (outcome : Except Signal α) :
    executes α (Act.ofAttempt outcome) (Act.ofAttempt outcome) := by
  cases outcome with
  | ok value => exact related.pieces.executing.pure value
  | error signal => exact related.pieces.raise signal

theorem endIteration : executes Unit shallow.endIteration deep.endIteration := by
  have joins := related.pieces.executing
  refine joins.bind joins.executor fun executor => ?_
  split
  · split
    · exact joins.bind (joins.note _ rfl rfl) fun _ => related.pieces.raise _
    · exact joins.pure ()
  · refine joins.bind joins.scheduler fun scheduler => ?_
    split
    · exact related.pieces.drive related.runOneCycle
    · exact joins.pure ()

theorem execIf (path : Path) (condition : Expr) (thenBranch elseBranch : List Stmt) :
    executes Unit (shallow.execIf path condition thenBranch elseBranch)
      (deep.execIf path condition thenBranch elseBranch) := by
  have joins := related.pieces.executing
  refine joins.bind joins.executor fun executor => ?_
  dsimp only
  split
  · exact related.execBlock _ thenBranch
  · split
    · exact related.execBlock _ elseBranch
    · refine joins.bind (related.pieces.evaluate (related.evalCondition condition)) fun holds => ?_
      split
      · exact related.execBlock _ thenBranch
      · exact related.execBlock _ elseBranch

theorem entersBody (path : Path) (condition : Option Expr) (body : List Stmt) :
    evaluates Bool (shallow.entersBody path condition body)
      (deep.entersBody path condition body) := by
  have joins := related.pieces.evaluating
  refine joins.bind joins.executor fun executor => ?_
  split
  · exact joins.pure true
  · cases condition with
    | none => exact joins.pure true
    | some expr => exact related.evalCondition expr

theorem execBody (path : Path) (body : List Stmt) :
    executes Bool (shallow.execBody path body) (deep.execBody path body) := by
  have joins := related.pieces.executing
  refine joins.attempt (related.execBlock _ body) (fun outcome => ?_) fun cause => .fail cause
  match outcome with
  | .ok () => exact joins.pure true
  | .error .continueLoop => exact joins.pure true
  | .error .breakLoop => exact joins.pure false
  | .error (.suspend fromLoop) => exact related.pieces.raise _
  | .error (.returning value) => exact related.pieces.raise _
  | .error (.fault cause) => exact related.pieces.raise _

theorem execPart (path : Path) (part : Option Stmt) :
    executes Unit (shallow.execPart path part) (deep.execPart path part) := by
  cases part with
  | none => exact related.pieces.executing.pure ()
  | some statement => exact related.pieces.executing.faulting (related.exec path statement)

theorem iteration (path : Path) (condition : Option Expr) (update : Option Stmt)
    (body : List Stmt) (state : Unit) :
    executes _ (shallow.iteration path condition update body state)
      (deep.iteration path condition update body state) := by
  have joins := related.pieces.executing
  refine joins.bind (related.pieces.evaluate (related.entersBody path condition body))
    fun enters => ?_
  cases enters with
  | false => exact joins.pure none
  | true =>
      refine joins.bind (related.execBody path body) fun finished => ?_
      cases finished with
      | false => exact joins.pure none
      | true =>
          refine joins.bind (related.execPart _ update) fun _ => ?_
          exact joins.bind related.endIteration fun _ => joins.pure _

theorem execLoop (path : Path) (condition : Option Expr) (update : Option Stmt)
    (body : List Stmt) :
    executes Unit (shallow.execLoop path condition update body)
      (deep.execLoop path condition update body) :=
  related.pieces.executing.iterate related.turns
    (related.iteration path condition update body) ()

theorem leaveLoop (key : ListKey) (init : Option Stmt) (outcome : Except Signal Unit) :
    executes Unit (Interpreter.leaveLoop key init outcome)
      (Interpreter.leaveLoop key init outcome) := by
  have joins := related.pieces.executing
  unfold Interpreter.leaveLoop
  split
  · exact related.pieces.raise _
  · refine joins.bind (related.pieces.positions _) fun _ => ?_
    dsimp only
    split
    · exact related.ofAttempt outcome
    · exact joins.bind (related.pieces.evaluate (related.pieces.write (.remove _))) fun _ =>
        related.ofAttempt outcome

theorem execFor (path : Path) (init : Option Stmt) (condition : Option Expr)
    (update : Option Stmt) (body : List Stmt) :
    executes Unit (shallow.execFor path init condition update body)
      (deep.execFor path init condition update body) := by
  have joins := related.pieces.executing
  have loop : executes Unit
      (do
        let outcome ← Act.attempt (shallow.execLoop path condition update body)
        Interpreter.leaveLoop (.of (.body :: path) body) init outcome)
      (do
        let outcome ← Act.attempt (deep.execLoop path condition update body)
        Interpreter.leaveLoop (.of (.body :: path) body) init outcome) :=
    joins.attempt (related.execLoop path condition update body) (related.leaveLoop _ init)
      (Act.Rethrows.leaveLoop _ init)
  rw [execFor_eq, execFor_eq]
  refine joins.bind joins.executor fun executor => ?_
  split
  · exact loop
  · refine joins.bind (related.execPart _ init) fun _ => ?_
    exact joins.bind (related.pieces.positions _) fun _ => loop

theorem perform (path : Path) {statement : Stmt}
    (storesLocal : ∀ name value, statement ≠ .letVar name value)
    (storesAt : ∀ target value, statement ≠ .assign target value) :
    executes Unit (shallow.perform path statement) (deep.perform path statement) := by
  have joins := related.pieces.executing
  have evaluated (expr : Expr) := related.pieces.evaluate (related.eval expr)
  cases statement with
  | letVar name value => exact absurd rfl (storesLocal name value)
  | assign target value => exact absurd rfl (storesAt target value)
  | expression value => exact joins.bind (evaluated value) fun _ => joins.pure ()
  | print value => exact joins.bind (evaluated value) fun _ => related.pieces.print _
  | returning value =>
      cases value with
      | none => exact related.pieces.raise _
      | some value => exact joins.bind (evaluated value) fun _ => related.pieces.raise _
  | yield =>
      refine joins.bind joins.executor fun executor => ?_
      split
      · exact related.pieces.raise _
      · exact related.pieces.drive related.runOneCycle
  | ifThen condition thenBranch elseBranch =>
      exact related.execIf path condition thenBranch elseBranch
  | whileLoop condition body => exact related.execLoop path (some condition) none body
  | forLoop init condition update body => exact related.execFor path init condition update body
  | block body => exact related.execBlock _ body
  | breakLoop => exact related.pieces.raise _
  | continueLoop => exact related.pieces.raise _

theorem execStmt (path : Path) (statement : Stmt) :
    executes Unit (shallow.execStmt path statement) (deep.execStmt path statement) := by
  have storing {expr : Expr} {pinned : Executor → Option BindingSite}
      {write : Value → ScopeStack → ScopeStack} (stores : statement.Stores expr pinned write) :
      executes Unit (shallow.execStmt path statement) (deep.execStmt path statement) := by
    have evaluated := related.eval expr
    obtain ⟨depth, rfl⟩ := related.depth
    exact related.pieces.stores path stores evaluated
  have joins := related.pieces.executing
  have concluded (performed : executes Unit (shallow.perform path statement)
      (deep.perform path statement)) :
      executes Unit (shallow.execStmt path statement) (deep.execStmt path statement) :=
    joins.bind related.pieces.moment fun _ =>
      joins.concluded related.pieces.moment related.pieces.raise performed
  cases statement with
  | letVar name value => exact storing (.letVar name value)
  | assign target value => exact storing (.assign target value)
  | _ => exact concluded (related.perform path (by rintro _ _ ⟨⟩) (by rintro _ _ ⟨⟩))

/-! ### Running whole programs -/

theorem runMain (index : Nat) (statements : List Stmt) :
    executes Unit (shallow.runMain index statements) (deep.runMain index statements) := by
  have joins := related.pieces.executing
  induction statements generalizing index with
  | nil => exact joins.pure ()
  | cons statement rest ih =>
      refine joins.attempt (related.exec _ statement) (fun outcome => ?_) fun cause => .fail cause
      match outcome with
      | .ok () =>
          refine joins.bind joins.executor fun executor => ?_
          split
          · refine joins.bind joins.scheduler fun scheduler => ?_
            split
            · exact joins.bind (related.pieces.drive related.runOneCycle) fun _ => ih (index + 1)
            · exact ih (index + 1)
          · exact ih (index + 1)
      | .error (.returning value) => exact joins.pure ()
      | .error (.suspend fromLoop) => exact joins.fail _
      | .error .breakLoop => exact joins.fail _
      | .error .continueLoop => exact joins.fail _
      | .error (.fault cause) => exact joins.fail _

theorem runLoaded (program : Program) :
    executes Unit (shallow.runLoaded program) (deep.runLoaded program) := by
  have joins := related.pieces.executing
  refine joins.bind (joins.note _ rfl rfl) fun _ => ?_
  refine joins.bind (related.runMain 0 program.main) fun _ => ?_
  refine joins.bind (related.pieces.drive related.run) fun _ => ?_
  exact joins.bind joins.scheduler fun _ => joins.note _ rfl rfl

end Interpreter.Related

/-- An interpreter of any depth is related to itself, if what is halted is. -/
theorem Interpreter.Pieces.interpreter
    {drives evaluates executes : (α : Type) → Act α → Act α → Prop}
    (pieces : Interpreter.Pieces drives evaluates executes)
    (evaluated : evaluates Value Act.halt Act.halt) (executed : executes Unit Act.halt Act.halt)
    (depth : Nat) :
    Interpreter.Related drives evaluates executes (interpreter depth) (interpreter depth) := by
  induction depth with
  | zero => exact ⟨pieces, ⟨0, rfl⟩, fun _ => evaluated, fun _ _ => executed, Nat.le_refl 0⟩
  | succ depth ih => exact ⟨pieces, ⟨depth + 1, rfl⟩, ih.evalExpr, ih.execStmt, Nat.le_refl depth⟩

end CooperativeTasks
