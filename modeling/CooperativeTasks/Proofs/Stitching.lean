import CooperativeTasks.Proofs.Extension

set_option autoImplicit false

/-! Runs as sequences of small changes.

An interpreter changes the terms of no task, apart from two kinds of statements: a `let` or an
assignment that is given the future of an unfinished task tells that task where it has put it. Here
such a statement is one piece, around the expression that it evaluates, and everything else is taken
apart down to single changes. -/

namespace CooperativeTasks

variable {α β σ : Type}

/-! ### Storing a value -/

/-- The scheduler after a value has been put where the site points: if it is the future of an
unfinished task, that task knows of it. -/
def Scheduler.heldAt (pinned : Option BindingSite) (value : Value) (scheduler : Scheduler) :
    Scheduler :=
  match Future.taskOf? value, pinned with
  | some id, some site =>
      if scheduler.isFinished id then scheduler else scheduler.bindFuture id site
  | _, _ => scheduler

namespace Scheduler

theorem heldAt_cases (pinned : Option BindingSite) (value : Value) (scheduler : Scheduler) :
    scheduler.heldAt pinned value = scheduler ∨
      ∃ id site, Future.taskOf? value = some id ∧ pinned = some site ∧
        scheduler.heldAt pinned value = scheduler.bindFuture id site := by
  unfold heldAt
  cases carries : Future.taskOf? value with
  | none => exact .inl rfl
  | some id =>
      cases pinned with
      | none => exact .inl rfl
      | some site =>
          dsimp only
          split
          · exact .inl rfl
          · exact .inr ⟨id, site, rfl, rfl, rfl⟩

theorem terms?_bindFuture (id other : TaskId) (site : BindingSite) (scheduler : Scheduler) :
    (scheduler.bindFuture id site).terms? other =
      if other = id then
        (scheduler.terms? id).map fun terms => { terms with futureSite := some site }
      else scheduler.terms? other := by
  unfold terms? bindFuture
  by_cases same : other = id
  · subst other
    rw [if_pos rfl, task?_modifyTask_self, Option.map_map, Option.map_map]
    rfl
  · rw [if_neg same, task?_modifyTask_of_ne same]

theorem terms?_register {task : Task} (fresh : task.Fresh) (id : TaskId) (scheduler : Scheduler) :
    (scheduler.register task).2.terms? id =
      if id.index = scheduler.tasks.length then
        some ⟨task.body, task.body.any fun function => !function.hasYield, none⟩
      else scheduler.terms? id := by
  have unbound : task.futureSite = none := by
    induction fresh with
    | ofFunction function args => rfl
    | timer => rfl
    | withReceiver _ value site ih => exact ih
  unfold terms?
  rw [task?_register]
  split
  · unfold Task.terms added
    dsimp only [Option.map_some]
    rw [unbound]
    cases task.body <;> rfl
  · rfl

end Scheduler

/-- The session after a value has been put where the site points. -/
def Session.storing (pinned : Option BindingSite) (value : Value)
    (write : ScopeStack → ScopeStack) (session : Session) : Session :=
  { session with
    executor := { session.executor with scopes := write session.executor.scopes }
    scheduler := session.scheduler.heldAt pinned value }

namespace Interpreter

theorem bindFutureTo_apply (site : Executor → Option BindingSite) (value : Value)
    (session : Session) :
    bindFutureTo site value session =
      .done () { session with
        scheduler := session.scheduler.heldAt (site session.executor) value } := by
  unfold bindFutureTo Scheduler.heldAt
  cases Future.taskOf? value with
  | none => rfl
  | some id =>
      dsimp only
      rw [Act.scheduler_bind]
      cases finished : session.scheduler.isFinished id with
      | true =>
          rw [if_pos rfl]
          cases site session.executor with
          | none => rfl
          | some pinned =>
              dsimp only
              rw [finished]
              rfl
      | false =>
          rw [if_neg Bool.false_ne_true, Act.executor_bind]
          cases site session.executor with
          | none => rfl
          | some pinned =>
              dsimp only
              rw [finished]
              rfl

theorem storeLocal_apply (name : String) (value : Value) (session : Session) :
    storeLocal name value session =
      .done () (session.storing (session.executor.localSite? name) value
        (ScopeStack.define name value)) := by
  unfold storeLocal
  rw [Act.bind_apply, bindFutureTo_apply]
  rfl

theorem storeAt_apply (target : String) (value : Value) (session : Session) :
    ∃ result, storeAt target value session =
      .of (session.storing (session.executor.site? target) value fun scopes =>
        (scopes.writePlace target value).1) result := by
  unfold storeAt
  rw [Act.bind_apply, bindFutureTo_apply, Act.writePlace_eq]
  dsimp only
  cases written : (session.executor.scopes.writePlace target value).2 with
  | ok _ =>
      refine ⟨.ok (), ?_⟩
      simp only [Act.bind_apply, Act.read, written]
      rfl
  | error cause =>
      refine ⟨.error (.fault cause), ?_⟩
      simp only [Act.bind_apply, Act.read, written]
      rfl

/-- Once the value is there, it is stored, and then the statement ends or fails. -/
theorem perform_stores {statement : Stmt} {expr : Expr} {pinned : Executor → Option BindingSite}
    {write : Value → ScopeStack → ScopeStack} (stores : statement.Stores expr pinned write)
    (interpreter : Interpreter) (path : Path) :
    ∃ store : Value → Act Unit, interpreter.perform path statement = interpreter.eval expr >>= store ∧
      ∀ value session, ∃ result, store value session =
        .of (session.storing (pinned session.executor) value (write value)) result := by
  cases stores with
  | letVar name => exact ⟨_, rfl, fun value session => ⟨.ok (), storeLocal_apply name value session⟩⟩
  | assign target => exact ⟨_, rfl, storeAt_apply target⟩

end Interpreter

/-! ### Everything that is done -/

/-- An action is put together of changes that leave the terms of tasks as they are, of
registrations, and of statements that store values. -/
inductive Act.Stitched : {α : Type} → Act α → Prop where
  | halt {α : Type} : Stitched (Act.halt : Act α)
  | pure {α : Type} (value : α) : Stitched (Pure.pure value)
  | raise {α : Type} (signal : Signal) : Stitched (Act.raise signal : Act α)
  | moment : Stitched Act.moment
  | read {α : Type} {view : Session → α}
      (blind : ∀ session budget, view { session with budget } = view session) :
      Stitched (Act.read view)
  | update {change : Session → Session}
      (blind : ∀ session budget, change { session with budget } = { change session with budget })
      (keeps : ∀ session id, (change session).scheduler.terms? id = session.scheduler.terms? id) :
      Stitched (Act.update change)
  | enlist {task : Task} (fresh : task.Fresh) :
      Stitched (Act.updateScheduler fun scheduler => (scheduler.register task).2)
  | stores {statement : Stmt} {expr : Expr} {pinned : Executor → Option BindingSite}
      {write : Value → ScopeStack → ScopeStack} (stores : statement.Stores expr pinned write)
      (depth : Nat) (path : Path) (eval : Stitched ((interpreter depth).eval expr)) :
      Stitched ((interpreter depth).execStmt path statement)
  | bind {α β : Type} {first : Act α} {next : α → Act β} (head : Stitched first)
      (tail : ∀ value, Stitched (next value)) : Stitched (first >>= next)
  | attempt {α : Type} {action : Act α} (inner : Stitched action) : Stitched (Act.attempt action)

namespace Act.Stitched

theorem changing : Act.Changing fun _ _ => Stitched where
  pure := .pure
  raise := .raise
  moment := .moment
  read := .read
  update := .update
  bind := .bind
  attempt := .attempt

theorem register {task : Task} (fresh : task.Fresh) : Stitched (Act.register task) := by
  rw [Act.register_eq]
  refine .bind (.read fun _ _ => rfl) fun id => ?_
  refine .bind (.enlist fresh) fun _ => ?_
  refine .bind changing.scheduler fun registered => ?_
  exact .bind (changing.note _) fun _ => .pure id

theorem joins : Act.Joins fun _ _ => Stitched where
  pure := .pure
  fail _ := .raise _
  read := .read
  note event _ _ := changing.note event
  bind := .bind
  attempt inner tail _ := .bind (.attempt inner) tail
  iterate _ _ _ inner state :=
    Act.iterate_closed .halt (.pure ()) (fun state _ tail => .bind (inner state) tail) _ state

theorem pieces :
    Interpreter.Pieces (fun _ _ => Stitched) (fun _ _ => Stitched) fun _ _ => Stitched where
  driving := joins
  evaluating := joins
  executing := joins
  drive inner := inner
  evaluate inner := inner
  cycle := by
    intro shallow depth exec
    exact @Changing.cycle _ changing shallow (interpreter depth) exec
  idle := changing.idle
  finalize := changing.finalize
  register := .register
  sleepTask := changing.sleepTask
  setTimeout := changing.setTimeout
  write _ := changing.updateExecutor _
  calling := by
    intro name scope _ body body' inner
    exact @Changing.calling _ changing name scope body body' inner
  awaiting := by
    intro shallow depth id inner
    have awaits : Stitched ((interpreter depth).awaitTask id) :=
      @Changing.awaiting _ changing id (shallow.runUntilComplete id) _ inner
    refine .bind changing.scheduler fun scheduler => ?_
    split
    · exact .pure ()
    · split
      · exact awaits
      · exact .pure ()
  raise := .raise
  moment := .moment
  positions _ := changing.updateExecutor _
  print _ := changing.updateExecutor _
  stores path _ _ _ _ stores eval := .stores stores _ path eval

end Act.Stitched

/-- Everything that an interpreter evaluates and executes is stitched together. -/
theorem interpreter_stitched (depth : Nat) :
    Interpreter.Related (fun _ _ => Act.Stitched) (fun _ _ => Act.Stitched)
      (fun _ _ => Act.Stitched) (interpreter depth) (interpreter depth) :=
  Act.Stitched.pieces.interpreter .halt .halt depth

theorem step_stitched (depth : Nat) (id : TaskId) : Act.Stitched ((interpreter depth).step id) :=
  @Act.Changing.step _ Act.Stitched.changing (interpreter depth) (interpreter depth)
    (interpreter_stitched depth).exec id

theorem runProgram_stitched (depth : Nat) (program : Program) :
    Act.Stitched ((interpreter depth).runProgram program) := by
  rw [Interpreter.runProgram_eq]
  have changing := Act.Stitched.changing
  refine .bind (.bind (changing.updateExecutor _) fun _ => ?_) fun _ =>
    (interpreter_stitched depth).runLoaded program
  exact .bind changing.executor fun _ => changing.note _

end CooperativeTasks
