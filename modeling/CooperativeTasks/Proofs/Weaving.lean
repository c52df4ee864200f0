import CooperativeTasks.Proofs.Endings

set_option autoImplicit false

/-! What running code and those who drive tasks do of their own accord.

`Deepens` takes actions apart down to single changes. For laws about what happens between one moment
and the next these pieces are too small: a task is put to sleep and that is recorded in one go, and
nothing is recorded of a step but by the step itself. Here the pieces are as large as they can
be. -/

namespace CooperativeTasks

variable {α β σ : Type}

/-- Driving tasks gives them turns; running code may await and call besides. -/
inductive Grade where
  | driving
  | running

/-- An action is put together of pieces such as an interpreter has. -/
inductive Woven : Grade → {α : Type} → Act α → Prop where
  | halt {grade : Grade} {α : Type} : Woven grade (Act.halt : Act α)
  | pure {grade : Grade} {α : Type} (value : α) : Woven grade (Pure.pure value)
  | raise {grade : Grade} {α : Type} (signal : Signal) : Woven grade (Act.raise signal : Act α)
  | moment {grade : Grade} : Woven grade Act.moment
  | read {grade : Grade} {α : Type} (view : Session → α) : Woven grade (Act.read view)
  | note {grade : Grade} (event : Event) (remark : event.isRemark = true := by rfl) :
      Woven grade (Act.note event)
  | write {grade : Grade} {change : ScopeStack → ScopeStack} (writes : ScopeWrite change) :
      Woven grade (Act.updateScopes change)
  | print {grade : Grade} (line : String) : Woven grade (Interpreter.printLine line)
  | positions {grade : Grade} (change : Positions → Positions) :
      Woven grade (Act.updatePositions change)
  | idle {grade : Grade} (swept : List TaskId) : Woven grade (Interpreter.idle swept)
  | register {grade : Grade} {task : Task} (fresh : task.Fresh) : Woven grade (Act.register task)
  | publish {grade : Grade} (id : TaskId) (receiver : Option Receiver) :
      Woven grade (Act.updateScheduler (Scheduler.modifyTask id fun task =>
        { task with isPublished := true, receiver }))
  | count {grade : Grade} (change : Statistics → Statistics) : Woven grade (Act.count change)
  | modifySite {grade : Grade} (site : BindingSite) {change : Scope → Scope}
      (keeps : ∀ scope, (change scope).id = scope.id) :
      Woven grade (Act.update (Session.modifySite site change))
  | sleepTask {grade : Grade} (id : TaskId) (millis : Nat) : Woven grade (Act.sleepTask id millis)
  | setTimeout {grade : Grade} (id : TaskId) (millis : Nat) : Woven grade (Act.setTimeout id millis)
  | bindFuture {grade : Grade} (id : TaskId) (site : BindingSite) :
      Woven grade (Act.updateScheduler (Scheduler.bindFuture id site))
  | bind {grade : Grade} {α β : Type} {first : Act α} {next : α → Act β}
      (head : Woven grade first) (tail : ∀ value, Woven grade (next value)) :
      Woven grade (first >>= next)
  | attempt {grade : Grade} {α : Type} {action : Act α} (inner : Woven grade action) :
      Woven grade (Act.attempt action)
  | lift {α : Type} {action : Act α} (inner : Woven .driving action) : Woven .running action
  | cycle {depth : Nat} (finalize : ∀ id, Woven .driving (Act.finalize id))
      (exec : ∀ path statement, Woven .running ((interpreter depth).exec path statement)) :
      Woven .driving (interpreter depth).cycle
  | calling (name : String) {scope : Scope} (new : scope.id = none) {body : Act Unit}
      (inner : Woven .running body) : Woven .running (Act.calling name scope body)
  | awaiting {depth : Nat} (id : TaskId)
      (inner : Woven .driving ((interpreter depth).runUntilComplete id)) :
      Woven .running ((interpreter depth).awaitUnfinished id)

namespace Woven

variable {grade : Grade}

theorem scheduler : Woven grade Act.scheduler :=
  .read _

theorem finalize (id : TaskId) : Woven grade (Act.finalize id) :=
  Act.FinalizeClosed.finalize
    { pure := .pure ()
      bind := fun head tail => .bind head fun _ => tail
      target := fun _ _ tail => .bind (.read _) tail
      modifySite := fun site _ keeps => .modifySite site keeps
      futureSiteGone := fun _ => .note _
      receiverSiteGone := fun _ => .note _
      scheduler := .bind .scheduler
      publish := .publish id
      count := .count
      finalized := .note _ }

theorem joins (grade : Grade) : Act.Joins fun _ _ => Woven grade where
  pure := .pure
  fail _ := .raise _
  read _ := .read _
  note event remark _ := .note event remark
  bind := .bind
  attempt inner tail _ := .bind (.attempt inner) tail
  iterate _ _ _ inner state :=
    Act.iterate_closed .halt (.pure ()) (fun state _ tail => .bind (inner state) tail) _ state

theorem storing {interpreter : Interpreter} (path : Path) {statement : Stmt} {expr : Expr}
    {pinned : Executor → Option BindingSite} {write : Value → ScopeStack → ScopeStack}
    (stores : statement.Stores expr pinned write) (eval : Woven grade (interpreter.eval expr)) :
    Woven grade (interpreter.perform path statement) := by
  have binds := (joins grade).bindFutureTo .bindFuture pinned
  cases stores with
  | letVar name =>
      exact .bind eval fun value => .bind (binds value) fun _ => .write (.define name value)
  | assign target =>
      have writes := (joins grade).writePlace .write target
      exact .bind eval fun value => .bind (binds value) fun _ => writes value

theorem concluded {action : Act Unit} (inner : Woven grade action) : Woven grade action.concluded :=
  @Act.Joins.concluded _ (joins grade) .moment .raise action action inner

theorem pieces :
    Interpreter.Pieces (fun _ _ => Woven .driving) (fun _ _ => Woven .running)
      fun _ _ => Woven .running where
  driving := joins _
  evaluating := joins _
  executing := joins _
  drive := .lift
  evaluate inner := inner
  cycle exec := .cycle .finalize exec
  idle := .idle
  finalize := .finalize
  register := .register
  sleepTask := .sleepTask
  setTimeout := .setTimeout
  write := .write
  calling name _ new _ _ inner := .calling name new inner
  awaiting id inner := .awaiting id inner
  raise := .raise
  moment := .moment
  positions := .positions
  print := .print
  stores path _ _ _ _ stores eval := .bind .moment fun _ => .concluded (.storing path stores eval)

end Woven

/-- Everything that an interpreter does is put together of pieces. -/
theorem interpreter_woven (depth : Nat) :
    Interpreter.Related (fun _ _ => Woven .driving) (fun _ _ => Woven .running)
      (fun _ _ => Woven .running) (interpreter depth) (interpreter depth) :=
  Woven.pieces.interpreter .halt .halt depth

end CooperativeTasks
