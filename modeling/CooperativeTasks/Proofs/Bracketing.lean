import CooperativeTasks.Proofs.Endings
import CooperativeTasks.Proofs.Operations

set_option autoImplicit false

/-! Brackets put back what they put aside.

A call and a step both run a foreign body on the executor that they share with everyone else.
Whichever way the body ends, the scopes on the stack, the running task with its mode and
positions, the call depth and the tasks on the call stack are afterwards what they were. Only a
halt leaves a bracket open; even then calls are never nested more deeply than they may be. -/

namespace CooperativeTasks

variable {α β : Type}

/-- What any piece of running code leaves to the code around it as it was. The positions are
those of a running body: expressions have no part in them, statements do. -/
structure Session.Kept (layer : Layer) (before after : Session) : Prop where
  settings : after.executor.settings = before.executor.settings
  scopes : after.executor.scopes.identities = before.executor.scopes.identities
  currentTask : after.executor.currentTask = before.executor.currentTask
  autoYield : after.executor.autoYield = before.executor.autoYield
  callDepth : after.executor.callDepth = before.executor.callDepth
  active : after.scheduler.active = before.scheduler.active
  positions : layer = .expression → after.executor.positions = before.executor.positions

/-- Calls are nested no more deeply than the settings allow. -/
def Session.CallsBounded (session : Session) : Prop :=
  session.executor.callDepth ≤ session.executor.settings.maxCallDepth

namespace Session.Kept

theorem refl (layer : Layer) (session : Session) : Kept layer session session :=
  ⟨rfl, rfl, rfl, rfl, rfl, rfl, fun _ => rfl⟩

theorem trans {layer : Layer} {first second third : Session} (left : Kept layer first second)
    (right : Kept layer second third) : Kept layer first third where
  settings := right.settings.trans left.settings
  scopes := right.scopes.trans left.scopes
  currentTask := right.currentTask.trans left.currentTask
  autoYield := right.autoYield.trans left.autoYield
  callDepth := right.callDepth.trans left.callDepth
  active := right.active.trans left.active
  positions expression := (right.positions expression).trans (left.positions expression)

theorem lift {before after : Session} (kept : Kept .expression before after) :
    Kept .statement before after :=
  { kept with positions := fun impossible => nomatch impossible }

theorem bounded {layer : Layer} {before after : Session} (kept : Kept layer before after)
    (bound : before.CallsBounded) : after.CallsBounded := by
  unfold Session.CallsBounded
  rw [kept.callDepth, kept.settings]
  exact bound

theorem ofNoted {event : Event} {before after : Session} (layer : Layer)
    (noted : before.Noted event after) : Kept layer before after := by
  constructor
  · rw [noted.executor]
  · rw [noted.executor]
  · rw [noted.executor]
  · rw [noted.executor]
  · rw [noted.executor]
  · rw [noted.scheduler]
  · intro _
    rw [noted.executor]

theorem ofPublished {before after : Session} (layer : Layer) (published : before.Published after) :
    Kept layer before after := by
  constructor
  · rw [published.executor]
  · exact published.identities
  · rw [published.executor]
  · rw [published.executor]
  · rw [published.executor]
  · rw [published.scheduler]
  · intro _
    rw [published.executor]

theorem onTask (layer : Layer) (id : TaskId) (change : Task → Task) (session : Session) :
    Kept layer session (session.onTask id change) :=
  ⟨rfl, rfl, rfl, rfl, rfl, rfl, fun _ => rfl⟩

theorem counting (layer : Layer) (change : Statistics → Statistics) (session : Session) :
    Kept layer session (session.counting change) :=
  ⟨rfl, rfl, rfl, rfl, rfl, rfl, fun _ => rfl⟩

theorem awaitedBy (layer : Layer) (waiter awaited : Option TaskId) (session : Session) :
    Kept layer session (session.awaitedBy waiter awaited) := by
  cases waiter with
  | none => exact .refl layer session
  | some waiter => exact .onTask layer waiter _ session

theorem leavingCall {scope : Scope} {before left : Session}
    (kept : Kept .statement (before.enteringCall scope) left) :
    Kept .expression before (left.leavingCall before.executor) where
  settings := kept.settings
  scopes := ScopeStack.identities_truncate_push kept.scopes
  currentTask := rfl
  autoYield := rfl
  callDepth := by
    have inside : left.executor.callDepth = before.executor.callDepth + 1 := kept.callDepth
    change left.executor.callDepth - 1 = before.executor.callDepth
    omega
  active := kept.active
  positions _ := rfl

theorem leavingTask {id : TaskId} {task : Task} {before left : Session}
    (kept : Kept .statement (before.enteringTask id task) left) :
    Kept .expression before (left.leavingTask id task before.executor) where
  settings := kept.settings
  scopes := ScopeStack.identities_truncate_push kept.scopes
  currentTask := rfl
  autoYield := rfl
  callDepth := kept.callDepth
  active := by
    have inside : left.scheduler.active = id :: before.scheduler.active := kept.active
    change left.scheduler.active.tail = before.scheduler.active
    rw [inside]
    rfl
  positions _ := rfl

end Session.Kept

theorem ScopeWrite.identities {change : ScopeStack → ScopeStack} (writes : ScopeWrite change)
    (stack : ScopeStack) : (change stack).identities = stack.identities := by
  cases writes with
  | define name value => exact ScopeStack.identities_modifyCurrent (Scope.define_id name value) stack
  | remove name => exact ScopeStack.identities_modifyCurrent (Scope.remove_id name) stack
  | place name value => exact ScopeStack.identities_writePlace name value stack
  | members base members =>
      induction members generalizing stack with
      | nil => rfl
      | cons member rest ih => exact (ih _).trans (ScopeStack.identities_assignExisting _ _ stack)

theorem Move.kept {change : Session → Session} (moves : Move change) (layer : Layer)
    (session : Session) : session.Kept layer (change session) := by
  cases moves with
  | write writes =>
      exact ⟨rfl, writes.identities _, rfl, rfl, rfl, rfl, fun _ => rfl⟩
  | _ => exact ⟨rfl, rfl, rfl, rfl, rfl, rfl, fun _ => rfl⟩

/-! ### Outcomes -/

/-- The outcome of code that keeps what is not its own. -/
def Outcome.Brackets (layer : Layer) (before : Session) : Outcome α → Prop
  | .done _ after => before.Kept layer after
  | .raised _ after => before.Kept layer after
  | .halted moment => before.CallsBounded → moment.CallsBounded

def Act.Brackets (layer : Layer) (action : Act α) : Prop :=
  ∀ session, (action session).Brackets layer session

theorem Outcome.Brackets.after {layer : Layer} {first second : Session} {outcome : Outcome α}
    (kept : first.Kept layer second) (brackets : outcome.Brackets layer second) :
    outcome.Brackets layer first := by
  cases outcome with
  | done value after => exact kept.trans brackets
  | raised signal after => exact kept.trans brackets
  | halted moment => exact fun bound => brackets (kept.bounded bound)

theorem Outcome.Brackets.lift {before : Session} {outcome : Outcome α}
    (brackets : outcome.Brackets .expression before) : outcome.Brackets .statement before := by
  cases outcome with
  | done value after => exact Session.Kept.lift brackets
  | raised signal after => exact Session.Kept.lift brackets
  | halted moment => exact brackets

theorem Outcome.Brackets.halting {layer : Layer} {before moment : Session}
    (kept : before.Kept layer moment) : (Outcome.halted moment : Outcome α).Brackets layer before :=
  kept.bounded

namespace Act.Brackets

theorem bind {layer : Layer} {first : Act α} {next : α → Act β} (head : first.Brackets layer)
    (tail : ∀ value, (next value).Brackets layer) : (first >>= next).Brackets layer := by
  intro session
  have start := head session
  refine Act.bind_elim ?_ ?_ ?_
  · intro value after run
    rw [run] at start
    exact .after start (tail value after)
  · intro signal after run
    rw [run] at start
    exact start
  · intro moment run
    rw [run] at start
    exact start

theorem attempt {layer : Layer} {action : Act α} (inner : action.Brackets layer) :
    (Act.attempt action).Brackets layer := by
  intro session
  have ended := inner session
  unfold Act.attempt
  cases run : action session with
  | done value after =>
      rw [run] at ended
      exact ended
  | raised signal after =>
      rw [run] at ended
      exact ended
  | halted moment =>
      rw [run] at ended
      exact ended

theorem moment (layer : Layer) : Act.moment.Brackets layer := by
  intro session
  unfold Act.moment
  split
  · exact .refl layer session
  · exact fun bound => bound
  · exact ⟨rfl, rfl, rfl, rfl, rfl, rfl, fun _ => rfl⟩

theorem register (layer : Layer) (task : Task) : (Act.register task).Brackets layer := by
  intro session
  have registers : session.Kept layer (session.registering task) :=
    ⟨rfl, rfl, rfl, rfl, rfl, rfl, fun _ => rfl⟩
  refine Act.register_elim fun autoYield after noted => ?_
  have kept := registers.trans (.ofNoted layer noted)
  exact ⟨kept, .halting kept⟩

theorem calling (name : String) (scope : Scope) {body : Act Unit}
    (inner : body.Brackets .statement) : (Act.calling name scope body).Brackets .expression := by
  intro session
  refine Act.calling_elim ?_ ?_ ?_
  · intro _
    exact .refl .expression session
  · intro _ moment noted
    exact .halting (.ofNoted .expression noted)
  · intro shallow noted same
    have start : session.Kept .expression noted := .ofNoted .expression same
    have ended := inner (noted.enteringCall scope)
    rw [← same.executor]
    cases run : body (noted.enteringCall scope) with
    | done value left =>
        rw [run] at ended
        exact start.trans (.leavingCall ended)
    | raised signal left =>
        rw [run] at ended
        cases signal <;> exact start.trans (.leavingCall ended)
    | halted moment =>
        rw [run] at ended
        intro _
        apply ended
        change noted.executor.callDepth + 1 ≤ noted.executor.settings.maxCallDepth
        rw [same.executor]
        exact shallow

theorem awaiting (id : TaskId) {drive : Act Unit} (inner : drive.Brackets .expression) :
    (Act.awaiting id drive).Brackets .expression := by
  intro session
  have begin {noted : Session}
      (same : session.Noted (.awaiting id session.executor.currentTask) noted) :
      session.Kept .expression (noted.awaitedBy session.executor.currentTask (some id)) :=
    .trans (.ofNoted .expression same) (.awaitedBy ..)
  have finish {left after : Session}
      (ended : (left.awaitedBy session.executor.currentTask none).Noted
        (.awaitEnded id session.executor.currentTask) after) :
      left.Kept .expression after :=
    .trans (.awaitedBy ..) (.ofNoted .expression ended)
  refine Act.awaiting_elim ?_ ?_ ?_ ?_
  · intro moment noted
    exact .halting (.ofNoted .expression noted)
  · intro noted same moment run
    have driven := inner (noted.awaitedBy session.executor.currentTask (some id))
    rw [run] at driven
    exact .after (begin same) driven
  · intro noted same left run after ended
    have driven := inner (noted.awaitedBy session.executor.currentTask (some id))
    rw [run] at driven
    have kept := ((begin same).trans driven).trans (finish ended)
    exact ⟨kept, .halting kept⟩
  · intro noted same signal left run after ended
    have driven := inner (noted.awaitedBy session.executor.currentTask (some id))
    rw [run] at driven
    have kept := ((begin same).trans driven).trans (finish ended)
    exact ⟨kept, .halting kept⟩

end Act.Brackets

/-! ### Steps and turns -/

section Turns

variable {interpreter : Interpreter}
  (exec : ∀ path statement, (interpreter.exec path statement).Brackets .statement)

include exec

theorem runStatement_brackets (id : TaskId) (reading : Nat) :
    (interpreter.runStatement id reading).Brackets .expression := by
  intro session
  have begin : session.Kept .expression
      (Interpreter.announcing id (session.onTask id Task.start)) :=
    ⟨rfl, rfl, rfl, rfl, rfl, rfl, fun _ => rfl⟩
  refine interpreter.runStatement_elim ?_ ?_ ?_ ?_
  · intro _
    exact .onTask ..
  · intro task _ _
    exact .trans (.onTask ..) (.onTask ..)
  · intro task _ moment noted
    exact .halting (begin.trans (.ofNoted .expression noted))
  · intro task _ statement _ noted same
    have start := begin.trans (.ofNoted .expression same)
    have ended := exec [.item task.counter] statement (noted.enteringTask id task)
    unfold Interpreter.stepping Interpreter.stepEnding
    split
    · rename_i moment run
      rw [run] at ended
      intro bound
      exact ended (start.bounded bound)
    · rename_i left run
      rw [run] at ended
      dsimp only
      split
      · exact start.trans (.trans (.leavingTask ended) (.trans (.onTask ..) (.onTask ..)))
      · exact start.trans (.trans (.leavingTask ended) (.onTask ..))
    · rename_i fromLoop left run
      rw [run] at ended
      exact start.trans (.trans (.leavingTask ended) (.onTask ..))
    · rename_i value left run
      rw [run] at ended
      exact start.trans (.trans (.leavingTask ended) (.trans (.onTask ..) (.onTask ..)))
    · rename_i signal left _ _ run
      rw [run] at ended
      exact start.trans (.leavingTask ended)

theorem stepReady_brackets (id : TaskId) : (interpreter.stepReady id).Brackets .expression := by
  intro session
  have tick : session.Kept .expression session.ticked :=
    ⟨rfl, rfl, rfl, rfl, rfl, rfl, fun _ => rfl⟩
  refine interpreter.stepReady_elim ?_ ?_ ?_ ?_ ?_
  · intro _
    exact tick
  · intro task _ _ after noted
    have kept : session.Kept .expression after :=
      tick.trans (.trans (.trans (.onTask ..) (.counting ..)) (.ofNoted .expression noted))
    exact ⟨kept, .halting kept⟩
  · intro task _ _ _
    exact tick.trans (.counting ..)
  · intro task _ _ _ _
    have fired : session.Kept .expression
        ((session.ticked.onTask id Interpreter.woken).onTask id (Task.complete .void)) :=
      tick.trans (.trans (.onTask ..) (.onTask ..))
    refine ⟨fired, fun after noted => ?_⟩
    have kept := fired.trans (.ofNoted .expression noted)
    exact ⟨kept, .halting kept⟩
  · intro task _ _ _ _
    exact .after (tick.trans (.onTask ..)) (runStatement_brackets exec id _ _)

theorem step_brackets (id : TaskId) : (interpreter.step id).Brackets .expression := by
  intro session
  refine interpreter.step_elim ?_ ?_ ?_ ?_
  · intro _
    exact .refl .expression session
  · intro task _ _ awaited _ _ after noted
    have kept : session.Kept .expression after :=
      .trans (.counting ..) (.ofNoted .expression noted)
    exact ⟨kept, .halting kept⟩
  · intro task _ _ _
    exact stepReady_brackets exec id session
  · intro task _ _ awaited _ _
    exact .after (.onTask ..) (stepReady_brackets exec id _)

theorem cycle_brackets : interpreter.cycle.Brackets .expression := by
  intro session
  have pop {id : TaskId} {remaining : Scheduler} {popped : Session}
      (front : session.scheduler.dequeue? = some (id, remaining))
      (noted : { session with scheduler := remaining }.Noted (.dequeued id) popped) :
      session.Kept .expression popped := by
    have active : remaining.active = session.scheduler.active := by
      unfold Scheduler.dequeue? at front
      split at front
      · cases front
      · cases front
        rfl
    have taken : session.Kept .expression { session with scheduler := remaining } :=
      ⟨rfl, rfl, rfl, rfl, rfl, active, fun _ => rfl⟩
    exact taken.trans (.ofNoted .expression noted)
  have push {id : TaskId} {left after : Session}
      (noted : (Interpreter.requeueing id left).Noted (.requeued id) after) :
      left.Kept .expression after := by
    have put : left.Kept .expression (Interpreter.requeueing id left) :=
      ⟨rfl, rfl, rfl, rfl, rfl, rfl, fun _ => rfl⟩
    exact put.trans (.ofNoted .expression noted)
  refine interpreter.cycle_elim ?_ ?_ ?_ ?_ ?_ ?_ ?_
  · intro _
    exact .refl .expression session
  · intro id remaining front moment noted
    exact .halting (pop front noted)
  · intro id remaining front _ popped noted after back
    have kept := (pop front noted).trans (push back)
    exact ⟨.halting kept, kept, kept⟩
  · intro id remaining front _ popped noted moment run
    have stepped := step_brackets exec id popped
    rw [run] at stepped
    exact .after (pop front noted) stepped
  · intro id remaining front _ popped noted signal left run
    have stepped := step_brackets exec id popped
    rw [run] at stepped
    exact (pop front noted).trans stepped
  · intro id remaining front _ popped noted left run after published
    have stepped := step_brackets exec id popped
    rw [run] at stepped
    have kept := ((pop front noted).trans stepped).trans (.ofPublished .expression published)
    exact ⟨fun _ => .halting kept, fun _ => kept⟩
  · intro id remaining front _ popped noted status left _ run after back
    have stepped := step_brackets exec id popped
    rw [run] at stepped
    have kept := ((pop front noted).trans stepped).trans (push back)
    exact ⟨.halting kept, kept⟩

end Turns

theorem finalize_brackets (layer : Layer) (id : TaskId) : (Act.finalize id).Brackets layer := by
  intro session
  obtain ⟨after, published, ended⟩ := Act.Publishes.finalize id session
  have kept : session.Kept layer after := .ofPublished layer published
  rcases ended with ended | ended
  · rw [ended]
    exact kept
  · rw [ended]
    exact .halting kept

theorem Deepens.brackets {layer : Layer} {shallow deep : Act α}
    (deepens : Deepens layer shallow deep) : deep.Brackets layer := by
  induction deepens with
  | halt => exact fun _ bound => bound
  | cut _ whole => exact whole
  | pure value => exact fun session => .refl _ session
  | fail cause => exact fun session => .refl _ session
  | raise signal => exact fun session => .refl _ session
  | moment => exact .moment _
  | read _ => exact fun session => .refl _ session
  | move moves => exact fun session => moves.kept _ session
  | positions change =>
      exact fun session => ⟨rfl, rfl, rfl, rfl, rfl, rfl, fun impossible => nomatch impossible⟩
  | register _ => exact .register _ _
  | finalize id => exact finalize_brackets _ id
  | bind _ _ head tail => exact .bind head tail
  | attempt _ _ _ inner tail => exact .bind (.attempt inner) tail
  | lift _ inner => exact fun session => (inner session).lift
  | calling name _ _ inner => exact .calling name _ inner
  | awaiting id _ inner => exact .awaiting id inner
  | cycle _ exec => exact cycle_brackets exec

theorem request_brackets (depth : Nat) (operation : Operation) :
    ((interpreter depth).request operation).Brackets .statement := by
  have itself := interpreter_deepens (Nat.le_refl depth)
  rcases itself.request operation with ⟨program, rfl⟩ | ⟨id, rfl⟩ | ⟨id, site, rfl⟩ | deepens
  · refine .bind ?_ fun _ => (Deepens.bind .executor fun _ => .note _).brackets
    intro session
    change session.Kept .statement { session with executor := session.executor.load program }
    rw [Executor.load_eq]
    exact ⟨rfl, rfl, rfl, rfl, rfl, rfl, fun impossible => nomatch impossible⟩
  · refine .bind (fun session => (step_brackets ?_ id session).lift) fun _ session => .refl _ session
    intro path statement
    exact (itself.exec path statement).brackets
  · exact fun session => .onTask .statement id _ session
  · exact deepens.brackets

theorem requestAll_brackets (depth : Nat) (operations : List Operation) :
    ((interpreter depth).requestAll operations).Brackets .statement := by
  induction operations with
  | nil => exact fun session => .refl .statement session
  | cons operation rest ih => exact .bind (.attempt (request_brackets depth operation)) fun _ => ih

theorem undertake_brackets (depth : Nat) (errand : Errand) :
    ((interpreter depth).undertake errand).Brackets .statement := by
  cases errand with
  | operation operation => exact request_brackets depth operation
  | program program =>
      refine .bind (request_brackets depth (.load program)) fun _ => ?_
      exact ((interpreter_deepens (Nat.le_refl depth)).related.runLoaded program).brackets

theorem undertakeAll_brackets (depth : Nat) (errands : List Errand) :
    ((interpreter depth).undertakeAll errands).Brackets .statement := by
  induction errands with
  | nil => exact fun session => .refl .statement session
  | cons errand rest ih => exact .bind (.attempt (undertake_brackets depth errand)) fun _ => ih

/-- The context of running code is the same after a bracket as before it. -/
structure Session.Restored (before after : Session) : Prop where
  scopes : after.executor.scopes.frames.map Scope.id = before.executor.scopes.frames.map Scope.id
  currentTask : after.executor.currentTask = before.executor.currentTask
  autoYield : after.executor.autoYield = before.executor.autoYield
  positions : after.executor.positions = before.executor.positions
  callDepth : after.executor.callDepth = before.executor.callDepth
  active : after.scheduler.active = before.scheduler.active

/-- The context is restored, whichever way the code has returned. While it has not, calls are
nested no more deeply than they may be. -/
def Outcome.Restores (before : Session) : Outcome α → Prop
  | .done _ after => before.Restored after
  | .raised _ after => before.Restored after
  | .halted moment => before.CallsBounded → moment.CallsBounded

theorem Outcome.Brackets.restores {before : Session} {outcome : Outcome α}
    (brackets : outcome.Brackets .expression before) : outcome.Restores before := by
  have restored {after : Session} (kept : before.Kept .expression after) : before.Restored after :=
    ⟨kept.scopes, kept.currentTask, kept.autoYield, kept.positions rfl, kept.callDepth, kept.active⟩
  cases outcome with
  | done value after => exact restored brackets
  | raised signal after => exact restored brackets
  | halted moment => exact brackets

/-- Every way into the scheduler or into a call restores the context it was entered with, from
any session and whichever way it returns. From any session in which no call is in progress,
calls are never nested too deeply at any moment of any operations. -/
theorem contexts_restored_calls_bounded (depth : Nat) :
    (∀ session,
      (∀ id, ((interpreter depth).step id session).Restores session) ∧
      ((interpreter depth).runOneCycle session).Restores session ∧
      ((interpreter depth).run session).Restores session ∧
      (∀ id, ((interpreter depth).runUntilComplete id session).Restores session) ∧
      (∀ function args receiver,
        ((interpreter depth).callSync function args receiver session).Restores session) ∧
      ∀ expr, ((interpreter depth).eval expr session).Restores session) ∧
    ∀ (session : Session) (operations : List Operation),
      ((interpreter depth).requestAll operations
        { session with executor := { session.executor with callDepth := 0 } }).session.CallsBounded := by
  have itself := interpreter_deepens (Nat.le_refl depth)
  have exec (path : Path) (statement : Stmt) := (itself.exec path statement).brackets
  constructor
  · intro session
    refine ⟨fun id => ?_, ?_, ?_, fun id => ?_, fun function args receiver => ?_, fun expr => ?_⟩
    · exact (step_brackets exec id session).restores
    · exact (itself.related.runOneCycle.brackets session).restores
    · exact (itself.related.run.brackets session).restores
    · exact ((itself.related.runUntilComplete id).brackets session).restores
    · exact ((itself.related.callSync function args receiver).brackets session).restores
    · exact ((itself.eval expr).brackets session).restores
  · intro session operations
    have start : ({ session with executor := { session.executor with callDepth := 0 } } :
        Session).CallsBounded := Nat.zero_le _
    have ended := requestAll_brackets depth operations
      { session with executor := { session.executor with callDepth := 0 } }
    generalize (interpreter depth).requestAll operations
      { session with executor := { session.executor with callDepth := 0 } } = outcome at ended ⊢
    cases outcome with
    | done value after => exact Session.Kept.bounded ended start
    | raised signal after => exact Session.Kept.bounded ended start
    | halted moment => exact ended start

end CooperativeTasks
