import CooperativeTasks.Proofs.Bracketing
import CooperativeTasks.Proofs.Reachability

set_option autoImplicit false

/-! What running code can make of a session.

Whatever code does, it does by a few kinds of changes, one after the other, outside of and inside
the brackets of calls and steps. They are listed here once, with what is known where a bracket is
entered and left. What each of them keeps is kept wherever running code leads to, halted or not. -/

namespace CooperativeTasks

variable {α β : Type}

/-- A change to a task that has nothing to do with what the task reports to its caller. -/
def Task.Spares (change : Task → Task) : Prop :=
  ∀ task, (change task).receiver = task.receiver ∧ (change task).isPublished = task.isPublished

/-- Such a change that neither finishes the task nor touches its saved scope. -/
structure Task.SparesRun (change : Task → Task) : Prop where
  spares : Task.Spares change
  scope : ∀ task, (change task).scope = task.scope
  isFinished : ∀ task, (change task).isFinished = task.isFinished

/-- The statement of a step is about to run: the task is registered with its scope, is not finished
and is not running already. -/
structure Session.Entering (id : TaskId) (task : Task) (session : Session) : Prop where
  idle : id ∉ session.scheduler.active
  found : ∃ current, session.scheduler.task? id = some current ∧ current.scope = task.scope ∧
    current.isFinished = false

inductive Session.Becomes : Session → Session → Prop where
  | refl (session : Session) : Becomes session session
  | trans {first second third : Session} (earlier : Becomes first second)
      (later : Becomes second third) : Becomes first third
  /-- The clock, the journal and the budget change. -/
  | aside {before after : Session} (executor : after.executor = before.executor)
      (scheduler : after.scheduler = before.scheduler) : Becomes before after
  | written {change : ScopeStack → ScopeStack} (writes : ScopeWrite change) (session : Session) :
      Becomes session
        { session with
          executor := { session.executor with scopes := change session.executor.scopes } }
  | globalSet (name : String) (value : Value) (session : Session) :
      Becomes session { session with executor := session.executor.setGlobal name value }
  | declared (functions : List (String × FunctionDecl)) (structs : List (String × StructDecl))
      (session : Session) :
      Becomes session { session with executor := { session.executor with functions, structs } }
  | shown (positions : Positions) (output : Array String) (session : Session) :
      Becomes session { session with executor := { session.executor with positions, output } }
  | queued (queue : ReadyQueue) (statistics : Statistics) (session : Session) :
      Becomes session { session with scheduler := { session.scheduler with queue, statistics } }
  | registered {task : Task} (fresh : task.Fresh) (session : Session) :
      Becomes session { session with scheduler := (session.scheduler.register task).2 }
  | marked (id : TaskId) {change : Task → Task} (spares : Task.SparesRun change)
      (session : Session) : Becomes session (session.onTask id change)
  | completed (id : TaskId) (payload : Value) (session : Session)
      (idle : id ∉ session.scheduler.active) :
      Becomes session (session.onTask id (Task.complete payload))
  | started {id : TaskId} {session : Session} (idle : id ∉ session.scheduler.active) :
      Becomes session (session.onTask id Task.start)
  | published (id : TaskId) (receiver : Option Receiver) (session : Session) :
      Becomes session (session.onTask id fun task => { task with isPublished := true, receiver })
  | siteChanged (site : BindingSite) {change : Scope → Scope}
      (keeps : ∀ scope, (change scope).id = scope.id) (session : Session) :
      Becomes session (session.modifySite site change)
  | called {scope : Scope} (new : scope.id = none) (session : Session) :
      Becomes session (session.enteringCall scope)
  | returned {scope : Scope} (new : scope.id = none) {before left : Session}
      (inside : Becomes (before.enteringCall scope) left)
      (kept : (before.enteringCall scope).Kept .statement left) :
      Becomes before (left.leavingCall before.executor)
  | entered {id : TaskId} {task : Task} {session : Session} (entering : session.Entering id task) :
      Becomes session (session.enteringTask id task)
  | faulted {id : TaskId} {task : Task} {before left : Session} (entering : before.Entering id task)
      (inside : Becomes (before.enteringTask id task) left)
      (kept : (before.enteringTask id task).Kept .statement left) :
      Becomes before (left.leavingTask id task before.executor)
  /-- The task keeps the scope that its statement has left. -/
  | settled {id : TaskId} {task : Task} {before left : Session} (entering : before.Entering id task)
      (inside : Becomes (before.enteringTask id task) left)
      (kept : (before.enteringTask id task).Kept .statement left) {change : Task → Task}
      (spares : Task.Spares change)
      (scope : ∀ current, (change current).scope =
        some ((StepFrame.enter id task before.executor).1.scopeIn left.executor)) :
      Becomes before ((left.leavingTask id task before.executor).onTask id change)

namespace Session.Becomes

theorem ofNoted {event : Event} {before after : Session} (noted : before.Noted event after) :
    Becomes before after :=
  .aside noted.executor noted.scheduler

theorem counting (change : Statistics → Statistics) (session : Session) :
    Becomes session (session.counting change) :=
  .queued session.scheduler.queue (change session.scheduler.statistics) session

theorem awaitedBy (waiter awaited : Option TaskId) (session : Session) :
    Becomes session (session.awaitedBy waiter awaited) := by
  cases waiter with
  | none => exact .refl session
  | some waiter =>
      apply marked
      exact ⟨fun _ => ⟨rfl, rfl⟩, fun _ => rfl, fun _ => rfl⟩

end Session.Becomes

theorem Move.becomes {change : Session → Session} (moves : Move change) (session : Session) :
    session.Becomes (change session) := by
  cases moves with
  | record event => exact .aside rfl rfl
  | tick => exact .aside rfl rfl
  | pause nanos => exact .aside rfl rfl
  | countPause => exact .counting _ session
  | write writes => exact .written writes session
  | print line => exact .shown session.executor.positions _ session
  | mark id marks =>
      refine .marked id ?_ session
      cases marks <;> exact ⟨fun _ => ⟨rfl, rfl⟩, fun _ => rfl, fun _ => rfl⟩

/-! ### Actions -/

/-- The session that the outcome leaves, also where it is a halt. -/
def Outcome.Leaves (before : Session) (outcome : Outcome α) : Prop :=
  before.Becomes outcome.session

def Act.Becomes (action : Act α) : Prop := ∀ session, (action session).Leaves session

namespace Act.Becomes

theorem pure (value : α) : (Pure.pure value : Act α).Becomes :=
  fun session => Session.Becomes.refl session

theorem raise (signal : Signal) : (Act.raise signal : Act α).Becomes :=
  fun session => Session.Becomes.refl session

theorem bind {first : Act α} {next : α → Act β} (head : first.Becomes)
    (tail : ∀ value, (next value).Becomes) : (first >>= next).Becomes := by
  intro session
  have start := head session
  refine Act.bind_elim ?_ ?_ ?_
  · intro value after run
    rw [run] at start
    exact start.trans (tail value after)
  · intro signal after run
    rw [run] at start
    exact start
  · intro moment run
    rw [run] at start
    exact start

theorem attempt {action : Act α} (inner : action.Becomes) : (Act.attempt action).Becomes := by
  intro session
  have ended := inner session
  unfold Act.attempt
  generalize action session = outcome at ended ⊢
  cases outcome <;> exact ended

theorem read (view : Session → α) : (Act.read view).Becomes :=
  fun session => Session.Becomes.refl session

theorem update {change : Session → Session}
    (becomes : ∀ session : Session, session.Becomes (change session)) :
    (Act.update change).Becomes :=
  becomes

theorem note (event : Event) : (Act.note event).Becomes := by
  intro session
  refine Act.note_elim ?_ ?_
  · intro after noted
    exact .ofNoted noted
  · intro moment noted
    exact .ofNoted noted

theorem moment : Act.moment.Becomes := by
  intro session
  unfold Act.moment
  split
  · exact Session.Becomes.refl session
  · exact Session.Becomes.refl session
  · exact Session.Becomes.aside rfl rfl

theorem register {task : Task} (fresh : task.Fresh) : (Act.register task).Becomes := by
  intro session
  refine Act.register_elim fun autoYield after noted => ?_
  have whole : session.Becomes after := .trans (.registered fresh session) (.ofNoted noted)
  exact ⟨whole, whole⟩

theorem finalize (id : TaskId) : (Act.finalize id).Becomes :=
  Act.FinalizeClosed.finalize
    { pure := pure ()
      bind := fun head tail => bind head fun _ => tail
      target := fun _ _ tail => bind (read _) tail
      modifySite := fun site _ keeps => update fun session => .siteChanged site keeps session
      futureSiteGone := fun _ => note _
      receiverSiteGone := fun _ => note _
      scheduler := bind (read _)
      publish := fun _ => update fun session => .published id _ session
      count := fun _ => update fun session => .counting _ session
      finalized := note _ }

theorem calling (name : String) {scope : Scope} (new : scope.id = none) {body : Act Unit}
    (inner : body.Becomes) (brackets : body.Brackets .statement) :
    (Act.calling name scope body).Becomes := by
  intro session
  refine Act.calling_elim ?_ ?_ ?_
  · intro _
    exact .refl session
  · intro _ moment noted
    exact .ofNoted noted
  · intro _ noted same
    have inside := inner (noted.enteringCall scope)
    have kept := brackets (noted.enteringCall scope)
    refine .trans (.ofNoted same) ?_
    rw [← same.executor]
    cases run : body (noted.enteringCall scope) with
    | done value left =>
        rw [run] at inside kept
        exact .returned new inside kept
    | raised signal left =>
        rw [run] at inside kept
        cases signal <;> exact .returned new inside kept
    | halted moment =>
        rw [run] at inside
        exact .trans (.called new noted) inside

theorem awaiting (id : TaskId) {drive : Act Unit} (inner : drive.Becomes) :
    (Act.awaiting id drive).Becomes := by
  intro session
  have begin {noted : Session}
      (same : session.Noted (.awaiting id session.executor.currentTask) noted) :
      session.Becomes (noted.awaitedBy session.executor.currentTask (some id)) :=
    .trans (.ofNoted same) (.awaitedBy ..)
  have finish {left after : Session}
      (ended : (left.awaitedBy session.executor.currentTask none).Noted
        (.awaitEnded id session.executor.currentTask) after) : left.Becomes after :=
    .trans (.awaitedBy ..) (.ofNoted ended)
  refine Act.awaiting_elim ?_ ?_ ?_ ?_
  · intro moment noted
    exact .ofNoted noted
  · intro noted same moment run
    have driven := inner (noted.awaitedBy session.executor.currentTask (some id))
    rw [run] at driven
    exact (begin same).trans driven
  · intro noted same left run after ended
    have driven := inner (noted.awaitedBy session.executor.currentTask (some id))
    rw [run] at driven
    have whole := ((begin same).trans driven).trans (finish ended)
    exact ⟨whole, whole⟩
  · intro noted same signal left run after ended
    have driven := inner (noted.awaitedBy session.executor.currentTask (some id))
    rw [run] at driven
    have whole := ((begin same).trans driven).trans (finish ended)
    exact ⟨whole, whole⟩

end Act.Becomes

/-! ### Steps and turns -/

theorem Task.isFinished_start (task : Task) : task.start.isFinished = task.isFinished := by
  unfold Task.start
  split <;> rfl

section Turns

variable {interpreter : Interpreter}
  (becomes : ∀ path statement, (interpreter.exec path statement).Becomes)
  (brackets : ∀ path statement, (interpreter.exec path statement).Brackets .statement)

include becomes brackets

theorem stepping_becomes {id : TaskId} {task : Task} (statement : Stmt) {session : Session}
    (entering : session.Entering id task) :
    (interpreter.stepping id task statement session).Leaves session := by
  have inside := becomes [.item task.counter] statement (session.enteringTask id task)
  have kept := brackets [.item task.counter] statement (session.enteringTask id task)
  have aside {left : Session} (kept : (session.enteringTask id task).Kept .statement left) :
      ∀ change, id ∉ ((left.leavingTask id task session.executor).onTask id change).scheduler.active := by
    intro change
    change id ∉ (left.leavingTask id task session.executor).scheduler.active
    rw [(Session.Kept.leavingTask kept).active]
    exact entering.idle
  unfold Interpreter.stepping
  generalize interpreter.exec [.item task.counter] statement (session.enteringTask id task) =
    outcome at inside kept ⊢
  cases outcome with
  | halted moment => exact .trans (.entered entering) inside
  | done value left =>
      have rests {change : Task → Task} := @Session.Becomes.settled id task session left entering
        inside kept change
      unfold Interpreter.stepEnding
      dsimp only
      split
      · refine .trans (rests ?_ fun _ => rfl) (.completed id .void _ (aside kept _))
        exact fun _ => ⟨rfl, rfl⟩
      · exact rests (fun _ => ⟨rfl, rfl⟩) fun _ => rfl
  | raised signal left =>
      have rests {change : Task → Task} := @Session.Becomes.settled id task session left entering
        inside kept change
      cases signal with
      | suspend fromLoop => exact rests (fun _ => ⟨rfl, rfl⟩) fun _ => rfl
      | returning value =>
          refine .trans (rests ?_ fun _ => rfl) (.completed id value _ (aside kept _))
          exact fun _ => ⟨rfl, rfl⟩
      | breakLoop => exact .faulted entering inside kept
      | continueLoop => exact .faulted entering inside kept
      | fault cause => exact .faulted entering inside kept

theorem runStatement_becomes {id : TaskId} (reading : Nat) {session : Session}
    (idle : id ∉ session.scheduler.active)
    (unfinished : ∀ task, session.scheduler.task? id = some task → task.isFinished = false) :
    (interpreter.runStatement id reading session).Leaves session := by
  have start : session.Becomes (session.onTask id Task.start) := .started idle
  have counted : Task.SparesRun Interpreter.stepCounted :=
    ⟨fun _ => ⟨rfl, rfl⟩, fun _ => rfl, fun _ => rfl⟩
  have announced : session.Becomes (Interpreter.announcing id (session.onTask id Task.start)) :=
    start.trans (.trans (.marked id counted _) (.counting ..))
  refine interpreter.runStatement_elim ?_ ?_ ?_ ?_
  · intro _
    exact start
  · intro task _ _
    exact start.trans (.completed id .void _ (by exact idle))
  · intro task _ moment noted
    exact announced.trans (.ofNoted noted)
  · intro task found statement _ noted same
    refine (announced.trans (.ofNoted same)).trans (stepping_becomes becomes brackets statement ?_)
    constructor
    · rw [same.scheduler]
      exact idle
    · refine ⟨Interpreter.stepCounted task, ?_, rfl, ?_⟩
      · rw [same.scheduler]
        change ((session.onTask id Task.start).scheduler.modifyTask id
          Interpreter.stepCounted).task? id = _
        rw [Scheduler.task?_modifyTask_self, found]
        rfl
      · change (session.scheduler.modifyTask id Task.start).task? id = _ at found
        rw [Scheduler.task?_modifyTask_self] at found
        obtain ⟨earlier, known, rfl⟩ := Option.map_eq_some_iff.mp found
        exact (Task.isFinished_start earlier).trans (unfinished earlier known)

theorem stepReady_becomes {id : TaskId} {session : Session} (idle : id ∉ session.scheduler.active)
    (unfinished : ∀ task, session.scheduler.task? id = some task → task.isFinished = false) :
    (interpreter.stepReady id session).Leaves session := by
  have tick : session.Becomes session.ticked := .aside rfl rfl
  have wakes : Task.SparesRun Interpreter.woken :=
    ⟨fun _ => ⟨rfl, rfl⟩, fun _ => rfl, fun _ => rfl⟩
  have wake : session.ticked.Becomes (session.ticked.onTask id Interpreter.woken) :=
    .marked id wakes _
  refine interpreter.stepReady_elim ?_ ?_ ?_ ?_ ?_
  · intro _
    exact tick
  · intro task _ _ after noted
    have whole : session.Becomes after :=
      tick.trans (.trans (.trans (.completed id _ _ (by exact idle)) (.counting ..)) (.ofNoted noted))
    exact ⟨whole, whole⟩
  · intro task _ _ _
    exact tick.trans (.counting ..)
  · intro task _ _ _ _
    have fired := (tick.trans wake).trans (.completed id .void _ (by exact idle))
    refine ⟨fired, fun after noted => ?_⟩
    have whole := fired.trans (.ofNoted noted)
    exact ⟨whole, whole⟩
  · intro task _ _ _ _
    refine (tick.trans wake).trans (runStatement_becomes becomes brackets _ idle ?_)
    intro task found
    change (session.scheduler.modifyTask id Interpreter.woken).task? id = _ at found
    rw [Scheduler.task?_modifyTask_self] at found
    obtain ⟨earlier, known, rfl⟩ := Option.map_eq_some_iff.mp found
    exact unfinished earlier known

theorem step_becomes {id : TaskId} {session : Session} (idle : id ∉ session.scheduler.active) :
    (interpreter.step id session).Leaves session := by
  refine interpreter.step_elim ?_ ?_ ?_ ?_
  · intro _
    exact .refl session
  · intro task _ _ awaited _ _ after noted
    have whole : session.Becomes after := .trans (.counting ..) (.ofNoted noted)
    exact ⟨whole, whole⟩
  · intro task found unfinished _
    refine stepReady_becomes becomes brackets idle fun other same => ?_
    rw [found] at same
    cases same
    exact unfinished
  · intro task found unfinished awaited _ _
    have freed : session.Becomes (session.onTask id fun task => { task with waitingFor := none }) :=
      .awaitedBy (some id) none session
    refine freed.trans (stepReady_becomes becomes brackets idle fun other same => ?_)
    change (session.scheduler.modifyTask id fun task => { task with waitingFor := none }).task? id =
      _ at same
    rw [Scheduler.task?_modifyTask_self, found] at same
    cases same
    exact unfinished

theorem cycle_becomes : interpreter.cycle.Becomes := by
  intro session
  have pop {id : TaskId} {remaining : Scheduler} {popped : Session}
      (front : session.scheduler.dequeue? = some (id, remaining))
      (noted : { session with scheduler := remaining }.Noted (.dequeued id) popped) :
      session.Becomes popped ∧ (remaining.isActive id = false → id ∉ popped.scheduler.active) := by
    unfold Scheduler.dequeue? at front
    split at front
    · cases front
    · cases front
      refine ⟨.trans (.queued _ session.scheduler.statistics session) (.ofNoted noted), ?_⟩
      intro idle
      rw [noted.scheduler]
      simpa [Scheduler.isActive] using idle
  have push {id : TaskId} {left after : Session}
      (noted : (Interpreter.requeueing id left).Noted (.requeued id) after) : left.Becomes after :=
    .trans (.queued _ left.scheduler.statistics left) (.ofNoted noted)
  refine interpreter.cycle_elim ?_ ?_ ?_ ?_ ?_ ?_ ?_
  · intro _
    exact .refl session
  · intro id remaining front moment noted
    exact (pop front noted).1
  · intro id remaining front _ popped noted after back
    have whole := (pop front noted).1.trans (push back)
    exact ⟨whole, whole, whole⟩
  · intro id remaining front idle popped noted moment run
    have stepped := step_becomes becomes brackets ((pop front noted).2 idle)
    rw [run] at stepped
    exact (pop front noted).1.trans stepped
  · intro id remaining front idle popped noted signal left run
    have stepped := step_becomes becomes brackets ((pop front noted).2 idle)
    rw [run] at stepped
    exact (pop front noted).1.trans stepped
  · intro id remaining front idle popped noted left run after _
    have stepped := step_becomes becomes brackets ((pop front noted).2 idle)
    rw [run] at stepped
    have finalized : left.Becomes (Act.finalize id left).session := Act.Becomes.finalize id left
    have whole := ((pop front noted).1.trans stepped).trans finalized
    refine ⟨fun ended => ?_, fun ended => ?_⟩
    · rw [ended] at whole
      exact whole
    · rw [ended] at whole
      exact whole
  · intro id remaining front idle popped noted status left _ run after back
    have stepped := step_becomes becomes brackets ((pop front noted).2 idle)
    rw [run] at stepped
    have whole := ((pop front noted).1.trans stepped).trans (push back)
    exact ⟨whole, whole⟩

end Turns

/-- Wherever an action leads to, or is halted, it leads by the changes listed. -/
theorem Deepens.becomes {layer : Layer} {shallow deep : Act α}
    (deepens : Deepens layer shallow deep) : deep.Becomes := by
  induction deepens with
  | halt => exact fun session => Session.Becomes.refl session
  | cut _ whole => exact whole
  | pure value => exact .pure value
  | fail cause => exact .raise _
  | raise signal => exact .raise signal
  | moment => exact .moment
  | read _ => exact .read _
  | move moves => exact moves.becomes
  | positions change => exact .update fun session => .shown _ session.executor.output session
  | register fresh => exact .register fresh
  | finalize id => exact .finalize id
  | bind _ _ head tail => exact .bind head tail
  | attempt _ _ _ inner tail => exact .bind (.attempt inner) tail
  | lift _ inner => exact inner
  | calling name new body inner => exact .calling name new inner body.brackets
  | awaiting id _ inner => exact .awaiting id inner
  | cycle exec inner => exact cycle_becomes inner fun path statement => (exec path statement).brackets

/-! ### Reachable sessions -/

theorem request_becomes {session : Session} (idle : session.scheduler.active = []) (depth : Nat)
    (operation : Operation) :
    (∃ id site, operation = .bindReceiver id site) ∨
      session.Becomes ((interpreter depth).request operation session).session := by
  have itself := interpreter_deepens (Nat.le_refl depth)
  rcases itself.request operation with ⟨program, rfl⟩ | ⟨id, rfl⟩ | redirects | deepens
  · refine .inr (Act.Becomes.bind ?_ (fun _ => ?_) session)
    · refine .update fun session => ?_
      rw [Executor.load_eq]
      exact .declared _ _ session
    · exact (Deepens.bind .executor fun _ => .note _ : Deepens .statement _ _).becomes
  · have stepped := step_becomes (fun path statement => (itself.exec path statement).becomes)
      (fun path statement => (itself.exec path statement).brackets)
      (show id ∉ session.scheduler.active by rw [idle]; exact List.not_mem_nil)
    refine .inr (Act.bind_elim ?_ ?_ ?_ : Outcome.Leaves session _)
    · intro status after run
      rw [run] at stepped
      exact stepped
    · intro signal after run
      rw [run] at stepped
      exact stepped
    · intro moment run
      rw [run] at stepped
      exact stepped
  · exact .inl redirects
  · exact .inr (deepens.becomes session)

/-- What fresh sessions have, and all changes keep, every reachable session has. -/
theorem Session.Reachable.holds {invariant : Session → Prop}
    (start : ∀ settings tick, invariant (.start settings tick))
    (becomes : ∀ before after : Session, before.Becomes after → invariant before → invariant after)
    (redirected : ∀ (session : Session) (id : TaskId) (site : BindingSite), invariant session →
      invariant { session with scheduler := session.scheduler.bindReceiver id site })
    {session : Session} (reachable : session.Reachable) : invariant session := by
  have itself (depth : Nat) := interpreter_deepens (Nat.le_refl depth)
  -- Sending an instance elsewhere is the one request that makes none of the listed changes.
  induction reachable with
  | start settings tick => exact start settings tick
  | @limited session _ budget ih => exact becomes session _ (.aside rfl rfl) ih
  | @later session _ nanos ih => exact becomes session _ (.aside rfl rfl) ih
  | @positioned session _ positions ih =>
      exact becomes _ _ (.shown positions session.executor.output session) ih
  | globalSet _ name value ih => exact becomes _ _ (.globalSet name value _) ih
  | requested _ idle depth operation ih =>
      rcases request_becomes idle depth operation with ⟨id, site, rfl⟩ | leads
      · exact redirected _ id site ih
      · exact becomes _ _ leads ih
  | evaluated _ depth expr ih => exact becomes _ _ (((itself depth).eval expr).becomes _) ih
  | executed _ depth path statement ih =>
      exact becomes _ _ (((itself depth).exec path statement).becomes _) ih

end CooperativeTasks
