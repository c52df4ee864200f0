import CooperativeTasks.Proofs.Orderly

set_option autoImplicit false

/-! What a fault leaves of the task whose step it ends.

While a statement of a task runs, nobody touches what the task has put aside for its next step. Its
counter moves when the statement has ended, it is not stepped a second time, and what is written to
its scope reaches the scope on the stack and not the saved copy. So a step that ends in a fault leaves
of the task what was there when its statement began: everything but the positions, which the
statement has taken with it. -/

namespace CooperativeTasks

variable {α β : Type}

/-- What the next step of a task goes on with. -/
structure Task.Aside where
  progress : Task.Progress
  scope : Option Scope
  positions : Positions

def Task.aside (task : Task) : Task.Aside := ⟨task.progress, task.scope, task.positions⟩

/-- A task is in a step, and has this put aside. Its saved scope is known by an identity only if it
has been on the stack before, and then it is there now. -/
structure Session.Keeping (id : TaskId) (aside : Task.Aside) (session : Session) : Prop where
  active : id ∈ session.scheduler.active
  found : (session.scheduler.task? id).map Task.aside = some aside
  pushed : ∀ identity, aside.scope.bind Scope.id = some identity →
    some identity ∈ session.executor.scopes.identities

namespace Session.Keeping

variable {id : TaskId} {aside : Task.Aside}

theorem ofSame {before after : Session} (keeping : before.Keeping id aside)
    (active : after.scheduler.active = before.scheduler.active)
    (found : (after.scheduler.task? id).map Task.aside = (before.scheduler.task? id).map Task.aside)
    (scopes : after.executor.scopes.identities = before.executor.scopes.identities) :
    after.Keeping id aside where
  active := active ▸ keeping.active
  found := found.trans keeping.found
  pushed := scopes ▸ keeping.pushed

theorem noted {event : Event} {before after : Session} (keeping : before.Keeping id aside)
    (noted : before.Noted event after) : after.Keeping id aside :=
  keeping.ofSame (by rw [noted.scheduler]) (by rw [noted.scheduler]) (by rw [noted.executor])

theorem onTask {session : Session} (keeping : session.Keeping id aside) {change : Task → Task}
    (keeps : ∀ task, (change task).aside = task.aside) (other : TaskId) :
    (session.onTask other change).Keeping id aside := by
  refine keeping.ofSame rfl ?_ rfl
  exact Scheduler.view_modifyTask (Option.map Task.aside) (fun task => congrArg some (keeps task))
    other id session.scheduler

theorem onOther {session : Session} (keeping : session.Keeping id aside) {other : TaskId}
    (different : id ≠ other) (change : Task → Task) :
    (session.onTask other change).Keeping id aside := by
  refine keeping.ofSame rfl ?_ rfl
  change ((session.scheduler.modifyTask other change).task? id).map Task.aside = _
  rw [Scheduler.task?_modifyTask_of_ne different]

theorem awaitedBy {session : Session} (keeping : session.Keeping id aside)
    (waiter awaited : Option TaskId) : (session.awaitedBy waiter awaited).Keeping id aside := by
  cases waiter with
  | none => exact keeping
  | some waiter =>
      apply keeping.onTask
      exact fun _ => rfl

theorem move {session : Session} (keeping : session.Keeping id aside) {change : Session → Session}
    (moves : Move change) : (change session).Keeping id aside := by
  cases moves with
  | write writes => exact keeping.ofSame rfl rfl (writes.identities _)
  | mark other marks =>
      refine keeping.onTask (fun task => ?_) other
      cases marks <;> rfl
  | _ => exact keeping.ofSame rfl rfl rfl

theorem registering {session : Session} (keeping : session.Keeping id aside) (task : Task) :
    (session.registering task).Keeping id aside := by
  refine keeping.ofSame rfl ?_ rfl
  obtain ⟨known, found, _⟩ := Option.map_eq_some_iff.mp keeping.found
  have within : id.index < session.scheduler.tasks.length := (List.getElem?_eq_some_iff.mp found).1
  change ((session.scheduler.register task).2.task? id).map Task.aside = _
  rw [Scheduler.task?_register_of_lt within]

theorem modifySite {session : Session} (keeping : session.Keeping id aside) {change : Scope → Scope}
    (keeps : ∀ scope, (change scope).id = scope.id) (site : BindingSite) :
    (session.modifySite site change).Keeping id aside := by
  -- A write to the scope of the task reaches the scope on the stack, so the saved one stays.
  rcases modifySite_cases site change session with
    ⟨scopes, modified, same⟩ | ⟨gone, owner, scope, _, saved, holds, same⟩ | ⟨_, same⟩
  · rw [same]
    exact keeping.ofSame rfl rfl (ScopeStack.identities_modifyFirst? keeps modified)
  · have different : id ≠ owner := by
      rintro rfl
      obtain ⟨task, found, rfl⟩ := Option.map_eq_some_iff.mp keeping.found
      have known : scope.id = some site.frame := eq_of_beq holds
      have mine : task.scope = some scope := by
        unfold Scheduler.savedScope? at saved
        rw [found] at saved
        exact saved
      have pushed := keeping.pushed site.frame (by
        change task.scope.bind Scope.id = _
        rw [mine]
        exact known)
      obtain ⟨live, member, own⟩ := List.mem_map.mp pushed
      have absent := List.find?_eq_none.mp gone live member
      exact absent (beq_iff_eq.mpr own)
    rw [same]
    exact keeping.onOther different _
  · rw [same]
    exact keeping

/-! ### Brackets -/

theorem enteringCall {session : Session} (keeping : session.Keeping id aside) (scope : Scope) :
    (session.enteringCall scope).Keeping id aside where
  active := keeping.active
  found := keeping.found
  pushed identity held := by
    obtain ⟨innermost, pushed⟩ := ScopeStack.identities_push scope session.executor.scopes
    change some identity ∈ (session.executor.scopes.push scope).identities
    rw [pushed]
    exact List.mem_cons_of_mem _ (keeping.pushed identity held)

theorem leavingCall {scope : Scope} {before left : Session} (outside : before.Keeping id aside)
    (inside : left.Keeping id aside) (kept : (before.enteringCall scope).Kept .statement left) :
    (left.leavingCall before.executor).Keeping id aside where
  active := inside.active
  found := inside.found
  pushed identity held := by
    rw [kept.leavingCall.scopes]
    exact outside.pushed identity held

theorem enteringTask {session : Session} (keeping : session.Keeping id aside) (other : TaskId)
    (task : Task) : (session.enteringTask other task).Keeping id aside where
  active := List.mem_cons_of_mem other keeping.active
  found := keeping.found
  pushed identity held := by
    obtain ⟨innermost, pushed⟩ :=
      ScopeStack.identities_push (task.scope.getD {}) session.executor.scopes
    change some identity ∈ (session.executor.scopes.push (task.scope.getD {})).identities
    rw [pushed]
    exact List.mem_cons_of_mem _ (keeping.pushed identity held)

theorem leavingTask {other : TaskId} {task : Task} {before left : Session}
    (outside : before.Keeping id aside) (inside : left.Keeping id aside)
    (kept : (before.enteringTask other task).Kept .statement left) :
    (left.leavingTask other task before.executor).Keeping id aside where
  active := by
    rw [kept.leavingTask.active]
    exact outside.active
  found := inside.found
  pushed identity held := by
    rw [kept.leavingTask.scopes]
    exact outside.pushed identity held

theorem entering {session : Session} {current task : Task}
    (found : session.scheduler.task? id = some current) (scope : current.scope = task.scope) :
    (session.enteringTask id task).Keeping id current.aside where
  active := List.mem_cons_self
  found := by
    change (session.scheduler.task? id).map Task.aside = _
    rw [found]
    rfl
  pushed identity held := by
    change current.scope.bind Scope.id = some identity at held
    rw [scope] at held
    obtain ⟨saved, mine, known⟩ := Option.bind_eq_some_iff.mp held
    change some identity ∈ (session.executor.scopes.push (task.scope.getD {})).identities
    rw [mine, Option.getD_some]
    obtain ⟨_, own, pushed, _⟩ | ⟨unknown, _⟩ := ScopeStack.push_cases saved session.executor.scopes
    · rw [known] at own
      cases own
      rw [pushed]
      exact List.mem_cons_self
    · rw [known] at unknown
      cases unknown

end Session.Keeping

/-! ### Actions -/

/-- Whichever way the action has ended, what the task has put aside is still there. -/
def Outcome.KeepsAside (id : TaskId) (aside : Task.Aside) : Outcome α → Prop
  | .done _ after => after.Keeping id aside
  | .raised _ after => after.Keeping id aside
  | .halted _ => True

def Act.KeepsAside (id : TaskId) (aside : Task.Aside) (action : Act α) : Prop :=
  ∀ session, session.Keeping id aside → (action session).KeepsAside id aside

namespace Act.KeepsAside

variable {id : TaskId} {aside : Task.Aside}

theorem pure (value : α) : (Pure.pure value : Act α).KeepsAside id aside :=
  fun _ keeping => keeping

theorem bind {first : Act α} {next : α → Act β} (head : first.KeepsAside id aside)
    (tail : ∀ value, (next value).KeepsAside id aside) : (first >>= next).KeepsAside id aside := by
  intro session keeping
  have start := head session keeping
  refine Act.bind_elim ?_ ?_ ?_
  · intro value after run
    rw [run] at start
    exact tail value after start
  · intro signal after run
    rw [run] at start
    exact start
  · intro moment run
    trivial

theorem attempt {action : Act α} (inner : action.KeepsAside id aside) :
    (Act.attempt action).KeepsAside id aside := by
  intro session keeping
  have ended := inner session keeping
  unfold Act.attempt
  generalize action session = outcome at ended ⊢
  cases outcome <;> exact ended

theorem read (view : Session → α) : (Act.read view).KeepsAside id aside :=
  fun _ keeping => keeping

theorem update {change : Session → Session}
    (keeps : ∀ session : Session, session.Keeping id aside → (change session).Keeping id aside) :
    (Act.update change).KeepsAside id aside :=
  keeps

theorem moment : Act.moment.KeepsAside id aside := by
  intro session keeping
  unfold Act.moment
  split
  · exact keeping
  · trivial
  · exact keeping.ofSame rfl rfl rfl

theorem note (event : Event) : (Act.note event).KeepsAside id aside := by
  rw [Act.note_eq]
  exact bind (update fun session keeping => keeping.ofSame rfl rfl rfl) fun _ => moment

theorem register (task : Task) : (Act.register task).KeepsAside id aside := by
  intro session keeping
  refine Act.register_elim fun autoYield after noted => ?_
  exact ⟨(keeping.registering task).noted noted, trivial⟩

theorem finalize (other : TaskId) : (Act.finalize other).KeepsAside id aside :=
  Act.FinalizeClosed.finalize
    { pure := pure ()
      bind := fun head tail => bind head fun _ => tail
      target := fun _ _ tail => bind (read _) tail
      modifySite := fun site _ keeps => update fun session keeping => keeping.modifySite keeps site
      futureSiteGone := fun _ => note _
      receiverSiteGone := fun _ => note _
      scheduler := bind (read _)
      publish := fun _ => update fun session keeping => keeping.onTask (by exact fun _ => rfl) other
      count := fun _ => update fun session keeping => keeping.ofSame rfl rfl rfl
      finalized := note _ }

theorem calling (name : String) {scope : Scope} {body : Act Unit}
    (inner : body.KeepsAside id aside) (brackets : body.Brackets .statement) :
    (Act.calling name scope body).KeepsAside id aside := by
  intro session keeping
  refine Act.calling_elim ?_ ?_ ?_
  · exact fun _ => keeping
  · exact fun _ _ _ => trivial
  · intro _ noted same
    have start := keeping.noted same
    have inside := inner (noted.enteringCall scope) (start.enteringCall scope)
    have kept := brackets (noted.enteringCall scope)
    rw [← same.executor]
    cases run : body (noted.enteringCall scope) with
    | done value left =>
        rw [run] at inside kept
        exact start.leavingCall inside kept
    | raised signal left =>
        rw [run] at inside kept
        cases signal <;> exact start.leavingCall inside kept
    | halted moment => trivial

theorem awaiting (awaited : TaskId) {drive : Act Unit} (inner : drive.KeepsAside id aside) :
    (Act.awaiting awaited drive).KeepsAside id aside := by
  intro session keeping
  refine Act.awaiting_elim ?_ ?_ ?_ ?_
  · exact fun _ _ => trivial
  · exact fun _ _ _ _ => trivial
  · intro noted same left run after ended
    have driven := inner _ ((keeping.noted same).awaitedBy session.executor.currentTask (some awaited))
    rw [run] at driven
    exact ⟨(driven.awaitedBy _ none).noted ended, trivial⟩
  · intro noted same signal left run after ended
    have driven := inner _ ((keeping.noted same).awaitedBy session.executor.currentTask (some awaited))
    rw [run] at driven
    exact ⟨(driven.awaitedBy _ none).noted ended, trivial⟩

end Act.KeepsAside

/-! ### Steps of other tasks -/

section Turns

variable {interpreter : Interpreter} {id : TaskId} {aside : Task.Aside}
  (keeps : ∀ path statement, (interpreter.exec path statement).KeepsAside id aside)
  (brackets : ∀ path statement, (interpreter.exec path statement).Brackets .statement)

include keeps brackets

theorem stepping_keepsAside {other : TaskId} (different : id ≠ other) (task : Task)
    (statement : Stmt) : (interpreter.stepping other task statement).KeepsAside id aside := by
  intro session keeping
  have inside := keeps [.item task.counter] statement _ (keeping.enteringTask other task)
  have kept := brackets [.item task.counter] statement (session.enteringTask other task)
  unfold Interpreter.stepping Interpreter.stepEnding
  split
  · trivial
  · rename_i left run
    rw [run] at inside kept
    have after := (keeping.leavingTask inside kept).onOther different
    dsimp only
    split
    · exact (after _).onOther different _
    · exact after _
  · rename_i fromLoop left run
    rw [run] at inside kept
    exact (keeping.leavingTask inside kept).onOther different _
  · rename_i value left run
    rw [run] at inside kept
    exact ((keeping.leavingTask inside kept).onOther different _).onOther different _
  · rename_i signal left _ _ run
    rw [run] at inside kept
    exact keeping.leavingTask inside kept

theorem runStatement_keepsAside {other : TaskId} (different : id ≠ other) (reading : Nat) :
    (interpreter.runStatement other reading).KeepsAside id aside := by
  intro session keeping
  have started := keeping.onOther different Task.start
  refine interpreter.runStatement_elim ?_ ?_ ?_ ?_
  · exact fun _ => started
  · exact fun _ _ _ => started.onOther different _
  · exact fun _ _ _ _ => trivial
  · intro task _ statement _ noted same
    have announced : (Interpreter.announcing other (session.onTask other Task.start)).Keeping id aside :=
      (started.onOther different Interpreter.stepCounted).ofSame rfl rfl rfl
    exact stepping_keepsAside keeps brackets different task statement noted (announced.noted same)

theorem stepReady_keepsAside {other : TaskId} (different : id ≠ other) :
    (interpreter.stepReady other).KeepsAside id aside := by
  intro session keeping
  have tick : session.ticked.Keeping id aside := keeping.ofSame rfl rfl rfl
  refine interpreter.stepReady_elim ?_ ?_ ?_ ?_ ?_
  · exact fun _ => tick
  · intro task _ _ after noted
    have expired : (Interpreter.expiring other session.ticked).Keeping id aside :=
      (tick.onOther different (Task.complete (timeoutError other))).ofSame rfl rfl rfl
    exact ⟨expired.noted noted, trivial⟩
  · exact fun _ _ _ _ => tick.ofSame rfl rfl rfl
  · intro task _ _ _ _
    have fired := (tick.onOther different Interpreter.woken).onOther different (Task.complete .void)
    exact ⟨fired, fun after noted => ⟨fired.noted noted, trivial⟩⟩
  · intro task _ _ _ _
    exact runStatement_keepsAside keeps brackets different _ _ (tick.onOther different _)

theorem step_keepsAside {other : TaskId} (different : id ≠ other) :
    (interpreter.step other).KeepsAside id aside := by
  intro session keeping
  refine interpreter.step_elim ?_ ?_ ?_ ?_
  · exact fun _ => keeping
  · intro task _ _ awaited _ _ after noted
    have blocked : (Interpreter.blocking session).Keeping id aside := keeping.ofSame rfl rfl rfl
    exact ⟨blocked.noted noted, trivial⟩
  · exact fun _ _ _ _ => stepReady_keepsAside keeps brackets different session keeping
  · intro task _ _ awaited _ _
    exact stepReady_keepsAside keeps brackets different _ (keeping.onOther different _)

/-- A turn of the queue steps no task that is in a step already. -/
theorem cycle_keepsAside : interpreter.cycle.KeepsAside id aside := by
  intro session keeping
  have pop {other : TaskId} {remaining : Scheduler} {popped : Session}
      (front : session.scheduler.dequeue? = some (other, remaining))
      (noted : { session with scheduler := remaining }.Noted (.dequeued other) popped) :
      popped.Keeping id aside := by
    have taken : ({ session with scheduler := remaining } : Session).Keeping id aside := by
      unfold Scheduler.dequeue? at front
      split at front
      · cases front
      · cases front
        exact keeping.ofSame rfl rfl rfl
    exact taken.noted noted
  have push {other : TaskId} {left after : Session} (ended : left.Keeping id aside)
      (noted : (Interpreter.requeueing other left).Noted (.requeued other) after) :
      after.Keeping id aside := by
    have put : (Interpreter.requeueing other left).Keeping id aside := ended.ofSame rfl rfl rfl
    exact put.noted noted
  have apart {other : TaskId} {remaining : Scheduler} {popped : Session}
      (idle : remaining.isActive other = false)
      (noted : { session with scheduler := remaining }.Noted (.dequeued other) popped)
      (still : popped.Keeping id aside) : id ≠ other := by
    rintro rfl
    have member := still.active
    rw [noted.scheduler] at member
    exact of_decide_eq_false idle member
  refine interpreter.cycle_elim ?_ ?_ ?_ ?_ ?_ ?_ ?_
  · exact fun _ => keeping
  · exact fun _ _ _ _ _ => trivial
  · intro other remaining front _ popped noted after back
    have kept := push (pop front noted) back
    exact ⟨trivial, kept, kept⟩
  · exact fun _ _ _ _ _ _ _ _ => trivial
  · intro other remaining front idle popped noted signal left run
    have still := pop front noted
    have stepped := step_keepsAside keeps brackets (apart idle noted still) popped still
    rw [run] at stepped
    exact stepped
  · intro other remaining front idle popped noted left run after _
    have still := pop front noted
    have stepped := step_keepsAside keeps brackets (apart idle noted still) popped still
    rw [run] at stepped
    refine ⟨fun _ => trivial, fun published => ?_⟩
    have ended := Act.KeepsAside.finalize other left stepped
    rw [published] at ended
    exact ended
  · intro other remaining front idle popped noted status left _ run after back
    have still := pop front noted
    have stepped := step_keepsAside keeps brackets (apart idle noted still) popped still
    rw [run] at stepped
    exact ⟨trivial, push stepped back⟩

end Turns

theorem Deepens.keepsAside {id : TaskId} {aside : Task.Aside} {layer : Layer} {shallow deep : Act α}
    (deepens : Deepens layer shallow deep) : deep.KeepsAside id aside := by
  induction deepens with
  | halt => exact fun _ _ => trivial
  | cut _ whole => exact whole
  | pure value => exact .pure value
  | fail cause => exact fun _ keeping => keeping
  | raise signal => exact fun _ keeping => keeping
  | moment => exact .moment
  | read _ => exact .read _
  | move moves => exact .update fun _ keeping => keeping.move moves
  | positions change => exact .update fun _ keeping => keeping.ofSame rfl rfl rfl
  | register _ => exact .register _
  | finalize other => exact .finalize other
  | bind _ _ head tail => exact .bind head tail
  | attempt _ _ _ inner tail => exact .bind (.attempt inner) tail
  | lift _ inner => exact inner
  | calling name _ body inner => exact .calling name inner body.brackets
  | awaiting awaited _ inner => exact .awaiting awaited inner
  | cycle exec keeps => exact cycle_keepsAside keeps fun path statement => (exec path statement).brackets

/-! ### Steps that fault -/

/-- What a fault makes of the task whose step it ends. The next step finds the same statement at the
counter and runs it in the same scope, but from its beginning. -/
structure Task.SetBack (before after : Task) : Prop where
  unfinished : after.isFinished = false
  started : after.isStarted = true
  body : after.body = before.body
  counter : after.counter = before.counter
  scope : after.scope = before.start.scope
  positions : after.positions = {}

namespace Task.SetBack

theorem ofAside {before after : Task} (unfinished : before.isFinished = false)
    (same : after.aside = (Interpreter.stepCounted before.start).aside) : before.SetBack after := by
  have progress : after.progress = { before.start.progress with steps := before.start.steps + 1 } :=
    congrArg Task.Aside.progress same
  have whole : after.progress =
      { before.progress with isStarted := true, steps := before.start.steps + 1 } := by
    rw [progress, Task.progress_start]
  constructor
  · exact (congrArg Task.Progress.isFinished whole).trans unfinished
  · exact congrArg Task.Progress.isStarted whole
  · exact congrArg Task.Progress.body whole
  · exact congrArg Task.Progress.counter whole
  · exact congrArg Task.Aside.scope same
  · exact congrArg Task.Aside.positions same

/-- What a step does to its task before the statement, it does to a task that is set back as well. -/
theorem ofWoken {before after : Task} (back : (Interpreter.woken before).SetBack after) :
    before.SetBack after := by
  refine { back with scope := back.scope.trans ?_ }
  unfold Task.start Interpreter.woken
  split <;> rfl

theorem ofFreed {before after : Task}
    (back : Task.SetBack { before with waitingFor := none } after) : before.SetBack after := by
  refine { back with scope := back.scope.trans ?_ }
  unfold Task.start
  split <;> rfl

theorem statements {before after : Task} (back : before.SetBack after) :
    after.statements = before.statements := by
  unfold Task.statements
  rw [back.body]

end Task.SetBack

namespace Interpreter

theorem runStatement_of_started (again : Interpreter) {id : TaskId} {task : Task} {statement : Stmt}
    {session : Session} (found : session.scheduler.task? id = some task)
    (started : task.isStarted = true) (present : task.statements[task.counter]? = some statement)
    (reading : Nat) :
    again.runStatement id reading session =
      again.executing id task statement reading (session.onTask id Task.start) := by
  have same : task.start = task := by
    unfold Task.start
    rw [if_pos started]
  have known : (session.onTask id Task.start).scheduler.task? id = some task := by
    change (session.scheduler.modifyTask id Task.start).task? id = _
    rw [Scheduler.task?_modifyTask_self, found, Option.map_some, same]
  exact runStatement_executing known present

end Interpreter

section Faults

variable {depth : Nat} {id : TaskId} {session left : Session} {signal : Signal}

theorem stepping_raised {task : Task} {statement : Stmt}
    (found : session.scheduler.task? id = some (Interpreter.stepCounted task))
    (run : (interpreter depth).stepping id task statement session = .raised signal left) :
    ∃ after, left.scheduler.task? id = some after ∧
      after.aside = (Interpreter.stepCounted task).aside := by
  have entered : (session.enteringTask id task).Keeping id (Interpreter.stepCounted task).aside :=
    .entering found rfl
  have kept := ((interpreter_deepens (Nat.le_refl depth)).exec [.item task.counter] statement).keepsAside
    _ entered
  unfold Interpreter.stepping at run
  generalize (interpreter depth).exec [.item task.counter] statement (session.enteringTask id task) =
    outcome at kept run
  rcases Interpreter.stepEnding_cases id task session.executor outcome with
    ⟨moment, _, ended⟩ | ⟨cause, raised, ended⟩ | ⟨status, change, after, _, _, _, ended, _⟩
  · rw [ended] at run
    cases run
  · rw [ended] at run
    cases run
    rw [raised] at kept
    exact Option.map_eq_some_iff.mp kept.found
  · rw [ended] at run
    cases run

theorem runStatement_raised {reading : Nat} {task : Task}
    (found : session.scheduler.task? id = some task) (unfinished : task.isFinished = false)
    (run : (interpreter depth).runStatement id reading session = .raised signal left) :
    (∃ statement, task.statements[task.counter]? = some statement) ∧
      ∃ after, left.scheduler.task? id = some after ∧ task.SetBack after := by
  have known : (session.onTask id Task.start).scheduler.task? id = some task.start := by
    change (session.scheduler.modifyTask id Task.start).task? id = _
    rw [Scheduler.task?_modifyTask_self, found]
    rfl
  refine Interpreter.runStatement_elim (interpreter depth)
    (motive := fun outcome => outcome = .raised signal left → _) ?_ ?_ ?_ ?_ run
  · exact fun _ => nofun
  · exact fun _ _ _ => nofun
  · exact fun _ _ _ _ => nofun
  · intro started same statement present noted announced raised
    rw [known] at same
    cases same
    have counted : noted.scheduler.task? id = some (Interpreter.stepCounted task.start) := by
      rw [announced.scheduler]
      change ((session.onTask id Task.start).scheduler.modifyTask id Interpreter.stepCounted).task? id = _
      rw [Scheduler.task?_modifyTask_self, known]
      rfl
    obtain ⟨after, reached, aside⟩ := stepping_raised counted raised
    have body := congrArg Task.Progress.body (Task.progress_start task)
    have counter := congrArg Task.Progress.counter (Task.progress_start task)
    refine ⟨⟨statement, ?_⟩, after, reached, .ofAside unfinished aside⟩
    change task.start.body = task.body at body
    change task.start.counter = task.counter at counter
    unfold Task.statements at present ⊢
    rw [body, counter] at present
    exact present

theorem stepReady_raised {task : Task} (found : session.scheduler.task? id = some task)
    (unfinished : task.isFinished = false)
    (run : (interpreter depth).stepReady id session = .raised signal left) :
    (∃ statement, task.statements[task.counter]? = some statement) ∧
      ∃ after, left.scheduler.task? id = some after ∧ task.SetBack after := by
  refine Interpreter.stepReady_elim (interpreter depth)
    (motive := fun outcome => outcome = .raised signal left → _) ?_ ?_ ?_ ?_ ?_ run
  · exact fun _ => nofun
  · exact fun _ _ _ _ _ => ⟨nofun, nofun⟩
  · exact fun _ _ _ _ => nofun
  · exact fun _ _ _ _ _ => ⟨nofun, fun _ _ => ⟨nofun, nofun⟩⟩
  · intro current same _ _ _ raised
    rw [found] at same
    cases same
    have known : (session.ticked.onTask id Interpreter.woken).scheduler.task? id =
        some (Interpreter.woken task) := by
      change (session.scheduler.modifyTask id Interpreter.woken).task? id = _
      rw [Scheduler.task?_modifyTask_self, found]
      rfl
    obtain ⟨present, after, reached, back⟩ := runStatement_raised known unfinished raised
    exact ⟨present, after, reached, back.ofWoken⟩

theorem step_raised (run : (interpreter depth).step id session = .raised signal left) :
    ∃ task after, session.scheduler.task? id = some task ∧ task.isFinished = false ∧
      (∃ statement, task.statements[task.counter]? = some statement) ∧
      left.scheduler.task? id = some after ∧ task.SetBack after := by
  refine Interpreter.step_elim (interpreter depth)
    (motive := fun outcome => outcome = .raised signal left → _) ?_ ?_ ?_ ?_ run
  · exact fun _ => nofun
  · exact fun _ _ _ _ _ _ _ _ => ⟨nofun, nofun⟩
  · intro task found unfinished _ raised
    obtain ⟨present, after, reached, back⟩ := stepReady_raised found unfinished raised
    exact ⟨task, after, found, unfinished, present, reached, back⟩
  · intro task found unfinished awaited _ _ raised
    have known : (session.onTask id fun task => { task with waitingFor := none }).scheduler.task? id =
        some { task with waitingFor := none } := by
      change (session.scheduler.modifyTask id fun task => { task with waitingFor := none }).task? id = _
      rw [Scheduler.task?_modifyTask_self, found]
      rfl
    obtain ⟨present, after, reached, back⟩ := stepReady_raised known unfinished raised
    exact ⟨task, after, found, unfinished, present, reached, back.ofFreed⟩

end Faults

/-- A step that ends in a fault leaves its task unfinished, with the counter and the scope that it
had, but with no positions. These are the ones it had only if it had none: a statement that was
suspended in the middle is executed from its beginning when the task is stepped again. -/
theorem faulted_step_starts_over {depth : Nat} {id : TaskId} {session left : Session} {signal : Signal}
    (faulted : (interpreter depth).step id session = .raised signal left) :
    ∃ task after statement, session.scheduler.task? id = some task ∧ task.isFinished = false ∧
      task.statements[task.counter]? = some statement ∧
      left.scheduler.task? id = some after ∧ task.SetBack after ∧
      (after.positions = task.positions ↔ task.positions = {}) ∧
      ∀ (again : Interpreter) (later : Session) (reading : Nat),
        later.scheduler.task? id = some after →
        again.runStatement id reading later =
          again.executing id after statement reading (later.onTask id Task.start) := by
  obtain ⟨task, after, found, unfinished, ⟨statement, present⟩, reached, back⟩ := step_raised faulted
  refine ⟨task, after, statement, found, unfinished, present, reached, back, ?_, ?_⟩
  · rw [back.positions]
    exact eq_comm
  · intro again later reading known
    refine again.runStatement_of_started known back.started ?_ reading
    rw [back.statements, back.counter]
    exact present

/-- A function that suspends in the middle of its statement and fails when it goes on. -/
def failingLater : FunctionDecl where
  name := "later"
  params := []
  body := [.block [.print (.lit (.str "a")), .yield, .print (.var "missing")]]
  isAsync := true
  owner := none

def failingSoon : Session :=
  ((interpreter 12).request (.step ⟨0⟩)
    ((interpreter 12).request (.spawn failingLater []) (.start {} 0)).session).session

theorem failingSoon_reachable : failingSoon.Reachable := by
  refine .requested (.requested (.start {} 0) ?_ 12 (.spawn failingLater [])) ?_ 12 (.step ⟨0⟩)
  · rfl
  · decide +kernel

theorem failingSoon_positions :
    (failingSoon.scheduler.task? ⟨0⟩).map Task.positions =
      some { resume := [(.located [.body, .item 0], 2)] } := by
  decide +kernel

theorem failingSoon_fails :
    ∃ signal left, (interpreter 12).step ⟨0⟩ failingSoon = .raised signal left := by
  have ended : ((interpreter 12).step ⟨0⟩ failingSoon).isRaised = true := by decide +kernel
  obtain ⟨signal, raised⟩ := Outcome.eq_raised ended
  exact ⟨signal, _, raised⟩

/-- The task was past its first print, and is not any more. -/
theorem faulted_step_starts_over_failingSoon :
    ∃ signal left task after, (interpreter 12).step ⟨0⟩ failingSoon = .raised signal left ∧
      failingSoon.scheduler.task? ⟨0⟩ = some task ∧
      task.positions = { resume := [(.located [.body, .item 0], 2)] } ∧
      left.scheduler.task? ⟨0⟩ = some after ∧ task.SetBack after := by
  obtain ⟨signal, left, raised⟩ := failingSoon_fails
  obtain ⟨task, after, _, found, _, _, reached, back, _⟩ := faulted_step_starts_over raised
  have positions := failingSoon_positions
  rw [found] at positions
  exact ⟨signal, left, task, after, raised, found, Option.some.inj positions, reached, back⟩

/-- A fault does not leave a task where it was. -/
theorem not_faulted_step_keeps_positions :
    ¬ ∀ (depth : Nat) (id : TaskId) (session left : Session) (signal : Signal) (task after : Task),
      session.Reachable → (interpreter depth).step id session = .raised signal left →
      session.scheduler.task? id = some task → left.scheduler.task? id = some after →
      after.isFinished = false ∧ after.counter = task.counter ∧ after.scope = task.start.scope ∧
        after.positions = task.positions := by
  intro claimed
  obtain ⟨signal, left, raised⟩ := failingSoon_fails
  obtain ⟨task, after, found, _, _, reached, back⟩ := step_raised raised
  have kept := claimed 12 ⟨0⟩ failingSoon left signal task after failingSoon_reachable raised found reached
  have positions := failingSoon_positions
  rw [found, Option.map_some, ← kept.2.2.2, back.positions] at positions
  cases positions

end CooperativeTasks
