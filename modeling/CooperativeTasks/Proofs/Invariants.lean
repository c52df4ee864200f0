import CooperativeTasks.Proofs.Bracketing
import CooperativeTasks.Proofs.Reachability
import CooperativeTasks.Proofs.Weaving

set_option autoImplicit false

/-! Properties that sessions have wherever running code leads.

Outside of steps, code changes little about tasks, and where it does more than a little, something
is recorded at once. A property that outlasts these changes and the steps of tasks is an invariant:
whatever code does, halted or not, it ends in a session with the property if it has started in
one. -/

namespace CooperativeTasks

variable {α β : Type}

/-- The event says that a task has got past what might have kept it, or not. -/
def Event.isOfGates : Event → Bool
  | .stepped _ _ _ => true
  | .timedOut _ => true
  | _ => false

/-- What is done to a session outside of steps. Tasks come in, are put to sleep or limited, and are
made to wait only where that is recorded at once. -/
inductive Session.Amended : (recorded : Bool) → Session → Session → Prop where
  | apart {recorded : Bool} {before after : Session} (journal : after.journal = before.journal)
      (clock : after.clock = before.clock)
      (active : after.scheduler.active = before.scheduler.active)
      (tasks : after.scheduler.tasks = before.scheduler.tasks) : Amended recorded before after
  | later {recorded : Bool} (session : Session) (nanos : Nat) :
      Amended recorded session
        { session with clock := { session.clock with now := session.clock.now + nanos } }
  /-- A task has other variables, or reports elsewhere. -/
  | reporting {recorded : Bool} (id : TaskId) {change : Task → Task}
      (keeps : ∀ task : Task, ∃ scope receiver futureSite isPublished,
        change task = { task with scope, receiver, futureSite, isPublished }) (session : Session) :
      Amended recorded session (session.onTask id change)
  | timed (id : TaskId) {change : Task → Task}
      (keeps : ∀ task : Task, ∃ wakeAt deadline, change task = { task with wakeAt, deadline })
      (session : Session) : Amended true session (session.onTask id change)
  | registering {task : Task} (fresh : task.Fresh) (session : Session) :
      Amended true session (session.registering task)
  | awaitedBy (waiter awaited : Option TaskId) (session : Session) :
      Amended true session (session.awaitedBy waiter awaited)

theorem Session.Amended.modifySite {recorded : Bool} (site : BindingSite) (change : Scope → Scope)
    (session : Session) : Amended recorded session (session.modifySite site change) := by
  unfold Session.modifySite
  split
  · exact .apart rfl rfl rfl rfl
  · split
    · apply Amended.reporting
      exact fun _ => ⟨_, _, _, _, rfl⟩
    · exact .apart rfl rfl rfl rfl

/-! ### Leaving steps -/

theorem Session.task?_onTask {id : TaskId} {task : Task} {session : Session}
    (known : session.scheduler.task? id = some task) (change : Task → Task) :
    (session.onTask id change).scheduler.task? id = some (change task) := by
  change (session.scheduler.modifyTask id change).task? id = _
  rw [Scheduler.task?_modifyTask_self, known]
  rfl

theorem Session.task?_onTask_of_ne {id other : TaskId} (different : other ≠ id)
    (change : Task → Task) (session : Session) :
    (session.onTask id change).scheduler.task? other = session.scheduler.task? other :=
  Scheduler.task?_modifyTask_of_ne different change session.scheduler

/-- A step of the task is left, out of the session that its statement has left. Only its own task
may differ. -/
structure Session.SteppedOut (id : TaskId) (left after : Session) : Prop where
  journal : after.journal = left.journal
  clock : after.clock = left.clock
  active : after.scheduler.active = left.scheduler.active.tail
  others : ∀ other, other ≠ id → after.scheduler.task? other = left.scheduler.task? other

theorem Session.SteppedOut.onTask {id : TaskId} {left after : Session}
    (out : left.SteppedOut id after) (change : Task → Task) :
    left.SteppedOut id (after.onTask id change) where
  journal := out.journal
  clock := out.clock
  active := out.active
  others other different :=
    (task?_onTask_of_ne different change after).trans (out.others other different)

theorem Interpreter.stepEnding_stepsOut (id : TaskId) (task : Task) (before : Executor)
    (outcome : Outcome Unit) (ends : ∀ moment, outcome ≠ .halted moment) :
    outcome.session.SteppedOut id (stepEnding id task before outcome).session := by
  have leaves (left : Session) : left.SteppedOut id (left.leavingTask id task before) :=
    ⟨rfl, rfl, rfl, fun _ _ => rfl⟩
  cases outcome with
  | halted moment => exact absurd rfl (ends moment)
  | done value left =>
      unfold stepEnding
      dsimp only
      split
      · exact ((leaves left).onTask _).onTask _
      · exact (leaves left).onTask _
  | raised signal left =>
      cases signal with
      | suspend fromLoop => exact (leaves left).onTask _
      | returning value => exact ((leaves left).onTask _).onTask _
      | breakLoop => exact leaves left
      | continueLoop => exact leaves left
      | fault cause => exact leaves left

/-! ### Invariants -/

/-- From a session with the property, all sessions that the action leads to have it. -/
def Act.Keeps (holds : Session → Prop) (action : Act α) : Prop :=
  ∀ session, holds session → holds (action session).session

/-- What is done outside of steps does not affect the property, and the step of a task does not if
its statement does not. -/
structure Session.Invariant (holds : Session → Prop) : Prop where
  amended : ∀ {before after : Session}, before.Amended false after → holds before → holds after
  noted : ∀ {before between after : Session} {event : Event}, before.Amended true between →
    between.Noted event after → event.isOfGates = false → holds before → holds after
  awaiting : ∀ {before noted : Session} {id : TaskId} {waiter : Option TaskId},
    before.Noted (.awaiting id waiter) noted → holds before →
      holds (noted.awaitedBy waiter (some id))
  /-- From outside, tasks are made to wait without a record of it. -/
  marked : ∀ {session : Session} (id : TaskId) (waitingFor : Option TaskId),
    session.scheduler.active = [] → holds session →
      holds (session.onTask id fun task => { task with waitingFor })
  step : ∀ {depth : Nat},
    (∀ path statement, ((interpreter depth).exec path statement).Keeps holds) →
    ∀ {id : TaskId} {session : Session}, id ∉ session.scheduler.active → holds session →
      holds ((interpreter depth).step id session).session

variable {holds : Session → Prop}

namespace Act.Keeps

theorem pure (value : α) : (Pure.pure value : Act α).Keeps holds :=
  fun _ start => start

theorem raise (signal : Signal) : (Act.raise signal : Act α).Keeps holds :=
  fun _ start => start

theorem halt : (Act.halt : Act α).Keeps holds :=
  fun _ start => start

theorem read (view : Session → α) : (Act.read view).Keeps holds :=
  fun _ start => start

theorem bind {first : Act α} {next : α → Act β} (head : first.Keeps holds)
    (tail : ∀ value, (next value).Keeps holds) : (first >>= next).Keeps holds :=
  fun session start =>
    bind_session (head session start) fun value after _ between => tail value after between

theorem attempt {action : Act α} (inner : action.Keeps holds) :
    (Act.attempt action).Keeps holds := by
  intro session start
  rw [attempt_session]
  exact inner session start

end Act.Keeps

namespace Session.Invariant

variable (invariant : Session.Invariant holds)

include invariant

/-! ### Single actions -/

theorem apart {before after : Session} (start : holds before)
    (journal : after.journal = before.journal := by rfl)
    (clock : after.clock = before.clock := by rfl)
    (active : after.scheduler.active = before.scheduler.active := by rfl)
    (tasks : after.scheduler.tasks = before.scheduler.tasks := by rfl) : holds after :=
  invariant.amended (.apart journal clock active tasks) start

theorem recorded {before after : Session} {event : Event} (start : holds before)
    (noted : before.Noted event after) (other : event.isOfGates = false := by rfl) : holds after :=
  invariant.noted (.apart rfl rfl rfl rfl) noted other start

theorem update {change : Session → Session}
    (amends : ∀ session : Session, session.Amended false (change session)) :
    (Act.update change).Keeps holds :=
  fun session start => invariant.amended (amends session) start

theorem moment : Act.moment.Keeps holds := by
  intro session start
  unfold Act.moment
  split
  · exact start
  · exact start
  · exact invariant.apart start

theorem amending {event : Event} (other : event.isOfGates = false) {before between : Session}
    (amends : before.Amended true between) (start : holds before) :
    holds (Act.note event between).session := by
  refine Act.note_elim (motive := fun outcome => holds outcome.session) ?_ ?_
  · exact fun after noted => invariant.noted amends noted other start
  · exact fun moment noted => invariant.noted amends noted other start

theorem note (event : Event) (other : event.isOfGates = false := by rfl) :
    (Act.note event).Keeps holds :=
  fun _ start => invariant.amending other (.apart rfl rfl rfl rfl) start

theorem pass (nanos : Nat) : (Act.advanceClock nanos).Keeps holds :=
  invariant.update fun session => .later session nanos

theorem idle (swept : List TaskId) : (Interpreter.idle swept).Keeps holds := by
  refine .bind (invariant.update fun _ => .apart rfl rfl rfl rfl) fun _ => ?_
  refine .bind (.read _) fun _ => ?_
  exact .bind (invariant.pass _) fun _ => invariant.note _

theorem load (program : Program) : (Act.load program).Keeps holds :=
  .bind (invariant.update fun _ => .apart rfl rfl rfl rfl) fun _ =>
    .bind (.read _) fun _ => invariant.note _

theorem register {task : Task} (fresh : task.Fresh) : (Act.register task).Keeps holds := by
  intro session start
  refine Act.register_elim (motive := fun outcome => holds outcome.session) fun _ after noted => ?_
  have registered := invariant.noted (.registering fresh session) noted rfl start
  exact ⟨registered, registered⟩

theorem sleepTask (id : TaskId) (millis : Nat) : (Act.sleepTask id millis).Keeps holds := by
  intro session start
  have ticked : holds session.ticked := invariant.amended (.later session _) start
  rw [Act.sleepTask, Act.readClock_bind, Act.scheduler_bind]
  split
  · refine invariant.amending rfl (.timed id ?_ _) ticked
    exact fun _ => ⟨_, _, rfl⟩
  · exact ticked

theorem setTimeout (id : TaskId) (millis : Nat) : (Act.setTimeout id millis).Keeps holds := by
  intro session start
  have ticked : holds session.ticked := invariant.amended (.later session _) start
  rw [Act.setTimeout, Act.readClock_bind, Act.scheduler_bind]
  split
  · refine invariant.amending rfl (.timed id ?_ _) ticked
    exact fun _ => ⟨_, _, rfl⟩
  · exact ticked

/-! ### Calls and awaits -/

theorem calling (name : String) (scope : Scope) {body : Act Unit} (inner : body.Keeps holds) :
    (Act.calling name scope body).Keeps holds := by
  intro session start
  refine Act.calling_elim (motive := fun outcome => holds outcome.session) ?_ ?_ ?_
  · exact fun _ => start
  · exact fun _ moment noted => invariant.recorded start noted
  · intro _ noted same
    have begins := invariant.recorded start same
    have entered : holds (noted.enteringCall scope) := invariant.apart begins
    have ends := inner _ entered
    have returned {left : Session} (ended : holds left) :
        holds (left.leavingCall session.executor) := invariant.apart ended
    cases run : body (noted.enteringCall scope) with
    | halted moment =>
        rw [run] at ends
        exact ends
    | done value left =>
        rw [run] at ends
        exact returned ends
    | raised signal left =>
        rw [run] at ends
        have back := returned ends
        cases signal <;> exact back

theorem awaitingTask (id : TaskId) {drive : Act Unit} (inner : drive.Keeps holds) :
    (Act.awaiting id drive).Keeps holds := by
  intro session start
  have ended {left after : Session} (begins : holds left)
      (noted : (left.awaitedBy session.executor.currentTask none).Noted
        (.awaitEnded id session.executor.currentTask) after) : holds after :=
    invariant.noted (.awaitedBy ..) noted rfl begins
  refine Act.awaiting_elim (motive := fun outcome => holds outcome.session) ?_ ?_ ?_ ?_
  · exact fun moment noted => invariant.recorded start noted
  · intro noted same moment run
    have cut := inner _ (invariant.awaiting same start)
    rw [run] at cut
    exact cut
  · intro noted same left run after later
    have begins := inner _ (invariant.awaiting same start)
    rw [run] at begins
    exact ⟨ended begins later, ended begins later⟩
  · intro noted same signal left run after later
    have begins := inner _ (invariant.awaiting same start)
    rw [run] at begins
    exact ⟨ended begins later, ended begins later⟩

/-! ### Turns -/

theorem cycle {depth : Nat} (finalize : ∀ id, (Act.finalize id).Keeps holds)
    (exec : ∀ path statement, ((interpreter depth).exec path statement).Keeps holds) :
    (interpreter depth).cycle.Keeps holds := by
  intro session start
  have pop {id : TaskId} {remaining : Scheduler} {popped : Session}
      (front : session.scheduler.dequeue? = some (id, remaining))
      (noted : { session with scheduler := remaining }.Noted (.dequeued id) popped) :
      holds popped := by
    obtain ⟨rest, _, same⟩ := Scheduler.dequeue?_eq_some front
    have taken : holds { session with scheduler := remaining } :=
      invariant.apart start rfl rfl (by rw [same]) (by rw [same])
    exact invariant.recorded taken noted
  have push {id : TaskId} {left after : Session} (ended : holds left)
      (noted : (Interpreter.requeueing id left).Noted (.requeued id) after) : holds after := by
    have put : holds (Interpreter.requeueing id left) := invariant.apart ended
    exact invariant.recorded put noted
  have stepped {id : TaskId} {remaining : Scheduler} {popped : Session}
      (front : session.scheduler.dequeue? = some (id, remaining))
      (noted : { session with scheduler := remaining }.Noted (.dequeued id) popped)
      (idle : remaining.isActive id = false) :
      holds ((interpreter depth).step id popped).session := by
    refine invariant.step exec ?_ (pop front noted)
    rw [noted.scheduler]
    exact of_decide_eq_false idle
  refine Interpreter.cycle_elim _ (motive := fun outcome => holds outcome.session)
    ?_ ?_ ?_ ?_ ?_ ?_ ?_
  · exact fun _ => start
  · exact fun _ _ front moment noted => pop front noted
  · intro _ _ front _ _ noted after back
    have ends := push (pop front noted) back
    exact ⟨ends, ends, ends⟩
  · intro id remaining front idle popped noted moment run
    have ends := stepped front noted idle
    rw [run] at ends
    exact ends
  · intro id remaining front idle popped noted signal left run
    have ends := stepped front noted idle
    rw [run] at ends
    exact ends
  · intro id remaining front idle popped noted left run after _
    have ends := stepped front noted idle
    rw [run] at ends
    have published := finalize id left ends
    refine ⟨fun cut => ?_, fun ended => ?_⟩
    · rw [cut] at published
      exact published
    · rw [ended] at published
      exact published
  · intro _ _ front idle _ noted _ _ _ run after back
    have ends := stepped front noted idle
    rw [run] at ends
    exact ⟨push ends back, push ends back⟩

end Session.Invariant

/-- Whatever an interpreter does, invariants are kept. -/
theorem Woven.keeps {grade : Grade} {action : Act α} (woven : Woven grade action)
    (invariant : Session.Invariant holds) : action.Keeps holds := by
  induction woven with
  | halt => exact .halt
  | pure value => exact .pure value
  | raise signal => exact .raise signal
  | moment => exact invariant.moment
  | read view => exact .read view
  | note event remark =>
      refine invariant.note event ?_
      cases event <;> first | rfl | cases remark
  | write writes => exact invariant.update fun _ => .apart rfl rfl rfl rfl
  | print line => exact invariant.update fun _ => .apart rfl rfl rfl rfl
  | positions change => exact invariant.update fun _ => .apart rfl rfl rfl rfl
  | idle swept => exact invariant.idle swept
  | register fresh => exact invariant.register fresh
  | publish id receiver =>
      refine invariant.update fun session => .reporting id ?_ session
      exact fun _ => ⟨_, _, _, _, rfl⟩
  | count change => exact invariant.update fun _ => .apart rfl rfl rfl rfl
  | modifySite site _ => exact invariant.update (.modifySite site _)
  | sleepTask id millis => exact invariant.sleepTask id millis
  | setTimeout id millis => exact invariant.setTimeout id millis
  | bindFuture id site =>
      refine invariant.update fun session => .reporting id ?_ session
      exact fun _ => ⟨_, _, _, _, rfl⟩
  | bind _ _ head tail => exact .bind head tail
  | attempt _ inner => exact .attempt inner
  | lift _ inner => exact inner
  | cycle _ _ finalize exec => exact invariant.cycle finalize exec
  | calling name _ _ inner => exact invariant.calling name _ inner
  | @awaiting depth id _ inner =>
      intro session start
      rcases (interpreter depth).awaitUnfinished_cases id session with run | ⟨_, run⟩
      · rw [run]
        exact start
      · rw [run]
        exact invariant.awaitingTask id inner session start

namespace Session.Invariant

variable (invariant : Session.Invariant holds)

include invariant

/-! ### Executions -/

theorem runThrough (depth : Nat) (passing : Nat → Nat) :
    ((interpreter depth).runThrough passing).Keeps holds := by
  have turns (state : Nat × List TaskId) :
      ((interpreter depth).turnThrough passing state).Keeps holds := by
    refine .bind (invariant.pass _) fun _ => ?_
    refine .bind (((interpreter_woven depth).turn state.2).keeps invariant) fun swept => ?_
    cases swept <;> exact .pure _
  have driven : Act.Keeps holds (Act.iterate (interpreter depth).turns
      ((interpreter depth).turnThrough passing) (0, [])) :=
    Act.iterate_closed .halt (.pure ()) (fun state _ tail => .bind (turns state) tail) _ _
  refine .bind (.read _) fun scheduler => .bind (invariant.note _) fun _ => ?_
  exact .bind driven fun _ => invariant.note _

theorem request (depth : Nat) (operation : Operation) {session : Session}
    (outside : session.scheduler.active = []) (start : holds session) :
    holds ((interpreter depth).request operation session).session := by
  have woven := interpreter_woven depth
  have along {action : Act Unit} (whole : action.Keeps holds) : holds (action session).session :=
    whole session start
  have spawned {task : Task} (fresh : task.Fresh) :
      (do let _ ← Act.register task : Act Unit).Keeps holds :=
    .bind (invariant.register fresh) fun _ => .pure ()
  cases operation with
  | load program => exact along (invariant.load program)
  | execute path statement => exact along ((woven.exec path statement).keeps invariant)
  | register task fresh => exact along (spawned fresh)
  | spawn function args => exact along (spawned (.ofFunction function args))
  | spawnTimer millis =>
      exact along (.bind ((woven.spawnTimer millis).keeps invariant) fun _ => .pure ())
  | sleep id millis => exact along (invariant.sleepTask id millis)
  | timeout id millis => exact along (invariant.setTimeout id millis)
  | waitOn id awaited => exact invariant.marked id (some awaited) outside start
  | clearWait id => exact invariant.marked id none outside start
  | bindFuture id site =>
      refine invariant.amended (.reporting id ?_ session) start
      exact fun _ => ⟨_, _, _, _, rfl⟩
  | bindReceiver id site =>
      refine invariant.amended (.reporting id ?_ session) start
      exact fun _ => ⟨_, _, _, _, rfl⟩
  | finalize id =>
      have finalizes : Woven .running (Act.finalize id) := .finalize id
      exact along (finalizes.keeps invariant)
  | step id =>
      have stepped := invariant.step
        (fun path statement => (woven.exec path statement).keeps invariant)
        (outside ▸ List.not_mem_nil : id ∉ session.scheduler.active) start
      exact Act.bind_session stepped fun _ _ _ ended => ended
  | cycle => exact along (woven.runOneCycle.keeps invariant)
  | run => exact along (woven.run.keeps invariant)
  | runUntilComplete id => exact along ((woven.runUntilComplete id).keeps invariant)
  | pass nanos => exact along (invariant.pass nanos)
  | runThrough passing => exact along (invariant.runThrough depth passing)

theorem undertake (depth : Nat) (errand : Errand) {session : Session}
    (outside : session.scheduler.active = []) (start : holds session) :
    holds ((interpreter depth).undertake errand session).session := by
  cases errand with
  | operation operation => exact invariant.request depth operation outside start
  | program program =>
      have runs : ((interpreter depth).runProgram program).Keeps holds :=
        .bind (invariant.load program) fun _ =>
          ((interpreter_woven depth).runLoaded program).keeps invariant
      exact runs session start

theorem undertakeAll (depth : Nat) (errands : List Errand) {session : Session}
    (outside : session.scheduler.active = []) (start : holds session) :
    holds ((interpreter depth).undertakeAll errands session).session := by
  induction errands generalizing session with
  | nil => exact start
  | cons errand rest ih =>
      have ends := invariant.undertake depth errand outside start
      have kept := Act.Brackets.attempt (undertake_brackets depth errand) session
      rw [← Act.attempt_session] at ends
      refine Act.bind_session ends fun _ after run ended => ?_
      rw [run] at kept
      exact ih ((Session.Kept.active kept).trans outside) ended

theorem reachable (started : ∀ settings tick, holds (.start settings tick)) {session : Session}
    (reachable : session.Reachable) : holds session := by
  induction reachable with
  | start settings tick => exact started settings tick
  | limited _ budget ih => exact invariant.apart ih
  | @later session _ nanos ih => exact invariant.amended (.later session nanos) ih
  | positioned _ positions ih => exact invariant.apart ih
  | globalSet _ name value ih => exact invariant.apart ih
  | requested _ outside depth operation ih => exact invariant.request depth operation outside ih
  | evaluated _ depth expr ih => exact ((interpreter_woven depth).eval expr).keeps invariant _ ih
  | executed _ depth path statement ih =>
      exact ((interpreter_woven depth).exec path statement).keeps invariant _ ih

end Session.Invariant

end CooperativeTasks
