import CooperativeTasks.Proofs.AwaitMarks
import CooperativeTasks.Proofs.Awaiting
import CooperativeTasks.Proofs.DueSteps
import CooperativeTasks.Proofs.Sites
import CooperativeTasks.Proofs.Turns

set_option autoImplicit false

/-! Tasks that wait for each other.

A task that is marked as waiting for an unfinished one is put back into the queue by every turn that
it gets. When every task of a ring waits for one of the ring, no turn of anybody undoes that: the
marks stay, and whoever drives one of them keeps finding something in the queue that is not in a
step. -/

namespace CooperativeTasks

variable {α β : Type}

/-- The tasks of the ring are unfinished. Those that are in no step wait for tasks of the ring, and
are queued. -/
structure Session.Knotted (ring : TaskId → Prop) (session : Session) : Prop where
  unfinished : ∀ id, ring id → ∃ task, session.scheduler.task? id = some task ∧
    task.isFinished = false
  waits : ∀ id, ring id → id ∉ session.scheduler.active →
    ∃ awaited, session.scheduler.mark? id = some awaited ∧ ring awaited
  queued : ∀ id, ring id → id ∉ session.scheduler.active → id ∈ session.scheduler.queue.ids
  current : ∀ id, session.executor.currentTask = some id → ring id → id ∈ session.scheduler.active

/-- No task has been finished, freed, taken out of the queue or put into a step or out of one. -/
structure Session.Unstirred (before after : Session) : Prop where
  currentTask : after.executor.currentTask = before.executor.currentTask
  active : after.scheduler.active = before.scheduler.active
  queued : ∀ id ∈ before.scheduler.queue.ids, id ∈ after.scheduler.queue.ids
  tasks : ∀ id task, before.scheduler.task? id = some task →
    ∃ later, after.scheduler.task? id = some later ∧ later.isFinished = task.isFinished ∧
      later.waitingFor = task.waitingFor

namespace Session.Unstirred

theorem refl (session : Session) : Unstirred session session :=
  ⟨rfl, rfl, fun _ queued => queued, fun _ task known => ⟨task, known, rfl, rfl⟩⟩

theorem trans {first second third : Session} (earlier : Unstirred first second)
    (later : Unstirred second third) : Unstirred first third where
  currentTask := later.currentTask.trans earlier.currentTask
  active := later.active.trans earlier.active
  queued id member := later.queued id (earlier.queued id member)
  tasks id task known := by
    obtain ⟨between, found, finished, marked⟩ := earlier.tasks id task known
    obtain ⟨last, reached, finished', marked'⟩ := later.tasks id between found
    exact ⟨last, reached, finished'.trans finished, marked'.trans marked⟩

theorem ofTasks {before after : Session}
    (currentTask : after.executor.currentTask = before.executor.currentTask)
    (active : after.scheduler.active = before.scheduler.active)
    (queue : after.scheduler.queue = before.scheduler.queue)
    (tasks : after.scheduler.tasks = before.scheduler.tasks) : Unstirred before after where
  currentTask := currentTask
  active := active
  queued id member := queue ▸ member
  tasks id task known := by
    refine ⟨task, ?_, rfl, rfl⟩
    unfold Scheduler.task? at known ⊢
    rw [tasks, known]

theorem ofNoted {event : Event} {before after : Session} (noted : before.Noted event after) :
    Unstirred before after :=
  .ofTasks (by rw [noted.executor]) (by rw [noted.scheduler]) (by rw [noted.scheduler])
    (by rw [noted.scheduler])

theorem onTask {change : Task → Task}
    (keeps : ∀ task, (change task).isFinished = task.isFinished ∧
      (change task).waitingFor = task.waitingFor) (id : TaskId) (session : Session) :
    Unstirred session (session.onTask id change) where
  currentTask := rfl
  active := rfl
  queued _ member := member
  tasks other task known := by
    by_cases same : other = id
    · subst other
      exact ⟨change task, task?_onTask known change, keeps task⟩
    · rw [task?_onTask_of_ne same]
      exact ⟨task, known, rfl, rfl⟩

theorem modifySite (site : BindingSite) (change : Scope → Scope) (session : Session) :
    Unstirred session (session.modifySite site change) := by
  rcases modifySite_cases site change session with
    ⟨scopes, _, same⟩ | ⟨_, owner, scope, _, _, _, same⟩ | ⟨_, same⟩
  · rw [same]
    exact .ofTasks rfl rfl rfl rfl
  · rw [same]
    apply onTask
    exact fun _ => ⟨rfl, rfl⟩
  · rw [same]
    exact .refl session

theorem registering (task : Task) (session : Session) :
    Unstirred session (session.registering task) where
  currentTask := rfl
  active := rfl
  queued _ member := List.mem_append_left _ member
  tasks id known found := by
    have below := Scheduler.task?_isSome_iff.mp ⟨known, found⟩
    refine ⟨known, ?_, rfl, rfl⟩
    rw [← found]
    exact Scheduler.task?_register_of_lt below task

theorem requeueing (id : TaskId) (session : Session) :
    Unstirred session (Interpreter.requeueing id session) where
  currentTask := rfl
  active := rfl
  queued _ member := List.mem_append_left _ member
  tasks _ task known := ⟨task, known, rfl, rfl⟩

theorem putBack {id : TaskId} {remaining : Scheduler} {session front left : Session}
    {event : Event} (taken : session.scheduler.dequeue? = some (id, remaining))
    (noted : { session with scheduler := remaining }.Noted event front)
    (same : front.Unstirred left) : Unstirred session (Interpreter.requeueing id left) := by
  obtain ⟨rest, ids, rfl⟩ := Scheduler.dequeue?_eq_some taken
  constructor
  · exact same.currentTask.trans (congrArg Executor.currentTask noted.executor)
  · change left.scheduler.active = _
    rw [same.active, noted.scheduler]
  · intro other member
    rw [ids] at member
    rcases List.mem_cons.mp member with rfl | later
    · exact List.mem_append_right _ (List.mem_singleton_self _)
    · refine List.mem_append_left _ (same.queued other ?_)
      rw [noted.scheduler]
      exact later
  · intro other task known
    apply same.tasks other task
    rw [noted.scheduler]
    exact known

end Session.Unstirred

namespace Session.Knotted

variable {ring : TaskId → Prop} {before after : Session} (knotted : before.Knotted ring)

include knotted

theorem unstirred (same : before.Unstirred after) : after.Knotted ring where
  unfinished id member := by
    obtain ⟨task, known, unfinished⟩ := knotted.unfinished id member
    obtain ⟨later, found, kept, _⟩ := same.tasks id task known
    exact ⟨later, found, kept.trans unfinished⟩
  waits id member idle := by
    rw [same.active] at idle
    obtain ⟨task, known, _⟩ := knotted.unfinished id member
    obtain ⟨later, found, _, marked⟩ := same.tasks id task known
    obtain ⟨awaited, mark, next⟩ := knotted.waits id member idle
    refine ⟨awaited, ?_, next⟩
    unfold Scheduler.mark? at mark ⊢
    rw [known] at mark
    rw [found]
    exact marked.trans mark
  queued id member idle := by
    rw [same.active] at idle
    exact same.queued id (knotted.queued id member idle)
  current id running member := by
    rw [same.active]
    exact knotted.current id (same.currentTask ▸ running) member

theorem onOther {id : TaskId} (other : ¬ ring id) (change : Task → Task) :
    (before.onTask id change).Knotted ring where
  unfinished inside member := by
    have different : inside ≠ id := fun same => other (same ▸ member)
    obtain ⟨task, known, unfinished⟩ := knotted.unfinished inside member
    exact ⟨task, (task?_onTask_of_ne different change before).trans known, unfinished⟩
  waits inside member idle := by
    have different : inside ≠ id := fun same => other (same ▸ member)
    obtain ⟨awaited, mark, next⟩ := knotted.waits inside member idle
    refine ⟨awaited, ?_, next⟩
    unfold Scheduler.mark? at mark ⊢
    rw [task?_onTask_of_ne different]
    exact mark
  queued := knotted.queued
  current := knotted.current

theorem awaitedBy {waiter : Option TaskId}
    (running : ∀ id, waiter = some id → ring id → id ∈ before.scheduler.active)
    (awaited : Option TaskId) : (before.awaitedBy waiter awaited).Knotted ring := by
  cases waiter with
  | none => exact knotted
  | some id =>
      have inside := running id rfl
      constructor
      · intro other member
        obtain ⟨task, known, unfinished⟩ := knotted.unfinished other member
        by_cases same : other = id
        · subst other
          exact ⟨_, task?_onTask known _, unfinished⟩
        · exact ⟨task, (task?_onTask_of_ne same _ before).trans known, unfinished⟩
      · intro other member idle
        have different : other ≠ id := by
          rintro rfl
          exact idle (inside member)
        obtain ⟨next, mark, goesOn⟩ := knotted.waits other member idle
        refine ⟨next, ?_, goesOn⟩
        rw [mark?_awaitedBy_of_ne fun same => different (Option.some.inj same).symm]
        exact mark
      · exact knotted.queued
      · exact knotted.current

theorem step_blocked {id : TaskId} (member : ring id) (idle : id ∉ before.scheduler.active)
    (tasks : after.scheduler.tasks = before.scheduler.tasks) (interpreter : Interpreter) :
    (∃ left, interpreter.step id after = .done .blocked left ∧ after.Unstirred left) ∨
      ∃ moment, interpreter.step id after = .halted moment := by
  have same (other : TaskId) : after.scheduler.task? other = before.scheduler.task? other := by
    unfold Scheduler.task?
    rw [tasks]
  obtain ⟨task, known, unfinished⟩ := knotted.unfinished id member
  obtain ⟨awaited, mark, next⟩ := knotted.waits id member idle
  obtain ⟨other, found, going⟩ := knotted.unfinished awaited next
  have marked : task.waitingFor = some awaited := by
    unfold Scheduler.mark? at mark
    rwa [known] at mark
  have blocked : after.scheduler.isFinished awaited = false :=
    Scheduler.isFinished_eq_false ((same awaited).trans found) going
  have step : interpreter.step id after =
      (do
        Act.note (.stillWaiting id awaited)
        return .blocked : Act StepStatus) (Interpreter.blocking after) :=
    Interpreter.step_waiting ((same id).trans known) unfinished marked blocked
  have counted : after.Unstirred (Interpreter.blocking after) := .ofTasks rfl rfl rfl rfl
  rw [step, Act.bind_apply]
  rcases Act.note_cases (.stillWaiting id awaited) (Interpreter.blocking after) with
    ⟨left, noted, run⟩ | ⟨moment, _, run⟩
  · rw [run]
    exact .inl ⟨left, rfl, counted.trans (.ofNoted noted)⟩
  · rw [run]
    exact .inr ⟨moment, rfl⟩

theorem popped {id : TaskId} (other : ¬ ring id) {remaining : Scheduler} {front : Session}
    {event : Event} (taken : before.scheduler.dequeue? = some (id, remaining))
    (noted : { before with scheduler := remaining }.Noted event front) : front.Knotted ring := by
  obtain ⟨rest, ids, rfl⟩ := Scheduler.dequeue?_eq_some taken
  constructor
  · rw [noted.scheduler]
    exact knotted.unfinished
  · rw [noted.scheduler]
    exact knotted.waits
  · intro inside member idle
    rw [noted.scheduler] at idle ⊢
    have queued := knotted.queued inside member idle
    rw [ids] at queued
    rcases List.mem_cons.mp queued with rfl | later
    · exact absurd member other
    · exact later
  · rw [noted.scheduler, noted.executor]
    exact knotted.current

theorem enteringTask {id : TaskId} (other : ¬ ring id) (task : Task) :
    (before.enteringTask id task).Knotted ring where
  unfinished := knotted.unfinished
  waits inside member idle := knotted.waits inside member fun running =>
    idle (List.mem_cons_of_mem id running)
  queued inside member idle := knotted.queued inside member fun running =>
    idle (List.mem_cons_of_mem id running)
  current inside running member := by
    cases running
    exact absurd member other

theorem leavingTask {id : TaskId} (other : ¬ ring id) {task : Task} {left : Session}
    (kept : left.Knotted ring) (active : left.scheduler.active = id :: before.scheduler.active) :
    (left.leavingTask id task before.executor).Knotted ring := by
  have outer : (left.leavingTask id task before.executor).scheduler.active =
      before.scheduler.active := by
    change left.scheduler.active.tail = _
    rw [active]
    rfl
  have apart {inside : TaskId} (member : ring inside) (idle : inside ∉ before.scheduler.active) :
      inside ∉ left.scheduler.active := by
    rw [active, List.mem_cons, not_or]
    exact ⟨fun same => other (same ▸ member), idle⟩
  constructor
  · exact kept.unfinished
  · intro inside member idle
    rw [outer] at idle
    exact kept.waits inside member (apart member idle)
  · intro inside member idle
    rw [outer] at idle
    exact kept.queued inside member (apart member idle)
  · intro inside running member
    rw [outer]
    exact knotted.current inside running member

end Session.Knotted

/-! ### Actions -/

/-- The ring is still knotted, and the same tasks are in steps. -/
def Outcome.Ties (ring : TaskId → Prop) (before : Session) : Outcome α → Prop
  | .done _ after => after.Knotted ring ∧ after.scheduler.active = before.scheduler.active
  | .raised _ after => after.Knotted ring ∧ after.scheduler.active = before.scheduler.active
  | .halted _ => True

/-- Whenever the ring is knotted it is so after the action. -/
def Act.Ties (ring : TaskId → Prop) (action : Act α) : Prop :=
  ∀ session, session.Knotted ring → (action session).Ties ring session

theorem Outcome.Ties.after {ring : TaskId → Prop} {before between : Session} {outcome : Outcome α}
    (same : between.scheduler.active = before.scheduler.active)
    (later : outcome.Ties ring between) : outcome.Ties ring before := by
  cases outcome with
  | done value after => exact ⟨later.1, later.2.trans same⟩
  | raised signal after => exact ⟨later.1, later.2.trans same⟩
  | halted moment => trivial

namespace Act.Ties

variable {ring : TaskId → Prop}

theorem pure (value : α) : Ties ring (Pure.pure value : Act α) :=
  fun _ knotted => ⟨knotted, rfl⟩

theorem raise (signal : Signal) : Ties ring (Act.raise signal : Act α) :=
  fun _ knotted => ⟨knotted, rfl⟩

theorem halt : Ties ring (Act.halt : Act α) :=
  fun _ _ => trivial

theorem read (view : Session → α) : Ties ring (Act.read view) :=
  fun _ knotted => ⟨knotted, rfl⟩

theorem update {change : Session → Session}
    (unstirred : ∀ session : Session, session.Unstirred (change session)) :
    Ties ring (Act.update change) :=
  fun session knotted => ⟨knotted.unstirred (unstirred session), (unstirred session).active⟩

theorem moment : Ties ring Act.moment := by
  intro session knotted
  unfold Act.moment
  split
  · exact ⟨knotted, rfl⟩
  · trivial
  · exact ⟨knotted.unstirred (.ofTasks rfl rfl rfl rfl), rfl⟩

theorem note (event : Event) : Ties ring (Act.note event) := by
  intro session knotted
  apply note_elim (motive := Outcome.Ties ring session)
  · intro after noted
    exact ⟨knotted.unstirred (.ofNoted noted), by rw [noted.scheduler]⟩
  · exact fun _ _ => trivial

theorem bind {first : Act α} {next : α → Act β} (head : Ties ring first)
    (tail : ∀ value, Ties ring (next value)) : Ties ring (first >>= next) := by
  intro session knotted
  have begins := head session knotted
  apply bind_elim (motive := Outcome.Ties ring session)
  · intro value after run
    rw [run] at begins
    exact (tail value after begins.1).after begins.2
  · intro signal after run
    rw [run] at begins
    exact begins
  · exact fun _ _ => trivial

theorem attempt {action : Act α} (inner : Ties ring action) : Ties ring (Act.attempt action) := by
  intro session knotted
  have ends := inner session knotted
  unfold Act.attempt
  cases run : action session with
  | done value after =>
      rw [run] at ends
      exact ends
  | raised signal after =>
      rw [run] at ends
      exact ends
  | halted moment => trivial

theorem readClock : Ties ring Act.readClock := by
  rw [readClock_eq]
  refine .bind (.read _) fun now => ?_
  exact .bind (.update fun _ => .ofTasks rfl rfl rfl rfl) fun _ => .pure now

theorem onTask {change : Task → Task}
    (keeps : ∀ task, (change task).isFinished = task.isFinished ∧
      (change task).waitingFor = task.waitingFor) (id : TaskId) :
    Ties ring (Act.updateScheduler (Scheduler.modifyTask id change)) :=
  .update fun session => .onTask keeps id session

theorem sleepTask (id : TaskId) (millis : Nat) : Ties ring (Act.sleepTask id millis) := by
  refine .bind .readClock fun now => .bind (.read _) fun scheduler => ?_
  split
  · refine .bind (.onTask ?_ id) fun _ => .note _
    exact fun _ => ⟨rfl, rfl⟩
  · exact .pure ()

theorem setTimeout (id : TaskId) (millis : Nat) : Ties ring (Act.setTimeout id millis) := by
  refine .bind .readClock fun now => .bind (.read _) fun scheduler => ?_
  split
  · refine .bind (.onTask ?_ id) fun _ => .note _
    exact fun _ => ⟨rfl, rfl⟩
  · exact .pure ()

theorem idle (swept : List TaskId) : Ties ring (Interpreter.idle swept) := by
  refine .bind (.update fun _ => .ofTasks rfl rfl rfl rfl) fun _ => .bind (.read _) fun _ => ?_
  exact .bind (.update fun _ => .ofTasks rfl rfl rfl rfl) fun _ => .note _

theorem register (task : Task) : Ties ring (Act.register task) := by
  intro session knotted
  apply register_elim (motive := Outcome.Ties ring session)
  intro _ after noted
  have registered := knotted.unstirred (.registering task session)
  exact ⟨⟨registered.unstirred (.ofNoted noted), by rw [noted.scheduler]; rfl⟩, trivial⟩

theorem calling (name : String) (scope : Scope) {body : Act Unit} (inner : Ties ring body) :
    Ties ring (Act.calling name scope body) := by
  intro session knotted
  apply calling_elim (motive := Outcome.Ties ring session)
  · exact fun _ => ⟨knotted, rfl⟩
  · exact fun _ _ _ => trivial
  · intro _ noted recorded
    have begins := knotted.unstirred (.ofNoted recorded)
    have entered : (noted.enteringCall scope).Knotted ring :=
      { begins with current := fun _ hidden => nomatch hidden }
    have ends := inner _ entered
    have returned {left : Session} (after : left.Knotted ring)
        (active : left.scheduler.active = noted.scheduler.active) :
        (left.leavingCall session.executor).Knotted ring ∧
          (left.leavingCall session.executor).scheduler.active = session.scheduler.active := by
      have same : left.scheduler.active = session.scheduler.active :=
        active.trans (congrArg Scheduler.active recorded.scheduler)
      refine ⟨{ after with current := fun id running member => ?_ }, same⟩
      rw [show (left.leavingCall session.executor).scheduler.active = _ from same]
      exact knotted.current id running member
    cases run : body (noted.enteringCall scope) with
    | halted moment => trivial
    | done value left =>
        rw [run] at ends
        exact returned ends.1 ends.2
    | raised signal left =>
        rw [run] at ends
        have back := returned ends.1 ends.2
        cases signal <;> exact back

theorem awaiting (id : TaskId) {drive : Act Unit} (inner : Ties ring drive) :
    Ties ring (Act.awaiting id drive) := by
  intro session knotted
  have started {noted : Session}
      (same : session.Noted (.awaiting id session.executor.currentTask) noted) :
      (noted.awaitedBy session.executor.currentTask (some id)).Knotted ring := by
    apply (knotted.unstirred (.ofNoted same)).awaitedBy
    intro other running member
    rw [same.scheduler]
    exact knotted.current other running member
  have ended {noted left after : Session} {event : Event}
      (same : session.Noted (.awaiting id session.executor.currentTask) noted)
      (kept : left.Knotted ring)
      (active : left.scheduler.active =
        (noted.awaitedBy session.executor.currentTask (some id)).scheduler.active)
      (last : (left.awaitedBy session.executor.currentTask none).Noted event after) :
      after.Knotted ring ∧ after.scheduler.active = session.scheduler.active := by
    have restored : left.scheduler.active = session.scheduler.active := by
      rw [active, (Session.awaitedBy_same _ _ noted).2.2.1, same.scheduler]
    constructor
    · apply Session.Knotted.unstirred _ (.ofNoted last)
      apply kept.awaitedBy
      intro other running member
      rw [restored]
      exact knotted.current other running member
    · rw [last.scheduler, (Session.awaitedBy_same _ _ left).2.2.1, restored]
  apply awaiting_elim (motive := Outcome.Ties ring session)
  · exact fun _ _ => trivial
  · exact fun _ _ _ _ => trivial
  · intro noted same left run after last
    have drives := inner _ (started same)
    rw [run] at drives
    exact ⟨ended same drives.1 drives.2 last, trivial⟩
  · intro noted same signal left run after last
    have drives := inner _ (started same)
    rw [run] at drives
    exact ⟨ended same drives.1 drives.2 last, trivial⟩

end Act.Ties

/-! ### Steps and turns -/

section Turns

variable {ring : TaskId → Prop} {interpreter : Interpreter}

theorem Interpreter.stepEnding_ties {id : TaskId} (other : ¬ ring id) {task : Task}
    {session : Session} (knotted : session.Knotted ring) {outcome : Outcome Unit}
    (ends : outcome.Ties ring (session.enteringTask id task)) :
    (stepEnding id task session.executor outcome).Ties ring session := by
  have leaves {left : Session} (kept : left.Knotted ring)
      (active : left.scheduler.active = id :: session.scheduler.active) :
      (left.leavingTask id task session.executor).Knotted ring ∧
        (left.leavingTask id task session.executor).scheduler.active =
          session.scheduler.active := by
    refine ⟨knotted.leavingTask other kept active, ?_⟩
    change left.scheduler.active.tail = _
    rw [active]
    rfl
  cases outcome with
  | halted moment => trivial
  | done value left =>
      obtain ⟨after, active⟩ := leaves ends.1 ends.2
      unfold stepEnding
      dsimp only
      split
      · exact ⟨(after.onOther other _).onOther other _, active⟩
      · exact ⟨after.onOther other _, active⟩
  | raised signal left =>
      obtain ⟨after, active⟩ := leaves ends.1 ends.2
      cases signal with
      | suspend fromLoop => exact ⟨after.onOther other _, active⟩
      | returning value => exact ⟨(after.onOther other _).onOther other _, active⟩
      | breakLoop => exact ⟨after, active⟩
      | continueLoop => exact ⟨after, active⟩
      | fault cause => exact ⟨after, active⟩

variable (exec : ∀ path statement, (interpreter.exec path statement).Ties ring)

include exec

theorem runStatement_ties {id : TaskId} (other : ¬ ring id) {session : Session}
    (knotted : session.Knotted ring) (reading : Nat) :
    (interpreter.runStatement id reading session).Ties ring session := by
  have started := knotted.onOther other Task.start
  apply interpreter.runStatement_elim (motive := Outcome.Ties ring session)
  · exact fun _ => ⟨started, rfl⟩
  · exact fun _ _ _ => ⟨started.onOther other _, rfl⟩
  · exact fun _ _ _ _ => trivial
  · intro task _ statement _ noted same
    have counted : (Interpreter.announcing id (session.onTask id Task.start)).Knotted ring :=
      (started.onOther other _).unstirred (.ofTasks rfl rfl rfl rfl)
    have begins := counted.unstirred (.ofNoted same)
    have ends := exec [.item task.counter] statement _ (begins.enteringTask other task)
    exact (Interpreter.stepEnding_ties other begins ends).after (by rw [same.scheduler]; rfl)

theorem stepReady_ties {id : TaskId} (other : ¬ ring id) {session : Session}
    (knotted : session.Knotted ring) : (interpreter.stepReady id session).Ties ring session := by
  have ticked : session.ticked.Knotted ring := knotted.unstirred (.ofTasks rfl rfl rfl rfl)
  have awake := ticked.onOther other Interpreter.woken
  apply interpreter.stepReady_elim (motive := Outcome.Ties ring session)
  · exact fun _ => ⟨ticked, rfl⟩
  · intro _ _ _ after noted
    have ended : (Interpreter.expiring id session.ticked).Knotted ring :=
      (ticked.onOther other _).unstirred (.ofTasks rfl rfl rfl rfl)
    exact ⟨⟨ended.unstirred (.ofNoted noted), by rw [noted.scheduler]; rfl⟩, trivial⟩
  · exact fun _ _ _ _ => ⟨ticked.unstirred (.ofTasks rfl rfl rfl rfl), rfl⟩
  · intro _ _ _ _ _
    have ended := awake.onOther other (Task.complete .void)
    refine ⟨⟨ended, rfl⟩, fun after noted => ⟨?_, trivial⟩⟩
    exact ⟨ended.unstirred (.ofNoted noted), by rw [noted.scheduler]; rfl⟩
  · exact fun _ _ _ _ _ => (runStatement_ties exec other awake _).after rfl

theorem step_ties {id : TaskId} (other : ¬ ring id) {session : Session}
    (knotted : session.Knotted ring) : (interpreter.step id session).Ties ring session := by
  apply interpreter.step_elim (motive := Outcome.Ties ring session)
  · exact fun _ => ⟨knotted, rfl⟩
  · intro _ _ _ _ _ _ after noted
    have counted : (Interpreter.blocking session).Knotted ring :=
      knotted.unstirred (.ofTasks rfl rfl rfl rfl)
    exact ⟨⟨counted.unstirred (.ofNoted noted), by rw [noted.scheduler]; rfl⟩, trivial⟩
  · exact fun _ _ _ _ => stepReady_ties exec other knotted
  · exact fun _ _ _ _ _ _ => (stepReady_ties exec other (knotted.onOther other _)).after rfl

theorem cycle_ties (finalize : ∀ id, (Act.finalize id).Ties ring) :
    interpreter.cycle.Ties ring := by
  intro session knotted
  have back {id : TaskId} {remaining : Scheduler} {front left after : Session} {first last : Event}
      (taken : session.scheduler.dequeue? = some (id, remaining))
      (noted : { session with scheduler := remaining }.Noted first front)
      (same : front.Unstirred left) (ended : (Interpreter.requeueing id left).Noted last after) :
      after.Knotted ring ∧ after.scheduler.active = session.scheduler.active := by
    have kept := (Session.Unstirred.putBack taken noted same).trans (.ofNoted ended)
    exact ⟨knotted.unstirred kept, kept.active⟩
  -- A step of a task of the ring ends in one way; that of any other finds the ring knotted.
  have stepped {id : TaskId} {remaining : Scheduler} {front : Session} {event : Event}
      (taken : session.scheduler.dequeue? = some (id, remaining))
      (idle : remaining.isActive id = false)
      (noted : { session with scheduler := remaining }.Noted event front) :
      (interpreter.step id front).Ties ring session ∨
        (∃ left, interpreter.step id front = .done .blocked left ∧ front.Unstirred left) ∨
          ∃ moment, interpreter.step id front = .halted moment := by
    obtain ⟨rest, _, rfl⟩ := Scheduler.dequeue?_eq_some taken
    by_cases member : ring id
    · refine .inr (knotted.step_blocked member (of_decide_eq_false idle) ?_ interpreter)
      rw [noted.scheduler]
    · refine .inl ((step_ties exec member (knotted.popped member taken noted)).after ?_)
      rw [noted.scheduler]
  apply interpreter.cycle_elim (motive := Outcome.Ties ring session)
  case empty => exact fun _ => ⟨knotted, rfl⟩
  case cut => exact fun _ _ _ _ _ => trivial
  case active =>
    intro id remaining taken _ front noted after ended
    have rotated := back taken noted (.refl front) ended
    exact ⟨trivial, rotated, rotated⟩
  case halted => exact fun _ _ _ _ _ _ _ _ => trivial
  case raised =>
    intro id remaining taken idle front noted signal left run
    rcases stepped taken idle noted with ends | ⟨_, other, _⟩ | ⟨_, other⟩
    · rw [run] at ends
      exact ends
    · rw [run] at other
      cases other
    · rw [run] at other
      cases other
  case finished =>
    intro id remaining taken idle front noted left run after _
    rcases stepped taken idle noted with ends | ⟨_, other, _⟩ | ⟨_, other⟩
    · rw [run] at ends
      have publishes := (finalize id left ends.1).after ends.2
      refine ⟨fun _ => trivial, fun ended => ?_⟩
      rw [ended] at publishes
      exact publishes
    · rw [run] at other
      cases other
    · rw [run] at other
      cases other
  case unfinished =>
    intro id remaining taken idle front noted status left _ run after ended
    refine ⟨trivial, ?_⟩
    rcases stepped taken idle noted with ends | ⟨_, other, same⟩ | ⟨_, other⟩
    · rw [run] at ends
      have kept := (Session.Unstirred.requeueing id left).trans (.ofNoted ended)
      exact ⟨ends.1.unstirred kept, kept.active.trans ends.2⟩
    · rw [run] at other
      cases other
      exact back taken noted same ended
    · rw [run] at other
      cases other

end Turns

/-- Whatever an interpreter does, a ring stays knotted. -/
theorem Woven.ties {grade : Grade} {action : Act α} (woven : Woven grade action)
    (ring : TaskId → Prop) : action.Ties ring := by
  induction woven with
  | halt => exact .halt
  | pure value => exact .pure value
  | raise signal => exact .raise signal
  | moment => exact .moment
  | read view => exact .read view
  | note event _ => exact .note event
  | write writes => exact .update fun _ => .ofTasks rfl rfl rfl rfl
  | print line => exact .update fun _ => .ofTasks rfl rfl rfl rfl
  | positions change => exact .update fun _ => .ofTasks rfl rfl rfl rfl
  | idle swept => exact .idle swept
  | register _ => exact .register _
  | publish id receiver =>
      apply Act.Ties.onTask
      exact fun _ => ⟨rfl, rfl⟩
  | count change => exact .update fun _ => .ofTasks rfl rfl rfl rfl
  | modifySite site _ => exact .update (.modifySite site _)
  | sleepTask id millis => exact .sleepTask id millis
  | setTimeout id millis => exact .setTimeout id millis
  | bindFuture id site =>
      apply Act.Ties.onTask
      exact fun _ => ⟨rfl, rfl⟩
  | bind _ _ head tail => exact .bind head tail
  | attempt _ inner => exact .attempt inner
  | lift _ inner => exact inner
  | cycle _ _ finalize exec => exact cycle_ties exec finalize
  | calling name _ _ inner => exact .calling name _ inner
  | @awaiting depth id _ inner =>
      intro session knotted
      rcases (interpreter depth).awaitUnfinished_cases id session with run | ⟨_, run⟩
      · rw [run]
        exact ⟨knotted, rfl⟩
      · rw [run]
        exact Act.Ties.awaiting id inner session knotted

/-! ### Drives -/

section Drives

variable {ring : TaskId → Prop} {session : Session} {target : TaskId}

/-- A drive that comes to its end leaves everything in the queue in steps, so that a ring with a
task in none is not where a drive ends. -/
theorem drive_ends_in_steps (knotted : session.Knotted ring) (member : ring target) {depth : Nat}
    {after : Session} (ended : (interpreter depth).runUntilComplete target session = .done () after)
    {id : TaskId} (inside : ring id) : id ∈ session.scheduler.active := by
  have ties := ((interpreter_woven depth).runUntilComplete target).ties ring session knotted
  have meets := (interpreter depth).runUntilComplete_meets target session
  rw [ended] at ties meets
  obtain ⟨still, active⟩ := ties
  obtain ⟨task, known, unfinished⟩ := still.unfinished target member
  rcases meets with finished | stuck
  · rw [Scheduler.isFinished_eq_false known unfinished] at finished
    cases finished
  · rw [← active]
    by_cases idle : id ∈ after.scheduler.active
    · exact idle
    · have running := List.all_eq_true.mp stuck id (still.queued id inside idle)
      exact of_decide_eq_true running

theorem cycle_stuck (running : ∀ id ∈ session.scheduler.queue.ids, id ∈ session.scheduler.active)
    (unlimited : session.budget = none) (interpreter : Interpreter) :
    ∃ after, interpreter.cycle session = .done none after ∧
      after.scheduler.tasks = session.scheduler.tasks ∧ after.budget = none := by
  cases ids : session.scheduler.queue.ids with
  | nil => exact ⟨session, interpreter.cycle_empty ids, rfl, unlimited⟩
  | cons id rest =>
      rw [ids] at running
      have front : session.scheduler.dequeue? =
          some (id, { session.scheduler with queue := ⟨rest⟩ }) := Scheduler.dequeue?_cons ids
      have inside : ({ session.scheduler with queue := ⟨rest⟩ } : Scheduler).isActive id = true :=
        decide_eq_true (running id List.mem_cons_self)
      let popped : Session :=
        { session with scheduler := { session.scheduler with queue := ⟨rest⟩ } }
      let back := Interpreter.requeueing id (popped.recorded (.dequeued id))
      have taken := @Act.note_unlimited popped unlimited (.dequeued id)
      have rotated : Interpreter.requeue id (popped.recorded (.dequeued id)) =
          .done () (back.recorded (.requeued id)) :=
        @Act.note_unlimited back unlimited (.requeued id)
      have stuck : (back.recorded (.requeued id)).scheduler.onlyActiveQueued = true := by
        apply List.all_eq_true.mpr
        intro other member
        apply decide_eq_true
        rcases List.mem_append.mp member with later | same
        · exact running other (List.mem_cons_of_mem id later)
        · cases List.mem_singleton.mp same
          exact running id List.mem_cons_self
      refine ⟨back.recorded (.requeued id), ?_, rfl, unlimited⟩
      rw [Interpreter.cycle, Act.scheduler_bind, front]
      dsimp only
      rw [Act.updateScheduler_bind, Act.bind_apply, taken]
      dsimp only
      rw [if_pos inside, Act.bind_apply, rotated]
      dsimp only
      rw [Act.scheduler_bind, if_pos stuck]
      rfl

/-- A drive towards a task of a ring comes to its end only from inside the steps of all tasks of the
ring: one that is in no step is still queued, and no turn of anybody lets it run. When nothing is
queued but tasks in steps the drive ends at once, with the task unfinished. -/
theorem wait_cycle_ends_only_in_steps (knotted : session.Knotted ring) (member : ring target) :
    (∀ depth after, (interpreter depth).runUntilComplete target session = .done () after →
      ∀ id, ring id → id ∈ session.scheduler.active) ∧
    ((∀ id ∈ session.scheduler.queue.ids, id ∈ session.scheduler.active) →
      session.budget = none → ∀ depth,
        ∃ after, (interpreter (depth + 2)).runUntilComplete target session = .done () after ∧
          after.scheduler.isFinished target = false) := by
  refine ⟨fun depth after ended id inside => drive_ends_in_steps knotted member ended inside, ?_⟩
  intro running unlimited depth
  obtain ⟨task, known, unfinished⟩ := knotted.unfinished target member
  have before : session.scheduler.isFinished target = false :=
    Scheduler.isFinished_eq_false known unfinished
  obtain ⟨after, ran, tasks, still⟩ := cycle_stuck running unlimited (interpreter (depth + 2))
  have later : after.scheduler.isFinished target = false := by
    have found : after.scheduler.task? target = some task := by
      unfold Scheduler.task? at known ⊢
      rw [tasks, known]
    exact Scheduler.isFinished_eq_false found unfinished
  refine ⟨after.recorded (.unfinished target), ?_, later⟩
  have turned : (interpreter (depth + 2)).turnUntil target [] session = .done none after := by
    rw [Interpreter.turnUntil, Act.scheduler_bind, before, if_neg Bool.false_ne_true,
      Interpreter.turn, Act.bind_apply, ran]
    rfl
  have driven : Act.iterate (interpreter (depth + 2)).turns
      ((interpreter (depth + 2)).turnUntil target) [] session = .done () after := by
    change Act.iterate (depth + 1) _ [] session = _
    rw [Act.iterate, turned]
  unfold Interpreter.runUntilComplete
  refine (Act.bind_apply _ _ session).trans ?_
  rw [driven]
  dsimp only
  rw [Act.scheduler_bind, later, if_neg Bool.false_ne_true]
  exact Act.note_unlimited still (.unfinished target)

end Drives

/-- The session in which two tasks wait for each other. -/
def lockedPair : Session :=
  let first := ((interpreter 0).request (.register .timer .timer) (.start {} 0)).session
  let second := ((interpreter 0).request (.register .timer .timer) first).session
  let waits := ((interpreter 0).request (.waitOn ⟨0⟩ ⟨1⟩) second).session
  ((interpreter 0).request (.waitOn ⟨1⟩ ⟨0⟩) waits).session

theorem lockedPair_reachable : lockedPair.Reachable :=
  ((((Session.Reachable.start {} 0).requested rfl 0 (.register .timer .timer)).requested rfl 0
    (.register .timer .timer)).requested rfl 0 (.waitOn ⟨0⟩ ⟨1⟩)).requested rfl 0 (.waitOn ⟨1⟩ ⟨0⟩)

theorem lockedPair_knotted : lockedPair.Knotted fun id => id = ⟨0⟩ ∨ id = ⟨1⟩ := by
  constructor
  · rintro id (rfl | rfl)
    · exact ⟨_, rfl, rfl⟩
    · exact ⟨_, rfl, rfl⟩
  · rintro id (rfl | rfl) _
    · exact ⟨⟨1⟩, rfl, .inr rfl⟩
    · exact ⟨⟨0⟩, rfl, .inl rfl⟩
  · rintro id (rfl | rfl) _
    · exact List.mem_cons_self
    · exact List.mem_cons_of_mem _ List.mem_cons_self
  · intro id running
    cases running

theorem wait_cycle_ends_only_in_steps_lockedPair :
    lockedPair.Knotted (fun id => id = ⟨0⟩ ∨ id = ⟨1⟩) ∧
      ∀ depth after, (interpreter depth).runUntilComplete ⟨0⟩ lockedPair ≠ .done () after := by
  refine ⟨lockedPair_knotted, fun depth after ended => ?_⟩
  have inside := (wait_cycle_ends_only_in_steps lockedPair_knotted (.inl rfl)).1 depth after ended
    ⟨0⟩ (.inl rfl)
  cases inside

/-- That nobody in the queue can ever run does not make a drive give up. -/
theorem not_wait_cycle_ends_drive :
    ¬ ∀ (session : Session) (ring : TaskId → Prop) (target : TaskId),
      session.Reachable → session.scheduler.active = [] → session.budget = none →
      session.Knotted ring → ring target → (∀ id ∈ session.scheduler.queue.ids, ring id) →
      ∃ depth after, (interpreter depth).runUntilComplete target session = .done () after ∧
        after.scheduler.isFinished target = false := by
  intro claimed
  have queued : ∀ id ∈ lockedPair.scheduler.queue.ids, id = ⟨0⟩ ∨ id = ⟨1⟩ := by
    intro id member
    change id ∈ [(⟨0⟩ : TaskId), ⟨1⟩] at member
    simpa using member
  obtain ⟨depth, after, ended, _⟩ := claimed lockedPair _ ⟨0⟩ lockedPair_reachable rfl rfl
    lockedPair_knotted (.inl rfl) queued
  have inside := drive_ends_in_steps lockedPair_knotted (.inl rfl) ended (.inl rfl)
  cases inside

end CooperativeTasks
