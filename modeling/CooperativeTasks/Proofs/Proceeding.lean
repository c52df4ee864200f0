import CooperativeTasks.Proofs.Bracketing
import CooperativeTasks.Proofs.Reachability
import CooperativeTasks.Proofs.Sites

set_option autoImplicit false

/-! What running code does to the books: the table of tasks, the queue, the statistics, the journal.

Every change to them is listed here once, with what is known where it is made. Some of them only
make sense together, such as finishing a task and publishing its results; a run that is halted may
have come to the first and not to the second. The list says which stretches of a run are whole in
this respect, so that what holds at every moment and what holds only once code has returned can both
be read off it. -/

namespace CooperativeTasks

variable {α β : Type}

/-- What the books say about a task. -/
structure Task.Entry where
  id : TaskId
  steps : Nat
  isFinished : Bool
  result : Option Value
  isPublished : Bool

def Task.entry (task : Task) : Task.Entry where
  id := task.id
  steps := task.steps
  isFinished := task.isFinished
  result := task.result
  isPublished := task.isPublished

theorem TaskMark.entry {change : Task → Task} (marks : TaskMark change) (task : Task) :
    (change task).entry = task.entry := by
  cases marks <;> rfl

theorem Task.entry_start (task : Task) : task.start.entry = task.entry := by
  unfold Task.start
  split <;> rfl

/-- How a step brings its task to its end, if it does. -/
inductive Session.Closes (id : TaskId) : Session → Session → Prop where
  | refl (session : Session) : Closes id session session
  | completed {session : Session} (idle : id ∉ session.scheduler.active)
      (unfinished : session.scheduler.Unfinished id) (payload : Value) :
      Closes id session (session.onTask id (Task.complete payload))
  | expired {session : Session} (idle : id ∉ session.scheduler.active)
      (unfinished : session.scheduler.Unfinished id) :
      Closes id session (Interpreter.expiring id session)
  | noted {before closed after : Session} (closes : Closes id before closed) {event : Event}
      (aside : event.isOfQueue = false) (noted : closed.Noted event after) : Closes id before after

/-- The task has results that have not been published. -/
def Session.Owes (id : TaskId) (session : Session) : Prop :=
  ∃ task, session.scheduler.task? id = some task ∧ task.isFinished = true ∧
    task.isPublished = false

/-- What running code makes of the books. The run is whole if everything that was begun in it has
come to its end. -/
inductive Session.Proceeds : Bool → Session → Session → Prop where
  | aside {whole : Bool} {before after : Session} (scheduler : after.scheduler = before.scheduler)
      (journal : after.journal = before.journal) : Proceeds whole before after
  | trans {whole whole' : Bool} {first second third : Session}
      (earlier : Proceeds whole first second) (later : Proceeds whole' second third) :
      Proceeds (whole && whole') first third
  | noted {event : Event} (aside : event.isOfQueue = false) {before after : Session}
      (noted : before.Noted event after) : Proceeds true before after
  | paused (session : Session) :
      Proceeds true session (session.counting fun statistics =>
        { statistics with idleBackoffs := statistics.idleBackoffs + 1 })
  | blocked (session : Session) : Proceeds true session (Interpreter.blocking session)
  | registered {task : Task} (fresh : task.Fresh) {autoYield : Bool} {session after : Session}
      (noted : (session.registering task).Noted
        (.registered session.scheduler.ids.next task.name autoYield) after) :
      Proceeds true session after
  | marked (id : TaskId) {change : Task → Task} (keeps : ∀ task, (change task).entry = task.entry)
      (session : Session) : Proceeds true session (session.onTask id change)
  | stepped {id : TaskId} {session : Session} (known : (session.scheduler.task? id).isSome = true) :
      Proceeds true session (Interpreter.announcing id session)
  | dequeued {id : TaskId} {remaining : Scheduler} {session after : Session}
      (front : session.scheduler.dequeue? = some (id, remaining))
      (noted : { session with scheduler := remaining }.Noted (.dequeued id) after) :
      Proceeds true session after
  /-- Nothing but the turn that has taken a task out of the queue puts it back. -/
  | requeued {id : TaskId} {remaining : Scheduler} {before popped left after : Session}
      (front : before.scheduler.dequeue? = some (id, remaining))
      (noted : { before with scheduler := remaining }.Noted (.dequeued id) popped)
      (inside : Proceeds true popped left)
      (back : (Interpreter.requeueing id left).Noted (.requeued id) after) :
      Proceeds true before after
  | entered {id : TaskId} {session : Session} (idle : id ∉ session.scheduler.active)
      (unfinished : session.scheduler.Unfinished id) (task : Task) :
      Proceeds false session (session.enteringTask id task)
  | left {id : TaskId} {task : Task} {before left : Session}
      (idle : id ∉ before.scheduler.active) (unfinished : before.scheduler.Unfinished id)
      (inside : Proceeds true (before.enteringTask id task) left)
      (kept : left.scheduler.active = id :: before.scheduler.active) :
      Proceeds true before (left.leavingTask id task before.executor)
  | closed {whole : Bool} {id : TaskId} {before after : Session} (closes : Closes id before after)
      (settled : whole = true → ¬ after.Owes id) : Proceeds whole before after
  | reported {id : TaskId} {session : Session} (owes : session.Owes id)
      (receiver : Option Receiver) : Proceeds false session (session.reporting id receiver)
  | finalized {id : TaskId} {receiver : Option Receiver} {before closed left after : Session}
      (closes : Closes id before closed) (owes : closed.Owes id)
      (inside : Proceeds true (closed.reporting id receiver) left)
      (noted : left.Noted (.finalized id) after) : Proceeds true before after

namespace Scheduler.Unfinished

variable {scheduler : Scheduler} {id : TaskId} (lives : scheduler.Unfinished id)

include lives

theorem modifyTask {change : Task → Task}
    (keeps : ∀ task, (change task).isFinished = task.isFinished) (other : TaskId) :
    (scheduler.modifyTask other change).Unfinished id := by
  obtain ⟨task, found, unfinished⟩ := lives
  by_cases same : id = other
  · subst other
    exact ⟨change task, by rw [task?_modifyTask_self, found]; rfl, (keeps task).trans unfinished⟩
  · exact ⟨task, (task?_modifyTask_of_ne same change scheduler).trans found, unfinished⟩

theorem register (task : Task) : (scheduler.register task).2.Unfinished id := by
  obtain ⟨known, found, unfinished⟩ := lives
  have bound : id.index < scheduler.tasks.length := (List.getElem?_eq_some_iff.mp found).1
  exact ⟨known, (task?_register_of_lt bound task).trans found, unfinished⟩

end Scheduler.Unfinished

namespace Session

namespace Proceeds

theorem refl {whole : Bool} (session : Session) : Proceeds whole session session :=
  .aside rfl rfl

theorem cut {whole : Bool} {before after : Session} (proceeds : Proceeds whole before after) :
    Proceeds false before after := by
  have shorter : Proceeds (whole && false) before after := .trans proceeds (.refl after)
  rw [Bool.and_false] at shorter
  exact shorter

theorem after {whole : Bool} {first second third : Session} (earlier : Proceeds true first second)
    (later : Proceeds whole second third) : Proceeds whole first third := by
  have both : Proceeds (true && whole) first third := .trans earlier later
  rw [Bool.true_and] at both
  exact both

theorem awaitedBy (waiter awaited : Option TaskId) (session : Session) :
    Proceeds true session (session.awaitedBy waiter awaited) := by
  cases waiter with
  | none => exact .refl session
  | some waiter => exact .marked waiter (TaskMark.wait awaited).entry session

theorem modifySite (site : BindingSite) (change : Scope → Scope) (session : Session) :
    Proceeds true session (session.modifySite site change) := by
  rcases modifySite_cases site change session with
    ⟨scopes, _, same⟩ | ⟨_, owner, scope, _, _, _, same⟩ | ⟨_, same⟩
  · rw [same]
    exact .aside rfl rfl
  · rw [same]
    apply marked
    intro task
    rfl
  · rw [same]
    exact .refl session

end Proceeds

/-! ### Running tasks stay as they are -/

theorem Closes.active {id : TaskId} {before after : Session} (closes : before.Closes id after) :
    after.scheduler.active = before.scheduler.active := by
  induction closes with
  | refl => rfl
  | completed idle unfinished payload => rfl
  | expired idle unfinished => rfl
  | noted _ _ noted ih =>
      rw [noted.scheduler]
      exact ih

theorem Closes.cut {id : TaskId} {before after : Session} (closes : before.Closes id after) :
    Proceeds false before after :=
  .closed closes nofun

theorem Closes.others {id : TaskId} {before after : Session} (closes : before.Closes id after)
    {other : TaskId} (different : other ≠ id) :
    after.scheduler.task? other = before.scheduler.task? other := by
  induction closes with
  | refl => rfl
  | completed idle unfinished payload => exact Scheduler.task?_modifyTask_of_ne different _ _
  | expired idle unfinished => exact Scheduler.task?_modifyTask_of_ne different _ _
  | noted _ _ noted ih =>
      rw [noted.scheduler]
      exact ih

theorem Closes.unfinished {id : TaskId} {before after : Session} (closes : before.Closes id after)
    {other : TaskId} (runs : other ∈ before.scheduler.active)
    (lives : before.scheduler.Unfinished other) : after.scheduler.Unfinished other := by
  obtain ⟨task, found, unfinished⟩ := lives
  have apart (idle : id ∉ before.scheduler.active) : other ≠ id := fun same => idle (same ▸ runs)
  induction closes with
  | refl => exact ⟨task, found, unfinished⟩
  | completed idle open' payload =>
      exact ⟨task, (Scheduler.task?_modifyTask_of_ne (apart idle) _ _).trans found, unfinished⟩
  | expired idle open' =>
      exact ⟨task, (Scheduler.task?_modifyTask_of_ne (apart idle) _ _).trans found, unfinished⟩
  | noted _ _ noted ih =>
      rw [noted.scheduler]
      exact ih

theorem Proceeds.active {whole : Bool} {before after : Session}
    (proceeds : Proceeds whole before after) :
    before.scheduler.active <:+ after.scheduler.active := by
  have popped {session after : Session} {id : TaskId} {remaining : Scheduler}
      (front : session.scheduler.dequeue? = some (id, remaining))
      (noted : { session with scheduler := remaining }.Noted (.dequeued id) after) :
      after.scheduler.active = session.scheduler.active := by
    obtain ⟨rest, _, rfl⟩ := Scheduler.dequeue?_eq_some front
    rw [noted.scheduler]
  have kept {first second : List TaskId} (same : second = first) : first <:+ second := by
    subst same
    exact List.suffix_rfl
  induction proceeds with
  | aside scheduler _ => exact kept (congrArg Scheduler.active scheduler)
  | trans _ _ earlier later => exact earlier.trans later
  | noted _ noted => exact kept (congrArg Scheduler.active noted.scheduler)
  | paused session => exact List.suffix_rfl
  | blocked session => exact List.suffix_rfl
  | registered fresh noted =>
      apply kept
      rw [noted.scheduler]
      rfl
  | marked id keeps session => exact List.suffix_rfl
  | stepped known => exact List.suffix_rfl
  | dequeued front noted => exact kept (popped front noted)
  | requeued front noted _ back inside =>
      rw [← popped front noted, back.scheduler]
      exact inside
  | entered idle unfinished task => exact List.suffix_cons _ _
  | left idle unfinished _ stack _ => exact kept (congrArg List.tail stack)
  | closed closes _ => exact kept closes.active
  | reported owes receiver => exact List.suffix_rfl
  | finalized closes owes _ noted inside =>
      rw [← closes.active, noted.scheduler]
      exact inside

theorem Proceeds.unfinished {whole : Bool} {before after : Session}
    (proceeds : Proceeds whole before after) {id : TaskId} (runs : id ∈ before.scheduler.active)
    (lives : before.scheduler.Unfinished id) : after.scheduler.Unfinished id := by
  induction proceeds with
  | aside scheduler _ =>
      rw [scheduler]
      exact lives
  | trans earlier _ first second => exact second (earlier.active.mem runs) (first runs lives)
  | noted _ noted =>
      rw [noted.scheduler]
      exact lives
  | paused session => exact lives
  | blocked session => exact lives
  | registered fresh noted =>
      rw [noted.scheduler]
      exact lives.register _
  | marked other keeps session =>
      exact lives.modifyTask (fun task => congrArg Task.Entry.isFinished (keeps task)) other
  | stepped known =>
      apply Scheduler.Unfinished.modifyTask lives
      exact fun _ => rfl
  | dequeued front noted =>
      obtain ⟨rest, _, rfl⟩ := Scheduler.dequeue?_eq_some front
      rw [noted.scheduler]
      exact lives
  | requeued front noted _ back inside =>
      obtain ⟨rest, _, rfl⟩ := Scheduler.dequeue?_eq_some front
      rw [noted.scheduler] at inside
      rw [back.scheduler]
      exact inside runs lives
  | entered idle unfinished task => exact lives
  | left idle unfinished _ kept inside => exact inside (List.mem_cons_of_mem _ runs) lives
  | closed closes _ => exact closes.unfinished runs lives
  | reported owes receiver =>
      apply Scheduler.Unfinished.modifyTask lives
      exact fun _ => rfl
  | finalized closes owes _ noted inside =>
      rw [noted.scheduler]
      refine inside (closes.active ▸ runs) ?_
      apply Scheduler.Unfinished.modifyTask (closes.unfinished runs lives)
      exact fun _ => rfl

end Session

theorem Move.proceeds {change : Session → Session} (moves : Move change) (session : Session) :
    session.Proceeds true (change session) := by
  cases moves with
  | record event aside => exact .noted aside ⟨rfl, rfl, rfl, rfl⟩
  | tick => exact .aside rfl rfl
  | pause nanos => exact .aside rfl rfl
  | countPause => exact .paused session
  | write writes => exact .aside rfl rfl
  | print line => exact .aside rfl rfl
  | mark id marks => exact .marked id marks.entry session

/-! ### Actions -/

/-- What the outcome leaves. A run that was halted need not be whole. -/
def Outcome.Proceeds (before : Session) : Outcome α → Prop
  | .done _ after => before.Proceeds true after
  | .raised _ after => before.Proceeds true after
  | .halted moment => before.Proceeds false moment

def Act.Proceeds (action : Act α) : Prop := ∀ session, (action session).Proceeds session

theorem Outcome.Proceeds.after {first second : Session} {outcome : Outcome α}
    (earlier : first.Proceeds true second) (later : outcome.Proceeds second) :
    outcome.Proceeds first := by
  cases outcome with
  | done value after => exact Session.Proceeds.after earlier later
  | raised signal after => exact Session.Proceeds.after earlier later
  | halted moment => exact Session.Proceeds.after earlier later

namespace Act.Proceeds

theorem pure (value : α) : (Pure.pure value : Act α).Proceeds :=
  fun session => Session.Proceeds.refl session

theorem raise (signal : Signal) : (Act.raise signal : Act α).Proceeds :=
  fun session => Session.Proceeds.refl session

theorem bind {first : Act α} {next : α → Act β} (head : first.Proceeds)
    (tail : ∀ value, (next value).Proceeds) : (first >>= next).Proceeds := by
  intro session
  have start := head session
  refine Act.bind_elim ?_ ?_ ?_
  · intro value after run
    rw [run] at start
    exact (tail value after).after start
  · intro signal after run
    rw [run] at start
    exact start
  · intro moment run
    rw [run] at start
    exact start

theorem attempt {action : Act α} (inner : action.Proceeds) : (Act.attempt action).Proceeds := by
  intro session
  have ended := inner session
  unfold Act.attempt
  generalize action session = outcome at ended ⊢
  cases outcome <;> exact ended

theorem read (view : Session → α) : (Act.read view).Proceeds :=
  fun session => Session.Proceeds.refl session

theorem update {change : Session → Session}
    (proceeds : ∀ session : Session, session.Proceeds true (change session)) :
    (Act.update change).Proceeds :=
  proceeds

theorem note {event : Event} (aside : event.isOfQueue = false) : (Act.note event).Proceeds := by
  intro session
  refine Act.note_elim ?_ ?_
  · intro after noted
    exact .noted aside noted
  · intro moment noted
    exact Session.Proceeds.cut (.noted aside noted)

theorem moment : Act.moment.Proceeds := by
  intro session
  unfold Act.moment
  split
  · exact Session.Proceeds.refl session
  · exact Session.Proceeds.refl session
  · exact Session.Proceeds.aside rfl rfl

theorem register {task : Task} (fresh : task.Fresh) : (Act.register task).Proceeds := by
  intro session
  refine Act.register_elim fun autoYield after noted => ?_
  have registered : session.Proceeds true after := .registered fresh noted
  exact ⟨registered, registered.cut⟩

theorem reports (id : TaskId) : Act.ReportsClosed id Act.Proceeds where
  pure := pure ()
  bind head tail := bind head fun _ => tail
  target _ _ tail := bind (read _) tail
  modifySite site change _ := update fun session => .modifySite site change session
  futureSiteGone _ := note rfl
  receiverSiteGone _ := note rfl

end Act.Proceeds

/-- A task that owes its results is marked, reports its future and its instance, and is recorded.
Nothing is done for any other. -/
theorem Act.finalize_cases (id : TaskId) (session : Session) :
    (¬ session.Owes id ∧ finalize id session = .done () session) ∨
    session.Owes id ∧ ∃ (receiver : Option Receiver) (future back : Act Unit),
      future.Proceeds ∧ back.Proceeds ∧
      finalize id session =
        (do
          future
          back
          note (.finalized id) : Act Unit) (session.reporting id receiver) := by
  by_cases owes : session.Owes id
  · obtain ⟨task, found, finished, unpublished⟩ := owes
    refine .inr ⟨⟨task, found, finished, unpublished⟩, _, _, _, ?_, ?_,
      finalize_ready found finished unpublished⟩
    · exact (Proceeds.reports id).reportFuture _ _
    · exact (Proceeds.reports id).reportInstance task
  · refine .inl ⟨owes, finalize_unready fun task found => ?_⟩
    cases finished : task.isFinished with
    | false => exact .inl rfl
    | true =>
        cases published : task.isPublished with
        | true => exact .inr rfl
        | false => exact absurd ⟨task, found, finished, published⟩ owes

theorem Session.Closes.finalize {id : TaskId} {before closed : Session}
    (closes : before.Closes id closed) : (Act.finalize id closed).Proceeds before := by
  rcases Act.finalize_cases id closed with
    ⟨settled, ended⟩ | ⟨owes, receiver, future, back, first, second, ended⟩
  · rw [ended]
    exact .closed closes fun _ => settled
  · have calm (signal : Signal) (after : Session) :
        Act.finalize id closed ≠ .raised signal after := by
      intro impossible
      obtain ⟨_, _, done | halted⟩ := Act.Publishes.finalize id closed
      · rw [done] at impossible
        cases impossible
      · rw [halted] at impossible
        cases impossible
    have begun : before.Proceeds false (closed.reporting id receiver) :=
      .trans closes.cut (.reported owes receiver)
    rw [ended] at calm ⊢
    have reported := Act.Proceeds.bind first (fun _ => second) (closed.reporting id receiver)
    rw [← Act.bind_assoc] at calm ⊢
    revert calm
    refine Act.bind_elim (motive := fun outcome =>
      (∀ signal after, outcome ≠ .raised signal after) → outcome.Proceeds before) ?_ ?_ ?_
    · intro _ left run _
      rw [run] at reported
      refine Act.note_elim ?_ ?_
      · intro after noted
        exact .finalized closes owes reported noted
      · intro moment noted
        exact Session.Proceeds.cut (.finalized closes owes reported noted)
    · intro signal after _ calm
      exact absurd rfl (calm signal after)
    · intro moment run _
      rw [run] at reported
      exact .trans begun reported

namespace Act.Proceeds

theorem finalize (id : TaskId) : (Act.finalize id).Proceeds :=
  fun session => (Session.Closes.refl session).finalize

theorem calling (name : String) (scope : Scope) {body : Act Unit} (inner : body.Proceeds) :
    (Act.calling name scope body).Proceeds := by
  intro session
  refine Act.calling_elim ?_ ?_ ?_
  · intro _
    exact Session.Proceeds.refl session
  · intro _ moment noted
    exact Session.Proceeds.cut (.noted rfl noted)
  · intro _ noted same
    have enters : session.Proceeds true (noted.enteringCall scope) :=
      .after (.noted rfl same) (.aside rfl rfl)
    have inside := (inner (noted.enteringCall scope)).after enters
    have leaves (left : Session) : left.Proceeds true (left.leavingCall session.executor) :=
      .aside rfl rfl
    generalize body (noted.enteringCall scope) = outcome at inside ⊢
    cases outcome with
    | done value left => exact Session.Proceeds.after inside (leaves left)
    | raised signal left => cases signal <;> exact Session.Proceeds.after inside (leaves left)
    | halted moment => exact inside

theorem awaiting (id : TaskId) {drive : Act Unit} (inner : drive.Proceeds) :
    (Act.awaiting id drive).Proceeds := by
  intro session
  have begin {noted : Session}
      (same : session.Noted (.awaiting id session.executor.currentTask) noted) :
      session.Proceeds true (noted.awaitedBy session.executor.currentTask (some id)) :=
    .after (.noted rfl same) (.awaitedBy ..)
  have finish {left after : Session}
      (ended : (left.awaitedBy session.executor.currentTask none).Noted
        (.awaitEnded id session.executor.currentTask) after) : left.Proceeds true after :=
    .after (.awaitedBy ..) (.noted rfl ended)
  refine Act.awaiting_elim ?_ ?_ ?_ ?_
  · intro moment noted
    exact Session.Proceeds.cut (.noted rfl noted)
  · intro noted same moment run
    have driven := inner (noted.awaitedBy session.executor.currentTask (some id))
    rw [run] at driven
    exact driven.after (begin same)
  · intro noted same left run after ended
    have driven := inner (noted.awaitedBy session.executor.currentTask (some id))
    rw [run] at driven
    have whole := ((begin same).after driven).after (finish ended)
    exact ⟨whole, whole.cut⟩
  · intro noted same signal left run after ended
    have driven := inner (noted.awaitedBy session.executor.currentTask (some id))
    rw [run] at driven
    have whole := ((begin same).after driven).after (finish ended)
    exact ⟨whole, whole.cut⟩

end Act.Proceeds

/-! ### Steps and turns -/

/-- What a step of a task leaves. If the task is done, all that is missing is that it is
finalized. -/
def Outcome.Steps (id : TaskId) (before : Session) : Outcome StepStatus → Prop
  | .done .done after => ∃ last, before.Proceeds true last ∧ last.Closes id after
  | outcome => outcome.Proceeds before

theorem Outcome.Steps.after {id : TaskId} {first second : Session} {outcome : Outcome StepStatus}
    (earlier : first.Proceeds true second) (later : outcome.Steps id second) :
    outcome.Steps id first := by
  cases outcome with
  | done status after =>
      cases status with
      | done =>
          obtain ⟨last, proceeds, closes⟩ := later
          exact ⟨last, earlier.after proceeds, closes⟩
      | pending => exact Session.Proceeds.after earlier later
      | blocked => exact Session.Proceeds.after earlier later
  | raised signal after => exact Session.Proceeds.after earlier later
  | halted moment => exact Session.Proceeds.after earlier later

theorem Outcome.Steps.closing {id : TaskId} {before last after : Session}
    (proceeds : before.Proceeds true last) (closes : last.Closes id after) :
    (Outcome.done .done after).Steps id before ∧ (Outcome.halted after).Steps id before :=
  ⟨⟨last, proceeds, closes⟩, proceeds.after closes.cut⟩

section Turns

variable {interpreter : Interpreter}
  (proceeds : ∀ path statement, (interpreter.exec path statement).Proceeds)
  (brackets : ∀ path statement, (interpreter.exec path statement).Brackets .statement)

include proceeds brackets

theorem stepping_proceeds {id : TaskId} {session : Session}
    (idle : id ∉ session.scheduler.active) (lives : session.scheduler.Unfinished id) (task : Task)
    (statement : Stmt) : (interpreter.stepping id task statement session).Steps id session := by
  have inside := proceeds [.item task.counter] statement (session.enteringTask id task)
  have kept := brackets [.item task.counter] statement (session.enteringTask id task)
  have leaves {left : Session} (inside : (session.enteringTask id task).Proceeds true left)
      (kept : (session.enteringTask id task).Kept .statement left) :
      session.Proceeds true (left.leavingTask id task session.executor) ∧
        id ∉ (left.leavingTask id task session.executor).scheduler.active ∧
        left.scheduler.Unfinished id := by
    refine ⟨.left idle lives inside kept.active, ?_, inside.unfinished List.mem_cons_self lives⟩
    rw [(Session.Kept.leavingTask kept).active]
    exact idle
  -- The task puts its scope aside, which the books do not show, and may then be completed.
  have rests {left : Session} {change : Task → Task}
      (inside : (session.enteringTask id task).Proceeds true left)
      (kept : (session.enteringTask id task).Kept .statement left)
      (keeps : ∀ task, (change task).entry = task.entry) :
      session.Proceeds true ((left.leavingTask id task session.executor).onTask id change) :=
    (leaves inside kept).1.after (.marked id keeps _)
  have completes {left : Session} {change : Task → Task} (payload : Value)
      (inside : (session.enteringTask id task).Proceeds true left)
      (kept : (session.enteringTask id task).Kept .statement left)
      (keeps : ∀ task, (change task).entry = task.entry) :
      ((left.leavingTask id task session.executor).onTask id change).Closes id
        (((left.leavingTask id task session.executor).onTask id change).onTask id
          (Task.complete payload)) := by
    obtain ⟨_, aside, unfinished⟩ := leaves inside kept
    refine .completed (by exact aside) ?_ payload
    apply Scheduler.Unfinished.modifyTask
    · exact unfinished
    · exact fun task => congrArg Task.Entry.isFinished (keeps task)
  unfold Interpreter.stepping
  generalize interpreter.exec [.item task.counter] statement (session.enteringTask id task) =
    outcome at inside kept ⊢
  cases outcome with
  | halted moment => exact .trans (.entered idle lives task) inside
  | done value left =>
      unfold Interpreter.stepEnding
      dsimp only
      split
      · refine ⟨_, rests inside kept ?_, completes .void inside kept ?_⟩
        · exact fun _ => rfl
        · exact fun _ => rfl
      · refine rests inside kept ?_
        exact fun _ => rfl
  | raised signal left =>
      cases signal with
      | suspend fromLoop =>
          refine rests inside kept ?_
          exact fun _ => rfl
      | returning value =>
          refine ⟨_, rests inside kept ?_, completes value inside kept ?_⟩
          · exact fun _ => rfl
          · exact fun _ => rfl
      | breakLoop => exact (leaves inside kept).1
      | continueLoop => exact (leaves inside kept).1
      | fault cause => exact (leaves inside kept).1

theorem runStatement_proceeds {id : TaskId} (reading : Nat) {session : Session}
    (idle : id ∉ session.scheduler.active) (lives : session.scheduler.Unfinished id) :
    (interpreter.runStatement id reading session).Steps id session := by
  have start : session.Proceeds true (session.onTask id Task.start) :=
    .marked id Task.entry_start session
  have living : (session.onTask id Task.start).scheduler.Unfinished id :=
    lives.modifyTask (fun task => congrArg Task.Entry.isFinished task.entry_start) id
  have announced {task : Task}
      (found : (session.onTask id Task.start).scheduler.task? id = some task) :
      session.Proceeds true (Interpreter.announcing id (session.onTask id Task.start)) :=
    start.after (.stepped (by rw [found]; rfl))
  refine interpreter.runStatement_elim ?_ ?_ ?_ ?_
  · intro _
    exact ⟨_, start, .refl _⟩
  · intro task _ _
    exact ⟨_, start, .completed (by exact idle) living .void⟩
  · intro task found moment noted
    exact Session.Proceeds.cut ((announced found).after (.noted rfl noted))
  · intro task found statement _ noted same
    refine (stepping_proceeds proceeds brackets ?_ ?_ task statement).after
      ((announced found).after (.noted rfl same))
    · rw [same.scheduler]
      exact idle
    · rw [same.scheduler]
      apply Scheduler.Unfinished.modifyTask living
      exact fun _ => rfl

theorem stepReady_proceeds {id : TaskId} {session : Session}
    (idle : id ∉ session.scheduler.active) (lives : session.scheduler.Unfinished id) :
    (interpreter.stepReady id session).Steps id session := by
  have tick : session.Proceeds true session.ticked := .aside rfl rfl
  have wakes (task : Task) : (Interpreter.woken task).entry = task.entry := rfl
  have wake : session.Proceeds true (session.ticked.onTask id Interpreter.woken) :=
    tick.after (.marked id wakes _)
  have living : (session.ticked.onTask id Interpreter.woken).scheduler.Unfinished id :=
    lives.modifyTask (fun task => congrArg Task.Entry.isFinished (wakes task)) id
  refine interpreter.stepReady_elim ?_ ?_ ?_ ?_ ?_
  · intro _
    exact ⟨_, tick, .refl _⟩
  · intro task _ _ after noted
    exact Outcome.Steps.closing tick (.noted (.expired (by exact idle) (by exact lives)) rfl noted)
  · intro task _ _ _
    exact tick.after (.blocked _)
  · intro task _ _ _ _
    have fired : (session.ticked.onTask id Interpreter.woken).Closes id
        ((session.ticked.onTask id Interpreter.woken).onTask id (Task.complete .void)) :=
      .completed (by exact idle) living .void
    exact ⟨⟨_, wake, fired⟩, fun after noted => Outcome.Steps.closing wake (.noted fired rfl noted)⟩
  · intro task _ _ _ _
    exact (runStatement_proceeds proceeds brackets _ (by exact idle) living).after wake

theorem step_proceeds {id : TaskId} {session : Session} (idle : id ∉ session.scheduler.active) :
    (interpreter.step id session).Steps id session := by
  refine interpreter.step_elim ?_ ?_ ?_ ?_
  · intro _
    exact ⟨session, .refl session, .refl session⟩
  · intro task _ _ awaited _ _ after noted
    have whole : session.Proceeds true after := .after (.blocked session) (.noted rfl noted)
    exact ⟨whole, whole.cut⟩
  · intro task found unfinished _
    exact stepReady_proceeds proceeds brackets idle ⟨task, found, unfinished⟩
  · intro task found unfinished awaited _ _
    have freed : session.Proceeds true (session.onTask id fun task => { task with waitingFor := none }) :=
      .awaitedBy (some id) none session
    refine (stepReady_proceeds proceeds brackets ?_ ?_).after freed
    · exact idle
    · apply Scheduler.Unfinished.modifyTask ⟨task, found, unfinished⟩
      exact fun _ => rfl

theorem cycle_proceeds : interpreter.cycle.Proceeds := by
  intro session
  have idle {id : TaskId} {remaining : Scheduler} {popped : Session}
      (noted : { session with scheduler := remaining }.Noted (.dequeued id) popped)
      (quiet : remaining.isActive id = false) : id ∉ popped.scheduler.active := by
    rw [noted.scheduler]
    exact of_decide_eq_false quiet
  refine interpreter.cycle_elim ?_ ?_ ?_ ?_ ?_ ?_ ?_
  · intro _
    exact Session.Proceeds.refl session
  · intro id remaining front moment noted
    exact Session.Proceeds.cut (.dequeued front noted)
  · intro id remaining front _ popped noted after back
    have whole : session.Proceeds true after := .requeued front noted (.refl popped) back
    exact ⟨whole.cut, whole, whole⟩
  · intro id remaining front quiet popped noted moment run
    have stepped := step_proceeds proceeds brackets (idle noted quiet)
    rw [run] at stepped
    exact Session.Proceeds.after (.dequeued front noted) stepped
  · intro id remaining front quiet popped noted signal left run
    have stepped := step_proceeds proceeds brackets (idle noted quiet)
    rw [run] at stepped
    exact Session.Proceeds.after (.dequeued front noted) stepped
  · intro id remaining front quiet popped noted left run after _
    have stepped := step_proceeds proceeds brackets (idle noted quiet)
    rw [run] at stepped
    obtain ⟨last, whole, closes⟩ := stepped
    have finalized := closes.finalize.after (Session.Proceeds.after (.dequeued front noted) whole)
    refine ⟨fun ended => ?_, fun ended => ?_⟩
    · rw [ended] at finalized
      exact finalized
    · rw [ended] at finalized
      exact finalized
  · intro id remaining front quiet popped noted status left unfinished run after back
    have stepped := step_proceeds proceeds brackets (idle noted quiet)
    rw [run] at stepped
    have inside : popped.Proceeds true left := by
      cases status with
      | done => exact absurd rfl unfinished
      | pending => exact stepped
      | blocked => exact stepped
    have whole : session.Proceeds true after := .requeued front noted inside back
    exact ⟨whole.cut, whole⟩

end Turns

/-- Wherever an action leads to, or is halted, it leads by the changes listed. -/
theorem Deepens.proceeds {layer : Layer} {shallow deep : Act α}
    (deepens : Deepens layer shallow deep) : deep.Proceeds := by
  induction deepens with
  | halt => exact fun session => Session.Proceeds.refl session
  | cut _ whole => exact whole
  | pure value => exact .pure value
  | fail cause => exact .raise _
  | raise signal => exact .raise signal
  | moment => exact .moment
  | read _ => exact .read _
  | move moves => exact moves.proceeds
  | positions change => exact .update fun session => .aside rfl rfl
  | register fresh => exact .register fresh
  | finalize id => exact .finalize id
  | bind _ _ head tail => exact .bind head tail
  | attempt _ _ _ inner tail => exact .bind (.attempt inner) tail
  | lift _ inner => exact inner
  | calling name _ _ inner => exact .calling name _ inner
  | awaiting id _ inner => exact .awaiting id inner
  | cycle exec inner => exact cycle_proceeds inner fun path statement => (exec path statement).brackets

theorem Act.Proceeds.load (program : Program) : (Act.load program).Proceeds := by
  refine .bind (.update fun session => .aside rfl rfl) fun _ => ?_
  exact .bind (.read _) fun _ => .note rfl

theorem runProgram_proceeds (depth : Nat) (program : Program) :
    ((interpreter depth).runProgram program).Proceeds := by
  rw [Interpreter.runProgram_eq]
  exact .bind (.load program) fun _ =>
    ((interpreter_deepens (Nat.le_refl depth)).related.runLoaded program).proceeds

/-! ### Reachable sessions -/

theorem Act.Proceeds.cut {action : Act α} (proceeds : action.Proceeds) (session : Session) :
    session.Proceeds false (action session).session := by
  have ended := proceeds session
  generalize action session = outcome at ended ⊢
  cases outcome with
  | done value after => exact Session.Proceeds.cut ended
  | raised signal after => exact Session.Proceeds.cut ended
  | halted moment => exact ended

theorem request_proceeds {session : Session} (idle : session.scheduler.active = []) (depth : Nat)
    (operation : Operation) :
    session.Proceeds false ((interpreter depth).request operation session).session := by
  have itself := interpreter_deepens (Nat.le_refl depth)
  rcases itself.request operation with ⟨program, rfl⟩ | ⟨id, rfl⟩ | ⟨id, site, rfl⟩ | deepens
  · exact (Act.Proceeds.load program).cut session
  · have stepped := step_proceeds (fun path statement => (itself.exec path statement).proceeds)
      (fun path statement => (itself.exec path statement).brackets)
      (show id ∉ session.scheduler.active by rw [idle]; exact List.not_mem_nil)
    refine Act.bind_elim (motive := fun outcome => session.Proceeds false outcome.session) ?_ ?_ ?_
    · intro status after run
      rw [run] at stepped
      cases status with
      | done =>
          obtain ⟨last, whole, closes⟩ := stepped
          exact whole.after closes.cut
      | pending => exact Session.Proceeds.cut stepped
      | blocked => exact Session.Proceeds.cut stepped
    · intro signal after run
      rw [run] at stepped
      exact Session.Proceeds.cut stepped
    · intro moment run
      rw [run] at stepped
      exact stepped
  · apply Session.Proceeds.cut
    apply Session.Proceeds.marked
    intro task
    rfl
  · exact deepens.proceeds.cut session

/-- What fresh sessions have, and all changes to the books keep, every reachable session has. -/
theorem Session.Reachable.upholds {invariant : Session → Prop}
    (start : ∀ settings tick, invariant (.start settings tick))
    (proceeds : ∀ before after : Session, before.Proceeds false after →
      invariant before → invariant after)
    {session : Session} (reachable : session.Reachable) : invariant session := by
  have itself (depth : Nat) := interpreter_deepens (Nat.le_refl depth)
  induction reachable with
  | start settings tick => exact start settings tick
  | @limited session _ budget ih => exact proceeds session _ (.aside rfl rfl) ih
  | @later session _ nanos ih => exact proceeds session _ (.aside rfl rfl) ih
  | @positioned session _ positions ih => exact proceeds session _ (.aside rfl rfl) ih
  | @globalSet session _ name value ih => exact proceeds session _ (.aside rfl rfl) ih
  | requested _ idle depth operation ih => exact proceeds _ _ (request_proceeds idle depth operation) ih
  | evaluated _ depth expr ih => exact proceeds _ _ (((itself depth).eval expr).proceeds.cut _) ih
  | executed _ depth path statement ih =>
      exact proceeds _ _ (((itself depth).exec path statement).proceeds.cut _) ih

end CooperativeTasks
